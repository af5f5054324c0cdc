import Telemetry.Pool

/-!
# Pools under a clock

A schedule is a pool with a clock that counts milliseconds. Calls to the pool take no time; workers
act only while time passes. While it passes, every free worker receives the oldest queued task at
once, and a task ends exactly its length after its start.

`Schedule.advanceTo` lets time pass, and `Schedule.wait` waits until no task is pending, but not for
ever.

A schedule lets its workers act in an order of its own. That the starts do not depend on it is shown
for a `Shift`, whose callers and workers act in any order.
-/

namespace Telemetry

/-- A task: how long it takes and how it ends. -/
structure Job where
  length : Nat
  ending : Ending
deriving DecidableEq, Inhabited

/-- A pool, its clock and the history of its tasks. -/
structure Schedule where
  pool : Pool
  now : Nat
  /-- The accepted tasks by number. -/
  jobs : List Job
  /-- When tasks started, by number; tasks start in the order of their numbers. -/
  starts : List Nat
  /-- The number and the end of the tasks that have ended, latest first. -/
  ends : List (Nat × Nat)
  /-- The most tasks that ran at one time. -/
  peak : Nat

namespace Schedule

/-- A fresh pool at time zero. -/
def create (concurrency : Nat) : Except PoolError Schedule :=
  (Pool.create concurrency).map fun pool => ⟨pool, 0, [], [], [], 0⟩

/-- A task is accepted. -/
def add (s : Schedule) (job : Job) : Except PoolError Schedule :=
  s.pool.add.map fun pool => { s with pool, jobs := s.jobs ++ [job] }

/-- The workers start. -/
def run (s : Schedule) (token : Nat) : Except PoolError Schedule :=
  (s.pool.run token).map fun pool => { s with pool }

/-- A token is cancelled. -/
def cancel (s : Schedule) (token : Nat) : Schedule := { s with pool := s.pool.cancel token }

/-- A task by its number. -/
def job (s : Schedule) (task : Nat) : Job := s.jobs.getD task ⟨0, .done⟩

/-- When a started task comes to its end. -/
def endOf (s : Schedule) (task : Nat) : Nat := s.starts.getD task 0 + (s.job task).length

/-- A free worker receives a task. -/
def take? (s : Schedule) : Option Schedule :=
  s.pool.take?.map fun pool =>
    { s with pool, starts := s.starts ++ [s.now], peak := max s.peak pool.busy.length }

/-- One task ends now and is counted off. -/
def complete (s : Schedule) (task : Nat) : Schedule :=
  match (s.pool.finish task (s.job task).ending).release? task with
  | some pool => { s with pool, ends := (task, s.now) :: s.ends }
  | none => s

/-- The end that comes first among the running tasks. -/
def nextEnd? (s : Schedule) : Option Nat := (s.pool.busy.map fun w => s.endOf w.task).min?

/-- The clock is set, and the tasks whose end has come are counted off. -/
def completeAt (s : Schedule) (time : Nat) : Schedule :=
  let ended := s.pool.busy.filter fun w => s.endOf w.task ≤ time
  ended.foldl (fun s w => s.complete w.task) { s with now := time }

/-- Free workers receive tasks, at most `count` of them. A task without length ends before the next
one is received. -/
def takeUpTo (s : Schedule) : (count : Nat) → Schedule
  | 0 => s
  | count + 1 =>
    match s.take? with
    | some t => (t.completeAt t.now).takeUpTo count
    | none => s

/-- Free workers receive tasks until there is no free worker or no task. -/
def takeAll (s : Schedule) : Schedule := s.takeUpTo s.pool.queue.length

/-- Time passes until `deadline`, in at most `rounds` rounds. A round lets free workers receive
tasks and goes on to the next end. -/
def advance (s : Schedule) (deadline : Nat) : (rounds : Nat) → Schedule
  | 0 => { s with now := max s.now deadline }
  | rounds + 1 =>
    match s.takeAll.nextEnd? with
    | some time =>
      if time ≤ deadline then (s.takeAll.completeAt time).advance deadline rounds
      else { s.takeAll with now := max s.now deadline }
    | none => { s.takeAll with now := max s.now deadline }

/-- Time passes until `deadline`. Every round but the last ends a task, so there are at most as many
rounds as pending tasks and one more. -/
def advanceTo (s : Schedule) (deadline : Nat) : Schedule := s.advance deadline (s.pool.pending + 1)

/-- The latest end so far, at least `time`. -/
def lastEnd (s : Schedule) (time : Nat) : Nat := s.ends.foldl (fun t e => max t e.2) time

/-- Waits until no task is pending, at most `limit` long; whether that was long enough comes with
the schedule afterwards. -/
def wait (s : Schedule) (limit : Nat) : Bool × Schedule :=
  if s.pool.pending = 0 then (true, s)
  else
    let t := s.advanceTo (s.now + limit)
    if t.pool.pending = 0 then (true, { t with now := t.lastEnd s.now }) else (false, t)

/-- When a task started and when it ended; `none` if it has not started. -/
def span? (s : Schedule) (task : Nat) : Option (Nat × Option Nat) :=
  (s.starts[task]?).map fun start => (start, (s.ends.find? fun e => e.1 = task).map (·.2))

/-- What may be done with a schedule. -/
inductive Action
  | add (job : Job)
  | run (token : Nat)
  | cancel (token : Nat)
  | sleep (length : Nat)
  | wait (limit : Nat)
deriving DecidableEq

/-- One action. A refused call changes nothing. -/
def act (s : Schedule) : Action → Schedule
  | .add job => (s.add job).toOption.getD s
  | .run token => (s.run token).toOption.getD s
  | .cancel token => s.cancel token
  | .sleep length => s.advanceTo (s.now + length)
  | .wait limit => (s.wait limit).2

/-- Actions one after another. -/
def play (s : Schedule) (actions : List Action) : Schedule := actions.foldl act s

end Schedule

end Telemetry

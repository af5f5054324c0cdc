/-!
# Worker pools

A pool runs queued tasks on a fixed number of workers. Tasks are numbered in the order in which they
are accepted, and this module says what can happen to them, without a clock: a task is accepted
(`add`), received by a free worker (`take?`), comes to its end (`finish`) and is counted off
(`release`). Each of these is one step of its own, so whatever holds after every step holds in every
order in which callers and workers may act.

Tasks may be accepted before the workers run. The first call of `run` starts them and names a token;
once that token is cancelled no task is accepted any more, but every accepted one is still worked
off. How a task ends makes no difference.
-/

namespace Telemetry

/-- Why a pool refuses. -/
inductive PoolError
  | invalidConcurrency
  | alreadyRunning
  | closed
deriving DecidableEq

/-- How a task ends. -/
inductive Ending
  | done
  | failed
  | panicked
deriving DecidableEq, Inhabited

/-- A task in the hands of a worker. -/
structure Work where
  task : Nat
  /-- How it ended, if it has ended and is not yet counted off. -/
  ending : Option Ending
deriving DecidableEq

/-- The state of a pool. -/
structure Pool where
  /-- The number of workers. -/
  concurrency : Nat
  /-- The number of accepted tasks; they are numbered below it. -/
  accepted : Nat
  /-- Accepted tasks that no worker has received, oldest first. -/
  queue : List Nat
  /-- The tasks in the hands of workers. -/
  busy : List Work
  /-- The tasks counted off, latest first. -/
  finished : List Nat
  /-- The counter that a waiting caller watches: it goes up with every accepted task and down with
  every one counted off. -/
  pending : Nat
  /-- The token of the accepted run. -/
  token : Option Nat
  /-- The tokens cancelled so far. -/
  cancelled : List Nat
deriving DecidableEq

namespace PoolError

/-- The wording of a pool error. -/
def message : PoolError → String
  | invalidConcurrency => "worker pool needs at least one worker"
  | alreadyRunning => "worker pool is already running"
  | closed => "worker pool is closed"

end PoolError

namespace Pool

/-- A pool without tasks, whose workers do not run yet. -/
def create (concurrency : Nat) : Except PoolError Pool :=
  if concurrency = 0 then .error .invalidConcurrency
  else .ok ⟨concurrency, 0, [], [], [], 0, none, []⟩

/-- The token of the accepted run is cancelled. -/
def isClosed (p : Pool) : Bool :=
  match p.token with
  | some token => p.cancelled.contains token
  | none => false

/-- A task is accepted, counted and queued. -/
def add (p : Pool) : Except PoolError Pool :=
  if p.isClosed then .error .closed
  else
    .ok { p with
      accepted := p.accepted + 1
      queue := p.queue ++ [p.accepted]
      pending := p.pending + 1 }

/-- The workers start; only the first call is accepted. -/
def run (p : Pool) (token : Nat) : Except PoolError Pool :=
  match p.token with
  | some _ => .error .alreadyRunning
  | none => .ok { p with token := some token }

/-- A token is cancelled. -/
def cancel (p : Pool) (token : Nat) : Pool := { p with cancelled := token :: p.cancelled }

/-- A free worker receives the oldest queued task. -/
def take? (p : Pool) : Option Pool :=
  match p.token, p.queue with
  | some _, task :: rest =>
    if p.busy.length < p.concurrency then
      some { p with queue := rest, busy := p.busy ++ [⟨task, none⟩] }
    else none
  | _, _ => none

/-- A task comes to its end. Its worker is not free yet. -/
def finish (p : Pool) (task : Nat) (ending : Ending) : Pool :=
  { p with
    busy := p.busy.map fun w => if w.task = task then { w with ending := some ending } else w }

/-- A task that has ended is counted off, and its worker is free. -/
def release? (p : Pool) (task : Nat) : Option Pool :=
  if p.busy.any fun w => w.task = task && w.ending.isSome then
    some { p with
      busy := p.busy.filter fun w => w.task ≠ task
      finished := task :: p.finished
      pending := p.pending - 1 }
  else none

/-- What may happen to a pool. -/
inductive Event
  | add
  | run (token : Nat)
  | cancel (token : Nat)
  | take
  | finish (task : Nat) (ending : Ending)
  | release (task : Nat)
deriving DecidableEq

/-- One event. A refused call, and an event that cannot happen, change nothing. -/
def step (p : Pool) : Event → Pool
  | .add => p.add.toOption.getD p
  | .run token => (p.run token).toOption.getD p
  | .cancel token => p.cancel token
  | .take => p.take?.getD p
  | .finish task ending => p.finish task ending
  | .release task => (p.release? task).getD p

/-- Events one after another. -/
def play (p : Pool) (events : List Event) : Pool := events.foldl step p

end Pool

end Telemetry

import Telemetry.Pool.Crew
import Telemetry.Pool.Schedule

/-!
# Crews under a clock

A shift is a crew with a clock that counts milliseconds. Callers, runs, closers and workers do their
steps in any order while no time passes. Time passes only when nobody has anything left to do: no
call and no run is on its way, no worker can go on by itself, and no task in the hands of a worker
has come to its end. A task comes to its end its length after its start, and in its own way.

`Shift.schedule` is what a schedule shows of a shift. `Schedule` computes one such history from a
script; a shift goes through any of them.
-/

namespace Telemetry

namespace Crew

/-- The pool that shows a crew. -/
def shown (p : Crew) : Pool where
  concurrency := p.concurrency
  accepted := p.accepted.length
  queue := p.queued
  busy := p.hands
  finished := p.finished.reverse
  pending := p.pending
  token := p.token
  cancelled := p.cancelled

/-- No worker can go on by itself; one with a task in its hands waits for the end of the task. -/
def isStill (p : Crew) : Bool :=
  (List.range p.workers.length).all fun worker =>
    p.lock worker = p && p.receive worker = p && p.countOff worker = p

end Crew

/-- A crew, its clock and the history of its tasks. -/
structure Shift where
  crew : Crew
  now : Nat
  /-- The tasks by number. -/
  job : Nat → Job
  /-- When the workers were started. -/
  began : Option Nat
  /-- When tasks were accepted, by number. -/
  arrivals : List Nat
  /-- When tasks started, by number. -/
  starts : List Nat
  /-- The number and the end of the tasks that have been counted off, latest first. -/
  ends : List (Nat × Nat)
  /-- The most tasks that were in hand at one time. -/
  peak : Nat

namespace Shift

/-- A shift of a fresh crew, at time zero. -/
def fresh (concurrency : Nat) (job : Nat → Job) : Shift :=
  ⟨Crew.fresh concurrency, 0, job, none, [], [], [], 0⟩

/-- When a started task comes to its end. -/
def endOf (s : Shift) (task : Nat) : Nat := s.starts.getD task 0 + (s.job task).length

/-- A task is ended neither before its time nor in another way than its own. -/
def allows (s : Shift) : Crew.Event → Bool
  | .finish worker ending =>
    match s.crew.workers[worker]? with
    | some (.busy ⟨task, _⟩) => s.endOf task ≤ s.now && ending = (s.job task).ending
    | _ => true
  | _ => true

/-- Somebody does a step, and what is new is noted with the time. -/
def act (s : Shift) (e : Crew.Event) : Shift :=
  let next := s.crew.step e
  let note (before after : List Nat) := (after.drop before.length).map fun _ => s.now
  { s with
    crew := next
    began := s.began.or (next.token.map fun _ => s.now)
    arrivals := s.arrivals ++ note s.crew.accepted next.accepted
    starts := s.starts ++ note s.crew.started next.started
    ends := (next.finished.drop s.crew.finished.length).reverse.map (·, s.now) ++ s.ends
    peak := max s.peak next.running.length }

/-- Nobody has anything left to do. -/
def rests (s : Shift) : Bool :=
  s.crew.call.isNone && s.crew.claimed = s.crew.token && s.crew.isStill &&
    s.crew.running.all fun task => s.now < s.endOf task

/-- What may happen in a shift. -/
inductive Event
  | act (e : Crew.Event)
  | tick
deriving DecidableEq

/-- One event; one that cannot happen changes nothing. -/
def step (s : Shift) : Event → Shift
  | .act e => if s.allows e then s.act e else s
  | .tick => if s.rests then { s with now := s.now + 1 } else s

/-- Events one after another. -/
def play (s : Shift) (events : List Event) : Shift := events.foldl step s

/-- What a schedule shows of a shift. -/
def schedule (s : Shift) : Schedule where
  pool := s.crew.shown
  now := s.now
  jobs := (List.range s.crew.accepted.length).map s.job
  starts := s.starts
  ends := s.ends
  peak := s.peak

/-- The accepted tasks, behind the times at which they were accepted. -/
def accepted (s : Shift) : List (Nat × Job) := s.arrivals.zip s.schedule.jobs

end Shift

end Telemetry

import Telemetry.Pool

/-!
# The workers of a pool

`Pool` takes a whole call for one step. A `Crew` is the same pool seen more closely: a call that
brings a task goes through several points while it holds the sender, a run first takes the receiver
and then starts the workers, and every worker is at a point of a loop of its own. Every access to
something shared is one step, so a list of events is one order in which callers and workers act, and
every order is such a list. An event that cannot happen changes nothing.

Tasks travel through a channel. Its sender is held by one call at a time. Once the token of the run
is cancelled the sender is taken away, by the next call or by a closer that waits for the
cancellation, whichever comes first. The receiver is held by one worker at a time.

A task is named by the call that brings it; calls are numbered in the order in which they come to
hold the sender.
-/

namespace Telemetry

/-- How far a call has come that holds the sender. -/
inductive AddPoint
  /-- It has not looked at the token. -/
  | entered
  /-- It has found the sender; its task is not counted. -/
  | admitted
  /-- Its task is counted and not sent. -/
  | counted
deriving DecidableEq

/-- A call that brings a task and holds the sender. -/
structure AddCall where
  task : Nat
  point : AddPoint
deriving DecidableEq

/-- A worker, at a point of its loop. -/
inductive Worker
  /-- It waits until it may hold the receiver. -/
  | idle
  /-- It holds the receiver and waits for a task. -/
  | receiving
  /-- It has a task in its hands, until it has counted it off. -/
  | busy (work : Work)
  /-- Its loop has ended. -/
  | stopped
deriving DecidableEq

/-- A pool at any moment. -/
structure Crew where
  /-- The number of workers. -/
  concurrency : Nat
  /-- The number of calls that have come to hold the sender. -/
  calls : Nat
  /-- The call that holds the sender. -/
  call : Option AddCall
  /-- The sender has not been taken away. -/
  hasSender : Bool
  /-- Tasks sent and not received, oldest first. -/
  channel : List Nat
  /-- The workers, none before they are started. -/
  workers : List Worker
  /-- The token of the run that has taken the receiver. -/
  claimed : Option Nat
  /-- The token that calls look at; it is set when the workers are started. -/
  token : Option Nat
  /-- The tokens cancelled so far. -/
  cancelled : List Nat
  /-- The counter that a waiting caller watches. -/
  pending : Nat
  /-- The tasks accepted so far, in this order. -/
  accepted : List Nat
  /-- The tasks refused so far, in this order. -/
  refused : List Nat
  /-- The tasks received by workers so far, in this order. -/
  started : List Nat
  /-- The tasks counted off so far, in this order. -/
  finished : List Nat
deriving DecidableEq

namespace Worker

/-- What a worker has in its hands. -/
def work? : Worker → Option Work
  | busy work => some work
  | _ => none

end Worker

namespace Crew

/-- A pool that nobody has called. -/
def fresh (concurrency : Nat) : Crew :=
  ⟨concurrency, 0, none, true, [], [], none, none, [], 0, [], [], [], []⟩

/-- A pool for a number of workers. -/
def create (concurrency : Nat) : Except PoolError Crew :=
  if concurrency = 0 then .error .invalidConcurrency else .ok (fresh concurrency)

/-- The token that calls look at is cancelled. -/
def isClosed (p : Crew) : Bool :=
  match p.token with
  | some token => p.cancelled.contains token
  | none => false

/-- Somebody can still receive: the workers are not started, or one of them has not stopped. -/
def hasReceiver (p : Crew) : Bool := p.workers.isEmpty || p.workers.any (· ≠ .stopped)

/-- What the workers have in their hands. -/
def hands (p : Crew) : List Work := p.workers.filterMap Worker.work?

/-- The tasks in the hands of the workers. -/
def running (p : Crew) : List Nat := p.hands.map Work.task

/-- The task of a call that has counted it and not sent it. -/
def sending (p : Crew) : List Nat :=
  match p.call with
  | some ⟨task, .counted⟩ => [task]
  | _ => []

/-- The task of a call that has not counted it. -/
def undecided (p : Crew) : List Nat :=
  match p.call with
  | some ⟨task, .entered⟩ => [task]
  | some ⟨task, .admitted⟩ => [task]
  | _ => []

/-- The accepted tasks that no worker has received, oldest first. -/
def queued (p : Crew) : List Nat := p.channel ++ p.sending

/-! ## Bringing a task -/

/-- A call comes to hold the sender. -/
def enter (p : Crew) : Crew :=
  match p.call with
  | none => { p with calls := p.calls + 1, call := some ⟨p.calls, .entered⟩ }
  | some _ => p

/-- The call looks at the token, and takes the sender away if it is cancelled. Without a sender the
task is refused. -/
def look (p : Crew) : Crew :=
  match p.call with
  | some ⟨task, .entered⟩ =>
    if p.hasSender && !p.isClosed then { p with call := some ⟨task, .admitted⟩ }
    else { p with hasSender := false, call := none, refused := p.refused ++ [task] }
  | _ => p

/-- The task is counted, and accepted. -/
def count (p : Crew) : Crew :=
  match p.call with
  | some ⟨task, .admitted⟩ =>
    { p with
      call := some ⟨task, .counted⟩
      pending := p.pending + 1
      accepted := p.accepted ++ [task] }
  | _ => p

/-- The task is sent. If nobody can receive it, it is taken back and refused. -/
def send (p : Crew) : Crew :=
  match p.call with
  | some ⟨task, .counted⟩ =>
    if p.hasReceiver then { p with call := none, channel := p.channel ++ [task] }
    else
      { p with
        call := none
        pending := p.pending - 1
        accepted := p.accepted.filter (· ≠ task)
        refused := p.refused ++ [task] }
  | _ => p

/-- What the call of a task has answered; `none` before it has answered. -/
def answer? (p : Crew) (task : Nat) : Option (Except PoolError Unit) :=
  if task ∈ p.refused then some (.error .closed)
  else if task ∈ p.accepted ∧ task ∉ p.sending then some (.ok ())
  else none

/-! ## Running and closing -/

/-- A run takes the receiver; only the first one finds it. -/
def claim (p : Crew) (token : Nat) : Except PoolError Crew :=
  match p.claimed with
  | some _ => .error .alreadyRunning
  | none => .ok { p with claimed := some token }

/-- The run that has taken the receiver sets its token and starts the workers. -/
def launch (p : Crew) : Crew :=
  match p.claimed, p.token with
  | some token, none =>
    { p with token := some token, workers := List.replicate p.concurrency .idle }
  | _, _ => p

/-- A token is cancelled. -/
def cancel (p : Crew) (token : Nat) : Crew := { p with cancelled := token :: p.cancelled }

/-- The closer takes the sender away, once the token is cancelled and no call holds it. -/
def close (p : Crew) : Crew :=
  if p.isClosed && p.call.isNone then { p with hasSender := false } else p

/-! ## Working -/

/-- The worker of a number goes on to another point. -/
def put (p : Crew) (worker : Nat) (point : Worker) : Crew :=
  { p with workers := p.workers.set worker point }

/-- A worker comes to hold the receiver, if no other one does. -/
def lock (p : Crew) (worker : Nat) : Crew :=
  match p.workers[worker]? with
  | some .idle => if p.workers.contains .receiving then p else p.put worker .receiving
  | _ => p

/-- A worker receives the oldest task and lets go of the receiver. If there is none and the sender
is gone, it stops. -/
def receive (p : Crew) (worker : Nat) : Crew :=
  match p.workers[worker]? with
  | some .receiving =>
    match p.channel with
    | task :: rest =>
      { p.put worker (.busy ⟨task, none⟩) with channel := rest, started := p.started ++ [task] }
    | [] => if p.hasSender then p else p.put worker .stopped
  | _ => p

/-- The task of a worker comes to its end, in any way. -/
def finish (p : Crew) (worker : Nat) (ending : Ending) : Crew :=
  match p.workers[worker]? with
  | some (.busy ⟨task, none⟩) => p.put worker (.busy ⟨task, some ending⟩)
  | _ => p

/-- A worker counts its task off and starts over. -/
def countOff (p : Crew) (worker : Nat) : Crew :=
  match p.workers[worker]? with
  | some (.busy ⟨task, some _⟩) =>
    { p.put worker .idle with pending := p.pending - 1, finished := p.finished ++ [task] }
  | _ => p

/-- Nothing is pending, so a waiting caller goes on. -/
def isDrained (p : Crew) : Bool := p.pending = 0

/-! ## Events -/

/-- What may happen to a pool. -/
inductive Event
  | enter
  | look
  | count
  | send
  | claim (token : Nat)
  | launch
  | cancel (token : Nat)
  | close
  | lock (worker : Nat)
  | receive (worker : Nat)
  | finish (worker : Nat) (ending : Ending)
  | countOff (worker : Nat)
deriving DecidableEq

/-- One event. -/
def step (p : Crew) : Event → Crew
  | .enter => p.enter
  | .look => p.look
  | .count => p.count
  | .send => p.send
  | .claim token => (p.claim token).toOption.getD p
  | .launch => p.launch
  | .cancel token => p.cancel token
  | .close => p.close
  | .lock worker => p.lock worker
  | .receive worker => p.receive worker
  | .finish worker ending => p.finish worker ending
  | .countOff worker => p.countOff worker

/-- Events one after another. -/
def play (p : Crew) (events : List Event) : Crew := events.foldl step p

end Crew

end Telemetry

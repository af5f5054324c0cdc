import Telemetry.Report
import Telemetry.Store

/-!
# Agents that report

An agent may have several reports of one collection under way, and any number of agents report to
one server.
-/

namespace Telemetry

/-! ## Reports that overlap

A worker pool may run several report tasks at a time. An `Agent` is a collection with the tasks that
report it, and with what the transport has accepted from them. Every access to the collection is one
step: an increment, the start of a report, which copies what is gathered, and its end, which takes
off what was delivered. The publications of a report are steps too.

A list of events is one order in which callers and tasks act, and every order is such a list. An
event that cannot happen changes nothing.
-/

/-- A task that makes a report. -/
structure ReportTask where
  report : Report
  /-- What was delivered has been taken off the collection. -/
  ended : Bool
deriving DecidableEq

/-- A collection, the tasks that report it and what they have brought to the server. -/
structure Agent where
  collection : Collection
  /-- The tasks that have started, by number. -/
  tasks : List ReportTask
  /-- The metrics that the transport has accepted, in this order. -/
  accepted : List Metric
deriving DecidableEq

namespace Agent

/-- A collection that no task has reported yet. -/
def ofCollection (c : Collection) : Agent := ⟨c, [], []⟩

/-- What may happen to an agent. -/
inductive Event
  | add (name : String) (delta : Int64)
  | set (name : String) (value : Binary64)
  /-- A task starts to report to an address. -/
  | start (address : String)
  /-- The next metric of a task is accepted by the transport, or not. -/
  | publish (task : Nat) (accepted : Bool)
  /-- A task that has tried all its metrics comes to its end. -/
  | settle (task : Nat)
deriving DecidableEq

/-- The report of a task that has not ended. -/
def running? (a : Agent) (task : Nat) : Option Report :=
  match a.tasks[task]? with
  | some ⟨r, false⟩ => some r
  | _ => none

/-- The report of a task that has nothing left but to take off what was delivered. -/
def settling? (a : Agent) (task : Nat) : Option Report :=
  (a.running? task).filter fun r => r.waiting.isEmpty

/-- One event. -/
def step (a : Agent) : Event → Agent
  | .add name delta => { a with collection := a.collection.add name delta }
  | .set name value => { a with collection := a.collection.set name value }
  | .start address =>
    if Text.isAllBlank address then a
    else { a with tasks := a.tasks ++ [⟨.start a.collection, false⟩] }
  | .publish task accepted =>
    match a.running? task with
    | some r =>
      { a with
        tasks := a.tasks.set task ⟨r.record accepted, false⟩
        accepted := if accepted then a.accepted ++ r.waiting.head?.toList else a.accepted }
    | none => a
  | .settle task =>
    match a.settling? task with
    | some r =>
      { a with collection := r.settle a.collection, tasks := a.tasks.set task ⟨r, true⟩ }
    | none => a

/-- Events one after another. -/
def run (a : Agent) (events : List Event) : Agent := events.foldl step a

/-- Every task has come to its end. -/
def isIdle (a : Agent) : Bool := a.tasks.all (·.ended)

end Agent

/-! ## Agents and their server

Any number of agents report to one server, each on a collection of its own. A publication that
reaches the server is the storing of one metric there, and the transport accepts it exactly if the
server has stored it. Everything else is a step of one agent alone.

A list of events is one order in which the agents act, and every order is such a list. An event that
cannot happen changes nothing.
-/

/-- Agents that report to one server. -/
structure Fleet where
  agents : List Agent
  /-- What the server has stored. -/
  server : Snapshot
deriving DecidableEq

namespace Fleet

/-- Agents that have gathered nothing, and a server that has stored nothing. -/
def start (count : Nat) : Fleet := ⟨List.replicate count (.ofCollection .empty), .empty⟩

/-- A step of an agent. A publication says whether it reaches the server. -/
structure Event where
  agent : Nat
  event : Agent.Event
deriving DecidableEq

/-- The metric that a task publishes next. -/
def publishing? (a : Agent) (task : Nat) : Option Metric :=
  (a.running? task).bind fun r => r.waiting.head?

/-- What the server makes of a step of an agent: a metric that reaches it is stored, or refused. -/
def serve (server : Snapshot) (a : Agent) : Agent.Event → Agent.Event × Snapshot
  | .publish task true =>
    match publishing? a task with
    | some m =>
      let (result, next) := Store.create server m
      (.publish task result.toBool, next)
    | none => (.publish task true, server)
  | e => (e, server)

/-- One event. -/
def step (f : Fleet) (e : Event) : Fleet :=
  match f.agents[e.agent]? with
  | some a =>
    let (event, server) := serve f.server a e.event
    ⟨f.agents.set e.agent (a.step event), server⟩
  | none => f

/-- Events one after another. -/
def run (f : Fleet) (events : List Event) : Fleet := events.foldl step f

/-- No task is under way. -/
def isIdle (f : Fleet) : Bool := f.agents.all Agent.isIdle

end Fleet

end Telemetry

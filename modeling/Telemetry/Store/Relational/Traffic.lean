import Telemetry.Store.Client

/-!
# Readings between the writes of other clients

What a relational store holds is read with two queries, and nothing keeps other clients from
committing writes between them. A `Traffic` is a store with all the readings that have come to it so
far. A write shows itself only when its transaction is committed, so it is one step, and so is every
query; a list of events is one order of the steps of any number of clients. An event that cannot
happen changes nothing.

A moment is told by the number of writes that had come before it.
-/

namespace Telemetry

/-- How far a reading has come. -/
inductive ReadingPoint
  /-- Nothing has been read. -/
  | asked
  /-- The counters were read at a moment. -/
  | halfway (first : Nat) (counters : Series Int64)
  /-- It was answered, with the moments of its first and its last query. -/
  | answered (first last : Nat) (result : Except StoreError Snapshot)

/-- A reading of everything. -/
structure FullReading where
  /-- The moment at which it came. -/
  since : Nat
  point : ReadingPoint

/-- A relational store with its readings. -/
structure Traffic where
  store : Relational
  /-- The writes so far, accepted or not, each with the order of its rows. -/
  writes : List (Arrangement × Write)
  readings : List FullReading

/-- What may happen to a store. -/
inductive TrafficEvent
  /-- A client writes. -/
  | write (a : Arrangement) (w : Write)
  /-- A client wants to read everything. -/
  | ask
  /-- The counters are read for the reading of a number. -/
  | readCounters (i : Nat)
  /-- The gauges are read for the reading of a number. -/
  | readGauges (i : Nat)

namespace TrafficEvent

/-- The write of an event, if it is one. -/
def write? : TrafficEvent → Option (Arrangement × Write)
  | write a w => some (a, w)
  | _ => none

end TrafficEvent

namespace Relational

/-- What a reading answers whose queries find these two states of the store. -/
def contentsOver (first last : Relational) : Except StoreError Snapshot := do
  let counters ← first.query Tables.readCounters
  let gauges ← last.query fun t => .ok t.readGauges
  return ⟨counters, gauges⟩

end Relational

namespace Traffic

/-- A store that nobody reads. -/
def fresh (r : Relational) : Traffic := ⟨r, [], []⟩

/-- The present moment. -/
def now (t : Traffic) : Nat := t.writes.length

/-- The reading of a number goes on to another point. -/
def put (t : Traffic) (i : Nat) (point : ReadingPoint) : Traffic :=
  { t with readings := t.readings.modify i fun r => { r with point } }

/-- A write is performed and committed, or refused. -/
def write (t : Traffic) (a : Arrangement) (w : Write) : Traffic :=
  { t with store := (t.store.perform a w).2, writes := t.writes ++ [(a, w)] }

/-- One reading more. -/
def ask (t : Traffic) : Traffic := { t with readings := t.readings ++ [⟨t.now, .asked⟩] }

/-- The first query of a reading; without its rows there is no second one. -/
def readCounters (t : Traffic) (i : Nat) : Traffic :=
  match t.readings[i]? with
  | some ⟨_, .asked⟩ =>
    match t.store.query Tables.readCounters with
    | .ok counters => t.put i (.halfway t.now counters)
    | .error e => t.put i (.answered t.now t.now (.error e))
  | _ => t

/-- The second query of a reading, and its answer. -/
def readGauges (t : Traffic) (i : Nat) : Traffic :=
  match t.readings[i]? with
  | some ⟨_, .halfway first counters⟩ =>
    let result := (t.store.query fun t => .ok t.readGauges).map fun gauges => ⟨counters, gauges⟩
    t.put i (.answered first t.now result)
  | _ => t

/-- One event. -/
def step (t : Traffic) : TrafficEvent → Traffic
  | .write a w => t.write a w
  | .ask => t.ask
  | .readCounters i => t.readCounters i
  | .readGauges i => t.readGauges i

/-- Events one after another. -/
def play (t : Traffic) (events : List TrafficEvent) : Traffic := events.foldl step t

end Traffic

end Telemetry

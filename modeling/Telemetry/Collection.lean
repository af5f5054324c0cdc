import Telemetry.Snapshot

/-!
# Collections

What an agent has gathered since its last report. Increments of a counter add up; once a report has
delivered some of a counter, `Collection.settle` subtracts what was delivered, so increments made in
the meantime stay. Gauges stay until the next value.

The counters of a collection are words of 64 bits and wrap around.
-/

namespace Telemetry

/-- Gathered counters and gauges by name. -/
structure Collection where
  counters : Series Int64
  gauges : Series Binary64
deriving DecidableEq, Inhabited

namespace Collection

/-- Nothing gathered. -/
def empty : Collection := ⟨Series.empty, Series.empty⟩

/-- A counter grows by a delta. -/
def add (c : Collection) (name : String) (delta : Int64) : Collection :=
  { c with counters := c.counters.insert name ((c.counters.get? name).getD 0 + delta) }

/-- A gauge gets a value. -/
def set (c : Collection) (name : String) (value : Binary64) : Collection :=
  { c with gauges := c.gauges.insert name value }

/-- The gathered metrics: the counters, then the gauges, each by name. -/
def metrics (c : Collection) : List Metric :=
  (c.counters.toList.map fun p => Metric.counter p.1 p.2) ++
    c.gauges.toList.map fun p => Metric.gauge p.1 p.2

/-- The gathered numbers as a snapshot. -/
def toSnapshot (c : Collection) : Snapshot := ⟨c.counters, c.gauges⟩

/-- One delivered metric is taken off: its delta is subtracted from the counter of its name, and a
counter that reaches zero is dropped. -/
def settleOne (c : Collection) (sent : Metric) : Collection :=
  match sent.delta, c.counters.get? sent.id with
  | some delta, some current =>
    if current - delta = 0 then { c with counters := c.counters.erase sent.id }
    else { c with counters := c.counters.insert sent.id (current - delta) }
  | _, _ => c

/-- Delivered metrics are taken off, one after another. -/
def settle (c : Collection) (sent : List Metric) : Collection := sent.foldl settleOne c

/-- Everything is dropped. -/
def clear (_ : Collection) : Collection := empty

/-- What can be done to a collection. -/
inductive Operation
  | add (name : String) (delta : Int64)
  | set (name : String) (value : Binary64)
  | settle (sent : List Metric)
  | clear
deriving DecidableEq

/-- One operation. -/
def perform (c : Collection) : Operation → Collection
  | .add name delta => c.add name delta
  | .set name value => c.set name value
  | .settle sent => c.settle sent
  | .clear => c.clear

/-- Operations one after another. -/
def performAll (c : Collection) (operations : List Operation) : Collection :=
  operations.foldl perform c

/-- The number of counters and gauges. -/
def size (c : Collection) : Nat := c.counters.size + c.gauges.size

/-- Nothing is gathered. -/
def isEmpty (c : Collection) : Bool := c.size == 0

end Collection

end Telemetry

import Telemetry.Metric
import Telemetry.Series

/-!
# Snapshots

A snapshot is the whole contents of a store at one moment: the sum of every counter and the last
value of every gauge. The two kinds are separate series, so a counter and a gauge of one name do not
meet.

`Snapshot.put` is the one way in which a metric changes stored numbers, and `Snapshot.apply` is the
same on a copy; every store of this library is built on them.
-/

namespace Telemetry

/-- Every stored number, by kind and name. -/
structure Snapshot where
  counters : Series Int64
  gauges : Series Binary64
deriving DecidableEq, Inhabited

namespace Snapshot

/-- Nothing is stored. -/
def empty : Snapshot := ⟨Series.empty, Series.empty⟩

/-- There is nothing in the snapshot. -/
def isEmpty (s : Snapshot) : Bool := s.counters.isEmpty && s.gauges.isEmpty

/-- The stored sum of a counter, zero if there is none. -/
def sum (s : Snapshot) (name : String) : Int64 := (s.counters.get? name).getD 0

/-- The counter of a name is there; a new one starts at zero. -/
def reserve (s : Snapshot) (name : String) : Snapshot :=
  match s.counters.get? name with
  | some _ => s
  | none => { s with counters := s.counters.insert name 0 }

/-- A metric is put in: the delta of a counter is added to the stored sum, a gauge replaces the
stored value. The answer is the metric as it is then stored. The counter is reserved before its sum
is checked; a sum that is out of range refuses the metric. -/
def put (s : Snapshot) (m : Metric) : Except MetricError Metric × Snapshot :=
  match m.kind with
  | .counter =>
    let reserved := s.reserve m.id
    match addChecked (reserved.sum m.id) m.deltaOrZero with
    | some total =>
        (.ok (Metric.counter m.id total),
          { reserved with counters := reserved.counters.insert m.id total })
    | none => (.error (.counterOverflow m.id), reserved)
  | .gauge =>
      (.ok (Metric.gauge m.id m.valueOrZero),
        { s with gauges := s.gauges.insert m.id m.valueOrZero })

/-- A metric is put into a copy, which is dropped if the metric is refused. -/
def apply (s : Snapshot) (m : Metric) : Except MetricError (Metric × Snapshot) :=
  match s.put m with
  | (.ok stored, next) => .ok (stored, next)
  | (.error e, _) => .error e

/-- Metrics are put into a copy one after another; the first refusal drops it. -/
def applyAll (s : Snapshot) (metrics : List Metric) : Except MetricError Snapshot :=
  metrics.foldlM (fun s m => (s.apply m).map (·.2)) s

/-- The stored metric of a name and a kind. -/
def get? (s : Snapshot) (name : String) : Kind → Option Metric
  | .counter => (s.counters.get? name).map (Metric.counter name)
  | .gauge => (s.gauges.get? name).map (Metric.gauge name)

/-- The stored metrics of one kind, in increasing order of their names. -/
def ofKind (s : Snapshot) : Kind → List Metric
  | .counter => s.counters.toList.map fun p => Metric.counter p.1 p.2
  | .gauge => s.gauges.toList.map fun p => Metric.gauge p.1 p.2

/-- All stored metrics: the counters, then the gauges. -/
def metrics (s : Snapshot) : List Metric := s.ofKind .counter ++ s.ofKind .gauge

end Snapshot

end Telemetry

import Telemetry.Number.Decimal
import Telemetry.Number.Layout
import Telemetry.Text.Quoted

/-!
# Metrics

A metric is a named number of one of two kinds. A counter carries a `delta` that is added to the
stored sum, a gauge carries a `value` that replaces the stored one. Metrics arrive from outside with
any combination of the two, so both are optional here, and `Metric.validate` says which combinations
are accepted: a name, exactly the number of the kind, and for gauges a finite one.
-/

namespace Telemetry

/-- The kind of a series. -/
inductive Kind
  /-- Deltas add up. -/
  | counter
  /-- The last value stays. -/
  | gauge
deriving DecidableEq, Inhabited

/-- Why a metric is refused. -/
inductive MetricError
  /-- No kind has this name or number. -/
  | unknownKind (kind : String)
  /-- The name is empty. -/
  | missingName
  /-- The text is no number of the kind, or the number is not finite. -/
  | invalidValue (kind : Kind) (raw : String)
  /-- The metric lacks the number of its kind, or carries the other one. -/
  | valueMismatch (id : String)
  /-- The sum would leave the range of 64 bits. -/
  | counterOverflow (id : String)
deriving DecidableEq

/-- One named number, as it travels. -/
structure Metric where
  id : String
  kind : Kind
  delta : Option Int64
  value : Option Binary64
deriving DecidableEq, Inhabited

namespace Kind

/-- The name of a kind. -/
def name : Kind → String
  | counter => "counter"
  | gauge => "gauge"

/-- The kind of a name, which is written in lower case. -/
def ofName : String → Except MetricError Kind
  | "counter" => .ok counter
  | "gauge" => .ok gauge
  | other => .error (.unknownKind other)

/-- The number of a kind in messages. -/
def number : Kind → Int
  | counter => 1
  | gauge => 2

/-- The kind of a number. -/
def ofNumber (n : Int) : Except MetricError Kind :=
  if n = 1 then .ok counter
  else if n = 2 then .ok gauge
  else .error (.unknownKind (toString n))

theorem ofName_name (kind : Kind) : ofName kind.name = .ok kind := by cases kind <;> rfl

theorem ofNumber_number (kind : Kind) : ofNumber kind.number = .ok kind := by cases kind <;> rfl

end Kind

namespace MetricError

/-- The wording of a metric error. -/
def message : MetricError → String
  | unknownKind kind => "unknown metric type: " ++ kind
  | missingName => "metric name is required"
  | invalidValue kind raw => "invalid " ++ kind.name ++ " value: " ++ Quoted.encode raw
  | valueMismatch id => "metric " ++ id ++ " must have exactly one of delta or value"
  | counterOverflow id => "counter " ++ id ++ " would overflow"

end MetricError

namespace Metric

/-- A counter with its delta. -/
def counter (id : String) (delta : Int64) : Metric := ⟨id, .counter, some delta, none⟩

/-- A gauge with its value. -/
def gauge (id : String) (value : Binary64) : Metric := ⟨id, .gauge, none, some value⟩

/-- The delta of a counter, zero if it is absent. -/
def deltaOrZero (m : Metric) : Int64 := m.delta.getD 0

/-- The value of a gauge, zero if it is absent. -/
def valueOrZero (m : Metric) : Binary64 := m.value.getD Binary64.zero

/-- The metric carries the number of its kind and no other. -/
def carriesItsNumber (m : Metric) : Bool :=
  match m.kind with
  | .counter => m.delta.isSome && m.value.isNone
  | .gauge => m.value.isSome && m.delta.isNone

/-- A metric is accepted if it has a name, the number of its kind and no other, and no value that is
not finite. The first fault in this order is reported. -/
def validate (m : Metric) : Except MetricError Unit :=
  if m.id = "" then .error .missingName
  else if !m.carriesItsNumber then .error (.valueMismatch m.id)
  else
    match m.value with
    | some x =>
        if x.isFinite then .ok () else .error (.invalidValue m.kind (NumberLayout.plain.write x))
    | none => .ok ()

/-- The text of the number of the metric's kind. -/
def valueText (m : Metric) : String :=
  match m.kind with
  | .counter => toString m.deltaOrZero.toInt
  | .gauge => NumberLayout.plain.write m.valueOrZero

/-- The metric of a kind, a name and the text of a number. -/
def ofTexts (kind : Kind) (name raw : String) : Except MetricError Metric :=
  if name = "" then .error .missingName
  else
    match kind with
    | .counter =>
      match readInt64? raw with
      | some delta => .ok (counter name delta)
      | none => .error (.invalidValue kind raw)
    | .gauge =>
      match Binary64.read? raw with
      | some x => if x.isFinite then .ok (gauge name x) else .error (.invalidValue kind raw)
      | none => .error (.invalidValue kind raw)

end Metric

end Telemetry

import Telemetry.Json.Reader
import Telemetry.Metric

/-!
# Metrics in JSON

A metric is a record with the fields `id`, `type`, `delta` and `value`, of which the last two may be
absent. A value that is not finite has no JSON form of its own and is written as `null`.
-/

namespace Telemetry

namespace Kind

/-- The kind of a JSON value. -/
def ofJson? (v : Json) : Option Kind := do
  match ofName (← v.asAlternative?) with
  | .ok kind => some kind
  | .error _ => none

end Kind

namespace Binary64

/-- A number in JSON. -/
def toJson (x : Binary64) : List Char :=
  if x.isFinite then (NumberLayout.json.write x).toList else ['n', 'u', 'l', 'l']

end Binary64

namespace Metric

/-- The names of the fields. -/
def fieldNames : List String := ["id", "type", "delta", "value"]

/-- The metric of a JSON value. -/
def ofJson? (v : Json) : Option Metric := do
  match ← v.record? fieldNames with
  | [some id, some kind, delta, value] =>
    return {
      id := ← id.asText?
      kind := ← Kind.ofJson? kind
      delta := ← Json.optional? Json.asInt64? delta
      value := ← Json.optional? Json.asBinary64? value }
  | _ => none

/-- The metrics of a JSON array. -/
def listOfJson? (v : Json) : Option (List Metric) := do (← v.asItems?).mapM ofJson?

/-- The metric of a JSON text. -/
def ofJsonBytes? (bytes : ByteArray) : Option Metric :=
  (Json.ofBytes? bytes.data.toList).bind ofJson?

/-- The metrics of a JSON text. -/
def listOfJsonBytes? (bytes : ByteArray) : Option (List Metric) :=
  (Json.ofBytes? bytes.data.toList).bind listOfJson?

/-- A metric in JSON. -/
def toJson (m : Metric) : String :=
  String.ofList <|
    "\x7b\"id\":".toList ++ Json.encodeText m.id ++ ",\"type\":".toList ++ Json.encodeText m.kind.name
      ++ (match m.delta with
        | some delta => ",\"delta\":".toList ++ (toString delta.toInt).toList
        | none => [])
      ++ (match m.value with
        | some value => ",\"value\":".toList ++ value.toJson
        | none => [])
      ++ ['}']

/-- The items of an array of metrics, separated by commas. -/
def jsonItems : List Metric → List Char
  | [] => []
  | [m] => m.toJson.toList
  | m :: rest => m.toJson.toList ++ ',' :: jsonItems rest

/-- Metrics as a JSON array. -/
def listToJson (metrics : List Metric) : String :=
  String.ofList ('[' :: (jsonItems metrics ++ [']']))

end Metric

end Telemetry

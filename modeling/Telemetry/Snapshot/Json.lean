import Telemetry.Metric.Json
import Telemetry.Snapshot

/-!
# Snapshots in JSON

A snapshot is a record with the fields `Counter` and `Gauge`, each an object from names to numbers
and empty if absent. Of two members with one name the later counts. Members are written in
increasing order of their names.
-/

namespace Telemetry

namespace Series

/-- A series from the members of an object. -/
def ofJson? {α : Type} (read : Json → Option α) (v : Json) : Option (Series α) := do
  let pairs ← (← v.asMembers?).mapM fun m => (read m.2).map fun a => (m.1, a)
  return ofList pairs

/-- The members of an object, separated by commas. -/
def jsonMembers {α : Type} (write : α → List Char) : List (String × α) → List Char
  | [] => []
  | [p] => Json.encodeText p.1 ++ ':' :: write p.2
  | p :: rest => Json.encodeText p.1 ++ ':' :: (write p.2 ++ ',' :: jsonMembers write rest)

/-- A list of pairs as an object. -/
def jsonObject {α : Type} (write : α → List Char) (pairs : List (String × α)) : List Char :=
  '{' :: (jsonMembers write pairs ++ ['}'])

end Series

namespace Snapshot

/-- The names of the fields. -/
def fieldNames : List String := ["Counter", "Gauge"]

/-- The snapshot of a JSON value. -/
def ofJson? (v : Json) : Option Snapshot := do
  match ← v.record? fieldNames with
  | [counters, gauges] =>
    return {
      counters := ← Json.withDefault? (Series.ofJson? Json.asInt64?) Series.empty counters
      gauges := ← Json.withDefault? (Series.ofJson? Json.asBinary64?) Series.empty gauges }
  | _ => none

/-- The snapshot of a JSON text. -/
def ofJsonBytes? (bytes : ByteArray) : Option Snapshot :=
  (Json.ofBytes? bytes.data.toList).bind ofJson?

/-- The JSON text with the members in a given order. -/
def jsonOf (counters : List (String × Int64)) (gauges : List (String × Binary64)) : String :=
  String.ofList <|
    "\x7b\"Counter\":".toList ++ Series.jsonObject (fun n => (toString n.toInt).toList) counters
      ++ ",\"Gauge\":".toList ++ Series.jsonObject Binary64.toJson gauges ++ ['}']

/-- A snapshot in JSON. -/
def toJson (s : Snapshot) : String := jsonOf s.counters.toList s.gauges.toList

end Snapshot

end Telemetry

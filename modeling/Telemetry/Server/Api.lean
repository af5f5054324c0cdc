import Telemetry.Metric.Json
import Telemetry.Server.Message
import Telemetry.Server.Resource
import Telemetry.Store

/-!
# What the resources do

`Api.answer` carries a request for a known resource out on a store and gives the contents of the
answer, or the reason why it was not carried out. A fault of the request is told in words; a fault
of the store is not told to the outside.
-/

namespace Telemetry

/-- Why a request was not carried out. -/
inductive ApiError
  /-- The request is not understood or not accepted. -/
  | badRequest (text : String)
  /-- What is asked for is not there. -/
  | notFound (text : String)
  /-- The body is too long for its resource. -/
  | tooLarge
  /-- The store is out of order. -/
  | internal
deriving DecidableEq

namespace ApiError

/-- The status that tells of an error. -/
def status : ApiError → Nat
  | badRequest _ => 400
  | notFound _ => 404
  | tooLarge => 413
  | internal => 500

/-- The text that tells of an error. -/
def text : ApiError → String
  | badRequest text => text
  | notFound text => text
  | tooLarge => "Failed to buffer the request body: length limit exceeded"
  | internal => "internal server error"

/-- A body that is not the JSON that is expected. -/
def malformed : ApiError := badRequest "malformed JSON body: unexpected contents"

/-- A parameter of the path whose bytes are no text. -/
def badParameter (name : String) : ApiError :=
  badRequest ("Invalid URL: Invalid UTF-8 in `" ++ name ++ "`")

/-- A refused metric; a metric without a name is one that cannot be found. -/
def ofMetric : MetricError → ApiError
  | .missingName => notFound MetricError.missingName.message
  | e => badRequest e.message

/-- A failure of the store. -/
def ofStore : StoreError → ApiError
  | .notFound kind name => notFound (StoreError.notFound kind name).message
  | .invalid cause => ofMetric cause
  | _ => internal

end ApiError

namespace Api

/-- The most bytes of a JSON body. -/
def bodyLimit : Nat := 2 * 1024 * 1024

/-- A body within the limit. -/
def limited (body : ByteArray) : Except ApiError ByteArray :=
  if body.size ≤ bodyLimit then .ok body else .error .tooLarge

/-- A body read as JSON. -/
def decoded {α : Type} (read : ByteArray → Option α) (body : ByteArray) : Except ApiError α := do
  match read (← limited body) with
  | some a => .ok a
  | none => .error .malformed

/-- The name and kind that a body asks for. -/
def queryOfJson? (v : Json) : Option (String × Kind) := do
  match ← v.record? ["id", "type"] with
  | [some id, some kind] => return (← id.asText?, ← Kind.ofJson? kind)
  | _ => none

/-- The query of a JSON text. -/
def queryOfJsonBytes? (bytes : ByteArray) : Option (String × Kind) :=
  (Json.ofBytes? bytes.data.toList).bind queryOfJson?

/-- The parameters of an update by its path. -/
def updateParameters (kind name value : List Char) : Except ApiError Metric := do
  let read (label : String) (raw : List Char) : Except ApiError String :=
    (Resource.parameter label raw).mapError ApiError.badParameter
  let kind ← read "kind" kind
  let name ← read "name" name
  let value ← read "value" value
  let metric : Except MetricError Metric := do Metric.ofTexts (← Kind.ofName kind) name value
  metric.mapError ApiError.ofMetric

/-- The parameters of a query by its path. -/
def valueParameters (kind name : List Char) : Except ApiError (String × Kind) := do
  let kind ← (Resource.parameter "kind" kind).mapError ApiError.badParameter
  let name ← (Resource.parameter "name" name).mapError ApiError.badParameter
  return (name, ← (Kind.ofName kind).mapError ApiError.ofMetric)

/-- The confirmation of a batch. -/
def storedText (count : Nat) : String := "stored " ++ toString count ++ " metrics"

/-- The listing of all metrics, a line for each. -/
def listing (s : Snapshot) : String :=
  String.join (s.metrics.map fun m => m.id ++ " " ++ m.valueText ++ "\n")

/-- The confirmation of a batch in JSON. -/
def confirmation (count : Nat) : String :=
  String.ofList ("\x7b\"message\":".toList ++ Json.encodeText (storedText count) ++ ['}'])

/-- The message of a confirmation. -/
def messageOfJson? (v : Json) : Option String := do
  match ← v.record? ["message"] with
  | [some message] => message.asText?
  | _ => none

/-- The message of a JSON text. -/
def messageOfJsonBytes? (bytes : ByteArray) : Option String :=
  (Json.ofBytes? bytes.data.toList).bind messageOfJson?

/-- The metrics that a request asks a resource to store. -/
def asked (resource : Resource) (body : ByteArray) : Except ApiError (List Metric) :=
  match resource with
  | .update => (decoded Metric.ofJsonBytes? body).map fun m => [m]
  | .updates => decoded Metric.listOfJsonBytes? body
  | .updatePath kind name value => (updateParameters kind name value).map fun m => [m]
  | .listing | .ping | .value | .valuePath _ _ => .ok []

variable {σ : Type} [Store σ]

/-- One metric is stored; `present` makes the contents of the answer. -/
def storeOne (present : Metric → Content) (s : σ) :
    Except ApiError Metric → Except ApiError Content × σ
  | .error e => (.error e, s)
  | .ok m =>
    let (result, next) := Store.create s m
    ((result.map present).mapError ApiError.ofStore, next)

/-- A batch is stored. -/
def storeAll (s : σ) : Except ApiError (List Metric) → Except ApiError Content × σ
  | .error e => (.error e, s)
  | .ok metrics =>
    let (result, next) := Store.createAll s metrics
    ((result.map fun () => .json (confirmation metrics.length)).mapError ApiError.ofStore, next)

/-- A stored metric is looked up. -/
def lookUp (present : Metric → Content) (s : σ) (query : Except ApiError (String × Kind)) :
    Except ApiError Content := do
  let (name, kind) ← query
  ((Store.get s name kind).map present).mapError ApiError.ofStore

/-- A metric by the text of its number. -/
def asText (m : Metric) : Content := .text m.valueText

/-- A metric in JSON. -/
def asJson (m : Metric) : Content := .json m.toJson

/-- A request for a resource with one of its methods. -/
def answer (resource : Resource) (body : ByteArray) (s : σ) : Except ApiError Content × σ :=
  match resource with
  | .listing => (((Store.contents s).map fun c => .text (listing c)).mapError ApiError.ofStore, s)
  | .ping => (((Store.ping s).map fun () => .text "OK").mapError ApiError.ofStore, s)
  | .update => storeOne asJson s (decoded Metric.ofJsonBytes? body)
  | .updates => storeAll s (decoded Metric.listOfJsonBytes? body)
  | .updatePath kind name value => storeOne asText s (updateParameters kind name value)
  | .value => (lookUp asJson s (decoded queryOfJsonBytes? body), s)
  | .valuePath kind name => (lookUp asText s (valueParameters kind name), s)

end Api

end Telemetry

import Telemetry.Metric.Json
import Telemetry.Report.Transport
import Telemetry.Server.Message
import Telemetry.Signature
import Telemetry.Url

/-!
# Publishing over HTTP

A metric is published by a POST request, in one of two modes: its parts in the path of the address
and an empty body, or the metric as JSON in the body. With a key the body is signed.
`HttpLink.request` makes the request; a `Network` takes it to an answer, or to none if nobody
answers.
-/

namespace Telemetry

/-- Where the metric stands in a request. -/
inductive HttpMode
  | path
  | json
deriving DecidableEq, Inhabited

/-- A request that publishes a metric. -/
structure PublishRequest where
  url : Url
  contentType : String
  signature : Option String
  body : ByteArray

/-- The request as it reaches the server. -/
def PublishRequest.received (r : PublishRequest) : Request :=
  { method := .post
    target := r.url.target
    headers := ("content-type", r.contentType.toUTF8.data.toList)
      :: (r.signature.map fun s => (Signature.header, s.toUTF8.data.toList)).toList
    body := r.body }

/-- The answer to a request, a status and a text; `none` if there is no answer. -/
abbrev Network := PublishRequest → Option (Nat × String)

namespace Network

/-- A network on which nobody answers. -/
def isolated : Network := fun _ => none

end Network

/-- How metrics are published over HTTP. -/
structure HttpLink where
  mode : HttpMode
  key : Option String
deriving DecidableEq

namespace HttpLink

/-- The address of an update by its path. -/
def updateUrl? (address : String) (m : Metric) : Option Url :=
  (Url.ofText? (Address.base address)).bind fun u =>
    u.push? ["update", m.kind.name, m.id, m.valueText]

/-- The address of an update by its body. -/
def jsonUrl? (address : String) : Option Url := Url.ofText? (Address.base address ++ "/update/")

/-- The request that publishes a metric. -/
def request (link : HttpLink) (address : String) (m : Metric) : Except ReportError PublishRequest :=
  let sent (url : Option Url) (body : ByteArray) (contentType : String) :
      Except ReportError PublishRequest :=
    match url with
    | some url => .ok ⟨url, contentType, link.key.map fun key => Signature.sign key body, body⟩
    | none => .error (.invalidAddress address)
  match link.mode with
  | .path => sent (updateUrl? address m) ByteArray.empty "text/plain"
  | .json => sent (jsonUrl? address) m.toJson.toUTF8 "application/json"

/-- What an answer says about a metric. -/
def outcome : Option (Nat × String) → Except ReportError Unit
  | none => .error .http
  | some (status, body) =>
      if 200 ≤ status ∧ status < 300 then .ok () else .error (.status status body)

/-- A metric is published. -/
def publish (link : HttpLink) (network : Network) (address : String) (m : Metric) :
    Except ReportError Unit := do
  outcome (network (← link.request address m))

end HttpLink

end Telemetry

import Telemetry.Report.Transport
import Telemetry.Server.Api
import Telemetry.Wire.Message

/-!
# The server as a service

The calls of the service: storing one metric or a list of them, and asking for one metric or all.
Messages are taken to metrics first; a call that fails says so with a code and a message.
-/

namespace Telemetry

/-- A call that failed. -/
structure RpcError where
  code : RpcCode
  message : String
deriving DecidableEq

namespace Rpc

/-- A refused metric. -/
def invalid (e : MetricError) : RpcError := ⟨.invalidArgument, e.message⟩

/-- A failure of the store. -/
def ofStore : StoreError → RpcError
  | .notFound kind name => ⟨.notFound, (StoreError.notFound kind name).message⟩
  | .invalid cause => invalid cause
  | _ => ⟨.internal, "internal storage error"⟩

/-- The confirmation of a stored metric. -/
def storedText (m : Metric) : String := m.kind.name ++ " " ++ m.id ++ " = " ++ m.valueText

variable {σ : Type} [Store σ]

/-- One metric is stored. -/
def createMetric (s : σ) (message : WireMetric) : Except RpcError String × σ :=
  match message.toMetric with
  | .error e => (.error (invalid e), s)
  | .ok m =>
    let (result, next) := Store.create s m
    ((result.map storedText).mapError ofStore, next)

/-- A list of metrics is stored. -/
def createMetrics (s : σ) (messages : List WireMetric) : Except RpcError String × σ :=
  match messages.mapM WireMetric.toMetric with
  | .error e => (.error (invalid e), s)
  | .ok metrics =>
    let (result, next) := Store.createAll s metrics
    ((result.map fun () => Api.storedText metrics.length).mapError ofStore, next)

/-- A stored metric. First the name is looked at, then the kind. -/
def getMetric (s : σ) (message : WireName) : Except RpcError WireMetric :=
  if message.id = "" then .error (invalid .missingName)
  else
    match Kind.ofNumber message.kind with
    | .error e => .error (invalid e)
    | .ok kind => ((Store.get s message.id kind).map WireMetric.ofMetric).mapError ofStore

/-- All stored metrics. -/
def getMetrics (s : σ) : Except RpcError (List WireMetric) :=
  ((Store.contents s).map fun c => c.metrics.map WireMetric.ofMetric).mapError ofStore

/-- A call of the service. -/
inductive Call
  | createMetric (message : WireMetric)
  | createMetrics (messages : List WireMetric)
  | getMetric (message : WireName)
  | getMetrics
deriving DecidableEq

/-- What a call is answered with. -/
inductive Reply
  | confirmation (text : String)
  | metric (message : WireMetric)
  | metrics (messages : List WireMetric)
deriving DecidableEq

/-- The answer to a call, and the store afterwards. -/
def serve (s : σ) : Call → Except RpcError Reply × σ
  | .createMetric message =>
    let (result, next) := createMetric s message
    (result.map .confirmation, next)
  | .createMetrics messages =>
    let (result, next) := createMetrics s messages
    (result.map .confirmation, next)
  | .getMetric message => ((getMetric s message).map .metric, s)
  | .getMetrics => ((getMetrics s).map .metrics, s)

end Rpc

end Telemetry

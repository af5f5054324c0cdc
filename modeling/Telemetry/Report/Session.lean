import Telemetry.Report.Service
import Telemetry.Server.Rpc

/-!
# Publications over one link

Every full address names a server with a store of its own. An agent publishes one metric after
another over one `ServiceLink`, each to an address that may be another one. What becomes of a
publication is not up to the agent: a connection can be opened or not, a call is carried out or not,
and its answer arrives or not. A `ServicePublication` says all of this, so a list of them is one
history, and every history is such a list.

A `ServiceSession` is a link among the servers, with the log of the publications so far.
-/

namespace Telemetry

/-- Servers, each named by its full address. -/
structure Servers (σ : Type) where
  /-- What each of them has stored. -/
  stores : String → σ
  /-- The messages that a metric was created from, in this order, each with the server that created
  it. -/
  created : List (String × WireMetric)

/-- What becomes of a call over a connection. -/
inductive CallFate
  /-- The server carries it out, and its answer arrives. -/
  | answered
  /-- The server carries it out, and its answer is lost. -/
  | unanswered (code : RpcCode) (message : String)
  /-- It does not reach the server. -/
  | lost (code : RpcCode) (message : String)
deriving DecidableEq

/-- A metric that is published to an address, and what becomes of it. -/
structure ServicePublication where
  address : String
  metric : Metric
  /-- A connection can be opened. -/
  connects : Bool
  fate : CallFate
deriving DecidableEq

/-- A publication that has ended. -/
structure ServiceEntry where
  address : String
  metric : Metric
  result : Except ReportError Unit

/-- A link among servers, and what has been published over it. -/
structure ServiceSession (σ : Type) where
  link : ServiceLink
  servers : Servers σ
  log : List ServiceEntry

variable {σ : Type}

namespace ServiceSession

/-- Nothing has been published. -/
def start (stores : String → σ) : ServiceSession σ := ⟨.idle, ⟨stores, []⟩, []⟩

end ServiceSession

variable [Store σ]

namespace Servers

/-- A server carries out the call that creates a metric. -/
def create (servers : Servers σ) (server : String) (message : WireMetric) :
    Except RpcError String × Servers σ :=
  let (result, next) := Rpc.createMetric (servers.stores server) message
  (result,
    { stores := fun other => if other = server then next else servers.stores other
      created :=
        if result.toBool then servers.created ++ [(server, message)] else servers.created })

end Servers

namespace CallFate

/-- How a call to a server ends for the caller, and the servers afterwards. -/
def carryOut (fate : CallFate) (servers : Servers σ) (server : String) (message : WireMetric) :
    Except (RpcCode × String) Unit × Servers σ :=
  match fate with
  | answered =>
    let (result, next) := servers.create server message
    ((result.map fun _ => ()).mapError fun e => (e.code, e.message), next)
  | unanswered code text => (.error (code, text), (servers.create server message).2)
  | lost code text => (.error (code, text), servers)

end CallFate

namespace ServicePublication

/-- The network, as the publication finds it. -/
def network (p : ServicePublication) : ServiceNetwork (Servers σ) :=
  ⟨fun _ _ => p.connects, p.fate.carryOut⟩

end ServicePublication

namespace ServiceSession

/-- One publication. -/
def publish (s : ServiceSession σ) (p : ServicePublication) :
    Except ReportError Unit × ServiceSession σ :=
  let (result, link, servers) := s.link.publish p.network s.servers p.address p.metric
  (result, ⟨link, servers, s.log ++ [⟨p.address, p.metric, result⟩]⟩)

/-- Publications one after another. -/
def run (s : ServiceSession σ) (history : List ServicePublication) : ServiceSession σ :=
  history.foldl (fun s p => (s.publish p).2) s

end ServiceSession

end Telemetry

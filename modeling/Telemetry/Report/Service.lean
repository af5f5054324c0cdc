import Telemetry.Report.Transport
import Telemetry.Wire.Message

/-!
# Publishing to a service

A metric is published by a call over a connection. The first connection is kept and used for every
later call, whatever address is given then; only a call that finds its server unavailable drops it,
and the next one connects anew.

A `ServiceNetwork` says how connecting and calling end. A connection is known by the address that it
was opened for.
-/

namespace Telemetry

/-- How connections and calls end in a state of the world. -/
structure ServiceNetwork (σ : Type) where
  /-- A connection to a server can be opened. -/
  connects : σ → String → Bool
  /-- A call over the connection to a server. -/
  call : σ → String → WireMetric → Except (RpcCode × String) Unit × σ

/-- The kept connection, if there is one. -/
structure ServiceLink where
  connection : Option String
deriving DecidableEq

namespace ServiceLink

/-- No connection yet. -/
def idle : ServiceLink := ⟨none⟩

/-- The kept connection, or a new one. -/
def connect {σ : Type} (link : ServiceLink) (network : ServiceNetwork σ) (world : σ)
    (address : String) : Option String :=
  match link.connection with
  | some server => some server
  | none =>
      if network.connects world (Address.base address) then some (Address.base address) else none

/-- The address that a connection is asked for; there is none if one is kept. -/
def asked? (link : ServiceLink) (address : String) : Option String :=
  match link.connection with
  | some _ => none
  | none => some (Address.base address)

/-- A metric is published. -/
def publish {σ : Type} (link : ServiceLink) (network : ServiceNetwork σ) (world : σ)
    (address : String) (m : Metric) :
    Except ReportError Unit × ServiceLink × σ :=
  match link.connect network world address with
  | none => (.error .connect, link, world)
  | some server =>
    match network.call world server (WireMetric.ofMetric m) with
    | (.ok (), world) => (.ok (), ⟨some server⟩, world)
    | (.error (code, message), world) =>
      (.error (.rpc code message), ⟨if code = .unavailable then none else some server⟩, world)

end ServiceLink

namespace ServiceNetwork

/-- A network on which no server can be reached. -/
def isolated (σ : Type) : ServiceNetwork σ :=
  ⟨fun _ _ => false, fun world _ _ => (.error (.unavailable, ""), world)⟩

end ServiceNetwork

end Telemetry

import Telemetry.Config.Environment
import Telemetry.Report.Http
import Telemetry.Toml.Reader

/-!
# Settings of agents

Which server an agent reports to and how, how often it polls and reports, how many reports may be
under way at once, and the key that signs its requests.
-/

namespace Telemetry

/-- The way on which metrics travel. -/
inductive Transport
  | http
  | grpc
deriving DecidableEq, Inhabited

/-- The settings of an agent. -/
structure AgentSettings where
  serverAddress : String
  transport : Transport
  httpMode : HttpMode
  pollIntervalSeconds : Nat
  reportIntervalSeconds : Nat
  /-- The number of reports under way at once. -/
  rateLimit : Nat
  key : Option String
deriving DecidableEq, Inhabited

namespace Transport

/-- The transport of a name. -/
def ofName? : String → Option Transport
  | "http" => some http
  | "grpc" => some grpc
  | _ => none

/-- The transport of a name between blanks. -/
def ofText (text : String) : Except ConfigError Transport :=
  match ofName? (Text.trim text) with
  | some t => .ok t
  | none => .error (.refused ("unknown transport: " ++ Text.trim text))

end Transport

namespace HttpMode

/-- The mode of a name. -/
def ofName? : String → Option HttpMode
  | "path" => some path
  | "json" => some json
  | _ => none

end HttpMode

namespace AgentSettings

/-- The settings when nothing is said. -/
def standard : AgentSettings := ⟨"localhost:8080", .http, .path, 2, 10, 1, none⟩

/-- The names of the fields. -/
def fieldNames : List String :=
  ["server_address", "transport", "http_mode", "poll_interval_secs", "report_interval_secs",
    "rate_limit", "key"]

/-- The settings of a table. -/
def ofToml? (v : Toml) : Option AgentSettings := do
  match ← v.record? fieldNames with
  | [address, transport, mode, poll, report, rate, key] =>
    return {
      serverAddress := ← Toml.withDefault? Toml.asText? standard.serverAddress address
      transport :=
        ← Toml.withDefault? (·.asAlternative?.bind Transport.ofName?) standard.transport transport
      httpMode :=
        ← Toml.withDefault? (·.asAlternative?.bind HttpMode.ofName?) standard.httpMode mode
      pollIntervalSeconds :=
        ← Toml.withDefault? Toml.asUnsigned? standard.pollIntervalSeconds poll
      reportIntervalSeconds :=
        ← Toml.withDefault? Toml.asUnsigned? standard.reportIntervalSeconds report
      rateLimit := ← Toml.withDefault? Toml.asUnsigned? standard.rateLimit rate
      key := ← Toml.optional? Toml.asText? key }
  | _ => none

/-- The settings of a file. -/
def load (file : Option ByteArray) : Except ConfigError AgentSettings := do
  let entries := Toml.ofText? (← Environment.textOf file)
  match entries.bind fun entries => ofToml? (.table .header entries) with
  | some s => .ok s
  | none => .error .toml

/-- The variables that override settings, in their order. -/
def overrides : List (Override AgentSettings) :=
  [⟨"PULSEMON_ADDRESS", fun v s => .ok { s with serverAddress := v }⟩,
    ⟨"PULSEMON_TRANSPORT", fun v s =>
      (Transport.ofText v).map fun transport => { s with transport }⟩,
    ⟨"PULSEMON_POLL_INTERVAL", fun v s =>
      (Environment.unsigned v).map fun n => { s with pollIntervalSeconds := n }⟩,
    ⟨"PULSEMON_REPORT_INTERVAL", fun v s =>
      (Environment.unsigned v).map fun n => { s with reportIntervalSeconds := n }⟩,
    ⟨"PULSEMON_RATE_LIMIT", fun v s =>
      (Environment.unsigned v).map fun n => { s with rateLimit := n }⟩,
    ⟨"PULSEMON_KEY", fun v s => .ok { s with key := if v = "" then none else some v }⟩]

/-- The settings overridden by the environment. -/
def override (s : AgentSettings) (env : Environment) : Except ConfigError Unit × AgentSettings :=
  env.apply overrides s

/-- The settings can be worked with. -/
def validate (s : AgentSettings) : Except ConfigError Unit :=
  if Text.isAllBlank s.serverAddress then .error (.refused "server_address must not be empty")
  else if s.pollIntervalSeconds = 0 then .error (.refused "poll_interval_secs must be positive")
  else if s.reportIntervalSeconds = 0 then .error (.refused "report_interval_secs must be positive")
  else if s.rateLimit = 0 then .error (.refused "rate_limit must be positive")
  else .ok ()

/-- The settings that an agent works with: those of its file, or the standard ones if it is given
none, overridden by the environment, if they can be worked with. -/
def gather (file : Option (Option ByteArray)) (env : Environment) :
    Except ConfigError AgentSettings := do
  let initial ← file.elim (.ok standard) load
  let (result, s) := initial.override env
  result
  s.validate
  return s

end AgentSettings

end Telemetry

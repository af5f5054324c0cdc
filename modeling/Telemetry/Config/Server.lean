import Telemetry.Config.Environment
import Telemetry.Store.Settings
import Telemetry.Text
import Telemetry.Toml.Reader

/-!
# Settings of servers

Where a server listens, the key of its requests and answers, and its store. The name of a database
may hold a password; `ServerSettings.redactedDsn` is the form of it that is logged.
-/

namespace Telemetry

namespace StoreSettings

/-- The settings of a store in a table. -/
def ofToml? (v : Toml) : Option StoreSettings := do
  match ← v.record? fieldNames with
  | [path, interval, restore, dsn] =>
    return {
      path := ← Toml.optional? Toml.asText? path
      intervalSeconds := ← Toml.withDefault? Toml.asUnsigned? standard.intervalSeconds interval
      restore := ← Toml.withDefault? Toml.asBool? standard.restore restore
      dsn := ← Toml.optional? Toml.asText? dsn }
  | _ => none

end StoreSettings

/-- The settings of a server. -/
structure ServerSettings where
  httpAddress : String
  /-- Where the service listens; there is none if it is absent. -/
  grpcAddress : Option String
  key : Option String
  store : StoreSettings
deriving DecidableEq, Inhabited

namespace ServerSettings

/-- The settings when nothing is said. -/
def standard : ServerSettings := ⟨"0.0.0.0:8080", none, none, StoreSettings.standard⟩

/-- The names of the fields. -/
def fieldNames : List String := ["http_address", "grpc_address", "key", "storage"]

/-- The settings of a table. -/
def ofToml? (v : Toml) : Option ServerSettings := do
  match ← v.record? fieldNames with
  | [http, grpc, key, store] =>
    return {
      httpAddress := ← Toml.withDefault? Toml.asText? standard.httpAddress http
      grpcAddress := ← Toml.optional? Toml.asText? grpc
      key := ← Toml.optional? Toml.asText? key
      store := ← Toml.withDefault? StoreSettings.ofToml? standard.store store }
  | _ => none

/-- The settings of a file. -/
def load (file : Option ByteArray) : Except ConfigError ServerSettings := do
  let entries := Toml.ofText? (← Environment.textOf file)
  match entries.bind fun entries => ofToml? (.table .header entries) with
  | some s => .ok s
  | none => .error .toml

/-- The variables that override settings, in their order. -/
def overrides : List (Override ServerSettings) :=
  [⟨"PULSEMON_ADDRESS", fun v s => .ok { s with httpAddress := v }⟩,
    ⟨"PULSEMON_GRPC_ADDRESS", fun v s => .ok { s with grpcAddress := Environment.nonBlank v }⟩,
    ⟨"PULSEMON_KEY", fun v s => .ok { s with key := Environment.nonBlank v }⟩,
    ⟨"PULSEMON_STORE_INTERVAL", fun v s =>
      (Environment.unsigned v).map fun n =>
        { s with store := { s.store with intervalSeconds := n } }⟩,
    ⟨"PULSEMON_STORE_PATH", fun v s =>
      .ok { s with store := { s.store with path := Environment.nonBlank v } }⟩,
    ⟨"PULSEMON_RESTORE", fun v s =>
      (Environment.truthValue v).map fun restore => { s with store := { s.store with restore } }⟩,
    ⟨"PULSEMON_DATABASE_DSN", fun v s =>
      .ok { s with store := { s.store with dsn := Environment.nonBlank v } }⟩]

/-- The settings overridden by the environment. -/
def override (s : ServerSettings) (env : Environment) : Except ConfigError Unit × ServerSettings :=
  env.apply overrides s

/-- The settings that a server works with: those of its file, or the standard ones if it is given
none, overridden by the environment. -/
def gather (file : Option (Option ByteArray)) (env : Environment) :
    Except ConfigError ServerSettings := do
  let initial ← file.elim (.ok standard) load
  let (result, s) := initial.override env
  result
  return s

/-- The name of a database with its password masked: what stands between the first colon of the
credentials and the first `@`. A name without a scheme or without credentials is left as it is. -/
def redact (dsn : String) : String :=
  match Text.cutAt "://".toList dsn.toList with
  | none => dsn
  | some (scheme, rest) =>
    match Text.cutAt ['@'] rest with
    | none => dsn
    | some (credentials, host) =>
      let user := credentials.takeWhile (· ≠ ':')
      String.ofList (scheme ++ "://".toList ++ user ++ ":***@".toList ++ host)

/-- The database of the settings as it is logged. -/
def redactedDsn (s : ServerSettings) : Option String := s.store.dsn.map redact

end ServerSettings

end Telemetry

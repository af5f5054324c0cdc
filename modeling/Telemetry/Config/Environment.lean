import Telemetry.Number.Decimal
import Telemetry.Text

/-!
# Configuration

Settings come from a file and are then overridden by variables of the environment, one after
another. A variable that cannot be read stops the overriding; the settings that were overridden
before keep their new values.
-/

namespace Telemetry

/-- Why settings could not be had. -/
inductive ConfigError
  /-- The file could not be read as text. -/
  | io
  /-- The file holds no settings. -/
  | toml
  /-- A variable is no integer. -/
  | integer (cause : IntegerError)
  /-- A variable is no truth value. -/
  | truthValue
  /-- A setting is not accepted. -/
  | refused (text : String)
deriving DecidableEq

/-- The variables that are set. -/
abbrev Environment := String → Option String

/-- A variable with what it changes. -/
structure Override (α : Type) where
  name : String
  change : String → α → Except ConfigError α

namespace ConfigError

/-- The wording of a configuration error. -/
def message : ConfigError → String
  | io => "the configuration file could not be read"
  | toml => "the configuration file is malformed"
  | integer cause => cause.message
  | truthValue => "provided string was not `true` or `false`"
  | refused text => text

end ConfigError

namespace Environment

/-- The text of a file. -/
def textOf (file : Option ByteArray) : Except ConfigError String :=
  match file.bind String.fromUTF8? with
  | some s => .ok s
  | none => .error .io

/-- Variables that are set are taken over one after another, up to the first that is refused. -/
def apply {α : Type} (env : Environment) : List (Override α) → α → Except ConfigError Unit × α
  | [], a => (.ok (), a)
  | o :: rest, a =>
    match env o.name with
    | none => apply env rest a
    | some text =>
      match o.change text a with
      | .ok next => apply env rest next
      | .error e => (.error e, a)

/-- An unsigned integer of 64 bits between blanks. -/
def unsigned (text : String) : Except ConfigError Nat :=
  match readUnsigned UInt64.size (Text.trim text) with
  | .ok n => .ok n
  | .error e => .error (.integer e)

/-- A truth value between blanks. -/
def truthValue (text : String) : Except ConfigError Bool :=
  match Text.trim text with
  | "true" => .ok true
  | "false" => .ok false
  | _ => .error .truthValue

/-- A text that counts as absent if it is blank; otherwise it is kept as it is. -/
def nonBlank (text : String) : Option String := if Text.isAllBlank text then none else some text

end Environment

end Telemetry

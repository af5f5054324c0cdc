import Telemetry.Server.Message
import Telemetry.Text

/-!
# Resources

The paths that the server knows. A path with parameters is cut at its slashes; each parameter is one
piece, percent-encoded, and only the last one must not be empty. The decoding of the parameters is a
step of its own, because it comes after the checks on the request.
-/

namespace Telemetry

/-- A known path. Parameters are as they stand in the path. -/
inductive Resource
  /-- All metrics as text. -/
  | listing
  | ping
  /-- One metric, given in the body. -/
  | update
  /-- A batch, given in the body. -/
  | updates
  /-- One metric, given in the path. -/
  | updatePath (kind name value : List Char)
  /-- A stored metric, asked for in the body. -/
  | value
  /-- A stored metric, asked for in the path. -/
  | valuePath (kind name : List Char)
deriving DecidableEq

namespace Resource

/-- The text behind a word, if it starts with the word. -/
def behind? (word text : List Char) : Option (List Char) :=
  if word.isPrefixOf text then some (text.drop word.length) else none

/-- The resource whose parameters follow `/update/`. -/
def ofUpdate? (parameters : List Char) : Option Resource :=
  match parameters.splitOn '/' with
  | [[]] => some update
  | [kind, name, text] => if text.isEmpty then none else some (updatePath kind name text)
  | _ => none

/-- The resource whose parameters follow `/value/`. -/
def ofValue? (parameters : List Char) : Option Resource :=
  match parameters.splitOn '/' with
  | [[]] => some value
  | [kind, name] => if name.isEmpty then none else some (valuePath kind name)
  | _ => none

/-- The resource of a path. -/
def ofPath? (path : List Char) : Option Resource :=
  if path = ['/'] then some listing
  else if path = "/ping".toList then some ping
  else if path = "/updates/".toList then some updates
  else
    match behind? "/update/".toList path, behind? "/value/".toList path with
    | some parameters, _ => ofUpdate? parameters
    | none, some parameters => ofValue? parameters
    | none, none => none

/-- The resource is only read. -/
def isRead : Resource → Bool
  | listing | ping | valuePath _ _ => true
  | update | updates | updatePath _ _ _ | value => false

/-- The resource takes metrics in. -/
def isUpdate : Resource → Bool
  | update | updates | updatePath _ _ _ => true
  | listing | ping | value | valuePath _ _ => false

/-- The methods of a resource. -/
def allowed (r : Resource) : String := if r.isRead then "GET,HEAD" else "POST"

/-- The resource answers to a method. -/
def allows (r : Resource) : Method → Bool
  | .get | .head => r.isRead
  | .post => !r.isRead
  | .options | .other _ => false

/-- A parameter decoded; the error names the parameter whose bytes are no text. -/
def parameter (name : String) (raw : List Char) : Except String String :=
  match String.fromUTF8? ⟨(Percent.decode (String.ofList raw).toUTF8.data.toList).toArray⟩ with
  | some s => .ok s
  | none => .error name

end Resource

end Telemetry

import Telemetry.Json.Text
import Telemetry.Json.Token
import Telemetry.Number.Decimal

/-!
# Values of JSON and their readers

The tokens of a text are put together to a value, and readers take a value to what it means.
-/

namespace Telemetry

/-! ## JSON values

The tokens of a text are put together to a value by a machine with a stack of the arrays and objects
that are still open. `Builder.step` takes one token, so the run is a fold and no nesting is too
deep.

A value keeps its strings and numbers as they were written; what they mean is decided by whoever
reads them.
-/

/-- A JSON value. -/
inductive Json
  | null
  | bool (b : Bool)
  | number (digits : List Char)
  | text (raw : List UInt8)
  | array (items : List Json)
  | object (members : List (List UInt8 × Json))

namespace Json

/-- An array or object that is still open. -/
inductive Frame
  /-- An array; its items so far, latest first. -/
  | array (items : List Json)
  /-- An object; its members so far, latest first, and the key whose value is being read. -/
  | object (members : List (List UInt8 × Json)) (key : List UInt8)

/-- What is read next; `outer` are the open arrays and objects, innermost first. -/
inductive Builder
  /-- A value. -/
  | value (outer : List Frame)
  /-- The first item of an array, or its end. -/
  | item (outer : List Frame)
  /-- The first key of an object, or its end. -/
  | member (outer : List Frame)
  /-- A key, behind a comma. -/
  | key (members : List (List UInt8 × Json)) (outer : List Frame)
  /-- The colon behind a key. -/
  | colon (members : List (List UInt8 × Json)) (key : List UInt8) (outer : List Frame)
  /-- What comes after a complete value. -/
  | after (value : Json) (outer : List Frame)

namespace Builder

/-- The first token of a value. -/
def first (outer : List Frame) : Token → Option Builder
  | .null => some (after .null outer)
  | .bool b => some (after (.bool b) outer)
  | .number digits => some (after (.number digits) outer)
  | .text raw => some (after (.text raw) outer)
  | .openBracket => some (item outer)
  | .openBrace => some (member outer)
  | _ => none

/-- One token further. -/
def step : Builder → Token → Option Builder
  | value outer, token => first outer token
  | item outer, .closeBracket => some (after (.array []) outer)
  | item outer, token => first (.array [] :: outer) token
  | member outer, .closeBrace => some (after (.object []) outer)
  | member outer, .text raw => some (colon [] raw outer)
  | member _, _ => none
  | key members outer, .text raw => some (colon members raw outer)
  | key _ _, _ => none
  | colon members k outer, .colon => some (value (.object members k :: outer))
  | colon _ _ _, _ => none
  | after v (.array items :: outer), .comma => some (value (.array (v :: items) :: outer))
  | after v (.array items :: outer), .closeBracket =>
      some (after (.array (v :: items).reverse) outer)
  | after v (.object members k :: outer), .comma => some (key ((k, v) :: members) outer)
  | after v (.object members k :: outer), .closeBrace =>
      some (after (.object ((k, v) :: members).reverse) outer)
  | after _ _, _ => none

/-- The value, if it is complete. -/
def finish : Builder → Option Json
  | after v [] => some v
  | _ => none

end Builder

/-- The value of a list of tokens. -/
def ofTokens? (tokens : List Token) : Option Json :=
  (tokens.foldlM Builder.step (.value [])).bind Builder.finish

/-- The value of a text. -/
def ofBytes? (bytes : List UInt8) : Option Json := (tokens? bytes).bind ofTokens?

end Json

/-! ## Reading JSON values

Readers take a value to what it means, or refuse it. A record is written as an object, whose members
may stand in any order and among unknown ones, or as an array of its fields in order; `Json.record?`
serves both forms. A field that may be absent may also be `null`.
-/

namespace Json

/-- The text of a string. -/
def asText? : Json → Option String
  | .text raw => decodeText? raw
  | _ => none

/-- A truth value. -/
def asBool? : Json → Option Bool
  | .bool b => some b
  | _ => none

/-- An integer written without point and exponent. The negative zero is not an integer. -/
def asInt? : Json → Option Int
  | .number digits => if digits = ['-', '0'] then none else readInt? digits
  | _ => none

/-- A signed integer of 64 bits. -/
def asInt64? (v : Json) : Option Int64 := v.asInt?.bind toInt64?

/-- An unsigned integer of 64 bits. -/
def asUnsigned? (v : Json) : Option Nat :=
  match v.asInt? with
  | some (.ofNat n) => if n < UInt64.size then some n else none
  | _ => none

/-- A number that is finite as a floating-point number. -/
def asBinary64? : Json → Option Binary64
  | .number digits => (Binary64.read? (String.ofList digits)).filter Binary64.isFinite
  | _ => none

/-- A field that may be absent or `null`. -/
def optional? {α : Type} (read : Json → Option α) : Option Json → Option (Option α)
  | none => some none
  | some .null => some none
  | some v => (read v).map some

/-- A field that may be absent, but not `null`, and then has a value of its own. -/
def withDefault? {α : Type} (read : Json → Option α) (default : α) : Option Json → Option α
  | none => some default
  | some v => read v

/-- The items of an array. -/
def asItems? : Json → Option (List Json)
  | .array items => some items
  | _ => none

/-- The members of an object, their keys decoded. -/
def asMembers? : Json → Option (List (String × Json))
  | .object members => members.mapM fun m => (decodeText? m.1).map fun key => (key, m.2)
  | _ => none

/-- The value of a field among the members; `none` if it is given twice. -/
def field? (members : List (String × Json)) (name : String) : Option (Option Json) :=
  match members.filter fun m => m.1 = name with
  | [] => some none
  | [m] => some (some m.2)
  | _ => none

/-- The fields of a record in the order of their names. -/
def record? (names : List String) : Json → Option (List (Option Json))
  | .array items =>
    if items.length ≤ names.length then
      some (items.map some ++ List.replicate (names.length - items.length) none)
    else none
  | .object raw => do
    let members ← asMembers? (.object raw)
    names.mapM (field? members)
  | _ => none

/-- The name of an alternative without contents: a string, or an object that maps the name to
`null`. -/
def asAlternative? : Json → Option String
  | .text raw => decodeText? raw
  | .object [(key, .null)] => decodeText? key
  | _ => none

end Json

end Telemetry

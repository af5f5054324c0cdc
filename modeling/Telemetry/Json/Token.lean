/-!
# JSON tokens

A JSON text is cut into tokens byte by byte: `Scanner.step` takes the scanner over one byte, and the
run over the whole text is a fold. The scanner decides the syntax of literals, numbers and strings.
What stands in a string is kept as it was written: escapes are checked for their form but not
resolved, and bytes outside ASCII are not looked at, because a string that nobody reads may hold
anything.
-/

namespace Telemetry

namespace Json

/-- The tokens of a JSON text. -/
inductive Token
  | openBrace
  | closeBrace
  | openBracket
  | closeBracket
  | colon
  | comma
  | null
  | bool (b : Bool)
  /-- The bytes between the quotes. -/
  | text (raw : List UInt8)
  /-- The characters of a number. -/
  | number (digits : List Char)
deriving DecidableEq

/-- How far a number has been read. -/
inductive NumberPart
  /-- Behind the minus sign. -/
  | minus
  /-- Behind a leading zero. -/
  | zero
  /-- Among the digits before the point. -/
  | whole
  /-- Behind the point. -/
  | point
  /-- Among the digits after the point. -/
  | fraction
  /-- Behind the `e`. -/
  | mark
  /-- Behind the sign of the exponent. -/
  | sign
  /-- Among the digits of the exponent. -/
  | exponent
deriving DecidableEq

/-- The character is one of the digits of JSON. -/
def isDecimal (c : Char) : Bool := '0' ≤ c && c ≤ '9'

namespace NumberPart

/-- A number may end here. -/
def isComplete : NumberPart → Bool
  | zero | whole | fraction | exponent => true
  | minus | point | mark | sign => false

/-- The part that a character leads to, if it continues the number. -/
def next? (part : NumberPart) (c : Char) : Option NumberPart :=
  match part with
  | minus => if c = '0' then some zero else if isDecimal c then some whole else none
  | zero => if c = '.' then some point else if c = 'e' || c = 'E' then some mark else none
  | whole =>
    if isDecimal c then some whole
    else if c = '.' then some point
    else if c = 'e' || c = 'E' then some mark
    else none
  | point => if isDecimal c then some fraction else none
  | fraction =>
      if isDecimal c then some fraction else if c = 'e' || c = 'E' then some mark else none
  | mark => if isDecimal c then some exponent else if c = '+' || c = '-' then some sign else none
  | sign => if isDecimal c then some exponent else none
  | exponent => if isDecimal c then some exponent else none

end NumberPart

/-- What the scanner is in the middle of. -/
inductive Reading
  /-- Between tokens. -/
  | nothing
  /-- In a literal, of which `rest` is to come. -/
  | word (rest : List Char) (token : Token)
  /-- In a string; its bytes so far, latest first. -/
  | text (seen : List UInt8)
  /-- Behind a backslash in a string. -/
  | escape (seen : List UInt8)
  /-- In the digits of an escaped code unit, of which `missing` are to come. -/
  | unit (missing : Nat) (seen : List UInt8)
  /-- In a number; its characters so far, latest first. -/
  | number (part : NumberPart) (seen : List Char)

/-- A scanner: what it is in the middle of, and the tokens it has found, latest first. -/
structure Scanner where
  reading : Reading
  tokens : List Token

namespace Scanner

/-- Nothing read yet. -/
def start : Scanner := ⟨.nothing, []⟩

/-- A token is complete. -/
def found (tokens : List Token) (token : Token) : Scanner := ⟨.nothing, token :: tokens⟩

/-- The first character of a token, or a blank. -/
def first (tokens : List Token) (c : Char) : Option Scanner :=
  match c with
  | ' ' | '\t' | '\n' | '\r' => some ⟨.nothing, tokens⟩
  | '{' => some (found tokens .openBrace)
  | '}' => some (found tokens .closeBrace)
  | '[' => some (found tokens .openBracket)
  | ']' => some (found tokens .closeBracket)
  | ':' => some (found tokens .colon)
  | ',' => some (found tokens .comma)
  | '"' => some ⟨.text [], tokens⟩
  | 'n' => some ⟨.word ['u', 'l', 'l'] .null, tokens⟩
  | 't' => some ⟨.word ['r', 'u', 'e'] (.bool true), tokens⟩
  | 'f' => some ⟨.word ['a', 'l', 's', 'e'] (.bool false), tokens⟩
  | '-' => some ⟨.number .minus ['-'], tokens⟩
  | '0' => some ⟨.number .zero ['0'], tokens⟩
  | c => if isDecimal c then some ⟨.number .whole [c], tokens⟩ else none

/-- The character may stand behind a backslash. -/
def isEscape (c : Char) : Bool :=
  c = '"' || c = '\\' || c = '/' || c = 'b' || c = 'f' || c = 'n' || c = 'r' || c = 't'

/-- The character is a hexadecimal digit. -/
def isHexadecimal (c : Char) : Bool :=
  isDecimal c || ('a' ≤ c && c ≤ 'f') || ('A' ≤ c && c ≤ 'F')

/-- One byte further. -/
def step (s : Scanner) (b : UInt8) : Option Scanner :=
  let c := Char.ofNat b.toNat
  match s.reading with
  | .nothing => first s.tokens c
  | .word [] _ => none
  | .word [last] token => if c = last then some (found s.tokens token) else none
  | .word (next :: rest) token => if c = next then some ⟨.word rest token, s.tokens⟩ else none
  | .text seen =>
    if c = '"' then some (found s.tokens (.text seen.reverse))
    else if c = '\\' then some ⟨.escape (b :: seen), s.tokens⟩
    else if b < 0x20 then none
    else some ⟨.text (b :: seen), s.tokens⟩
  | .escape seen =>
    if c = 'u' then some ⟨.unit 4 (b :: seen), s.tokens⟩
    else if isEscape c then some ⟨.text (b :: seen), s.tokens⟩
    else none
  | .unit missing seen =>
    if isHexadecimal c then
      some ⟨if missing ≤ 1 then .text (b :: seen) else .unit (missing - 1) (b :: seen), s.tokens⟩
    else none
  | .number part seen =>
    match part.next? c with
    | some part => some ⟨.number part (c :: seen), s.tokens⟩
    | none => if part.isComplete then first (.number seen.reverse :: s.tokens) c else none

/-- The tokens, in order, if the text may end here. -/
def finish (s : Scanner) : Option (List Token) :=
  match s.reading with
  | .nothing => some s.tokens.reverse
  | .number part seen =>
      if part.isComplete then some (.number seen.reverse :: s.tokens).reverse else none
  | _ => none

end Scanner

/-- The tokens of a text. -/
def tokens? (bytes : List UInt8) : Option (List Token) :=
  (bytes.foldlM Scanner.step Scanner.start).bind Scanner.finish

end Json

end Telemetry

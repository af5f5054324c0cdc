import Telemetry.Number.Binary64

/-!
# Numbers as texts

Integers and decimal numbers as they are read from texts, and the range of the integers.
-/

namespace Telemetry

/-! ## Integers in base ten

Reading and range checks for the integers of this library: counters are signed 64-bit words,
settings are unsigned ones. Only the ASCII digits count as digits, and no blank or separator is
skipped.

`Int64.addChecked` is the addition of counters: the exact sum where it fits, nothing where it does
not.
-/

/-- The value of an ASCII digit. -/
def digit? (c : Char) : Option Nat :=
  if '0' ≤ c ∧ c ≤ '9' then some (c.toNat - '0'.toNat) else none

/-- The character is an ASCII digit. -/
def isDigit (c : Char) : Bool := (digit? c).isSome

/-- The number written by a list of digits, most significant first; `none` if some character is no
digit. -/
def digitsValue? (cs : List Char) : Option Nat :=
  cs.foldlM (fun value c => (digit? c).map (10 * value + ·)) 0

/-- A non-empty list of digits as a number. -/
def readDigits? (cs : List Char) : Option Nat :=
  if cs.isEmpty then none else digitsValue? cs

/-- An optional sign followed by at least one digit, as an integer of any size. -/
def readInt? : List Char → Option Int
  | '+' :: cs => (readDigits? cs).map Int.ofNat
  | '-' :: cs => (readDigits? cs).map fun n => -(n : Int)
  | cs => (readDigits? cs).map Int.ofNat

/-- The 64-bit word of an integer, if it is in range. -/
def toInt64? (n : Int) : Option Int64 :=
  if Int64.minValue.toInt ≤ n ∧ n ≤ Int64.maxValue.toInt then some (Int64.ofInt n) else none

/-- The sum of two counters, if it is in range. -/
def addChecked (a b : Int64) : Option Int64 := toInt64? (a.toInt + b.toInt)

/-- A signed 64-bit integer in base ten. -/
def readInt64? (s : String) : Option Int64 := (readInt? s.toList).bind toInt64?

/-- Why a text is no unsigned integer. -/
inductive IntegerError
  | empty
  | invalidDigit
  | tooLarge
deriving DecidableEq

namespace IntegerError

/-- The wording of an integer error. -/
def message : IntegerError → String
  | empty => "cannot parse integer from empty string"
  | invalidDigit => "invalid digit found in string"
  | tooLarge => "number too large to fit in target type"

end IntegerError

/-- The digits are read from the left, so the first one that is no digit or leaves the range decides
the error. -/
def readDigitsBelow (limit : Nat) (value : Nat) : List Char → Except IntegerError Nat
  | [] => .ok value
  | c :: cs =>
    match digit? c with
    | none => .error .invalidDigit
    | some d =>
      if 10 * value + d < limit then readDigitsBelow limit (10 * value + d) cs
      else .error .tooLarge

/-- An unsigned integer below `limit`, with an optional plus sign. -/
def readUnsigned (limit : Nat) (s : String) : Except IntegerError Nat :=
  match s.toList with
  | [] => .error .empty
  | ['+'] => .error .invalidDigit
  | '+' :: cs => readDigitsBelow limit 0 cs
  | cs => readDigitsBelow limit 0 cs

/-! ## Decimal numbers as text

The syntax of decimal numbers and their value as floating-point numbers. A decimal number is digits
with an optional point among, before or behind them, and an optional exponent; at least one digit
stands before the exponent. Values are rounded correctly, and a value out of range becomes an
infinity.
-/

namespace Decimal

/-- The exponent part behind the digits: nothing, or `e` and a signed integer. -/
def readExponent? : List Char → Option Int
  | [] => some 0
  | c :: cs => if c = 'e' ∨ c = 'E' then readInt? cs else none

/-- Digits, a fraction and an exponent put together. -/
def assemble? (whole fraction : List Char) (rest : List Char) : Option Decimal := do
  let coefficient ← readDigits? (whole ++ fraction)
  let exponent ← readExponent? rest
  return ⟨coefficient, exponent - fraction.length⟩

/-- A decimal number without a sign. -/
def read? (cs : List Char) : Option Decimal :=
  let whole := cs.takeWhile isDigit
  match cs.dropWhile isDigit with
  | '.' :: rest => assemble? whole (rest.takeWhile isDigit) (rest.dropWhile isDigit)
  | rest => assemble? whole [] rest

end Decimal

namespace Binary64

/-- The names of what is not finite, in any case. -/
def readName? (cs : List Char) : Option Nat :=
  match cs.map Char.toLower with
  | ['i', 'n', 'f'] => some infinityRank
  | ['i', 'n', 'f', 'i', 'n', 'i', 't', 'y'] => some infinityRank
  | ['n', 'a', 'n'] => some (infinityRank + exponentWeight / 2)
  | _ => none

/-- The rank of a number text without a sign. -/
def readRank? (cs : List Char) : Option Nat :=
  match Decimal.read? cs with
  | some d => some d.nearestRank
  | none => readName? cs

/-- A number text: an optional sign, then a decimal number or a name. -/
def read? (s : String) : Option Binary64 :=
  match s.toList with
  | '-' :: cs => (readRank? cs).map (ofRank true)
  | '+' :: cs => (readRank? cs).map (ofRank false)
  | cs => (readRank? cs).map (ofRank false)

end Binary64

end Telemetry

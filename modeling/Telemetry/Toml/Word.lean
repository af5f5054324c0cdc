import Telemetry.Number.Decimal
import Telemetry.Text

/-!
# Words of TOML

Truth values, numbers and moments are words: runs of letters, digits and a few marks. A word means
something only as a whole.

* An integer is written in base ten, with an optional sign and no leading zero, or behind `0x`,
  `0o`, `0b`. It has to fit 64 bits.
* A floating-point number has a fraction or an exponent, or is named. It must not round to the
  positive infinity.
* In all numbers single underscores may stand between digits.
* A moment is a date, a time, or both with an optional offset; the ranges of its fields are checked,
  the moment itself is not kept.
-/

namespace Telemetry

namespace Toml

/-- The characters of words. -/
def isWordChar (c : Char) : Bool :=
  c.isAlphanum || c = '_' || c = '+' || c = '-' || c = '.' || c = ':'

/-! ## Numbers -/

/-- The digits of a run in which single underscores stand between digits; `none` for any other run.
-/
def digitRun? (isDigitHere : Char → Bool) : List Char → Option (List Char)
  | [] => none
  | [c] => if isDigitHere c then some [c] else none
  | c :: '_' :: d :: rest =>
    if isDigitHere c && isDigitHere d then (digitRun? isDigitHere (d :: rest)).map (c :: ·)
    else none
  | c :: rest => if isDigitHere c then (digitRun? isDigitHere rest).map (c :: ·) else none

/-- A word without its sign, and whether the sign is a minus. -/
def unsigned : List Char → Bool × List Char
  | '+' :: rest => (false, rest)
  | '-' :: rest => (true, rest)
  | cs => (false, cs)

/-- Digits in base ten without a leading zero. -/
def decimalRun? (cs : List Char) : Option (List Char) :=
  match digitRun? isDigit cs with
  | some ('0' :: _ :: _) => none
  | digits => digits

/-- The number of digits in a base. -/
def inBase (base : Nat) (digits : List Char) : Nat :=
  digits.foldl (fun n c => base * n + (Hex.value? c).getD 0) 0

/-- The character is a digit in a base up to sixteen. -/
def isDigitIn (base : Nat) (c : Char) : Bool :=
  match Hex.value? c with
  | some d => d < base
  | none => false

/-- An integer. -/
def integer? (cs : List Char) : Option Int :=
  let value : Option Int :=
    match cs with
    | '0' :: 'x' :: digits => (digitRun? (isDigitIn 16) digits).map fun ds => (inBase 16 ds : Int)
    | '0' :: 'o' :: digits => (digitRun? (isDigitIn 8) digits).map fun ds => (inBase 8 ds : Int)
    | '0' :: 'b' :: digits => (digitRun? (isDigitIn 2) digits).map fun ds => (inBase 2 ds : Int)
    | cs =>
      let (negative, digits) := unsigned cs
      (decimalRun? digits).map fun ds => if negative then -(inBase 10 ds : Int) else inBase 10 ds
  value.filter fun n => (toInt64? n).isSome

/-- The exponent of a number: nothing, or `e`, an optional sign and digits. -/
def exponent? : List Char → Option (List Char)
  | [] => some []
  | c :: rest =>
    if c = 'e' ∨ c = 'E' then
      let (negative, digits) := unsigned rest
      (digitRun? isDigit digits).map fun ds => 'e' :: (if negative then '-' :: ds else ds)
    else none

/-- The character ends the part of a number before it. -/
def endsPart (c : Char) : Bool := c = '.' || c = 'e' || c = 'E'

/-- The digits, the fraction and the exponent of a number without its sign. -/
def floatText? (cs : List Char) : Option (List Char) := do
  let whole ← decimalRun? (cs.takeWhile fun c => !endsPart c)
  match cs.dropWhile fun c => !endsPart c with
  | [] => none
  | '.' :: rest =>
    let fraction ← digitRun? isDigit (rest.takeWhile fun c => !endsPart c)
    return whole ++ '.' :: fraction ++ (← exponent? (rest.dropWhile fun c => !endsPart c))
  | rest => return whole ++ (← exponent? rest)

/-- A floating-point number. -/
def float? (cs : List Char) : Option Binary64 := do
  let (negative, rest) := unsigned cs
  if rest = "inf".toList ∨ rest = "nan".toList then
    (Binary64.readRank? rest).map (Binary64.ofRank negative)
  else
    let x ← (Binary64.readRank? (← floatText? rest)).map (Binary64.ofRank negative)
    if !negative && !x.isFinite then none else some x

/-! ## Moments -/

/-- Two digits with a value in a range. -/
def twoDigits? (first last : Nat) (cs : List Char) : Option (Nat × List Char) :=
  match cs with
  | a :: b :: rest =>
    match readDigits? [a, b] with
    | some n => if first ≤ n ∧ n ≤ last then some (n, rest) else none
    | none => none
  | _ => none

/-- A text without a mark at its start. -/
def mark? (mark : Char) : List Char → Option (List Char)
  | c :: rest => if c = mark then some rest else none
  | [] => none

/-- The days of a month. -/
def daysIn (year month : Nat) : Nat :=
  if month = 2 then (if year % 4 = 0 ∧ (year % 100 ≠ 0 ∨ year % 400 = 0) then 29 else 28)
  else if month = 4 ∨ month = 6 ∨ month = 9 ∨ month = 11 then 30
  else 31

/-- What follows a date. -/
def afterDate? (cs : List Char) : Option (List Char) := do
  let year ← readDigits? (cs.take 4)
  guard (4 ≤ cs.length)
  let (month, rest) ← twoDigits? 1 12 (← mark? '-' (cs.drop 4))
  let (_, rest) ← twoDigits? 1 (daysIn year month) (← mark? '-' rest)
  return rest

/-- What follows a time of a day. -/
def afterTime? (cs : List Char) : Option (List Char) := do
  let (_, rest) ← twoDigits? 0 23 cs
  let (_, rest) ← twoDigits? 0 59 (← mark? ':' rest)
  let (_, rest) ← twoDigits? 0 60 (← mark? ':' rest)
  match rest with
  | '.' :: behind =>
      if (behind.takeWhile isDigit).isEmpty then none else some (behind.dropWhile isDigit)
  | _ => some rest

/-- The text is an offset from universal time. -/
def isOffset (cs : List Char) : Bool :=
  match cs with
  | ['Z'] => true
  | ['z'] => true
  | sign :: rest =>
    (sign = '+' || sign = '-') &&
      ((do
        let (_, rest) ← twoDigits? 0 23 rest
        let (_, rest) ← twoDigits? 0 59 (← mark? ':' rest)
        return rest.isEmpty : Option Bool).getD false)
  | [] => false

/-- The text is a time with an optional offset. -/
def isTimeWithOffset (cs : List Char) : Bool :=
  match afterTime? cs with
  | some rest => rest.isEmpty || isOffset rest
  | none => false

/-- The text is a date. -/
def isDate (cs : List Char) : Bool := afterDate? cs = some []

/-- The text is a moment. -/
def isMoment (cs : List Char) : Bool :=
  afterTime? cs = some [] ||
    match afterDate? cs with
    | some [] => true
    | some (c :: rest) => (c = 'T' || c = 't') && isTimeWithOffset rest
    | none => false

end Toml

end Telemetry

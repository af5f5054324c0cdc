/-!
# Texts

What readers and writers of texts have in common: the blanks around a text, the place at which it is
cut, and the two ways in which bytes are written with digits of base sixteen.
-/

namespace Telemetry

/-! ## Blank characters

The characters with the Unicode property `White_Space`, and the removal of them at the ends of a
text.
-/

/-- The ranges of the Unicode property `White_Space`. -/
def blankRanges : List (Nat × Nat) :=
  [(0x09, 0x0D), (0x20, 0x20), (0x85, 0x85), (0xA0, 0xA0), (0x1680, 0x1680), (0x2000, 0x200A),
    (0x2028, 0x2029), (0x202F, 0x202F), (0x205F, 0x205F), (0x3000, 0x3000)]

/-- The character is white space. -/
def isBlank (c : Char) : Bool :=
  blankRanges.any fun (first, last) => first ≤ c.toNat && c.toNat ≤ last

namespace Text

/-- A list without the leading elements that satisfy `p`, nor the trailing ones. -/
def stripBoth {α : Type} (p : α → Bool) (xs : List α) : List α :=
  ((xs.dropWhile p).reverse.dropWhile p).reverse

/-- A text without the blanks at its ends. -/
def trim (s : String) : String := String.ofList (stripBoth isBlank s.toList)

/-- There is nothing in a text but blanks. -/
def isAllBlank (s : String) : Bool := s.toList.all isBlank

end Text

/-! ## Cutting texts

A text cut at the first place where a mark stands.
-/

namespace Text

/-- What stands before and behind the first copy of a mark; `none` if there is none. -/
def cutAt (mark : List Char) : List Char → Option (List Char × List Char)
  | [] => if mark.isEmpty then some ([], []) else none
  | c :: cs =>
    if mark.isPrefixOf (c :: cs) then some ([], (c :: cs).drop mark.length)
    else (cutAt mark cs).map fun (before, behind) => (c :: before, behind)

end Text

/-! ## Bytes in base sixteen

Two digits a byte, written in lower case and read in either case.
-/

namespace Hex

/-- The lower-case digit of a value below sixteen. -/
def digit (n : Nat) : Char :=
  if n < 10 then Char.ofNat ('0'.toNat + n) else Char.ofNat ('a'.toNat + (n - 10))

/-- The upper-case digit of a value below sixteen. -/
def upperDigit (n : Nat) : Char :=
  if n < 10 then Char.ofNat ('0'.toNat + n) else Char.ofNat ('A'.toNat + (n - 10))

/-- The value of a digit in either case. -/
def value? (c : Char) : Option Nat :=
  if '0' ≤ c ∧ c ≤ '9' then some (c.toNat - '0'.toNat)
  else if 'a' ≤ c ∧ c ≤ 'f' then some (c.toNat - 'a'.toNat + 10)
  else if 'A' ≤ c ∧ c ≤ 'F' then some (c.toNat - 'A'.toNat + 10)
  else none

/-- The two digits of a byte. -/
def ofByte (b : UInt8) : List Char := [digit (b.toNat / 16), digit (b.toNat % 16)]

/-- The digits of a list of bytes. -/
def encode (bytes : List UInt8) : List Char := bytes.flatMap ofByte

/-- The bytes of a list of digits; `none` for an odd count or a character that is no digit. -/
def decode? : List Char → Option (List UInt8)
  | [] => some []
  | [_] => none
  | high :: low :: rest => do
    let h ← value? high
    let l ← value? low
    let bytes ← decode? rest
    return UInt8.ofNat (16 * h + l) :: bytes

/-- The digits of a number of any size, without leading zeros. -/
def ofNat (n : Nat) : List Char := (Nat.toDigits 16 n)

end Hex

/-! ## Percent encoding

Bytes that have a meaning of their own in an address are written as a percent sign and two
hexadecimal digits. Writing takes the set of bytes to be escaped; reading leaves a percent sign
alone if no two digits follow.
-/

namespace Percent

/-- The value of a byte that is a hexadecimal digit. -/
def digit? (b : UInt8) : Option Nat := Hex.value? (Char.ofNat b.toNat)

/-- The bytes that a percent-encoded list of bytes stands for. -/
def decode : List UInt8 → List UInt8
  | [] => []
  | 37 :: high :: low :: rest =>
    match digit? high, digit? low with
    | some h, some l => UInt8.ofNat (16 * h + l) :: decode rest
    | _, _ => 37 :: decode (high :: low :: rest)
  | b :: rest => b :: decode rest

/-- A byte as a percent sign and two digits. -/
def ofByte (b : UInt8) : List Char :=
  ['%', Hex.upperDigit (b.toNat / 16), Hex.upperDigit (b.toNat % 16)]

/-- A byte that is not escaped stands for its ASCII character. -/
def encodeByte (escaped : UInt8 → Bool) (b : UInt8) : List Char :=
  if escaped b then ofByte b else [Char.ofNat b.toNat]

/-- A text with the bytes of a set escaped. -/
def encode (escaped : UInt8 → Bool) (s : String) : List Char :=
  s.toUTF8.data.toList.flatMap (encodeByte escaped)

/-- Controls and bytes beyond ASCII, which are escaped everywhere. -/
def isControlOrWide (b : UInt8) : Bool := b < 32 || 126 < b

/-- A set of further ASCII characters. -/
def escapes (extra : String) (b : UInt8) : Bool :=
  isControlOrWide b || extra.toList.any fun c => c.toNat = b.toNat

end Percent

end Telemetry

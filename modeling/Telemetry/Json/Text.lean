import Telemetry.Text

/-!
# Strings of JSON

`Json.decodeText?` gives the text that a string of JSON stands for, `Json.encodeText` writes one. A
string is decoded in two steps: the escapes are told apart from the plain bytes, then code units are
paired and everything is put together as UTF-8.
-/

namespace Telemetry

namespace Json

/-- A piece of a string: a byte that stands for itself, or an escaped UTF-16 code unit. -/
inductive Piece
  | byte (b : UInt8)
  | unit (n : Nat)

/-- The value of four hexadecimal digits. -/
def unitOfDigits? (digits : List UInt8) : Option Nat :=
  digits.foldlM (fun n b => (Hex.value? (Char.ofNat b.toNat)).map (16 * n + ·)) 0

/-- The byte that a one-letter escape stands for. -/
def escaped? (b : UInt8) : Option UInt8 :=
  match Char.ofNat b.toNat with
  | '"' => some 0x22
  | '\\' => some 0x5c
  | '/' => some 0x2f
  | 'b' => some 0x08
  | 'f' => some 0x0c
  | 'n' => some 0x0a
  | 'r' => some 0x0d
  | 't' => some 0x09
  | _ => none

/-- The pieces of a string. -/
def pieces? : List UInt8 → Option (List Piece)
  | [] => some []
  | 0x5c :: 0x75 :: a :: b :: c :: d :: rest => do
    let n ← unitOfDigits? [a, b, c, d]
    return .unit n :: (← pieces? rest)
  | 0x5c :: e :: rest => do
    let b ← escaped? e
    return .byte b :: (← pieces? rest)
  | b :: rest => (pieces? rest).map (.byte b :: ·)

/-- The UTF-8 bytes of a code point. -/
def utf8 (codePoint : Nat) : List UInt8 := String.utf8EncodeChar (Char.ofNat codePoint)

/-- The code unit is the first of a pair. -/
def isHigh (n : Nat) : Bool := 0xd800 ≤ n && n < 0xdc00

/-- The code unit is the second of a pair. -/
def isLow (n : Nat) : Bool := 0xdc00 ≤ n && n < 0xe000

/-- The bytes of a list of pieces; a code unit that lacks its partner has none. -/
def bytes? : List Piece → Option (List UInt8)
  | [] => some []
  | .byte b :: rest => (bytes? rest).map (b :: ·)
  | .unit n :: .unit m :: rest =>
    if isHigh n then
      if isLow m then (bytes? rest).map (utf8 (0x10000 + (n - 0xd800) * 0x400 + (m - 0xdc00)) ++ ·)
      else none
    else if isLow n then none
    else (bytes? (.unit m :: rest)).map (utf8 n ++ ·)
  | .unit n :: rest => if isHigh n || isLow n then none else (bytes? rest).map (utf8 n ++ ·)

/-- The text of a string. -/
def decodeText? (raw : List UInt8) : Option String := do
  let bytes ← bytes? (← pieces? raw)
  String.fromUTF8? ⟨bytes.toArray⟩

/-- One character inside quotes. -/
def encodeChar (c : Char) : List Char :=
  match c with
  | '"' => ['\\', '"']
  | '\\' => ['\\', '\\']
  | '\x08' => ['\\', 'b']
  | '\x0c' => ['\\', 'f']
  | '\n' => ['\\', 'n']
  | '\r' => ['\\', 'r']
  | '\t' => ['\\', 't']
  | c =>
      if c.toNat < 0x20 then '\\' :: 'u' :: '0' :: '0' :: Hex.ofByte (UInt8.ofNat c.toNat) else [c]

/-- A text as a string of JSON. -/
def encodeText (s : String) : List Char := '"' :: (s.toList.flatMap encodeChar ++ ['"'])

end Json

end Telemetry

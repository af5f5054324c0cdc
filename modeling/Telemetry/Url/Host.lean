import Telemetry.Number.Decimal
import Telemetry.Text
import Telemetry.Url.HostName

/-!
# Hosts

The host of an address in its one normal form. A host in brackets is an address of 128 bits and is
written in its shortest form. The host of a scheme that is looked up in the network is decoded and
written as a name in ASCII; if its last part is a number, it is an address of 32 bits, written as
four numbers. The host of any other scheme is kept, its controls escaped.
-/

namespace Telemetry

namespace Host

/-! ## Addresses of 32 bits -/

/-- A number in a base up to sixteen; the empty list of digits is zero. -/
def inBase? (base : Nat) (digits : List Char) : Option Nat :=
  digits.foldlM (fun n c =>
    match Hex.value? c with
    | some d => if d < base then some (base * n + d) else none
    | none => none) 0

/-- One part of an address: in base ten, or in base eight or sixteen behind `0` and `0x`. -/
def part? (cs : List Char) : Option Nat :=
  match cs with
  | [] => none
  | '0' :: 'x' :: digits => inBase? 16 digits
  | '0' :: 'X' :: digits => inBase? 16 digits
  | '0' :: c :: digits => inBase? 8 (c :: digits)
  | digits => inBase? 10 digits

/-- The parts of a host between its dots; one dot may stand at the end. -/
def parts (cs : List Char) : List (List Char) :=
  let all := cs.splitOn '.'
  match all.reverse with
  | [] :: before :: rest => (before :: rest).reverse
  | _ => all

/-- The last part is a number, so the host must be an address. -/
def endsInNumber (cs : List Char) : Bool :=
  match (parts cs).getLast? with
  | some last => !last.isEmpty && (last.all isDigit || (part? last).isSome)
  | none => false

/-- The address of its parts: each part but the last is one byte, the last one fills what is left.
-/
def address32? (numbers : List Nat) : Option Nat :=
  match numbers.reverse with
  | last :: before =>
    let leading := before.reverse
    if leading.length < 4 ∧ leading.all (· < 256) ∧ last < 1 <<< (8 * (4 - leading.length)) then
      some (leading.foldl (fun n part => 256 * n + part) 0 <<< (8 * (4 - leading.length)) + last)
    else none
  | [] => none

/-- An address of 32 bits in four numbers. -/
def text32 (n : Nat) : List Char :=
  (String.intercalate "." ([3, 2, 1, 0].map fun i => toString ((n >>> (8 * i)) % 256))).toList

/-! ## Addresses of 128 bits -/

/-- One piece of an address: up to four hexadecimal digits. -/
def piece? (cs : List Char) : Option Nat :=
  if cs.isEmpty || 4 < cs.length then none else inBase? 16 cs

/-- A number of an address of 32 bits inside one of 128 bits: base ten, no leading zero, at most
255. -/
def byte? (cs : List Char) : Option Nat :=
  match cs with
  | [] => none
  | '0' :: _ :: _ => none
  | digits => (inBase? 10 digits).filter (· < 256)

/-- The pieces between colons; the last one may be an address of 32 bits, which makes two pieces. -/
def pieces? (groups : List (List Char)) : Option (List Nat) :=
  match groups.reverse with
  | [] => some []
  | last :: before => do
    let leading ← before.reverse.mapM piece?
    let trailing ←
      if last.contains '.' then
        match ← (last.splitOn '.').mapM byte? with
        | [a, b, c, d] => some [256 * a + b, 256 * c + d]
        | _ => none
      else (piece? last).map fun n => [n]
    return leading ++ trailing

/-- The pieces of a text without the double colon; an empty text has none. -/
def side? (cs : List Char) : Option (List Nat) :=
  if cs.isEmpty then some [] else pieces? (cs.splitOn ':')

/-- The eight pieces of an address; a double colon stands for one or more pieces that are zero. -/
def address128? (cs : List Char) : Option (List Nat) :=
  match Text.cutAt [':', ':'] cs with
  | none => (side? cs).filter fun pieces => pieces.length = 8
  | some (before, behind) => do
    let left ← side? before
    let right ← side? behind
    if before.contains '.' then none
    else if left.length + right.length < 8 then
      some (left ++ List.replicate (8 - left.length - right.length) 0 ++ right)
    else none

/-- The number of leading zeros. -/
def zeros (pieces : List Nat) : Nat := (pieces.takeWhile (· = 0)).length

/-- Where the first longest run of at least two zeros starts and how long it is. -/
def longestRun (pieces : List Nat) : Nat × Nat :=
  (List.range pieces.length).foldl (fun best i =>
    let length := zeros (pieces.drop i)
    if best.2 < length ∧ 1 < length then (i, length) else best) (0, 0)

/-- Pieces with colons between them. -/
def joinPieces (pieces : List Nat) : List Char :=
  (String.intercalate ":" (pieces.map fun n => String.ofList (Hex.ofNat n))).toList

/-- An address of 128 bits in its shortest form. -/
def text128 (pieces : List Nat) : List Char :=
  let run := longestRun pieces
  if run.2 = 0 then joinPieces pieces
  else joinPieces (pieces.take run.1) ++ [':', ':'] ++ joinPieces (pieces.drop (run.1 + run.2))

/-! ## Names -/

/-- A name that is looked up, or an address of 32 bits. -/
def ofName? (cs : List Char) : Option (List Char) := do
  let decoded ← String.fromUTF8? ⟨(Percent.decode (String.ofList cs).toUTF8.data.toList).toArray⟩
  let name ← HostName.toAscii? decoded.toList
  if name.isEmpty then none
  else if endsInNumber name then
    ((parts name).mapM part?).bind fun numbers => (address32? numbers).map text32
  else some name

/-- The normal form of a host. -/
def normalize? (isLookedUp : Bool) (cs : List Char) : Option (List Char) :=
  match cs with
  | '[' :: rest =>
    match rest.reverse with
    | ']' :: inner => (address128? inner.reverse).map fun pieces => '[' :: (text128 pieces ++ [']'])
    | _ => none
  | cs =>
    if isLookedUp then ofName? cs
    else if cs.any HostName.isForbidden then none
    else some (Percent.encode Percent.isControlOrWide (String.ofList cs))

end Host

end Telemetry

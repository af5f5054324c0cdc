/-!
# Fields of binary messages

A binary message is a list of fields, each a tag and a payload. The tag holds the number of the
field and the form of its payload: an integer of variable length, four or eight bytes, a counted
list of bytes, or a group. A group opens and closes with tags of their own; groups have to nest
properly and not too deeply, and what is inside of one is dropped.

`Wire.decode?` reads a message as its fields, `Wire.encode` writes one. What the fields mean is left
to the messages.
-/

namespace Telemetry

namespace Wire

/-- An integer in groups of seven bits, the least significant first; every byte but the last has its
high bit set. -/
def varint (n : Nat) : List UInt8 :=
  if n < 128 then [UInt8.ofNat n] else UInt8.ofNat (n % 128 + 128) :: varint (n / 128)
termination_by n
decreasing_by omega

/-- An integer of at most `places` groups of seven bits and the bytes behind it. The tenth group has
one bit only, so that the integer fits a word of 64 bits. -/
def readVarint? (places : Nat) (bytes : List UInt8) : Option (Nat × List UInt8) :=
  match places, bytes with
  | 0, _ => none
  | _, [] => none
  | places + 1, b :: rest =>
    if b.toNat < 128 then
      if places = 0 ∧ 2 ≤ b.toNat then none else some (b.toNat, rest)
    else (readVarint? places rest).map fun (n, rest) => (b.toNat - 128 + 128 * n, rest)

/-- An integer of up to 64 bits. -/
def readWord? (bytes : List UInt8) : Option (Nat × List UInt8) := readVarint? 10 bytes

/-- The first `n` bytes and the ones behind them, if there are so many. -/
def readBytes? (n : Nat) (bytes : List UInt8) : Option (List UInt8 × List UInt8) :=
  if (bytes.take n).length < n then none else some (bytes.take n, bytes.drop n)

/-- The integer of a list of bytes, the least significant first. -/
def littleEndian : List UInt8 → Nat
  | [] => 0
  | b :: rest => b.toNat + 256 * littleEndian rest

/-- The `count` least significant bytes of an integer, the least significant first. -/
def littleEndianBytes (n : Nat) : Nat → List UInt8
  | 0 => []
  | count + 1 => UInt8.ofNat n :: littleEndianBytes (n / 256) count

/-- The payload of a field. -/
inductive Payload
  /-- An integer of variable length. -/
  | word (n : Nat)
  /-- Eight bytes. -/
  | fixed64 (n : Nat)
  /-- A counted list of bytes. -/
  | bytes (content : List UInt8)
  /-- Four bytes. -/
  | fixed32 (n : Nat)
  /-- A group, whose fields are dropped. -/
  | group
deriving DecidableEq

/-- A field: its number and its payload. -/
structure Field where
  number : Nat
  payload : Payload
deriving DecidableEq

/-- The bytes of a field. -/
def Field.encode (f : Field) : List UInt8 :=
  match f.payload with
  | .word n => varint (8 * f.number) ++ varint n
  | .fixed64 n => varint (8 * f.number + 1) ++ littleEndianBytes n 8
  | .bytes content => varint (8 * f.number + 2) ++ (varint content.length ++ content)
  | .fixed32 n => varint (8 * f.number + 5) ++ littleEndianBytes n 4
  | .group => varint (8 * f.number + 3) ++ varint (8 * f.number + 4)

/-- The bytes of a list of fields. -/
def encode (fields : List Field) : List UInt8 := fields.flatMap Field.encode

/-- The payload of a form and the bytes behind it. -/
def readPayload? (form : Nat) (bytes : List UInt8) : Option (Payload × List UInt8) :=
  match form with
  | 0 => (readWord? bytes).map fun (n, rest) => (.word n, rest)
  | 1 => (readBytes? 8 bytes).map fun (content, rest) => (.fixed64 (littleEndian content), rest)
  | 2 => do
    let (n, rest) ← readWord? bytes
    let (content, rest) ← readBytes? n rest
    return (.bytes content, rest)
  | 5 => (readBytes? 4 bytes).map fun (content, rest) => (.fixed32 (littleEndian content), rest)
  | _ => none

/-- The number of groups that may be open at once around a field. -/
def groupLimit : Nat := 100

/-- The fields of a message. `groups` are the numbers of the open groups, innermost first, whose
fields are dropped; `limit` bounds them. The outermost group is a field itself. Every tag takes a
byte at least, so the length of the message is enough fuel. -/
def fields? (limit : Nat) (fuel : Nat) (groups : List Nat) (bytes : List UInt8) :
    Option (List Field) :=
  match fuel, bytes with
  | _, [] => if groups.isEmpty then some [] else none
  | 0, _ => none
  | fuel + 1, bytes => do
    let (tag, rest) ← readWord? bytes
    let number := tag / 8
    if UInt32.size ≤ tag ∨ number = 0 then none
    else if tag % 8 = 4 then
      match groups with
      | [] => none
      | innermost :: outer =>
        if innermost = number then
          let others ← fields? limit fuel outer rest
          return if outer.isEmpty then ⟨number, .group⟩ :: others else others
        else none
    else if limit ≤ groups.length then none
    else if tag % 8 = 3 then fields? limit fuel (number :: groups) rest
    else
      let (payload, rest) ← readPayload? (tag % 8) rest
      let others ← fields? limit fuel groups rest
      return if groups.isEmpty then ⟨number, payload⟩ :: others else others

/-- The fields of a message that lies `depth` messages deep. -/
def decode? (depth : Nat) (bytes : List UInt8) : Option (List Field) :=
  fields? (groupLimit - depth) bytes.length [] bytes

end Wire

end Telemetry

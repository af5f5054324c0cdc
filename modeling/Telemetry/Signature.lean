import Telemetry.Text

/-!
# Signatures of bodies

A body is signed with a shared key by the keyed digest HMAC-SHA256; the signature is its 32 bytes in
lower-case hexadecimal digits. It travels in the header `Signature.header`. Whoever verifies one
computes the digest of the body again and compares bytes, so blanks around a signature and the case
of its digits do not matter.
-/

namespace Telemetry

/-! ## The digest SHA-256

The message is padded to blocks of 64 bytes, and every block is mixed into eight words of state by
64 rounds. The words of the final state, most significant byte first, are the 32 bytes of the
digest.
-/

namespace Sha256

/-- The round constants. -/
def roundConstants : Array UInt32 := #[
  0x428a2f98, 0x71374491, 0xb5c0fbcf, 0xe9b5dba5, 0x3956c25b, 0x59f111f1, 0x923f82a4, 0xab1c5ed5,
  0xd807aa98, 0x12835b01, 0x243185be, 0x550c7dc3, 0x72be5d74, 0x80deb1fe, 0x9bdc06a7, 0xc19bf174,
  0xe49b69c1, 0xefbe4786, 0x0fc19dc6, 0x240ca1cc, 0x2de92c6f, 0x4a7484aa, 0x5cb0a9dc, 0x76f988da,
  0x983e5152, 0xa831c66d, 0xb00327c8, 0xbf597fc7, 0xc6e00bf3, 0xd5a79147, 0x06ca6351, 0x14292967,
  0x27b70a85, 0x2e1b2138, 0x4d2c6dfc, 0x53380d13, 0x650a7354, 0x766a0abb, 0x81c2c92e, 0x92722c85,
  0xa2bfe8a1, 0xa81a664b, 0xc24b8b70, 0xc76c51a3, 0xd192e819, 0xd6990624, 0xf40e3585, 0x106aa070,
  0x19a4c116, 0x1e376c08, 0x2748774c, 0x34b0bcb5, 0x391c0cb3, 0x4ed8aa4a, 0x5b9cca4f, 0x682e6ff3,
  0x748f82ee, 0x78a5636f, 0x84c87814, 0x8cc70208, 0x90befffa, 0xa4506ceb, 0xbef9a3f7, 0xc67178f2]

/-- The eight words of state. -/
structure State where
  a : UInt32
  b : UInt32
  c : UInt32
  d : UInt32
  e : UInt32
  f : UInt32
  g : UInt32
  h : UInt32

/-- The state before the first block. -/
def State.initial : State :=
  ⟨0x6a09e667, 0xbb67ae85, 0x3c6ef372, 0xa54ff53a, 0x510e527f, 0x9b05688c, 0x1f83d9ab, 0x5be0cd19⟩

/-- A word rotated to the right. -/
@[inline]
def rotate (x : UInt32) (n : UInt32) : UInt32 := (x >>> n) ||| (x <<< (32 - n))

/-- The word at a byte position, most significant byte first. -/
@[inline]
def wordAt (bytes : ByteArray) (i : Nat) : UInt32 :=
  (bytes[i]!.toUInt32 <<< 24) ||| (bytes[i + 1]!.toUInt32 <<< 16) ||| (bytes[i + 2]!.toUInt32 <<< 8)
    ||| bytes[i + 3]!.toUInt32

/-- One more word of the message schedule. -/
def extend (w : Array UInt32) : Array UInt32 :=
  let t := w.size
  let x := w[t - 15]!
  let y := w[t - 2]!
  let s0 := rotate x 7 ^^^ rotate x 18 ^^^ (x >>> 3)
  let s1 := rotate y 17 ^^^ rotate y 19 ^^^ (y >>> 10)
  w.push (w[t - 16]! + s0 + w[t - 7]! + s1)

/-- The message schedule of the block at a byte position: its sixteen words and 48 more. -/
def schedule (bytes : ByteArray) (start : Nat) : Array UInt32 :=
  let words :=
    (List.range 16).foldl (fun w i => w.push (wordAt bytes (start + 4 * i))) (Array.mkEmpty 64)
  (List.range 48).foldl (fun w _ => extend w) words

/-- One round. -/
def State.round (s : State) (k w : UInt32) : State :=
  let s1 := rotate s.e 6 ^^^ rotate s.e 11 ^^^ rotate s.e 25
  let choice := (s.e &&& s.f) ^^^ ((s.e ^^^ 0xffffffff) &&& s.g)
  let t1 := s.h + s1 + choice + k + w
  let s0 := rotate s.a 2 ^^^ rotate s.a 13 ^^^ rotate s.a 22
  let majority := (s.a &&& s.b) ^^^ (s.a &&& s.c) ^^^ (s.b &&& s.c)
  let t2 := s0 + majority
  ⟨t1 + t2, s.a, s.b, s.c, s.d + t1, s.e, s.f, s.g⟩

/-- The words of two states added. -/
def State.add (s t : State) : State :=
  ⟨s.a + t.a, s.b + t.b, s.c + t.c, s.d + t.d, s.e + t.e, s.f + t.f, s.g + t.g, s.h + t.h⟩

/-- The rounds from the `i`-th on, `n` of them. -/
def State.rounds (w : Array UInt32) (s : State) (i : Nat) : Nat → State
  | 0 => s
  | n + 1 => State.rounds w (s.round roundConstants[i]! w[i]!) (i + 1) n

/-- The block at a byte position mixed into the state. -/
def State.block (bytes : ByteArray) (s : State) (start : Nat) : State :=
  (State.rounds (schedule bytes start) s 0 64).add s

/-- The blocks from a byte position on, `n` of them. -/
def State.blocks (bytes : ByteArray) (s : State) (start : Nat) : Nat → State
  | 0 => s
  | n + 1 => State.blocks bytes (s.block bytes start) (start + 64) n

/-- The bytes of a word, most significant first. -/
def bytesOfWord (w : UInt32) : List UInt8 :=
  [(w >>> 24).toUInt8, (w >>> 16).toUInt8, (w >>> 8).toUInt8, w.toUInt8]

/-- The bytes of a state. -/
def State.bytes (s : State) : List UInt8 :=
  [s.a, s.b, s.c, s.d, s.e, s.f, s.g, s.h].flatMap bytesOfWord

/-- The message, a one bit, zeros, and the count of its bits as a word of 64 bits: a multiple of 64
bytes. -/
def padded (message : ByteArray) : ByteArray :=
  let bits := 8 * message.size
  let zeros := (119 - message.size % 64) % 64
  let tail := (0x80 : UInt8) :: List.replicate zeros 0 ++
    (List.range 8).map fun i => UInt8.ofNat (bits >>> (8 * (7 - i)))
  tail.foldl ByteArray.push message

/-- The 32 bytes of the digest of a message. -/
def digest (message : ByteArray) : List UInt8 :=
  let bytes := padded message
  (State.blocks bytes State.initial 0 (bytes.size / 64)).bytes

end Sha256

/-! ## Keyed digests and signatures -/

namespace Hmac

/-- The key in the 64 bytes of a block: a longer key is replaced by its digest, a shorter one filled
with zeros. -/
def blockOfKey (key : ByteArray) : List UInt8 :=
  let bytes := if 64 < key.size then Sha256.digest key else key.data.toList
  bytes ++ List.replicate (64 - bytes.length) 0

/-- The digest of a message under a key. -/
def digest (key message : ByteArray) : List UInt8 :=
  let block := blockOfKey key
  let inner := Sha256.digest (ByteArray.mk (block.map (· ^^^ 0x36)).toArray ++ message)
  Sha256.digest (ByteArray.mk (block.map (· ^^^ 0x5c) ++ inner).toArray)

/-- A digest has 32 bytes. -/
theorem length_digest (key message : ByteArray) : (digest key message).length = 32 := rfl

end Hmac

namespace Signature

/-- The name of the header that carries a signature, in lower case. -/
def header : String := "hashsha256"

/-- The signature of a body. -/
def sign (key : String) (body : ByteArray) : String :=
  String.ofList (Hex.encode (Hmac.digest key.toUTF8 body))

/-- The text is a signature of the body. A text that is not hexadecimal signs nothing. -/
def verify (key : String) (body : ByteArray) (signature : String) : Bool :=
  match Hex.decode? (Text.trim signature).toList with
  | some bytes => bytes == Hmac.digest key.toUTF8 body
  | none => false

end Signature

end Telemetry

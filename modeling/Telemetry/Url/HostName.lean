import Telemetry.Url.HostName.Composition
import Telemetry.Url.HostName.Direction
import Telemetry.Url.HostName.Joining
import Telemetry.Url.HostName.Mapping

/-!
# Host names

A name of a host is looked up in ASCII. Its characters are mapped and composed first, and then it is
cut into labels at its dots. A label that starts with `xn--` stands for others, which have to be as
the mapping leaves them; a label beyond ASCII is written in this form. `HostName.toAscii?` does all
this and refuses names whose labels do not hold together.
-/

namespace Telemetry

/-! ## Names beyond ASCII

A label of a host name that holds characters beyond ASCII is written in ASCII: the plain characters
first, then, in the order of their code points, the places at which the others stand. Each step is
written as a difference in base 36 with digits of shifting weight; the weights adapt to the
differences seen so far. `encode` writes such a label, `decode?` reads one.
-/

namespace Punycode

/-- The digit of a value below 36: letters, then the ten digits. -/
def digit (n : Nat) : Char := if n < 26 then Char.ofNat (97 + n) else Char.ofNat (48 + (n - 26))

/-- The weight bound of a digit place. -/
def threshold (place bias : Nat) : Nat := max 1 (min 26 (place - bias))

/-- A difference in digits, least significant first. -/
def digits (q place bias : Nat) : List Char :=
  if q < threshold place bias then [digit q]
  else
    digit (threshold place bias + (q - threshold place bias) % (36 - threshold place bias))
      :: digits ((q - threshold place bias) / (36 - threshold place bias)) (place + 36) bias
termination_by q
decreasing_by
  have h : 1 ≤ threshold place bias := Nat.le_max_left _ _
  exact Nat.lt_of_le_of_lt (Nat.div_le_self _ _) (by omega)

/-- A difference scaled down until it is small, and the bias that comes of it. -/
def scale (delta bias : Nat) : Nat :=
  if 455 < delta then scale (delta / 35) (bias + 36) else bias + 36 * delta / (delta + 38)
termination_by delta
decreasing_by omega

/-- The bias after a difference; `written` characters are written so far. -/
def adapt (delta written : Nat) (isFirst : Bool) : Nat :=
  let damped := if isFirst then delta / 700 else delta / 2
  scale (damped + damped / written) 0

/-- The state of the writing: what is written, the difference, the bias and the count of written
characters. -/
structure State where
  output : List Char
  delta : Nat
  bias : Nat
  written : Nat

/-- One character of the label is passed while the places of `codePoint` are written; `plain`
characters were written first. -/
def pass (codePoint plain : Nat) (s : State) (c : Char) : State :=
  if c.toNat < codePoint then { s with delta := s.delta + 1 }
  else if c.toNat = codePoint then
    { output := s.output ++ digits s.delta 36 s.bias
      delta := 0
      bias := adapt s.delta (s.written + 1) (s.written = plain)
      written := s.written + 1 }
  else s

/-- The places of a list of code points, in increasing order; `last` is the one before. -/
def places (label : List Char) (plain last : Nat) (s : State) : List Nat → List Char
  | [] => s.output
  | codePoint :: rest =>
    let start := { s with delta := s.delta + (codePoint - last - 1) * (s.written + 1) }
    let next := label.foldl (pass codePoint plain) start
    places label plain codePoint { next with delta := next.delta + 1 } rest

/-- A label in ASCII, without the mark that says so. -/
def encode (label : List Char) : List Char :=
  let plain := label.filter fun c => c.toNat < 128
  let others := ((label.filter fun c => 128 ≤ c.toNat).map Char.toNat).mergeSort.eraseDups
  let output := if plain.isEmpty then [] else plain ++ ['-']
  places label plain.length 127 ⟨output, 0, 72, plain.length⟩ others

/-! ### Reading -/

/-- The value of a digit in either case. -/
def digitValue? (c : Char) : Option Nat :=
  if 'a' ≤ c ∧ c ≤ 'z' then some (c.toNat - 97)
  else if 'A' ≤ c ∧ c ≤ 'Z' then some (c.toNat - 65)
  else if '0' ≤ c ∧ c ≤ '9' then some (c.toNat - 48 + 26)
  else none

/-- A difference of digits is added to `sum`, and what is behind it; sums and weights fit 32 bits. -/
def readDigits? (bias place weight sum : Nat) : List Char → Option (Nat × List Char)
  | [] => none
  | c :: rest => do
    let d ← digitValue? c
    let sum := sum + d * weight
    guard (sum < UInt32.size)
    if d < threshold place bias then some (sum, rest)
    else
      let weight := weight * (36 - threshold place bias)
      guard (weight < UInt32.size)
      readDigits? bias (place + 36) weight sum rest

/-- The places of characters are read, and the characters put there. `sum` counts all places of all
code points from `codePoint` on. Each place takes a digit at least, so the number of digits is
enough fuel. -/
def readPlaces? (fuel codePoint sum bias : Nat) (label : List Char) : List Char → Option (List Char)
  | [] => some label
  | digits =>
    match fuel with
    | 0 => none
    | fuel + 1 => do
      let (next, rest) ← readDigits? bias 36 1 sum digits
      let count := label.length + 1
      let codePoint := codePoint + next / count
      guard codePoint.isValidChar
      let place := next % count
      readPlaces? fuel codePoint (place + 1) (adapt (next - sum) count (sum = 0))
        (label.take place ++ Char.ofNat codePoint :: label.drop place) rest

/-- The label of a text that `encode` writes. What stands before the last hyphen are the plain
characters. -/
def decode? (cs : List Char) : Option (List Char) :=
  let back := cs.reverse
  let plain := (back.dropWhile (· ≠ '-')).tail.reverse
  if plain.isEmpty then readPlaces? cs.length 128 0 72 [] cs
  else
    let digits := (back.takeWhile (· ≠ '-')).reverse
    readPlaces? digits.length 128 0 72 plain digits

end Punycode

/-! ## Names in ASCII -/

namespace HostName

/-- The character is forbidden in every host. -/
def isForbidden (c : Char) : Bool := "\x00\t\n\r #/:<>?@[\\]^|".toList.contains c

/-- The character is forbidden in a name that is looked up. -/
def isForbiddenInName (c : Char) : Bool :=
  isForbidden c || c.toNat < 32 || c = '%' || c = '\x7f'

/-- What an encoded label starts with. -/
def encodedMark : List Char := "xn--".toList

/-- The label is encoded. -/
def isEncoded (label : List Char) : Bool := encodedMark.isPrefixOf label

/-- The characters are all of ASCII. -/
def isPlain (cs : List Char) : Bool := cs.all fun c => c.toNat < 128

/-- The longest encoded label that is read. -/
def longestEncoded : Nat := 2000

/-- The longest label that is encoded. -/
def longestDecoded : Nat := 1000

/-- The mapping leaves the character as it is. -/
def isMapped (c : Char) : Bool := mapChar? c = some [c]

/-- The characters that a label stands for. -/
def decodeLabel? (label : List Char) : Option (List Char) :=
  if isEncoded label then do
    let digits := label.drop encodedMark.length
    guard (isPlain digits && !digits.isEmpty && digits.getLast? ≠ some '-'
      && digits.length ≤ longestEncoded)
    let decoded ← Punycode.decode? digits
    guard (decoded.all isMapped && compose decoded = decoded)
    return decoded
  else some label

/-- The label in ASCII. -/
def encodeLabel? (label : List Char) : Option (List Char) :=
  if isPlain label then some label
  else if longestDecoded < label.length then none
  else some (encodedMark ++ Punycode.encode label)

/-- The characters of a label may stand together. -/
def isProper (label : List Char) : Bool :=
  !label.any isForbiddenInName && !label.head?.any isMark && arePlaced [] label

/-- The name in ASCII. -/
def toAscii? (cs : List Char) : Option (List Char) := do
  let mapped ← cs.mapM mapChar?
  let labels := (compose mapped.flatten).splitOn '.'
  let decoded ← labels.mapM decodeLabel?
  guard (decoded.all isProper && (!decoded.any hasRight || decoded.all isDirected))
  let encoded ← labels.mapM encodeLabel?
  return ['.'].intercalate encoded

end HostName

end Telemetry

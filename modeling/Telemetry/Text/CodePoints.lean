import Telemetry.Text

/-!
# Tables of code points

A table says something of ranges of code points. It is written as a text of rows between blanks, all
numbers in base sixteen: `41-5A:61` says `61` of the range from `41` on, `100-12E/2:101` of every
second code point of a range, `DF:73.73` two things of a single code point, and `AD:` or `AD`
nothing but that the code point is in the table.

A row whose values are code points takes a range to a range: what is said of the first one is said,
moved along, of the others.
-/

namespace Telemetry

namespace CodePoints

/-- A row of a table. -/
structure Row where
  first : Nat
  last : Nat
  /-- The distance between the code points of the row. -/
  step : Nat
  values : List Nat
deriving DecidableEq, Inhabited

/-- A table. -/
abbrev Table := List Row

/-- A number in base sixteen. -/
def number? (digits : List Char) : Option Nat :=
  digits.foldlM (fun n c => (Hex.value? c).map fun d => 16 * n + d) 0

/-- The ends of a range. -/
def ends? (word : List Char) : Option (Nat × Nat) := do
  match ← (word.splitOn '-').mapM number? with
  | [only] => return (only, only)
  | [first, last] => return (first, last)
  | _ => none

/-- A range and the step in it. -/
def range? (word : List Char) : Option (Nat × Nat × Nat) := do
  match word.splitOn '/' with
  | [range] =>
    let (first, last) ← ends? range
    return (first, last, 1)
  | [range, step] =>
    let (first, last) ← ends? range
    return (first, last, ← number? step)
  | _ => none

/-- The row of a word. -/
def row? (word : List Char) : Option Row := do
  let (first, last, step) ← range? (word.takeWhile (· ≠ ':'))
  let values := (word.dropWhile (· ≠ ':')).drop 1
  return ⟨first, last, step, ← if values.isEmpty then some [] else (values.splitOn '.').mapM number?⟩

/-- The table of a text. -/
def ofText (text : String) : Table :=
  ((text.toList.map fun c => if c = '\n' then ' ' else c).splitOn ' ').filterMap fun word =>
    if word.isEmpty then none else row? word

/-- The row speaks of a code point. -/
def Row.covers (r : Row) (n : Nat) : Bool :=
  r.first ≤ n && n ≤ r.last && (n - r.first) % r.step = 0

/-- The row of a code point. -/
def find? (t : Table) (n : Nat) : Option Row := t.find? fun r => r.covers n

/-- The code point is in the table. -/
def contains (t : Table) (n : Nat) : Bool := t.any fun r => r.covers n

/-- What the table says of a code point as of its whole row. -/
def value? (t : Table) (n : Nat) : Option Nat := (find? t n).bind fun r => r.values.head?

/-- The code points that a code point is taken to. -/
def image? (t : Table) (n : Nat) : Option (List Nat) :=
  (find? t n).map fun r => r.values.map (· + (n - r.first))

end CodePoints

end Telemetry

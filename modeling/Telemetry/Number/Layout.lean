import Telemetry.Number.Binary64

/-!
# How numbers are written

A floating-point number is written with the fewest digits that read back, in one of two layouts.
-/

namespace Telemetry

/-! ## Shortest decimals that read back

`Binary64.shortest tie rank` is the decimal with the fewest digits that rounds to the finite
magnitude `rank`, the one nearest to the magnitude among those with that number of digits; `tie`
says which of two equally near ones is taken.

The multiples of `10 ^ g` form a grid. The coarsest grid with a point that reads back has the
shortest decimals on it, and only the two grid points next to the magnitude have to be tried: if any
point of the grid rounds to the rank, so does one of these two. The search starts on a grid too
coarse to have a hit, and goes to finer grids; seventeen significant digits always suffice, so it
ends within the grids that are tried. Should none hit, the exact decimal expansion is the answer, so
that the result reads back in any case.
-/

/-- What to do when the two neighbours on the decimal grid are equally near. -/
inductive TieRule
  /-- The larger neighbour is taken. -/
  | up
  /-- The neighbour with an even coefficient is taken. -/
  | toEven
deriving DecidableEq

namespace Binary64

/-- The exact value of a finite rank, written out in decimal. -/
def exactDecimal (rank : Nat) : Decimal := ⟨scaled rank * Nat.pow 5 1075, -1075⟩

/-- The magnitude of a rank measured in steps of `10 ^ grid`, as a fraction. -/
def steps (rank : Nat) (grid : Int) : Nat × Nat :=
  match grid with
  | .ofNat g => (scaled rank, Nat.pow 10 g <<< 1075)
  | .negSucc g => (scaled rank * Nat.pow 10 (g + 1), 1 <<< 1075)

/-- The point of a decimal grid that reads back as `rank` and is nearest to it, if there is one. -/
def onGrid? (tie : TieRule) (rank : Nat) (grid : Int) : Option Decimal :=
  let (num, den) := steps rank grid
  let below := num / den
  let rest := num % den
  let readsBack (c : Nat) : Bool := Decimal.nearestRank ⟨c, grid⟩ == rank
  let upper : Bool :=
    den < 2 * rest || (den == 2 * rest && (tie == TieRule.up || below % 2 == 1))
  match readsBack below, readsBack (below + 1) with
  | true, true => some ⟨if upper then below + 1 else below, grid⟩
  | true, false => some ⟨below, grid⟩
  | false, true => some ⟨below + 1, grid⟩
  | false, false => none

/-- A grid whose step exceeds twice the magnitude. -/
def coarsestGrid (rank : Nat) : Int :=
  ((bitLength (scaled rank) : Int) - 1075 + 1) * 30103 / 100000 + 2

/-- Trailing zeros of the coefficient moved into the exponent, at most `fuel` of them. -/
def dropZeros (fuel : Nat) (d : Decimal) : Decimal :=
  match fuel with
  | 0 => d
  | fuel + 1 =>
    if d.coefficient % 10 = 0 then dropZeros fuel ⟨d.coefficient / 10, d.exponent + 1⟩ else d

/-- The shortest decimal that reads back as `rank`. -/
def shortest (tie : TieRule) (rank : Nat) : Decimal :=
  if rank = 0 then ⟨0, 0⟩
  else
    let first := coarsestGrid rank
    match (List.range 24).findSome? fun (i : Nat) => onGrid? tie rank (first - i) with
    | some d => dropZeros 20 d
    | none => exactDecimal rank

end Binary64

/-! ## Number texts

A finite floating-point number is written with its shortest decimal digits. Where the point goes,
when an exponent is used and whether an integer keeps a `.0` differ between the places that write
numbers: a `NumberLayout` collects these decisions, and `NumberLayout.write` carries them out. The
two layouts of this library are `NumberLayout.plain`, for people and for URL paths, and
`NumberLayout.json`.
-/

/-- The decisions that turn digits into a text. -/
structure NumberLayout where
  /-- Between two equally near shortest decimals. -/
  tie : TieRule
  /-- The decimal exponents (of the first digit) that are written without an exponent. -/
  positional : Int → Bool
  /-- An integer written without an exponent ends in `.0`. -/
  pointZero : Bool

namespace NumberLayout

/-- Digits and never an exponent; integers look like integers. -/
def plain : NumberLayout := ⟨.up, fun _ => true, false⟩

/-- Positional from `0.00001` to below `10 ^ 16`; integers keep a `.0`. -/
def json : NumberLayout := ⟨.toEven, fun e => -5 ≤ e && e ≤ 15, true⟩

/-- Digits with the point after the first, and an exponent with its sign. -/
def scientific (digits : List Char) (exponent : Int) : List Char :=
  let fraction := digits.drop 1
  digits.take 1 ++ (if fraction.isEmpty then [] else '.' :: fraction) ++
    'e' :: (if exponent < 0 then '-' else '+') :: (toString exponent.natAbs).toList

/-- Digits followed by `zeros` zeros. -/
def integral (digits : List Char) (zeros : Nat) : List Char := digits ++ List.replicate zeros '0'

/-- Digits of which the last `places` stand behind the point. -/
def fractional (digits : List Char) (places : Nat) : List Char :=
  let padded := List.replicate (places + 1 - digits.length) '0' ++ digits
  padded.take (padded.length - places) ++ '.' :: padded.drop (padded.length - places)

/-- A non-negative decimal in a layout. -/
def magnitude (layout : NumberLayout) (d : Decimal) : List Char :=
  let digits := (toString d.coefficient).toList
  let lead : Int := d.exponent + digits.length - 1
  if layout.positional lead then
    match d.exponent with
    | .ofNat e => integral digits e ++ if layout.pointZero then ['.', '0'] else []
    | .negSucc e => fractional digits (e + 1)
  else scientific digits lead

/-- The text of a number; what is not finite is named. -/
def write (layout : NumberLayout) (x : Binary64) : String :=
  if x.isNaN then "NaN"
  else
    let sign := if x.isNegative then ['-'] else []
    if x.isFinite then
      String.ofList (sign ++ layout.magnitude (Binary64.shortest layout.tie x.rank))
    else String.ofList (sign ++ ['i', 'n', 'f'])

end NumberLayout

end Telemetry

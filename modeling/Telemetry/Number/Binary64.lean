/-!
# Binary floating-point numbers of 64 bits

A `Binary64` is its bit pattern, so two numbers are equal exactly when they agree bit for bit; the
numerical comparison, which identifies the two zeros, is `Binary64.same`.

## Ranks

Without its sign bit a pattern is a natural number, the *rank*. Ranks below `infinityRank` are the
finite magnitudes in increasing order, `infinityRank` is the infinity and the ranks above it are the
NaNs. `scaled n` is the magnitude of the finite rank `n` in units of `2 ^ -1075`, a natural number
for every rank: normal and subnormal magnitudes need no separate treatment, and all arithmetic on
them is exact arithmetic on natural numbers.

The number nearest to a fraction is `Binary64.nearestRank`.
-/

namespace Telemetry

/-- A floating-point number, held as the word that encodes it. -/
structure Binary64 where
  bits : UInt64
deriving DecidableEq, Inhabited

namespace Binary64

/-- The weight of the sign bit, `2 ^ 63`. -/
def signWeight : Nat := 9223372036854775808

/-- The weight of the lowest bit of the exponent field, `2 ^ 52`. -/
def exponentWeight : Nat := 4503599627370496

/-- The rank of the infinity: exponent field all ones, fraction zero. -/
def infinityRank : Nat := 2047 * exponentWeight

/-- The sign bit is set. -/
def isNegative (x : Binary64) : Bool := signWeight ≤ x.bits.toNat

/-- The pattern without its sign bit. -/
def rank (x : Binary64) : Nat := x.bits.toNat % signWeight

/-- Neither an infinity nor a NaN. -/
def isFinite (x : Binary64) : Bool := x.rank < infinityRank

/-- Not a number. -/
def isNaN (x : Binary64) : Bool := infinityRank < x.rank

/-- The number of a sign and a rank. -/
def ofRank (negative : Bool) (rank : Nat) : Binary64 :=
  ⟨UInt64.ofNat (rank % signWeight + if negative then signWeight else 0)⟩

/-- Positive zero. -/
def zero : Binary64 := ⟨0⟩

/-- The significand of a finite rank, an integer below `2 ^ 53`. -/
def significand (rank : Nat) : Nat :=
  if rank / exponentWeight = 0 then rank else exponentWeight + rank % exponentWeight

/-- The power of two of a finite rank, counted from `2 ^ -1075`. -/
def power (rank : Nat) : Nat := max (rank / exponentWeight) 1

/-- The magnitude of a finite rank in units of `2 ^ -1075`. -/
def scaled (rank : Nat) : Nat := significand rank <<< power rank

/-- Equality as numbers: no NaN equals anything, and the two zeros are equal. -/
def same (x y : Binary64) : Bool :=
  !x.isNaN && !y.isNaN && (x == y || (x.rank == 0 && y.rank == 0))

/-- The number itself, except that the negative zero becomes the positive one. -/
def withoutNegativeZero (x : Binary64) : Binary64 := if x.rank = 0 then zero else x

end Binary64

/-! ## Correct rounding

`Binary64.nearestRank num den` is the rank of the binary floating-point number nearest to the
fraction `num / den`, a fraction half-way between two neighbours going to the one of even rank, and
the infinity if the rounded value is out of range.

The quotient `num * 2 ^ 1074 / den` counts the fraction in units of the smallest subnormal number.
If it has at most 53 bits it is rounded to an integer as it is; if it has more, it is first divided
by the power of two that leaves 53 bits. With `s` the exponent of that power and `r` the rounded
integer, the rank is `s * 2 ^ 52 + r` in every case: a carry out of `r` moves to the next exponent
by itself.
-/

/-- The integer nearest to `num / den`, ties going to the even one. -/
def roundHalfEven (num den : Nat) : Nat :=
  let quotient := num / den
  let rest := num % den
  if 2 * rest < den then quotient
  else if den < 2 * rest then quotient + 1
  else quotient + quotient % 2

/-- The number of binary digits of `n`, zero for zero. -/
def bitLength (n : Nat) : Nat := if n = 0 then 0 else Nat.log2 n + 1

namespace Binary64

/-- The rank of the number nearest to `num / den`. -/
def nearestRank (num den : Nat) : Nat :=
  let units := num <<< 1074
  let shift := bitLength (units / den) - 53
  min infinityRank (shift * exponentWeight + roundHalfEven units (den <<< shift))

end Binary64

/-- A non-negative decimal number `coefficient * 10 ^ exponent`. -/
structure Decimal where
  coefficient : Nat
  exponent : Int
deriving DecidableEq, Inhabited

namespace Decimal

/-- The rank of the binary number nearest to a decimal one. Decimals beyond `10 ^ 400` and below the
reach of every subnormal number are settled without writing the power of ten out. -/
def nearestRank (d : Decimal) : Nat :=
  match d.exponent with
  | .ofNat e =>
    if d.coefficient = 0 then 0
    else if 400 < e then Binary64.infinityRank
    else Binary64.nearestRank (d.coefficient * Nat.pow 10 e) 1
  | .negSucc e =>
    if Nat.log2 d.coefficient + 400 < e then 0
    else Binary64.nearestRank d.coefficient (Nat.pow 10 (e + 1))

end Decimal

end Telemetry

import Telemetry.Proofs.Number.Nearest
import Telemetry.Proofs.Number.Range
import Telemetry.Store.Relational.Tables

/-!
# Sums that leave the range

An addition of two integers whose sum fits is exact. If the sum does not fit, both summands and then
their sum are rounded to real numbers of 53 bits, and in principle two roundings towards zero could
bring the result back into the range, where it would be stored as an integer again. They cannot
(`add_whole_of_overflow`): such a cell holds a real number and is no longer a counter.

The larger summand is at least `2 ^ 62`, so its rounding moves it by at most 512, to a multiple of
1024. The other one then reaches the rest of the way to `2 ^ 63` but for 512, which 53 bits can
hold, so its own rounding does not bring it below; and what lacks at most 512 of `2 ^ 63` is rounded
to it.
-/

namespace Telemetry

namespace Cell

/-! ## Rounding to 53 bits -/

/-- Rounding to 53 bits is rounding to a multiple of a power of two. -/
theorem nearestNat_eq (n : Nat) :
    nearestNat n = roundHalfEven n (2 ^ (bitLength n - 53)) * 2 ^ (bitLength n - 53) := by
  show roundHalfEven n (1 <<< (bitLength n - 53)) <<< (bitLength n - 53) = _
  rw [Nat.one_shiftLeft, Nat.shiftLeft_eq]

/-- The rounded number does not fall below a number of at most 53 bits that the given one reaches.
-/
theorem le_nearestNat {k s n : Nat} (hk : k ≤ 2 ^ 53) (h : k * 2 ^ s ≤ n) :
    k * 2 ^ s ≤ nearestNat n := by
  rw [nearestNat_eq]
  by_cases hs : bitLength n - 53 ≤ s
  · -- the number is a multiple of the last place of `n`
    obtain ⟨e, rfl⟩ := Nat.exists_eq_add_of_le hs
    rw [Nat.pow_add, Nat.mul_comm (2 ^ _), ← Nat.mul_assoc] at h ⊢
    exact Nat.mul_le_mul_right _ (le_roundHalfEven (Nat.two_pow_pos _) h)
  · -- the number is below the power of two under `n`, which is kept
    obtain ⟨e, he⟩ : ∃ e, bitLength n = 52 + (e + s + 1) + 1 := ⟨bitLength n - 54 - s, by omega⟩
    have hn : 2 ^ 52 * 2 ^ (e + s + 1) ≤ n := by
      rw [← Nat.pow_add]
      exact two_pow_le_of_bitLength he
    rw [he, show 52 + (e + s + 1) + 1 - 53 = e + s + 1 by omega]
    calc k * 2 ^ s ≤ 2 ^ 53 * 2 ^ s := Nat.mul_le_mul_right _ hk
      _ = 2 ^ 52 * 2 ^ (s + 1) := by
        rw [← Nat.pow_add, ← Nat.pow_add, Nat.add_comm s, ← Nat.add_assoc]
      _ ≤ 2 ^ 52 * 2 ^ (e + s + 1) :=
        Nat.mul_le_mul_left _ (Nat.pow_le_pow_right (by decide) (by omega))
      _ ≤ _ := Nat.mul_le_mul_right _ (le_roundHalfEven (Nat.two_pow_pos _) hn)

/-- Numbers between `2 ^ 62` and `2 ^ 63` are rounded to multiples of 1024. -/
theorem nearestNat_eq_mul {n : Nat} (hlow : 2 ^ 62 ≤ n) (hhigh : n < 2 ^ 63) :
    nearestNat n = roundHalfEven n 1024 * 1024 := by
  have hunit : (2 : Nat) ^ (62 + 1 - 53) = 1024 := by decide
  rw [nearestNat_eq, bitLength_eq hlow hhigh, hunit]

/-- What lacks at most 512 of `2 ^ 63` is rounded to it. -/
theorem two_pow_le_nearestNat {n : Nat} (h : 2 ^ 63 - 512 ≤ n) : 2 ^ 63 ≤ nearestNat n := by
  by_cases hn : n < 2 ^ 63
  · rw [nearestNat_eq_mul (by omega) hn]
    have hup : 2 ^ 53 - 1 + 1 ≤ roundHalfEven n 1024 :=
      succ_le_roundHalfEven (by decide) (by omega) (by omega)
    omega
  · exact le_nearestNat (k := 1) (s := 63) (by decide) (by omega)

/-- The sum of the rounded numbers lacks at most 512 of `2 ^ 63`, if the exact sum reaches it. -/
theorem le_add_nearestNat {a b : Nat} (hba : b ≤ a) (ha : a ≤ 2 ^ 63) (h : 2 ^ 63 ≤ a + b) :
    2 ^ 63 - 512 ≤ nearestNat a + nearestNat b := by
  by_cases htop : a = 2 ^ 63
  · have hexact : 1 * 2 ^ 63 ≤ nearestNat a := le_nearestNat (by decide) (by omega)
    omega
  have hlow : 2 ^ 52 ≤ roundHalfEven a 1024 := le_roundHalfEven (by decide) (by omega)
  have hnear := two_mul_le_roundHalfEven a (show 0 < 1024 by decide)
  rw [nearestNat_eq_mul (by omega) (by omega)]
  generalize roundHalfEven a 1024 = r at hlow hnear ⊢
  by_cases hreach : 2 ^ 53 ≤ r
  · omega
  · obtain ⟨j, hj⟩ := Nat.exists_eq_add_of_lt (Nat.lt_of_not_le hreach)
    -- the rest of the way but for 512, in units of 512
    have hrest : (2 * j + 1) * 2 ^ 9 ≤ nearestNat b := le_nearestNat (by omega) (by omega)
    omega

/-- Rounding does not bring a sum back below `2 ^ 63`. -/
theorem two_pow_le_nearestNat_add {a b : Nat} (ha : a ≤ 2 ^ 63) (hb : b ≤ 2 ^ 63)
    (h : 2 ^ 63 ≤ a + b) : 2 ^ 63 ≤ nearestNat (nearestNat a + nearestNat b) := by
  refine two_pow_le_nearestNat ?_
  rcases Nat.le_total b a with hba | hab
  · exact le_add_nearestNat hba ha h
  · rw [Nat.add_comm]
    exact le_add_nearestNat hab hb (by omega)

/-! ## Signs -/

theorem nearest_natCast (n : Nat) : nearest n = nearestNat n := rfl

/-- Rounding does not depend on the sign. -/
theorem nearest_neg_natCast (n : Nat) : nearest (-(n : Int)) = -(nearestNat n : Int) := by
  cases n with
  | zero => decide
  | succ n => rfl

/-- A sum above the range is not brought back by rounding. -/
theorem le_nearest_add {a b : Int} (ha : a ≤ 2 ^ 63) (hb : b ≤ 2 ^ 63) (h : 2 ^ 63 ≤ a + b) :
    2 ^ 63 ≤ nearest (nearest a + nearest b) := by
  obtain ⟨m, rfl⟩ := Int.eq_ofNat_of_zero_le (show 0 ≤ a by omega)
  obtain ⟨n, rfl⟩ := Int.eq_ofNat_of_zero_le (show 0 ≤ b by omega)
  rw [nearest_natCast, nearest_natCast, ← Int.natCast_add, nearest_natCast]
  have hround := two_pow_le_nearestNat_add (a := m) (b := n) (by omega) (by omega) (by omega)
  omega

/-- A sum below the range is not brought back by rounding. -/
theorem nearest_add_le {a b : Int} (ha : -2 ^ 63 ≤ a) (hb : -2 ^ 63 ≤ b) (h : a + b ≤ -2 ^ 63) :
    nearest (nearest a + nearest b) ≤ -2 ^ 63 := by
  obtain ⟨m, hm⟩ := Int.eq_ofNat_of_zero_le (show 0 ≤ -a by omega)
  obtain ⟨n, hn⟩ := Int.eq_ofNat_of_zero_le (show 0 ≤ -b by omega)
  obtain rfl : a = -(m : Int) := by omega
  obtain rfl : b = -(n : Int) := by omega
  rw [nearest_neg_natCast, nearest_neg_natCast, ← Int.neg_add, ← Int.natCast_add,
    nearest_neg_natCast]
  have hround := two_pow_le_nearestNat_add (a := m) (b := n) (by omega) (by omega) (by omega)
  omega

/-! ## Additions -/

/-- Outside of the range, or at its lower end, a real number stays one. -/
theorem ofReal_of_out {r : Int} (h : 2 ^ 63 ≤ r ∨ r ≤ -2 ^ 63) : ofReal r = real r := by
  have hmin : Int64.minValue.toInt = -9223372036854775808 := rfl
  have hmax : Int64.maxValue.toInt = 9223372036854775807 := rfl
  unfold ofReal
  rw [if_neg]
  omega

/-- A sum that fits is exact. -/
theorem add_whole_of_fits {n delta : Int64} (h : FitsInt64 (n.toInt + delta.toInt)) :
    (whole n).add delta = whole (Int64.ofInt (n.toInt + delta.toInt)) := by
  simp only [add, addChecked_of_fits h]

/-- A sum that does not fit leaves a real number. -/
theorem add_whole_of_overflow {n delta : Int64} (h : ¬ FitsInt64 (n.toInt + delta.toInt)) :
    ∃ r, (whole n).add delta = real r := by
  refine ⟨nearest (nearest n.toInt + nearest delta.toInt), ?_⟩
  simp only [add, addChecked_eq_none_iff.2 h]
  refine ofReal_of_out ?_
  obtain ⟨hn, hn'⟩ := fitsInt64_iff.1 (fitsInt64_toInt n)
  obtain ⟨hd, hd'⟩ := fitsInt64_iff.1 (fitsInt64_toInt delta)
  rw [fitsInt64_iff] at h
  rcases Int.lt_or_le (n.toInt + delta.toInt) 0 with hneg | hpos
  · exact .inr (nearest_add_le (by omega) (by omega) (by omega))
  · exact .inl (le_nearest_add (by omega) (by omega) (by omega))

end Cell

end Telemetry

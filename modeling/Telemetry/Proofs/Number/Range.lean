import Telemetry.Number.Decimal

/-!
# The range of 64 bits

`FitsInt64 n` says that an integer is one of 64 bits. Checked additions are stated with exact
integers: `addChecked_eq_some_iff` says that an addition answers with the word of the exact sum, and
`addChecked_eq_none_iff` that it refuses exactly the sums that do not fit.
-/

namespace Telemetry

/-- The integer is one of 64 bits. -/
def FitsInt64 (n : Int) : Prop := Int64.minValue.toInt ≤ n ∧ n ≤ Int64.maxValue.toInt

instance (n : Int) : Decidable (FitsInt64 n) := inferInstanceAs (Decidable (_ ∧ _))

/-- The range of 64 bits, written out. -/
theorem fitsInt64_iff {n : Int} :
    FitsInt64 n ↔ -9223372036854775808 ≤ n ∧ n < 9223372036854775808 := by
  have hmin : Int64.minValue.toInt = -9223372036854775808 := rfl
  have hmax : Int64.maxValue.toInt = 9223372036854775807 := rfl
  unfold FitsInt64
  omega

/-- A number of 64 bits is in their range. -/
theorem fitsInt64_toInt (w : Int64) : FitsInt64 w.toInt := ⟨w.minValue_le_toInt, w.toInt_le⟩

/-- An integer in range is a number of 64 bits. -/
theorem toInt_ofInt_of_fits {n : Int} (h : FitsInt64 n) : (Int64.ofInt n).toInt = n := by
  obtain ⟨hmin, hmax⟩ := fitsInt64_iff.1 h
  exact Int64.toInt_ofInt_of_le hmin hmax

/-- A word stands for an integer exactly if it is the word read back. -/
theorem toInt64?_eq_some_iff {n : Int} {w : Int64} : toInt64? n = some w ↔ w.toInt = n := by
  unfold toInt64?
  constructor
  · intro h
    split at h
    · next hn =>
      rw [← Option.some.inj h]
      exact toInt_ofInt_of_fits hn
    · cases h
  · intro h
    have hn : Int64.minValue.toInt ≤ n ∧ n ≤ Int64.maxValue.toInt := h ▸ fitsInt64_toInt w
    rw [if_pos hn, ← h, Int64.ofInt_toInt]

/-- Only integers out of range are refused. -/
theorem toInt64?_eq_none_iff {n : Int} : toInt64? n = none ↔ ¬ FitsInt64 n := by
  simp [toInt64?, FitsInt64]

/-- A checked addition answers with the exact sum. -/
theorem addChecked_eq_some_iff {a b c : Int64} :
    addChecked a b = some c ↔ c.toInt = a.toInt + b.toInt :=
  toInt64?_eq_some_iff

/-- A checked addition refuses exactly the sums that do not fit. -/
theorem addChecked_eq_none_iff {a b : Int64} :
    addChecked a b = none ↔ ¬ FitsInt64 (a.toInt + b.toInt) :=
  toInt64?_eq_none_iff

/-- A sum in range is found. -/
theorem addChecked_of_fits {a b : Int64} (h : FitsInt64 (a.toInt + b.toInt)) :
    addChecked a b = some (Int64.ofInt (a.toInt + b.toInt)) :=
  addChecked_eq_some_iff.2 (toInt_ofInt_of_fits h)

/-- Nothing is refused that is added to zero. -/
@[simp] theorem addChecked_zero_left (b : Int64) : addChecked 0 b = some b :=
  addChecked_eq_some_iff.2 (by simp)

/-- An addition of words whose exact sum fits does not wrap around. -/
theorem toInt_add_of_fits {a b : Int64} (h : FitsInt64 (a.toInt + b.toInt)) :
    (a + b).toInt = a.toInt + b.toInt := by
  obtain ⟨hmin, hmax⟩ := fitsInt64_iff.1 h
  rw [Int64.toInt_add, Int.bmod_eq_of_le hmin hmax]

/-- A subtraction of words whose exact difference fits does not wrap around. -/
theorem toInt_sub_of_fits {a b : Int64} (h : FitsInt64 (a.toInt - b.toInt)) :
    (a - b).toInt = a.toInt - b.toInt := by
  obtain ⟨hmin, hmax⟩ := fitsInt64_iff.1 h
  rw [Int64.toInt_sub, Int.bmod_eq_of_le hmin hmax]

end Telemetry

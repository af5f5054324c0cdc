import Telemetry.Proofs.Number.Order
import Telemetry.Proofs.Number.Text

/-!
# Which numbers a text writes

A floating-point number is written by a text that has its sign and a decimal that it is nearest to
(`Binary64.NumberText`). The finite numbers that are read are the ones that are written so
(`Binary64.read?_eq_some_iff`); the names of what is not finite are read as well.
-/

namespace Telemetry

namespace Binary64

variable {x : Binary64} {cs digits : List Char}

/-- A number is written by its sign and a decimal that its magnitude is nearest to. -/
inductive NumberText : List Char → Binary64 → Prop
  | mk {sign digits : List Char} {d : Decimal} {x : Binary64} (hsign : SignText sign x.isNegative)
      (hdigits : DecimalText digits d)
      (hnearest : IsNearest d.fraction.1 d.fraction.2 x.rank) : NumberText (sign ++ digits) x

/-- A name that is read is that of an infinity or of a NaN. -/
theorem infinityRank_le_of_readName? {rank : Nat} (h : readName? cs = some rank) :
    infinityRank ≤ rank ∧ rank < signWeight := by
  unfold readName? at h
  split at h <;> cases h <;> decide

/-- A finite number that is read is a sign and a decimal, rounded. -/
theorem exists_decimal_of_readRank? {negative : Bool}
    (h : (readRank? digits).map (ofRank negative) = some x) (hfinite : x.isFinite = true) :
    x.isNegative = negative ∧ ∃ d, Decimal.read? digits = some d ∧ d.nearestRank = x.rank := by
  obtain ⟨rank, hrank, rfl⟩ := Option.map_eq_some_iff.1 h
  unfold readRank? at hrank
  split at hrank
  · next d hd =>
    obtain rfl := Option.some.inj hrank
    have hbound : d.nearestRank < signWeight :=
      Nat.lt_of_le_of_lt d.isNearest_nearestRank.inRange (by decide)
    exact ⟨isNegative_ofRank negative hbound, d, hd, (rank_ofRank negative hbound).symm⟩
  · obtain ⟨hlow, hbound⟩ := infinityRank_le_of_readName? hrank
    rw [isFinite, decide_eq_true_eq, rank_ofRank negative hbound] at hfinite
    exact absurd hlow (Nat.not_le_of_lt hfinite)

/-- A sign and a decimal are read as the number that they write. -/
theorem map_readRank?_of_decimalText {d : Decimal} (h : DecimalText digits d)
    (hnearest : IsNearest d.fraction.1 d.fraction.2 x.rank) :
    (readRank? digits).map (ofRank x.isNegative) = some x := by
  have hrank : d.nearestRank = x.rank := d.isNearest_nearestRank.eq d.fraction_pos hnearest
  rw [readRank?, h.read?]
  show some (ofRank x.isNegative d.nearestRank) = some x
  rw [hrank, ofRank_rank]

/-- **The finite numbers that are read from a text are the ones that it writes.** -/
theorem read?_eq_some_iff {s : String} (hfinite : x.isFinite = true) :
    read? s = some x ↔ NumberText s.toList x := by
  unfold read?
  generalize s.toList = cs
  constructor
  · intro h
    -- Digits do not start with a sign, so nothing is cut off.
    split at h
    -- A sign or none, and behind it the same reader.
    all_goals
      obtain ⟨hneg, d, hd, hrank⟩ := exists_decimal_of_readRank? h hfinite
      have hdigits := Decimal.read?_eq_some_iff.1 hd
      have hnearest := hrank ▸ d.isNearest_nearestRank
    · have hsign : SignText ['-'] x.isNegative := hneg ▸ .minus
      exact .mk hsign hdigits hnearest
    · have hsign : SignText ['+'] x.isNegative := hneg ▸ .plus
      exact .mk hsign hdigits hnearest
    · have hsign : SignText [] x.isNegative := hneg ▸ .absent
      exact .mk hsign hdigits hnearest
  · rintro ⟨hsign, hdigits, hnearest⟩
    have hread := map_readRank?_of_decimalText hdigits hnearest
    generalize x.isNegative = negative at hsign hread
    cases hsign with
    | minus => exact hread
    | plus => exact hread
    | absent =>
      rw [List.nil_append]
      split
      · exact absurd rfl hdigits.ne_sign.2
      · exact absurd rfl hdigits.ne_sign.1
      · exact hread

end Binary64

end Telemetry

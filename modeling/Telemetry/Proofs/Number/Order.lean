import Mathlib.Data.Nat.Dist
import Mathlib.Order.Monotone.Basic
import Telemetry.Proofs.Number.Nearest

/-!
# Correct rounding

`IsNearest num den rank` says that no rank is nearer to the fraction than `rank`, and that `rank` is
even if another one is as near. `isNearest_nearestRank` says that fractions are rounded in this way,
so a smaller fraction does not go to a larger rank (`nearestRank_le_nearestRank`).

Where a quotient is shifted by `s`, the magnitudes from `2 ^ (s + 52)` on are multiples of `2 ^ s`,
and the smaller ones are farther away than this power of two itself (`scaled_cases`). So the nearest
magnitude is the nearest multiple.
-/

namespace Telemetry

/-! ## Nearest integers -/

section Rounded

variable {n d k : Nat}

/-- A fraction is rounded to one of its two neighbours, half-way to the even one. -/
theorem roundHalfEven_cases (n d : Nat) :
    roundHalfEven n d = n / d ∧ 2 * (n % d) ≤ d ∧ (2 * (n % d) = d → n / d % 2 = 0) ∨
      roundHalfEven n d = n / d + 1 ∧ d ≤ 2 * (n % d) ∧
        (2 * (n % d) = d → (n / d + 1) % 2 = 0) := by
  unfold roundHalfEven
  dsimp only
  split
  · left
    omega
  · split
    · right
      omega
    · omega

/-- The fraction is at most one half away from the rounded integer, and one half only if that is
even. -/
theorem two_mul_dist_roundHalfEven (hd : 0 < d) (n : Nat) :
    2 * Nat.dist n (roundHalfEven n d * d) ≤ d ∧
      (2 * Nat.dist n (roundHalfEven n d * d) = d → roundHalfEven n d % 2 = 0) := by
  have hdiv : n / d * d + n % d = n := by
    rw [Nat.mul_comm]
    exact Nat.div_add_mod n d
  have hrest : n % d < d := Nat.mod_lt n hd
  unfold Nat.dist
  obtain ⟨hround, hhalf, heven⟩ | ⟨hround, hhalf, heven⟩ := roundHalfEven_cases n d
  · rw [hround]
    omega
  · rw [hround, Nat.add_mul]
    omega

/-- Different multiples are at least one step apart. -/
theorem le_dist_mul {j : Nat} (h : j ≠ k) (d : Nat) : d ≤ Nat.dist (j * d) (k * d) := by
  rw [Nat.dist_mul_right]
  exact Nat.le_mul_of_pos_left d (Nat.dist_pos_of_ne h)

/-- No multiple is nearer than the rounded one, and another one is as near only if that is even. -/
theorem dist_roundHalfEven_le (hd : 0 < d) (n k : Nat) :
    Nat.dist n (roundHalfEven n d * d) ≤ Nat.dist n (k * d) ∧
      (k ≠ roundHalfEven n d → Nat.dist n (roundHalfEven n d * d) = Nat.dist n (k * d) →
        roundHalfEven n d % 2 = 0) := by
  obtain ⟨hhalf, heven⟩ := two_mul_dist_roundHalfEven hd n
  by_cases h : k = roundHalfEven n d
  · exact ⟨by rw [h], fun hne => absurd h hne⟩
  have hstep := le_dist_mul h d
  have htriangle := Nat.dist.triangle_inequality (k * d) n (roundHalfEven n d * d)
  rw [Nat.dist_comm (k * d) n] at htriangle
  exact ⟨by omega, fun _ htie => heven (by omega)⟩

/-- The rounded integer does not rise above an integer that the fraction does not exceed. -/
theorem roundHalfEven_le (hd : 0 < d) (h : n ≤ k * d) : roundHalfEven n d ≤ k := by
  have hquotient : n / d ≤ k := by
    rw [← Nat.mul_div_cancel k hd]
    exact Nat.div_le_div_right h
  obtain ⟨hround, -⟩ | ⟨hround, hhalf, -⟩ := roundHalfEven_cases n d
  · rwa [hround]
  · -- there is a rest, so the quotient is below `k`
    rw [hround, Nat.succ_le_iff, Nat.div_lt_iff_lt_mul hd]
    refine Nat.lt_of_le_of_ne h fun heq => ?_
    rw [heq, Nat.mul_mod_left] at hhalf
    omega

/-- A number is below the power of two of its length. -/
theorem lt_two_pow_bitLength (n : Nat) : n < 2 ^ bitLength n := by
  by_cases hn : n = 0
  · rw [hn]
    exact Nat.two_pow_pos _
  · rw [bitLength_of_ne_zero hn]
    exact Nat.lt_log2_self

/-- The power of two of the length of a number is at most twice the number. -/
theorem two_pow_bitLength_le (hn : 0 < n) : 2 ^ bitLength n ≤ 2 * n := by
  have hlow := Nat.log2_self_le (Nat.ne_of_gt hn)
  rw [bitLength_of_ne_zero (Nat.ne_of_gt hn), Nat.pow_succ]
  omega

end Rounded

namespace Binary64

variable {num den other rank s m : Nat}

/-! ## Magnitudes -/

/-- The magnitude of a rank whose significand and power are known; a significand of 54 bits is
allowed. -/
theorem scaled_mul_add (hlow : s = 0 ∨ exponentWeight ≤ m) (hhigh : m ≤ 2 * exponentWeight) :
    scaled (s * exponentWeight + m) = 2 * m * 2 ^ s := by
  have hweight : 0 < exponentWeight := by decide
  unfold scaled significand power
  rw [Nat.shiftLeft_eq]
  by_cases hsmall : m < exponentWeight
  · obtain rfl : s = 0 := by omega
    rw [Nat.zero_mul, Nat.zero_add, Nat.div_eq_of_lt hsmall, if_pos rfl]
    show m * 2 ^ 1 = 2 * m * 2 ^ 0
    omega
  · obtain ⟨rest, rfl⟩ := Nat.exists_eq_add_of_le (Nat.le_of_not_lt hsmall)
    rw [← Nat.add_assoc, ← Nat.succ_mul, Nat.add_comm, Nat.add_mul_div_right _ _ hweight,
      Nat.add_mul_mod_self_right]
    rcases Nat.lt_or_ge rest exponentWeight with hrest | hrest
    · rw [Nat.div_eq_of_lt hrest, Nat.mod_eq_of_lt hrest, if_neg (by omega), Nat.zero_add,
        Nat.max_eq_left (by omega), Nat.pow_succ]
      ac_rfl
    · -- a significand of 54 bits is the next power of two
      obtain rfl : rest = exponentWeight := by omega
      rw [Nat.div_self hweight, Nat.mod_self, if_neg (by omega), Nat.max_eq_left (by omega),
        Nat.add_zero, ← Nat.two_mul, Nat.add_comm 1, Nat.pow_succ, Nat.pow_succ]
      ac_rfl

/-- Neighbouring ranks have neighbouring significands. -/
theorem exists_scaled_eq (rank : Nat) :
    ∃ p m, rank = p * exponentWeight + m ∧ (p = 0 ∨ exponentWeight ≤ m) ∧ m < 2 * exponentWeight ∧
      scaled rank = 2 * m * 2 ^ p ∧ scaled (rank + 1) = 2 * (m + 1) * 2 ^ p := by
  obtain ⟨p, -, hrank, hhigh, hlow⟩ := exists_power_eq rank
  have hweight : 2 * exponentWeight = 2 ^ 53 := by decide
  rw [← exponentWeight_eq] at hlow
  rw [← hweight] at hhigh
  generalize significand rank = m at hrank hhigh hlow
  subst hrank
  refine ⟨p, m, rfl, hlow, hhigh, scaled_mul_add hlow (by omega), ?_⟩
  rw [Nat.add_assoc]
  exact scaled_mul_add (by omega) hhigh

/-- A greater rank has a greater magnitude. -/
theorem scaled_strictMono : StrictMono scaled := by
  refine strictMono_nat_of_lt_succ fun rank => ?_
  obtain ⟨p, m, -, -, -, hrank, hnext⟩ := exists_scaled_eq rank
  rw [hrank, hnext]
  exact Nat.mul_lt_mul_of_pos_right (by omega) (Nat.two_pow_pos p)

/-- A magnitude is a multiple of `2 ^ s`, in units of `2 ^ -1074`, or it has fewer than `s + 53`
bits. -/
theorem scaled_cases (rank s : Nat) :
    (∃ k, scaled rank = 2 * k * 2 ^ s) ∨ s ≠ 0 ∧ scaled rank < 2 * exponentWeight * 2 ^ s := by
  obtain ⟨p, m, -, -, hhigh, hscaled, -⟩ := exists_scaled_eq rank
  -- The rank lies on the coarser grid, or it is so small that the coarser grid does not reach it.
  rcases Nat.lt_or_ge p s with hlt | hge
  · refine .inr ⟨by omega, ?_⟩
    calc scaled rank = 2 * m * 2 ^ p := hscaled
      _ < 2 * (2 * exponentWeight) * 2 ^ p :=
        Nat.mul_lt_mul_of_pos_right (by omega) (Nat.two_pow_pos p)
      _ = 2 * exponentWeight * 2 ^ (p + 1) := by rw [Nat.pow_succ]; ac_rfl
      _ ≤ 2 * exponentWeight * 2 ^ s :=
        Nat.mul_le_mul_left _ (Nat.pow_le_pow_right (by decide) hlt)
  · obtain ⟨j, rfl⟩ := Nat.exists_eq_add_of_le hge
    refine .inl ⟨m * 2 ^ j, ?_⟩
    rw [hscaled, Nat.pow_add]
    ac_rfl

/-! ## Nearest ranks -/

/-- How far a fraction is from the magnitude of a rank, in units of `2 ^ -1075 / den`. -/
def distance (num den rank : Nat) : Nat := Nat.dist (num <<< 1075) (scaled rank * den)

/-- A fraction is rounded correctly to a rank, the infinity standing for `2 ^ 1024`. -/
structure IsNearest (num den rank : Nat) : Prop where
  inRange : rank ≤ infinityRank
  nearest : ∀ other ≤ infinityRank, distance num den rank ≤ distance num den other
  even : ∀ other ≤ infinityRank, other ≠ rank →
    distance num den rank = distance num den other → rank % 2 = 0

/-- The shift of a quotient leaves 53 bits, or is zero. -/
theorem exists_shift (hden : 0 < den) (num : Nat) :
    ∃ s, (s = 0 ∨ exponentWeight * (den * 2 ^ s) ≤ num <<< 1074) ∧
      num <<< 1074 ≤ 2 * exponentWeight * (den * 2 ^ s) ∧
      nearestRank num den = min infinityRank
        (s * exponentWeight + roundHalfEven (num <<< 1074) (den * 2 ^ s)) := by
  have hweight : exponentWeight = 2 ^ 52 := exponentWeight_eq
  have hunfold : nearestRank num den = min infinityRank
      ((bitLength (num <<< 1074 / den) - 53) * exponentWeight +
        roundHalfEven (num <<< 1074) (den * 2 ^ (bitLength (num <<< 1074 / den) - 53))) := by
    unfold nearestRank
    simp only [Nat.shiftLeft_eq den]
  -- The shift is what the length has beyond 53 bits, and nothing for short ones.
  generalize num <<< 1074 = units at hunfold ⊢
  refine ⟨bitLength (units / den) - 53, ?_, ?_, hunfold⟩
  · rcases Nat.lt_or_ge 53 (bitLength (units / den)) with hlong | hshort
    · obtain ⟨s, hs⟩ : ∃ s, bitLength (units / den) = s + 53 :=
        ⟨_, (Nat.sub_add_cancel (Nat.le_of_lt hlong)).symm⟩
      have hlow : 2 ^ (s + 52) ≤ units / den := two_pow_le_of_bitLength hs
      right
      rw [hs, Nat.add_sub_cancel, hweight]
      calc 2 ^ 52 * (den * 2 ^ s) = 2 ^ (s + 52) * den := by rw [Nat.pow_add]; ac_rfl
        _ ≤ units := (Nat.le_div_iff_mul_le hden).1 hlow
    · exact .inl (Nat.sub_eq_zero_of_le hshort)
  · have hlength : bitLength (units / den) ≤ 53 + (bitLength (units / den) - 53) := by omega
    have hhigh : units / den < 2 ^ (53 + (bitLength (units / den) - 53)) :=
      Nat.lt_of_lt_of_le (lt_two_pow_bitLength _) (Nat.pow_le_pow_right (by decide) hlength)
    generalize bitLength (units / den) - 53 = s at hhigh
    calc units ≤ 2 ^ (53 + s) * den := Nat.le_of_lt ((Nat.div_lt_iff_lt_mul hden).1 hhigh)
      _ = 2 * 2 ^ 52 * (den * 2 ^ s) := by rw [Nat.pow_add, Nat.pow_succ 2 52]; ac_rfl

/-- The distance from a magnitude that is a multiple of the last bit. -/
theorem distance_of_scaled_eq {k : Nat} (h : scaled rank = 2 * k * 2 ^ s) (num den : Nat) :
    distance num den rank = 2 * Nat.dist (num <<< 1074) (k * (den * 2 ^ s)) := by
  have hunits : num <<< 1075 = 2 * num <<< 1074 := Nat.shiftLeft_succ num 1074
  have hmul : 2 * k * 2 ^ s * den = 2 * (k * (den * 2 ^ s)) := by ac_rfl
  rw [distance, h, hunits, hmul, Nat.dist_mul_left]

/-- The nearest of all ranks, in range or not. -/
theorem distance_le_of_shift (hden : 0 < den)
    (hlow : s = 0 ∨ exponentWeight * (den * 2 ^ s) ≤ num <<< 1074)
    (hhigh : num <<< 1074 ≤ 2 * exponentWeight * (den * 2 ^ s))
    (hrank : rank = s * exponentWeight + roundHalfEven (num <<< 1074) (den * 2 ^ s))
    (hother : other ≠ rank) :
    distance num den rank ≤ distance num den other ∧
      (distance num den rank = distance num den other → rank % 2 = 0) := by
  have hD : 0 < den * 2 ^ s := Nat.mul_pos hden (Nat.two_pow_pos s)
  have hscaled : scaled rank = 2 * roundHalfEven (num <<< 1074) (den * 2 ^ s) * 2 ^ s := by
    rw [hrank]
    exact scaled_mul_add (hlow.imp_right (le_roundHalfEven hD)) (roundHalfEven_le hD hhigh)
  have heven : roundHalfEven (num <<< 1074) (den * 2 ^ s) % 2 = 0 → rank % 2 = 0 := by
    intro hround
    have hweight : exponentWeight % 2 = 0 := by decide
    rw [hrank, Nat.add_mod, Nat.mul_mod, hweight, hround, Nat.mul_zero]
  rw [distance_of_scaled_eq hscaled]
  obtain ⟨k, hk⟩ | ⟨hs, hsmall⟩ := scaled_cases other s
  · obtain ⟨hle, htie⟩ := dist_roundHalfEven_le hD (num <<< 1074) k
    have hne : k ≠ roundHalfEven (num <<< 1074) (den * 2 ^ s) := by
      rintro rfl
      exact hother (scaled_strictMono.injective (hk.trans hscaled.symm))
    rw [distance_of_scaled_eq hk]
    exact ⟨Nat.mul_le_mul_left 2 hle, fun h => heven (htie hne (by omega))⟩
  · -- a multiple of the last bit lies between the other magnitude and the fraction
    have hbetween := hlow.resolve_left hs
    have hle := (dist_roundHalfEven_le hD (num <<< 1074) exponentWeight).1
    have hfar : scaled other * den < 2 * (exponentWeight * (den * 2 ^ s)) := by
      have hmul := Nat.mul_lt_mul_of_pos_right hsmall hden
      have hcomm : 2 * exponentWeight * 2 ^ s * den = 2 * (exponentWeight * (den * 2 ^ s)) := by
        ac_rfl
      rwa [hcomm] at hmul
    have hunits : num <<< 1075 = 2 * num <<< 1074 := Nat.shiftLeft_succ num 1074
    rw [distance, hunits]
    unfold Nat.dist at hle ⊢
    omega

/-- The nearest rank is the nearest of all ranks, unless that is out of range. -/
theorem exists_unbounded (hden : 0 < den) (num : Nat) :
    ∃ rank, nearestRank num den = min infinityRank rank ∧
      ∀ other, other ≠ rank → distance num den rank ≤ distance num den other ∧
        (distance num den rank = distance num den other → rank % 2 = 0) := by
  obtain ⟨s, hlow, hhigh, hrank⟩ := exists_shift hden num
  exact ⟨_, hrank, fun other hother => distance_le_of_shift hden hlow hhigh rfl hother⟩

/-- **A fraction is rounded correctly.** -/
theorem isNearest_nearestRank (hden : 0 < den) (num : Nat) :
    IsNearest num den (nearestRank num den) := by
  obtain ⟨rank, hrank, hnearest⟩ := exists_unbounded hden num
  rw [hrank]
  rcases Nat.lt_or_ge infinityRank rank with hlt | hle
  · rw [Nat.min_eq_left (Nat.le_of_lt hlt)]
    refine ⟨Nat.le_refl _, fun other hother => ?_, fun _ _ _ _ => by decide⟩
    -- the fraction is above the infinity, so everything below that is farther away
    have hfar := (hnearest infinityRank (Nat.ne_of_lt hlt)).1
    have hbelow : scaled other * den ≤ scaled infinityRank * den :=
      Nat.mul_le_mul_right den (scaled_strictMono.monotone hother)
    have habove : scaled infinityRank * den < scaled rank * den :=
      Nat.mul_lt_mul_of_pos_right (scaled_strictMono hlt) hden
    unfold distance Nat.dist at *
    omega
  · rw [Nat.min_eq_right hle]
    refine ⟨hle, fun other _ => ?_, fun other _ hne => (hnearest other hne).2⟩
    by_cases hne : other = rank
    · rw [hne]
    · exact (hnearest other hne).1

/-! ## Larger fractions -/

/-- A larger fraction of the same denominator has no smaller nearest rank. -/
theorem IsNearest.le_of_le {larger : Nat} (hden : 0 < den) (h : IsNearest num den rank)
    (hlarger : IsNearest larger den other) (hle : num ≤ larger) : rank ≤ other := by
  refine Nat.le_of_not_lt fun hlt => ?_
  -- both fractions would have to be half-way, and so would be the rank between
  have hunits : num <<< 1075 ≤ larger <<< 1075 := by
    rw [Nat.shiftLeft_eq, Nat.shiftLeft_eq]
    exact Nat.mul_le_mul_right _ hle
  have hmul : scaled other * den < scaled rank * den :=
    Nat.mul_lt_mul_of_pos_right (scaled_strictMono hlt) hden
  have hnear := h.nearest other hlarger.inRange
  have hfar := hlarger.nearest rank h.inRange
  have htie : distance num den rank = distance num den other ∧
      distance larger den other = distance larger den rank := by
    unfold distance Nat.dist at *
    omega
  have heven := h.even other hlarger.inRange (Nat.ne_of_lt hlt) htie.1
  have hotherEven := hlarger.even rank h.inRange (Nat.ne_of_gt hlt) htie.2
  have hbelow : scaled other * den < scaled (other + 1) * den :=
    Nat.mul_lt_mul_of_pos_right (scaled_strictMono (by omega)) hden
  have habove : scaled (other + 1) * den < scaled rank * den :=
    Nat.mul_lt_mul_of_pos_right (scaled_strictMono (by omega)) hden
  have hbetween := h.nearest (other + 1) (by have := h.inRange; omega)
  unfold distance Nat.dist at *
  omega

/-- No other rank is nearest to a fraction. -/
theorem IsNearest.eq (hden : 0 < den) (h : IsNearest num den rank)
    (hother : IsNearest num den other) : rank = other :=
  Nat.le_antisymm (h.le_of_le hden hother (Nat.le_refl _))
    (hother.le_of_le hden h (Nat.le_refl _))

/-- **A larger fraction has no smaller nearest rank.** -/
theorem nearestRank_le_nearestRank {num' den' : Nat} (hden : 0 < den) (hden' : 0 < den')
    (h : num * den' ≤ num' * den) : nearestRank num den ≤ nearestRank num' den' := by
  rw [← nearestRank_mul hden' num den, ← nearestRank_mul hden num' den', Nat.mul_comm den' den]
  have hpos : 0 < den * den' := Nat.mul_pos hden hden'
  exact (isNearest_nearestRank hpos _).le_of_le hpos (isNearest_nearestRank hpos _) h

end Binary64

namespace Decimal

/-- No decimal has a zero below the line. -/
theorem fraction_pos (d : Decimal) : 0 < d.fraction.2 := by
  unfold fraction
  split
  · exact Nat.one_pos
  · exact pow_ten_pos _

/-- A decimal is rounded correctly. -/
theorem isNearest_nearestRank (d : Decimal) :
    Binary64.IsNearest d.fraction.1 d.fraction.2 d.nearestRank := by
  rw [nearestRank_eq]
  exact Binary64.isNearest_nearestRank d.fraction_pos _

end Decimal

end Telemetry

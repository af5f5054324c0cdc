import Mathlib.Algebra.Order.Field.Power
import Mathlib.Algebra.Order.Ring.Rat
import Mathlib.Tactic.NormNum
import Telemetry.Proofs.Number.Order

/-!
# Shortest decimals have the fewest digits

No decimal that reads back as a rank has fewer digits than `shortest` (`digitCount_shortest_le`).

`HasPoint rank grid` says that a multiple of `10 ^ grid` reads back as the rank. Decimals between
two that read back do so too, hence a grid with a point is hit next to the magnitude
(`exists_onGrid?`). The search begins on a grid without a point (`not_hasPoint_coarsestGrid`) and
reaches one with a point (`hasPoint_of_fine`), so it stops at the coarsest grid that has one. If a
decimal that reads back had fewer digits than the one found there, a power of ten between the two
would be a point of a coarser grid still.
-/

namespace Telemetry

/-! ## Powers of two and of ten -/

section Powers

variable {b e : Int}

theorem zpow_pow_comm (a : ℚ) (b : Int) (k : Nat) : (a ^ b) ^ k = (a ^ k) ^ b := by
  rw [← zpow_natCast, ← zpow_natCast, ← zpow_mul, ← zpow_mul, mul_comm]

theorem ten_pow_zpow (k : Nat) (b : Int) : ((10 : ℚ) ^ k) ^ b = 10 ^ (k * b) := by
  rw [← zpow_natCast, ← zpow_mul]

/-- A power of two is at most a power of ten if the exponents say so, by `2 ^ 93 < 10 ^ 28` and
`10 ^ 59 < 2 ^ 196`. -/
theorem two_zpow_le_ten_zpow (hup : 28 * b ≤ 93 * e) (hdown : 59 * b ≤ 196 * e) :
    (2 : ℚ) ^ b ≤ 10 ^ e := by
  have hten : (1 : ℚ) ≤ 10 := by norm_num
  have htwo : (0 : ℚ) ≤ 2 ^ b := le_of_lt (zpow_pos (by norm_num) b)
  have hpos : (0 : ℚ) ≤ 10 ^ e := le_of_lt (zpow_pos (by norm_num) e)
  -- Both sides are raised to a power in which the bases can be compared: 2 ^ 93 is below 10 ^ 28,
  -- and 2 ^ 196 above 10 ^ 59.
  rcases Int.le_total 0 b with hb | hb
  · refine (pow_le_pow_iff_left₀ htwo hpos (show 93 ≠ 0 by decide)).1 ?_
    calc ((2 : ℚ) ^ b) ^ 93 = (2 ^ 93) ^ b := zpow_pow_comm 2 b 93
      _ ≤ (10 ^ 28) ^ b := zpow_le_zpow_left₀ hb (by norm_num) (by norm_num)
      _ = 10 ^ (28 * b) := ten_pow_zpow 28 b
      _ ≤ 10 ^ (93 * e) := zpow_le_zpow_right₀ hten hup
      _ = (10 ^ e) ^ 93 := by rw [zpow_pow_comm, ten_pow_zpow]; rfl
  · refine (pow_le_pow_iff_left₀ htwo hpos (show 196 ≠ 0 by decide)).1 ?_
    have hneg : ((10 : ℚ) ^ 59) ^ (-b) ≤ (2 ^ 196) ^ (-b) :=
      zpow_le_zpow_left₀ (by omega) (by norm_num) (by norm_num)
    calc ((2 : ℚ) ^ b) ^ 196 = (2 ^ 196) ^ b := zpow_pow_comm 2 b 196
      _ ≤ (10 ^ 59) ^ b := by
        rw [← neg_neg b, zpow_neg _ (-b), zpow_neg _ (-b)]
        exact inv_anti₀ (zpow_pos (by norm_num) _) hneg
      _ = 10 ^ (59 * b) := ten_pow_zpow 59 b
      _ ≤ 10 ^ (196 * e) := zpow_le_zpow_right₀ hten hdown
      _ = (10 ^ e) ^ 196 := by rw [zpow_pow_comm, ten_pow_zpow]; rfl

/-- A power of ten is at most a power of two, likewise. -/
theorem ten_zpow_le_two_zpow (hup : 93 * e ≤ 28 * b) (hdown : 196 * e ≤ 59 * b) :
    (10 : ℚ) ^ e ≤ 2 ^ b := by
  have h : (2 : ℚ) ^ (-b) ≤ 10 ^ (-e) := two_zpow_le_ten_zpow (by omega) (by omega)
  rw [zpow_neg, zpow_neg] at h
  exact (inv_le_inv₀ (zpow_pos (by norm_num) b) (zpow_pos (by norm_num) e)).1 h

end Powers

namespace Decimal

variable {c c' : Nat} {grid : Int}

/-! ## Points of one grid -/

/-- The points of a grid in multiples of its step. -/
theorem fraction_eq (c : Nat) (grid : Int) :
    (Decimal.mk c grid).fraction
      = (c * (Decimal.mk 1 grid).fraction.1, (Decimal.mk 1 grid).fraction.2) := by
  cases grid with
  | ofNat g => simp only [fraction, Nat.one_mul]
  | negSucc g => simp only [fraction, Nat.mul_one]

/-- On one grid a greater coefficient has no smaller rank. -/
theorem nearestRank_le_of_coefficient_le (h : c ≤ c') :
    (Decimal.mk c grid).nearestRank ≤ (Decimal.mk c' grid).nearestRank := by
  rw [nearestRank_eq, nearestRank_eq]
  refine Binary64.nearestRank_le_nearestRank (fraction_pos _) (fraction_pos _) ?_
  rw [fraction_eq c, fraction_eq c']
  exact Nat.mul_le_mul_right _ (Nat.mul_le_mul_right _ h)

/-- The step of a grid is a power of ten. -/
theorem ten_zpow_mul_fraction (grid : Int) :
    (10 : ℚ) ^ grid * (Decimal.mk 1 grid).fraction.2 = (Decimal.mk 1 grid).fraction.1 := by
  cases grid with
  | ofNat g => simp [fraction]
  | negSucc g =>
    have hpos : (10 : ℚ) ^ (g + 1) ≠ 0 := pow_ne_zero _ (by norm_num)
    rw [fraction, zpow_negSucc]
    simp only [Nat.pow_eq]
    push_cast
    exact inv_mul_cancel₀ hpos

/-- A power of two below a power of ten, in integers. -/
theorem two_pow_mul_le {n k : Nat} (h : (2 : ℚ) ^ ((n : Int) - k) ≤ 10 ^ grid) :
    2 ^ n * (Decimal.mk 1 grid).fraction.2 ≤ (Decimal.mk 1 grid).fraction.1 * 1 <<< k := by
  have htwo : (2 : ℚ) ^ ((n : Int) - k) * 2 ^ k = 2 ^ n := by
    rw [← zpow_natCast, ← zpow_natCast, ← zpow_add₀ (by norm_num), Int.sub_add_cancel]
  have hcast : (2 : ℚ) ^ n * (Decimal.mk 1 grid).fraction.2
      ≤ (Decimal.mk 1 grid).fraction.1 * 2 ^ k := by
    rw [← ten_zpow_mul_fraction, ← htwo, mul_right_comm]
    gcongr
  rw [Nat.one_shiftLeft]
  exact_mod_cast hcast

/-- A power of two above a power of ten, in integers. -/
theorem le_two_pow_mul {n j k : Nat} (h : (10 : ℚ) ^ grid ≤ 2 ^ ((n : Int) - (k + j : Nat))) :
    (Decimal.mk 1 grid).fraction.1 * 1 <<< k * 2 ^ j
      ≤ 2 ^ n * (Decimal.mk 1 grid).fraction.2 := by
  have htwo : (2 : ℚ) ^ ((n : Int) - (k + j : Nat)) * 2 ^ (k + j) = 2 ^ n := by
    rw [← zpow_natCast, ← zpow_natCast, ← zpow_add₀ (by norm_num), Int.sub_add_cancel]
  have hcast : ((Decimal.mk 1 grid).fraction.1 : ℚ) * 2 ^ (k + j)
      ≤ 2 ^ n * (Decimal.mk 1 grid).fraction.2 := by
    rw [← ten_zpow_mul_fraction, ← htwo, mul_right_comm (2 ^ _)]
    gcongr
  rw [Nat.one_shiftLeft, Nat.mul_assoc, ← Nat.pow_add]
  exact_mod_cast hcast

end Decimal

namespace Binary64

variable {tie : TieRule} {rank c : Nat} {grid : Int}

/-! ## Grids and magnitudes -/

theorem shiftLeft_eq_mul_unit (n k : Nat) : n <<< k = n * 1 <<< k := by
  rw [Nat.shiftLeft_eq, Nat.shiftLeft_eq, Nat.one_mul]

theorem unit_pos : 0 < 1 <<< 1075 := shiftLeft_pos Nat.one_pos _

/-- The value of a rank is nearest to itself; the infinity stands for `2 ^ 1024`. -/
theorem nearestRank_scaled_of_le (h : rank ≤ infinityRank) :
    nearestRank (scaled rank) (1 <<< 1075) = rank := by
  have hle := (isNearest_nearestRank unit_pos (scaled rank)).nearest rank h
  have hpos := unit_pos
  unfold distance at hle
  rw [shiftLeft_eq_mul_unit _ 1075] at hle
  -- the unit is not to be written out
  generalize 1 <<< 1075 = unit at hle hpos ⊢
  rw [Nat.dist_self, Nat.le_zero] at hle
  have heq := Nat.eq_of_mul_eq_mul_right hpos (Nat.eq_of_dist_eq_zero hle)
  exact (scaled_strictMono.injective heq).symm

/-- The magnitude of a rank in steps of a grid. -/
theorem steps_eq (rank : Nat) (grid : Int) :
    steps rank grid = (scaled rank * (Decimal.mk 1 grid).fraction.2,
      (Decimal.mk 1 grid).fraction.1 * 1 <<< 1075) := by
  cases grid with
  | ofNat g =>
    rw [steps, Decimal.fraction, shiftLeft_eq_mul_unit _ 1075]
    simp only [Nat.one_mul, Nat.mul_one]
  | negSucc g =>
    rw [steps, Decimal.fraction]
    simp only [Nat.one_mul]

theorem steps_pos (rank : Nat) (grid : Int) : 0 < (steps rank grid).2 := by
  rw [steps_eq]
  refine Nat.mul_pos ?_ unit_pos
  cases grid with
  | ofNat g => exact Nat.mul_pos Nat.one_pos (Decimal.pow_ten_pos g)
  | negSucc g => exact Nat.one_pos

/-- A point below the magnitude of a rank does not read back as a larger one. -/
theorem nearestRank_le_of_le_steps (hrank : rank < infinityRank)
    (h : c * (steps rank grid).2 ≤ (steps rank grid).1) :
    (Decimal.mk c grid).nearestRank ≤ rank := by
  rw [steps_eq] at h
  rw [Decimal.nearestRank_eq]
  conv_rhs => rw [← nearestRank_scaled hrank]
  refine nearestRank_le_nearestRank (Decimal.fraction_pos _) unit_pos ?_
  rw [Decimal.fraction_eq c]
  rwa [Nat.mul_assoc]

/-- A point above the magnitude of a rank does not read back as a smaller one. -/
theorem le_nearestRank_of_steps_le (hrank : rank ≤ infinityRank)
    (h : (steps rank grid).1 ≤ c * (steps rank grid).2) :
    rank ≤ (Decimal.mk c grid).nearestRank := by
  rw [steps_eq] at h
  rw [Decimal.nearestRank_eq]
  conv_lhs => rw [← nearestRank_scaled_of_le hrank]
  refine nearestRank_le_nearestRank unit_pos (Decimal.fraction_pos _) ?_
  rw [Decimal.fraction_eq c]
  rwa [Nat.mul_assoc]

/-- A point of a grid reads back as the rank. -/
def HasPoint (rank : Nat) (grid : Int) : Prop := ∃ c, (Decimal.mk c grid).nearestRank = rank

/-- The points of a grid are points of every finer one. -/
theorem HasPoint.finer {j : Nat} (h : HasPoint rank (grid + j)) : HasPoint rank grid := by
  obtain ⟨c, hc⟩ := h
  exact ⟨c * 10 ^ j, by rw [Decimal.nearestRank_mul_pow, hc]⟩

/-! ## Grids that are hit -/

/-- A decimal that is found on a grid has its exponent. -/
theorem exponent_of_onGrid? {d : Decimal} (h : onGrid? tie rank grid = some d) :
    d.exponent = grid := by
  unfold onGrid? at h
  dsimp only at h
  split at h <;> cases h <;> rfl

/-- A grid with a point is hit next to the magnitude. -/
theorem exists_onGrid? (tie : TieRule) (hrank : rank < infinityRank) (h : HasPoint rank grid) :
    ∃ d, onGrid? tie rank grid = some d := by
  obtain ⟨c, hc⟩ := h
  have hdivMod := Nat.div_add_mod' (steps rank grid).1 (steps rank grid).2
  have hrest := Nat.mod_lt (steps rank grid).1 (steps_pos rank grid)
  unfold onGrid?
  dsimp only
  generalize (steps rank grid).1 / (steps rank grid).2 = below at *
  have hbelow : (Decimal.mk below grid).nearestRank ≤ rank :=
    nearestRank_le_of_le_steps hrank (by omega)
  have habove : rank ≤ (Decimal.mk (below + 1) grid).nearestRank :=
    le_nearestRank_of_steps_le (Nat.le_of_lt hrank) (by rw [Nat.succ_mul]; omega)
  split
  · exact ⟨_, rfl⟩
  · exact ⟨_, rfl⟩
  · exact ⟨_, rfl⟩
  · next hmissBelow hmissAbove =>
    -- the point is on one side of the magnitude, with a neighbour between
    exfalso
    rcases Nat.lt_or_ge below c with hlt | hle
    · have hback : (Decimal.mk (below + 1) grid).nearestRank ≤ rank :=
        hc ▸ Decimal.nearestRank_le_of_coefficient_le hlt
      exact ne_of_beq_false hmissAbove (Nat.le_antisymm hback habove)
    · have hback : rank ≤ (Decimal.mk below grid).nearestRank :=
        hc ▸ Decimal.nearestRank_le_of_coefficient_le hle
      exact ne_of_beq_false hmissBelow (Nat.le_antisymm hbelow hback)

/-! ## The first grid and the last one -/

/-- Above zero, magnitudes at most double from one rank to the next. -/
theorem scaled_succ_le (hrank : rank ≠ 0) : scaled (rank + 1) ≤ 2 * scaled rank := by
  obtain ⟨p, m, heq, hlow, -, hscaled, hnext⟩ := exists_scaled_eq rank
  have hm : 1 ≤ m := by
    refine Nat.one_le_iff_ne_zero.2 fun hzero => hrank ?_
    have hweight : 0 < exponentWeight := by decide
    obtain rfl : p = 0 := by omega
    rw [heq, hzero, Nat.zero_mul]
  rw [hscaled, hnext, ← Nat.mul_assoc]
  exact Nat.mul_le_mul_right _ (by omega)

/-- Every rank but the first has a magnitude. -/
theorem scaled_pos (hrank : rank ≠ 0) : 0 < scaled rank :=
  Nat.lt_of_le_of_lt (Nat.zero_le _) (scaled_strictMono (Nat.pos_of_ne_zero hrank))

/-- A finite magnitude has a bounded number of bits. -/
theorem bitLength_scaled_le (h : rank < infinityRank) : bitLength (scaled rank) ≤ 2099 := by
  have hinfinity : scaled infinityRank = 2 ^ 2099 := by decide +kernel
  exact bitLength_le_of_lt (hinfinity ▸ scaled_strictMono h)

/-- The coarsest grid has no point. -/
theorem not_hasPoint_coarsestGrid (h : rank < infinityRank) (hrank : rank ≠ 0) :
    ¬ HasPoint rank (coarsestGrid rank) := by
  rintro ⟨c, hc⟩
  have hone : 1 ≤ c := by
    refine Nat.one_le_iff_ne_zero.2 fun hzero => hrank ?_
    rw [← hc, hzero, Decimal.nearestRank_zero]
  -- already the first point is at least twice the magnitude
  have hstep : (2 : ℚ) ^ (((bitLength (scaled rank) + 1 : Nat) : Int) - (1075 : Nat))
      ≤ 10 ^ coarsestGrid rank := by
    have hlength := bitLength_scaled_le h
    unfold coarsestGrid
    apply two_zpow_le_ten_zpow <;> omega
  have hmagnitude : scaled (rank + 1) ≤ 2 ^ (bitLength (scaled rank) + 1) := by
    have hlt := lt_two_pow_bitLength (scaled rank)
    have hdouble := scaled_succ_le hrank
    rw [Nat.pow_succ]
    omega
  have hfirst : rank + 1 ≤ (Decimal.mk 1 (coarsestGrid rank)).nearestRank := by
    refine le_nearestRank_of_steps_le h ?_
    rw [steps_eq, Nat.one_mul]
    exact Nat.le_trans (Nat.mul_le_mul_right _ hmagnitude) (Decimal.two_pow_mul_le hstep)
  have hmono : (Decimal.mk 1 (coarsestGrid rank)).nearestRank
      ≤ (Decimal.mk c (coarsestGrid rank)).nearestRank :=
    Decimal.nearestRank_le_of_coefficient_le hone
  omega

/-- Neighbouring magnitudes are not closer than 53 bits allow. -/
theorem scaled_succ_le_gap (rank : Nat) :
    scaled (rank + 1) ≤ 2 ^ 53 * (scaled (rank + 1) - scaled rank) := by
  obtain ⟨p, m, -, -, hhigh, hscaled, hnext⟩ := exists_scaled_eq rank
  have hweight : 2 * exponentWeight = 2 ^ 53 := by decide
  rw [hscaled, hnext, ← Nat.sub_mul, ← Nat.mul_assoc]
  exact Nat.mul_le_mul_right _ (by omega)

/-- A point below a magnitude reads back if it is nearer than half of the gap there. -/
theorem nearestRank_of_close (h : rank + 1 < infinityRank)
    (hle : c * (steps (rank + 1) grid).2 ≤ (steps (rank + 1) grid).1)
    (hclose : 2 * ((steps (rank + 1) grid).1 - c * (steps (rank + 1) grid).2)
      < (scaled (rank + 1) - scaled rank) * (Decimal.mk 1 grid).fraction.2) :
    (Decimal.mk c grid).nearestRank = rank + 1 := by
  refine Nat.le_antisymm (nearestRank_le_of_le_steps h hle) (Nat.le_of_not_lt fun hlt => ?_)
  have hnear := (Decimal.isNearest_nearestRank ⟨c, grid⟩).nearest (rank + 1) (Nat.le_of_lt h)
  have hbelow : scaled (Decimal.mk c grid).nearestRank * (Decimal.mk 1 grid).fraction.2
      ≤ scaled rank * (Decimal.mk 1 grid).fraction.2 :=
    Nat.mul_le_mul_right _ (scaled_strictMono.monotone (Nat.le_of_lt_succ hlt))
  unfold distance at hnear
  rw [Decimal.fraction_eq c, shiftLeft_eq_mul_unit _ 1075, Nat.mul_assoc] at hnear
  rw [steps_eq] at hle hclose
  rw [Nat.sub_mul] at hclose
  -- in steps of the grid, the point would be nearer to a smaller magnitude
  generalize c * ((Decimal.mk 1 grid).fraction.1 * 1 <<< 1075) = point at *
  unfold Nat.dist at hnear
  dsimp only at *
  omega

/-- The last grid has a point: its step is far below the last bit of the magnitude. -/
theorem hasPoint_of_fine (h : rank < infinityRank) (hrank : rank ≠ 0) :
    HasPoint rank (coarsestGrid rank - 23) := by
  have hfine : (10 : ℚ) ^ (coarsestGrid rank - 23)
      ≤ 2 ^ ((bitLength (scaled rank) : Int) - (1075 + 56 : Nat)) := by
    have hlength := bitLength_scaled_le h
    unfold coarsestGrid
    apply ten_zpow_le_two_zpow <;> omega
  have hstep := Decimal.le_two_pow_mul hfine
  have hlow := two_pow_bitLength_le (scaled_pos hrank)
  generalize coarsestGrid rank - 23 = grid at hstep ⊢
  obtain ⟨q, rfl⟩ := Nat.exists_eq_add_one_of_ne_zero hrank
  refine ⟨(steps (q + 1) grid).1 / (steps (q + 1) grid).2, ?_⟩
  have hdivMod := Nat.div_add_mod' (steps (q + 1) grid).1 (steps (q + 1) grid).2
  have hrest := Nat.mod_lt (steps (q + 1) grid).1 (steps_pos (q + 1) grid)
  refine nearestRank_of_close h (by omega) ?_
  -- the gap takes four steps
  have hgap := Nat.mul_le_mul_right (Decimal.mk 1 grid).fraction.2 (scaled_succ_le_gap q)
  have hwide := Nat.mul_le_mul_right (Decimal.mk 1 grid).fraction.2 hlow
  have hfour : 4 * (steps (q + 1) grid).2
      ≤ (scaled (q + 1) - scaled q) * (Decimal.mk 1 grid).fraction.2 := by
    have hsteps : (Decimal.mk 1 grid).fraction.1 * 1 <<< 1075 = (steps (q + 1) grid).2 := by
      rw [steps_eq]
    rw [hsteps] at hstep
    rw [Nat.mul_assoc] at hgap hwide
    omega
  omega

/-! ## The fewest digits -/

/-- The first hit of a search comes before all others. -/
theorem mem_of_lt_of_range_eq {n i j : Nat} {before after : List Nat}
    (h : List.range n = before ++ i :: after) (hlt : j < i) : j ∈ before := by
  have hordered : (before ++ i :: after).Pairwise (· < ·) := h ▸ List.pairwise_lt_range
  have hafter := (List.pairwise_cons.1 (List.pairwise_append.1 hordered).2.1).1
  have hi : i ∈ List.range n := by simp [h]
  have hj : j ∈ before ++ i :: after := by
    rw [← h, List.mem_range]
    exact Nat.lt_trans hlt (List.mem_range.1 hi)
  rcases List.mem_append.1 hj with hbefore | hrest
  · exact hbefore
  · rcases List.mem_cons.1 hrest with rfl | hmem
    · omega
    · exact absurd (hafter j hmem) (by omega)

/-- The search ends at the coarsest grid that has a point. -/
theorem exists_shortest_eq (tie : TieRule) (h : rank < infinityRank) (hrank : rank ≠ 0) :
    ∃ d, shortest tie rank = dropZeros 20 d ∧ d.nearestRank = rank ∧
      ∀ other, d.exponent < other → ¬ HasPoint rank other := by
  unfold shortest
  rw [if_neg hrank]
  dsimp only
  split
  · next d hsearch =>
    obtain ⟨before, i, after, hrange, hgrid, hbefore⟩ := List.findSome?_eq_some_iff.1 hsearch
    refine ⟨d, rfl, nearestRank_of_onGrid? hgrid, fun other hother hpoint => ?_⟩
    rw [exponent_of_onGrid? hgrid] at hother
    rcases Int.le_total (coarsestGrid rank) other with hcoarse | hcoarse
    · -- a point of a grid that is coarser than the first one is a point of that
      obtain ⟨j, rfl⟩ := Int.le.dest hcoarse
      exact not_hasPoint_coarsestGrid h hrank hpoint.finer
    · obtain ⟨j, hj⟩ := Int.le.dest hcoarse
      obtain ⟨hit, hhit⟩ := exists_onGrid? tie h hpoint
      have hmiss := hbefore j (mem_of_lt_of_range_eq hrange (by omega))
      rw [← hj, Int.add_sub_cancel, hhit] at hmiss
      cases hmiss
  · next hsearch =>
    obtain ⟨hit, hhit⟩ := exists_onGrid? tie h (hasPoint_of_fine h hrank)
    have hmiss := List.findSome?_eq_none_iff.1 hsearch 23 (by decide)
    exact absurd (hhit.symm.trans hmiss) nofun

/-- Dropping zeros makes no coefficient greater. -/
theorem coefficient_dropZeros_le (fuel : Nat) (d : Decimal) :
    (dropZeros fuel d).coefficient ≤ d.coefficient := by
  induction fuel generalizing d with
  | zero => exact Nat.le_refl _
  | succ fuel ih =>
    rw [dropZeros]
    split
    · exact Nat.le_trans (ih _) (Nat.div_le_self _ _)
    · exact Nat.le_refl _

/-- **The shortest decimal has the fewest digits**: no decimal that reads back has fewer. -/
theorem coefficient_shortest_lt (tie : TieRule) (h : rank < infinityRank) {d : Decimal}
    (hd : d.nearestRank = rank) {k : Nat} (hk : d.coefficient < 10 ^ k) :
    (shortest tie rank).coefficient < 10 ^ k := by
  by_cases hrank : rank = 0
  · rw [hrank]
    exact Nat.pow_pos (by decide)
  obtain ⟨found, hshortest, hfound, hcoarsest⟩ := exists_shortest_eq tie h hrank
  rw [hshortest]
  refine Nat.lt_of_le_of_lt (coefficient_dropZeros_le 20 found) (Nat.lt_of_not_le fun hlong => ?_)
  obtain ⟨c, e⟩ := d
  obtain ⟨j, hj⟩ : ∃ j : Nat, e + j = found.exponent := by
    refine Int.le.dest (Int.not_lt.1 fun hlt => ?_)
    exact hcoarsest e hlt ⟨c, hd⟩
  have hpos : 0 < k := by
    refine Nat.pos_of_ne_zero fun hzero => hrank ?_
    have hnone : c = 0 := by
      rw [hzero] at hk
      exact Nat.lt_one_iff.1 hk
    rw [← hd, hnone, Decimal.nearestRank_zero]
  -- the power of ten lies between the two decimals, so it reads back as well
  have habove : rank ≤ (Decimal.mk (10 ^ k) found.exponent).nearestRank := by
    rw [← hj, ← Decimal.nearestRank_mul_pow, ← hd]
    refine Decimal.nearestRank_le_of_coefficient_le (Nat.le_trans (Nat.le_of_lt hk) ?_)
    exact Nat.le_mul_of_pos_right _ (Nat.pow_pos (by decide))
  have hbelow : (Decimal.mk (10 ^ k) found.exponent).nearestRank ≤ rank := by
    rw [← hfound]
    exact Decimal.nearestRank_le_of_coefficient_le hlong
  have hpoint : HasPoint rank (found.exponent + k) := by
    refine ⟨1, ?_⟩
    rw [← Decimal.nearestRank_mul_pow, Nat.one_mul]
    exact Nat.le_antisymm hbelow habove
  exact hcoarsest _ (by omega) hpoint

end Binary64

/-- The number of digits of a decimal. -/
def Decimal.digitCount (d : Decimal) : Nat := (Nat.toDigits 10 d.coefficient).length

/-- In numbers of digits. -/
theorem Binary64.digitCount_shortest_le (tie : TieRule) {rank : Nat} (h : rank < infinityRank)
    {d : Decimal} (hd : d.nearestRank = rank) : (shortest tie rank).digitCount ≤ d.digitCount := by
  have hpos : 0 < d.digitCount := List.length_pos_iff.2 Nat.toDigits_ne_nil
  have hlt := (Nat.length_toDigits_le_iff (by decide) hpos).1 (Nat.le_refl d.digitCount)
  exact (Nat.length_toDigits_le_iff (by decide) hpos).2 (coefficient_shortest_lt tie h hd hlt)

end Telemetry

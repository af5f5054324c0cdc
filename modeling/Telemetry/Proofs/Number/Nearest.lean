import Mathlib.Algebra.Ring.Int.Defs
import Mathlib.Algebra.Ring.Nat
import Telemetry.Number.Binary64
import Telemetry.Number.Layout

/-!
# Rounded and nearest numbers

Bounds on what is rounded to an integer, and what follows from them for the rank that is nearest to a
fraction.
-/

namespace Telemetry

/-! ## Bounds on rounded integers

`roundHalfEven num den` does not fall below an integer that the fraction reaches
(`le_roundHalfEven`), it falls at most half of one below the fraction (`two_mul_le_roundHalfEven`),
and half-way above an odd integer it goes up (`succ_le_roundHalfEven`). `bitLength` is given by the
two powers of two next to a number.
-/

section

variable {n m k d : Nat}

/-- The rounded integer is at least the quotient. -/
theorem div_le_roundHalfEven (n d : Nat) : n / d ≤ roundHalfEven n d := by
  unfold roundHalfEven
  dsimp only
  split
  · exact Nat.le_refl _
  · split <;> omega

/-- The rounded integer does not fall below an integer that the fraction reaches. -/
theorem le_roundHalfEven (hd : 0 < d) (h : k * d ≤ n) : k ≤ roundHalfEven n d :=
  Nat.le_trans ((Nat.le_div_iff_mul_le hd).2 h) (div_le_roundHalfEven n d)

/-- The fraction is at most half of one above the rounded integer. -/
theorem two_mul_le_roundHalfEven (n : Nat) (hd : 0 < d) :
    2 * n ≤ 2 * (roundHalfEven n d * d) + d := by
  have hdiv : n / d * d + n % d = n := by
    rw [Nat.mul_comm]
    exact Nat.div_add_mod n d
  unfold roundHalfEven
  dsimp only
  -- Rounded down, the rest is at most half; rounded up, nothing is missing.
  split
  · omega
  · split
    · have hrest : n % d < d := Nat.mod_lt n hd
      rw [Nat.add_mul]
      omega
    · rw [Nat.add_mul]
      omega

/-- A fraction that is half of one above an odd integer, or more, is rounded up. -/
theorem succ_le_roundHalfEven (hd : 0 < d) (hodd : k % 2 = 1) (h : 2 * (k * d) + d ≤ 2 * n) :
    k + 1 ≤ roundHalfEven n d := by
  by_cases hnext : (k + 1) * d ≤ n
  · exact le_roundHalfEven hd hnext
  -- The fraction is between an odd integer and the next one, and at least half-way.
  have hquot : n / d = k := by
    refine Nat.div_eq_of_lt_le ?_ (by omega)
    omega
  have hrest : n % d = n - k * d := by
    rw [← hquot, Nat.mul_comm, Nat.mod_eq_sub_mul_div]
  unfold roundHalfEven
  dsimp only
  rw [hquot, hrest]
  split
  · omega
  · split <;> omega

theorem bitLength_of_ne_zero (h : n ≠ 0) : bitLength n = Nat.log2 n + 1 := if_neg h

/-- A number of a positive length reaches the power of two below. -/
theorem two_pow_le_of_bitLength (h : bitLength n = k + 1) : 2 ^ k ≤ n := by
  have hn : n ≠ 0 := fun hn => by simp [bitLength, hn] at h
  rw [bitLength_of_ne_zero hn] at h
  rw [← Nat.succ.inj h]
  exact Nat.log2_self_le hn

/-- A length is determined by the powers of two next to a number. -/
theorem bitLength_eq (hlow : 2 ^ k ≤ n) (hhigh : n < 2 ^ (k + 1)) : bitLength n = k + 1 := by
  have hn : n ≠ 0 := Nat.ne_of_gt (Nat.lt_of_lt_of_le (Nat.two_pow_pos k) hlow)
  rw [bitLength_of_ne_zero hn, (Nat.log2_eq_iff hn).2 ⟨hlow, hhigh⟩]

end

/-! ## Nearest numbers

The rank nearest to a fraction depends on the value of the fraction only (`nearestRank_mul`), and
the value of a finite rank is nearest to itself (`nearestRank_scaled`).

A decimal is the fraction `Decimal.fraction`. Large and small decimals are settled without writing
the power of ten out; `Decimal.nearestRank_eq` says that they are settled rightly. So a decimal may
give up zeros to its exponent (`Decimal.nearestRank_mul_pow`), and the shortest decimal of a rank
reads back as the rank (`nearestRank_shortest`), on whatever grid it was found.
-/

/-! ### Rounded integers -/

section Rounded

variable {n d k : Nat}

/-- A common factor does not change the rounded integer. -/
theorem roundHalfEven_mul (hk : 0 < k) (n d : Nat) :
    roundHalfEven (n * k) (d * k) = roundHalfEven n d := by
  have hquotient : n * k / (d * k) = n / d := Nat.mul_div_mul_right n d hk
  have hrest : n * k % (d * k) = n % d * k := Nat.mul_mod_mul_right k n d
  have hlow : 2 * (n % d * k) < d * k ↔ 2 * (n % d) < d := by
    rw [← Nat.mul_assoc]
    exact Nat.mul_lt_mul_right hk
  have hhigh : d * k < 2 * (n % d * k) ↔ d < 2 * (n % d) := by
    rw [← Nat.mul_assoc]
    exact Nat.mul_lt_mul_right hk
  unfold roundHalfEven
  simp only [hquotient, hrest, hlow, hhigh]

/-- An integer is rounded to itself. -/
theorem roundHalfEven_mul_self (hd : 0 < d) (k : Nat) : roundHalfEven (k * d) d = k := by
  unfold roundHalfEven
  simp only [Nat.mul_div_cancel k hd, Nat.mul_mod_left, Nat.mul_zero, if_pos hd]

/-- A fraction below one half is rounded to zero. -/
theorem roundHalfEven_eq_zero (h : 2 * n < d) : roundHalfEven n d = 0 := by
  have hlt : n < d := by omega
  unfold roundHalfEven
  simp only [Nat.div_eq_of_lt hlt, Nat.mod_eq_of_lt hlt, if_pos h]

/-- A number that reaches a power of two is longer than its exponent. -/
theorem lt_bitLength_of_two_pow_le (h : 2 ^ k ≤ n) : k < bitLength n := by
  have hn : n ≠ 0 := Nat.ne_of_gt (Nat.lt_of_lt_of_le (Nat.two_pow_pos k) h)
  rw [bitLength_of_ne_zero hn]
  exact Nat.lt_succ_of_le ((Nat.le_log2 hn).2 h)

/-- A number below a power of two has no more bits than that. -/
theorem bitLength_le_of_lt (h : n < 2 ^ k) : bitLength n ≤ k := by
  by_cases hn : n = 0
  · simp [bitLength, hn]
  · rw [bitLength_of_ne_zero hn]
    exact (Nat.log2_lt hn).2 h

theorem shiftLeft_pos (hd : 0 < d) (k : Nat) : 0 < d <<< k := by
  rw [Nat.shiftLeft_eq]
  exact Nat.mul_pos hd (Nat.two_pow_pos k)

end Rounded

namespace Binary64

/-! ### Fractions -/

variable {num den rank : Nat}

/-- A common factor does not change the nearest rank. -/
theorem nearestRank_mul {k : Nat} (hk : 0 < k) (num den : Nat) :
    nearestRank (num * k) (den * k) = nearestRank num den := by
  have hshift : ∀ n shift, (n * k) <<< shift = n <<< shift * k := fun n shift => by
    rw [Nat.shiftLeft_eq, Nat.shiftLeft_eq, Nat.mul_right_comm]
  unfold nearestRank
  simp only [hshift, Nat.mul_div_mul_right _ _ hk, roundHalfEven_mul hk]

/-- A fraction below half of the smallest magnitude is nearest to zero. -/
theorem nearestRank_eq_zero (h : 2 * num <<< 1074 < den) : nearestRank num den = 0 := by
  have hquotient : num <<< 1074 / den = 0 := Nat.div_eq_of_lt (by omega)
  have hlength : bitLength 0 - 53 = 0 := rfl
  unfold nearestRank
  simp only [hquotient, hlength, Nat.shiftLeft_zero, Nat.zero_mul, Nat.zero_add]
  rw [roundHalfEven_eq_zero h, Nat.min_zero]

theorem exponentWeight_eq : exponentWeight = 2 ^ 52 := by decide

/-- A quotient that is shifted keeps 53 bits. -/
theorem weight_le_roundHalfEven {units shift : Nat} (hden : 0 < den)
    (hlength : bitLength (units / den) = shift + 53) :
    exponentWeight ≤ roundHalfEven units (den <<< shift) := by
  have hlow : 2 ^ (shift + 52) ≤ units / den := two_pow_le_of_bitLength hlength
  refine le_roundHalfEven (shiftLeft_pos hden shift) ?_
  have hle := (Nat.le_div_iff_mul_le hden).1 hlow
  rwa [Nat.shiftLeft_eq, exponentWeight_eq, Nat.mul_comm den, ← Nat.mul_assoc, ← Nat.pow_add,
    Nat.add_comm 52]

/-- A fraction from `2 ^ 1024` on is out of range. -/
theorem nearestRank_eq_infinityRank (hden : 0 < den) (h : den <<< 1024 ≤ num) :
    nearestRank num den = infinityRank := by
  have hunits : 2 ^ (1024 + 1074) ≤ num <<< 1074 / den := by
    generalize 1024 = a, 1074 = b at h ⊢
    rw [Nat.shiftLeft_eq, Nat.mul_comm] at h
    rw [Nat.le_div_iff_mul_le hden, Nat.pow_add, Nat.mul_right_comm, Nat.shiftLeft_eq]
    exact Nat.mul_le_mul_right _ h
  -- So long a magnitude has an exponent beyond the greatest finite one.
  have hlength := lt_bitLength_of_two_pow_le hunits
  obtain ⟨shift, hshift⟩ : ∃ shift, bitLength (num <<< 1074 / den) = shift + 53 :=
    ⟨bitLength (num <<< 1074 / den) - 53, by omega⟩
  have hround := weight_le_roundHalfEven hden hshift
  have hweight : 2046 * exponentWeight ≤ shift * exponentWeight :=
    Nat.mul_le_mul_right _ (by omega)
  unfold nearestRank
  simp only [hshift, Nat.add_sub_cancel]
  refine Nat.min_eq_left ?_
  rw [infinityRank]
  omega

/-! ### Ranks -/

/-- A rank is its power and its significand. Only the smallest power has significands of less than
53 bits. -/
theorem exists_power_eq (rank : Nat) :
    ∃ p, power rank = p + 1 ∧ rank = p * exponentWeight + significand rank ∧
      significand rank < 2 ^ 53 ∧ (p = 0 ∨ 2 ^ 52 ≤ significand rank) := by
  have hdiv : exponentWeight * (rank / exponentWeight) + rank % exponentWeight = rank :=
    Nat.div_add_mod rank exponentWeight
  have hmod : rank % exponentWeight < exponentWeight := Nat.mod_lt _ (by decide)
  unfold power significand
  rw [exponentWeight_eq] at *
  by_cases hzero : rank / 2 ^ 52 = 0
  · rw [if_pos hzero, hzero]
    exact ⟨0, rfl, by omega, by omega, .inl rfl⟩
  · obtain ⟨p, hp⟩ := Nat.exists_eq_succ_of_ne_zero hzero
    rw [if_neg hzero]
    exact ⟨p, by omega, by omega, by omega, .inr (by omega)⟩

/-- The value of a finite rank is nearest to itself. -/
theorem nearestRank_scaled (h : rank < infinityRank) :
    nearestRank (scaled rank) (1 <<< 1075) = rank := by
  obtain ⟨p, hpower, hrank, hhigh, hlow⟩ := exists_power_eq rank
  have hpos : 0 < 1 <<< 1075 := shiftLeft_pos Nat.one_pos _
  have hunits : scaled rank <<< 1074 = significand rank * 2 ^ p * 1 <<< 1075 := by
    rw [scaled, hpower, show 1075 = 1074 + 1 from rfl]
    generalize 1074 = k
    rw [Nat.shiftLeft_eq, Nat.shiftLeft_eq, Nat.shiftLeft_eq, Nat.one_mul, Nat.pow_add, Nat.pow_add]
    ac_rfl
  have hquotient : scaled rank <<< 1074 / 1 <<< 1075 = significand rank * 2 ^ p := by
    rw [hunits, Nat.mul_div_cancel _ hpos]
  -- the shift takes back the power of two, because the significand has 53 bits where it is not 1
  have hshift : bitLength (significand rank * 2 ^ p) - 53 = p := by
    rcases hlow with rfl | hlow
    · have hlength := bitLength_le_of_lt hhigh
      rw [Nat.pow_zero, Nat.mul_one]
      omega
    · have hlength : bitLength (significand rank * 2 ^ p) = 52 + p + 1 := by
        refine bitLength_eq ?_ ?_
        · rw [Nat.pow_add]
          exact Nat.mul_le_mul_right _ hlow
        · rw [Nat.add_right_comm, Nat.pow_add]
          exact Nat.mul_lt_mul_of_pos_right hhigh (Nat.two_pow_pos p)
      omega
  have hround : roundHalfEven (scaled rank <<< 1074) (1 <<< 1075 <<< p) = significand rank := by
    rw [hunits, Nat.mul_assoc, Nat.mul_comm (2 ^ p), ← Nat.shiftLeft_eq (1 <<< 1075) p]
    exact roundHalfEven_mul_self (shiftLeft_pos hpos p) _
  unfold nearestRank
  simp only [hquotient, hshift, hround, ← hrank]
  exact Nat.min_eq_right (Nat.le_of_lt h)

end Binary64

/-! ### Decimals -/

namespace Decimal

/-- A decimal as a fraction. -/
def fraction (d : Decimal) : Nat × Nat :=
  match d.exponent with
  | .ofNat e => (d.coefficient * Nat.pow 10 e, 1)
  | .negSucc e => (d.coefficient, Nat.pow 10 (e + 1))

theorem pow_ten_pos (e : Nat) : 0 < Nat.pow 10 e := Nat.pow_pos (by decide)

theorem pow_five_pos (e : Nat) : 0 < Nat.pow 5 e := Nat.pow_pos (by decide)

/-- Powers of ten are above those of eight. -/
theorem two_pow_le_pow_ten {k e : Nat} (h : k ≤ 3 * e) : 2 ^ k ≤ Nat.pow 10 e := by
  refine Nat.le_trans (Nat.pow_le_pow_right (by decide) h) ?_
  rw [Nat.pow_mul]
  exact Nat.pow_le_pow_left (by decide) e

/-- Three bits make less than a decimal digit. -/
theorem shiftLeft_le_pow_ten {k e : Nat} (h : k ≤ 3 * e) : 1 <<< k ≤ Nat.pow 10 e := by
  rw [Nat.shiftLeft_eq, Nat.one_mul]
  exact two_pow_le_pow_ten h

theorem pow_ten_eq (e : Nat) : Nat.pow 10 e = 1 <<< e * Nat.pow 5 e := by
  rw [Nat.shiftLeft_eq, Nat.one_mul]
  exact Nat.mul_pow 2 5 e

/-- A number is below the power of two of its length. -/
theorem two_mul_shiftLeft_lt (n k : Nat) : 2 * n <<< k < 2 ^ (Nat.log2 n + k + 2) := by
  have hn : n < 2 ^ (Nat.log2 n + 1) := Nat.lt_log2_self
  calc 2 * n <<< k = n * 2 ^ (k + 1) := by rw [Nat.shiftLeft_eq, Nat.pow_succ]; ac_rfl
    _ < 2 ^ (Nat.log2 n + 1) * 2 ^ (k + 1) := Nat.mul_lt_mul_of_pos_right hn (Nat.two_pow_pos _)
    _ = 2 ^ (Nat.log2 n + k + 2) := by rw [← Nat.pow_add]; congr 1; omega

/-- A decimal is rounded as the fraction that it is, also where the power of ten is not written
out. -/
theorem nearestRank_eq (d : Decimal) :
    d.nearestRank = Binary64.nearestRank d.fraction.1 d.fraction.2 := by
  obtain ⟨c, exponent⟩ := d
  cases exponent with
  | ofNat e =>
    simp only [nearestRank, fraction]
    split
    · next hzero =>
      rw [hzero, Nat.zero_mul]
      rfl
    · next hne =>
      split
      · -- the decimal is at least `10 ^ 401`
        next hlarge =>
        refine (Binary64.nearestRank_eq_infinityRank Nat.one_pos ?_).symm
        have hpow : 1 <<< 1024 ≤ Nat.pow 10 e := shiftLeft_le_pow_ten (by omega)
        exact Nat.le_trans hpow (Nat.le_mul_of_pos_left _ (Nat.pos_of_ne_zero hne))
      · rfl
  | negSucc e =>
    simp only [nearestRank, fraction]
    split
    · -- the decimal is below every subnormal number
      next hsmall =>
      refine (Binary64.nearestRank_eq_zero ?_).symm
      exact Nat.lt_of_lt_of_le (two_mul_shiftLeft_lt c 1074) (two_pow_le_pow_ten (by omega))
    · rfl

/-- A zero may move from the coefficient to the exponent. -/
theorem nearestRank_mul_ten (c : Nat) (e : Int) :
    (Decimal.mk (c * 10) e).nearestRank = (Decimal.mk c (e + 1)).nearestRank := by
  have hpow : ∀ k, Nat.pow 10 (k + 1) = Nat.pow 10 k * 10 := fun _ => rfl
  rw [nearestRank_eq, nearestRank_eq]
  -- The power of ten stands above the line, below it, or crosses it.
  match e with
  | .ofNat e =>
    have hnext : Int.ofNat e + 1 = Int.ofNat (e + 1) := rfl
    simp only [fraction, hnext, hpow]
    rw [Nat.mul_assoc, Nat.mul_comm 10]
  | .negSucc 0 =>
    have hnext : Int.negSucc 0 + 1 = Int.ofNat 0 := rfl
    have hone : Nat.pow 10 0 = 1 := rfl
    simp only [fraction, hnext, hpow, hone, Nat.mul_one]
    exact Binary64.nearestRank_mul (by decide) c 1
  | .negSucc (e + 1) =>
    have hnext : Int.negSucc (e + 1) + 1 = Int.negSucc e := rfl
    simp only [fraction, hnext]
    rw [hpow (e + 1)]
    exact Binary64.nearestRank_mul (by decide) c _

/-- Zeros may move from the coefficient to the exponent. -/
theorem nearestRank_mul_pow (c k : Nat) (e : Int) :
    (Decimal.mk (c * 10 ^ k) e).nearestRank = (Decimal.mk c (e + k)).nearestRank := by
  induction k generalizing e with
  | zero => simp
  | succ k ih =>
    have hexponent : e + 1 + (k : Int) = e + ((k + 1 : Nat) : Int) := by omega
    rw [Nat.pow_succ, ← Nat.mul_assoc, nearestRank_mul_ten, ih, hexponent]

/-- Zero is zero on every grid. -/
theorem nearestRank_zero (e : Int) : (Decimal.mk 0 e).nearestRank = 0 := by
  cases e with
  | ofNat e => rfl
  | negSucc e =>
    rw [nearestRank_eq]
    refine Binary64.nearestRank_eq_zero ?_
    rw [fraction, Nat.zero_shiftLeft, Nat.mul_zero]
    exact pow_ten_pos (e + 1)

end Decimal

/-! ### Shortest decimals -/

namespace Binary64

variable {tie : TieRule} {rank : Nat}

/-- A binary fraction written out in decimal has the same nearest rank. -/
theorem nearestRank_writtenOut (n e k : Nat) (h : e = k + 1) :
    (Decimal.mk (n * Nat.pow 5 e) (.negSucc k)).nearestRank = nearestRank n (1 <<< e) := by
  rw [Decimal.nearestRank_eq]
  simp only [Decimal.fraction, ← h]
  rw [Decimal.pow_ten_eq, nearestRank_mul (Decimal.pow_five_pos e)]

/-- The exact decimal of a rank reads back as the rank. -/
theorem nearestRank_exactDecimal (h : rank < infinityRank) :
    (exactDecimal rank).nearestRank = rank := by
  have hexponent : (-1075 : Int) = .negSucc 1074 := rfl
  unfold exactDecimal
  -- the power of five is not to be written out
  generalize he : 1075 = e
  rw [hexponent, nearestRank_writtenOut _ e 1074 he.symm, ← he]
  exact nearestRank_scaled h

/-- A point of a grid is taken only if it reads back. -/
theorem nearestRank_of_onGrid? {grid : Int} {d : Decimal} (h : onGrid? tie rank grid = some d) :
    d.nearestRank = rank := by
  unfold onGrid? at h
  dsimp only at h
  -- Both neighbours read back as the rank, or one of them does, or none and nothing is found.
  split at h
  · next hbelow habove =>
    cases h
    split
    · exact eq_of_beq habove
    · exact eq_of_beq hbelow
  · next hbelow _ =>
    cases h
    exact eq_of_beq hbelow
  · next _ habove =>
    cases h
    exact eq_of_beq habove
  · cases h

/-- Dropping zeros changes the digits and not the number. -/
theorem nearestRank_dropZeros (fuel : Nat) (d : Decimal) :
    (dropZeros fuel d).nearestRank = d.nearestRank := by
  induction fuel generalizing d with
  | zero => rfl
  | succ fuel ih =>
    rw [dropZeros]
    split
    · next hzero =>
      have hten : d.coefficient / 10 * 10 = d.coefficient :=
        Nat.div_mul_cancel (Nat.dvd_of_mod_eq_zero hzero)
      rw [ih, ← Decimal.nearestRank_mul_ten, hten]
    · rfl

/-- **The shortest decimal of a finite rank reads back as the rank.** -/
theorem nearestRank_shortest (tie : TieRule) (h : rank < infinityRank) :
    (shortest tie rank).nearestRank = rank := by
  unfold shortest
  split
  · next hzero =>
    rw [hzero]
    rfl
  · dsimp only
    split
    · next d hfound =>
      obtain ⟨i, -, hgrid⟩ := List.exists_of_findSome?_eq_some hfound
      rw [nearestRank_dropZeros]
      exact nearestRank_of_onGrid? hgrid
    · exact nearestRank_exactDecimal h

/-- Only zero has a shortest decimal without a digit that counts. -/
theorem coefficient_shortest_ne_zero (tie : TieRule) (h : rank < infinityRank) (hrank : rank ≠ 0) :
    (shortest tie rank).coefficient ≠ 0 := by
  intro hzero
  have hback := nearestRank_shortest tie h
  generalize shortest tie rank = d at hzero hback
  obtain ⟨c, e⟩ := d
  obtain rfl : c = 0 := hzero
  rw [Decimal.nearestRank_zero] at hback
  exact hrank hback.symm

end Binary64

end Telemetry

import Telemetry.Number.Layout
import Telemetry.Proofs.Number.Nearest
import Telemetry.Proofs.Number.Syntax

/-!
# Number texts read back

Whatever a layout decides, the text that it gives to a finite number is read as this number again,
bit for bit (`read?_write`). A text is taken apart at the point and at the exponent; what was
written there may stand for another coefficient and exponent than before, with zeros moved from one
to the other, and this does not change the nearest rank.
-/

namespace Telemetry

/-! ## Digits -/

/-- Zeros in front do not count. -/
theorem ofDigitChars_zeros_append (n : Nat) (cs : List Char) :
    Nat.ofDigitChars 10 (List.replicate n '0' ++ cs) 0 = Nat.ofDigitChars 10 cs 0 := by
  rw [Nat.ofDigitChars_append, Nat.ofDigitChars_replicate_zero, Nat.mul_zero]

/-- Zeros behind are factors of ten. -/
theorem ofDigitChars_append_zeros (cs : List Char) (n : Nat) :
    Nat.ofDigitChars 10 (cs ++ List.replicate n '0') 0 = Nat.ofDigitChars 10 cs 0 * 10 ^ n := by
  rw [Nat.ofDigitChars_append, Nat.ofDigitChars_replicate_zero, Nat.mul_comm]

/-- Only the digits of zero start with a zero. -/
theorem head?_toDigits {n : Nat} (hn : n ≠ 0) : (Nat.toDigits 10 n).head? ≠ some '0' := by
  induction n using Nat.strongRecOn with
  | _ n ih =>
    by_cases hsmall : n < 10
    · rw [Nat.toDigits_of_lt_base hsmall]
      have hdigit : ∀ k, k < 10 → k ≠ 0 → Nat.digitChar k ≠ '0' := by decide
      simpa using hdigit n hsmall hn
    · -- the first digit is the first one of the other digits
      have hrest := ih (n / 10) (by omega) (by omega)
      rw [Nat.toDigits_of_base_le (by decide) (by omega), List.head?_append]
      obtain ⟨c, hc⟩ := Option.isSome_iff_exists.1 (List.isSome_head?.2 Nat.toDigits_ne_nil)
      rw [hc] at hrest ⊢
      exact hrest

/-! ## The parts of a number text -/

/-- A number text without a sign, taken apart. -/
structure NumberParts where
  /-- The digits in front of the point. -/
  whole : List Char
  /-- The digits behind it; without any there is no point. -/
  fraction : List Char
  exponent : Option Int

namespace NumberParts

/-- The point and the digits behind it. -/
def pointText (p : NumberParts) : List Char := if p.fraction = [] then [] else '.' :: p.fraction

/-- The exponent with its mark and its sign. -/
def exponentText (p : NumberParts) : List Char :=
  match p.exponent with
  | none => []
  | some e => 'e' :: (if e < 0 then '-' else '+') :: Nat.toDigits 10 e.natAbs

/-- The text. -/
def text (p : NumberParts) : List Char := p.whole ++ (p.pointText ++ p.exponentText)

/-- The decimal. -/
def value (p : NumberParts) : Decimal :=
  ⟨Nat.ofDigitChars 10 (p.whole ++ p.fraction) 0, p.exponent.getD 0 - p.fraction.length⟩

/-- The parts are what their names say. -/
structure WellFormed (p : NumberParts) : Prop where
  whole : AllDigits p.whole
  whole_ne_nil : p.whole ≠ []
  fraction : AllDigits p.fraction

/-- No zero stands in front of another digit. -/
def NoLeadingZero (p : NumberParts) : Prop := p.whole = ['0'] ∨ p.whole.head? ≠ some '0'

variable {p : NumberParts}

/-- An exponent is read as it was written, and as zero where none was written. -/
theorem readExponent?_exponentText (p : NumberParts) :
    Decimal.readExponent? p.exponentText = some (p.exponent.getD 0) := by
  unfold exponentText
  cases p.exponent with
  | none => rfl
  | some e =>
    simp only [Decimal.readExponent?, true_or, if_true, Option.getD_some]
    split
    · next hneg =>
      rw [readInt?_minus, readDigits?_toDigits, Option.map_some, Option.some.injEq]
      omega
    · next hneg =>
      rw [readInt?_plus, readDigits?_toDigits, Option.map_some, Option.some.injEq]
      exact Int.natAbs_of_nonneg (by omega)

/-- The text is read as the decimal. -/
theorem read?_text (h : p.WellFormed) : Decimal.read? p.text = some p.value := by
  have hexponent := readExponent?_eq_some_iff.1 p.readExponent?_exponentText
  by_cases hpoint : p.fraction = []
  · have htext : p.text = p.whole ++ p.exponentText := by simp [text, pointText, hpoint]
    have hvalue : p.value = ⟨digitsValue p.whole, p.exponent.getD 0⟩ := by
      simp [value, digitsValue, hpoint]
    rw [htext, hvalue]
    exact (DecimalText.integral h.whole h.whole_ne_nil hexponent).read?
  · have htext : p.text = p.whole ++ '.' :: (p.fraction ++ p.exponentText) := by
      simp [text, pointText, hpoint]
    have hne : p.whole ++ p.fraction ≠ [] := by simp [h.whole_ne_nil]
    rw [htext]
    exact (DecimalText.pointed h.whole h.fraction hne hexponent).read?

/-- The text starts with a digit. -/
theorem exists_text_eq (h : p.WellFormed) : ∃ c cs, p.text = c :: cs ∧ isDigit c = true := by
  obtain ⟨c, cs, hwhole⟩ := List.exists_cons_of_ne_nil h.whole_ne_nil
  exact ⟨c, cs ++ (p.pointText ++ p.exponentText), by rw [text, hwhole]; rfl,
    h.whole c (by simp [hwhole])⟩

end NumberParts

/-! ## Integers -/

namespace NumberParts

/-- A natural number. -/
def ofNat (n : Nat) : NumberParts := ⟨Nat.toDigits 10 n, [], none⟩

/-- A natural number is written by its digits alone. -/
theorem text_ofNat (n : Nat) : (ofNat n).text = Nat.toDigits 10 n := by
  simp [ofNat, text, pointText, exponentText]

/-- A natural number has digits in front of the point, and nothing else. -/
theorem wellFormed_ofNat (n : Nat) : (ofNat n).WellFormed :=
  ⟨.ofNat n, Nat.toDigits_ne_nil, nofun⟩

/-- A natural number other than zero does not begin with a zero. -/
theorem noLeadingZero_ofNat (n : Nat) : (ofNat n).NoLeadingZero := by
  by_cases hn : n = 0
  · exact .inl (hn ▸ rfl)
  · exact .inr (head?_toDigits hn)

end NumberParts

/-- The text of an integer is a sign and the digits of its magnitude. -/
theorem toList_toString (n : Int) :
    (toString n).toList = (if n < 0 then ['-'] else []) ++ (NumberParts.ofNat n.natAbs).text := by
  rw [NumberParts.text_ofNat]
  cases n with
  | ofNat n => exact Nat.toList_repr
  | negSucc n =>
    rw [if_pos (Int.negSucc_lt_zero n)]
    exact (String.toList_append).trans (congrArg ('-' :: ·) Nat.toList_repr)

/-- An integer is read back from its text. -/
theorem readInt?_toString (n : Int) : readInt? (toString n).toList = some n := by
  rw [toList_toString, NumberParts.text_ofNat]
  split
  · next hneg =>
    rw [List.singleton_append, readInt?_minus, readDigits?_toDigits, Option.map_some,
      Option.some.injEq]
    omega
  · next hneg =>
    rw [List.nil_append, readInt?_of_allDigits (.ofNat _) Nat.toDigits_ne_nil, digitsValue,
      Nat.ofDigitChars_ten_toDigits, Option.some.injEq]
    omega

/-! ## Layouts -/

namespace NumberLayout

variable {digits : List Char}

/-- What a layout writes a decimal as. -/
structure Writes (layout : NumberLayout) (d : Decimal) (p : NumberParts) : Prop where
  text : layout.magnitude d = p.text
  wellFormed : p.WellFormed
  nearestRank : p.value.nearestRank = d.nearestRank
  noLeadingZero : d.coefficient ≠ 0 ∨ d.exponent = 0 → p.NoLeadingZero

/-- A layout writes digits with zeros behind them, and perhaps one more behind the point. -/
theorem exists_integral_eq (hall : AllDigits digits) (hne : digits ≠ []) (zeros : Nat)
    (pointZero : Bool) :
    ∃ p : NumberParts, integral digits zeros ++ (if pointZero then ['.', '0'] else []) = p.text ∧
      p.WellFormed ∧
      p.value.nearestRank = (Decimal.mk (Nat.ofDigitChars 10 digits 0) zeros).nearestRank ∧
      (digits.head? ≠ some '0' ∨ digits = ['0'] ∧ zeros = 0 → p.NoLeadingZero) := by
  have hintegral : AllDigits (integral digits zeros) := hall.append (.zeros zeros)
  have hne' : integral digits zeros ≠ [] := by simp [integral, hne]
  have hlead : ∀ fraction, digits.head? ≠ some '0' ∨ digits = ['0'] ∧ zeros = 0 →
      (NumberParts.mk (integral digits zeros) fraction none).NoLeadingZero := by
    rintro fraction (hhead | ⟨rfl, rfl⟩)
    · refine .inr ?_
      obtain ⟨c, hc⟩ := Option.isSome_iff_exists.1 (List.isSome_head?.2 hne)
      rw [integral, List.head?_append, hc]
      rwa [hc] at hhead
    · exact .inl rfl
  have hvalue : (Decimal.mk (Nat.ofDigitChars 10 (integral digits zeros) 0) 0).nearestRank
      = (Decimal.mk (Nat.ofDigitChars 10 digits 0) zeros).nearestRank := by
    rw [integral, ofDigitChars_append_zeros, Decimal.nearestRank_mul_pow, Int.zero_add]
  cases pointZero with
  | true =>
    refine ⟨⟨integral digits zeros, ['0'], none⟩, ?_, ⟨hintegral, hne', .zeros 1⟩, ?_, hlead _⟩
    · simp [NumberParts.text, NumberParts.pointText, NumberParts.exponentText]
    · -- the zero behind the point is one more factor of ten
      have hzero := ofDigitChars_append_zeros (integral digits zeros) 1
      rw [Nat.pow_one, List.replicate_one] at hzero
      simp only [NumberParts.value]
      rw [hzero, Decimal.nearestRank_mul_ten]
      exact hvalue
  | false =>
    refine ⟨⟨integral digits zeros, [], none⟩, ?_, ⟨hintegral, hne', nofun⟩, ?_, hlead _⟩
    · simp [NumberParts.text, NumberParts.pointText, NumberParts.exponentText]
    · simp only [NumberParts.value, List.append_nil]
      exact hvalue

/-- Too few digits go behind the point as a whole, behind zeros. -/
theorem fractional_of_few {places : Nat} (h : digits.length ≤ places) :
    fractional digits places
      = '0' :: '.' :: (List.replicate (places - digits.length) '0' ++ digits) := by
  have hzeros : places + 1 - digits.length = places - digits.length + 1 := by omega
  have hlength : ('0' :: (List.replicate (places - digits.length) '0' ++ digits)).length - places
      = 1 := by
    simp only [List.length_cons, List.length_append, List.length_replicate]
    omega
  unfold fractional
  simp only [hzeros, List.replicate_succ, List.cons_append, hlength]
  rfl

/-- Of many digits the last ones go behind the point. -/
theorem fractional_of_many {places : Nat} (h : places < digits.length) :
    fractional digits places
      = digits.take (digits.length - places) ++ '.' :: digits.drop (digits.length - places) := by
  have hzeros : places + 1 - digits.length = 0 := by omega
  unfold fractional
  simp only [hzeros, List.replicate_zero, List.nil_append]

/-- A layout writes digits with places behind the point. -/
theorem exists_fractional_eq (hall : AllDigits digits) {places : Nat} (hplaces : 0 < places) :
    ∃ p : NumberParts, fractional digits places = p.text ∧ p.WellFormed ∧
      p.value = ⟨Nat.ofDigitChars 10 digits 0, -(places : Int)⟩ ∧
      (digits.head? ≠ some '0' → p.NoLeadingZero) := by
  -- Digits on both sides of the point, or a zero in front and zeros behind it.
  rcases Nat.lt_or_ge places digits.length with hmany | hfew
  · have hwhole : digits.take (digits.length - places) ≠ [] := by
      rw [ne_eq, List.take_eq_nil_iff]
      rintro (hzero | rfl)
      · omega
      · cases hmany
    have hfraction : digits.drop (digits.length - places) ≠ [] := by
      rw [ne_eq, List.drop_eq_nil_iff]
      omega
    refine ⟨⟨digits.take (digits.length - places), digits.drop (digits.length - places), none⟩,
      ?_, ⟨?_, hwhole, ?_⟩, ?_, fun hhead => .inr ?_⟩
    · rw [fractional_of_many hmany]
      simp [NumberParts.text, NumberParts.pointText, NumberParts.exponentText, hfraction]
    · exact hall.sublist (List.take_sublist _ _)
    · exact hall.sublist (List.drop_sublist _ _)
    · have hsplit : digits.length - (digits.length - places) = places := by omega
      simp only [NumberParts.value, List.take_append_drop, List.length_drop, hsplit,
        Option.getD_none, Int.zero_sub]
    · rwa [List.head?_take, if_neg (by omega)]
  · refine ⟨⟨['0'], List.replicate (places - digits.length) '0' ++ digits, none⟩, ?_,
      ⟨.zeros 1, List.cons_ne_nil _ _, (AllDigits.zeros _).append hall⟩, ?_, fun _ => .inl rfl⟩
    · have hfraction : List.replicate (places - digits.length) '0' ++ digits ≠ [] := by
        intro hnil
        have hlength := congrArg List.length hnil
        rw [List.length_append, List.length_replicate, List.length_nil] at hlength
        omega
      rw [fractional_of_few hfew]
      simp only [NumberParts.text, NumberParts.pointText, NumberParts.exponentText,
        if_neg hfraction]
      simp
    · have hlength : (List.replicate (places - digits.length) '0' ++ digits).length = places := by
        rw [List.length_append, List.length_replicate]
        omega
      have hvalue := ofDigitChars_zeros_append (places - digits.length + 1) digits
      rw [List.replicate_succ] at hvalue
      simp only [NumberParts.value, hlength, Option.getD_none, Int.zero_sub]
      exact congrArg (Decimal.mk · _) hvalue

/-- A layout writes digits with the point behind the first one. -/
theorem exists_scientific_eq (hall : AllDigits digits) (hne : digits ≠ []) (exponent : Int) :
    ∃ p : NumberParts, scientific digits exponent = p.text ∧ p.WellFormed ∧
      p.value = ⟨Nat.ofDigitChars 10 digits 0, exponent - (digits.length - 1 : Nat)⟩ ∧
      (digits.head? ≠ some '0' ∨ digits = ['0'] → p.NoLeadingZero) := by
  have hdigits : (toString exponent.natAbs).toList = Nat.toDigits 10 exponent.natAbs :=
    Nat.toList_repr
  -- One digit in front of the point and the others behind it.
  refine ⟨⟨digits.take 1, digits.drop 1, some exponent⟩, ?_, ⟨?_, by simp [hne], ?_⟩, ?_, ?_⟩
  · unfold scientific
    simp only [NumberParts.text, NumberParts.pointText, NumberParts.exponentText, hdigits,
      List.isEmpty_iff, List.append_assoc]
  · exact hall.sublist (List.take_sublist _ _)
  · exact hall.sublist (List.drop_sublist _ _)
  · simp only [NumberParts.value, List.take_append_drop, List.length_drop, Option.getD_some]
  · rintro (hhead | rfl)
    · refine .inr ?_
      rwa [List.head?_take, if_neg (by decide)]
    · exact .inl rfl

/-- Which layout a magnitude gets depends on where its first digit stands. -/
theorem magnitude_eq (layout : NumberLayout) (c : Nat) (exponent : Int) :
    layout.magnitude ⟨c, exponent⟩ =
      if layout.positional (exponent + (Nat.toDigits 10 c).length - 1) then
        match exponent with
        | .ofNat e => integral (Nat.toDigits 10 c) e ++ if layout.pointZero then ['.', '0'] else []
        | .negSucc e => fractional (Nat.toDigits 10 c) (e + 1)
      else scientific (Nat.toDigits 10 c) (exponent + (Nat.toDigits 10 c).length - 1) := by
  have hdigits : (toString c).toList = Nat.toDigits 10 c := Nat.toList_repr
  rw [← hdigits]
  rfl

/-- A layout writes a decimal as parts of the same nearest rank. -/
theorem exists_writes (layout : NumberLayout) (d : Decimal) : ∃ p, layout.Writes d p := by
  obtain ⟨c, exponent⟩ := d
  have hvalue : Nat.ofDigitChars 10 (Nat.toDigits 10 c) 0 = c := Nat.ofDigitChars_ten_toDigits
  have hall := AllDigits.ofNat c
  have hne : Nat.toDigits 10 c ≠ [] := Nat.toDigits_ne_nil
  have hfirst : c ≠ 0 ∨ exponent = 0 →
      (Nat.toDigits 10 c).head? ≠ some '0' ∨ Nat.toDigits 10 c = ['0'] ∧ exponent = 0 := by
    intro h
    by_cases hc : c = 0
    · exact .inr ⟨hc ▸ rfl, h.resolve_left (not_not_intro hc)⟩
    · exact .inl (head?_toDigits hc)
  have hmagnitude := magnitude_eq layout c exponent
  -- The three layouts: integral, fractional and with an exponent.
  split at hmagnitude
  · cases exponent with
    | ofNat e =>
      obtain ⟨p, htext, hform, hrank, hlead⟩ := exists_integral_eq hall hne e layout.pointZero
      rw [hvalue] at hrank
      exact ⟨p, hmagnitude.trans htext, hform, hrank, fun h =>
        hlead ((hfirst h).imp_right fun ⟨hdigits, he⟩ => ⟨hdigits, Int.ofNat.inj he⟩)⟩
    | negSucc e =>
      obtain ⟨p, htext, hform, hrank, hlead⟩ := exists_fractional_eq hall (Nat.succ_pos e)
      rw [hvalue] at hrank
      exact ⟨p, hmagnitude.trans htext, hform, congrArg Decimal.nearestRank hrank, fun h =>
        hlead ((hfirst h).resolve_right fun ⟨_, he⟩ => nomatch he)⟩
  · obtain ⟨p, htext, hform, hrank, hlead⟩ := exists_scientific_eq hall hne
      (exponent + (Nat.toDigits 10 c).length - 1)
    have hpos : 0 < (Nat.toDigits 10 c).length := List.length_pos_iff.2 hne
    have hexponent : exponent + ((Nat.toDigits 10 c).length : Int) - 1
        - ((Nat.toDigits 10 c).length - 1 : Nat) = exponent := by omega
    rw [hvalue, hexponent] at hrank
    exact ⟨p, hmagnitude.trans htext, hform, congrArg Decimal.nearestRank hrank, fun h =>
      hlead ((hfirst h).imp_right And.left)⟩

end NumberLayout

namespace Binary64

variable {x : Binary64}

/-- A number is its sign and its rank. -/
theorem ofRank_rank (x : Binary64) : ofRank x.isNegative x.rank = x := by
  obtain ⟨bits⟩ := x
  have hlt : bits.toNat < 2 * signWeight := bits.toNat_lt
  have hword : bits.toNat % signWeight + (if signWeight ≤ bits.toNat then signWeight else 0)
      = bits.toNat := by
    split
    · next hneg =>
      rw [Nat.mod_eq_sub_mod hneg, Nat.mod_eq_of_lt (by omega)]
      omega
    · next hneg => rw [Nat.mod_eq_of_lt (by omega), Nat.add_zero]
  unfold ofRank rank isNegative
  simp only [Nat.mod_mod, decide_eq_true_eq, hword, UInt64.ofNat_toNat]

/-- The bits of a number are its rank and its sign. -/
theorem toNat_ofRank {rank : Nat} (negative : Bool) (h : rank < signWeight) :
    (ofRank negative rank).bits.toNat = rank + if negative then signWeight else 0 := by
  have hword : rank + (if negative then signWeight else 0) < 2 ^ 64 := by
    have hweight : 2 * signWeight = 2 ^ 64 := by decide
    split <;> omega
  rw [ofRank, Nat.mod_eq_of_lt h]
  exact UInt64.toNat_ofNat_of_lt' hword

/-- A number has the rank it was made from. -/
theorem rank_ofRank {rank : Nat} (negative : Bool) (h : rank < signWeight) :
    (ofRank negative rank).rank = rank := by
  rw [Binary64.rank, toNat_ofRank negative h]
  cases negative with
  | true => exact (Nat.add_mod_right rank signWeight).trans (Nat.mod_eq_of_lt h)
  | false => exact Nat.mod_eq_of_lt h

/-- A number has the sign it was made with. -/
theorem isNegative_ofRank {rank : Nat} (negative : Bool) (h : rank < signWeight) :
    (ofRank negative rank).isNegative = negative := by
  rw [isNegative, toNat_ofRank negative h]
  cases negative with
  | true => exact decide_eq_true (Nat.le_add_left _ _)
  | false => exact decide_eq_false (Nat.not_le_of_lt h)

/-- The text of a finite number is a sign and the text of its magnitude. -/
theorem toList_write (layout : NumberLayout) (h : x.isFinite = true) :
    (layout.write x).toList = (if x.isNegative then ['-'] else [])
      ++ layout.magnitude (shortest layout.tie x.rank) := by
  have hnan : x.isNaN = false := by
    simp only [isFinite, isNaN, decide_eq_true_eq, decide_eq_false_iff_not] at *
    omega
  unfold NumberLayout.write
  simp only [hnan, h, if_true, Bool.false_eq_true, if_false, String.toList_ofList]

/-- **A finite number is read back from its text.** -/
theorem read?_write (layout : NumberLayout) (h : x.isFinite = true) :
    read? (layout.write x) = some x := by
  obtain ⟨p, hp⟩ := layout.exists_writes (shortest layout.tie x.rank)
  have hrank : (shortest layout.tie x.rank).nearestRank = x.rank :=
    nearestRank_shortest layout.tie (of_decide_eq_true h)
  have hread : readRank? p.text = some x.rank := by
    rw [readRank?, p.read?_text hp.wellFormed]
    exact congrArg some (hp.nearestRank.trans hrank)
  have hback : ofRank x.isNegative x.rank = x := ofRank_rank x
  unfold read?
  rw [toList_write layout h, hp.text]
  cases hneg : x.isNegative with
  | true =>
    rw [hneg] at hback
    simp only [if_true, List.singleton_append, hread, Option.map_some, hback]
  | false =>
    rw [hneg] at hback
    -- the text starts with a digit, so with no sign
    obtain ⟨c, cs, htext, hdigit⟩ := p.exists_text_eq hp.wellFormed
    have hminus : c ≠ '-' := fun hc => by rw [hc] at hdigit; cases hdigit
    have hplus : c ≠ '+' := fun hc => by rw [hc] at hdigit; cases hdigit
    rw [htext] at hread ⊢
    simp [hminus, hplus, hread, hback]

end Binary64

end Telemetry

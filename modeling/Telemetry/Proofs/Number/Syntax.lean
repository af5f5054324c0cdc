import Mathlib.Data.List.TakeWhile
import Telemetry.Number.Decimal
import Telemetry.Proofs.Number.Range

/-!
# The syntax of number texts

`IntegerText` and `DecimalText` say which texts are numbers, and which: signs, digits, points and
exponents are constructors or parts of them, and nothing is said of how a text is read. `readInt?`
and `Decimal.read?` read exactly these texts (`readInt?_eq_some_iff`, `Decimal.read?_eq_some_iff`).
-/

namespace Telemetry

variable {cs digits : List Char}

/-! ## Digits -/

/-- Every character is a digit. -/
def AllDigits (cs : List Char) : Prop := ∀ c ∈ cs, isDigit c = true

/-- A digit is what Lean takes for one. -/
theorem isDigit_eq (c : Char) : isDigit c = c.isDigit := by
  unfold isDigit digit? Char.isDigit
  split
  · next h =>
    simp only [Option.isSome_some, ge_iff_le, Bool.true_eq, Bool.and_eq_true, decide_eq_true_eq]
    exact h
  · next h =>
    simp only [Option.isSome_none, ge_iff_le, Bool.false_eq, Bool.and_eq_false_imp,
      decide_eq_true_eq, decide_eq_false_iff_not]
    exact fun hlow hhigh => h ⟨hlow, hhigh⟩

/-- The value of a digit is its distance from zero. -/
theorem digit?_of_isDigit {c : Char} (h : isDigit c = true) :
    digit? c = some (c.toNat - '0'.toNat) := by
  unfold isDigit digit? at *
  split
  · rfl
  · next hc => rw [if_neg hc] at h; cases h

namespace AllDigits

variable {xs ys : List Char}

theorem append (hx : AllDigits xs) (hy : AllDigits ys) : AllDigits (xs ++ ys) := by
  intro c hc
  rcases List.mem_append.1 hc with hc | hc
  · exact hx c hc
  · exact hy c hc

theorem sublist (hy : AllDigits ys) (h : xs.Sublist ys) : AllDigits xs :=
  fun c hc => hy c (h.subset hc)

theorem zeros (n : Nat) : AllDigits (List.replicate n '0') := by
  intro c hc
  rw [(List.mem_replicate.1 hc).2]
  rfl

theorem ofNat (n : Nat) : AllDigits (Nat.toDigits 10 n) := by
  intro c hc
  rw [isDigit_eq]
  exact Nat.isDigit_of_mem_toDigits (by decide) (by decide) hc

/-- Digits are read up to the first character that is none. -/
theorem takeWhile_append (hx : AllDigits xs) (hy : ∀ c ∈ ys.head?, isDigit c = false) :
    (xs ++ ys).takeWhile isDigit = xs ∧ (xs ++ ys).dropWhile isDigit = ys := by
  rw [List.takeWhile_append_of_pos hx, List.dropWhile_append_of_pos hx]
  cases ys with
  | nil => simp
  | cons c rest =>
    have hc := hy c rfl
    simp [hc]

end AllDigits

/-- Digits have a value. -/
theorem digitsValue?_of_allDigits {cs : List Char} (h : AllDigits cs) :
    digitsValue? cs = some (Nat.ofDigitChars 10 cs 0) := by
  unfold digitsValue?
  generalize 0 = value
  induction cs generalizing value with
  | nil => rfl
  | cons c rest ih =>
    obtain ⟨hc, hrest⟩ := List.forall_mem_cons.1 h
    rw [List.foldlM_cons, digit?_of_isDigit hc, Nat.ofDigitChars_cons]
    exact ih hrest _

/-- Digits are read, however many there are. -/
theorem readDigits?_of_allDigits {cs : List Char} (h : AllDigits cs) (hne : cs ≠ []) :
    readDigits? cs = some (Nat.ofDigitChars 10 cs 0) := by
  rw [readDigits?, List.isEmpty_eq_false_iff.2 hne, if_neg Bool.false_ne_true]
  exact digitsValue?_of_allDigits h

/-- A natural number is read as it was written. -/
theorem readDigits?_toDigits (n : Nat) : readDigits? (Nat.toDigits 10 n) = some n := by
  rw [readDigits?_of_allDigits (.ofNat n) Nat.toDigits_ne_nil, Nat.ofDigitChars_ten_toDigits]

/-- The number that digits write in base ten. -/
def digitsValue (digits : List Char) : Nat := Nat.ofDigitChars 10 digits 0

/-- Only digits are read. -/
theorem allDigits_of_foldlM {n m : Nat}
    (h : cs.foldlM (fun value c => (digit? c).map (10 * value + ·)) n = some m) : AllDigits cs := by
  induction cs generalizing n with
  | nil => exact nofun
  | cons c rest ih =>
    rw [List.foldlM_cons] at h
    obtain ⟨next, hnext, hrest⟩ := Option.bind_eq_some_iff.1 h
    obtain ⟨d, hd, -⟩ := Option.map_eq_some_iff.1 hnext
    exact List.forall_mem_cons.2 ⟨by rw [isDigit, hd]; rfl, ih hrest⟩

/-- Digits are read, and nothing else is. -/
theorem readDigits?_eq_some_iff {n : Nat} :
    readDigits? cs = some n ↔ AllDigits cs ∧ cs ≠ [] ∧ n = digitsValue cs := by
  constructor
  · intro h
    have hne : cs ≠ [] := by
      rintro rfl
      cases h
    have hall : AllDigits cs := by
      rw [readDigits?, List.isEmpty_eq_false_iff.2 hne, if_neg Bool.false_ne_true] at h
      exact allDigits_of_foldlM h
    rw [readDigits?_of_allDigits hall hne] at h
    exact ⟨hall, hne, (Option.some.inj h).symm⟩
  · rintro ⟨hall, hne, rfl⟩
    exact readDigits?_of_allDigits hall hne

/-! ## Signs -/

/-- A sign may be absent. -/
inductive SignText : List Char → Bool → Prop
  | absent : SignText [] false
  | plus : SignText ['+'] false
  | minus : SignText ['-'] true

/-- Digits do not start with a sign. -/
theorem AllDigits.ne_sign {c : Char} (h : AllDigits (c :: cs)) : c ≠ '+' ∧ c ≠ '-' := by
  have hc := h c List.mem_cons_self
  constructor <;> rintro rfl <;> cases hc

/-! ## Integers -/

/-- An integer is written by a sign and by digits. -/
inductive IntegerText : List Char → Int → Prop
  | mk {sign digits : List Char} {negative : Bool} (hsign : SignText sign negative)
      (hall : AllDigits digits) (hne : digits ≠ []) :
    IntegerText (sign ++ digits)
      (if negative then -(digitsValue digits : Int) else digitsValue digits)

theorem readInt?_minus (cs : List Char) :
    readInt? ('-' :: cs) = (readDigits? cs).map fun n : Nat => -(n : Int) := by
  cases h : readDigits? cs <;> simp [readInt?, h]

theorem readInt?_plus (cs : List Char) :
    readInt? ('+' :: cs) = (readDigits? cs).map Int.ofNat := rfl

/-- Without a sign the number is what the digits say. -/
theorem readInt?_of_allDigits (hall : AllDigits digits) (hne : digits ≠ []) :
    readInt? digits = some (digitsValue digits : Int) := by
  obtain ⟨c, rest, rfl⟩ := List.exists_cons_of_ne_nil hne
  obtain ⟨hplus, hminus⟩ := hall.ne_sign
  have hread := readDigits?_of_allDigits hall hne
  simp [readInt?, hplus, hminus, hread, digitsValue]

/-- **The texts that are read as an integer are the ones that write it.** -/
theorem readInt?_eq_some_iff {n : Int} : readInt? cs = some n ↔ IntegerText cs n := by
  constructor
  · intro h
    -- A plus sign, a minus sign or none.
    unfold readInt? at h
    split at h
    · obtain ⟨m, hm, rfl⟩ := Option.map_eq_some_iff.1 h
      obtain ⟨hall, hne, rfl⟩ := readDigits?_eq_some_iff.1 hm
      exact .mk .plus hall hne
    · next rest =>
      obtain ⟨m, hm, rfl⟩ := Option.map_eq_some_iff.1 ((readInt?_minus rest).symm.trans h)
      obtain ⟨hall, hne, rfl⟩ := readDigits?_eq_some_iff.1 hm
      exact .mk .minus hall hne
    · obtain ⟨m, hm, rfl⟩ := Option.map_eq_some_iff.1 h
      obtain ⟨hall, hne, rfl⟩ := readDigits?_eq_some_iff.1 hm
      exact .mk .absent hall hne
  · rintro ⟨hsign, hall, hne⟩
    have hread := readDigits?_eq_some_iff.2 ⟨hall, hne, rfl⟩
    cases hsign with
    | absent => exact readInt?_of_allDigits hall hne
    | plus => exact (readInt?_plus _).trans (congrArg _ hread)
    | minus => exact (readInt?_minus _).trans (congrArg _ hread)

/-- A word of 64 bits is read exactly from the texts that write an integer in range. -/
theorem readInt64?_eq_some_iff {s : String} {w : Int64} :
    readInt64? s = some w ↔ IntegerText s.toList w.toInt := by
  rw [readInt64?, Option.bind_eq_some_iff]
  constructor
  · rintro ⟨n, hread, hword⟩
    rw [toInt64?_eq_some_iff.1 hword]
    exact readInt?_eq_some_iff.1 hread
  · intro h
    exact ⟨w.toInt, readInt?_eq_some_iff.2 h, toInt64?_eq_some_iff.2 rfl⟩

/-! ## Decimals -/

/-- An exponent may be absent. -/
inductive ExponentText : List Char → Int → Prop
  | absent : ExponentText [] 0
  | present {mark : Char} {cs : List Char} {e : Int} (hmark : mark = 'e' ∨ mark = 'E')
      (h : IntegerText cs e) : ExponentText (mark :: cs) e

/-- A decimal is written by digits, of which some may stand behind a point, and an exponent. There
is at least one digit, on either side of the point. -/
inductive DecimalText : List Char → Decimal → Prop
  | integral {whole tail : List Char} {e : Int} (hwhole : AllDigits whole) (hne : whole ≠ [])
      (htail : ExponentText tail e) : DecimalText (whole ++ tail) ⟨digitsValue whole, e⟩
  | pointed {whole fraction tail : List Char} {e : Int} (hwhole : AllDigits whole)
      (hfraction : AllDigits fraction) (hne : whole ++ fraction ≠ [])
      (htail : ExponentText tail e) :
    DecimalText (whole ++ '.' :: (fraction ++ tail))
      ⟨digitsValue (whole ++ fraction), e - fraction.length⟩

/-- What is read as an exponent is nothing, or an integer behind an `e`. -/
theorem readExponent?_eq_some_iff {e : Int} :
    Decimal.readExponent? cs = some e ↔ ExponentText cs e := by
  constructor
  · intro h
    -- An exponent that is left out is zero.
    cases cs with
    | nil =>
      cases h
      exact .absent
    | cons mark rest =>
      rw [Decimal.readExponent?] at h
      split at h
      · next hmark => exact .present hmark (readInt?_eq_some_iff.1 h)
      · cases h
  · intro h
    cases h with
    | absent => rfl
    | present hmark h => exact (if_pos hmark).trans (readInt?_eq_some_iff.2 h)

/-- Digits do not go on in an exponent. -/
theorem ExponentText.head?_not_digit {e : Int} (h : ExponentText cs e) :
    ∀ c ∈ cs.head?, isDigit c = false := by
  cases h with
  | absent => exact nofun
  | present hmark _ =>
    rintro c ⟨⟩
    rcases hmark with rfl | rfl <;> rfl

/-- A decimal is put together from digits on either side of the point and an exponent; each digit
behind the point lowers the exponent by one. -/
theorem assemble?_eq_some_iff {whole fraction tail : List Char} {d : Decimal} :
    Decimal.assemble? whole fraction tail = some d ↔
      AllDigits (whole ++ fraction) ∧ whole ++ fraction ≠ [] ∧
        ∃ e, ExponentText tail e ∧ d = ⟨digitsValue (whole ++ fraction), e - fraction.length⟩ := by
  constructor
  · intro h
    obtain ⟨n, hn, h⟩ := Option.bind_eq_some_iff.1 h
    obtain ⟨e, he, h⟩ := Option.bind_eq_some_iff.1 h
    obtain ⟨hall, hne, rfl⟩ := readDigits?_eq_some_iff.1 hn
    exact ⟨hall, hne, e, readExponent?_eq_some_iff.1 he, (Option.some.inj h).symm⟩
  · rintro ⟨hall, hne, e, he, rfl⟩
    have hdigits := readDigits?_eq_some_iff.2 ⟨hall, hne, rfl⟩
    have hexponent := readExponent?_eq_some_iff.2 he
    simp [Decimal.assemble?, hdigits, hexponent]

/-- The digits at the start of a text are digits. -/
theorem allDigits_takeWhile (cs : List Char) : AllDigits (cs.takeWhile isDigit) :=
  fun _ hc => List.mem_takeWhile_imp hc

/-- What is read as a decimal is written like one. -/
theorem DecimalText.of_read? {d : Decimal} (h : Decimal.read? cs = some d) : DecimalText cs d := by
  have hcs := List.takeWhile_append_dropWhile (p := isDigit) (l := cs)
  unfold Decimal.read? at h
  dsimp only at h
  rw [← hcs]
  -- Behind the first digits there is a point or not.
  split at h
  · next rest hrest =>
    obtain ⟨-, hne, e, htail, rfl⟩ := assemble?_eq_some_iff.1 h
    have htext := DecimalText.pointed (allDigits_takeWhile cs) (allDigits_takeWhile rest) hne htail
    rwa [List.takeWhile_append_dropWhile, ← hrest] at htext
  · obtain ⟨-, hne, e, htail, rfl⟩ := assemble?_eq_some_iff.1 h
    rw [List.append_nil] at hne ⊢
    rw [List.length_nil, Int.natCast_zero, Int.sub_zero]
    exact .integral (allDigits_takeWhile cs) hne htail

/-- What is written like a decimal is read as that one. -/
theorem DecimalText.read? {d : Decimal} (h : DecimalText cs d) : Decimal.read? cs = some d := by
  -- The reader cuts the text where it was put together: digits end where no digit follows.
  cases h with
  | @integral whole tail e hwhole hne htail =>
    obtain ⟨htake, hdrop⟩ := hwhole.takeWhile_append htail.head?_not_digit
    have hassemble : Decimal.assemble? whole [] tail = some ⟨digitsValue whole, e⟩ :=
      assemble?_eq_some_iff.2 ⟨by rwa [List.append_nil], by rwa [List.append_nil], e, htail,
        by simp⟩
    unfold Decimal.read?
    simp only [htake, hdrop]
    -- an exponent does not start with a point
    cases htail with
    | absent => exact hassemble
    | present hmark _ => rcases hmark with rfl | rfl <;> exact hassemble
  | @pointed whole fraction tail e hwhole hfraction hne htail =>
    have hpoint : ∀ c ∈ ('.' :: (fraction ++ tail)).head?, isDigit c = false := by
      rintro c ⟨⟩
      rfl
    obtain ⟨htake, hdrop⟩ := hwhole.takeWhile_append hpoint
    obtain ⟨htake', hdrop'⟩ := hfraction.takeWhile_append htail.head?_not_digit
    unfold Decimal.read?
    simp only [htake, hdrop, htake', hdrop']
    exact assemble?_eq_some_iff.2 ⟨hwhole.append hfraction, hne, e, htail, rfl⟩

/-- **The texts that are read as a decimal are the ones that write it.** -/
theorem Decimal.read?_eq_some_iff {d : Decimal} : Decimal.read? cs = some d ↔ DecimalText cs d :=
  ⟨.of_read?, DecimalText.read?⟩

/-- A decimal does not start with a sign. -/
theorem DecimalText.ne_sign {c : Char} {d : Decimal} (h : DecimalText (c :: cs) d) :
    c ≠ '+' ∧ c ≠ '-' := by
  have hread := h.read?
  constructor <;> rintro rfl <;> cases hread

end Telemetry

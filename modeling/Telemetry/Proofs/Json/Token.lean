import Telemetry.Json.Token
import Telemetry.Proofs.Json.Text
import Telemetry.Proofs.Number.Text

/-!
# JSON texts cut into tokens

`ScansTo cs tokens rest` says what the scanner makes of a text in front of a rest. Punctuation and
strings end by themselves, so it holds of them in front of every rest; a number ends only where
something follows that does not continue it, which inside a value is a comma, a brace or a bracket.
-/

namespace Telemetry

namespace Json

/-- The tokens of a text behind those found already, which come latest first. -/
def scanFrom (found : List Token) (bytes : List UInt8) : Option (List Token) :=
  (bytes.foldlM Scanner.step ⟨.nothing, found⟩).bind Scanner.finish

/-- The scanner takes a text in front of a rest to its tokens. -/
def ScansTo (cs : List Char) (tokens : List Token) (rest : List UInt8) : Prop :=
  ∀ found, scanFrom found (bytesOf cs ++ rest) = scanFrom (tokens.reverse ++ found) rest

namespace ScansTo

variable {xs ys : List Char} {a b : List Token} {rest : List UInt8}

theorem append (hx : ScansTo xs a (bytesOf ys ++ rest)) (hy : ScansTo ys b rest) :
    ScansTo (xs ++ ys) (a ++ b) rest := by
  intro found
  rw [bytesOf_append, List.append_assoc, hx found, hy, List.reverse_append, List.append_assoc]

/-- A text whose bytes lead the scanner from between tokens to between tokens. -/
theorem of_run {cs : List Char} {tokens : List Token}
    (h : ∀ found, (bytesOf cs).foldlM Scanner.step ⟨.nothing, found⟩
      = some ⟨.nothing, tokens.reverse ++ found⟩) (rest : List UInt8) :
    ScansTo cs tokens rest := by
  intro found
  rw [scanFrom, List.foldlM_append, h]
  rfl

theorem openBrace (rest : List UInt8) : ScansTo ['{'] [.openBrace] rest :=
  of_run (fun _ => rfl) rest

theorem closeBrace (rest : List UInt8) : ScansTo ['}'] [.closeBrace] rest :=
  of_run (fun _ => rfl) rest

theorem openBracket (rest : List UInt8) : ScansTo ['['] [.openBracket] rest :=
  of_run (fun _ => rfl) rest

theorem closeBracket (rest : List UInt8) : ScansTo [']'] [.closeBracket] rest :=
  of_run (fun _ => rfl) rest

theorem colon (rest : List UInt8) : ScansTo [':'] [.colon] rest := of_run (fun _ => rfl) rest

theorem comma (rest : List UInt8) : ScansTo [','] [.comma] rest := of_run (fun _ => rfl) rest

end ScansTo

/-- The tokens of a whole text. -/
theorem tokens?_of_scansTo {cs : List Char} {tokens : List Token} (h : ScansTo cs tokens []) :
    tokens? (bytesOf cs) = some tokens := by
  have hscan := h []
  rw [List.append_nil, List.append_nil] at hscan
  rw [tokens?, Scanner.start]
  refine hscan.trans ?_
  simp [scanFrom, Scanner.finish]

/-! ## Strings -/

namespace Scanner

/-- The byte stays in a string and stands for itself. -/
def IsVisible (b : UInt8) : Prop :=
  Char.ofNat b.toNat ≠ '"' ∧ Char.ofNat b.toNat ≠ '\\' ∧ ¬ b < 0x20

/-- Inside a string the scanner takes visible bytes one by one. -/
theorem foldlM_visible {bytes : List UInt8} (h : ∀ b ∈ bytes, IsVisible b) (seen : List UInt8)
    (found : List Token) :
    bytes.foldlM step ⟨.text seen, found⟩ = some ⟨.text (bytes.reverse ++ seen), found⟩ := by
  induction bytes generalizing seen with
  | nil => rfl
  | cons b bytes ih =>
    obtain ⟨⟨hquote, hbackslash, hcontrol⟩, hbytes⟩ := List.forall_mem_cons.1 h
    have hstep : step ⟨.text seen, found⟩ b = some ⟨.text (b :: seen), found⟩ := by
      simp [step, hquote, hbackslash, hcontrol]
    rw [List.foldlM_cons, hstep, List.reverse_cons, List.append_assoc]
    exact ih hbytes (b :: seen)

/-- A character that is written as it is has visible bytes only. -/
theorem isVisible_of_mem {c : Char} (h : IsPlain c) {b : UInt8}
    (hb : b ∈ String.utf8EncodeChar c) : IsVisible b := by
  by_cases hascii : c.toNat < 0x80
  · rw [utf8EncodeChar_of_lt hascii, List.mem_singleton] at hb
    subst hb
    have hvisible := h.visible
    refine ⟨?_, ?_, ?_⟩
    · rw [ofNat_toNat_ofNat hascii]
      exact h.ne_quote
    · rw [ofNat_toNat_ofNat hascii]
      exact h.ne_backslash
    · rw [UInt8.lt_iff_toNat_lt, UInt8.toNat_ofNat', Nat.mod_eq_of_lt (by omega)]
      exact Nat.not_lt.2 hvisible
  -- Outside ASCII every byte is above the quote, the backslash and the controls.
  · have hhigh := le_of_mem_utf8EncodeChar (by omega) hb
    have hvalid : b.toNat.isValidChar := .inl (Nat.lt_trans b.toNat_lt (by decide))
    have hne : ∀ c : Char, c.toNat < 0x80 → Char.ofNat b.toNat ≠ c := by
      rintro c hc rfl
      rw [Char.ofNat, dif_pos hvalid] at hc
      exact Nat.not_lt.2 hhigh hc
    refine ⟨hne _ (by decide), hne _ (by decide), ?_⟩
    rw [UInt8.lt_iff_toNat_lt]
    exact Nat.not_lt.2 (Nat.le_trans (by decide) hhigh)

/-- What stands behind a backslash is a letter that the scanner takes. -/
theorem isEscape_of_escaped? {e b : UInt8} (h : escaped? e = some b) :
    Char.ofNat e.toNat ≠ 'u' ∧ isEscape (Char.ofNat e.toNat) = true := by
  unfold escaped? at h
  split at h
  · next heq => rw [heq]; decide
  · next heq => rw [heq]; decide
  · next heq => rw [heq]; decide
  · next heq => rw [heq]; decide
  · next heq => rw [heq]; decide
  · next heq => rw [heq]; decide
  · next heq => rw [heq]; decide
  · next heq => rw [heq]; decide
  · cases h

/-- The digits of a control character are hexadecimal. -/
theorem isHexadecimal_of_mem_controlDigits {c x : Char} (hc : c.toNat < 0x20)
    (hx : x ∈ controlDigits c) : isHexadecimal x = true := by
  have hall : ∀ n < 0x20, (Hex.ofByte (UInt8.ofNat n)).all isHexadecimal = true := by decide
  exact List.all_eq_true.1 (hall c.toNat hc) x hx

end Scanner

/-- The scanner goes through what is written for a character and stays in the string. -/
theorem foldlM_encodeChar (c : Char) (seen : List UInt8) (found : List Token) :
    (bytesOf (encodeChar c)).foldlM Scanner.step ⟨.text seen, found⟩
      = some ⟨.text ((bytesOf (encodeChar c)).reverse ++ seen), found⟩ := by
  -- The scanner goes through an escape and comes back into the string.
  rcases encodeChar_cases c with ⟨e, htext, he⟩ | ⟨htext, hcontrol⟩ | ⟨htext, hplain⟩
  · obtain ⟨hu, hescape⟩ := Scanner.isEscape_of_escaped? he.escaped
    have hbytes : bytesOf ['\\', e] = [0x5c, UInt8.ofNat e.toNat] := by
      simp only [bytesOf_cons, utf8EncodeChar_of_lt he.letter]
      rfl
    have hstep : Scanner.step ⟨.escape (0x5c :: seen), found⟩ (UInt8.ofNat e.toNat)
        = some ⟨.text (UInt8.ofNat e.toNat :: 0x5c :: seen), found⟩ := by
      simp only [Scanner.step, if_neg hu, if_pos hescape]
    rw [htext, hbytes]
    exact congrArg (Option.bind · _) hstep
  · obtain ⟨x, y, hdigits, hx, hy, -⟩ := exists_controlDigits hcontrol
    have hbytes : bytesOf ['\\', 'u', '0', '0', x, y]
        = [0x5c, 0x75, 0x30, 0x30, UInt8.ofNat x.toNat, UInt8.ofNat y.toNat] := by
      simp only [bytesOf_cons, utf8EncodeChar_of_lt hx, utf8EncodeChar_of_lt hy]
      rfl
    have hmem : ∀ z ∈ [x, y], Scanner.isHexadecimal z = true := fun z hz =>
      Scanner.isHexadecimal_of_mem_controlDigits hcontrol (hdigits ▸ hz)
    have hfirst : Scanner.step ⟨.unit 2 (0x30 :: 0x30 :: 0x75 :: 0x5c :: seen), found⟩
        (UInt8.ofNat x.toNat)
        = some ⟨.unit 1 (UInt8.ofNat x.toNat :: 0x30 :: 0x30 :: 0x75 :: 0x5c :: seen), found⟩ := by
      simp only [Scanner.step, ofNat_toNat_ofNat hx, if_pos (hmem x (by simp))]
      rfl
    have hsecond : ∀ seen, Scanner.step ⟨.unit 1 seen, found⟩ (UInt8.ofNat y.toNat)
        = some ⟨.text (UInt8.ofNat y.toNat :: seen), found⟩ := by
      intro seen
      simp only [Scanner.step, ofNat_toNat_ofNat hy, if_pos (hmem y (by simp))]
      rfl
    rw [htext, hdigits, hbytes]
    exact (congrArg (Option.bind · _) hfirst).trans (congrArg (Option.bind · _) (hsecond _))
  · rw [htext, bytesOf_cons, bytesOf_nil, List.append_nil]
    exact Scanner.foldlM_visible (fun b => Scanner.isVisible_of_mem hplain) seen found

/-- The bytes between the quotes of an encoded text. -/
def rawText (s : String) : List UInt8 := bytesOf (s.toList.flatMap encodeChar)

/-- A string is one token. -/
theorem ScansTo.encodeText (s : String) (rest : List UInt8) :
    ScansTo (encodeText s) [.text (rawText s)] rest := by
  have hinside : ∀ (cs : List Char) (seen : List UInt8) (found : List Token),
      (bytesOf (cs.flatMap encodeChar)).foldlM Scanner.step ⟨.text seen, found⟩
        = some ⟨.text ((bytesOf (cs.flatMap encodeChar)).reverse ++ seen), found⟩ := by
    intro cs
    induction cs with
    | nil => intro seen found; rfl
    | cons c cs ih =>
      intro seen found
      rw [List.flatMap_cons, bytesOf_append, List.foldlM_append, foldlM_encodeChar,
        List.reverse_append, List.append_assoc]
      exact ih _ found
  -- The quotes open and close the string; what is between them never closes it.
  refine .of_run (fun found => ?_) rest
  rw [Json.encodeText, bytesOf_cons, bytesOf_append, List.foldlM_append]
  have hopen : (String.utf8EncodeChar '"').foldlM Scanner.step ⟨.nothing, found⟩
      = some ⟨.text [], found⟩ := rfl
  rw [hopen, Option.bind_eq_bind, Option.bind_some, List.foldlM_append, hinside]
  have hclose : ∀ seen, (bytesOf ['"']).foldlM Scanner.step ⟨.text seen, found⟩
      = some ⟨.nothing, .text seen.reverse :: found⟩ := fun _ => rfl
  rw [Option.bind_eq_bind, Option.bind_some, hclose, List.append_nil, List.reverse_reverse]
  rfl

/-! ## Numbers -/

theorem isDecimal_eq (c : Char) : isDecimal c = isDigit c := by
  simp only [isDecimal, isDigit, digit?]
  split <;> simp_all

/-- Digits are ASCII. -/
theorem lt_of_isDigit {c : Char} (h : isDigit c = true) : c.toNat < 0x80 := by
  rw [← isDecimal_eq, isDecimal, Bool.and_eq_true, decide_eq_true_eq, decide_eq_true_eq] at h
  exact Nat.lt_of_le_of_lt h.2 (by decide)

namespace NumberPart

variable {p : NumberParts}

/-- The part that a list of characters leads to, if they continue the number. -/
def advance (part : NumberPart) (cs : List Char) : Option NumberPart := cs.foldlM next? part

theorem advance_append (part : NumberPart) (xs ys : List Char) :
    part.advance (xs ++ ys) = (part.advance xs).bind fun part => part.advance ys :=
  List.foldlM_append

/-- Everything that continues a number is ASCII. -/
theorem lt_of_next? {part next : NumberPart} {c : Char} (h : part.next? c = some next) :
    c.toNat < 0x80 := by
  by_contra hlarge
  have hdigit : isDecimal c = false := by
    rw [isDecimal_eq, Bool.eq_false_iff]
    exact fun hc => hlarge (lt_of_isDigit hc)
  have hne : ∀ d : Char, d.toNat < 0x80 → c ≠ d := by
    rintro d hd rfl
    exact hlarge hd
  cases part <;>
    simp [next?, hdigit, hne '0' (by decide), hne '.' (by decide), hne 'e' (by decide),
      hne 'E' (by decide), hne '+' (by decide), hne '-' (by decide)] at h

/-- The part of a number that a digit leads to. -/
inductive DigitLeads : NumberPart → NumberPart → Prop
  | whole : DigitLeads whole whole
  | point : DigitLeads point fraction
  | fraction : DigitLeads fraction fraction
  | sign : DigitLeads sign exponent
  | exponent : DigitLeads exponent exponent

namespace DigitLeads

variable {before part : NumberPart} {cs : List Char}

/-- Any digit will do. -/
theorem next? (h : DigitLeads before part) {c : Char} (hc : isDigit c = true) :
    before.next? c = some part := by
  rw [← isDecimal_eq] at hc
  cases h <;> simp [NumberPart.next?, hc]

/-- One more digit does not lead any further. -/
theorem again (h : DigitLeads before part) : DigitLeads part part := by
  cases h <;> constructor

/-- Nor do more of them. -/
theorem advance_again (h : DigitLeads part part) (hdigits : AllDigits cs) :
    part.advance cs = some part := by
  induction cs with
  | nil => rfl
  | cons c cs ih =>
    obtain ⟨hc, hcs⟩ := List.forall_mem_cons.1 hdigits
    rw [NumberPart.advance, List.foldlM_cons, h.next? hc]
    exact ih hcs

/-- Where there are digits, the first of them leads on and the others stay. -/
theorem advance (h : DigitLeads before part) (hdigits : AllDigits cs) (hne : cs ≠ []) :
    before.advance cs = some part := by
  obtain ⟨c, rest, rfl⟩ := List.exists_cons_of_ne_nil hne
  obtain ⟨hc, hrest⟩ := List.forall_mem_cons.1 hdigits
  rw [NumberPart.advance, List.foldlM_cons, h.next? hc]
  exact h.again.advance_again hrest

end DigitLeads

/-- The digits in front of the point. -/
theorem advance_minus_whole (h : p.WellFormed) (hlead : p.NoLeadingZero) :
    minus.advance p.whole = some zero ∨ minus.advance p.whole = some whole := by
  rcases hlead with hzero | hhead
  · rw [hzero]
    exact .inl rfl
  · obtain ⟨c, rest, hwhole⟩ := List.exists_cons_of_ne_nil h.whole_ne_nil
    have hall := h.whole
    rw [hwhole] at hall hhead ⊢
    obtain ⟨hc, hrest⟩ := List.forall_mem_cons.1 hall
    have hnonzero : c ≠ '0' := fun hc => hhead (hc ▸ rfl)
    rw [← isDecimal_eq] at hc
    have hnext : minus.next? c = some whole := by simp [next?, hnonzero, hc]
    rw [advance, List.foldlM_cons, hnext]
    exact .inr (DigitLeads.whole.advance_again hrest)

/-- The point and the digits behind it, if there are any. -/
theorem advance_pointText (h : p.WellFormed) {part : NumberPart}
    (hpart : part = zero ∨ part = whole) :
    part.advance p.pointText = some part ∧ p.pointText = []
      ∨ part.advance p.pointText = some fraction := by
  unfold NumberParts.pointText
  split
  · exact .inl ⟨rfl, rfl⟩
  · next hne =>
    have hpoint : part.next? '.' = some point := by
      rcases hpart with rfl | rfl <;> rfl
    rw [advance, List.foldlM_cons, hpoint]
    exact .inr (DigitLeads.point.advance h.fraction hne)

/-- The exponent, if there is one. -/
theorem advance_exponentText (p : NumberParts) {part : NumberPart}
    (hpart : part = zero ∨ part = whole ∨ part = fraction) :
    part.advance p.exponentText = some part ∨ part.advance p.exponentText = some exponent := by
  unfold NumberParts.exponentText
  split
  · exact .inl rfl
  · next e _ =>
    have hmark : part.next? 'e' = some mark := by
      rcases hpart with rfl | rfl | rfl <;> rfl
    have hsign : mark.next? (if e < 0 then '-' else '+') = some sign := by split <;> rfl
    rw [advance, List.foldlM_cons, hmark, Option.bind_eq_bind, Option.bind_some, List.foldlM_cons,
      hsign]
    exact .inr (DigitLeads.sign.advance (.ofNat e.natAbs) Nat.toDigits_ne_nil)

/-- A number text is complete where it ends. -/
theorem exists_advance_text (h : p.WellFormed) (hlead : p.NoLeadingZero) :
    ∃ part, minus.advance p.text = some part ∧ part.isComplete = true := by
  obtain ⟨part, hwhole, hpart⟩ : ∃ part, minus.advance p.whole = some part
      ∧ (part = zero ∨ part = whole) :=
    (advance_minus_whole h hlead).elim (⟨_, ·, .inl rfl⟩) (⟨_, ·, .inr rfl⟩)
  -- After each piece of the number it could end.
  obtain ⟨part', hpoint, hpart'⟩ : ∃ part', part.advance p.pointText = some part'
      ∧ (part' = zero ∨ part' = whole ∨ part' = fraction) := by
    rcases advance_pointText h hpart with ⟨hpoint, -⟩ | hpoint
    · exact ⟨part, hpoint, hpart.imp_right .inl⟩
    · exact ⟨fraction, hpoint, .inr (.inr rfl)⟩
  have htext : minus.advance p.text = part'.advance p.exponentText := by
    rw [NumberParts.text, advance_append, hwhole, Option.bind_some, advance_append, hpoint,
      Option.bind_some]
  rcases advance_exponentText p hpart' with hexponent | hexponent
  · refine ⟨part', htext.trans hexponent, ?_⟩
    rcases hpart' with rfl | rfl | rfl <;> rfl
  · exact ⟨exponent, htext.trans hexponent, rfl⟩

end NumberPart

/-- Nothing, or something that starts with a comma, a brace or a bracket: no number goes on with
it. -/
def EndsNumber (rest : List UInt8) : Prop := ∀ b ∈ rest.head?, b = 0x2c ∨ b = 0x7d ∨ b = 0x5d

namespace Scanner

/-- The scanner goes on in a number as the parts of the number do. -/
theorem foldlM_number {cs : List Char} {part part' : NumberPart}
    (h : part.advance cs = some part') (seen : List Char) (found : List Token) :
    (bytesOf cs).foldlM step ⟨.number part seen, found⟩
      = some ⟨.number part' (cs.reverse ++ seen), found⟩ := by
  -- The bytes of a number are its characters, since they are ASCII.
  induction cs generalizing part seen with
  | nil =>
    cases h
    rfl
  | cons c cs ih =>
    obtain ⟨next, hnext, hrest⟩ := Option.bind_eq_some_iff.1 h
    have hc := NumberPart.lt_of_next? hnext
    have hstep : step ⟨.number part seen, found⟩ (UInt8.ofNat c.toNat)
        = some ⟨.number next (c :: seen), found⟩ := by
      simp only [step, ofNat_toNat_ofNat hc, hnext]
    rw [bytesOf_cons, utf8EncodeChar_of_lt hc, List.singleton_append, List.foldlM_cons, hstep,
      List.reverse_cons, List.append_assoc]
    exact ih hrest (c :: seen)

/-- A complete number is found where it ends. -/
theorem finish_number {part : NumberPart} (hpart : part.isComplete = true) (seen : List Char)
    (found : List Token) {rest : List UInt8} (hrest : EndsNumber rest) :
    (rest.foldlM step ⟨.number part seen, found⟩).bind finish
      = scanFrom (.number seen.reverse :: found) rest := by
  cases rest with
  | nil => simp [scanFrom, finish, hpart]
  | cons b rest =>
    have hstep : step ⟨.number part seen, found⟩ b
        = step ⟨.nothing, .number seen.reverse :: found⟩ b := by
      rcases hrest b rfl with rfl | rfl | rfl <;> cases part <;>
        first | rfl | exact absurd hpart (by decide)
    rw [scanFrom, List.foldlM_cons, List.foldlM_cons, hstep]

/-- The first digit of a number. -/
theorem step_digit {c : Char} (h : isDigit c = true) (found : List Token) :
    ∃ part, NumberPart.minus.next? c = some part ∧
      step ⟨.nothing, found⟩ (UInt8.ofNat c.toNat) = some ⟨.number part [c], found⟩ := by
  have hstep : step ⟨.nothing, found⟩ (UInt8.ofNat c.toNat) = first found c := by
    simp only [step, ofNat_toNat_ofNat (lt_of_isDigit h)]
  rw [hstep]
  by_cases hzero : c = '0'
  · subst hzero
    exact ⟨.zero, rfl, rfl⟩
  · rw [← isDecimal_eq] at h
    refine ⟨.whole, by simp [NumberPart.next?, hzero, h], ?_⟩
    unfold first
    split
    -- every character with a meaning of its own but the zero is no digit
    all_goals first | exact absurd h (by decide) | exact absurd rfl hzero | exact if_pos h

end Scanner

/-- A number is one token, with or without a minus sign, in front of what ends it. -/
theorem ScansTo.number {p : NumberParts} (h : p.WellFormed) (hlead : p.NoLeadingZero)
    (negative : Bool) {rest : List UInt8} (hrest : EndsNumber rest) :
    ScansTo ((if negative then ['-'] else []) ++ p.text)
      [.number ((if negative then ['-'] else []) ++ p.text)] rest := by
  intro found
  obtain ⟨part, hadvance, hcomplete⟩ := NumberPart.exists_advance_text h hlead
  -- A sign starts the number, or its first digit does.
  cases negative with
  | true =>
    have hrun : (bytesOf ('-' :: p.text)).foldlM Scanner.step ⟨.nothing, found⟩
        = some ⟨.number part (p.text.reverse ++ ['-']), found⟩ :=
      Scanner.foldlM_number hadvance ['-'] found
    simp only [if_true, List.singleton_append]
    rw [scanFrom, List.foldlM_append, hrun, Option.bind_eq_bind, Option.bind_some,
      Scanner.finish_number hcomplete _ _ hrest, List.reverse_append, List.reverse_reverse]
    rfl
  | false =>
    obtain ⟨c, cs, htext, hc⟩ := p.exists_text_eq h
    rw [htext] at hadvance
    obtain ⟨next, hnext, hrest'⟩ := Option.bind_eq_some_iff.1 hadvance
    obtain ⟨next', hnext', hstep⟩ := Scanner.step_digit hc found
    obtain rfl : next = next' := Option.some.inj (hnext.symm.trans hnext')
    have hrun : (bytesOf p.text).foldlM Scanner.step ⟨.nothing, found⟩
        = some ⟨.number part (cs.reverse ++ [c]), found⟩ := by
      rw [htext, bytesOf_cons, utf8EncodeChar_of_lt (lt_of_isDigit hc),
        List.singleton_append, List.foldlM_cons, hstep]
      exact Scanner.foldlM_number hrest' [c] found
    simp only [Bool.false_eq_true, if_false, List.nil_append]
    rw [scanFrom, List.foldlM_append, hrun, Option.bind_eq_bind, Option.bind_some,
      Scanner.finish_number hcomplete _ _ hrest, List.reverse_append, List.reverse_reverse, htext]
    rfl

end Json

end Telemetry

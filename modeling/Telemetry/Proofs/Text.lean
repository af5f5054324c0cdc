import Telemetry.Proofs.Json.Text
import Telemetry.Report.Transport
import Telemetry.Text

/-!
# Texts

The order of names, what trimming, cutting and the digits of base sixteen leave alone, and how percent
encoding is undone.
-/

namespace Telemetry

/-! ## The order of names

Names are ordered by their code points, character by character. `lt_iff_toUTF8_lt` says that this is
the order of their UTF-8 bytes, whatever the characters: a smaller character has smaller bytes, and
no bytes of a character start those of another one (`utf8EncodeChar_append_lt`).
-/

namespace Text

open Json (bytesOf bytesOf_cons utf8EncodeChar_ne_nil toList_toUTF8)

/-- Numbers are compared by their digits. -/
theorem div_mod_lt {m n : Nat} (h : m < n) (base : Nat) :
    m / base < n / base ∨ m / base = n / base ∧ m % base < n % base := by
  rcases Nat.lt_or_eq_of_le (Nat.div_le_div_right (Nat.le_of_lt h)) with hlt | heq
  · exact .inl hlt
  · refine .inr ⟨heq, ?_⟩
    have hm := Nat.div_add_mod m base
    have hn := Nat.div_add_mod n base
    rw [heq] at hm
    omega

/-- Bytes are compared from the first one on. -/
theorem ofNat_cons_lt_iff {a b : Nat} (ha : a < 256) (hb : b < 256) (xs ys : List UInt8) :
    UInt8.ofNat a :: xs < UInt8.ofNat b :: ys ↔ a < b ∨ a = b ∧ xs < ys := by
  rw [List.cons_lt_cons_iff, UInt8.lt_iff_toNat_lt, ← UInt8.toNat_inj, UInt8.toNat_ofNat',
    UInt8.toNat_ofNat', Nat.mod_eq_of_lt ha, Nat.mod_eq_of_lt hb]

/-- A smaller character has smaller bytes, whatever follows. -/
theorem utf8EncodeChar_append_lt {c d : Char} (h : c < d) (xs ys : List UInt8) :
    String.utf8EncodeChar c ++ xs < String.utf8EncodeChar d ++ ys := by
  have hlt : c.val.toNat < d.val.toNat := h
  have hrange : d.val.toNat < 0x110000 := by
    have hvalid := d.valid
    simp only [UInt32.isValidChar, Nat.isValidChar] at hvalid
    omega
  -- the digits to the base of 64, from the last one on
  have hlast := div_mod_lt hlt 64
  have hthird : c.val.toNat / 4096 < d.val.toNat / 4096 ∨
      c.val.toNat / 4096 = d.val.toNat / 4096 ∧
        c.val.toNat / 64 % 64 ≤ d.val.toNat / 64 % 64 := by omega
  have hsecond : c.val.toNat / 262144 < d.val.toNat / 262144 ∨
      c.val.toNat / 262144 = d.val.toNat / 262144 ∧
        c.val.toNat / 4096 % 64 ≤ d.val.toNat / 4096 % 64 := by omega
  have hfirst : ∀ n, n < 0x110000 → n / 262144 % 8 = n / 262144 := by omega
  fun_cases String.utf8EncodeChar c <;> fun_cases String.utf8EncodeChar d <;>
    simp (disch := omega) only [List.cons_append, List.nil_append, ofNat_cons_lt_iff, hfirst] <;>
    omega

/-- The bytes of texts are in the order of the texts. -/
theorem bytesOf_lt_bytesOf {cs ds : List Char} (h : cs < ds) : bytesOf cs < bytesOf ds := by
  induction h with
  | @nil d ds =>
    obtain ⟨b, bytes, hbytes⟩ := List.exists_cons_of_ne_nil (utf8EncodeChar_ne_nil d)
    rw [bytesOf_cons, hbytes]
    exact List.nil_lt_cons b _
  | rel h => exact utf8EncodeChar_append_lt h _ _
  | cons _ ih => exact List.append_left_lt ih

/-- **Texts are ordered by their UTF-8 bytes.** -/
theorem lt_iff_toUTF8_lt {s t : String} :
    s < t ↔ s.toUTF8.data.toList < t.toUTF8.data.toList := by
  rw [toList_toUTF8, toList_toUTF8]
  refine ⟨bytesOf_lt_bytesOf, fun h => ?_⟩
  -- the other two orders of the texts would give other orders of their bytes
  refine Classical.byContradiction fun hlt => ?_
  by_cases hgt : t < s
  · exact List.lt_asymm (bytesOf_lt_bytesOf hgt) h
  · rw [String.le_antisymm (String.not_lt.1 hgt) (String.not_lt.1 hlt)] at h
    exact List.lt_irrefl _ h

end Text

/-! ## Blanks, cuts and digits

What trimming, cutting and the digits of base sixteen leave alone. Trimming removes what is blank
around a text and nothing else, a mark is not found where one of its characters is missing, and a
text in base sixteen is read exactly if it writes the bytes, up to the case of its letters.
-/

namespace Text

/-- What has been checked of the characters one by one holds of all. -/
theorem forall_of_all {p : Char → Prop} [DecidablePred p] {cs : List Char}
    (h : (cs.all fun c => p c) = true) : ∀ c ∈ cs, p c :=
  fun c hc => of_decide_eq_true (List.all_eq_true.1 h c hc)

/-- Nothing is dropped if the first element is to stay. -/
theorem dropWhile_of_head {α : Type} {p : α → Bool} {xs : List α}
    (h : ∀ x ∈ xs.head?, p x = false) : xs.dropWhile p = xs := by
  cases xs with
  | nil => rfl
  | cons x xs => rw [List.dropWhile_cons, h x rfl, if_neg Bool.false_ne_true]

/-- Everything is taken, and nothing left, if every element is to be. -/
theorem span_of_forall {α : Type} {p : α → Bool} {xs : List α} (h : ∀ x ∈ xs, p x = true) :
    xs.takeWhile p = xs ∧ xs.dropWhile p = [] := by
  have htake : (xs ++ []).takeWhile p = xs ++ [].takeWhile p := List.takeWhile_append_of_pos h
  have hdrop : (xs ++ []).dropWhile p = [].dropWhile p := List.dropWhile_append_of_pos h
  rw [List.append_nil] at htake hdrop
  exact ⟨htake.trans (List.append_nil xs), hdrop⟩

/-- Nothing is stripped if no element is to be. -/
theorem stripBoth_of_forall {α : Type} {p : α → Bool} {xs : List α} (h : ∀ x ∈ xs, p x = false) :
    stripBoth p xs = xs := by
  have hreverse : xs.reverse.dropWhile p = xs.reverse :=
    dropWhile_of_head fun x hx => h x (List.mem_reverse.1 (List.mem_of_mem_head? hx))
  rw [stripBoth, dropWhile_of_head fun x hx => h x (List.mem_of_mem_head? hx), hreverse,
    List.reverse_reverse]

/-- What is stripped lies around what stays. -/
theorem exists_stripBoth_eq {α : Type} (p : α → Bool) (xs : List α) :
    ∃ before behind, xs = before ++ (stripBoth p xs ++ behind) ∧ (∀ x ∈ before, p x = true) ∧
      ∀ x ∈ behind, p x = true := by
  have hfront := List.takeWhile_append_dropWhile (p := p) (l := xs)
  have hback := List.takeWhile_append_dropWhile (p := p) (l := (xs.dropWhile p).reverse)
  refine ⟨xs.takeWhile p, ((xs.dropWhile p).reverse.takeWhile p).reverse, ?_,
    List.all_eq_true.1 List.all_takeWhile, fun x hx => ?_⟩
  · rw [stripBoth, ← List.reverse_append, hback, List.reverse_reverse, hfront]
  · exact List.all_eq_true.1 List.all_takeWhile x (List.mem_reverse.1 hx)

/-- Around elements that are to stay, everything else is stripped. -/
theorem stripBoth_append {α : Type} {p : α → Bool} {before core behind : List α}
    (hbefore : ∀ x ∈ before, p x = true) (hcore : ∀ x ∈ core, p x = false)
    (hbehind : ∀ x ∈ behind, p x = true) : stripBoth p (before ++ (core ++ behind)) = core := by
  have hreverse : ∀ x ∈ behind.reverse, p x = true := fun x hx => hbehind x (List.mem_reverse.1 hx)
  rw [stripBoth, List.dropWhile_append_of_pos hbefore]
  -- An empty core is stripped from the front already.
  cases core with
  | nil =>
    rw [List.nil_append, (span_of_forall hbehind).2]
    rfl
  | cons x core =>
    have hfirst : ∀ y ∈ (x :: core ++ behind).head?, p y = false := by
      rintro y ⟨⟩
      exact hcore x List.mem_cons_self
    have hlast : ∀ y ∈ (x :: core).reverse.head?, p y = false := fun y hy =>
      hcore y (List.mem_reverse.1 (List.mem_of_mem_head? hy))
    rw [dropWhile_of_head hfirst, List.reverse_append, List.dropWhile_append_of_pos hreverse,
      dropWhile_of_head hlast, List.reverse_reverse]

/-- What does not tell the two cases of a letter apart is the same of a character in lower case. -/
theorem apply_toLower {α : Type} (f : Char → α)
    (h : ∀ k < 91, 65 ≤ k → f (Char.ofNat k).toLower = f (Char.ofNat k)) (c : Char) :
    f c.toLower = f c := by
  by_cases hc : c.val ≥ 'A'.val ∧ c.val ≤ 'Z'.val
  · have hlow : 65 ≤ c.toNat := UInt32.le_iff_toNat_le.1 hc.1
    have hhigh : c.toNat ≤ 90 := UInt32.le_iff_toNat_le.1 hc.2
    have hletter := h c.toNat (by omega) hlow
    rwa [Char.ofNat_toNat] at hletter
  · have hsame : c.toLower = c := dif_neg hc
    rw [hsame]

/-- A text in lower case is so character by character. -/
theorem toList_toLower (s : String) : s.toLower.toList = s.toList.map Char.toLower :=
  String.toList_map

/-- Lower case makes nothing blank. -/
theorem isBlank_toLower (c : Char) : isBlank c.toLower = isBlank c :=
  apply_toLower isBlank (by decide) c

/-- A text without blanks is not trimmed. -/
theorem trim_of_forall {s : String} (h : ∀ c ∈ s.toList, isBlank c = false) : trim s = s := by
  rw [trim, stripBoth_of_forall h, String.ofList_toList]

/-- A mark is found behind any text, if not before. -/
theorem isSome_cutAt_append (mark before behind : List Char) :
    (cutAt mark (before ++ (mark ++ behind))).isSome = true := by
  -- The mark is found here at the latest, and perhaps earlier.
  induction before with
  | nil =>
    rw [List.nil_append]
    cases hall : mark ++ behind with
    | nil => simp [cutAt, (List.append_eq_nil_iff.1 hall).1]
    | cons c cs =>
      have hprefix : mark.isPrefixOf (c :: cs) = true := by
        rw [List.isPrefixOf_iff_prefix, ← hall]
        exact List.prefix_append mark behind
      rw [cutAt, if_pos hprefix]
      rfl
  | cons c before ih =>
    rw [List.cons_append, cutAt]
    split
    · rfl
    · rw [Option.isSome_map]
      exact ih

/-- A mark is found where it stands if it does not begin before. -/
theorem cutAt_append {mark before : List Char} (behind : List Char)
    (hfirst : ∀ tail, tail <:+ before → tail ≠ [] → ¬ mark <+: tail ++ (mark ++ behind)) :
    cutAt mark (before ++ (mark ++ behind)) = some (before, behind) := by
  induction before with
  | nil =>
    rw [List.nil_append]
    cases hall : mark ++ behind with
    | nil =>
      obtain ⟨rfl, rfl⟩ := List.append_eq_nil_iff.1 hall
      rfl
    | cons c cs =>
      have hprefix : mark.isPrefixOf (c :: cs) = true := by
        rw [List.isPrefixOf_iff_prefix, ← hall]
        exact List.prefix_append mark behind
      rw [cutAt, if_pos hprefix, ← hall, List.drop_left]
  | cons c before ih =>
    -- No earlier place has the mark, so the cut goes on.
    have hprefix : ¬ mark.isPrefixOf (c :: (before ++ (mark ++ behind))) = true := by
      rw [List.isPrefixOf_iff_prefix]
      exact hfirst _ List.suffix_rfl (List.cons_ne_nil c before)
    have hrest := ih fun tail htail => hfirst tail (htail.trans (List.suffix_cons c before))
    rw [List.cons_append, cutAt, if_neg hprefix, hrest]
    rfl

/-- A character is found where it stands if it does not stand before. -/
theorem cutAt_singleton {c : Char} {before : List Char} (h : c ∉ before) (behind : List Char) :
    cutAt [c] (before ++ c :: behind) = some (before, behind) := by
  refine cutAt_append behind fun tail htail hne hprefix => ?_
  obtain ⟨d, rest, rfl⟩ := List.exists_cons_of_ne_nil hne
  obtain ⟨rfl, -⟩ := List.cons_prefix_cons.1 hprefix
  exact h (htail.subset List.mem_cons_self)

/-- No end of a scheme and beginning of the mark behind it make up a mark together. -/
theorem cutAt_schemeMark {scheme : List Char} (h : ¬ "://".toList <:+: scheme)
    (behind : List Char) :
    cutAt "://".toList (scheme ++ ("://".toList ++ behind)) = some (scheme, behind) := by
  refine cutAt_append behind fun tail htail hne hprefix => ?_
  match tail, hne with
  | [c], _ => simp at hprefix
  | [c, d], _ => simp at hprefix
  | a :: b :: c :: rest, _ =>
    have hmark : "://".toList <+: a :: b :: c :: rest := by
      simpa using hprefix
    exact h (hmark.isInfix.trans htail.isInfix)

/-- A mark is not found in a text that lacks one of its characters. -/
theorem cutAt_eq_none {mark cs : List Char} {c : Char} (hmark : c ∈ mark) (hcs : c ∉ cs) :
    cutAt mark cs = none := by
  induction cs with
  | nil =>
    have hne : mark ≠ [] := List.ne_nil_of_mem hmark
    simp [cutAt, hne]
  | cons d cs ih =>
    have hprefix : ¬ mark.isPrefixOf (d :: cs) = true := by
      rw [List.isPrefixOf_iff_prefix]
      exact fun h => hcs (h.subset hmark)
    rw [cutAt, if_neg hprefix, ih fun h => hcs (List.mem_cons_of_mem d h)]
    rfl

end Text

namespace Json

/-- A text of ASCII has a byte for each character. -/
theorem bytesOf_of_ascii {cs : List Char} (h : ∀ c ∈ cs, c.toNat < 0x80) :
    bytesOf cs = cs.map fun c => UInt8.ofNat c.toNat := by
  induction cs with
  | nil => rfl
  | cons c cs ih =>
    obtain ⟨hc, hcs⟩ := List.forall_mem_cons.1 h
    rw [bytesOf_cons, utf8EncodeChar_of_lt hc, ih hcs]
    rfl

end Json

namespace Hex

theorem value?_digit {n : Nat} (h : n < 16) : value? (digit n) = some n := by
  have hall : ∀ n < 16, value? (digit n) = some n := by decide
  exact hall n h

theorem isBlank_digit {n : Nat} (h : n < 16) : isBlank (digit n) = false := by
  have hall : ∀ n < 16, isBlank (digit n) = false := by decide
  exact hall n h

theorem toNat_digit {n : Nat} (h : n < 16) : 32 ≤ (digit n).toNat ∧ (digit n).toNat ≤ 126 := by
  have hall : ∀ n < 16, 32 ≤ (digit n).toNat ∧ (digit n).toNat ≤ 126 := by decide
  exact hall n h

/-- The case of a digit does not matter. -/
theorem value?_toLower (c : Char) : value? c.toLower = value? c :=
  Text.apply_toLower value? (by decide) c

/-- What is read as a digit is ASCII. -/
theorem lt_of_value? {c : Char} {n : Nat} (h : value? c = some n) : c.toNat < 103 := by
  refine Nat.lt_of_not_le fun hge => ?_
  have hle : ∀ d : Char, d.toNat < 103 → ¬ c ≤ d := fun d hd hcd =>
    Nat.not_lt.2 (Nat.le_trans hge (UInt32.le_iff_toNat_le.1 hcd)) hd
  simp [value?, hle '9' (by decide), hle 'f' (by decide), hle 'F' (by decide)] at h

/-- Whatever has a value is a digit, in lower case or in upper case. -/
theorem toLower_of_value? {c : Char} {n : Nat} (h : value? c = some n) :
    n < 16 ∧ c.toLower = digit n := by
  have hall : ∀ k < 103, ∀ n ∈ value? (Char.ofNat k),
      n < 16 ∧ (Char.ofNat k).toLower = digit n := by decide
  have hc := hall c.toNat (lt_of_value? h) n
  rw [Char.ofNat_toNat] at hc
  exact hc h

/-- The characters that are read. -/
theorem mem_digits_of_value? {c : Char} {n : Nat} (h : value? c = some n) :
    c ∈ "0123456789abcdefABCDEF".toList := by
  have hall : ∀ k < 103, (value? (Char.ofNat k)).isSome →
      Char.ofNat k ∈ "0123456789abcdefABCDEF".toList := by decide
  have hc := hall c.toNat (lt_of_value? h)
  rw [Char.ofNat_toNat, h] at hc
  exact hc rfl

theorem encode_cons (b : UInt8) (bytes : List UInt8) :
    encode (b :: bytes) = digit (b.toNat / 16) :: digit (b.toNat % 16) :: encode bytes := rfl

/-- A byte has two digits. -/
theorem length_encode (bytes : List UInt8) : (encode bytes).length = 2 * bytes.length := by
  induction bytes with
  | nil => rfl
  | cons b bytes ih =>
    rw [encode_cons, List.length_cons, List.length_cons, ih, List.length_cons]
    omega

/-- Every digit of a list of bytes is one of the sixteen. -/
theorem exists_digit_of_mem_encode {bytes : List UInt8} {c : Char} (h : c ∈ encode bytes) :
    ∃ n < 16, c = digit n := by
  obtain ⟨b, -, hc⟩ := List.mem_flatMap.1 h
  have hb := b.toNat_lt
  rcases List.mem_cons.1 hc with rfl | hc
  · exact ⟨_, by omega, rfl⟩
  · exact ⟨_, by omega, List.mem_singleton.1 hc⟩

/-- Bytes are read back from their digits. -/
theorem decode?_encode (bytes : List UInt8) : decode? (encode bytes) = some bytes := by
  induction bytes with
  | nil => rfl
  | cons b bytes ih =>
    have hb := b.toNat_lt
    have hhigh := value?_digit (n := b.toNat / 16) (by omega)
    have hlow := value?_digit (n := b.toNat % 16) (by omega)
    have hsum : 16 * (b.toNat / 16) + b.toNat % 16 = b.toNat := Nat.div_add_mod _ _
    rw [encode_cons, decode?, hhigh, hlow, ih]
    simp only [Option.bind_eq_bind, Option.bind_some, hsum, UInt8.ofNat_toNat]
    rfl

/-- Digits are read without regard to case. -/
theorem decode?_map_toLower (cs : List Char) : decode? (cs.map Char.toLower) = decode? cs := by
  fun_induction decode? cs with
  | case1 => rfl
  | case2 => rfl
  | case3 high low rest ih => simp only [List.map_cons, decode?, value?_toLower, ih]

/-- Bytes are read from the texts that write them, up to the case of the letters. -/
theorem decode?_eq_some_iff {cs : List Char} {bytes : List UInt8} :
    decode? cs = some bytes ↔ cs.map Char.toLower = encode bytes := by
  constructor
  · intro h
    fun_induction decode? cs generalizing bytes with
    | case1 =>
      obtain rfl := Option.some.inj h
      rfl
    | case2 => cases h
    | case3 high low rest ih =>
      simp only [Option.bind_eq_bind, Option.bind_eq_some_iff, Option.pure_def,
        Option.some.injEq] at h
      obtain ⟨m, hhigh, n, hlow, bytes, hrest, rfl⟩ := h
      obtain ⟨hm, hhigh⟩ := toLower_of_value? hhigh
      obtain ⟨hn, hlow⟩ := toLower_of_value? hlow
      -- Two digits make a byte, and the byte gives them back.
      have hbyte : (UInt8.ofNat (16 * m + n)).toNat = 16 * m + n := by
        rw [UInt8.toNat_ofNat', Nat.mod_eq_of_lt (by omega)]
      have hdiv : (16 * m + n) / 16 = m := by omega
      have hmod : (16 * m + n) % 16 = n := by omega
      rw [List.map_cons, List.map_cons, encode_cons, hbyte, hdiv, hmod, hhigh, hlow, ih hrest]
  · intro h
    rw [← decode?_map_toLower, h, decode?_encode]

end Hex

/-! ## Percent encoding undone

A text is read back from its percent encoding, byte for byte, if the percent sign and everything
beyond ASCII are among the bytes that are escaped (`decode_encode`). A character that is escaped
does not stand in what is written (`not_mem_encode`), so whoever cuts the text at such a character
does not cut through an encoded piece.
-/

namespace Hex

theorem value?_upperDigit {n : Nat} (h : n < 16) : value? (upperDigit n) = some n := by
  have hall : ∀ n < 16, value? (upperDigit n) = some n := by decide
  exact hall n h

theorem toNat_upperDigit_lt {n : Nat} (h : n < 16) : (upperDigit n).toNat < 0x80 := by
  have hall : ∀ n < 16, (upperDigit n).toNat < 0x80 := by decide
  exact hall n h

end Hex

namespace Percent

variable {escaped : UInt8 → Bool}

/-- The bytes that have to be escaped so that a text can be read back. -/
structure IsReadable (escaped : UInt8 → Bool) : Prop where
  percent : escaped 37 = true
  wide : ∀ b : UInt8, 0x80 ≤ b.toNat → escaped b = true

theorem toNat_ofNat_of_lt {n : Nat} (h : n < 0x80) : (Char.ofNat n).toNat = n := by
  have hall : ∀ n < 0x80, (Char.ofNat n).toNat = n := by decide
  exact hall n h

theorem decode_cons_of_ne {b : UInt8} (h : b ≠ 37) (rest : List UInt8) :
    decode (b :: rest) = b :: decode rest := by
  rw [decode]
  rintro _ _ _ rfl
  exact absurd rfl h

/-- The three bytes of an escaped byte. -/
theorem decode_ofByte (b : UInt8) (rest : List UInt8) :
    decode (Json.bytesOf (ofByte b) ++ rest) = b :: decode rest := by
  have hb := b.toNat_lt
  have hhigh : b.toNat / 16 < 16 := by omega
  have hlow : b.toNat % 16 < 16 := by omega
  have hdigit : ∀ n < 16,
      digit? (UInt8.ofNat (Hex.upperDigit n).toNat) = some n := by
    intro n hn
    rw [digit?, Json.ofNat_toNat_ofNat (Hex.toNat_upperDigit_lt hn)]
    exact Hex.value?_upperDigit hn
  have hbytes : Json.bytesOf (ofByte b) ++ rest
      = 37 :: UInt8.ofNat (Hex.upperDigit (b.toNat / 16)).toNat
        :: UInt8.ofNat (Hex.upperDigit (b.toNat % 16)).toNat :: rest := by
    simp only [ofByte, Json.bytesOf_cons, Json.bytesOf_nil,
      Json.utf8EncodeChar_of_lt (Hex.toNat_upperDigit_lt hhigh),
      Json.utf8EncodeChar_of_lt (Hex.toNat_upperDigit_lt hlow)]
    rfl
  have hsum : 16 * (b.toNat / 16) + b.toNat % 16 = b.toNat := Nat.div_add_mod _ _
  rw [hbytes, decode, hdigit _ hhigh, hdigit _ hlow]
  simp only [hsum, UInt8.ofNat_toNat]

/-- A byte is read back, whatever follows. -/
theorem decode_encodeByte (h : IsReadable escaped) (b : UInt8) (rest : List UInt8) :
    decode (Json.bytesOf (encodeByte escaped b) ++ rest) = b :: decode rest := by
  unfold encodeByte
  -- What is not escaped is ASCII and no percent sign.
  by_cases hescaped : escaped b = true
  · rw [if_pos hescaped]
    exact decode_ofByte b rest
  · have hascii : b.toNat < 0x80 := Nat.lt_of_not_le fun hwide => hescaped (h.wide b hwide)
    have hchar := toNat_ofNat_of_lt hascii
    have hbytes : Json.bytesOf [Char.ofNat b.toNat] = [b] := by
      rw [Json.bytesOf_cons, Json.utf8EncodeChar_of_lt (by omega), hchar, UInt8.ofNat_toNat]
      rfl
    have hne : b ≠ 37 := by
      rintro rfl
      exact hescaped h.percent
    rw [if_neg hescaped, hbytes]
    exact decode_cons_of_ne hne rest

/-- **A text is read back from its percent encoding.** -/
theorem decode_encode (h : IsReadable escaped) (s : String) :
    decode (String.ofList (encode escaped s)).toUTF8.data.toList = s.toUTF8.data.toList := by
  rw [Json.toList_toUTF8, String.toList_ofList, encode]
  generalize s.toUTF8.data.toList = bytes
  induction bytes with
  | nil => rfl
  | cons b bytes ih =>
    rw [List.flatMap_cons, Json.bytesOf_append, decode_encodeByte h, ih]

/-- A character that is escaped does not stand in an encoded text, unless escapes are made of it. -/
theorem not_mem_encode (h : IsReadable escaped) {c : Char}
    (hescaped : escaped (UInt8.ofNat c.toNat) = true) (hpercent : c ≠ '%')
    (hdigit : Hex.value? c = none) (s : String) : c ∉ encode escaped s := by
  intro hc
  obtain ⟨b, -, hc⟩ := List.mem_flatMap.1 hc
  have hb := b.toNat_lt
  have hupper : ∀ n < 16, c ≠ Hex.upperDigit n := by
    rintro n hn rfl
    cases hdigit.symm.trans (Hex.value?_upperDigit hn)
  unfold encodeByte at hc
  split at hc
  · -- the percent sign and the two digits
    rcases List.mem_cons.1 hc with hc | hc
    · exact hpercent hc
    rcases List.mem_cons.1 hc with hc | hc
    · exact hupper _ (by omega) hc
    · exact hupper _ (by omega) (List.mem_singleton.1 hc)
  · next hplain =>
    have hascii : b.toNat < 0x80 := Nat.lt_of_not_le fun hwide => hplain (h.wide b hwide)
    have hnat : c.toNat = b.toNat := by
      rw [List.mem_singleton.1 hc, toNat_ofNat_of_lt hascii]
    rw [hnat, UInt8.ofNat_toNat] at hescaped
    exact hplain hescaped

end Percent

end Telemetry

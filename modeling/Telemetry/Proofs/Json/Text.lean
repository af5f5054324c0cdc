import Telemetry.Json.Text

/-!
# Strings of JSON read back

`Json.decodeText?` gives back what `Json.encodeText` has put between the quotes, for every text.
A character is written in one of three ways: behind a backslash, as an escaped code unit, or as it
is. `encodeChar_cases` is this distinction; whoever reads a string, byte by byte or piece by piece,
follows it character by character.
-/

namespace Telemetry

namespace Json

/-! ## The bytes of a text -/

/-- The bytes of a text. -/
def bytesOf (cs : List Char) : List UInt8 := cs.flatMap String.utf8EncodeChar

@[simp] theorem bytesOf_nil : bytesOf [] = [] := rfl

@[simp] theorem bytesOf_cons (c : Char) (cs : List Char) :
    bytesOf (c :: cs) = String.utf8EncodeChar c ++ bytesOf cs := rfl

@[simp] theorem bytesOf_append (xs ys : List Char) :
    bytesOf (xs ++ ys) = bytesOf xs ++ bytesOf ys := List.flatMap_append

theorem utf8Encode_eq (cs : List Char) : cs.utf8Encode = ⟨(bytesOf cs).toArray⟩ :=
  ByteArray.ext (List.data_toByteArray ..)

/-- The bytes of a text, as a list. -/
theorem toList_toUTF8 (s : String) : s.toUTF8.data.toList = bytesOf s.toList := by
  rw [← congrArg String.toUTF8 (String.ofList_toList : String.ofList s.toList = s)]
  exact congrArg (fun bytes : ByteArray => bytes.data.toList) (utf8Encode_eq s.toList)

/-- The bytes of a text are read as the text. -/
theorem fromUTF8?_bytesOf (cs : List Char) :
    String.fromUTF8? ⟨(bytesOf cs).toArray⟩ = some (String.ofList cs) := by
  rw [← utf8Encode_eq, String.fromUTF8?, dif_pos ByteArray.isValidUTF8_utf8Encode]
  rfl

theorem utf8EncodeChar_ne_nil (c : Char) : String.utf8EncodeChar c ≠ [] := by
  rw [← List.length_pos_iff, String.length_utf8EncodeChar]
  exact c.utf8Size_pos

/-- A character of ASCII is one byte. -/
theorem utf8EncodeChar_of_lt {c : Char} (h : c.toNat < 0x80) :
    String.utf8EncodeChar c = [UInt8.ofNat c.toNat] :=
  if_pos (Nat.le_of_lt_succ h)

/-- No byte of a character outside ASCII is one of an ASCII character. -/
theorem le_of_mem_utf8EncodeChar {c : Char} (h : 0x80 ≤ c.toNat) {b : UInt8}
    (hb : b ∈ String.utf8EncodeChar c) : 0x80 ≤ b.toNat := by
  have hvalue : 0x80 ≤ c.val.toNat := h
  revert hb
  fun_cases String.utf8EncodeChar c <;> intro hb
  · omega
  all_goals
    simp only [List.mem_cons, List.not_mem_nil, or_false] at hb
    rcases hb with rfl | rfl | rfl | rfl <;> simp only [UInt8.toNat_ofNat'] <;> omega

theorem ofNat_toNat_ofNat {c : Char} (h : c.toNat < 0x80) :
    Char.ofNat (UInt8.ofNat c.toNat).toNat = c := by
  rw [UInt8.toNat_ofNat', Nat.mod_eq_of_lt (by omega)]
  exact Char.ofNat_toNat c

/-! ## One character -/

/-- The character is written as it is. -/
structure IsPlain (c : Char) : Prop where
  visible : 0x20 ≤ c.toNat
  ne_quote : c ≠ '"'
  ne_backslash : c ≠ '\\'

/-- The letter stands behind a backslash for a character. -/
structure IsLetterFor (e c : Char) : Prop where
  escaped : escaped? (UInt8.ofNat e.toNat) = some (UInt8.ofNat c.toNat)
  letter : e.toNat < 0x80
  ascii : c.toNat < 0x80

/-- The two digits of a character of the first two rows of ASCII. -/
def controlDigits (c : Char) : List Char := Hex.ofByte (UInt8.ofNat c.toNat)

/-- A character is written behind a backslash, as a code unit, or as it is. -/
theorem encodeChar_cases (c : Char) :
    (∃ e, encodeChar c = ['\\', e] ∧ IsLetterFor e c) ∨
    (encodeChar c = '\\' :: 'u' :: '0' :: '0' :: controlDigits c ∧ c.toNat < 0x20) ∨
    (encodeChar c = [c] ∧ IsPlain c) := by
  unfold encodeChar
  split
  -- Seven characters have a letter of their own.
  · exact .inl ⟨_, rfl, by decide, by decide, by decide⟩
  · exact .inl ⟨_, rfl, by decide, by decide, by decide⟩
  · exact .inl ⟨_, rfl, by decide, by decide, by decide⟩
  · exact .inl ⟨_, rfl, by decide, by decide, by decide⟩
  · exact .inl ⟨_, rfl, by decide, by decide, by decide⟩
  · exact .inl ⟨_, rfl, by decide, by decide, by decide⟩
  · exact .inl ⟨_, rfl, by decide, by decide, by decide⟩
  · next hquote hbackslash _ _ _ _ _ =>
    split
    · next hcontrol => exact .inr (.inl ⟨rfl, hcontrol⟩)
    · next hcontrol => exact .inr (.inr ⟨rfl, by omega, hquote, hbackslash⟩)

/-- The digits of a control character are two letters of ASCII that give it back. -/
theorem exists_controlDigits {c : Char} (h : c.toNat < 0x20) :
    ∃ x y : Char, controlDigits c = [x, y] ∧ x.toNat < 0x80 ∧ y.toNat < 0x80 ∧
      unitOfDigits? [0x30, 0x30, UInt8.ofNat x.toNat, UInt8.ofNat y.toNat] = some c.toNat := by
  have hall : ∀ n < 0x20, ∃ x y : Char, Hex.ofByte (UInt8.ofNat n) = [x, y] ∧ x.toNat < 0x80 ∧
      y.toNat < 0x80 ∧
      unitOfDigits? [0x30, 0x30, UInt8.ofNat x.toNat, UInt8.ofNat y.toNat] = some n :=
    fun n hn => ⟨Hex.digit _, Hex.digit _, rfl, by revert n; decide, by revert n; decide,
      by revert n; decide⟩
  exact hall c.toNat h

/-! ## A text -/

/-- Bytes without a backslash stand for themselves. -/
theorem pieces?_append_of_ne {bytes : List UInt8} (h : ∀ b ∈ bytes, b ≠ 0x5c) (rest : List UInt8) :
    pieces? (bytes ++ rest) = (pieces? rest).map (bytes.map .byte ++ ·) := by
  induction bytes with
  | nil => simp
  | cons b bytes ih =>
    obtain ⟨hb, hbytes⟩ := List.forall_mem_cons.1 h
    have hstep : pieces? (b :: (bytes ++ rest)) = (pieces? (bytes ++ rest)).map (.byte b :: ·) := by
      rw [pieces?.eq_def]
      split <;> simp_all
    rw [List.cons_append, hstep, ih hbytes, Option.map_map]
    rfl

/-- A backslash and a letter stand for one byte. -/
theorem pieces?_escape {e b : UInt8} (h : escaped? e = some b) (rest : List UInt8) :
    pieces? (0x5c :: e :: rest) = (pieces? rest).map (.byte b :: ·) := by
  have hu : e ≠ 0x75 := by
    rintro rfl
    cases h
  have hstep : pieces? (0x5c :: e :: rest)
      = (escaped? e).bind fun b => (pieces? rest).map (.byte b :: ·) := by
    -- The letter is not the `u` of a code unit, which is taken first.
    rw [pieces?.eq_def]
    split
    · next heq => cases heq
    · next heq =>
      injection heq with _ heq
      injection heq with hhead _
      exact absurd hhead hu
    · next e' rest' _ heq =>
      injection heq with _ heq
      injection heq with hhead htail
      subst hhead htail
      cases escaped? e <;> cases pieces? rest <;> rfl
    · next hescape heq =>
      injection heq with hhead htail
      exact (hescape e rest hhead.symm htail.symm).elim
  rw [hstep, h, Option.bind_some]

/-- A backslash, a `u` and four digits stand for a code unit. -/
theorem pieces?_unit {x y : UInt8} {n : Nat} (h : unitOfDigits? [0x30, 0x30, x, y] = some n)
    (rest : List UInt8) :
    pieces? (0x5c :: 0x75 :: 0x30 :: 0x30 :: x :: y :: rest)
      = (pieces? rest).map (.unit n :: ·) := by
  rw [pieces?, h]
  cases pieces? rest <;> rfl

/-- Bytes that stand for themselves are put together as they come. -/
theorem bytes?_map_byte (bytes : List UInt8) (rest : List Piece) :
    bytes? (bytes.map .byte ++ rest) = (bytes? rest).map (bytes ++ ·) := by
  induction bytes with
  | nil => simp
  | cons b bytes ih =>
    rw [List.map_cons, List.cons_append, bytes?, ih, Option.map_map]
    rfl

/-- A code unit that needs no partner. -/
theorem bytes?_unit {n : Nat} (h : n < 0xd800) (rest : List Piece) :
    bytes? (.unit n :: rest) = (bytes? rest).map (utf8 n ++ ·) := by
  have hhigh : isHigh n = false := by simp [isHigh]; omega
  have hlow : isLow n = false := by simp [isLow]; omega
  rw [bytes?.eq_def]
  split <;> simp_all

/-- What is written for a character stands for its bytes. -/
theorem decode_encodeChar (c : Char) (rest : List UInt8) :
    (pieces? (bytesOf (encodeChar c) ++ rest)).bind bytes?
      = ((pieces? rest).bind bytes?).map (String.utf8EncodeChar c ++ ·) := by
  -- The three ways to write a character are read in three ways, each to the bytes of the character.
  rcases encodeChar_cases c with ⟨e, htext, he⟩ | ⟨htext, hcontrol⟩ | ⟨htext, hplain⟩
  · have hbytes : bytesOf ['\\', e] = [0x5c, UInt8.ofNat e.toNat] := by
      simp only [bytesOf_cons, utf8EncodeChar_of_lt he.letter]
      rfl
    rw [htext, hbytes, utf8EncodeChar_of_lt he.ascii]
    rw [List.cons_append, List.singleton_append, pieces?_escape he.escaped]
    cases pieces? rest <;> rfl
  · obtain ⟨x, y, hdigits, hx, hy, hunit⟩ := exists_controlDigits hcontrol
    have hbytes : bytesOf ['\\', 'u', '0', '0', x, y]
        = [0x5c, 0x75, 0x30, 0x30, UInt8.ofNat x.toNat, UInt8.ofNat y.toNat] := by
      simp only [bytesOf_cons, utf8EncodeChar_of_lt hx, utf8EncodeChar_of_lt hy]
      rfl
    have hutf8 : utf8 c.toNat = String.utf8EncodeChar c :=
      congrArg String.utf8EncodeChar (Char.ofNat_toNat c)
    rw [htext, hdigits, hbytes]
    simp only [List.cons_append, List.nil_append]
    rw [pieces?_unit hunit]
    cases pieces? rest with
    | none => rfl
    | some pieces => rw [Option.map_some, Option.bind_some, bytes?_unit (by omega), hutf8]; rfl
  -- No byte of the character is taken for a backslash: in ASCII it is the character itself, and
  -- outside of it the bytes are too large.
  · have hne : ∀ b ∈ String.utf8EncodeChar c, b ≠ 0x5c := by
      intro b hb hbackslash
      by_cases hascii : c.toNat < 0x80
      · rw [utf8EncodeChar_of_lt hascii, List.mem_singleton] at hb
        refine hplain.ne_backslash ?_
        rw [← ofNat_toNat_ofNat hascii, ← hb, hbackslash]
        rfl
      · have := le_of_mem_utf8EncodeChar (by omega) hb
        rw [hbackslash] at this
        exact absurd this (by decide)
    have hbytes : bytesOf [c] = String.utf8EncodeChar c := by simp
    rw [htext, hbytes, pieces?_append_of_ne hne]
    cases pieces? rest with
    | none => rfl
    | some pieces => rw [Option.map_some, Option.bind_some, bytes?_map_byte]; rfl

/-- **What stands between the quotes of an encoded text stands for the text.** -/
theorem decodeText?_encode (s : String) :
    decodeText? (bytesOf (s.toList.flatMap encodeChar)) = some s := by
  have hbytes : ∀ cs : List Char,
      (pieces? (bytesOf (cs.flatMap encodeChar))).bind bytes? = some (bytesOf cs) := by
    intro cs
    induction cs with
    | nil => rfl
    | cons c cs ih =>
      rw [List.flatMap_cons, bytesOf_append, decode_encodeChar, ih]
      rfl
  -- The bytes of all characters together are valid UTF-8, since they are those of the text.
  have hdecode : decodeText? (bytesOf (s.toList.flatMap encodeChar))
      = ((pieces? (bytesOf (s.toList.flatMap encodeChar))).bind bytes?).bind
          fun bytes => String.fromUTF8? ⟨bytes.toArray⟩ := by
    rw [Option.bind_assoc]
    rfl
  rw [hdecode, hbytes, Option.bind_some, fromUTF8?_bytesOf, String.ofList_toList]

end Json

end Telemetry

import Telemetry.Proofs.Number.Text
import Telemetry.Wire.Field

/-!
# Fields read back

The bytes of a list of fields are read as the same fields (`decode?_encode`), if every number in
them has a place on the wire (`Field.Fits`). Each part is read back whatever follows it: an integer
of variable length, a fixed number of bytes, a payload. Two steps go along with a field, one that
takes its tag and one that takes the rest; a group takes two tags.
-/

namespace Telemetry

namespace Wire

variable {n : Nat} {bytes rest : List UInt8} {f : Field} {fields : List Field}

/-! ## Integers -/

theorem toNat_ofNat_of_lt (h : n < 256) : (UInt8.ofNat n).toNat = n := by
  rw [UInt8.toNat_ofNat', Nat.mod_eq_of_lt h]

/-- An integer is read back from its groups of seven bits. The last group that is allowed holds a
single bit. -/
theorem readVarint?_varint {places : Nat} (h : n < 2 * 128 ^ places) (rest : List UInt8) :
    readVarint? (places + 1) (varint n ++ rest) = some (n, rest) := by
  -- One byte is read for each seven bits; the last place has room for one bit only.
  induction places generalizing n with
  | zero =>
    have hsmall : n < 2 := h
    rw [varint, if_pos (by omega), List.singleton_append, readVarint?,
      toNat_ofNat_of_lt (by omega), if_pos (by omega), if_neg (by omega)]
  | succ places ih =>
    rw [varint]
    split
    · rw [List.singleton_append, readVarint?, toNat_ofNat_of_lt (by omega), if_pos ‹_›,
        if_neg (by omega)]
    · have hquotient : n / 128 < 2 * 128 ^ places := by
        rw [Nat.pow_succ, ← Nat.mul_assoc] at h
        exact Nat.div_lt_of_lt_mul (Nat.mul_comm 128 _ ▸ h)
      rw [List.cons_append, readVarint?, toNat_ofNat_of_lt (by omega), if_neg (by omega),
        ih hquotient, Option.map_some]
      show some (n % 128 + 128 - 128 + 128 * (n / 128), rest) = some (n, rest)
      rw [Nat.add_sub_cancel, Nat.mod_add_div]

/-- A word is read back from its bytes, whatever follows them. -/
theorem readWord?_varint (h : n < UInt64.size) (rest : List UInt8) :
    readWord? (varint n ++ rest) = some (n, rest) := by
  have hsize : UInt64.size = 2 * 128 ^ 9 := by decide
  exact readVarint?_varint (hsize ▸ h) rest

theorem length_varint_pos (n : Nat) : 0 < (varint n).length := by
  rw [varint]
  split <;> exact Nat.zero_lt_succ _

/-- A word takes a byte for each seven bits. -/
theorem length_varint_le {places : Nat} (h : n < 128 ^ (places + 1)) :
    (varint n).length ≤ places + 1 := by
  induction places generalizing n with
  | zero =>
    have hsmall : n < 128 := h
    rw [varint, if_pos hsmall]
    exact Nat.le_refl _
  | succ places ih =>
    rw [varint]
    split
    · exact Nat.succ_le_succ (Nat.zero_le _)
    · rw [Nat.pow_succ] at h
      exact Nat.succ_le_succ (ih (Nat.div_lt_of_lt_mul (Nat.mul_comm 128 _ ▸ h)))

/-! ## Bytes -/

/-- As many bytes are read as were announced. -/
theorem readBytes?_append (content rest : List UInt8) :
    readBytes? content.length (content ++ rest) = some (content, rest) := by
  rw [readBytes?, List.take_left, List.drop_left, if_neg (Nat.lt_irrefl _)]

theorem length_littleEndianBytes (n count : Nat) : (littleEndianBytes n count).length = count := by
  induction count generalizing n with
  | zero => rfl
  | succ count ih => rw [littleEndianBytes, List.length_cons, ih]

/-- A fixed number is read back from its bytes. -/
theorem littleEndian_littleEndianBytes {count : Nat} (h : n < 256 ^ count) :
    littleEndian (littleEndianBytes n count) = n := by
  induction count generalizing n with
  | zero => exact (Nat.lt_one_iff.1 h).symm
  | succ count ih =>
    have hquotient : n / 256 < 256 ^ count := by
      rw [Nat.pow_succ] at h
      exact Nat.div_lt_of_lt_mul (Nat.mul_comm 256 _ ▸ h)
    rw [littleEndianBytes, littleEndian, ih hquotient, UInt8.toNat_ofNat']
    omega

/-- A number of a fixed size and the bytes behind it. -/
theorem readBytes?_littleEndianBytes (n count : Nat) (rest : List UInt8) :
    readBytes? count (littleEndianBytes n count ++ rest)
      = some (littleEndianBytes n count, rest) := by
  have h := readBytes?_append (littleEndianBytes n count) rest
  rwa [length_littleEndianBytes] at h

/-! ## Fields -/

/-- The form of a payload, as the tag says it. -/
def Payload.form : Payload → Nat
  | .word _ => 0
  | .fixed64 _ => 1
  | .bytes _ => 2
  | .fixed32 _ => 5
  | .group => 3

/-- The bytes between the tag of a field and the next one. -/
def Payload.body : Payload → List UInt8
  | .word n => varint n
  | .fixed64 n => littleEndianBytes n 8
  | .bytes content => varint content.length ++ content
  | .fixed32 n => littleEndianBytes n 4
  | .group => []

/-- The numbers of a payload have a place on the wire. -/
def Payload.Fits : Payload → Prop
  | .word n => n < UInt64.size
  | .fixed64 n => n < UInt64.size
  | .bytes content => content.length < UInt64.size
  | .fixed32 n => n < UInt32.size
  | .group => True

/-- The tag of a field has 32 bits, and its payload fits. -/
structure Field.Fits (f : Field) : Prop where
  positive : 0 < f.number
  tag : 8 * f.number + 7 < UInt32.size
  payload : f.payload.Fits

/-- A payload is read back from its bytes, whatever follows them. -/
theorem readPayload?_body {p : Payload} (h : p.Fits) (hp : p ≠ .group) (rest : List UInt8) :
    readPayload? p.form (p.body ++ rest) = some (p, rest) := by
  have hword : UInt64.size = 256 ^ 8 := by decide
  have hhalf : UInt32.size = 256 ^ 4 := by decide
  -- The form tells the reader how the bytes end, so there is a case for each form.
  cases p with
  | word n =>
    simp only [Payload.form, Payload.body, readPayload?, readWord?_varint h, Option.map_some]
  | fixed64 n =>
    have hback : littleEndian (littleEndianBytes n 8) = n :=
      littleEndian_littleEndianBytes (Nat.lt_of_lt_of_eq h hword)
    simp only [Payload.form, Payload.body, readPayload?, readBytes?_littleEndianBytes,
      Option.map_some, hback]
  | bytes content =>
    simp only [Payload.form, Payload.body, readPayload?, List.append_assoc, readWord?_varint h,
      readBytes?_append, Option.bind_eq_bind, Option.bind_some]
    rfl
  | fixed32 n =>
    have hback : littleEndian (littleEndianBytes n 4) = n :=
      littleEndian_littleEndianBytes (Nat.lt_of_lt_of_eq h hhalf)
    simp only [Payload.form, Payload.body, readPayload?, readBytes?_littleEndianBytes,
      Option.map_some, hback]
  | group => exact absurd rfl hp

/-- A field is a tag and a payload. -/
theorem encode_of_ne_group (h : f.payload ≠ .group) :
    f.encode = varint (8 * f.number + f.payload.form) ++ f.payload.body := by
  obtain ⟨number, payload⟩ := f
  cases payload with
  | word n => rfl
  | fixed64 n => rfl
  | bytes content => rfl
  | fixed32 n => rfl
  | group => exact absurd rfl h

/-! ## Lengths -/

/-- The number of the bytes that a payload counts. -/
def Payload.contentLength : Payload → Nat
  | .bytes content => content.length
  | _ => 0

/-- A word takes ten bytes at most. -/
theorem length_varint_le_ten (h : n < UInt64.size) : (varint n).length ≤ 10 := by
  have hsize : UInt64.size < 128 ^ (9 + 1) := by decide
  exact length_varint_le (Nat.lt_trans h hsize)

/-- A field takes at most twenty bytes besides the ones that it counts. -/
theorem length_encode_le (h : f.Fits) : f.encode.length ≤ 20 + f.payload.contentLength := by
  obtain ⟨number, payload⟩ := f
  obtain ⟨-, htag, hpayload⟩ := h
  dsimp only at htag hpayload
  have hsize : UInt32.size < UInt64.size := by decide
  have hlength : ∀ form ≤ 7, (varint (8 * number + form)).length ≤ 10 := fun form hform =>
    length_varint_le_ten (by omega)
  -- The tag takes ten bytes at most, and so does the length or the word behind it.
  cases payload with
  | word n =>
    have hbody := length_varint_le_ten hpayload
    have hform : (varint (8 * number)).length ≤ 10 := hlength 0 (by decide)
    simp only [Field.encode, Payload.contentLength, List.length_append] at *
    omega
  | fixed64 n =>
    have hform := hlength 1 (by decide)
    simp only [Field.encode, Payload.contentLength, List.length_append, length_littleEndianBytes]
    omega
  | bytes content =>
    have hbody := length_varint_le_ten hpayload
    have hform := hlength 2 (by decide)
    simp only [Field.encode, Payload.contentLength, List.length_append] at *
    omega
  | fixed32 n =>
    have hform := hlength 5 (by decide)
    simp only [Field.encode, Payload.contentLength, List.length_append, length_littleEndianBytes]
    omega
  | group =>
    have hopen := hlength 3 (by decide)
    have hclose := hlength 4 (by decide)
    simp only [Field.encode, Payload.contentLength, List.length_append]
    omega

/-- Fields take no more than what they carry and twenty bytes each. -/
theorem length_encode_fields_le (h : ∀ f ∈ fields, f.Fits) :
    (encode fields).length
      ≤ 20 * fields.length + (fields.map fun f => f.payload.contentLength).sum := by
  induction fields with
  | nil => exact Nat.le_refl _
  | cons f fields ih =>
    obtain ⟨hfirst, hrest⟩ := List.forall_mem_cons.1 h
    have hf := length_encode_le hfirst
    have hfields := ih hrest
    rw [encode, List.flatMap_cons, ← encode, List.length_append, List.length_cons, List.map_cons,
      List.sum_cons]
    omega

/-! ## Messages -/

section Messages

variable {limit fuel tag : Nat} {groups : List Nat} {p : Payload}

/-- A tag and its payload outside of all groups. -/
theorem fields?_payload {last : List UInt8} (hlimit : 0 < limit)
    (hword : readWord? bytes = some (tag, rest)) (htag : tag < UInt32.size) (hnumber : tag / 8 ≠ 0)
    (hstart : tag % 8 ≠ 3) (hend : tag % 8 ≠ 4)
    (hpayload : readPayload? (tag % 8) rest = some (p, last)) :
    fields? limit (fuel + 1) [] bytes = (fields? limit fuel [] last).map (⟨tag / 8, p⟩ :: ·) := by
  cases bytes with
  | nil => cases hword
  | cons b bytes =>
    have htaken : ¬ (UInt32.size ≤ tag ∨ tag / 8 = 0) := by omega
    have hopen : ¬ limit ≤ ([] : List Nat).length := Nat.not_le_of_lt hlimit
    rw [fields?]
    · simp only [hword, Option.bind_eq_bind, Option.bind_some, if_neg htaken, if_neg hend,
        if_neg hopen, if_neg hstart, hpayload]
      cases fields? limit fuel [] last <;> rfl
    · exact nofun

/-- A tag that opens a group outside of all others. -/
theorem fields?_open (hlimit : 0 < limit) (hword : readWord? bytes = some (tag, rest))
    (htag : tag < UInt32.size) (hnumber : tag / 8 ≠ 0) (hstart : tag % 8 = 3) :
    fields? limit (fuel + 1) [] bytes = fields? limit fuel [tag / 8] rest := by
  cases bytes with
  | nil => cases hword
  | cons b bytes =>
    have htaken : ¬ (UInt32.size ≤ tag ∨ tag / 8 = 0) := by omega
    have hend : ¬ tag % 8 = 4 := by omega
    have hopen : ¬ limit ≤ ([] : List Nat).length := Nat.not_le_of_lt hlimit
    rw [fields?]
    · simp only [hword, Option.bind_eq_bind, Option.bind_some, if_neg htaken, if_neg hend,
        if_neg hopen, if_pos hstart]
    · exact nofun

/-- A tag that closes the outermost group. -/
theorem fields?_close (hword : readWord? bytes = some (tag, rest))
    (htag : tag < UInt32.size) (hnumber : tag / 8 ≠ 0) (hend : tag % 8 = 4) :
    fields? limit (fuel + 1) [tag / 8] bytes
      = (fields? limit fuel [] rest).map (⟨tag / 8, .group⟩ :: ·) := by
  cases bytes with
  | nil => cases hword
  | cons b bytes =>
    have htaken : ¬ (UInt32.size ≤ tag ∨ tag / 8 = 0) := by omega
    rw [fields?]
    · simp only [hword, Option.bind_eq_bind, Option.bind_some, if_neg htaken, if_pos hend, if_true]
      cases fields? limit fuel [] rest <;> rfl
    · exact nofun

/-- A field that is no group is taken in one step. -/
theorem fields?_encode_append (hfits : f.Fits) (hgroup : f.payload ≠ .group) (hlimit : 0 < limit) :
    fields? limit (fuel + 1) [] (f.encode ++ rest) = (fields? limit fuel [] rest).map (f :: ·) := by
  obtain ⟨hpositive, htag, hpayload⟩ := hfits
  have hsize : UInt32.size < UInt64.size := by decide
  have hform : f.payload.form < 8 ∧ f.payload.form ≠ 3 ∧ f.payload.form ≠ 4 := by
    revert hgroup
    cases f.payload <;> simp [Payload.form]
  have hnumber : (8 * f.number + f.payload.form) / 8 = f.number := by omega
  have hback : (8 * f.number + f.payload.form) % 8 = f.payload.form := by omega
  have hword := readWord?_varint (n := 8 * f.number + f.payload.form) (by omega)
    (f.payload.body ++ rest)
  have hread := readPayload?_body hpayload hgroup rest
  rw [← hback] at hread
  rw [encode_of_ne_group hgroup, List.append_assoc,
    fields?_payload hlimit hword (by omega) (by omega) (by omega) (by omega) hread, hnumber]

/-- A group is taken in two steps. -/
theorem fields?_encode_group_append {number : Nat} (hfits : Field.Fits ⟨number, .group⟩)
    (hlimit : 0 < limit) :
    fields? limit (fuel + 2) [] (Field.encode ⟨number, .group⟩ ++ rest)
      = (fields? limit fuel [] rest).map (⟨number, .group⟩ :: ·) := by
  obtain ⟨hpositive, htag, -⟩ := hfits
  dsimp only at hpositive htag
  have hsize : UInt32.size < UInt64.size := by decide
  have hencode : Field.encode ⟨number, .group⟩
      = varint (8 * number + 3) ++ varint (8 * number + 4) := rfl
  have hopen := readWord?_varint (n := 8 * number + 3) (by omega)
    (varint (8 * number + 4) ++ rest)
  have hclose := readWord?_varint (n := 8 * number + 4) (by omega) rest
  have hnumber : (8 * number + 3) / 8 = (8 * number + 4) / 8 := by omega
  have hback : (8 * number + 4) / 8 = number := by omega
  rw [hencode, List.append_assoc, fields?_open hlimit hopen (by omega) (by omega) (by omega),
    hnumber, fields?_close hclose (by omega) (by omega) (by omega), hback]

/-- Every tag takes a byte at least, so the length of a message is enough fuel. -/
theorem exists_fields?_encode (hfits : f.Fits) (hlimit : 0 < limit)
    (hfuel : (f.encode ++ rest).length ≤ fuel) :
    ∃ left, rest.length ≤ left ∧
      fields? limit fuel [] (f.encode ++ rest) = (fields? limit left [] rest).map (f :: ·) := by
  rw [List.length_append] at hfuel
  -- A group has a tag at its end as well, so it takes two steps.
  by_cases hgroup : f.payload = .group
  · obtain ⟨number, payload⟩ := f
    cases hgroup
    have hlength : 2 ≤ (Field.encode ⟨number, .group⟩).length := by
      have hopen := length_varint_pos (8 * number + 3)
      have hclose := length_varint_pos (8 * number + 4)
      show 2 ≤ (varint (8 * number + 3) ++ varint (8 * number + 4)).length
      rw [List.length_append]
      omega
    obtain ⟨left, rfl⟩ : ∃ left, fuel = left + 2 := ⟨fuel - 2, by omega⟩
    exact ⟨left, by omega, fields?_encode_group_append hfits hlimit⟩
  · have hlength : 1 ≤ f.encode.length := by
      have htag := length_varint_pos (8 * f.number + f.payload.form)
      rw [encode_of_ne_group hgroup, List.length_append]
      omega
    obtain ⟨left, rfl⟩ : ∃ left, fuel = left + 1 := ⟨fuel - 1, by omega⟩
    exact ⟨left, by omega, fields?_encode_append hfits hgroup hlimit⟩

/-- Fields are read back from their bytes one by one. -/
theorem fields?_encode (hfits : ∀ f ∈ fields, f.Fits) (hlimit : 0 < limit)
    (hfuel : (encode fields).length ≤ fuel) :
    fields? limit fuel [] (encode fields) = some fields := by
  induction fields generalizing fuel with
  | nil => cases fuel <;> rfl
  | cons f fields ih =>
    obtain ⟨hfirst, hrest⟩ := List.forall_mem_cons.1 hfits
    rw [encode, List.flatMap_cons, ← encode] at hfuel ⊢
    -- Every field takes a byte at least, so the fuel lasts.
    obtain ⟨left, hleft, hstep⟩ := exists_fields?_encode hfirst hlimit hfuel
    rw [hstep, ih hrest hleft, Option.map_some]

end Messages

/-- **The fields of a message are read back from its bytes**, if every number in them fits. -/
theorem decode?_encode {depth : Nat} (hdepth : depth < groupLimit) (hfits : ∀ f ∈ fields, f.Fits) :
    decode? depth (encode fields) = some fields :=
  fields?_encode hfits (Nat.sub_pos_of_lt hdepth) (Nat.le_refl _)

end Wire

end Telemetry

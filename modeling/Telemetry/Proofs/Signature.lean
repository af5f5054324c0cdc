import Telemetry.Proofs.Text
import Telemetry.Server.Http

/-!
# Signatures are verified

What `Signature.sign` makes of a body, `Signature.verify` accepts, as a text and as the value of a
header: the digits of a signature are neither blank nor invisible, and they are read back as the
bytes of the digest.

Nothing else is accepted, except for blanks around the digits and letters in upper case. Since a
text that verifies has exactly 64 characters that are not blank (`countP_of_verify`), no text
verifies that has more or fewer of them (`verifies_exactly`).
-/

namespace Telemetry

namespace Signature

variable {key : String} {body : ByteArray}

/-- A signature is the digest in hexadecimal digits. -/
theorem toList_sign (key : String) (body : ByteArray) :
    (sign key body).toList = Hex.encode (Hmac.digest key.toUTF8 body) := String.toList_ofList

/-- A signature is written in digits. -/
theorem exists_digit_of_mem_sign {c : Char} (h : c ∈ (sign key body).toList) :
    ∃ n < 16, c = Hex.digit n :=
  Hex.exists_digit_of_mem_encode (toList_sign key body ▸ h)

/-- No character of a signature is blank, so trimming takes nothing off it. -/
theorem isBlank_of_mem_sign {c : Char} (h : c ∈ (sign key body).toList) : isBlank c = false := by
  obtain ⟨n, hn, rfl⟩ := exists_digit_of_mem_sign h
  exact Hex.isBlank_digit hn

/-- A signature verifies. -/
theorem verify_sign (key : String) (body : ByteArray) : verify key body (sign key body) = true := by
  rw [verify, Text.trim_of_forall fun c hc => isBlank_of_mem_sign hc, toList_sign,
    Hex.decode?_encode]
  exact beq_self_eq_true _

/-! ## Nothing else verifies -/

/-- A signature has two digits for each of its 32 bytes. -/
theorem length_toList_sign (key : String) (body : ByteArray) :
    (sign key body).toList.length = 64 := by
  rw [toList_sign, Hex.length_encode, Hmac.length_digest]

/-- A text verifies if it is the signature once it is trimmed and in lower case. -/
theorem verify_iff {s : String} :
    verify key body s = true ↔ (Text.trim s).toList.map Char.toLower = (sign key body).toList := by
  rw [toList_sign, ← Hex.decode?_eq_some_iff, verify]
  cases Hex.decode? (Text.trim s).toList with
  | none => exact iff_of_false Bool.false_ne_true nofun
  | some bytes => rw [beq_iff_eq, Option.some.injEq]

/-- What is the signature in lower case is not blank anywhere. -/
theorem isBlank_of_map_toLower {core : List Char}
    (h : core.map Char.toLower = (sign key body).toList) : ∀ c ∈ core, isBlank c = false := by
  intro c hc
  rw [← Text.isBlank_toLower]
  exact isBlank_of_mem_sign (h ▸ List.mem_map_of_mem hc)

/-- A text verifies if there are only blanks around something that is the signature in lower
case. -/
theorem verify_iff_around {s : String} :
    verify key body s = true ↔ ∃ before core behind, s.toList = before ++ (core ++ behind) ∧
      (∀ c ∈ before, isBlank c = true) ∧ (∀ c ∈ behind, isBlank c = true) ∧
      core.map Char.toLower = (sign key body).toList := by
  rw [verify_iff]
  constructor
  · intro h
    obtain ⟨before, behind, hs, hbefore, hbehind⟩ := Text.exists_stripBoth_eq isBlank s.toList
    rw [Text.trim, String.toList_ofList] at h
    exact ⟨before, _, behind, hs, hbefore, hbehind, h⟩
  · rintro ⟨before, core, behind, hs, hbefore, hbehind, hcore⟩
    rw [Text.trim, String.toList_ofList, hs,
      Text.stripBoth_append hbefore (isBlank_of_map_toLower hcore) hbehind]
    exact hcore

/-- A text that verifies has as many characters that are not blank as a signature. -/
theorem countP_of_verify {s : String} (h : verify key body s = true) :
    s.toList.countP (fun c => !isBlank c) = 64 := by
  obtain ⟨before, core, behind, hs, hbefore, hbehind, hcore⟩ := verify_iff_around.1 h
  have hnone : ∀ {cs : List Char}, (∀ c ∈ cs, isBlank c = true) →
      cs.countP (fun c => !isBlank c) = 0 := fun hcs =>
    List.countP_eq_zero.2 fun c hc => by simp [hcs c hc]
  have hall : core.countP (fun c => !isBlank c) = core.length :=
    List.countP_eq_length.2 fun c hc => by simp [isBlank_of_map_toLower hcore c hc]
  have hlength : core.length = 64 := by
    rw [← length_toList_sign key body, ← hcore, List.length_map]
  rw [hs, List.countP_append, List.countP_append, hnone hbefore, hnone hbehind, hall, hlength]

/-- Of two texts that verify, the longer one has only blanks more. -/
theorem blank_of_verify {before s behind : String} (hs : verify key body s = true)
    (haround : verify key body (before ++ s ++ behind) = true) :
    Text.isAllBlank before = true ∧ Text.isAllBlank behind = true := by
  have hcount := countP_of_verify haround
  rw [String.toList_append, String.toList_append, List.countP_append, List.countP_append,
    countP_of_verify hs] at hcount
  have hblank : ∀ {t : String}, t.toList.countP (fun c => !isBlank c) = 0 →
      Text.isAllBlank t = true := fun ht =>
    List.all_eq_true.2 fun c hc => by simpa using List.countP_eq_zero.1 ht c hc
  exact ⟨hblank (by omega), hblank (by omega)⟩

/-- What verifies is as long as a signature. -/
theorem length_trim_of_verify {s : String} (h : verify key body s = true) :
    (Text.trim s).toList.length = 64 := by
  rw [← length_toList_sign key body, ← verify_iff.1 h, List.length_map]

/-- Which texts verify for a body under a key: the signature, up to blanks around it and the case of
its letters, and therefore nothing that is shorter or longer or no text in base sixteen. -/
structure VerifiesExactly (key : String) (body : ByteArray) : Prop where
  trimmed : ∀ s, verify key body s = true ↔ (Text.trim s).toLower = sign key body
  /-- The same without mention of trimming. -/
  around : ∀ s, verify key body s = true ↔ ∃ before core behind, s = before ++ core ++ behind ∧
    Text.isAllBlank before = true ∧ Text.isAllBlank behind = true ∧
    core.toLower = sign key body
  signature : verify key body (sign key body) = true
  /-- More than blanks have been cut off a text that verifies. -/
  truncated : ∀ before s behind, verify key body (before ++ s ++ behind) = true →
    ¬ (Text.isAllBlank before = true ∧ Text.isAllBlank behind = true) → verify key body s = false
  /-- More than blanks have been added to a text that verifies. -/
  extended : ∀ before s behind, verify key body s = true →
    ¬ (Text.isAllBlank before = true ∧ Text.isAllBlank behind = true) →
    verify key body (before ++ s ++ behind) = false
  /-- The blanks at the ends apart, there are not 64 characters, for instance an odd number. -/
  otherLength : ∀ s, (Text.trim s).length ≠ 64 → verify key body s = false
  notHexadecimal : ∀ s, ∀ c ∈ (Text.trim s).toList, c ∉ "0123456789abcdefABCDEF".toList →
    verify key body s = false

/-- **A text verifies exactly if it is the signature**, up to blanks around it and the case of its
letters. -/
theorem verifies_exactly (key : String) (body : ByteArray) : VerifiesExactly key body where
  trimmed s := by rw [verify_iff, ← String.toList_inj, Text.toList_toLower]
  around s := by
    rw [verify_iff_around]
    constructor
    · rintro ⟨before, core, behind, hs, hbefore, hbehind, hcore⟩
      refine ⟨String.ofList before, String.ofList core, String.ofList behind, ?_, ?_, ?_, ?_⟩
      · rw [← String.ofList_append, ← String.ofList_append, List.append_assoc, ← hs,
          String.ofList_toList]
      · rw [Text.isAllBlank, String.toList_ofList]
        exact List.all_eq_true.2 hbefore
      · rw [Text.isAllBlank, String.toList_ofList]
        exact List.all_eq_true.2 hbehind
      · rw [← String.toList_inj, Text.toList_toLower, String.toList_ofList, hcore]
    · rintro ⟨before, core, behind, rfl, hbefore, hbehind, hcore⟩
      refine ⟨before.toList, core.toList, behind.toList, ?_, List.all_eq_true.1 hbefore,
        List.all_eq_true.1 hbehind, ?_⟩
      · rw [String.toList_append, String.toList_append, List.append_assoc]
      · rw [← hcore, Text.toList_toLower]
  signature := verify_sign key body
  truncated before s behind haround hmore :=
    Bool.eq_false_iff.2 fun hs => hmore (blank_of_verify hs haround)
  extended before s behind hs hmore :=
    Bool.eq_false_iff.2 fun haround => hmore (blank_of_verify hs haround)
  otherLength s hlength := by
    refine Bool.eq_false_iff.2 fun hs => hlength ?_
    rw [← String.length_toList]
    exact length_trim_of_verify hs
  -- Every character that verifies is, in lower case, a digit of the signature.
  notHexadecimal s c hc hdigit := by
    refine Bool.eq_false_iff.2 fun hs => hdigit ?_
    obtain ⟨n, hn, hlower⟩ := exists_digit_of_mem_sign (verify_iff.1 hs ▸ List.mem_map_of_mem hc)
    refine Hex.mem_digits_of_value? (n := n) ?_
    rw [← Hex.value?_toLower, hlower, Hex.value?_digit hn]

end Signature

namespace Request

/-- A text of visible characters is read back from its bytes. -/
theorem visibleText?_bytes {s : String} (h : ∀ c ∈ s.toList, 32 ≤ c.toNat ∧ c.toNat ≤ 126) :
    visibleText? s.toUTF8.data.toList = some s := by
  have hascii : ∀ c ∈ s.toList, c.toNat < 0x80 := fun c hc => by
    have := h c hc
    omega
  -- Visible characters are ASCII, so bytes and characters are the same.
  have hbytes := (Json.toList_toUTF8 s).trans (Json.bytesOf_of_ascii hascii)
  have hvisible : (s.toList.map fun c => UInt8.ofNat c.toNat).all
      (fun b => b == 9 || (32 ≤ b && b ≤ 126)) = true := by
    rw [List.all_map, List.all_eq_true]
    intro c hc
    obtain ⟨hlow, hhigh⟩ := h c hc
    have hnat : (UInt8.ofNat c.toNat).toNat = c.toNat := by
      rw [UInt8.toNat_ofNat', Nat.mod_eq_of_lt (by omega)]
    simp only [Function.comp_apply, Bool.or_eq_true, Bool.and_eq_true, decide_eq_true_eq,
      UInt8.le_iff_toNat_le, hnat]
    exact .inr ⟨hlow, hhigh⟩
  have hback : (s.toList.map fun c => UInt8.ofNat c.toNat).map (fun b => Char.ofNat b.toNat)
      = s.toList := by
    rw [List.map_map]
    calc s.toList.map ((fun b => Char.ofNat b.toNat) ∘ fun c => UInt8.ofNat c.toNat)
        = s.toList.map id := List.map_congr_left fun c hc =>
          Json.ofNat_toNat_ofNat (hascii c hc)
      _ = s.toList := List.map_id _
  rw [visibleText?, hbytes, if_pos hvisible, hback, String.ofList_toList]

end Request

namespace Http

/-- The bytes of a signature are the value of a header that verifies. -/
theorem verifies_sign (key : String) (body : ByteArray) :
    verifies key body (Signature.sign key body).toUTF8.data.toList = true := by
  have hvisible : ∀ c ∈ (Signature.sign key body).toList, 32 ≤ c.toNat ∧ c.toNat ≤ 126 := by
    intro c hc
    obtain ⟨n, hn, rfl⟩ := Signature.exists_digit_of_mem_sign hc
    exact Hex.toNat_digit hn
  rw [verifies, Request.visibleText?_bytes hvisible, Option.any_some]
  exact Signature.verify_sign key body

end Http

end Telemetry

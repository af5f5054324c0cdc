import Telemetry.Proofs.Server.Http
import Telemetry.Proofs.Signature

/-!
# A key does not change what is served

Two servers with the same store, one with a key and one without, are asked the same. What the check
lets pass, both answer alike and with the same store behind it (`Transparent`): the answers differ
in the signature alone, which stands under JSON contents and verifies. What the check refuses is
answered with the same response over every store, so that nothing of a store has been asked.

The contents of an answer without a body are not in JSON (`text_of_isRead`); a signature therefore
always signs the bytes that are sent.
-/

namespace Telemetry

namespace Response

theorem header?_signature (response : Response) :
    response.header? Signature.header = response.signature := by
  obtain ⟨status, content, allow, signature, preflight, headersOnly⟩ := response
  cases content <;> cases allow <;> cases signature <;> cases preflight <;> rfl

theorem header?_contentType (response : Response) :
    response.header? "content-type" = response.content.mediaType := by
  obtain ⟨status, content, allow, signature, preflight, headersOnly⟩ := response
  cases content with
  | text _ | json _ => rfl
  | nothing => cases allow <;> cases signature <;> cases preflight <;> rfl

/-- A signature stands in its own header. -/
theorem header?_with_signature (response : Response) (signature : Option String) {name : String}
    (h : name ≠ Signature.header) :
    { response with signature := signature }.header? name = response.header? name := by
  have hother : ∀ value,
      (optional "hashsha256" value).find? (fun field => field.1 = name) = none := by
    rintro (_ | value)
    · rfl
    · exact List.find?_cons_of_neg (by simpa using fun hname => h hname.symm)
  simp only [header?, headers, List.find?_append, hother, Option.or_none]

end Response

namespace Content

/-- The media type of JSON, and no other, starts like this. -/
theorem exists_json_iff {content : Content} :
    (∃ s, content = .json s) ↔
      ∃ type, content.mediaType = some type ∧ "application/json".toList <+: type.toList := by
  cases content with
  | nothing => simp [mediaType]
  | json s => exact ⟨fun _ => ⟨_, rfl, List.prefix_refl _⟩, fun _ => ⟨s, rfl⟩⟩
  | text s =>
    constructor
    · rintro ⟨_, h⟩
      cases h
    · rintro ⟨type, ⟨⟩, hprefix⟩
      exact absurd hprefix (by decide)

end Content

namespace Http

variable {σ : Type} [Store σ] {k : String} {r : Request} {s : σ}

/-- A resource that is only read answers in text. -/
theorem text_of_isRead {resource : Resource} (h : resource.isRead = true) {body : ByteArray}
    {content : Content} (hanswer : (Api.answer resource body s).1 = .ok content) :
    ∃ t, content = .text t := by
  have hmap : ∀ {α : Type} (x : Except StoreError α) (present : α → String),
      (x.map fun a => Content.text (present a)).mapError ApiError.ofStore = .ok content →
      ∃ t, content = .text t := by
    rintro α (e | a) present ⟨⟩
    exact ⟨_, rfl⟩
  -- What is read without a body is answered as a text, so it is never signed.
  cases resource with
  | listing | ping => exact hmap _ _ hanswer
  | valuePath kind name =>
    change Api.lookUp Api.asText s (Api.valueParameters kind name) = .ok content at hanswer
    cases hquery : Api.valueParameters kind name with
    | error e =>
      rw [hquery] at hanswer
      cases hanswer
    | ok query =>
      rw [hquery] at hanswer
      exact hmap (Store.get s query.1 query.2) Metric.valueText hanswer
  | update | updates | updatePath _ _ _ | value => cases h

/-- Without a key nothing is signed. -/
theorem signature_serve_none (r : Request) (s : σ) : (serve none r s).1.signature = none := by
  cases course_serve none r s with
  | preflight _ hresponse _ =>
    rw [hresponse]
    rfl
  | refused _ hkey _ _ _ => cases hkey
  | unserved _ _ _ hresponse _ => rw [hresponse]; rfl
  | @answered resource _ _ _ hresponse _ =>
    rw [hresponse, signedBy_none]
    cases (Api.answer resource r.body s).1 <;> rfl

/-- Contents in JSON are always sent. -/
theorem headersOnly_of_json {t : String} (h : (serve none r s).1.content = .json t) :
    (serve none r s).1.headersOnly = false := by
  cases course_serve none r s with
  | preflight _ hresponse _ =>
    rw [hresponse]
    rfl
  | refused _ hkey _ _ _ => cases hkey
  | unserved _ _ _ hresponse _ =>
    rw [hresponse]
    rfl
  | @answered resource _ hallows _ hresponse _ =>
    rw [hresponse, signedBy_none] at h ⊢
    -- a request for the headers alone is one for a resource that answers in text
    by_cases hhead : r.method = .head
    · have hread : resource.isRead = true := by
        rw [hhead] at hallows
        exact hallows
      cases hanswer : (Api.answer resource r.body s).1 with
      | error e =>
        rw [hanswer] at h
        cases h
      | ok content =>
        obtain ⟨text, rfl⟩ := text_of_isRead hread hanswer
        rw [hanswer] at h
        cases h
    · exact decide_eq_false hhead

/-- A key changes nothing about a request but the signature of its answer. -/
structure Transparent (k : String) (r : Request) (s : σ) : Prop where
  next : (serve (some k) r s).2 = (serve none r s).2
  status : (serve (some k) r s).1.status = (serve none r s).1.status
  body : (serve (some k) r s).1.body = (serve none r s).1.body
  headers : ∀ name, name ≠ Signature.header →
    (serve (some k) r s).1.header? name = (serve none r s).1.header? name
  /-- The answers in JSON are the ones that are signed. -/
  signed_iff : ((serve (some k) r s).1.header? Signature.header).isSome = true ↔
    ∃ type, (serve (some k) r s).1.header? "content-type" = some type ∧
      "application/json".toList <+: type.toList
  /-- The signature is one of the bytes that are sent. -/
  verifies : ∀ signature, (serve (some k) r s).1.header? Signature.header = some signature →
    Signature.verify k (serve (some k) r s).1.body signature = true

/-- What is signed is signed for its contents in JSON. -/
theorem signature_signed_eq_some_iff {response : Response} (hunsigned : response.signature = none)
    {signature : String} :
    (signed k response).signature = some signature ↔
      ∃ t, response.content = .json t ∧ Signature.sign k t.toUTF8 = signature := by
  unfold signed
  cases hcontent : response.content with
  | nothing | text _ => simp [hunsigned]
  | json t => simp

/-- A server that admits a request answers it as a server without a key does, and signs the answer.
-/
theorem transparent_of_admits (hk : k ≠ "") (h : admits (some k) r = true) (s : σ) :
    Transparent k r s := by
  have hsignature : ∀ signature, (serve (some k) r s).1.signature = some signature ↔
      ∃ t, (serve none r s).1.content = .json t ∧ Signature.sign k t.toUTF8 = signature := by
    intro signature
    rw [serve_of_admits h, signedBy, effectiveKey_of_ne hk]
    exact signature_signed_eq_some_iff (signature_serve_none r s)
  obtain ⟨added, hadded⟩ := exists_signedBy_eq (some k) (serve none r s).1
  have hresponse : (serve (some k) r s).1 = { (serve none r s).1 with signature := added } := by
    rw [serve_of_admits h, hadded]
  have hcontent : (serve (some k) r s).1.content = (serve none r s).1.content := by rw [hresponse]
  have hbody : (serve (some k) r s).1.body = (serve none r s).1.body := by
    rw [hresponse]
    rfl
  -- Everything but the signature is taken over from the answer without a key.
  exact {
    next := by rw [serve_of_admits h]
    status := by rw [hresponse]
    body := hbody
    headers := fun name hname => by rw [hresponse, Response.header?_with_signature _ _ hname]
    signed_iff := by
      rw [Response.header?_signature, Response.header?_contentType, hcontent,
        ← Content.exists_json_iff, Option.isSome_iff_exists]
      simp only [hsignature]
      constructor
      · rintro ⟨-, t, ht, -⟩
        exact ⟨t, ht⟩
      · rintro ⟨t, ht⟩
        exact ⟨_, t, ht, rfl⟩
    verifies := by
      intro signature hheader
      rw [Response.header?_signature, hsignature] at hheader
      obtain ⟨t, ht, rfl⟩ := hheader
      have hsent : (serve none r s).1.body = t.toUTF8 := by
        rw [Response.body, headersOnly_of_json ht, if_neg Bool.false_ne_true, ht, Content.bytes]
      rw [hbody, hsent]
      exact Signature.verify_sign k _ }

end Http

open Http

/-- **The check of signatures is transparent to what it accepts.** With a key, a request whose body
is not too long and whose first signature, if it has one, verifies is served as without a key; a
request whose first signature does not verify is answered before the store is known. -/
theorem integrity_check_transparent (k : String) (r : Request) (hk : k ≠ "") :
    (r.body.size ≤ signedBodyLimit →
      (∀ value, r.header? Signature.header = some value → verifies k r.body value = true) →
      ∀ (σ : Type) [Store σ] (s : σ), Transparent k r s) ∧
    ∀ value, r.header? Signature.header = some value → verifies k r.body value = false →
      ∃ response : Response, (r.method ≠ .options → response.status = 400) ∧
        ∀ (σ : Type) [Store σ] (s : σ), serve (some k) r s = (response, s) := by
  constructor
  · intro hsize hverify σ _ s
    refine transparent_of_admits hk (admits_iff.2 fun key hkey => ?_) s
    rw [effectiveKey_of_ne hk] at hkey
    obtain rfl := Option.some.inj hkey
    exact refusal?_eq_none_iff.2 ⟨hsize, hverify⟩
  -- The request may be too long as well, and then it is refused for that.
  · intro value hheader hforged
    cases hrefusal : refusal? k r with
    | none =>
      have hpass := (refusal?_eq_none_iff.1 hrefusal).2 value hheader
      exact absurd hpass (by simp [hforged])
    | some text =>
      exact ⟨refusedWith r text, status_refusedWith,
        fun σ _ s => serve_of_refused (effectiveKey_of_ne hk) hrefusal s⟩

/-- A batch under its signature is served as without a key, and under a text that is no signature
it is refused whatever the store is. -/
theorem signed_and_forged_batch :
    (∀ (σ : Type) [Store σ] (s : σ),
      Transparent "k" ⟨.post, "/updates/", [("HashSHA256",
        (Signature.sign "k" "[]".toUTF8).toUTF8.data.toList)], "[]".toUTF8⟩ s) ∧
    ∃ response : Response, response.status = 400 ∧ ∀ (σ : Type) [Store σ] (s : σ),
      serve (some "k") ⟨.post, "/updates/", [("HashSHA256", [48])], "[]".toUTF8⟩ s
        = (response, s) := by
  -- The signature is generalized, so that nothing of it is computed.
  have hsigned : ∀ value, verifies "k" "[]".toUTF8 value = true → ∀ (σ : Type) [Store σ] (s : σ),
      Transparent "k" ⟨.post, "/updates/", [("HashSHA256", value)], "[]".toUTF8⟩ s := by
    intro value hverify
    have hsize : "[]".toUTF8.size ≤ signedBodyLimit := by decide
    have hname : String.ofList ("HashSHA256".toList.map Char.toLower) = Signature.header := by
      decide
    refine (integrity_check_transparent "k" _ (by decide)).1 hsize fun first hfirst => ?_
    simp only [Request.header?, Request.headerValues, List.filter_cons, hname] at hfirst
    obtain rfl : value = first := by simpa using hfirst
    exact hverify
  refine ⟨hsigned _ (verifies_sign "k" _), ?_⟩
  obtain ⟨response, hstatus, hserve⟩ := (integrity_check_transparent "k"
    ⟨.post, "/updates/", [("HashSHA256", [48])], "[]".toUTF8⟩ (by decide)).2 [48] (by decide)
    (by decide)
  exact ⟨response, hstatus nofun, hserve⟩

end Telemetry

import Telemetry.Server.Http

/-!
# The course of a request

A request takes one of four courses, which `Course` names and `course_serve` finds: it asks what is
allowed, the check refuses it, nothing serves it, or its resource answers. In the first three the
store is left as it was.

A refused request is answered without a look at the store (`serve_of_refused`), and one that the
check lets pass is answered as a server without a key answers it, up to the signature
(`serve_of_admits`).
-/

namespace Telemetry

/-- Metrics are taken in by POST, and by POST only. -/
theorem Resource.allows_iff_of_isUpdate {resource : Resource} (h : resource.isUpdate = true)
    {method : Method} : resource.allows method = true ↔ method = .post := by
  have hread : resource.isRead = false := by
    cases resource with
    | update | updates | updatePath _ _ _ => rfl
    | listing | ping | value | valuePath _ _ => cases h
  cases method <;> simp [allows, hread]

namespace Http

variable {σ : Type} {key : Option String} {k text : String} {r : Request}

/-! ## The check -/

theorem effectiveKey_of_ne (h : k ≠ "") : effectiveKey (some k) = some k := by
  simp [effectiveKey, h]

/-- The check of a key lets a request pass if its body is not too long and its first signature, if
there is one, verifies. -/
theorem refusal?_eq_none_iff :
    refusal? k r = none ↔
      r.body.size ≤ signedBodyLimit ∧
        ∀ value, r.header? Signature.header = some value → verifies k r.body value = true := by
  unfold refusal?
  -- The length is looked at before the signature, and a missing signature is as good as a right
  -- one.
  by_cases hsize : signedBodyLimit < r.body.size
  · rw [if_pos hsize]
    simp only [reduceCtorEq, false_iff, not_and]
    omega
  · rw [if_neg hsize]
    cases hheader : r.header? Signature.header with
    | none => simp; omega
    | some value =>
      cases hvisible : Request.visibleText? value with
      | none => simp [verifies, hvisible]
      | some signature =>
        by_cases hverify : Signature.verify k r.body signature = true
        · simp [verifies, hvisible, hverify]; omega
        · simp [verifies, hvisible, hverify]

/-- A request is admitted if the check with the key in effect refuses nothing. -/
theorem admits_iff :
    admits key r = true ↔ ∀ k, effectiveKey key = some k → refusal? k r = none := by
  unfold admits
  cases effectiveKey key <;> simp

/-- Without a key every request passes. -/
@[simp] theorem admits_none (r : Request) : admits none r = true := rfl

/-- A request is refused by a key, or it passes. -/
theorem refused_or_admits (key : Option String) (r : Request) :
    (∃ k text, effectiveKey key = some k ∧ refusal? k r = some text) ∨ admits key r = true := by
  unfold admits
  cases hkey : effectiveKey key with
  | none => exact .inr rfl
  | some k =>
    cases hrefusal : refusal? k r with
    | none => exact .inr (by simp [hrefusal])
    | some text => exact .inl ⟨k, text, rfl, hrefusal⟩

/-! ## Signing -/

/-- An answer as a server with or without a key sends it. -/
def signedBy (key : Option String) (response : Response) : Response :=
  match effectiveKey key with
  | none => response
  | some k => signed k response

@[simp] theorem signedBy_none (response : Response) : signedBy none response = response := rfl

/-- What a signature is put to is left alone by it. -/
theorem exists_signedBy_eq (key : Option String) (response : Response) :
    ∃ signature, signedBy key response = { response with signature := signature } := by
  unfold signedBy signed
  split
  · exact ⟨response.signature, rfl⟩
  · split
    · exact ⟨_, rfl⟩
    · exact ⟨response.signature, rfl⟩

theorem status_signedBy (key : Option String) (response : Response) :
    (signedBy key response).status = response.status := by
  obtain ⟨signature, h⟩ := exists_signedBy_eq key response
  rw [h]

theorem body_signedBy (key : Option String) (response : Response) :
    (signedBy key response).body = response.body := by
  obtain ⟨signature, h⟩ := exists_signedBy_eq key response
  rw [h]
  rfl

/-- Only contents in JSON are signed. -/
theorem signedBy_of_not_json {response : Response} (h : ∀ s, response.content ≠ .json s) :
    signedBy key response = response := by
  unfold signedBy signed
  split
  · rfl
  · split
    · next s hs => exact absurd hs (h s)
    · rfl

/-- Whether the contents are sent does not matter to a signature. -/
theorem signedBy_with_headersOnly (key : Option String) (response : Response) (b : Bool) :
    { signedBy key response with headersOnly := b }
      = signedBy key { response with headersOnly := b } := by
  obtain ⟨status, content, allow, signature, preflight, headersOnly⟩ := response
  unfold signedBy signed
  split
  · rfl
  · cases content <;> rfl

/-- A request that is admitted is answered by the handler, and the answer is signed. -/
theorem guarded_of_admits (h : admits key r = true) (s : σ) (inner : Unit → Response × σ) :
    guarded key r s inner = (signedBy key (inner ()).1, (inner ()).2) := by
  have hpass := admits_iff.1 h
  unfold guarded signedBy
  cases hkey : effectiveKey key with
  | none => rfl
  | some k => simp only [hpass k hkey]

/-- A request that is refused does not reach the handler. -/
theorem guarded_of_refused (hkey : effectiveKey key = some k) (hrefusal : refusal? k r = some text)
    (s : σ) (inner : Unit → Response × σ) :
    guarded key r s inner = (.of 400 (.text text), s) := by
  unfold guarded
  simp only [hkey, hrefusal]

/-! ## The courses -/

/-- The answer to a request that the check refuses; its form still shows the path and the method,
but nothing of the store. -/
def refusedWith (r : Request) (text : String) : Response :=
  if r.method = .options then preflight (Resource.ofPath? r.path)
  else
    match Resource.ofPath? r.path with
    | some resource =>
      if resource.allows r.method then
        { Response.of 400 (.text text) with headersOnly := r.method = .head }
      else { Response.of 400 (.text text) with allow := some resource.allowed }
    | none => .of 400 (.text text)

/-- A refused request is told that it is a bad one. -/
theorem status_refusedWith (hmethod : r.method ≠ .options) : (refusedWith r text).status = 400 := by
  unfold refusedWith
  rw [if_neg hmethod]
  split
  · split <;> rfl
  · rfl

variable [Store σ]

/-- A request that the check refuses is answered without a look at the store. -/
theorem serve_of_refused (hkey : effectiveKey key = some k) (hrefusal : refusal? k r = some text)
    (s : σ) : serve key r s = (refusedWith r text, s) := by
  unfold serve refusedWith serveResource
  simp only [guarded_of_refused hkey hrefusal]
  by_cases hmethod : r.method = .options
  · simp only [if_pos hmethod]
  simp only [if_neg hmethod]
  cases Resource.ofPath? r.path with
  | none => rfl
  | some resource => cases hallows : resource.allows r.method <;> simp only [hallows] <;> rfl

/-- A request for a resource that has the method is answered by the resource if the check lets it
pass. -/
theorem serve_of_allows {resource : Resource} (hpath : Resource.ofPath? r.path = some resource)
    (hallows : resource.allows r.method = true) (hadmits : admits key r = true) (s : σ) :
    serve key r s =
      (signedBy key
        { respond (Api.answer resource r.body s).1 with headersOnly := r.method = .head },
        (Api.answer resource r.body s).2) := by
  have hmethod : r.method ≠ .options := by
    intro h
    rw [h] at hallows
    cases hallows
  simp only [serve, if_neg hmethod, hpath, serveResource, hallows, if_true,
    guarded_of_admits hadmits, signedBy_with_headersOnly]

/-- A path that is not known is answered as such if the check lets the request pass. -/
theorem serve_of_unknown (hmethod : r.method ≠ .options) (hpath : Resource.ofPath? r.path = none)
    (hadmits : admits key r = true) (s : σ) : serve key r s = (.of 404 .nothing, s) := by
  have hnothing : signedBy key (.of 404 .nothing) = .of 404 .nothing := signedBy_of_not_json nofun
  simp only [serve, if_neg hmethod, hpath, guarded_of_admits hadmits, hnothing]

/-- A metric or a batch that is taken in: the status and the bytes that are sent are those of the
resource. -/
theorem serve_update {resource : Resource} (hmethod : r.method = .post)
    (hpath : Resource.ofPath? r.path = some resource) (hupdate : resource.isUpdate = true)
    (hadmits : admits key r = true) (s : σ) :
    ∃ response, serve key r s = (response, (Api.answer resource r.body s).2) ∧
      response.status = (respond (Api.answer resource r.body s).1).status ∧
      response.body = (respond (Api.answer resource r.body s).1).content.bytes := by
  have hallows := (Resource.allows_iff_of_isUpdate hupdate).2 hmethod
  refine ⟨_, serve_of_allows hpath hallows hadmits s, status_signedBy key _, ?_⟩
  rw [body_signedBy, Response.body, hmethod]
  rfl

/-- The courses that a request can take to its answer and the store behind it. -/
inductive Course (key : Option String) (r : Request) (s : σ) (response : Response) (next : σ) : Prop
  /-- It asks what is allowed. -/
  | preflight (hmethod : r.method = .options)
      (hresponse : response = preflight (Resource.ofPath? r.path)) (hnext : next = s)
  /-- The check refuses it. -/
  | refused {k text : String} (hmethod : r.method ≠ .options) (hkey : effectiveKey key = some k)
      (hrefusal : refusal? k r = some text) (hresponse : response = refusedWith r text)
      (hnext : next = s)
  /-- There is no resource that has the method. -/
  | unserved {status : Nat} {allow : Option String} (hmethod : r.method ≠ .options)
      (hnone : ∀ resource, Resource.ofPath? r.path = some resource →
        resource.allows r.method = false)
      (hstatus : status = 404 ∨ status = 405)
      (hresponse : response = { Response.of status .nothing with allow }) (hnext : next = s)
  /-- The resource answers. -/
  | answered {resource : Resource} (hpath : Resource.ofPath? r.path = some resource)
      (hallows : resource.allows r.method = true) (hadmits : admits key r = true)
      (hresponse : response = signedBy key
        { respond (Api.answer resource r.body s).1 with headersOnly := r.method = .head })
      (hnext : next = (Api.answer resource r.body s).2)

/-- Every request takes one of the courses. -/
theorem course_serve (key : Option String) (r : Request) (s : σ) :
    Course key r s (serve key r s).1 (serve key r s).2 := by
  -- A preflight is answered before anything is checked.
  by_cases hmethod : r.method = .options
  · have hserve : serve key r s = (preflight (Resource.ofPath? r.path), s) := if_pos hmethod
    rw [hserve]
    exact .preflight hmethod rfl rfl
  rcases refused_or_admits key r with ⟨k, text, hkey, hrefusal⟩ | hadmits
  · rw [serve_of_refused hkey hrefusal]
    exact .refused hmethod hkey hrefusal rfl rfl
  have hnothing : ∀ status, signedBy key (.of status .nothing) = .of status .nothing :=
    fun status => signedBy_of_not_json nofun
  -- The check comes before the path and the method are looked at.
  cases hpath : Resource.ofPath? r.path with
  | none =>
    rw [serve_of_unknown hmethod hpath hadmits]
    exact .unserved hmethod (fun resource h => nomatch hpath.symm.trans h) (.inl rfl) rfl rfl
  | some resource =>
    cases hallows : resource.allows r.method with
    | true =>
      rw [serve_of_allows hpath hallows hadmits]
      exact .answered hpath hallows hadmits rfl rfl
    | false =>
      simp only [serve, if_neg hmethod, hpath, serveResource, hallows, Bool.false_eq_true, if_false,
        guarded_of_admits hadmits, hnothing]
      refine .unserved hmethod (fun other h => ?_) (.inr rfl) rfl rfl
      obtain rfl := Option.some.inj (hpath.symm.trans h)
      exact hallows

/-- A request that the check lets pass is answered as by a server without a key, and the answer is
signed. -/
theorem serve_of_admits (h : admits key r = true) (s : σ) :
    serve key r s = (signedBy key (serve none r s).1, (serve none r s).2) := by
  have hnothing : ∀ response : Response, response.content = .nothing →
      signedBy key response = response := fun response hcontent =>
    signedBy_of_not_json fun t ht => nomatch hcontent.symm.trans ht
  by_cases hmethod : r.method = .options
  · simp only [serve, if_pos hmethod, hnothing (preflight _) rfl]
  -- What has no content in JSON is not signed, so both answers are the same there.
  cases hpath : Resource.ofPath? r.path with
  | none =>
    rw [serve_of_unknown hmethod hpath h, serve_of_unknown hmethod hpath (admits_none r),
      hnothing (.of 404 .nothing) rfl]
  | some resource =>
    cases hallows : resource.allows r.method with
    | true =>
      rw [serve_of_allows hpath hallows h, serve_of_allows hpath hallows (admits_none r),
        signedBy_none]
    | false =>
      simp only [serve, if_neg hmethod, hpath, serveResource, hallows, Bool.false_eq_true, if_false,
        guarded_of_admits h, guarded_of_admits (admits_none r), signedBy_none,
        hnothing (.of 405 .nothing) rfl]
      exact Prod.ext (hnothing _ rfl).symm rfl

end Http

end Telemetry

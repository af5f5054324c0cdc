import Telemetry.Proofs.Server.Api
import Telemetry.Proofs.Server.Http
import Telemetry.Server.Rpc

/-!
# Refused requests

A request that is not answered with success leaves a store in memory as it was, whichever layer has
turned it away: the check of its signature, the routing, the decoding, the validation or the sums.
`Http.Accountable` puts together what a server over memory owes a request, and
`refused_request_changes_nothing` says that every request over HTTP gets it and that the calls of
the service keep to the same rule.
-/

namespace Telemetry

namespace Http

/-- Success is a status from 200 to 299. -/
theorem isSuccess_iff {response : Response} :
    response.isSuccess = true ↔ 200 ≤ response.status ∧ response.status < 300 := by
  simp [Response.isSuccess]

/-- What a server over a store in memory owes a request. -/
structure Accountable (key : Option String) (r : Request) (s : Snapshot) : Prop where
  /-- Nothing fails on the side of the server. -/
  status_lt : (serve key r s).1.status < 500
  unchanged : (serve key r s).1.isSuccess = false → (serve key r s).2 = s
  /-- A signature that does not verify is turned away. -/
  forged : ∀ k value, effectiveKey key = some k → r.method ≠ .options →
    r.header? Signature.header = some value → verifies k r.body value = false →
    (serve key r s).1.status = 400 ∧ (serve key r s).2 = s
  /-- Nothing but a POST to a resource that takes metrics in changes the store. -/
  reading : ¬ (r.method = .post ∧
      ∃ resource, Resource.ofPath? r.path = some resource ∧ resource.isUpdate = true) →
    (serve key r s).2 = s
  /-- Behind a success, everything that the request asked for is stored. -/
  applied : ∀ resource, r.method = .post → Resource.ofPath? r.path = some resource →
    resource.isUpdate = true → (serve key r s).1.isSuccess = true →
    ∃ metrics, Api.asked resource r.body = .ok metrics ∧ (∀ m ∈ metrics, m.validate = .ok ()) ∧
      s.applyAll metrics = .ok (serve key r s).2

variable {key : Option String} {r : Request} {s : Snapshot}

/-- A refused request is answered with a status of the client, and otherwise the store is what the
request asked for has been applied to. -/
theorem serve_outcome (key : Option String) (r : Request) (s : Snapshot) :
    (400 ≤ (serve key r s).1.status ∧ (serve key r s).1.status < 500 ∧ (serve key r s).2 = s) ∨
    (serve key r s).1.status = 200 ∧
      ((r.method = .options ∧ (serve key r s).2 = s) ∨
        ∃ resource metrics, Resource.ofPath? r.path = some resource ∧
          resource.allows r.method = true ∧ Api.asked resource r.body = .ok metrics ∧
          (∀ m ∈ metrics, m.validate = .ok ()) ∧ s.applyAll metrics = .ok (serve key r s).2) := by
  -- There are four courses; the store is touched in the last one only.
  cases course_serve key r s with
  | preflight hmethod hresponse hnext =>
    rw [hresponse, hnext]
    exact .inr ⟨rfl, .inl ⟨hmethod, rfl⟩⟩
  | refused hmethod _ _ hresponse hnext =>
    rw [hresponse, hnext, status_refusedWith hmethod]
    exact .inl ⟨Nat.le_refl _, by decide, rfl⟩
  | unserved _ _ hstatus hresponse hnext =>
    rw [hresponse, hnext]
    rcases hstatus with rfl | rfl
    · exact .inl (show 400 ≤ 404 ∧ 404 < 500 ∧ s = s from ⟨by decide, by decide, rfl⟩)
    · exact .inl (show 400 ≤ 405 ∧ 405 < 500 ∧ s = s from ⟨by decide, by decide, rfl⟩)
  | @answered resource hpath hallows hadmits hresponse hnext =>
    rw [hresponse, hnext, status_signedBy]
    have houtcome := Api.outcome_answer resource r.body s
    generalize Api.answer resource r.body s = answer at houtcome ⊢
    cases houtcome with
    | failed he =>
      obtain ⟨hlow, hhigh⟩ := ApiError.status_lt he
      exact .inl ⟨hlow, hhigh, rfl⟩
    | done hasked hvalid happly =>
      exact .inr ⟨rfl, .inr ⟨resource, _, hpath, hallows, hasked, hvalid, happly⟩⟩

/-- Every request can be accounted for, part by part. -/
theorem accountable (key : Option String) (r : Request) (s : Snapshot) : Accountable key r s where
  status_lt := by
    rcases serve_outcome key r s with ⟨-, h, -⟩ | ⟨h, -⟩
    · exact h
    · rw [h]
      decide
  unchanged := by
    intro hfail
    rcases serve_outcome key r s with ⟨-, -, h⟩ | ⟨h, -⟩
    · exact h
    · rw [Response.isSuccess, h] at hfail
      cases hfail
  forged := by
    intro k value hkey hmethod hheader hverify
    -- the check refuses the request, if not for its size then for its signature
    cases hrefusal : refusal? k r with
    | none =>
      have hpass := (refusal?_eq_none_iff.1 hrefusal).2 value hheader
      rw [hverify] at hpass
      cases hpass
    | some text =>
      rw [serve_of_refused hkey hrefusal]
      exact ⟨status_refusedWith hmethod, rfl⟩
  reading := by
    intro hreading
    -- A request that reads is refused, is a preflight, or asks for no metric to be stored.
    rcases serve_outcome key r s with ⟨-, -, h⟩ | ⟨-, ⟨-, h⟩ | ⟨resource, metrics, hpath, hallows,
      hasked, -, happly⟩⟩
    · exact h
    · exact h
    · have hupdate : resource.isUpdate = false := by
        by_contra h
        have h := Bool.not_eq_false _ ▸ h
        exact hreading ⟨(Resource.allows_iff_of_isUpdate h).1 hallows, resource, hpath, h⟩
      have hnone : metrics = [] := by
        cases resource with
        | listing | ping | value | valuePath _ _ => exact (Except.ok.inj hasked).symm
        | update | updates | updatePath _ _ _ => cases hupdate
      rw [hnone] at happly
      exact (Except.ok.inj happly).symm
  applied := by
    intro resource hmethod hpath hupdate hsuccess
    rcases serve_outcome key r s with ⟨h, -, -⟩ | ⟨-, ⟨h, -⟩ | ⟨other, metrics, hother, -, hasked,
      hvalid, happly⟩⟩
    · have := (isSuccess_iff.1 hsuccess).2
      omega
    · exact nomatch hmethod.symm.trans h
    · obtain rfl := Option.some.inj (hpath.symm.trans hother)
      exact ⟨metrics, hasked, hvalid, happly⟩

end Http

namespace Rpc

/-- A call that fails leaves a store in memory as it was. -/
theorem unchanged_of_error {s next : Snapshot} {call : Call} {e : RpcError}
    (h : serve s call = (.error e, next)) : next = s := by
  -- A call fails before the store is asked, or the store refuses, and then it is as it was.
  cases call with
  | getMetric message | getMetrics => exact (Prod.ext_iff.1 h).2.symm
  | createMetric message =>
    simp only [serve, createMetric] at h
    cases hmetric : message.toMetric with
    | error cause =>
      simp only [hmetric] at h
      exact (Prod.ext_iff.1 h).2.symm
    | ok m =>
      simp only [hmetric, create_snapshot] at h
      rcases Memory.create_cases s m with ⟨stored, last, hcreate, -, -⟩ | ⟨cause, hcreate⟩
      · rw [hcreate] at h
        cases h
      · rw [hcreate] at h
        exact (Prod.ext_iff.1 h).2.symm
  | createMetrics messages =>
    simp only [serve, createMetrics] at h
    cases hmetrics : messages.mapM WireMetric.toMetric with
    | error cause =>
      simp only [hmetrics] at h
      exact (Prod.ext_iff.1 h).2.symm
    | ok metrics =>
      simp only [hmetrics, createAll_snapshot] at h
      cases hcreate : Memory.createAll s metrics with
      | ok last =>
        rw [hcreate] at h
        cases h
      | error cause =>
        rw [hcreate] at h
        exact (Prod.ext_iff.1 h).2.symm

end Rpc

/-- **A request that is refused changes nothing**, over HTTP and as a call of the service. -/
theorem refused_request_changes_nothing :
    (∀ (key : Option String) (r : Request) (s : Snapshot), Http.Accountable key r s) ∧
    ∀ (call : Rpc.Call) (s next : Snapshot) (e : RpcError),
      Rpc.serve s call = (.error e, next) → next = s :=
  ⟨Http.accountable, fun _ _ _ _ => Rpc.unchanged_of_error⟩

/-- A store with a counter that can take nothing more. -/
def fullStore : Snapshot := ⟨Series.ofList [("c", Int64.maxValue)], Series.empty⟩

/-- A gauge under a signature that is not its own. -/
def forgedUpdate : Request :=
  ⟨.post, "/update/", [("HashSHA256", "00".toUTF8.data.toList)],
    (Metric.gauge "g" Binary64.zero).toJson.toUTF8⟩

/-- A gauge and a counter, of which the full store takes the gauge only. -/
def tooMuch : Rpc.Call :=
  .createMetrics [.ofMetric (.gauge "g" Binary64.zero), .ofMetric (.counter "c" 1)]

/-- The gauge is stored where no signature is asked for, and turned away where one is; and the list
fails as a call. -/
theorem refused_request_forgedThenTooMuch :
    (Http.serve none forgedUpdate fullStore).1.status = 200 ∧
      (Http.serve (some "k") forgedUpdate fullStore).1.status = 400 ∧
      (Http.serve (some "k") forgedUpdate fullStore).2 = fullStore ∧
      (Rpc.serve fullStore tooMuch).1 = .error (Rpc.invalid (.counterOverflow "c")) ∧
      (Rpc.serve fullStore tooMuch).2 = fullStore := by
  obtain ⟨haccountable, hcalls⟩ := refused_request_changes_nothing
  have hheader : forgedUpdate.header? Signature.header = some "00".toUTF8.data.toList := by
    decide +kernel
  have hforged : Http.verifies "k" forgedUpdate.body "00".toUTF8.data.toList = false := by
    decide +kernel
  -- The same request is stored by a server without a key.
  obtain ⟨hstatus, hsame⟩ :=
    (haccountable (some "k") forgedUpdate fullStore).forged "k" _ rfl nofun hheader hforged
  have hfails : (Rpc.serve fullStore tooMuch).1 = .error (Rpc.invalid (.counterOverflow "c")) := by
    decide +kernel
  have hnext := hcalls tooMuch fullStore (Rpc.serve fullStore tooMuch).2 _ (Prod.ext hfails rfl)
  exact ⟨by decide +kernel, hstatus, hsame, hfails, hnext⟩

end Telemetry

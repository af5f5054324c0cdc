import Telemetry.Proofs.Store.Memory
import Telemetry.Server.Api

/-!
# What the resources do to a store in memory

`Outcome` names the two outcomes of a request for a resource: the metrics that it asks to store
are applied as one, or it fails and the snapshot is as it was. A failure always tells of the request
and never of the store (`BlamesRequest`), because a store in memory does not fail on its own.
-/

namespace Telemetry

namespace ApiError

/-- An error of a metric is no error of the server. -/
theorem ofMetric_ne_internal (e : MetricError) : ofMetric e ≠ internal := by
  cases e <;> exact nofun

/-- A failure of the store apart, an error is told with a status of the client. -/
theorem status_lt {e : ApiError} (h : e ≠ internal) : 400 ≤ e.status ∧ e.status < 500 := by
  cases e with
  | internal => exact absurd rfl h
  | badRequest _ | notFound _ | tooLarge => simp [status]

end ApiError

namespace Api

/-- If the computation fails, the request is to blame. -/
def BlamesRequest {α : Type} (x : Except ApiError α) : Prop := ∀ e, x = .error e → e ≠ .internal

namespace BlamesRequest

variable {α β ε : Type}

/-- A result blames nobody. -/
theorem ok (a : α) : BlamesRequest (.ok a) := nofun

/-- An error that is not internal blames the request. -/
theorem error {e : ApiError} (h : e ≠ .internal) :
    BlamesRequest (.error e : Except ApiError α) := by
  rintro _ ⟨⟩
  exact h

/-- What follows blames the request if either step does. -/
theorem bind {x : Except ApiError α} {f : α → Except ApiError β} (hx : BlamesRequest x)
    (hf : ∀ a, BlamesRequest (f a)) : BlamesRequest (x >>= f) := by
  cases x with
  | ok a => exact hf a
  | error e => exact error (hx e rfl)

/-- Errors that are read as ones of the request blame it. -/
theorem mapError {f : ε → ApiError} (hf : ∀ e, f e ≠ .internal) (x : Except ε α) :
    BlamesRequest (x.mapError f) := by
  cases x with
  | ok a => exact ok a
  | error e => exact error (hf e)

end BlamesRequest

/-- A body that is too long or cannot be read is the fault of the request. -/
theorem blamesRequest_decoded {α : Type} (read : ByteArray → Option α) (body : ByteArray) :
    BlamesRequest (decoded read body) := by
  refine .bind ?_ fun bytes => ?_
  · unfold limited
    split
    · exact .ok _
    · exact .error nofun
  · split
    · exact .ok _
    · exact .error nofun

/-- Parameters that cannot be read are the fault of the request. -/
theorem blamesRequest_updateParameters (kind name value : List Char) :
    BlamesRequest (updateParameters kind name value) :=
  have hparameter : ∀ label, ApiError.badParameter label ≠ .internal := nofun
  .bind (.mapError hparameter _) fun _ => .bind (.mapError hparameter _) fun _ =>
    .bind (.mapError hparameter _) fun _ => .mapError ApiError.ofMetric_ne_internal _

/-- Parameters that name no metric are the fault of the request. -/
theorem blamesRequest_valueParameters (kind name : List Char) :
    BlamesRequest (valueParameters kind name) :=
  have hparameter : ∀ label, ApiError.badParameter label ≠ .internal := nofun
  .bind (.mapError hparameter _) fun _ => .bind (.mapError hparameter _) fun _ =>
    .bind (.mapError ApiError.ofMetric_ne_internal _) fun _ => .ok _

/-- A body within the limit is what it is read as. -/
theorem decoded_of_le {α : Type} {read : ByteArray → Option α} {body : ByteArray} {a : α}
    (hsize : body.size ≤ bodyLimit) (hread : read body = some a) : decoded read body = .ok a := by
  simp only [decoded, limited, if_pos hsize, bind, Except.bind, hread]

/-- What is decoded has been read from a body within the limit. -/
theorem read_of_decoded {α : Type} {read : ByteArray → Option α} {body : ByteArray} {a : α}
    (h : decoded read body = .ok a) : body.size ≤ bodyLimit ∧ read body = some a := by
  by_cases hsize : body.size ≤ bodyLimit
  · simp only [decoded, limited, if_pos hsize, bind, Except.bind] at h
    split at h
    · next hread =>
      cases h
      exact ⟨hsize, hread⟩
    · cases h
  · simp only [decoded, limited, if_neg hsize, bind, Except.bind, reduceCtorEq] at h

/-! ## Writes -/

/-- What a store in memory answers to a metric. -/
theorem storeOne_ok (present : Metric → Content) (s : Snapshot) (m : Metric) :
    storeOne present s (.ok m) =
      (((Memory.create s m).1.map present).mapError ApiError.ofMetric,
        (Memory.create s m).2) := by
  unfold storeOne
  simp only [create_snapshot]
  cases (Memory.create s m).1 <;> rfl

/-- What a store in memory answers to a batch. -/
theorem storeAll_ok (s : Snapshot) (metrics : List Metric) :
    storeAll s (.ok metrics) =
      match Memory.createAll s metrics with
      | .ok next => (.ok (.json (confirmation metrics.length)), next)
      | .error e => (.error (.ofMetric e), s) := by
  unfold storeAll
  simp only [createAll_snapshot]
  cases Memory.createAll s metrics <;> rfl

/-- A request is carried out, and what it asks to store has been applied; or it fails, and nothing
has changed. -/
inductive Outcome (asked : Except ApiError (List Metric)) (s : Snapshot) :
    Except ApiError Content × Snapshot → Prop
  | done {content : Content} {metrics : List Metric} {next : Snapshot}
      (hasked : asked = .ok metrics) (hvalid : ∀ m ∈ metrics, m.validate = .ok ())
      (happly : s.applyAll metrics = .ok next) :
      Outcome asked s (.ok content, next)
  | failed {e : ApiError} (he : e ≠ .internal) : Outcome asked s (.error e, s)

/-- Storing one metric stores it, or fails and changes nothing. -/
theorem outcome_storeOne (present : Metric → Content) (s : Snapshot) {x : Except ApiError Metric}
    (h : BlamesRequest x) : Outcome (x.map fun m => [m]) s (storeOne present s x) := by
  cases x with
  | error e => exact .failed (h e rfl)
  | ok m =>
    rw [storeOne_ok]
    rcases Memory.create_cases s m with ⟨stored, next, hcreate, hvalid, happly⟩ | ⟨e, hcreate⟩
    · rw [hcreate]
      have happlyAll : s.applyAll [m] = .ok next := by
        rw [Snapshot.applyAll_singleton, happly]
        rfl
      exact .done rfl (List.forall_mem_singleton.2 hvalid) happlyAll
    · rw [hcreate]
      exact .failed (ApiError.ofMetric_ne_internal e)

/-- Storing a batch stores all of it, or fails and changes nothing. -/
theorem outcome_storeAll (s : Snapshot) {x : Except ApiError (List Metric)}
    (h : BlamesRequest x) : Outcome x s (storeAll s x) := by
  cases x with
  | error e => exact .failed (h e rfl)
  | ok metrics =>
    rw [storeAll_ok]
    cases hcreate : Memory.createAll s metrics with
    | error e => exact .failed (ApiError.ofMetric_ne_internal e)
    | ok next =>
      obtain ⟨hvalid, happly⟩ := Memory.createAll_eq_ok_iff.1 hcreate
      exact .done rfl hvalid happly

/-- A look at the store changes nothing. -/
theorem outcome_reading (s : Snapshot) {x : Except ApiError Content} (h : BlamesRequest x) :
    Outcome (.ok []) s (x, s) := by
  cases x with
  | error e => exact .failed (h e rfl)
  | ok content => exact .done rfl nofun rfl

/-- A metric that is not there is the fault of the request. -/
theorem blamesRequest_lookUp (present : Metric → Content) (s : Snapshot)
    {query : Except ApiError (String × Kind)} (h : BlamesRequest query) :
    BlamesRequest (lookUp present s query) := by
  refine .bind h fun ⟨name, kind⟩ => ?_
  show BlamesRequest (((Memory.get s name kind).map present).mapError ApiError.ofStore)
  unfold Memory.get
  cases s.get? name kind with
  | some m => exact .ok _
  | none => exact .error nofun

/-- Every resource over a store in memory comes to one of the two outcomes. -/
theorem outcome_answer (resource : Resource) (body : ByteArray) (s : Snapshot) :
    Outcome (asked resource body) s (answer resource body s) := by
  cases resource with
  | listing => exact .done rfl nofun rfl
  | ping => exact .done rfl nofun rfl
  | update => exact outcome_storeOne asJson s (blamesRequest_decoded _ _)
  | updates => exact outcome_storeAll s (blamesRequest_decoded _ _)
  | updatePath kind name value =>
    exact outcome_storeOne asText s (blamesRequest_updateParameters kind name value)
  | value => exact outcome_reading s (blamesRequest_lookUp asJson s (blamesRequest_decoded _ _))
  | valuePath kind name =>
    exact outcome_reading s
      (blamesRequest_lookUp asText s (blamesRequest_valueParameters kind name))

end Api

end Telemetry

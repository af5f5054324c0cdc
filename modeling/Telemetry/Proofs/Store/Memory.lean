import Telemetry.Proofs.Snapshot
import Telemetry.Store

/-!
# The store in memory

What single writes and batches do to a snapshot, and that a batch is its single writes or nothing.
-/

namespace Telemetry

/-! ## Writes to the store in memory

Whatever happens to a metric, `create_cases` names the two outcomes: it is accepted and the snapshot
grows by it, or it is refused and the snapshot is as it was. `createAll_eq_ok_iff` and
`createAll_cases` say the same of batches.
-/

namespace Memory

/-- A metric is stored if it is valid and its sum is in range. -/
theorem create_eq_ok_iff {s next : Snapshot} {m stored : Metric} :
    create s m = (.ok stored, next) ↔ m.validate = .ok () ∧ s.apply m = .ok (stored, next) := by
  unfold create
  cases hvalid : m.validate with
  | error e => simp
  | ok u =>
    simp only [Snapshot.put_eq_apply]
    cases s.apply m <;> simp [Prod.ext_iff]

/-- A metric is accepted, or the snapshot is as it was. -/
theorem create_cases (s : Snapshot) (m : Metric) :
    (∃ stored next, create s m = (.ok stored, next) ∧ m.validate = .ok () ∧
      s.apply m = .ok (stored, next)) ∨ ∃ e, create s m = (.error e, s) := by
  cases hcreate : create s m with
  | mk result next =>
  cases result with
  | ok stored => exact .inl ⟨stored, next, rfl, create_eq_ok_iff.1 hcreate⟩
  | error e =>
    have hnext : next = s := by
      unfold create at hcreate
      split at hcreate
      · rw [Snapshot.put_eq_apply] at hcreate
        split at hcreate <;> cases hcreate
        rfl
      · cases hcreate
        rfl
    exact .inr ⟨e, by rw [hnext]⟩

/-- A batch is stored if all its metrics are valid and no sum leaves the range. -/
theorem createAll_eq_ok_iff {s next : Snapshot} {metrics : List Metric} :
    createAll s metrics = .ok next ↔
      (∀ m ∈ metrics, m.validate = .ok ()) ∧ s.applyAll metrics = .ok next := by
  rw [← validateAll_eq_ok_iff]
  unfold createAll
  cases validateAll metrics <;> simp [bind, Except.bind]

end Memory

/-- A single metric at the store in memory. -/
theorem create_snapshot (s : Snapshot) (m : Metric) :
    Store.create s m = (StoreError.lift (Memory.create s m).1, (Memory.create s m).2) := rfl

/-- A batch at the store in memory. -/
theorem createAll_snapshot (s : Snapshot) (metrics : List Metric) :
    Store.createAll s metrics = Memory.answerAll s (Memory.createAll s metrics) := rfl

/-! ## Batches at the store in memory

A batch is the single writes of its metrics, or nothing. It is accepted exactly if each of its
metrics is and every single write would be, one after another from the same contents, and it leads
to what they lead to; otherwise the contents are as they were
(`batch_is_its_single_writes_or_nothing`).

Which error it is refused with does not depend on where the batch would have failed on the way: a
metric that is not accepted counts before a counter that leaves the range, even if it comes later
(`Memory.Refuses`).
-/

/-- Metrics written one by one: the answers, and the store after the last one. -/
def createEach {σ : Type} [Store σ] (s : σ) : List Metric → List (Except StoreError Metric) × σ
  | [] => ([], s)
  | m :: rest =>
    let (answer, next) := Store.create s m
    let (answers, last) := createEach next rest
    (answer :: answers, last)

namespace Memory

variable {s next : Snapshot} {m stored : Metric} {metrics rest : List Metric} {e : MetricError}

/-! ### Single writes -/

/-- The write after an accepted one starts from what that one has left. -/
theorem createEach_cons_of_ok (h : create s m = (.ok stored, next)) :
    createEach s (m :: rest)
      = (.ok stored :: (createEach next rest).1, (createEach next rest).2) := by
  rw [createEach, create_snapshot, h]
  rfl

/-- The write after a refused one goes on from what that one has left. -/
theorem createEach_cons_of_error (h : create s m = (.error e, next)) :
    createEach s (m :: rest)
      = (.error (.invalid e) :: (createEach next rest).1, (createEach next rest).2) := by
  rw [createEach, create_snapshot, h]
  rfl

/-- Single writes are all accepted, and lead to a snapshot, exactly if the batch of their metrics
leads there. -/
theorem createEach_iff_createAll :
    (∀ a ∈ (createEach s metrics).1, a.isOk = true) ∧ (createEach s metrics).2 = next ↔
      createAll s metrics = .ok next := by
  rw [createAll_eq_ok_iff]
  induction metrics generalizing s with
  | nil =>
    have hnothing : s.applyAll [] = .ok s := rfl
    simp [createEach, hnothing]
  | cons m rest ih =>
    rw [List.forall_mem_cons, Snapshot.applyAll_cons]
    obtain ⟨stored, mid, hcreate, hvalid, happly⟩ | ⟨e, hcreate⟩ := create_cases s m
    · have hstored : (Except.ok stored : Except StoreError Metric).isOk = true := rfl
      rw [createEach_cons_of_ok hcreate, List.forall_mem_cons, and_iff_right hstored,
        and_iff_right hvalid, happly]
      exact ih
    · rw [createEach_cons_of_error hcreate, List.forall_mem_cons]
      refine iff_of_false (fun h => nomatch h.1.1) ?_
      rintro ⟨⟨hvalid, -⟩, hall⟩
      -- what can be applied and is accepted would have been written
      cases happly : s.apply m with
      | error cause =>
        rw [happly] at hall
        cases hall
      | ok p =>
        have hok := create_eq_ok_iff.2 ⟨hvalid, happly⟩
        rw [hcreate] at hok
        cases hok

/-! ### Refusals -/

/-- Why a batch is refused: for its first metric that is not accepted, or, if each of them is, for
the first counter that leaves the range on the way from what is stored. -/
inductive Refuses (s : Snapshot) (metrics : List Metric) : MetricError → Prop
  | invalid {before : List Metric} {m : Metric} {e : MetricError}
      (first : IsFirstFault (fun _ m => m.validate ≠ .ok ()) metrics before m)
      (cause : m.validate = .error e) : Refuses s metrics e
  | overflow {before : List Metric} {m : Metric} (valid : ∀ m ∈ metrics, m.validate = .ok ())
      (first : IsFirstFault s.LeavesRange metrics before m) :
      Refuses s metrics (.counterOverflow m.id)

/-- A batch of valid metrics is refused by the first sum that leaves the range. -/
theorem refuses_iff_of_valid (hvalid : ∀ m ∈ metrics, m.validate = .ok ()) :
    Refuses s metrics e ↔ s.applyAll metrics = .error e := by
  rw [Snapshot.applyAll_eq_error_iff]
  constructor
  · rintro (⟨hfirst, hcause⟩ | ⟨-, hfirst⟩)
    · have herror := validateAll_eq_error_iff.2 ⟨_, _, hfirst, hcause⟩
      rw [validateAll_eq_ok_iff.2 hvalid] at herror
      cases herror
    · exact ⟨_, _, hfirst, rfl⟩
  · rintro ⟨before, m, hfirst, rfl⟩
    exact .overflow hvalid hfirst

/-- A batch with an invalid metric is refused by the first one of these, whatever the sums are. -/
theorem refuses_iff_of_invalid (hvalid : ¬ ∀ m ∈ metrics, m.validate = .ok ()) :
    Refuses s metrics e ↔ validateAll metrics = .error e := by
  rw [validateAll_eq_error_iff]
  constructor
  · rintro (⟨hfirst, hcause⟩ | ⟨hall, -⟩)
    · exact ⟨_, _, hfirst, hcause⟩
    · exact absurd hall hvalid
  · rintro ⟨before, m, hfirst, hcause⟩
    exact .invalid hfirst hcause

/-- A batch is refused with the error that `Refuses` names. -/
theorem createAll_eq_error_iff : createAll s metrics = .error e ↔ Refuses s metrics e := by
  have hcreate : createAll s metrics = (validateAll metrics).bind fun _ => s.applyAll metrics := rfl
  rw [hcreate]
  -- All metrics are looked at before the first one is applied, so invalid ones go before overflows.
  by_cases hvalid : ∀ m ∈ metrics, m.validate = .ok ()
  · rw [refuses_iff_of_valid hvalid, validateAll_eq_ok_iff.2 hvalid]
    rfl
  · rw [refuses_iff_of_invalid hvalid]
    cases hall : validateAll metrics with
    | ok u => exact absurd (validateAll_eq_ok_iff.1 hall) hvalid
    | error cause => rw [Except.bind, Except.error.injEq, Except.error.injEq]

end Memory

/-- **A batch is its single writes, or nothing.** For all contents and all metrics: a batch is
accepted exactly if each metric is and every single write of them is, in their order, and then it
leads to the same contents; otherwise the contents are as they were, and it is refused for its first
metric that is not accepted or else for the first counter that leaves the range. -/
theorem batch_is_its_single_writes_or_nothing (s : Snapshot) (metrics : List Metric) :
    ((Store.createAll s metrics).1 = .ok () ↔
      (∀ m ∈ metrics, m.validate = .ok ()) ∧ ∀ a ∈ (createEach s metrics).1, a.isOk = true) ∧
    ((Store.createAll s metrics).1 = .ok () →
      (Store.createAll s metrics).2 = (createEach s metrics).2) ∧
    ((Store.createAll s metrics).1 ≠ .ok () → (Store.createAll s metrics).2 = s) ∧
    ∀ e, (Store.createAll s metrics).1 = .error e ↔
      ∃ cause, e = .invalid cause ∧ Memory.Refuses s metrics cause := by
  simp only [← Memory.createAll_eq_error_iff]
  rw [createAll_snapshot]
  -- The batch decides: if it is accepted so is each of its writes, and if not, one of them is
  -- refused.
  cases hall : Memory.createAll s metrics with
  | ok next =>
    obtain ⟨haccepted, hlast⟩ := Memory.createEach_iff_createAll.2 hall
    have hvalid := (Memory.createAll_eq_ok_iff.1 hall).1
    refine ⟨iff_of_true rfl ⟨hvalid, haccepted⟩, fun _ => hlast.symm, fun h => absurd rfl h, ?_⟩
    exact fun e => iff_of_false nofun fun ⟨_, _, h⟩ => nomatch h
  | error cause =>
    refine ⟨iff_of_false nofun fun ⟨_, haccepted⟩ => ?_, nofun, fun _ => rfl, fun e => ?_⟩
    · have hok := Memory.createEach_iff_createAll.1 ⟨haccepted, rfl⟩
      rw [hall] at hok
      cases hok
    · constructor
      · rintro ⟨⟩
        exact ⟨cause, rfl, rfl⟩
      · rintro ⟨_, rfl, ⟨⟩⟩
        rfl

/-- A counter that leaves the range before a metric without a name. -/
example : (Store.createAll (Snapshot.mk (Series.empty.insert "c" Int64.maxValue) Series.empty)
    [Metric.counter "c" 1, Metric.counter "" 1]).1 = .error (.invalid .missingName) := by
  decide +kernel

end Telemetry

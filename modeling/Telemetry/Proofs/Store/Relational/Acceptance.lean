import Telemetry.Proofs.Store.Relational.Agreement
import Telemetry.Proofs.Store.Relational.Overflow

/-!
# Batches that one store accepts and the other refuses

Both stores check the running sums of a batch, but from different ends. The store in memory starts
from what it holds; the relational store folds the batch first, so its running sums start from zero
and what the tables hold is added later without a check. Near the ends of the range the two look at
different sums.

`batch_accepted_alike_iff` says exactly what each store accepts and over which batches they differ.
`accepts_differently_near_limits` shows a batch for each of the two ways to differ.
-/

namespace Telemetry

namespace Write

/-- On the way some counter leaves the range, from what a snapshot holds. -/
def OverflowsFrom (s : Snapshot) (w : Write) : Prop :=
  ∃ before, before <+: w.metrics ∧
    ∃ name, ¬ FitsInt64 ((s.count? name).getD 0 + deltaSum name before)

/-- Every metric of a write is accepted by itself. -/
def Valid (w : Write) : Prop := ∀ m ∈ w.metrics, m.validate = .ok ()

/-- A write does not overflow in memory if every sum on the way fits. -/
theorem not_overflowsFrom_iff {s : Snapshot} {w : Write} :
    ¬ w.OverflowsFrom s ↔
      ∀ before, before <+: w.metrics → ∀ name,
        FitsInt64 ((s.count? name).getD 0 + deltaSum name before) := by
  simp only [OverflowsFrom, not_exists, not_and, Decidable.not_not]

/-- Where a snapshot holds nothing but zeros for the counters of a write, the write leaves the range
exactly if it does so by itself. -/
theorem overflowsFrom_iff_of_zero {s : Snapshot} {w : Write}
    (hzero : ∀ m ∈ w.metrics, m.kind = .counter → s.sum m.id = 0) :
    w.OverflowsFrom s ↔ w.OverflowsItself := by
  rw [← not_iff_not, not_overflowsFrom_iff]
  simp only [OverflowsItself, not_exists, not_and, Decidable.not_not]
  refine forall₂_congr fun before hbefore => forall_congr' fun name => ?_
  by_cases hnone : entriesOf name .counter before = []
  · -- nothing is added to the counter, so both sums fit
    rw [deltaSum_eq_zero hnone, Int.add_zero, ← Snapshot.toInt_sum]
    exact iff_of_true (fitsInt64_toInt _) (fitsInt64_toInt 0)
  · obtain ⟨m, hm, rfl, hkind⟩ := entriesOf_ne_nil_iff.1 hnone
    rw [← Snapshot.toInt_sum, hzero m (hbefore.subset hm) hkind]
    exact iff_of_eq (congrArg FitsInt64 (Int.zero_add _))

end Write

/-! ## What each store accepts -/

/-- The store in memory accepts a write exactly if its metrics are valid and no counter leaves the
range on the way from what is stored. -/
theorem isOk_perform_snapshot_iff {s : Snapshot} {w : Write} :
    (w.perform s).1.isOk = true ↔ w.Valid ∧ ¬ w.OverflowsFrom s := by
  rw [Write.not_overflowsFrom_iff, Write.Valid, ← perform_isOk_iff]
  obtain ⟨result, next⟩ := w.perform s
  cases result <;> simp [Except.isOk, Except.toBool]

namespace Relational

/-- A relational store accepts a batch exactly if its metrics are valid and its own running sums do
not leave the range, whatever the tables hold. -/
theorem isOk_perform_batch_iff {t : Tables} {a : Arrangement} {metrics : List Metric} :
    ((serving t).perform a (.batch metrics)).1.isOk = true ↔
      (Write.batch metrics).Valid ∧ ¬ (Write.batch metrics).OverflowsItself := by
  by_cases hvalid : (Write.batch metrics).Valid
  · have hmetrics : ∀ m ∈ metrics, m.validate = .ok () := hvalid
    rw [and_iff_right hvalid, perform_batch hmetrics, Write.not_overflowsItself_iff, Write.metrics]
    cases fold metrics <;> simp [Except.isOk, Except.toBool]
  · obtain ⟨e, he⟩ := perform_of_invalid (t := t) (a := a) hvalid
    rw [he]
    exact iff_of_false Bool.false_ne_true fun h => hvalid h.1

/-- A batch that a relational store does not accept is refused, and nothing changes. -/
theorem perform_batch_of_not_isOk {t : Tables} {a : Arrangement} {metrics : List Metric}
    (h : ((serving t).perform a (.batch metrics)).1.isOk = false) :
    ∃ e, (serving t).perform a (.batch metrics) = (.error (.invalid e), serving t) := by
  by_cases hvalid : (Write.batch metrics).Valid
  · have hmetrics : ∀ m ∈ metrics, m.validate = .ok () := hvalid
    rw [perform_batch hmetrics] at h ⊢
    cases hfold : fold metrics with
    | error e => exact ⟨e, rfl⟩
    | ok totals =>
      rw [hfold] at h
      cases h
  · exact perform_of_invalid hvalid

/-! ## Where they differ -/

/-- Both stores accept a write, or neither does. -/
def AcceptedAlike (s : Snapshot) (r : Relational) (a : Arrangement) (w : Write) : Prop :=
  (w.perform s).1.isOk = true ↔ (r.perform a w).1.isOk = true

/-- **Batches and the two stores.** Let both hold the same contents. The store in memory accepts a
batch of valid metrics exactly if no counter leaves the range on the way from what is stored, the
relational store exactly if none does on the way from zero. So they differ over a valid batch
exactly if the range is left from one of the two ends only, and never over counters that are new or
zero. What a store does not accept it refuses as invalid, and nothing changes. -/
theorem batch_accepted_alike_iff {s : Snapshot} {r : Relational} (hsame : Holds s r)
    (a : Arrangement) (metrics : List Metric) :
    let w := Write.batch metrics
    ((w.perform s).1.isOk = true ↔ w.Valid ∧ ¬ w.OverflowsFrom s) ∧
    ((r.perform a w).1.isOk = true ↔ w.Valid ∧ ¬ w.OverflowsItself) ∧
    (AcceptedAlike s r a w ↔ (w.Valid → (w.OverflowsFrom s ↔ w.OverflowsItself))) ∧
    ((∀ m ∈ metrics, m.kind = .counter → s.sum m.id = 0) → AcceptedAlike s r a w) ∧
    ((w.perform s).1.isOk = false → ∃ e, w.perform s = (.error (.invalid e), s)) ∧
    ((r.perform a w).1.isOk = false → ∃ e, r.perform a w = (.error (.invalid e), r)) := by
  obtain ⟨rfl, -⟩ := hsame
  intro w
  have hmemory := isOk_perform_snapshot_iff (s := s) (w := w)
  have hrelational : ((serving (Tables.ofSnapshot s)).perform a w).1.isOk = true ↔
      w.Valid ∧ ¬ w.OverflowsItself := isOk_perform_batch_iff
  -- Both stores refuse invalid metrics, so they are compared on valid writes only.
  have halike : AcceptedAlike s (serving (Tables.ofSnapshot s)) a w ↔
      (w.Valid → (w.OverflowsFrom s ↔ w.OverflowsItself)) := by
    rw [AcceptedAlike, hmemory, hrelational, and_congr_right_iff, not_iff_not]
  refine ⟨hmemory, hrelational, halike, fun hzero => ?_, fun hrefused => ?_, ?_⟩
  · exact halike.2 fun _ => Write.overflowsFrom_iff_of_zero hzero
  · rcases perform_cases s w with ⟨answer, next, hw, -, -⟩ | hw
    · rw [hw] at hrefused
      cases hrefused
    · exact hw
  · exact perform_batch_of_not_isOk

/-- Two counters, one at the upper end of the range and one just below zero. -/
def nearLimits : List Write :=
  [.one (Metric.counter "c" Int64.maxValue), .one (Metric.counter "d" (-1))]

/-- The store in memory after these writes. -/
def memoryNearLimits : Snapshot := (History.run Snapshot.empty nearLimits).store

/-- The relational store after these writes. -/
def tablesNearLimits : Relational :=
  (connect Database.empty).writeAll (nearLimits.map fun w => (.sorted, w))

/-- The two stores hold the same at the start. -/
theorem holds_nearLimits : Holds memoryNearLimits tablesNearLimits where
  eq := by decide +kernel
  finite := by
    have hnone : memoryNearLimits.gauges = Series.empty := by decide +kernel
    intro name x hx
    rw [hnone] at hx
    cases hx

/-- One more for the first counter is accepted by the relational store only; for the second one, as
much as the range holds and one more is accepted by the store in memory only. -/
theorem accepts_differently_near_limits :
    Holds memoryNearLimits tablesNearLimits ∧
    ((Write.batch [Metric.counter "c" 1]).perform memoryNearLimits).1
      = .error (.invalid (.counterOverflow "c")) ∧
    (tablesNearLimits.perform .sorted (.batch [Metric.counter "c" 1])).1 = .ok none ∧
    ((Write.batch [Metric.counter "d" Int64.maxValue, Metric.counter "d" 1]).perform
      memoryNearLimits).1 = .ok none ∧
    (tablesNearLimits.perform .sorted
      (.batch [Metric.counter "d" Int64.maxValue, Metric.counter "d" 1])).1
      = .error (.invalid (.counterOverflow "d")) :=
  ⟨holds_nearLimits, by decide +kernel, by decide +kernel, by decide +kernel, by decide +kernel⟩

/-- The law at these contents: the stores differ over one more for the first counter, which the
store in memory refuses as invalid, and they are alike over a batch for a new counter. -/
theorem batch_accepted_alike_near_limits :
    Holds memoryNearLimits tablesNearLimits ∧
    ¬ AcceptedAlike memoryNearLimits tablesNearLimits .sorted (.batch [Metric.counter "c" 1]) ∧
    (∃ e, (Write.batch [Metric.counter "c" 1]).perform memoryNearLimits
      = (.error (.invalid e), memoryNearLimits)) ∧
    AcceptedAlike memoryNearLimits tablesNearLimits .reversed
      (.batch [Metric.counter "e" Int64.maxValue, Metric.counter "e" 1]) := by
  obtain ⟨-, -, halike, -, hrefused, -⟩ :=
    batch_accepted_alike_iff holds_nearLimits .sorted [Metric.counter "c" 1]
  obtain ⟨-, -, -, hnew, -⟩ := batch_accepted_alike_iff holds_nearLimits .reversed
    [Metric.counter "e" Int64.maxValue, Metric.counter "e" 1]
  refine ⟨holds_nearLimits, ?_, hrefused (by decide +kernel), hnew (by decide +kernel)⟩
  have hmemory :
      ((Write.batch [Metric.counter "c" 1]).perform memoryNearLimits).1.isOk = false := by
    decide +kernel
  have htables :
      (tablesNearLimits.perform .sorted (.batch [Metric.counter "c" 1])).1.isOk = true := by
    decide +kernel
  rw [AcceptedAlike, hmemory, htables]
  simp

end Relational

end Telemetry

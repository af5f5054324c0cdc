import Mathlib.Algebra.Ring.Int.Defs
import Telemetry.Proofs.Metric
import Telemetry.Proofs.Number.Range
import Telemetry.Proofs.Series
import Telemetry.Snapshot

/-!
# What metrics make of a snapshot

Given a list of metrics, `deltaSum` is the exact sum of the deltas for a counter and `lastValue?`
the last value for a gauge. Both read the fields of the metrics and look at no snapshot; a number
that is missing counts as zero, and an accepted metric misses none. `Snapshot.Grows s metrics next` says that
`next` holds what `s` held and what the metrics add to it. It determines `next`, it is closed under
appending lists, and `grows_of_applyAll` says that applying metrics leads there.

A counter is reserved before its sum is checked. `put_eq_apply` says that no trace of this is left
when the sum is refused: a name that was not there starts at zero, and zero refuses nothing.
-/

namespace Telemetry

/-! ## The metrics of one name and kind -/

/-- The metrics of a name and a kind, in their order. -/
def entriesOf (name : String) (kind : Kind) (metrics : List Metric) : List Metric :=
  metrics.filter fun m => m.id = name && m.kind = kind

/-- The exact sum of the deltas for a counter. -/
def deltaSum (name : String) (metrics : List Metric) : Int :=
  ((entriesOf name .counter metrics).map fun m => (m.delta.getD 0).toInt).sum

/-- The last value for a gauge. -/
def lastValue? (name : String) (metrics : List Metric) : Option Binary64 :=
  (entriesOf name .gauge metrics).getLast?.map fun m => m.value.getD Binary64.zero

/-- A count after metrics: the old one if none of them is for it, and otherwise the exact sum. -/
def countAfter (name : String) (old : Option Int) (metrics : List Metric) : Option Int :=
  if entriesOf name .counter metrics = [] then old else some (old.getD 0 + deltaSum name metrics)

/-- A gauge after metrics: the last value for it, or else the old one. -/
def gaugeAfter (name : String) (old : Option Binary64) (metrics : List Metric) : Option Binary64 :=
  (lastValue? name metrics).or old

theorem mem_entriesOf {name : String} {kind : Kind} {metrics : List Metric} {m : Metric} :
    m ∈ entriesOf name kind metrics ↔ m ∈ metrics ∧ m.id = name ∧ m.kind = kind := by
  simp [entriesOf]

theorem entriesOf_append (name : String) (kind : Kind) (xs ys : List Metric) :
    entriesOf name kind (xs ++ ys) = entriesOf name kind xs ++ entriesOf name kind ys :=
  List.filter_append xs ys

theorem entriesOf_singleton (name : String) (kind : Kind) (m : Metric) :
    entriesOf name kind [m] = if m.id = name ∧ m.kind = kind then [m] else [] := by
  by_cases h : m.id = name ∧ m.kind = kind <;> simp [entriesOf, h]

theorem deltaSum_append (name : String) (xs ys : List Metric) :
    deltaSum name (xs ++ ys) = deltaSum name xs + deltaSum name ys := by
  simp [deltaSum, entriesOf_append]

theorem deltaSum_eq_zero {name : String} {metrics : List Metric}
    (h : entriesOf name .counter metrics = []) : deltaSum name metrics = 0 := by
  simp [deltaSum, h]

/-- One metric adds its delta to the counter of its name, and to no other. -/
theorem deltaSum_singleton (name : String) (m : Metric) :
    deltaSum name [m] = if m.id = name ∧ m.kind = .counter then (m.delta.getD 0).toInt else 0 := by
  by_cases h : m.id = name ∧ m.kind = .counter <;> simp [deltaSum, entriesOf_singleton, h]

/-- The count after two lists is the count after the second one, from what the first one left. -/
theorem countAfter_append (name : String) (old : Option Int) (xs ys : List Metric) :
    countAfter name old (xs ++ ys) = countAfter name (countAfter name old xs) ys := by
  unfold countAfter
  rw [entriesOf_append, deltaSum_append]
  -- An absent counter becomes present with the first metric for it, so the two lists are told apart
  -- by whether they hold one.
  by_cases hx : entriesOf name .counter xs = []
  · simp [hx, deltaSum_eq_zero hx]
  · by_cases hy : entriesOf name .counter ys = []
    · simp [hx, hy, deltaSum_eq_zero hy]
    · simp [hx, hy]
      omega

/-- With an absent count taken for zero, metrics add their exact sum. -/
theorem getD_countAfter (name : String) (old : Option Int) (metrics : List Metric) :
    (countAfter name old metrics).getD 0 = old.getD 0 + deltaSum name metrics := by
  unfold countAfter
  split
  · next h => simp [deltaSum_eq_zero h]
  · rfl

/-- The gauge after two lists is the last value of the second one, or of the first. -/
theorem gaugeAfter_append (name : String) (old : Option Binary64) (xs ys : List Metric) :
    gaugeAfter name old (xs ++ ys) = gaugeAfter name (gaugeAfter name old xs) ys := by
  unfold gaugeAfter lastValue?
  rw [entriesOf_append, List.getLast?_append]
  cases (entriesOf name .gauge ys).getLast? <;> simp

namespace Snapshot

/-! ## One metric -/

/-- Only a present counter overflows, and for that nothing is reserved. -/
theorem reserve_of_overflow {s : Snapshot} {name : String} {delta : Int64}
    (h : addChecked (s.sum name) delta = none) : s.reserve name = s := by
  unfold reserve
  cases hget : s.counters.get? name with
  | some n => rfl
  | none => simp [sum, hget] at h

/-- Reserving a counter puts zero where zero was read before. -/
theorem sum_reserve (s : Snapshot) (name : String) : (s.reserve name).sum name = s.sum name := by
  unfold reserve
  cases hget : s.counters.get? name with
  | some n => rfl
  | none => simp [sum, hget]

/-- A counter that is written is the same whether a place was reserved or not. -/
theorem insert_reserve (s : Snapshot) (name : String) (n : Int64) :
    { s.reserve name with counters := (s.reserve name).counters.insert name n }
      = { s with counters := s.counters.insert name n } := by
  unfold reserve
  cases hget : s.counters.get? name with
  | some n => rfl
  | none =>
    simp only [Snapshot.mk.injEq, and_true]
    refine Series.ext fun other => ?_
    by_cases h : name = other <;> simp [h]

/-- A counter is applied: the exact sum is stored, if it fits. -/
theorem apply_counter {s : Snapshot} {m : Metric} (hkind : m.kind = .counter) :
    s.apply m =
      match addChecked (s.sum m.id) (m.delta.getD 0) with
      | some total =>
          .ok (Metric.counter m.id total, { s with counters := s.counters.insert m.id total })
      | none => .error (.counterOverflow m.id) := by
  unfold apply put
  rw [hkind]
  simp only [sum_reserve, insert_reserve, Metric.deltaOrZero]
  cases addChecked (s.sum m.id) (m.delta.getD 0) <;> rfl

/-- A gauge is applied: its value is stored. -/
theorem apply_gauge {s : Snapshot} {m : Metric} (hkind : m.kind = .gauge) :
    s.apply m =
      .ok (Metric.gauge m.id (m.value.getD Binary64.zero),
        { s with gauges := s.gauges.insert m.id (m.value.getD Binary64.zero) }) := by
  unfold apply put
  rw [hkind]
  rfl

/-- Putting a metric in is applying it; a refused one leaves the snapshot as it was, although its
counter was reserved. -/
theorem put_eq_apply (s : Snapshot) (m : Metric) :
    s.put m =
      match s.apply m with
      | .ok (stored, next) => (.ok stored, next)
      | .error e => (.error e, s) := by
  cases hkind : m.kind with
  | counter =>
    rw [apply_counter hkind]
    unfold put
    rw [hkind]
    simp only [sum_reserve, insert_reserve, Metric.deltaOrZero]
    -- A sum that is out of range refuses a counter that is there, so no place was reserved for it.
    cases hadd : addChecked (s.sum m.id) (m.delta.getD 0) with
    | some total => rfl
    | none => simp only [reserve_of_overflow hadd]
  | gauge =>
    rw [apply_gauge hkind]
    unfold put
    rw [hkind]
    rfl

/-- A metric is refused exactly if it is a counter whose exact sum does not fit. -/
theorem apply_eq_error_iff {s : Snapshot} {m : Metric} {e : MetricError} :
    s.apply m = .error e ↔
      m.kind = .counter ∧ ¬ FitsInt64 ((s.sum m.id).toInt + (m.delta.getD 0).toInt) ∧
        e = .counterOverflow m.id := by
  cases hkind : m.kind with
  | counter =>
    rw [apply_counter hkind, ← addChecked_eq_none_iff]
    cases hadd : addChecked (s.sum m.id) (m.delta.getD 0) with
    | some total => simp
    | none => simp [eq_comm]
  | gauge => simp [apply_gauge hkind]

/-- The answer is the metric as it is then stored. -/
theorem get?_of_apply {s next : Snapshot} {m stored : Metric} (h : s.apply m = .ok (stored, next)) :
    next.get? m.id m.kind = some stored := by
  cases hkind : m.kind with
  | counter =>
    rw [apply_counter hkind] at h
    split at h
    · cases h
      simp [get?]
    · cases h
  | gauge =>
    rw [apply_gauge hkind] at h
    cases h
    simp [get?]

/-! ## Growing -/

/-- The exact count of a counter. -/
def count? (s : Snapshot) (name : String) : Option Int := (s.counters.get? name).map Int64.toInt

/-- `next` holds what `s` held and what the metrics add to it. -/
structure Grows (s : Snapshot) (metrics : List Metric) (next : Snapshot) : Prop where
  count : ∀ name, next.count? name = countAfter name (s.count? name) metrics
  gauge : ∀ name, next.gauges.get? name = gaugeAfter name (s.gauges.get? name) metrics

/-- The sum that an addition starts from is the count, and zero where there is none. -/
theorem toInt_sum (s : Snapshot) (name : String) : (s.sum name).toInt = (s.count? name).getD 0 := by
  unfold sum count?
  cases s.counters.get? name <;> simp

/-- Snapshots with the same counts have the same counters. -/
theorem counters_eq_of_count? {s t : Snapshot} (h : ∀ name, s.count? name = t.count? name) :
    s.counters = t.counters := by
  refine Series.ext fun name => ?_
  have hname := h name
  unfold count? at hname
  cases hs : s.counters.get? name <;> cases ht : t.counters.get? name <;>
    simp_all [Int64.toInt_inj]

namespace Grows

variable {s next last : Snapshot} {xs ys : List Metric}

theorem nil (s : Snapshot) : Grows s [] s :=
  ⟨fun _ => rfl, fun _ => rfl⟩

/-- Growing twice is growing by both lists. -/
theorem append (h₁ : Grows s xs next) (h₂ : Grows next ys last) : Grows s (xs ++ ys) last :=
  ⟨fun name => by rw [h₂.count, h₁.count, countAfter_append],
   fun name => by rw [h₂.gauge, h₁.gauge, gaugeAfter_append]⟩

/-- A snapshot and metrics determine what it grows to. -/
theorem unique (h₁ : Grows s xs next) (h₂ : Grows s xs last) : next = last := by
  have hcounters : next.counters = last.counters :=
    counters_eq_of_count? fun name => (h₁.count name).trans (h₂.count name).symm
  have hgauges : next.gauges = last.gauges :=
    Series.ext fun name => (h₁.gauge name).trans (h₂.gauge name).symm
  cases next
  cases last
  simp_all

/-- A counter that none of the metrics is for is as it was. -/
theorem counter_of_untouched {name : String} (h : Grows s xs next)
    (hnone : entriesOf name .counter xs = []) :
    next.counters.get? name = s.counters.get? name := by
  have hcount := h.count name
  rw [countAfter, if_pos hnone] at hcount
  exact Option.map_injective (fun _ _ => Int64.toInt_inj.1) hcount

/-- A counter that some of the metrics are for is the exact sum. -/
theorem counter_of_touched {name : String} (h : Grows s xs next)
    (hsome : entriesOf name .counter xs ≠ []) :
    ∃ n, next.counters.get? name = some n ∧
      n.toInt = (s.count? name).getD 0 + deltaSum name xs := by
  have hcount := h.count name
  rw [countAfter, if_neg hsome] at hcount
  exact Option.map_eq_some_iff.1 hcount

/-- A running sum goes on from where a snapshot has grown to. -/
theorem count_add_deltaSum (h : Grows s xs next) (name : String) (ys : List Metric) :
    (next.count? name).getD 0 + deltaSum name ys
      = (s.count? name).getD 0 + deltaSum name (xs ++ ys) := by
  rw [h.count, getD_countAfter, deltaSum_append, Int.add_assoc]

end Grows

/-- A snapshot grows by a metric that is applied. -/
theorem grows_of_apply {s next : Snapshot} {m stored : Metric}
    (h : s.apply m = .ok (stored, next)) : Grows s [m] next := by
  cases hkind : m.kind with
  | counter =>
    rw [apply_counter hkind] at h
    split at h
    · next total htotal =>
      cases h
      -- the checked sum is the exact one
      have hsum := addChecked_eq_some_iff.1 htotal
      rw [toInt_sum] at hsum
      refine ⟨fun name => ?_, fun name => ?_⟩
      · by_cases hname : m.id = name
        · subst hname
          simpa [countAfter, deltaSum_singleton, entriesOf_singleton, hkind, count?] using hsum
        · simp [countAfter, entriesOf_singleton, hname, count?]
      · simp [gaugeAfter, lastValue?, entriesOf_singleton, hkind]
    · cases h
  | gauge =>
    rw [apply_gauge hkind] at h
    cases h
    refine ⟨fun name => ?_, fun name => ?_⟩
    · simp [countAfter, entriesOf_singleton, hkind, count?]
    · by_cases hname : m.id = name <;>
        simp [gaugeAfter, lastValue?, entriesOf_singleton, hkind, hname]

/-- A batch is applied metric by metric, and stops with the first one that is refused. -/
theorem applyAll_cons (s : Snapshot) (m : Metric) (rest : List Metric) :
    s.applyAll (m :: rest) = (s.apply m).bind fun p => p.2.applyAll rest := by
  unfold applyAll
  rw [List.foldlM_cons]
  cases s.apply m <;> rfl

theorem applyAll_singleton (s : Snapshot) (m : Metric) :
    s.applyAll [m] = (s.apply m).map (·.2) := by
  rw [applyAll_cons]
  cases s.apply m <;> rfl

/-- A snapshot grows by metrics that are applied one after another. -/
theorem grows_of_applyAll {s next : Snapshot} {metrics : List Metric}
    (h : s.applyAll metrics = .ok next) : Grows s metrics next := by
  -- The rest of the batch grows from what the first metric has left.
  induction metrics generalizing s with
  | nil =>
    cases h
    exact .nil _
  | cons m rest ih =>
    rw [applyAll_cons] at h
    cases happly : s.apply m with
    | error e =>
      rw [happly] at h
      cases h
    | ok p =>
      rw [happly] at h
      exact (grows_of_apply happly).append (ih h)

/-- Metrics can be applied one after another exactly if no running sum leaves the range. -/
theorem applyAll_isOk_iff {s : Snapshot} {metrics : List Metric} :
    (∃ next, s.applyAll metrics = .ok next) ↔
      ∀ before, before <+: metrics → ∀ name,
        FitsInt64 ((s.count? name).getD 0 + deltaSum name before) := by
  induction metrics generalizing s with
  | nil =>
    refine ⟨fun _ before hbefore name => ?_, fun _ => ⟨s, rfl⟩⟩
    rw [List.prefix_nil.1 hbefore, ← toInt_sum]
    simpa [deltaSum, entriesOf] using fitsInt64_toInt (s.sum name)
  | cons m rest ih =>
    rw [applyAll_cons]
    cases happly : s.apply m with
    | error e =>
      obtain ⟨hkind, hfits, -⟩ := apply_eq_error_iff.1 happly
      constructor
      · rintro ⟨_, h⟩
        cases h
      · intro h
        refine absurd (h [m] (by simp) m.id) ?_
        rwa [deltaSum_singleton, if_pos ⟨rfl, hkind⟩, ← toInt_sum]
    | ok p =>
      have hgrows := grows_of_apply happly
      -- a running sum after the first metric is a running sum of the whole list
      have hstep : ∀ name before, (p.2.count? name).getD 0 + deltaSum name before
          = (s.count? name).getD 0 + deltaSum name (m :: before) := hgrows.count_add_deltaSum
      have hok : (Except.ok p : Except MetricError (Metric × Snapshot)).bind
          (fun p => p.2.applyAll rest) = p.2.applyAll rest := rfl
      rw [hok, ih]
      constructor
      · intro h before hbefore name
        cases before with
        | nil =>
          rw [← toInt_sum]
          simpa [deltaSum, entriesOf] using fitsInt64_toInt (s.sum name)
        | cons a before =>
          obtain ⟨rfl, hrest⟩ := List.cons_prefix_cons.1 hbefore
          exact hstep name before ▸ h before hrest name
      · intro h before hbefore name
        rw [hstep]
        exact h (m :: before) (List.cons_prefix_cons.2 ⟨rfl, hbefore⟩) name

/-! ## Refused metrics -/

/-- From what is stored, a counter leaves the range with the deltas up to and with its own. -/
structure LeavesRange (s : Snapshot) (before : List Metric) (m : Metric) : Prop where
  isCounter : m.kind = .counter
  overflows : ¬ FitsInt64 ((s.count? m.id).getD 0 + deltaSum m.id (before ++ [m]))

/-- A metric is refused where it leaves the range with nothing before it. -/
theorem apply_eq_error_iff_leavesRange {s : Snapshot} {m : Metric} {e : MetricError} :
    s.apply m = .error e ↔ s.LeavesRange [] m ∧ e = .counterOverflow m.id := by
  rw [apply_eq_error_iff, toInt_sum]
  constructor
  · rintro ⟨hkind, hfits, rfl⟩
    refine ⟨⟨hkind, ?_⟩, rfl⟩
    rwa [List.nil_append, deltaSum_singleton, if_pos ⟨rfl, hkind⟩]
  · rintro ⟨⟨hkind, hfits⟩, rfl⟩
    rw [List.nil_append, deltaSum_singleton, if_pos ⟨rfl, hkind⟩] at hfits
    exact ⟨hkind, hfits, rfl⟩

/-- Whether a metric leaves the range after others may be asked before the first of them or after
it. -/
theorem Grows.leavesRange_iff {s next : Snapshot} {m : Metric} (h : Grows s [m] next)
    {before : List Metric} {x : Metric} :
    next.LeavesRange before x ↔ s.LeavesRange (m :: before) x := by
  have hsum := h.count_add_deltaSum x.id (before ++ [x])
  rw [← List.append_assoc, List.singleton_append] at hsum
  constructor
  · rintro ⟨hkind, hover⟩
    exact ⟨hkind, hsum ▸ hover⟩
  · rintro ⟨hkind, hover⟩
    exact ⟨hkind, hsum.symm ▸ hover⟩

/-- Metrics that cannot be applied one after another are refused for the first counter that leaves
the range. -/
theorem applyAll_eq_error_iff {s : Snapshot} {metrics : List Metric} {e : MetricError} :
    s.applyAll metrics = .error e ↔
      ∃ before m, IsFirstFault s.LeavesRange metrics before m ∧ e = .counterOverflow m.id := by
  induction metrics generalizing s with
  | nil => exact iff_of_false nofun fun ⟨_, _, h, _⟩ => isFirstFault_nil h
  | cons m rest ih =>
    rw [applyAll_cons]
    cases happly : s.apply m with
    | error cause =>
      obtain ⟨hleaves, rfl⟩ := apply_eq_error_iff_leavesRange.1 happly
      rw [exists_firstFault_of_fault hleaves]
      show Except.error (.counterOverflow m.id) = Except.error e ↔ e = .counterOverflow m.id
      rw [Except.error.injEq, eq_comm]
    | ok p =>
      have hstays : ¬ s.LeavesRange [] m := by
        intro hleaves
        have herror := apply_eq_error_iff_leavesRange.2 ⟨hleaves, rfl⟩
        rw [happly] at herror
        cases herror
      -- what the rest does to the new snapshot is what it does behind the first metric
      have hshift : p.2.LeavesRange = fun ys y => s.LeavesRange (m :: ys) y :=
        funext fun ys => funext fun y => propext (grows_of_apply happly).leavesRange_iff
      rw [exists_firstFault_of_not_fault hstays, ← hshift]
      exact ih

end Snapshot

end Telemetry

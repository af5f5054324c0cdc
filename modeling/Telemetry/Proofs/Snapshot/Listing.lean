import Mathlib.Data.List.Nodup
import Telemetry.Proofs.Snapshot
import Telemetry.Proofs.Text

/-!
# The listing of a snapshot

`Snapshot.metrics` lists every stored metric once (`entriesOf_metrics`), the counters in front of
the gauges and each kind by the bytes of the names (`pairwise_metrics`). A listing in which the
metrics of each kind come in any order is the same once each kind has been sorted
(`sorted_eq_ofKind`), so that nothing depends on the order in which stored numbers are come by.

Since each stored metric is listed once, the listing adds to every count the one that is stored and
replaces every gauge by itself (`countAfter_metrics`, `gaugeAfter_metrics`); applied to nothing, it
makes the snapshot again (`applyAll_empty_metrics`).
-/

namespace Telemetry

namespace Metric

/-- The bytes of the name. -/
def nameBytes (m : Metric) : List UInt8 := m.id.toUTF8.data.toList

/-- A metric comes before another: a counter before a gauge, and in one kind the smaller name. -/
def Precedes (m other : Metric) : Prop :=
  m.kind = .counter ∧ other.kind = .gauge ∨ m.kind = other.kind ∧ m.nameBytes < other.nameBytes

/-- Metrics in the order of their names. -/
def sortedByName (metrics : List Metric) : List Metric :=
  metrics.mergeSort fun a b => a.nameBytes ≤ b.nameBytes

/-- The order of a listing is strict. -/
theorem Precedes.ne {m other : Metric} (h : m.Precedes other) : m ≠ other := by
  rintro rfl
  obtain ⟨hcounter, hgauge⟩ | ⟨-, hlt⟩ := h
  · cases hcounter.symm.trans hgauge
  · exact List.lt_irrefl _ hlt

end Metric

namespace Snapshot

variable {s : Snapshot} {m : Metric} {name : String} {kind : Kind}

/-- The listing of one kind has metrics of that kind only. -/
theorem kind_of_mem_ofKind (h : m ∈ s.ofKind kind) : m.kind = kind := by
  cases kind
  all_goals
    obtain ⟨p, -, rfl⟩ := List.mem_map.1 h
    rfl

/-- In the metrics of a kind, those of a name: the stored one, if there is one. -/
theorem filter_ofKind (s : Snapshot) (name : String) (kind : Kind) :
    ((s.ofKind kind).filter fun m => m.id = name) = (s.get? name kind).toList := by
  cases kind with
  | counter =>
    have hpairs := congrArg (List.map fun p => Metric.counter p.1 p.2)
      (s.counters.filter_toList name)
    rw [ofKind, List.filter_map]
    refine hpairs.trans ?_
    unfold get?
    cases s.counters.get? name <;> rfl
  | gauge =>
    have hpairs := congrArg (List.map fun p => Metric.gauge p.1 p.2) (s.gauges.filter_toList name)
    rw [ofKind, List.filter_map]
    refine hpairs.trans ?_
    unfold get?
    cases s.gauges.get? name <;> rfl

/-- In the listing of one kind a name occurs once if it is there, and in that of the other not at
all. -/
theorem entriesOf_ofKind (s : Snapshot) (name : String) (kind other : Kind) :
    entriesOf name kind (s.ofKind other)
      = if other = kind then (s.get? name kind).toList else [] := by
  split
  · next h =>
    subst h
    rw [← filter_ofKind]
    refine List.filter_congr fun m hm => ?_
    simp [kind_of_mem_ofKind hm]
  · next h =>
    refine List.filter_eq_nil_iff.2 fun m hm => ?_
    simp [kind_of_mem_ofKind hm, h]

/-- **In the listing, the metrics of a name and a kind are the stored one**, if there is one. -/
theorem entriesOf_metrics (s : Snapshot) (name : String) (kind : Kind) :
    entriesOf name kind s.metrics = (s.get? name kind).toList := by
  rw [metrics, entriesOf_append, entriesOf_ofKind, entriesOf_ofKind]
  cases kind <;> simp

/-- What is listed is what is stored. -/
theorem mem_metrics_iff : m ∈ s.metrics ↔ s.get? m.id m.kind = some m := by
  have hentries : m ∈ entriesOf m.id m.kind s.metrics ↔ m ∈ s.metrics := by simp [mem_entriesOf]
  rw [← hentries, entriesOf_metrics, Option.mem_toList]

/-- The metrics of a kind stand in the order of the bytes of their names. -/
theorem pairwise_ofKind (s : Snapshot) (kind : Kind) :
    (s.ofKind kind).Pairwise fun a b => a.nameBytes < b.nameBytes := by
  cases kind
  all_goals
    rw [ofKind, List.pairwise_map]
    exact (Series.sorted _).imp fun h => Text.lt_iff_toUTF8_lt.1 h

/-- The counters come before the gauges, and each kind stands in the order of the names. -/
theorem pairwise_metrics (s : Snapshot) : s.metrics.Pairwise Metric.Precedes := by
  have hkind (kind : Kind) : (s.ofKind kind).Pairwise Metric.Precedes :=
    (pairwise_ofKind s kind).imp_of_mem fun ha hb hlt =>
      .inr ⟨(kind_of_mem_ofKind ha).trans (kind_of_mem_ofKind hb).symm, hlt⟩
  refine List.pairwise_append.2 ⟨hkind .counter, hkind .gauge, fun a ha b hb => ?_⟩
  exact .inl ⟨kind_of_mem_ofKind ha, kind_of_mem_ofKind hb⟩

/-- No metric is listed twice. -/
theorem nodup_metrics (s : Snapshot) : s.metrics.Nodup :=
  (pairwise_metrics s).imp Metric.Precedes.ne

/-- In whatever order the metrics of a kind are come by, they are the same once they are sorted. -/
theorem sorted_eq_ofKind {found : List Metric} (h : found.Perm (s.ofKind kind)) :
    Metric.sortedByName found = s.ofKind kind := by
  have hsorted : (Metric.sortedByName found).Pairwise fun a b => a.nameBytes ≤ b.nameBytes := by
    refine (List.pairwise_mergeSort ?_ ?_ found).imp fun h => of_decide_eq_true h
    · intro a b c hab hbc
      exact decide_eq_true (List.le_trans (of_decide_eq_true hab) (of_decide_eq_true hbc))
    · intro a b
      simpa using List.le_total a.nameBytes b.nameBytes
  have hordered := pairwise_ofKind s kind
  have hsame : (Metric.sortedByName found).Perm (s.ofKind kind) :=
    (List.mergeSort_perm found _).trans h
  -- No name occurs twice, so there is only one order by names.
  have hnames : ((s.ofKind kind).map Metric.nameBytes).Nodup := (List.pairwise_map.2 hordered).nodup
  refine List.Perm.eq_of_pairwise ?_ hsorted (hordered.imp fun h => List.le_of_lt h) hsame
  intro a b ha hb hab hba
  exact List.inj_on_of_nodup_map hnames (hsame.mem_iff.1 ha) hb (List.le_antisymm hab hba)

/-! ## The listing as metrics to store -/

/-- Where a listing has the counter of a name once, the sum of its deltas is the count. -/
theorem deltaSum_of_entriesOf {metrics : List Metric}
    (h : entriesOf name .counter metrics = (s.get? name .counter).toList) :
    deltaSum name metrics = (s.count? name).getD 0 := by
  rw [deltaSum, h]
  unfold get? count?
  cases s.counters.get? name with
  | none => rfl
  | some n => exact Int.add_zero n.toInt

/-- The listing adds to a count the one that is stored. -/
theorem countAfter_metrics (s : Snapshot) (name : String) (old : Option Int) :
    countAfter name old s.metrics =
      if s.count? name = none then old else some (old.getD 0 + (s.count? name).getD 0) := by
  have hentries := entriesOf_metrics s name .counter
  have hnil : entriesOf name .counter s.metrics = [] ↔ s.count? name = none := by
    rw [hentries]
    unfold get? count?
    cases s.counters.get? name <;> simp
  rw [countAfter, deltaSum_of_entriesOf hentries]
  exact if_congr hnil rfl rfl

/-- The listing replaces a gauge by the one that is stored. -/
theorem gaugeAfter_metrics (s : Snapshot) (name : String) (old : Option Binary64) :
    gaugeAfter name old s.metrics = (s.gauges.get? name).or old := by
  rw [gaugeAfter, lastValue?, entriesOf_metrics]
  unfold get?
  cases s.gauges.get? name <;> rfl

/-- On the way through the listing, a count has been added or it has not. -/
theorem deltaSum_of_prefix {before : List Metric} (h : before <+: s.metrics) (name : String) :
    deltaSum name before = 0 ∨ deltaSum name before = (s.count? name).getD 0 := by
  have hprefix : entriesOf name .counter before <+: (s.get? name .counter).toList :=
    entriesOf_metrics s name .counter ▸ h.filter _
  cases hget : s.get? name .counter with
  | none =>
    rw [hget] at hprefix
    exact .inl (deltaSum_eq_zero (List.prefix_nil.1 hprefix))
  | some m =>
    rw [hget] at hprefix
    obtain hnil | ⟨rest, hfull, hrest⟩ := List.prefix_cons_iff.1 hprefix
    · exact .inl (deltaSum_eq_zero hnil)
    · rw [List.prefix_nil.1 hrest] at hfull
      exact .inr (deltaSum_of_entriesOf (hfull.trans (hget ▸ rfl)))

theorem fitsInt64_count? (s : Snapshot) (name : String) : FitsInt64 ((s.count? name).getD 0) :=
  toInt_sum s name ▸ fitsInt64_toInt _

theorem count?_empty (name : String) : empty.count? name = none := rfl

/-- A snapshot grows from nothing by its listing. -/
theorem grows_metrics (s : Snapshot) : Grows empty s.metrics s where
  count name := by
    rw [countAfter_metrics, count?_empty]
    cases s.count? name <;> simp
  gauge name := by
    rw [gaugeAfter_metrics]
    exact Option.or_none.symm

/-- From nothing, the listing of a snapshot leads to the snapshot. -/
theorem applyAll_empty_metrics (s : Snapshot) : empty.applyAll s.metrics = .ok s := by
  have hfits : ∀ before, before <+: s.metrics → ∀ name,
      FitsInt64 ((empty.count? name).getD 0 + deltaSum name before) := by
    intro before hbefore name
    rw [count?_empty, Option.getD_none, Int.zero_add]
    obtain hzero | hcount := deltaSum_of_prefix hbefore name
    · rw [hzero]
      exact fitsInt64_toInt 0
    · rw [hcount]
      exact fitsInt64_count? s name
  obtain ⟨next, hnext⟩ := applyAll_isOk_iff.2 hfits
  rw [hnext, (grows_of_applyAll hnext).unique (grows_metrics s)]

end Snapshot

end Telemetry

import Telemetry.Collection
import Telemetry.Proofs.Snapshot
import Telemetry.Proofs.Snapshot.Listing

/-!
# Counting in a collection, and its views

`count` is the exact count of a counter, zero if it is absent. An increment adds to it and settling
takes off what was delivered, as long as nothing overflows, with one exception: a delivered metric
whose counter is no longer there is passed over. `unmet` is the sum of the deltas that are passed
over in this way, and `count_settle` is the law with this term in it.

What is gathered can be listed in two ways, and they agree (`collection_views_agree`).
-/

namespace Telemetry

namespace Collection

/-- The exact count of a counter, zero if it is absent. -/
def count (c : Collection) (name : String) : Int := ((c.counters.get? name).getD 0).toInt

/-- What was delivered for a counter and is not taken off, because the counter is not there when the
turn comes to it. -/
def unmet (c : Collection) (name : String) : List Metric → Int
  | [] => 0
  | m :: rest =>
    (if (c.counters.get? m.id).isNone then deltaSum name [m] else 0)
      + (c.settleOne m).unmet name rest

/-- Taking off what was delivered makes no counter leave the range. -/
def settlesInRange (c : Collection) : List Metric → Bool
  | [] => true
  | m :: rest =>
    ((c.counters.get? m.id).all fun n => FitsInt64 (n.toInt - (m.delta.getD 0).toInt)) &&
      settlesInRange (c.settleOne m) rest

/-! ### Increments -/

/-- An increment counts for its own counter, as long as the sum fits. -/
theorem count_add {c : Collection} {name : String} {delta : Int64}
    (hfits : FitsInt64 (c.count name + delta.toInt)) (other : String) :
    (c.add name delta).count other
      = c.count other + if name = other then delta.toInt else 0 := by
  unfold count add
  rw [Series.get?_insert]
  by_cases h : name = other
  · subst h
    simpa using toInt_add_of_fits hfits
  · simp [h]

/-- An increment takes no counter away. -/
theorem isSome_get?_add {c : Collection} {name : String} {delta : Int64} {other : String}
    (h : (c.counters.get? other).isSome) : ((c.add name delta).counters.get? other).isSome := by
  simp only [add, Series.get?_insert]
  split
  · rfl
  · exact h

/-! ### Settling -/

/-- The counter of another name is not touched. -/
theorem get?_settleOne_of_ne {c : Collection} {m : Metric} {name : String} (h : m.id ≠ name) :
    (c.settleOne m).counters.get? name = c.counters.get? name := by
  unfold settleOne
  split
  · split <;> simp [h]
  · rfl

/-- A gauge settles nothing. -/
theorem settleOne_of_delta_none {c : Collection} {m : Metric} (h : m.delta = none) :
    c.settleOne m = c := by
  simp [settleOne, h]

/-- A counter that is gone settles nothing. -/
theorem settleOne_of_get?_none {c : Collection} {m : Metric} (h : c.counters.get? m.id = none) :
    c.settleOne m = c := by
  unfold settleOne
  rw [h]
  split
  · next hget => cases hget
  · rfl

/-- A counter that is there loses the delta; one that comes to zero is dropped, which counts the
same. -/
theorem count_settleOne_self {c : Collection} {m : Metric} {n : Int64}
    (hget : c.counters.get? m.id = some n) (hfits : FitsInt64 (n.toInt - (m.delta.getD 0).toInt)) :
    (c.settleOne m).count m.id = n.toInt - (m.delta.getD 0).toInt := by
  cases hdelta : m.delta with
  | none =>
    rw [settleOne_of_delta_none hdelta]
    simp [count, hget]
  | some d =>
    simp only [hdelta, Option.getD_some] at hfits ⊢
    have hsub := toInt_sub_of_fits hfits
    simp only [settleOne, hdelta, hget]
    split
    -- A counter of which nothing remains is dropped, and then it counts as zero.
    · next hzero =>
      rw [hzero] at hsub
      simpa [count] using hsub
    · simpa [count] using hsub

/-- A metric of another name or kind has no delta for a counter. -/
theorem deltaSum_eq_zero_of_ne {m : Metric} {name : String} (h : m.id ≠ name) :
    deltaSum name [m] = 0 := by
  rw [deltaSum_singleton, if_neg fun hm => h hm.1]

/-- A metric that carries its number has its delta for the counter of its name. -/
theorem deltaSum_self {m : Metric} (hm : m.carriesItsNumber = true) :
    deltaSum m.id [m] = (m.delta.getD 0).toInt := by
  obtain ⟨id, kind, delta, value⟩ := m
  cases kind <;> cases delta <;> cases value <;>
    simp_all [deltaSum_singleton, Metric.carriesItsNumber]

/-- Settling takes a delivered delta off its counter, unless the counter is gone. -/
theorem count_settleOne {c : Collection} {m : Metric} (hm : m.carriesItsNumber = true)
    (hfits : (c.counters.get? m.id).all fun n => FitsInt64 (n.toInt - (m.delta.getD 0).toInt))
    (name : String) :
    (c.settleOne m).count name = c.count name - deltaSum name [m]
      + if (c.counters.get? m.id).isNone then deltaSum name [m] else 0 := by
  -- A counter that is gone makes the one difference, and it is what the last term says.
  cases hget : c.counters.get? m.id with
  | none =>
    rw [settleOne_of_get?_none hget]
    simp
  | some n =>
    by_cases hname : m.id = name
    · subst hname
      have hn : c.count m.id = n.toInt := by simp [count, hget]
      have hsub : FitsInt64 (n.toInt - (m.delta.getD 0).toInt) := by simpa [hget] using hfits
      rw [count_settleOne_self hget hsub, hn, deltaSum_self hm]
      simp
    · have hcount : (c.settleOne m).count name = c.count name := by
        unfold count
        rw [get?_settleOne_of_ne hname]
      rw [hcount, deltaSum_eq_zero_of_ne hname]
      simp

/-- **The law of settling.** What was delivered is taken off, except for what is unmet. -/
theorem count_settle {c : Collection} {sent : List Metric}
    (hsent : ∀ m ∈ sent, m.carriesItsNumber = true) (hfits : c.settlesInRange sent)
    (name : String) :
    (c.settle sent).count name = c.count name - deltaSum name sent + c.unmet name sent := by
  induction sent generalizing c with
  | nil => simp [settle, deltaSum, entriesOf, unmet]
  | cons m rest ih =>
    rw [settlesInRange, Bool.and_eq_true] at hfits
    have hrest := ih (fun a ha => hsent a (List.mem_cons_of_mem _ ha)) hfits.2
    have hfirst := count_settleOne (hsent m List.mem_cons_self) hfits.1 name
    have hsum := deltaSum_append name [m] rest
    rw [List.singleton_append] at hsum
    -- the first metric and the rest each leave their own unmet deltas
    simp only [settle, List.foldl_cons, unmet] at hrest ⊢
    rw [hrest, hfirst, hsum]
    omega

/-- Nothing is unmet if every counter that was delivered, each once, is still there. -/
theorem unmet_eq_zero {c : Collection} {sent : List Metric}
    (hdistinct : sent.Pairwise fun m k => m.kind = .counter → k.kind = .counter → m.id ≠ k.id)
    (hcarries : ∀ m ∈ sent, m.carriesItsNumber = true)
    (hthere : ∀ m ∈ sent, m.kind = .counter → (c.counters.get? m.id).isSome) (name : String) :
    c.unmet name sent = 0 := by
  induction sent generalizing c with
  | nil => rfl
  | cons m rest ih =>
    obtain ⟨hfirst, hrest⟩ := List.pairwise_cons.1 hdistinct
    have hm := hcarries m List.mem_cons_self
    -- settling one counter drops at most that counter, and the others have other names
    have hkeeps : ∀ k ∈ rest, k.kind = .counter →
        ((c.settleOne m).counters.get? k.id).isSome := by
      intro k hk hkind
      have hkthere := hthere k (List.mem_cons_of_mem _ hk) hkind
      cases hmkind : m.kind with
      | counter => rwa [get?_settleOne_of_ne (hfirst k hk hmkind hkind)]
      | gauge =>
        have hdelta : m.delta = none := by simp_all [Metric.carriesItsNumber]
        rwa [settleOne_of_delta_none hdelta]
    have hzero : (if (c.counters.get? m.id).isNone then deltaSum name [m] else 0) = 0 := by
      cases hmkind : m.kind with
      | counter =>
        obtain ⟨n, hn⟩ := Option.isSome_iff_exists.1 (hthere m List.mem_cons_self hmkind)
        simp [hn]
      | gauge => simp [deltaSum_singleton, hmkind]
    rw [unmet, hzero, ih hrest (fun k hk => hcarries k (List.mem_cons_of_mem _ hk)) hkeeps]
    rfl

/-! ### The metrics of a collection -/

/-- The metrics of a collection are its counters and its gauges. -/
theorem mem_metrics {c : Collection} {m : Metric} :
    m ∈ c.metrics ↔
      (∃ name n, c.counters.get? name = some n ∧ m = Metric.counter name n) ∨
        ∃ name x, c.gauges.get? name = some x ∧ m = Metric.gauge name x := by
  simp only [metrics, List.mem_append, List.mem_map, Prod.exists, Series.mem_toList_iff, eq_comm]

/-- The metrics of a collection carry the number of their kind. -/
theorem carriesItsNumber_of_mem_metrics {c : Collection} {m : Metric} (h : m ∈ c.metrics) :
    m.carriesItsNumber = true := by
  obtain ⟨name, n, -, rfl⟩ | ⟨name, x, -, rfl⟩ := mem_metrics.1 h <;> rfl

/-- No two counters of a collection have the same name. -/
theorem pairwise_metrics (c : Collection) :
    c.metrics.Pairwise fun m k => m.kind = .counter → k.kind = .counter → m.id ≠ k.id := by
  rw [metrics, List.pairwise_append, List.pairwise_map, List.pairwise_map]
  refine ⟨?_, ?_, ?_⟩
  · have hnames := c.counters.nodup_names
    rw [List.Nodup, List.pairwise_map] at hnames
    exact hnames.imp fun h _ _ => h
  · exact c.gauges.sorted.imp fun _ hkind => nomatch hkind
  · intro m hm k hk _ hkind
    obtain ⟨q, -, rfl⟩ := List.mem_map.1 hk
    cases hkind

end Collection

/-! ## The views of a collection

What is gathered can be listed in two ways: straight from the collection, whose names are in order,
or by way of its snapshot, whose metrics are come by in any order and sorted afterwards. The order
and the uniqueness of names are part of what a `Series` is, so every operation keeps them, and
`collection_views_agree` holds whatever has been done to the collection.
-/

/-- A listing of a snapshot: the metrics of each kind, come by in some order and sorted by name. -/
def Snapshot.HasListing (s : Snapshot) (listing : List Metric) : Prop :=
  ∃ counters gauges : List Metric, counters.Perm (s.ofKind .counter) ∧
    gauges.Perm (s.ofKind .gauge) ∧
    listing = Metric.sortedByName counters ++ Metric.sortedByName gauges

/-- A snapshot has one listing. -/
theorem Snapshot.hasListing_iff {s : Snapshot} {listing : List Metric} :
    s.HasListing listing ↔ listing = s.metrics := by
  constructor
  · rintro ⟨counters, gauges, hcounters, hgauges, rfl⟩
    rw [sorted_eq_ofKind hcounters, sorted_eq_ofKind hgauges]
    rfl
  · rintro rfl
    refine ⟨s.ofKind .counter, s.ofKind .gauge, .refl _, .refl _, ?_⟩
    rw [sorted_eq_ofKind (.refl _), sorted_eq_ofKind (.refl _)]
    rfl

namespace Collection

theorem metrics_toSnapshot (c : Collection) : c.toSnapshot.metrics = c.metrics := rfl

/-- A listing has as many metrics as the collection has names. -/
theorem length_metrics (c : Collection) : c.metrics.length = c.size := by
  rw [metrics, List.length_append, List.length_map, List.length_map]
  rfl

/-- The views of a collection agree. -/
structure ViewsAgree (c : Collection) : Prop where
  /-- The metrics are the listing of the snapshot, in whatever order that comes by them. -/
  listing_iff : ∀ listing, c.toSnapshot.HasListing listing ↔ listing = c.metrics
  /-- The counters come before the gauges, and each kind in the order of the bytes of the names. -/
  ordered : c.metrics.Pairwise Metric.Precedes
  length : c.metrics.length = c.size
  isEmpty_iff : c.isEmpty = true ↔ c.metrics = []
  /-- Applied one after another to nothing, the metrics make the snapshot again. -/
  rebuilt : Snapshot.empty.applyAll c.metrics = .ok c.toSnapshot

/-- **The views of a collection agree**, whatever has been done to it. -/
theorem collection_views_agree (operations : List Operation) :
    ViewsAgree (empty.performAll operations) where
  listing_iff _ := Snapshot.hasListing_iff
  ordered := metrics_toSnapshot _ ▸ Snapshot.pairwise_metrics _
  length := length_metrics _
  isEmpty_iff := by
    rw [← List.length_eq_zero_iff, length_metrics]
    exact beq_iff_eq
  rebuilt := metrics_toSnapshot _ ▸ Snapshot.applyAll_empty_metrics _

end Collection

end Telemetry

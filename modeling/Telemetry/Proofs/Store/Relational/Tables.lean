import Telemetry.Proofs.Snapshot
import Telemetry.Proofs.Store.Relational.Cell
import Telemetry.Store.Relational

/-!
# Rows of a folded batch

A folded batch has one row for each of its names and kinds (`nodup_keys_rowsOf`). `Takes t totals
next` says what its rows make of the tables: a counter that has a row is added to, a gauge that has
one is replaced, and everything else is as it was. The rows lead there in any order
(`takes_of_perm`), because no two of them meet.

`stored` is the number that a table holds for a counter. `Adds t metrics next` says in exact
integers what becomes of it, and `Takes.adds` that tables which can be read behave so.
-/

namespace Telemetry

/-- The kind and the name that a row is written for. -/
def Upsert.key : Upsert → Kind × String
  | counter name _ => (.counter, name)
  | gauge name _ => (.gauge, name)

namespace Tables

/-- Every counter row holds a counter. -/
def Readable (t : Tables) : Prop :=
  ∀ name cell, t.counters.get? name = some cell → ∃ n, cell = .whole n

/-- The number stored for a counter, zero if there is none. -/
def stored (t : Tables) (name : String) : Int := ((t.counters.get? name).map Cell.toInt).getD 0

/-- The cell of a counter after a delta. -/
def cellAfter (t : Tables) (name : String) (delta : Int64) : Cell :=
  match t.counters.get? name with
  | some cell => cell.add delta
  | none => .whole delta

/-- `next` holds what `t` held and what the rows of a folded batch make of it. -/
structure Takes (t : Tables) (totals : Snapshot) (next : Tables) : Prop where
  counter : ∀ name, next.counters.get? name =
    ((totals.counters.get? name).map (t.cellAfter name)).or (t.counters.get? name)
  gauge : ∀ name, next.gauges.get? name =
    ((totals.gauges.get? name).map Binary64.withoutNegativeZero).or (t.gauges.get? name)

/-! ## One row -/

/-- What a row does to the counters: a counter row adds to its own cell. -/
theorem get?_counters_upsert (t : Tables) (row : Upsert) (name : String) :
    (t.upsert row).counters.get? name =
      match row with
      | .counter other delta =>
        if other = name then some (t.cellAfter name delta) else t.counters.get? name
      | .gauge _ _ => t.counters.get? name := by
  cases row with
  | counter other delta =>
    simp only [upsert, Series.get?_insert]
    split
    · next h =>
      subst h
      rfl
    · rfl
  | gauge other x => rfl

/-- What a row does to the gauges: a gauge row replaces its own value. -/
theorem get?_gauges_upsert (t : Tables) (row : Upsert) (name : String) :
    (t.upsert row).gauges.get? name =
      match row with
      | .counter _ _ => t.gauges.get? name
      | .gauge other x =>
        if other = name then some x.withoutNegativeZero else t.gauges.get? name := by
  cases row with
  | counter other delta => rfl
  | gauge other x => simp only [upsert, Series.get?_insert]

/-- A row for something else leaves a counter as it is. -/
theorem get?_counters_of_key_ne {t : Tables} {row : Upsert} {name : String}
    (h : row.key ≠ (.counter, name)) :
    (t.upsert row).counters.get? name = t.counters.get? name := by
  rw [get?_counters_upsert]
  cases row with
  | counter other delta =>
    have hne : other ≠ name := fun e => h (by rw [Upsert.key, e])
    exact if_neg hne
  | gauge other x => rfl

/-- A row for something else leaves a gauge as it is. -/
theorem get?_gauges_of_key_ne {t : Tables} {row : Upsert} {name : String}
    (h : row.key ≠ (.gauge, name)) :
    (t.upsert row).gauges.get? name = t.gauges.get? name := by
  rw [get?_gauges_upsert]
  cases row with
  | counter other delta => rfl
  | gauge other x =>
    have hne : other ≠ name := fun e => h (by rw [Upsert.key, e])
    exact if_neg hne

/-! ## Rows with different keys -/

/-- Rows for other things leave a counter as it is. -/
theorem get?_counters_foldl {rows : List Upsert} {t : Tables} {name : String}
    (h : ∀ row ∈ rows, row.key ≠ (.counter, name)) :
    (rows.foldl upsert t).counters.get? name = t.counters.get? name := by
  induction rows generalizing t with
  | nil => rfl
  | cons row rest ih =>
    rw [List.foldl_cons, ih fun r hr => h r (List.mem_cons_of_mem _ hr),
      get?_counters_of_key_ne (h row List.mem_cons_self)]

/-- Rows for other things leave a gauge as it is. -/
theorem get?_gauges_foldl {rows : List Upsert} {t : Tables} {name : String}
    (h : ∀ row ∈ rows, row.key ≠ (.gauge, name)) :
    (rows.foldl upsert t).gauges.get? name = t.gauges.get? name := by
  induction rows generalizing t with
  | nil => rfl
  | cons row rest ih =>
    rw [List.foldl_cons, ih fun r hr => h r (List.mem_cons_of_mem _ hr),
      get?_gauges_of_key_ne (h row List.mem_cons_self)]

/-- A counter row is added to what the tables held before all rows. -/
theorem get?_counters_foldl_of_mem {rows : List Upsert} {t : Tables} {name : String} {delta : Int64}
    (hkeys : (rows.map Upsert.key).Nodup) (h : .counter name delta ∈ rows) :
    (rows.foldl upsert t).counters.get? name = some (t.cellAfter name delta) := by
  induction rows generalizing t with
  | nil => cases h
  | cons row rest ih =>
    rw [List.map_cons, List.nodup_cons] at hkeys
    obtain ⟨hfirst, hrest⟩ := hkeys
    rw [List.foldl_cons]
    rcases List.mem_cons.1 h with rfl | hmem
    · -- no later row is for the same counter
      rw [get?_counters_foldl, get?_counters_upsert]
      · exact if_pos rfl
      · exact fun r hr hkey => hfirst (List.mem_map.2 ⟨r, hr, hkey⟩)
    · -- the first row is for something else, so the cell is still the one of `t`
      have hne : row.key ≠ (.counter, name) := fun hkey =>
        hfirst (List.mem_map.2 ⟨_, hmem, hkey.symm⟩)
      rw [ih hrest hmem, cellAfter, get?_counters_of_key_ne hne]
      rfl

/-- A gauge row takes the place of what the tables held. -/
theorem get?_gauges_foldl_of_mem {rows : List Upsert} {t : Tables} {name : String} {x : Binary64}
    (hkeys : (rows.map Upsert.key).Nodup) (h : .gauge name x ∈ rows) :
    (rows.foldl upsert t).gauges.get? name = some x.withoutNegativeZero := by
  induction rows generalizing t with
  | nil => cases h
  | cons row rest ih =>
    rw [List.map_cons, List.nodup_cons] at hkeys
    obtain ⟨hfirst, hrest⟩ := hkeys
    rw [List.foldl_cons]
    rcases List.mem_cons.1 h with rfl | hmem
    · rw [get?_gauges_foldl, get?_gauges_upsert]
      · exact if_pos rfl
      · exact fun r hr hkey => hfirst (List.mem_map.2 ⟨r, hr, hkey⟩)
    · exact ih hrest hmem

end Tables

namespace Relational

/-! ## The rows of a folded batch -/

/-- The counter rows of a folded batch are its sums. -/
theorem counter_mem_rowsOf {s : Snapshot} {name : String} {delta : Int64} :
    .counter name delta ∈ rowsOf s ↔ s.counters.get? name = some delta := by
  rw [← Series.mem_toList_iff]
  simp [rowsOf]

/-- The gauge rows of a folded batch are its last values. -/
theorem gauge_mem_rowsOf {s : Snapshot} {name : String} {x : Binary64} :
    .gauge name x ∈ rowsOf s ↔ s.gauges.get? name = some x := by
  rw [← Series.mem_toList_iff]
  simp [rowsOf]

/-- A folded batch has one row for a name and a kind. -/
theorem nodup_keys {α : Type} (kind : Kind) (s : Series α) :
    (s.toList.map fun p => (kind, p.1)).Nodup := by
  rw [List.Nodup, List.pairwise_map]
  refine (List.pairwise_map.1 (Series.nodup_names s)).imp ?_
  intro p q hne heq
  exact hne (Prod.mk.inj heq).2

/-- No two rows of a folded batch are for one name and kind. -/
theorem nodup_keys_rowsOf (s : Snapshot) : ((rowsOf s).map Upsert.key).Nodup := by
  rw [rowsOf, List.map_append, List.map_map, List.map_map]
  refine List.nodup_append.2 ⟨nodup_keys .counter s.counters, nodup_keys .gauge s.gauges, ?_⟩
  rintro key hcounter other hgauge rfl
  obtain ⟨p, -, hp⟩ := List.mem_map.1 hcounter
  obtain ⟨q, -, hq⟩ := List.mem_map.1 hgauge
  rw [← hp] at hq
  cases hq

/-- The rows of a folded batch do the same to the tables in any order. -/
theorem takes_of_perm (t : Tables) {totals : Snapshot} {rows : List Upsert}
    (hperm : rows.Perm (rowsOf totals)) : t.Takes totals (rows.foldl Tables.upsert t) := by
  have hkeys : (rows.map Upsert.key).Nodup :=
    (hperm.map Upsert.key).nodup_iff.2 (nodup_keys_rowsOf totals)
  -- No two rows have one key, so the order in which they are written does not matter.
  refine ⟨fun name => ?_, fun name => ?_⟩
  · cases hget : totals.counters.get? name with
    | some delta =>
      exact Tables.get?_counters_foldl_of_mem hkeys (hperm.mem_iff.2 (counter_mem_rowsOf.2 hget))
    | none =>
      refine Tables.get?_counters_foldl fun row hrow hkey => ?_
      cases row with
      | counter other delta =>
        cases hkey
        rw [counter_mem_rowsOf.1 (hperm.mem_iff.1 hrow)] at hget
        cases hget
      | gauge other x => cases hkey
  · cases hget : totals.gauges.get? name with
    | some x =>
      exact Tables.get?_gauges_foldl_of_mem hkeys (hperm.mem_iff.2 (gauge_mem_rowsOf.2 hget))
    | none =>
      refine Tables.get?_gauges_foldl fun row hrow hkey => ?_
      cases row with
      | counter other delta => cases hkey
      | gauge other x =>
        cases hkey
        rw [gauge_mem_rowsOf.1 (hperm.mem_iff.1 hrow)] at hget
        cases hget

end Relational

/-! ## Counters in exact integers -/

namespace Tables

variable {t next : Tables} {totals : Snapshot} {metrics : List Metric} {name : String}

/-- A delta is added exactly if the sum fits. -/
theorem cellAfter_of_fits (hread : t.Readable) {delta : Int64}
    (h : FitsInt64 (t.stored name + delta.toInt)) :
    t.cellAfter name delta = .whole (Int64.ofInt (t.stored name + delta.toInt)) := by
  unfold stored at h ⊢
  unfold cellAfter
  cases hget : t.counters.get? name with
  | none => simp
  | some cell =>
    obtain ⟨n, rfl⟩ := hread name cell hget
    rw [hget] at h
    exact Cell.add_whole_of_fits h

/-- A counter whose sum does not fit is a counter no longer. -/
theorem cellAfter_of_overflow (hread : t.Readable) {delta : Int64}
    (h : ¬ FitsInt64 (t.stored name + delta.toInt)) : ∃ r, t.cellAfter name delta = .real r := by
  unfold stored at h
  unfold cellAfter
  cases hget : t.counters.get? name with
  | none =>
    -- a new counter takes the delta itself
    rw [hget] at h
    refine absurd (fitsInt64_toInt delta) ?_
    simpa using h
  | some cell =>
    obtain ⟨n, rfl⟩ := hread name cell hget
    rw [hget] at h
    exact Cell.add_whole_of_overflow h

/-- `next` holds what `t` held and, for every counter that some of the metrics are for, the exact
sum if it fits and a real number if it does not. -/
structure Adds (t : Tables) (metrics : List Metric) (next : Tables) : Prop where
  untouched : ∀ name, entriesOf name .counter metrics = [] →
    next.counters.get? name = t.counters.get? name
  whole : ∀ name, entriesOf name .counter metrics ≠ [] →
    FitsInt64 (t.stored name + deltaSum name metrics) →
    ∃ n, next.counters.get? name = some (.whole n) ∧
      n.toInt = t.stored name + deltaSum name metrics
  real : ∀ name, entriesOf name .counter metrics ≠ [] →
    ¬ FitsInt64 (t.stored name + deltaSum name metrics) →
    ∃ r, next.counters.get? name = some (.real r)

/-- A counter with a row takes the exact sum of the deltas of the batch. -/
theorem Takes.counter_of_touched (htakes : t.Takes totals next)
    (hgrows : Snapshot.Grows Snapshot.empty metrics totals)
    (hsome : entriesOf name .counter metrics ≠ []) :
    ∃ delta, next.counters.get? name = some (t.cellAfter name delta) ∧
      delta.toInt = deltaSum name metrics := by
  obtain ⟨delta, hrow, hdelta⟩ := hgrows.counter_of_touched hsome
  refine ⟨delta, ?_, hdelta.trans (Int.zero_add _)⟩
  rw [htakes.counter, hrow]
  rfl

/-- Tables that can be read add up the metrics of a folded batch. -/
theorem Takes.adds (hread : t.Readable) (htakes : t.Takes totals next)
    (hgrows : Snapshot.Grows Snapshot.empty metrics totals) : t.Adds metrics next where
  untouched := by
    intro name hnone
    have hrow : totals.counters.get? name = none := hgrows.counter_of_untouched hnone
    rw [htakes.counter, hrow]
    rfl
  whole := by
    intro name hsome hfits
    obtain ⟨delta, hcell, hdelta⟩ := htakes.counter_of_touched hgrows hsome
    rw [← hdelta] at hfits ⊢
    refine ⟨Int64.ofInt (t.stored name + delta.toInt), ?_, toInt_ofInt_of_fits hfits⟩
    rw [hcell, cellAfter_of_fits hread hfits]
  -- A sum out of range turns the cell into a real number, and the write notices nothing.
  real := by
    intro name hsome hover
    obtain ⟨delta, hcell, hdelta⟩ := htakes.counter_of_touched hgrows hsome
    rw [← hdelta] at hover
    obtain ⟨r, hr⟩ := cellAfter_of_overflow hread hover
    exact ⟨r, by rw [hcell, hr]⟩

/-- The number stored for a counter of readable tables fits. -/
theorem fits_stored (hread : t.Readable) (name : String) : FitsInt64 (t.stored name) := by
  unfold stored
  cases hget : t.counters.get? name with
  | none => exact fitsInt64_toInt 0
  | some cell =>
    obtain ⟨n, rfl⟩ := hread name cell hget
    exact fitsInt64_toInt n

/-- A counter that leaves the range is written to. -/
theorem touched_of_overflow (hread : t.Readable)
    (hover : ¬ FitsInt64 (t.stored name + deltaSum name metrics)) :
    entriesOf name .counter metrics ≠ [] := by
  intro hnone
  rw [deltaSum_eq_zero hnone, Int.add_zero] at hover
  exact hover (fits_stored hread name)

/-- The tables stay readable exactly if every sum fits. -/
theorem Adds.readable_iff (hread : t.Readable) (hadds : t.Adds metrics next) :
    next.Readable ↔ ∀ name, FitsInt64 (t.stored name + deltaSum name metrics) := by
  constructor
  · intro hnext name
    refine Classical.byContradiction fun hover => ?_
    obtain ⟨r, hr⟩ := hadds.real name (touched_of_overflow hread hover) hover
    obtain ⟨n, hn⟩ := hnext name _ hr
    cases hn
  · intro hfits name cell hcell
    by_cases hnone : entriesOf name .counter metrics = []
    · rw [hadds.untouched name hnone] at hcell
      exact hread name cell hcell
    · obtain ⟨n, hn, -⟩ := hadds.whole name hnone (hfits name)
      rw [hcell] at hn
      exact ⟨n, Option.some.inj hn⟩

end Tables

end Telemetry

import Telemetry.Proofs.Store.Memory
import Telemetry.Store.History

/-!
# What a store holds after any writes

`Reflects s accepted` says what a snapshot has to do with the metrics that were accepted: counters
are their exact sums and fit, gauges are their last values, and nothing else is there. It mentions
neither the order in which sums were formed nor the writes that were refused.

The invariant of a history is `Grows`: one step (`extend_keeps`) keeps it whether the write is
accepted or not, and a run is an induction over it. A store with a snapshot file goes through the
same history, whatever its saves do (`runFile_eq_run`).
-/

namespace Telemetry

/-- A snapshot holds what the accepted metrics make of an empty one. -/
structure Reflects (s : Snapshot) (accepted : List Metric) : Prop where
  count : ∀ name n, s.counters.get? name = some n → n.toInt = deltaSum name accepted
  fits : ∀ name, FitsInt64 (deltaSum name accepted)
  value : ∀ name x, s.gauges.get? name = some x → lastValue? name accepted = some x
  present : ∀ name kind, (s.get? name kind).isSome ↔ ∃ m ∈ accepted, m.id = name ∧ m.kind = kind
  valid : ∀ name kind m, s.get? name kind = some m → m.validate = .ok ()

/-! ## From growth to contents -/

/-- A list has metrics of a name and a kind if one of its metrics has them. -/
theorem entriesOf_ne_nil_iff {name : String} {kind : Kind} {metrics : List Metric} :
    entriesOf name kind metrics ≠ [] ↔ ∃ m ∈ metrics, m.id = name ∧ m.kind = kind := by
  rw [ne_eq, List.eq_nil_iff_forall_not_mem]
  simp [mem_entriesOf]

/-- A counter is present once a metric for it was accepted. -/
theorem isSome_countAfter (name : String) (metrics : List Metric) :
    (countAfter name none metrics).isSome ↔ ∃ m ∈ metrics, m.id = name ∧ m.kind = .counter := by
  rw [← entriesOf_ne_nil_iff]
  unfold countAfter
  split
  · next h => simp [h]
  · next h => simp [h]

/-- A gauge is present once a metric for it was accepted. -/
theorem isSome_lastValue? (name : String) (metrics : List Metric) :
    (lastValue? name metrics).isSome ↔ ∃ m ∈ metrics, m.id = name ∧ m.kind = .gauge := by
  rw [← entriesOf_ne_nil_iff]
  unfold lastValue?
  rw [Option.isSome_map, List.getLast?_isSome]

/-- The last value for a gauge is the value of one of its metrics. -/
theorem mem_of_lastValue? {name : String} {metrics : List Metric} {x : Binary64}
    (h : lastValue? name metrics = some x) :
    ∃ m ∈ metrics, m.id = name ∧ m.kind = .gauge ∧ m.value.getD Binary64.zero = x := by
  obtain ⟨m, hm, hx⟩ := Option.map_eq_some_iff.1 h
  obtain ⟨hmem, hname, hkind⟩ := mem_entriesOf.1 (List.mem_of_getLast? hm)
  exact ⟨m, hmem, hname, hkind, hx⟩

/-- A snapshot that has grown from nothing by accepted metrics reflects them. -/
theorem reflects_of_grows {s : Snapshot} {accepted : List Metric}
    (hgrows : Snapshot.Grows Snapshot.empty accepted s)
    (hvalid : ∀ m ∈ accepted, m.validate = .ok ()) : Reflects s accepted := by
  have hcount : ∀ name, s.count? name = countAfter name none accepted := hgrows.count
  have hgauge : ∀ name, s.gauges.get? name = lastValue? name accepted := fun name => by
    rw [hgrows.gauge name]
    exact Option.or_none
  have hsum : ∀ name n, s.counters.get? name = some n → n.toInt = deltaSum name accepted := by
    intro name n hn
    have hname := hcount name
    simp only [Snapshot.count?, hn, Option.map_some, countAfter] at hname
    split at hname
    · cases hname
    · simpa using hname
  have hpresent : ∀ name kind,
      (s.get? name kind).isSome ↔ ∃ m ∈ accepted, m.id = name ∧ m.kind = kind := by
    intro name kind
    cases kind with
    | counter =>
      rw [← isSome_countAfter, ← hcount]
      simp [Snapshot.get?, Snapshot.count?]
    | gauge =>
      rw [← isSome_lastValue?, ← hgauge]
      simp [Snapshot.get?]
  -- A sum fits because it is what the store holds, and where the store holds nothing it is zero.
  refine ⟨hsum, fun name => ?_, fun name x hx => (hgauge name).symm.trans hx, hpresent, ?_⟩
  · cases hget : s.counters.get? name with
    | some n => exact hsum name n hget ▸ fitsInt64_toInt n
    | none =>
      -- no accepted metric is for the counter, so the sum is the empty one
      have hnone : entriesOf name .counter accepted = [] := by
        refine Classical.byContradiction fun hne => ?_
        have hsome := (hpresent name .counter).2 (entriesOf_ne_nil_iff.1 hne)
        simp [Snapshot.get?, hget] at hsome
      rw [deltaSum_eq_zero hnone]
      exact fitsInt64_toInt 0
  · intro name kind m hm
    obtain ⟨a, ha, rfl, rfl⟩ := (hpresent name kind).1 (by simp [hm])
    have hid := Metric.id_ne_empty_of_validate (hvalid a ha)
    cases hkind : a.kind with
    | counter =>
      rw [hkind] at hm
      obtain ⟨n, -, rfl⟩ := Option.map_eq_some_iff.1 hm
      exact Metric.validate_counter hid n
    | gauge =>
      rw [hkind] at hm
      obtain ⟨x, hx, rfl⟩ := Option.map_eq_some_iff.1 hm
      obtain ⟨b, hb, -, -, rfl⟩ := mem_of_lastValue? ((hgauge _).symm.trans hx)
      exact Metric.validate_gauge hid (Metric.isFinite_valueOrZero_of_validate (hvalid b hb))

/-! ## Finite gauges -/

namespace Snapshot

/-- All gauges are finite. -/
def AllFinite (s : Snapshot) : Prop :=
  ∀ name x, s.gauges.get? name = some x → x.isFinite = true

theorem allFinite_empty : empty.AllFinite := by
  intro name x h
  cases h

theorem AllFinite.of_mem {s : Snapshot} (hfinite : s.AllFinite) {p : String × Binary64}
    (hp : p ∈ s.gauges.toList) : p.2.isFinite = true :=
  hfinite p.1 p.2 (Series.mem_toList_iff.1 hp)

/-- Accepted metrics leave the gauges finite. -/
theorem AllFinite.of_grows {s next : Snapshot} {metrics : List Metric} (hfinite : s.AllFinite)
    (hgrows : Grows s metrics next) (hvalid : ∀ m ∈ metrics, m.validate = .ok ()) :
    next.AllFinite := by
  intro name x hx
  rw [hgrows.gauge, gaugeAfter] at hx
  cases hlast : lastValue? name metrics with
  | none =>
    rw [hlast] at hx
    exact hfinite name x hx
  | some y =>
    rw [hlast] at hx
    cases hx
    obtain ⟨m, hm, -, -, rfl⟩ := mem_of_lastValue? hlast
    exact Metric.isFinite_valueOrZero_of_validate (hvalid m hm)

end Snapshot

/-! ## The writes among events -/

/-- What is picked from the first of some events comes before what is picked from the others. -/
theorem filterMap_cons_eq {α β : Type} (pick : α → Option β) (a : α) (rest : List α) :
    (a :: rest).filterMap pick = (pick a).toList ++ rest.filterMap pick := by
  cases h : pick a with
  | none => exact List.filterMap_cons_none h
  | some b => exact List.filterMap_cons_some h

/-! ## One write -/

namespace Write

variable {s next : Snapshot} {m stored : Metric} {metrics : List Metric} {e : MetricError}

theorem perform_one_of_ok (h : Memory.create s m = (.ok stored, next)) :
    (one m).perform s = (.ok (some stored), next) := by
  rw [perform, create_snapshot, h]
  rfl

theorem perform_one_of_error (h : Memory.create s m = (.error e, next)) :
    (one m).perform s = (.error (.invalid e), next) := by
  rw [perform, create_snapshot, h]
  rfl

theorem perform_batch_of_ok (h : Memory.createAll s metrics = .ok next) :
    (batch metrics).perform s = (.ok none, next) := by
  rw [perform, createAll_snapshot, h]
  rfl

theorem perform_batch_of_error (h : Memory.createAll s metrics = .error e) :
    (batch metrics).perform s = (.error (.invalid e), s) := by
  rw [perform, createAll_snapshot, h]
  rfl

end Write

/-- A write is accepted and the snapshot grows by its metrics, or it is refused and the snapshot is
as it was. -/
theorem perform_cases (s : Snapshot) (w : Write) :
    (∃ answer next, w.perform s = (.ok answer, next) ∧ Snapshot.Grows s w.metrics next ∧
      ∀ m ∈ w.metrics, m.validate = .ok ()) ∨
      ∃ e, w.perform s = (.error (.invalid e), s) := by
  -- A single metric and a batch are stored by different code, and both grow the store or leave it.
  cases w with
  | one m =>
    rcases Memory.create_cases s m with ⟨stored, next, hcreate, hvalid, happly⟩ | ⟨e, hcreate⟩
    · refine .inl ⟨some stored, next, Write.perform_one_of_ok hcreate,
        Snapshot.grows_of_apply happly, ?_⟩
      simpa [Write.metrics] using hvalid
    · exact .inr ⟨e, Write.perform_one_of_error hcreate⟩
  | batch metrics =>
    cases hall : Memory.createAll s metrics with
    | ok next =>
      obtain ⟨hvalid, happly⟩ := Memory.createAll_eq_ok_iff.1 hall
      exact .inl ⟨none, next, Write.perform_batch_of_ok hall, Snapshot.grows_of_applyAll happly,
        hvalid⟩
    | error e => exact .inr ⟨e, Write.perform_batch_of_error hall⟩

/-- A write is accepted exactly if each of its metrics is valid and no running sum leaves the
range. -/
theorem perform_isOk_iff {s : Snapshot} {w : Write} :
    (∃ answer next, w.perform s = (.ok answer, next)) ↔
      (∀ m ∈ w.metrics, m.validate = .ok ()) ∧
        ∀ before, before <+: w.metrics → ∀ name,
          FitsInt64 ((s.count? name).getD 0 + deltaSum name before) := by
  rw [← Snapshot.applyAll_isOk_iff]
  -- The right side speaks of batches; a single metric is a batch of one.
  cases w with
  | one m =>
    simp only [Write.metrics, List.forall_mem_singleton, Snapshot.applyAll_singleton]
    constructor
    · rintro ⟨answer, next, h⟩
      rcases Memory.create_cases s m with ⟨stored, last, -, hvalid, happly⟩ | ⟨e, hcreate⟩
      · exact ⟨hvalid, last, by rw [happly]; rfl⟩
      · rw [Write.perform_one_of_error hcreate] at h
        cases h
    · rintro ⟨hvalid, last, h⟩
      cases happly : s.apply m with
      | error e =>
        rw [happly] at h
        cases h
      | ok p =>
        have hcreate := Memory.create_eq_ok_iff.2 ⟨hvalid, happly⟩
        exact ⟨some p.1, p.2, Write.perform_one_of_ok hcreate⟩
  | batch metrics =>
    simp only [Write.metrics, ← exists_and_left, ← Memory.createAll_eq_ok_iff]
    constructor
    · rintro ⟨answer, next, h⟩
      cases hall : Memory.createAll s metrics with
      | ok last => exact ⟨last, rfl⟩
      | error e =>
        rw [Write.perform_batch_of_error hall] at h
        cases h
    · rintro ⟨last, hall⟩
      exact ⟨none, last, Write.perform_batch_of_ok hall⟩

namespace History

/-- The invariant of a history that starts with nothing. -/
structure Sound (h : History Snapshot) : Prop where
  grows : Snapshot.Grows Snapshot.empty h.accepted h.store
  valid : ∀ m ∈ h.accepted, m.validate = .ok ()

/-- The history that begins with an empty store is sound. -/
theorem sound_start : Sound (start Snapshot.empty) :=
  ⟨.nil _, fun _ hm => nomatch hm⟩

/-- One write keeps the invariant, whether it is accepted or refused. -/
theorem Sound.extend {h : History Snapshot} (hsound : h.Sound) (w : Write) :
    (h.extend w).Sound := by
  rcases perform_cases h.store w with ⟨answer, next, hw, hgrows, hvalid⟩ | ⟨e, hw⟩
  · simp only [History.extend, hw]
    refine ⟨hsound.grows.append hgrows, fun m hm => ?_⟩
    rcases List.mem_append.1 hm with hm | hm
    · exact hsound.valid m hm
    · exact hvalid m hm
  · simp only [History.extend, hw]
    exact hsound

/-- Any further writes keep a history sound, whether they are accepted or refused. -/
theorem Sound.foldl {h : History Snapshot} (hsound : h.Sound) (writes : List Write) :
    (writes.foldl History.extend h).Sound := by
  induction writes generalizing h with
  | nil => exact hsound
  | cons w rest ih => exact ih (hsound.extend w)

/-- Every history of writes to an empty store in memory keeps the invariant. -/
theorem sound_run (writes : List Write) : (run Snapshot.empty writes).Sound :=
  sound_start.foldl writes

/-- A sound history has finite gauges. -/
theorem Sound.allFinite {h : History Snapshot} (hsound : h.Sound) : h.store.AllFinite :=
  Snapshot.allFinite_empty.of_grows hsound.grows hsound.valid

/-- In a sound history the store holds what the accepted metrics make. -/
theorem Sound.reflects {h : History Snapshot} (hsound : h.Sound) : Reflects h.store h.accepted :=
  reflects_of_grows hsound.grows hsound.valid

/-- In a sound history a counter is the sum of the accepted deltas, and zero where there are none.
-/
theorem Sound.getD_count? {h : History Snapshot} (hsound : h.Sound) (name : String) :
    (h.store.count? name).getD 0 = deltaSum name h.accepted := by
  rw [hsound.grows.count, getD_countAfter]
  exact Int.zero_add _

/-- What is stored for a name and a kind depends on the accepted metrics of this name and kind. -/
theorem Sound.get?_congr {h other : History Snapshot} (hsound : h.Sound) (hother : other.Sound)
    {name : String} {kind : Kind}
    (hentries : entriesOf name kind h.accepted = entriesOf name kind other.accepted) :
    h.store.get? name kind = other.store.get? name kind := by
  cases kind with
  | counter =>
    have hcount : h.store.count? name = other.store.count? name := by
      rw [hsound.grows.count, hother.grows.count, countAfter, countAfter, deltaSum, deltaSum,
        hentries]
    have hget : h.store.counters.get? name = other.store.counters.get? name :=
      Option.map_injective (fun _ _ => Int64.toInt_inj.1) hcount
    simp only [Snapshot.get?, hget]
  | gauge =>
    have hget : h.store.gauges.get? name = other.store.gauges.get? name := by
      rw [hsound.grows.gauge, hother.grows.gauge, gaugeAfter, gaugeAfter, lastValue?, lastValue?,
        hentries]
    simp only [Snapshot.get?, hget]

end History

/-! ## The store with a snapshot file -/

namespace SnapshotFile

/-- What follows a write leaves the store alone, whatever becomes of the save. -/
theorem afterWrite_fst {α : Type} (f : SnapshotFile) (d : Disk) (a : α) :
    (f.afterWrite d a).2.1 = f := by
  unfold afterWrite
  split
  · split <;> rfl
  · rfl

/-- A failing save is no refusal. -/
theorem isRefused_afterWrite {α : Type} (f : SnapshotFile) (d : Disk) (a : α) :
    History.isRefused (f.afterWrite d a).1 = false := by
  unfold afterWrite save Snapshot.save
  split
  · split
    · rfl
    · next h =>
      split at h <;> cases h
      rfl
  · rfl

/-- A save that follows a write and succeeds passes the answer on. -/
theorem ok_of_afterWrite {α : Type} {f next : SnapshotFile} {d last : Disk} {a b : α}
    (h : f.afterWrite d a = (.ok b, next, last)) : b = a ∧ next = f := by
  unfold afterWrite at h
  split at h
  · split at h <;> cases h
    exact ⟨rfl, rfl⟩
  · cases h
    exact ⟨rfl, rfl⟩

end SnapshotFile

/-- A write to a store with a snapshot file does in memory what it does to the store in memory. -/
theorem contents_performOn (d : Disk) (f : SnapshotFile) (w : Write) :
    (w.performOn d f).2.1.contents = (w.perform f.contents).2 := by
  cases w with
  | one m =>
    simp only [Write.performOn, Write.perform, SnapshotFile.create, create_snapshot]
    split
    · next hcreate => rw [SnapshotFile.afterWrite_fst, hcreate]
    · next hcreate => rw [hcreate]
  | batch metrics =>
    simp only [Write.performOn, Write.perform, SnapshotFile.createAll, createAll_snapshot]
    split
    · next hcreate => rw [SnapshotFile.afterWrite_fst, hcreate]; rfl
    · next hcreate => rw [hcreate]; rfl

/-- The metrics of a write are refused by a store with a snapshot file exactly if they are refused
by the store in memory. -/
theorem isRefused_performOn (d : Disk) (f : SnapshotFile) (w : Write) :
    History.isRefused (w.performOn d f).1 = History.isRefused (w.perform f.contents).1 := by
  have hmap : ∀ {α β : Type} (g : α → β) (r : Except StoreError α),
      History.isRefused (r.map g) = History.isRefused r := fun g r => by cases r <;> rfl
  cases w with
  | one m =>
    simp only [Write.performOn, Write.perform, SnapshotFile.create, create_snapshot, hmap]
    split
    · next hcreate => rw [SnapshotFile.isRefused_afterWrite, hcreate]; rfl
    · next hcreate => rw [hcreate]; rfl
  | batch metrics =>
    simp only [Write.performOn, Write.perform, SnapshotFile.createAll, createAll_snapshot, hmap]
    split
    · next hcreate => rw [SnapshotFile.isRefused_afterWrite, hcreate]; rfl
    · next hcreate => rw [hcreate]; rfl

namespace History

/-- The history of a store in memory takes the metrics in unless they are refused. -/
theorem extend_eq (h : History Snapshot) (w : Write) :
    h.extend w =
      ⟨(w.perform h.store).2,
        if isRefused (w.perform h.store).1 then h.accepted else h.accepted ++ w.metrics⟩ := by
  rcases perform_cases h.store w with ⟨answer, next, hw, -, -⟩ | ⟨e, hw⟩ <;>
    simp [extend, hw, isRefused, StoreError.isInvalid]

/-- The store of a history after one write more. -/
theorem store_extend (h : History Snapshot) (w : Write) :
    (h.extend w).store = (w.perform h.store).2 := by
  rw [extend_eq]

/-- The last write of a run starts from what the others have left. -/
theorem store_run_append (s : Snapshot) (writes : List Write) (w : Write) :
    (run s (writes ++ [w])).store = (w.perform (run s writes).store).2 := by
  rw [← store_extend, run, run, List.foldl_append]
  rfl

/-- What writes make of a store does not depend on what has been accepted before them. -/
theorem store_foldl (h : History Snapshot) (writes : List Write) :
    (writes.foldl extend h).store = writes.foldl (fun s w => (w.perform s).2) h.store := by
  induction writes generalizing h with
  | nil => rfl
  | cons w rest ih => rw [List.foldl_cons, ih, store_extend, List.foldl_cons]

/-- A history goes on where another one has ended. -/
theorem store_run_run (s : Snapshot) (writes later : List Write) :
    (run (run s writes).store later).store = (run s (writes ++ later)).store := by
  simp only [run, store_foldl, start, List.foldl_append]

/-- What a store with a snapshot file holds in memory, with the accepted metrics. -/
def inMemory (h : History SnapshotFile) : History Snapshot := ⟨h.store.contents, h.accepted⟩

/-- An event of a store with a file does to the part in memory what its write does, if it has one.
-/
theorem inMemory_extendFile (h : History SnapshotFile) (d : Disk) (e : FileEvent) :
    (h.extendFile (d, e)).inMemory = e.write?.toList.foldl extend h.inMemory := by
  cases e with
  | write w =>
    simp only [FileEvent.write?, Option.toList, List.foldl_cons, List.foldl_nil, extend_eq]
    show History.mk (w.performOn d h.store).2.1.contents
      (if isRefused (w.performOn d h.store).1 then h.accepted else h.accepted ++ w.metrics) = _
    rw [contents_performOn, isRefused_performOn]
    rfl
  | saved now =>
    show inMemory ⟨h.store.afterSave now, h.accepted⟩ = h.inMemory
    simp only [inMemory, SnapshotFile.afterSave]
    split <;> rfl
  | close => rfl

/-- Saves and closings change nothing in memory: there a store with a snapshot file goes through the
history of its writes. -/
theorem inMemory_runFile (f : SnapshotFile) (events : List (Disk × FileEvent)) :
    (runFile f events).inMemory = run f.contents (events.filterMap fun e => e.2.write?) := by
  suffices hfold : ∀ h : History SnapshotFile, (events.foldl extendFile h).inMemory =
      (events.filterMap fun e => e.2.write?).foldl extend h.inMemory from hfold (start f)
  induction events with
  | nil => exact fun h => rfl
  | cons e rest ih =>
    intro h
    rw [List.foldl_cons, ih, inMemory_extendFile]
    cases hw : e.2.write? <;> simp [hw]

end History

/-! ## The law -/

/-- What holds of a store and the metrics it has accepted after every write: it holds exactly what
they amount to, an accepted single metric is answered with what is then stored, a write is accepted
exactly if all its metrics are valid and no running sum leaves the range, and a refused one changes
nothing. -/
structure History.Lawful (h : History Snapshot) : Prop where
  reflects : Reflects h.store h.accepted
  answer : ∀ m stored next, Store.create h.store m = (.ok stored, next) →
    next.get? m.id m.kind = some stored
  accepts : ∀ w : Write, (∃ answer next, w.perform h.store = (.ok answer, next)) ↔
    (∀ m ∈ w.metrics, m.validate = .ok ()) ∧
      ∀ before, before <+: w.metrics → ∀ name, FitsInt64 (deltaSum name (h.accepted ++ before))
  refuses : ∀ (w : Write) e next, w.perform h.store = (.error e, next) → next = h.store

/-- What a write of one metric answers is what is read next. -/
theorem get?_of_create {s next : Snapshot} {m stored : Metric}
    (h : Memory.create s m = (.ok stored, next)) : next.get? m.id m.kind = some stored :=
  Snapshot.get?_of_apply (Memory.create_eq_ok_iff.1 h).2

/-- The law of a store, part by part, from the soundness of its history. -/
theorem History.Sound.lawful {h : History Snapshot} (hsound : h.Sound) : h.Lawful where
  reflects := hsound.reflects
  answer := by
    intro m stored next hcreate
    rw [create_snapshot] at hcreate
    rcases Memory.create_cases h.store m with ⟨answer, last, hanswer, -, -⟩ | ⟨e, hanswer⟩
    · rw [hanswer] at hcreate
      cases hcreate
      exact get?_of_create hanswer
    · rw [hanswer] at hcreate
      cases hcreate
  accepts := by
    intro w
    rw [perform_isOk_iff]
    simp only [hsound.getD_count?, deltaSum_append]
  refuses := by
    intro w e next hw
    -- An accepted write answers with no error; a refused one leaves the store as it was.
    rcases perform_cases h.store w with ⟨answer, last, hanswer, -, -⟩ | ⟨e, hanswer⟩
    · rw [hanswer] at hw
      cases hw
    · rw [hanswer] at hw
      cases hw
      rfl

/-- **Every history of writes to an empty store.** The law holds after any writes, in whatever order
the writes of the clients come and whichever of them are refused. What is stored for a name and a
kind depends on the accepted metrics of this name and kind alone. A store with a snapshot file goes
through the same histories in memory, whatever becomes of its saves. -/
theorem store_reflects_accepted :
    (∀ writes : List Write, (History.run Snapshot.empty writes).Lawful) ∧
    (∀ (writes others : List Write) (name : String) (kind : Kind),
      entriesOf name kind (History.run Snapshot.empty writes).accepted
          = entriesOf name kind (History.run Snapshot.empty others).accepted →
        (History.run Snapshot.empty writes).store.get? name kind
          = (History.run Snapshot.empty others).store.get? name kind) ∧
    ∀ (f : SnapshotFile) (events : List (Disk × FileEvent)),
      let h := History.runFile { f with contents := Snapshot.empty } events
      h.inMemory = History.run Snapshot.empty (events.filterMap fun e => e.2.write?) ∧
      h.inMemory.Lawful ∧
      ∀ d m stored next last, h.store.create d m = (.ok stored, next, last) →
        next.contents.get? m.id m.kind = some stored := by
  refine ⟨fun writes => (History.sound_run writes).lawful,
    fun writes others name kind => (History.sound_run writes).get?_congr (History.sound_run others),
    fun f events => ?_⟩
  -- With a snapshot file the answer may be the failure of a save; the part in memory does not
  -- depend on that.
  have hmemory := History.inMemory_runFile { f with contents := Snapshot.empty } events
  refine ⟨hmemory, ?_, fun d m stored next last h => ?_⟩
  · rw [hmemory]
    exact (History.sound_run _).lawful
  · unfold SnapshotFile.create at h
    split at h
    · next answer after hcreate =>
      obtain ⟨rfl, rfl⟩ := SnapshotFile.ok_of_afterWrite h
      exact get?_of_create hcreate
    · cases h

/-- A gauge of the same name and a refused batch are not seen by a counter. -/
theorem get?_counter_beside_gauge :
    entriesOf "c" .counter (History.run Snapshot.empty
        [.one (Metric.counter "c" 5), .one (Metric.gauge "c" Binary64.zero),
          .batch [Metric.counter "c" 1, Metric.counter "c" Int64.maxValue]]).accepted
      = entriesOf "c" .counter (History.run Snapshot.empty [.one (Metric.counter "c" 5)]).accepted ∧
    (History.run Snapshot.empty
        [.one (Metric.counter "c" 5), .one (Metric.gauge "c" Binary64.zero),
          .batch [Metric.counter "c" 1, Metric.counter "c" Int64.maxValue]]).store.get? "c" .counter
      = (History.run Snapshot.empty [.one (Metric.counter "c" 5)]).store.get? "c" .counter := by
  have hentries : entriesOf "c" .counter (History.run Snapshot.empty
        [.one (Metric.counter "c" 5), .one (Metric.gauge "c" Binary64.zero),
          .batch [Metric.counter "c" 1, Metric.counter "c" Int64.maxValue]]).accepted
      = entriesOf "c" .counter
        (History.run Snapshot.empty [.one (Metric.counter "c" 5)]).accepted := by
    decide +kernel
  exact ⟨hentries, store_reflects_accepted.2.1 _ _ "c" .counter hentries⟩

end Telemetry

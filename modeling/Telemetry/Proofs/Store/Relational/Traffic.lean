import Telemetry.Proofs.Store.History
import Telemetry.Proofs.Store.Relational.Write
import Telemetry.Store.Relational.Traffic

/-!
# What a reading sees

A reading shows the counters of the moment of its first query and the gauges of the moment of its
last one (`Traced`). It shows the contents of a single moment if what is written in between leaves
the counters alone up to that moment and the gauges from then on (`read_between_writes`), and may
show something that was never stored otherwise (`torn_reading`).
-/

namespace Telemetry

namespace Relational

variable {t : Tables} {w : Write}

/-! ## One kind at a time -/

/-- A write to a store at work leaves the tables alone, or they take its folded metrics. -/
theorem perform_takes (t : Tables) (a : Arrangement) (w : Write) :
    ∃ next, ((serving t).perform a w).2 = serving next ∧
      (next = t ∨ ∃ totals, fold w.metrics = .ok totals ∧ t.Takes totals next) := by
  -- A write that is refused leaves the tables; one that is not has taken its folded rows.
  by_cases hvalid : ∀ m ∈ w.metrics, m.validate = .ok ()
  · cases w with
    | one m =>
      rw [perform_one (hvalid m (by simp [Write.metrics]))]
      split
      · exact ⟨_, rfl, .inr (takes_upsert t m)⟩
      · exact ⟨t, rfl, .inl rfl⟩
    | batch metrics =>
      have hmetrics : ∀ m ∈ metrics, m.validate = .ok () := hvalid
      rw [perform_batch hmetrics]
      cases hfold : fold metrics with
      | ok totals => exact ⟨_, rfl, .inr ⟨totals, hfold, takes_of_perm t (a.perm _)⟩⟩
      | error e => exact ⟨t, rfl, .inl rfl⟩
  · obtain ⟨e, hrefused⟩ := perform_of_invalid (t := t) (a := a) hvalid
    exact ⟨t, by rw [hrefused], .inl rfl⟩

/-- A list of one kind has no metrics of the other. -/
theorem entriesOf_eq_nil {metrics : List Metric} {kind other : Kind} (hne : other ≠ kind)
    (h : ∀ m ∈ metrics, m.kind = other) (name : String) : entriesOf name kind metrics = [] := by
  refine List.eq_nil_iff_forall_not_mem.2 fun m hm => ?_
  obtain ⟨hmem, -, hkind⟩ := mem_entriesOf.1 hm
  exact hne ((h m hmem).symm.trans hkind)

/-- Gauges leave the counters alone, and counters the gauges. -/
theorem perform_kinds (t : Tables) (a : Arrangement) (w : Write) :
    ∃ next, ((serving t).perform a w).2 = serving next ∧
      ((∀ m ∈ w.metrics, m.kind = .gauge) → next.counters = t.counters) ∧
      ((∀ m ∈ w.metrics, m.kind = .counter) → next.gauges = t.gauges) := by
  obtain ⟨next, hnext, rfl | ⟨totals, hfold, htakes⟩⟩ := perform_takes t a w
  · exact ⟨next, hnext, fun _ => rfl, fun _ => rfl⟩
  have hgrows := grows_of_fold hfold
  -- A fold of gauges has no counter rows, and a fold of counters no gauge rows.
  refine ⟨next, hnext, fun hgauges => Series.ext fun name => ?_,
    fun hcounters => Series.ext fun name => ?_⟩
  · have hrow : totals.counters.get? name = none :=
      hgrows.counter_of_untouched (entriesOf_eq_nil (by decide) hgauges name)
    rw [htakes.counter, hrow]
    rfl
  · have hrow : totals.gauges.get? name = none := by
      rw [hgrows.gauge, gaugeAfter, lastValue?, entriesOf_eq_nil (by decide) hcounters name]
      rfl
    rw [htakes.gauge, hrow]
    rfl

/-- So they do in any number of writes. -/
theorem writeAll_kinds (t : Tables) (writes : List (Arrangement × Write)) :
    ∃ next, (serving t).writeAll writes = serving next ∧
      ((∀ w ∈ writes, ∀ m ∈ w.2.metrics, m.kind = .gauge) → next.counters = t.counters) ∧
      ((∀ w ∈ writes, ∀ m ∈ w.2.metrics, m.kind = .counter) → next.gauges = t.gauges) := by
  induction writes generalizing t with
  | nil => exact ⟨t, rfl, fun _ => rfl, fun _ => rfl⟩
  | cons w rest ih =>
    obtain ⟨next, hnext, hcounters, hgauges⟩ := perform_kinds t w.1 w.2
    obtain ⟨last, hlast, hcounters', hgauges'⟩ := ih next
    have hall : (serving t).writeAll (w :: rest) = (serving next).writeAll rest := by
      rw [← hnext]
      rfl
    refine ⟨last, hall.trans hlast, fun h => ?_, fun h => ?_⟩
    · rw [List.forall_mem_cons] at h
      exact (hcounters' h.2).trans (hcounters h.1)
    · rw [List.forall_mem_cons] at h
      exact (hgauges' h.2).trans (hgauges h.1)

theorem writeAll_append (r : Relational) (before after : List (Arrangement × Write)) :
    r.writeAll (before ++ after) = (r.writeAll before).writeAll after :=
  List.foldl_append ..

/-! ## Two moments -/

theorem contentsOver_self (r : Relational) : contentsOver r r = r.contents := rfl

/-- Counters of one moment and gauges of another. -/
theorem contentsOver_serving (first last : Tables) :
    contentsOver (serving first) (serving last) =
      first.readCounters.map fun counters => ⟨counters, last.gauges⟩ := by
  cases hcounters : first.readCounters <;>
    simp [contentsOver, query, serving, Database.withTables, hcounters, Tables.readGauges, bind,
      Except.bind, pure, Except.pure, Except.map]

/-- What is written to the counters after a moment and to the gauges before it does not show. -/
theorem contentsOver_eq_contents (t : Tables) {before after : List (Arrangement × Write)}
    (hbefore : ∀ w ∈ before, ∀ m ∈ w.2.metrics, m.kind = .gauge)
    (hafter : ∀ w ∈ after, ∀ m ∈ w.2.metrics, m.kind = .counter) :
    contentsOver (serving t) ((serving t).writeAll (before ++ after)) =
      ((serving t).writeAll before).contents := by
  obtain ⟨middle, hmiddle, hcounters, -⟩ := writeAll_kinds t before
  obtain ⟨last, hlast, -, hgauges⟩ := writeAll_kinds middle after
  rw [writeAll_append, hmiddle, hlast, ← contentsOver_self, contentsOver_serving,
    contentsOver_serving, hgauges hafter, Tables.readCounters, Tables.readCounters,
    hcounters hbefore]

end Relational

/-! ## Readings -/

/-- What a point of a reading says about the store, which was `r` at first and has taken these
writes. -/
def ReadingPoint.Sees (r : Relational) (writes : List (Arrangement × Write)) (since : Nat) :
    ReadingPoint → Prop
  | .asked => since ≤ writes.length
  | .halfway first counters => since ≤ first ∧ first ≤ writes.length ∧
      (r.writeAll (writes.take first)).query Tables.readCounters = .ok counters
  | .answered first last result => since ≤ first ∧ first ≤ last ∧ last ≤ writes.length ∧
      result = (r.writeAll (writes.take first)).contentsOver (r.writeAll (writes.take last))

namespace ReadingPoint

/-- What has been read is not changed by a later write. -/
theorem Sees.append {r : Relational} {writes : List (Arrangement × Write)} {since : Nat}
    {p : ReadingPoint} (h : p.Sees r writes since) (w : Arrangement × Write) :
    p.Sees r (writes ++ [w]) since := by
  have hlength : writes.length ≤ (writes ++ [w]).length := by simp
  cases p with
  | asked => exact Nat.le_trans h hlength
  | halfway first counters =>
    obtain ⟨hsince, hfirst, hquery⟩ := h
    refine ⟨hsince, Nat.le_trans hfirst hlength, ?_⟩
    rwa [List.take_append_of_le_length hfirst]
  | answered first last result =>
    obtain ⟨hsince, hfirst, hlast, hresult⟩ := h
    refine ⟨hsince, hfirst, Nat.le_trans hlast hlength, ?_⟩
    rwa [List.take_append_of_le_length (Nat.le_trans hfirst hlast),
      List.take_append_of_le_length hlast]

end ReadingPoint

namespace Traffic

variable {t : Traffic} {r : Relational}

/-- The store is what the writes have made of it, and every reading has seen it at some moments. -/
structure Traced (r : Relational) (t : Traffic) : Prop where
  store : t.store = r.writeAll t.writes
  readings : ∀ reading ∈ t.readings, reading.point.Sees r t.writes reading.since

/-- Before anything is written or asked, the trace is empty. -/
theorem traced_fresh (r : Relational) : (fresh r).Traced r := ⟨rfl, List.forall_mem_nil _⟩

/-- A write adds itself to the trace and changes no reading. -/
theorem Traced.write (h : t.Traced r) (a : Arrangement) (w : Write) : (t.write a w).Traced r where
  store := by
    have hstore : (t.write a w).store = (t.store.perform a w).2 := rfl
    rw [hstore, h.store, Traffic.write, Relational.writeAll_append]
    rfl
  readings := fun reading hmem => (h.readings reading hmem).append (a, w)

/-- A reading that begins does so at the present moment. -/
theorem Traced.ask (h : t.Traced r) : t.ask.Traced r where
  store := h.store
  readings := List.forall_mem_append.2 ⟨h.readings, List.forall_mem_singleton.2 (Nat.le_refl _)⟩

/-- A reading goes on. -/
theorem Traced.put (h : t.Traced r) {i since : Nat} {old p : ReadingPoint}
    (hi : t.readings[i]? = some ⟨since, old⟩) (hp : p.Sees r t.writes since) :
    (t.put i p).Traced r where
  store := h.store
  readings := by
    intro reading hmem
    obtain ⟨j, hj⟩ := List.getElem?_of_mem hmem
    rw [Traffic.put, List.getElem?_modify] at hj
    split at hj
    · next hij =>
      subst hij
      rw [hi] at hj
      cases hj
      exact hp
    · exact h.readings reading (List.mem_of_getElem? (by simpa using hj))

/-- What the trace says of every reading stays true, event by event. -/
theorem Traced.step (h : t.Traced r) (e : TrafficEvent) : (t.step e).Traced r := by
  have hnow : r.writeAll (t.writes.take t.now) = t.store := by
    rw [now, List.take_length, h.store]
  -- A query looks at the store of this moment, which is what all writes so far have made.
  cases e with
  | write a w => exact h.write a w
  | ask => exact h.ask
  | readCounters i =>
    simp only [Traffic.step, readCounters]
    split
    · next since hi =>
      have hsince : since ≤ t.now := h.readings _ (List.mem_of_getElem? hi)
      split
      · next counters hquery =>
        exact h.put hi ⟨hsince, Nat.le_refl _, by rw [hnow, hquery]⟩
      · next e hquery =>
        refine h.put hi ⟨hsince, Nat.le_refl _, Nat.le_refl _, ?_⟩
        rw [hnow, Relational.contentsOver, hquery]
        rfl
    · exact h
  | readGauges i =>
    simp only [Traffic.step, readGauges]
    split
    · next since first counters hi =>
      obtain ⟨hsince, hfirst, hquery⟩ := h.readings _ (List.mem_of_getElem? hi)
      refine h.put hi ⟨hsince, hfirst, Nat.le_refl _, ?_⟩
      rw [hnow, Relational.contentsOver, hquery]
      cases t.store.query fun t => .ok t.readGauges <;> rfl
    · exact h

/-- What the trace says of every reading is true after any run. -/
theorem Traced.play (h : t.Traced r) (events : List TrafficEvent) : (t.play events).Traced r := by
  induction events generalizing t with
  | nil => exact h
  | cons e rest ih => exact ih (h.step e)

/-- Only writes are written. -/
theorem writes_step (t : Traffic) (e : TrafficEvent) :
    (t.step e).writes = t.writes ++ e.write?.toList := by
  cases e with
  | write a w => rfl
  | ask => exact (List.append_nil _).symm
  | readCounters i =>
    simp only [Traffic.step, readCounters]
    repeat' split
    all_goals exact (List.append_nil _).symm
  | readGauges i =>
    simp only [Traffic.step, readGauges]
    split <;> exact (List.append_nil _).symm

/-- The trace holds the writes of the run in their order. -/
theorem writes_play (t : Traffic) (events : List TrafficEvent) :
    (t.play events).writes = t.writes ++ events.filterMap TrafficEvent.write? := by
  induction events generalizing t with
  | nil => exact (List.append_nil _).symm
  | cons e rest ih =>
    have hplay : t.play (e :: rest) = (t.step e).play rest := rfl
    rw [hplay, ih, writes_step, List.append_assoc, filterMap_cons_eq]

/-- A reading that nobody interrupts answers with the contents of the store. -/
theorem readings_undisturbed (t : Traffic) :
    (t.play [.ask, .readCounters t.readings.length, .readGauges t.readings.length]).readings =
      t.readings ++ [⟨t.now, .answered t.now t.now t.store.contents⟩] := by
  have hlast : ∀ p, (t.readings ++ [FullReading.mk t.now p])[t.readings.length]?
      = some ⟨t.now, p⟩ := by
    simp
  have hput : ∀ p q, (Traffic.mk t.store t.writes (t.readings ++ [⟨t.now, p⟩])).put
      t.readings.length q = ⟨t.store, t.writes, t.readings ++ [⟨t.now, q⟩]⟩ := by
    intro p q
    rw [Traffic.put, List.modify_eq_take_cons_drop (by simp)]
    simp
  have hask : t.ask = ⟨t.store, t.writes, t.readings ++ [⟨t.now, .asked⟩]⟩ := rfl
  have hplay : t.play [.ask, .readCounters t.readings.length, .readGauges t.readings.length] =
      (t.ask.readCounters t.readings.length).readGauges t.readings.length := rfl
  rw [hplay, hask, ← Relational.contentsOver_self, Relational.contentsOver]
  -- The first query may fail; then the second one is not asked.
  cases hquery : t.store.query Tables.readCounters with
  | error e =>
    have hfirst : (Traffic.mk t.store t.writes (t.readings ++ [⟨t.now, .asked⟩])).readCounters
        t.readings.length = ⟨t.store, t.writes,
          t.readings ++ [⟨t.now, .answered t.now t.now (.error e)⟩]⟩ := by
      simp only [readCounters, hlast, hquery]
      exact hput _ _
    simp only [hfirst, readGauges, hlast]
    rfl
  | ok counters =>
    have hfirst : (Traffic.mk t.store t.writes (t.readings ++ [⟨t.now, .asked⟩])).readCounters
        t.readings.length = ⟨t.store, t.writes,
          t.readings ++ [⟨t.now, .halfway t.now counters⟩]⟩ := by
      simp only [readCounters, hlast, hquery]
      exact hput _ _
    simp only [hfirst, readGauges, hlast]
    refine (congrArg Traffic.readings (hput _ _)).trans ?_
    cases t.store.query fun t => .ok t.readGauges <;> rfl

/-- **What a reading sees.** The answer to a reading of a store at work has the counters of one
moment and the gauges of one that is not earlier, both between its start and its end. It is what the
store held at a moment between the two if the writes from the first one to that moment are of gauges
only and those from then to the last one of counters only: so it is if nothing is written between
the two queries, or a single metric. -/
theorem read_between_writes (t : Tables) (events : List TrafficEvent) (since first last : Nat)
    (result : Except StoreError Snapshot)
    (h : ⟨since, .answered first last result⟩ ∈
      ((fresh (Relational.serving t)).play events).readings) :
    let writes := events.filterMap TrafficEvent.write?
    let stored (n : Nat) := (Relational.serving t).writeAll (writes.take n)
    since ≤ first ∧ first ≤ last ∧ last ≤ writes.length ∧
      result = (stored first).contentsOver (stored last) ∧
      ∀ n, first ≤ n → n ≤ last →
        (∀ w ∈ (writes.take n).drop first, ∀ m ∈ w.2.metrics, m.kind = .gauge) →
        (∀ w ∈ (writes.take last).drop n, ∀ m ∈ w.2.metrics, m.kind = .counter) →
        result = (stored n).contents := by
  intro writes stored
  have htraced := (traced_fresh (Relational.serving t)).play events
  have hwrites : ((fresh (Relational.serving t)).play events).writes = writes :=
    writes_play (fresh (Relational.serving t)) events
  obtain ⟨hsince, hfirst, hlast, hresult⟩ := htraced.readings _ h
  rw [hwrites] at hlast hresult
  refine ⟨hsince, hfirst, hlast, hresult, fun n hn hn' hgauges hcounters => ?_⟩
  -- Between the first query and the moment `n` only gauges were written, and from there on only
  -- counters, so both queries see what was stored at `n`.
  obtain ⟨tables, htables, -⟩ := Relational.writeAll_kinds t (writes.take first)
  have hbefore : writes.take n = writes.take first ++ (writes.take n).drop first := by
    have hsplit := List.take_append_drop first (writes.take n)
    rw [List.take_take, Nat.min_eq_left hn] at hsplit
    exact hsplit.symm
  have hafter : writes.take last = writes.take n ++ (writes.take last).drop n := by
    have hsplit := List.take_append_drop n (writes.take last)
    rw [List.take_take, Nat.min_eq_left hn'] at hsplit
    exact hsplit.symm
  have hstored : stored n = (Relational.serving tables).writeAll ((writes.take n).drop first) := by
    rw [← htables, ← Relational.writeAll_append, ← hbefore]
  have hend : (Relational.serving t).writeAll (writes.take last) =
      (Relational.serving tables).writeAll
        ((writes.take n).drop first ++ (writes.take last).drop n) :=
    calc (Relational.serving t).writeAll (writes.take last)
      _ = (Relational.serving t).writeAll (writes.take n ++ (writes.take last).drop n) :=
        congrArg _ hafter
      _ = (stored n).writeAll ((writes.take last).drop n) := Relational.writeAll_append ..
      _ = _ := by rw [hstored, Relational.writeAll_append]
  rw [hresult, hend, htables, hstored]
  exact Relational.contentsOver_eq_contents tables hgauges hcounters

/-- A batch is committed before a reading, and a gauge and a counter between its two queries. -/
def calmEvents : List TrafficEvent :=
  [.write .reversed (.batch [Metric.counter "c" 1, Metric.gauge "g" Binary64.zero]), .ask,
    .readCounters 0, .write .sorted (.one (Metric.gauge "h" Binary64.zero)),
    .write .sorted (.one (Metric.counter "c" 2)), .readGauges 0]

/-- The reading shows what was stored between the gauge and the counter. -/
theorem read_between_calmEvents :
    ⟨1, .answered 1 3 (.ok ⟨Series.ofList [("c", 1)],
      Series.ofList [("g", Binary64.zero), ("h", Binary64.zero)]⟩)⟩ ∈
        ((fresh (Relational.serving Tables.empty)).play calmEvents).readings ∧
    .ok ⟨Series.ofList [("c", 1)], Series.ofList [("g", Binary64.zero), ("h", Binary64.zero)]⟩ =
      ((Relational.serving Tables.empty).writeAll
        ((calmEvents.filterMap TrafficEvent.write?).take 2)).contents := by
  have hmem : ⟨1, .answered 1 3 (.ok ⟨Series.ofList [("c", 1)],
      Series.ofList [("g", Binary64.zero), ("h", Binary64.zero)]⟩)⟩ ∈
        ((fresh (Relational.serving Tables.empty)).play calmEvents).readings :=
    List.mem_singleton.2 rfl
  obtain ⟨-, -, -, -, hmoment⟩ := read_between_writes Tables.empty calmEvents 1 1 3 _ hmem
  refine ⟨hmem, hmoment 2 (by decide) (by decide) ?_ ?_⟩
  · exact List.forall_mem_singleton.2 (List.forall_mem_singleton.2 rfl)
  · exact List.forall_mem_singleton.2 (List.forall_mem_singleton.2 rfl)

/-- A batch of both kinds is committed between the two queries of a reading. -/
def tornEvents : List TrafficEvent :=
  [.ask, .readCounters 0,
    .write .sorted (.batch [Metric.counter "c" 1, Metric.gauge "g" Binary64.zero]), .readGauges 0]

/-- The reading shows half of the batch, which was never stored, before the reading, during it or
after it. -/
theorem torn_reading :
    ((fresh (Relational.connect Database.empty)).play tornEvents).readings =
      [⟨0, .answered 0 1 (.ok ⟨Series.empty, Series.empty.insert "g" Binary64.zero⟩)⟩] ∧
    ∀ n, ((Relational.connect Database.empty).writeAll
        ((tornEvents.filterMap TrafficEvent.write?).take n)).contents ≠
      .ok ⟨Series.empty, Series.empty.insert "g" Binary64.zero⟩ := by
  constructor
  · rfl
  · intro n
    cases n with
    | zero => decide +kernel
    | succ n =>
      have hlength : (tornEvents.filterMap TrafficEvent.write?).length ≤ n + 1 :=
        Nat.succ_le_succ (Nat.zero_le n)
      rw [List.take_of_length_le hlength]
      decide +kernel

end Traffic

end Telemetry

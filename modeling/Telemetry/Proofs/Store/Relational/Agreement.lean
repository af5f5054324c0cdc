import Mathlib.Data.List.Forall2
import Telemetry.Proofs.Store.History
import Telemetry.Proofs.Store.Relational.Write

/-!
# The relational store and the store in memory

The two stores agree: as long as both of them accept the writes, they give the same answers to the
same requests and hold the same contents, whatever the order of the rows of a batch and however
often the connection is made again (`relational_agrees_with_memory`). Gauges are compared as
numbers, because tables keep no sign of zero. That `Relational.connect` is what opening a kept
database leads to is `Deployment.attach_openDatabase_of_close`.

`Tables.ofSnapshot s` are the tables that stand for a snapshot, and `Holds s r` is the relation
between the states of the two stores. One lemma for each request says that it keeps the relation.
For a batch it rests on `ofSnapshot_of_takes`: adding the folded deltas to what is stored leads to
the same sums as adding one delta after another, because both are exact.
-/

namespace Telemetry

/-! ## Numbers without a sign of zero -/

namespace Binary64

theorem isNaN_of_isFinite {x : Binary64} (h : x.isFinite = true) : x.isNaN = false := by
  simp only [isFinite, isNaN, decide_eq_true_eq, decide_eq_false_iff_not] at h ⊢
  omega

/-- A finite number is the same number without the sign of zero. -/
theorem same_withoutNegativeZero {x : Binary64} (h : x.isFinite = true) :
    x.same x.withoutNegativeZero = true := by
  have hnan := isNaN_of_isFinite h
  unfold withoutNegativeZero
  split
  · next hzero =>
    have hzeroNaN : zero.isNaN = false := by decide
    have hzeroRank : zero.rank = 0 := by decide
    simp [same, hnan, hzeroNaN, hzero, hzeroRank]
  · simp [same, hnan]

end Binary64

/-- The metric, its value without the sign of zero. -/
def Metric.withoutNegativeZero (m : Metric) : Metric :=
  { m with value := m.value.map Binary64.withoutNegativeZero }

/-- The metrics are equal, their values as numbers. -/
structure Metric.Same (m n : Metric) : Prop where
  id : m.id = n.id
  kind : m.kind = n.kind
  delta : m.delta = n.delta
  value : Option.Rel (fun x y => x.same y = true) m.value n.value

/-- The contents are equal, the gauges as numbers. -/
structure Snapshot.Same (s t : Snapshot) : Prop where
  counters : s.counters = t.counters
  gauges : List.Forall₂ (fun p q => p.1 = q.1 ∧ p.2.same q.2 = true) s.gauges.toList t.gauges.toList

/-- The answers are equal, all values as numbers. -/
inductive Answer.Same : Answer → Answer → Prop
  | stored {m n : Metric} (h : m.Same n) : Same (.written (some m)) (.written (some n))
  | batch : Same (.written none) (.written none)
  | metric {m n : Metric} (h : m.Same n) : Same (.metric m) (.metric n)
  | contents {s t : Snapshot} (h : s.Same t) : Same (.contents s) (.contents t)
  | metrics {ms ns : List Metric} (h : List.Forall₂ Metric.Same ms ns) :
      Same (.metrics ms) (.metrics ns)
  | reconnected : Same .reconnected .reconnected

/-- The results are equal: the same error, or answers that are. -/
inductive SameResult : Except StoreError Answer → Except StoreError Answer → Prop
  | ok {a b : Answer} (h : a.Same b) : SameResult (.ok a) (.ok b)
  | error (e : StoreError) : SameResult (.error e) (.error e)

/-- The tables that stand for a snapshot. -/
def Tables.ofSnapshot (s : Snapshot) : Tables :=
  ⟨s.counters.map .whole, s.gauges.map Binary64.withoutNegativeZero⟩

theorem Metric.same_counter (name : String) (n : Int64) :
    (counter name n).Same (counter name n) :=
  ⟨rfl, rfl, rfl, .none⟩

/-- A gauge is the same without the sign of its zero. -/
theorem Metric.same_gauge (name : String) {x : Binary64} (h : x.isFinite = true) :
    (gauge name x).Same (gauge name x.withoutNegativeZero) :=
  ⟨rfl, rfl, rfl, .some (Binary64.same_withoutNegativeZero h)⟩

/-! ## Finite gauges -/

namespace Snapshot

/-- A stored metric is the same without the sign of zero. -/
theorem AllFinite.same_of_get? {s : Snapshot} (hfinite : s.AllFinite) {name : String} {kind : Kind}
    {m : Metric} (h : s.get? name kind = some m) : m.Same m.withoutNegativeZero := by
  cases kind with
  | counter =>
    obtain ⟨n, -, rfl⟩ := Option.map_eq_some_iff.1 h
    exact Metric.same_counter name n
  | gauge =>
    obtain ⟨x, hx, rfl⟩ := Option.map_eq_some_iff.1 h
    exact Metric.same_gauge name (hfinite name x hx)

/-- The contents are the same without the signs of zero. -/
theorem AllFinite.same {s : Snapshot} (hfinite : s.AllFinite) :
    s.Same ⟨s.counters, s.gauges.map Binary64.withoutNegativeZero⟩ := by
  refine ⟨rfl, List.forall₂_map_right_iff.2 (List.forall₂_same.2 fun p hp => ⟨rfl, ?_⟩)⟩
  exact Binary64.same_withoutNegativeZero (hfinite.of_mem hp)

/-- The metrics of a kind are the same without the signs of zero. -/
theorem AllFinite.same_ofKind {s : Snapshot} (hfinite : s.AllFinite) (kind : Kind) :
    List.Forall₂ Metric.Same (s.ofKind kind)
      (ofKind ⟨s.counters, s.gauges.map Binary64.withoutNegativeZero⟩ kind) := by
  cases kind with
  | counter =>
    exact List.forall₂_map_right_iff.2 (List.forall₂_map_left_iff.2
      (List.forall₂_same.2 fun p _ => Metric.same_counter p.1 p.2))
  | gauge =>
    show List.Forall₂ Metric.Same (s.gauges.toList.map _)
      ((s.gauges.toList.map fun p => (p.1, p.2.withoutNegativeZero)).map _)
    rw [List.map_map]
    exact List.forall₂_map_right_iff.2 (List.forall₂_map_left_iff.2
      (List.forall₂_same.2 fun p hp => Metric.same_gauge p.1 (hfinite.of_mem hp)))

end Snapshot

/-! ## Tables that stand for a snapshot -/

namespace Tables

variable {s next : Snapshot}

/-- Tables that stand for a snapshot hold counters in all their cells. -/
theorem readable_ofSnapshot (s : Snapshot) : (ofSnapshot s).Readable := by
  intro name cell hcell
  rw [ofSnapshot, Series.get?_map] at hcell
  obtain ⟨n, -, rfl⟩ := Option.map_eq_some_iff.1 hcell
  exact ⟨n, rfl⟩

/-- Tables that stand for a snapshot hold its counts. -/
theorem stored_ofSnapshot (s : Snapshot) (name : String) :
    (ofSnapshot s).stored name = (s.count? name).getD 0 := by
  rw [stored, ofSnapshot, Series.get?_map, Option.map_map]
  rfl

/-- A row is the stored metric, without the sign of zero. -/
theorem fetch_ofSnapshot (s : Snapshot) (name : String) (kind : Kind) :
    (ofSnapshot s).fetch name kind =
      match s.get? name kind with
      | some m => .ok m.withoutNegativeZero
      | none => .error (.notFound kind name) := by
  cases kind with
  | counter =>
    simp only [fetch, ofSnapshot, Series.get?_map, Snapshot.get?]
    cases s.counters.get? name <;> rfl
  | gauge =>
    simp only [fetch, ofSnapshot, Series.get?_map, Snapshot.get?]
    cases s.gauges.get? name <;> rfl

/-- The folded metrics lead from the tables of a snapshot to those of what it grows to. -/
theorem ofSnapshot_of_takes {totals : Snapshot} {metrics : List Metric} {t : Tables}
    (hgrows : Snapshot.Grows s metrics next)
    (hfold : Snapshot.Grows Snapshot.empty metrics totals)
    (htakes : (ofSnapshot s).Takes totals t) : t = ofSnapshot next := by
  have hadds := htakes.adds (readable_ofSnapshot s) hfold
  have hcounters : t.counters = (ofSnapshot next).counters := by
    refine Series.ext fun name => ?_
    have hmap : (ofSnapshot next).counters.get? name = (next.counters.get? name).map .whole :=
      Series.get?_map _ _ _
    by_cases hnone : entriesOf name .counter metrics = []
    · rw [hadds.untouched name hnone, hmap, hgrows.counter_of_untouched hnone]
      exact Series.get?_map _ _ _
    · -- the sum fits, because it is the sum in memory
      obtain ⟨n, hn, hsum⟩ := hgrows.counter_of_touched hnone
      rw [← stored_ofSnapshot] at hsum
      obtain ⟨k, hk, hcell⟩ := hadds.whole name hnone (hsum ▸ fitsInt64_toInt n)
      rw [hk, hmap, hn, Int64.toInt_inj.1 (hcell.trans hsum.symm)]
      rfl
  have hgauges : t.gauges = (ofSnapshot next).gauges := by
    refine Series.ext fun name => ?_
    have hmap : ∀ s, (ofSnapshot s).gauges.get? name =
        (s.gauges.get? name).map Binary64.withoutNegativeZero := fun _ => Series.get?_map _ _ _
    rw [htakes.gauge, hmap, hmap, hfold.gauge, hgrows.gauge, gaugeAfter, gaugeAfter]
    cases lastValue? name metrics <;> rfl
  cases t
  cases hcounters
  cases hgauges
  rfl

end Tables

namespace Relational

/-! ## Readings -/

theorem query_serving {α : Type} (t : Tables) (ask : Tables → Except StoreError α) :
    (serving t).query ask = ask t := rfl

theorem readCounters_ofSnapshot (s : Snapshot) :
    (Tables.ofSnapshot s).readCounters = .ok s.counters := by
  rw [Tables.readCounters, Tables.ofSnapshot,
    Series.mapM?_map Cell.counter? Cell.whole fun _ => rfl]

/-- All is read as the snapshot has it, but for the sign of zero. -/
theorem contents_ofSnapshot (s : Snapshot) :
    (serving (Tables.ofSnapshot s)).contents =
      .ok ⟨s.counters, s.gauges.map Binary64.withoutNegativeZero⟩ := by
  unfold contents
  rw [query_serving, query_serving, readCounters_ofSnapshot]
  rfl

/-- One kind is read as the snapshot has it, but for the sign of zero. -/
theorem ofKind_ofSnapshot (s : Snapshot) (kind : Kind) :
    (serving (Tables.ofSnapshot s)).ofKind kind =
      .ok (Snapshot.ofKind ⟨s.counters, s.gauges.map Binary64.withoutNegativeZero⟩ kind) := by
  cases kind with
  | counter =>
    unfold ofKind
    rw [query_serving, readCounters_ofSnapshot]
    rfl
  | gauge => rfl

/-- A reading has the same result on the tables of a snapshot. -/
theorem sameResult_ask {s : Snapshot} (hfinite : s.AllFinite) (reading : Reading) :
    SameResult (reading.ask s) (reading.ask (serving (Tables.ofSnapshot s))) := by
  -- Each way of reading loses the sign of zero and nothing else.
  cases reading with
  | metric name kind =>
    show SameResult ((Memory.get s name kind).map .metric)
      (((serving (Tables.ofSnapshot s)).query fun t => t.fetch name kind).map .metric)
    rw [query_serving, Tables.fetch_ofSnapshot, Memory.get]
    cases hget : s.get? name kind with
    | none => exact .error _
    | some m => exact .ok (.metric (hfinite.same_of_get? hget))
  | contents =>
    show SameResult (.ok (.contents s)) ((serving (Tables.ofSnapshot s)).contents.map .contents)
    rw [contents_ofSnapshot]
    exact .ok (.contents hfinite.same)
  | ofKind kind =>
    show SameResult (.ok (.metrics (s.ofKind kind)))
      (((serving (Tables.ofSnapshot s)).ofKind kind).map .metrics)
    rw [ofKind_ofSnapshot]
    exact .ok (.metrics (hfinite.same_ofKind kind))

/-! ## The relation between the states -/

/-- The relational store is at work on the tables of the store in memory. -/
structure Holds (s : Snapshot) (r : Relational) : Prop where
  eq : r = serving (Tables.ofSnapshot s)
  finite : s.AllFinite

/-- Both stores hold the same contents, the gauges as numbers. -/
def Agrees (s : Snapshot) (r : Relational) : Prop := ∃ t, r.contents = .ok t ∧ s.Same t

/-- A store whose tables stand for a snapshot shows its metrics. -/
theorem Holds.agrees {s : Snapshot} {r : Relational} (h : Holds s r) : Agrees s r := by
  rw [h.eq]
  exact ⟨_, contents_ofSnapshot s, h.finite.same⟩

/-- A fresh database stands for the empty snapshot. -/
theorem holds_empty : Holds Snapshot.empty (connect Database.empty) :=
  ⟨rfl, fun _ _ h => nomatch h⟩

/-- A write that both stores accept has the same result, and keeps the relation. -/
theorem Holds.write {s : Snapshot} {r : Relational} (h : Holds s r) (a : Arrangement) (w : Write)
    (hmemory : (s.serve (.write w)).1.isOk = true)
    (hrelational : (r.serve (a, .write w)).1.isOk = true) :
    SameResult (s.serve (.write w)).1 (r.serve (a, .write w)).1 ∧
      Holds (s.serve (.write w)).2 (r.serve (a, .write w)).2 := by
  obtain ⟨rfl, hfinite⟩ := h
  simp only [Snapshot.serve, serve] at hmemory hrelational ⊢
  rcases perform_cases s w with ⟨answer, next, hw, hgrows, hvalid⟩ | ⟨e, hw⟩
  · have hnext := hfinite.of_grows hgrows hvalid
    rw [hw]
    cases w with
    | one m =>
      -- the row that is read back is what the store in memory answers with
      obtain ⟨totals, hfold, htakes⟩ := takes_upsert (Tables.ofSnapshot s) m
      have htables := Tables.ofSnapshot_of_takes hgrows (grows_of_fold hfold) htakes
      obtain ⟨stored, hcreate, rfl⟩ :
          ∃ stored, Memory.create s m = (.ok stored, next) ∧ answer = some stored := by
        rcases Memory.create_cases s m with ⟨stored, last, hstored, -, -⟩ | ⟨e, hstored⟩
        · rw [Write.perform_one_of_ok hstored] at hw
          cases hw
          exact ⟨stored, hstored, rfl⟩
        · rw [Write.perform_one_of_error hstored] at hw
          cases hw
      have hget := get?_of_create hcreate
      rw [perform_one (hvalid m (by simp [Write.metrics])), htables, Tables.fetch_ofSnapshot, hget]
      exact ⟨.ok (.stored (hnext.same_of_get? hget)), rfl, hnext⟩
    | batch metrics =>
      have hmetrics : ∀ m ∈ metrics, m.validate = .ok () := hvalid
      obtain rfl : answer = none := by
        cases hall : Memory.createAll s metrics with
        | ok last =>
          rw [Write.perform_batch_of_ok hall] at hw
          cases hw
          rfl
        | error e =>
          rw [Write.perform_batch_of_error hall] at hw
          cases hw
      rw [perform_batch hmetrics] at hrelational ⊢
      cases hfold : fold metrics with
      | error e =>
        rw [hfold] at hrelational
        cases hrelational
      | ok totals =>
        have htables := Tables.ofSnapshot_of_takes hgrows (grows_of_fold hfold)
          (takes_of_perm (Tables.ofSnapshot s) (a.perm (rowsOf totals)))
        simp only [htables]
        exact ⟨.ok .batch, rfl, hnext⟩
  · rw [hw] at hmemory
    cases hmemory

/-- A request has the same result at both stores, and keeps the relation, if both accept it in case
it is a write. -/
theorem Holds.serve {s : Snapshot} {r : Relational} (h : Holds s r) (a : Arrangement)
    (request : StoreRequest) (hmemory : request.isWrite = true → (s.serve request).1.isOk = true)
    (hrelational : request.isWrite = true → (r.serve (a, request)).1.isOk = true) :
    SameResult (s.serve request).1 (r.serve (a, request)).1 ∧
      Holds (s.serve request).2 (r.serve (a, request)).2 := by
  cases request with
  | write w => exact h.write a w (hmemory rfl) (hrelational rfl)
  | read reading =>
    refine ⟨?_, h⟩
    show SameResult (reading.ask s) (reading.ask r)
    rw [h.eq]
    exact sameResult_ask h.finite reading
  | reconnect =>
    refine ⟨.ok .reconnected, ?_, h.finite⟩
    show connect r.close.database = _
    rw [h.eq]
    rfl

/-! ## Any number of requests -/

/-- Every write among the requests is accepted. -/
def AcceptsWrites {σ : Type} (requests : List StoreRequest)
    (served : List (Except StoreError Answer × σ)) : Prop :=
  ∀ p ∈ requests.zip served, p.1.isWrite = true → p.2.1.isOk = true

instance {σ : Type} (requests : List StoreRequest)
    (served : List (Except StoreError Answer × σ)) : Decidable (AcceptsWrites requests served) :=
  inferInstanceAs (Decidable (∀ _ ∈ _, _ → _))

/-- From two states of which one stands for the other the same requests are answered alike, and lead
to two such states again. -/
theorem agrees_of_holds {s : Snapshot} {r : Relational} (h : Holds s r)
    (requests : List (Arrangement × StoreRequest))
    (hmemory : AcceptsWrites (requests.map Prod.snd)
      (answers Snapshot.serve s (requests.map Prod.snd)))
    (hrelational : AcceptsWrites (requests.map Prod.snd) (answers serve r requests)) :
    List.Forall₂ (fun memory relational =>
        SameResult memory.1 relational.1 ∧ Agrees memory.2 relational.2)
      (answers Snapshot.serve s (requests.map Prod.snd)) (answers serve r requests) := by
  induction requests generalizing s r with
  | nil => exact .nil
  | cons first rest ih =>
    obtain ⟨a, request⟩ := first
    simp only [AcceptsWrites, List.map_cons, answers, List.zip_cons_cons, List.forall_mem_cons]
      at hmemory hrelational
    -- One request keeps the relation (`Holds.serve`), and the others start from there.
    obtain ⟨hresult, hnext⟩ := h.serve a request hmemory.1 hrelational.1
    exact .cons ⟨hresult, hnext.agrees⟩ (ih hnext hmemory.2 hrelational.2)

/-- **The relational store computes what the store in memory computes.** From empty stores on, any
requests are answered alike and lead to the same contents, in whatever order the rows of the batches
are written and however often the connection is made again, if both stores accept the writes. -/
theorem relational_agrees_with_memory (requests : List (Arrangement × StoreRequest))
    (hmemory : AcceptsWrites (requests.map Prod.snd)
      (answers Snapshot.serve Snapshot.empty (requests.map Prod.snd)))
    (hrelational : AcceptsWrites (requests.map Prod.snd)
      (answers serve (connect Database.empty) requests)) :
    List.Forall₂ (fun memory relational =>
        SameResult memory.1 relational.1 ∧ Agrees memory.2 relational.2)
      (answers Snapshot.serve Snapshot.empty (requests.map Prod.snd))
      (answers serve (connect Database.empty) requests) :=
  agrees_of_holds holds_empty requests hmemory hrelational

/-- Batches with a name twice and a negative zero, a single metric, readings, and the connection
made again in between. -/
def mixedRequests : List (Arrangement × StoreRequest) :=
  [(.sorted, .write (.batch [Metric.counter "c" 1, Metric.gauge "c" ⟨0x8000000000000000⟩,
      Metric.counter "c" 2])),
    (.sorted, .reconnect),
    (.reversed, .write (.batch [Metric.counter "d" 5, Metric.counter "c" 4])),
    (.sorted, .read (.metric "d" .gauge)),
    (.sorted, .write (.one (Metric.counter "c" (-7)))),
    (.sorted, .reconnect),
    (.sorted, .read .contents)]

/-- Both stores accept every write of the run, so it meets what the general statement asks for. -/
theorem agrees_on_mixedRequests :
    AcceptsWrites (mixedRequests.map Prod.snd)
      (answers Snapshot.serve Snapshot.empty (mixedRequests.map Prod.snd)) ∧
    AcceptsWrites (mixedRequests.map Prod.snd)
      (answers serve (connect Database.empty) mixedRequests) ∧
    List.Forall₂ (fun memory relational =>
        SameResult memory.1 relational.1 ∧ Agrees memory.2 relational.2)
      (answers Snapshot.serve Snapshot.empty (mixedRequests.map Prod.snd))
      (answers serve (connect Database.empty) mixedRequests) := by
  have hmemory : AcceptsWrites (mixedRequests.map Prod.snd)
      (answers Snapshot.serve Snapshot.empty (mixedRequests.map Prod.snd)) := by
    decide +kernel
  have hrelational : AcceptsWrites (mixedRequests.map Prod.snd)
      (answers serve (connect Database.empty) mixedRequests) := by
    decide +kernel
  exact ⟨hmemory, hrelational, relational_agrees_with_memory mixedRequests hmemory hrelational⟩

end Relational

end Telemetry

import Mathlib.Control.Monad.Basic
import Telemetry.Proofs.Store.Relational.Write

/-!
# Counters that leave the range in a relational store

A counter is to be checked when it is added to: a write that would take a stored sum out of the
range is refused as an overflow and changes nothing, and what an accepted write leaves behind is the
exact sum (`Checked`). In a relational store the addition is done by the tables, and only the
running sums of a batch are checked before it.

`counter_overflow_checked_iff` says what comes of this. The law holds of a write exactly if all of
its sums fit or the write is a batch whose own running sums do not. Any other single metric is
refused, but as a failure of the database; any other batch is accepted, and each counter whose sum
does not fit can no longer be read. The states of a store from the empty one on stay readable
exactly as long as no such batch comes (`Unseen`).
-/

namespace Telemetry

namespace Write

/-- Some counter would leave the range. -/
def Overflows (t : Tables) (w : Write) : Prop :=
  ∃ name, ¬ FitsInt64 (t.stored name + deltaSum name w.metrics)

/-- The running sums of a write leave the range by themselves. -/
def OverflowsItself (w : Write) : Prop :=
  ∃ before, before <+: w.metrics ∧ ∃ name, ¬ FitsInt64 (deltaSum name before)

/-- A batch that takes a counter out of the range although it can be folded. -/
structure Unseen (t : Tables) (w : Write) : Prop where
  isBatch : ∃ metrics, w = .batch metrics
  valid : ∀ m ∈ w.metrics, m.validate = .ok ()
  folds : ¬ w.OverflowsItself
  overflows : w.Overflows t

/-- A write whose own sums stay in range is one that folds. -/
theorem not_overflowsItself_iff {w : Write} :
    ¬ w.OverflowsItself ↔ ∃ totals, Relational.fold w.metrics = .ok totals := by
  rw [Relational.fold_isOk_iff]
  simp only [OverflowsItself, not_exists, not_and, Decidable.not_not]

/-- A write does not overflow what is stored if every sum with it fits. -/
theorem not_overflows_iff {t : Tables} {w : Write} :
    ¬ w.Overflows t ↔ ∀ name, FitsInt64 (t.stored name + deltaSum name w.metrics) := by
  simp only [Overflows, not_exists, Decidable.not_not]

/-- A single delta fits. -/
theorem not_overflowsItself_one (m : Metric) : ¬ (one m).OverflowsItself := by
  obtain ⟨totals, hfold, -⟩ := Relational.rowsOf_of_fold_singleton m
  exact not_overflowsItself_iff.2 ⟨totals, hfold⟩

end Write

namespace Tables

/-- A row that was written can be read back if its counter is in range. -/
theorem fetch_upsert_of_fits {t : Tables} (hread : t.Readable) {m : Metric}
    (hfits : ∀ name, FitsInt64 (t.stored name + deltaSum name [m])) :
    ∃ stored, (t.upsert (Relational.rowOf m)).fetch m.id m.kind = .ok stored := by
  cases hkind : m.kind with
  | counter =>
    have hsome : entriesOf m.id .counter [m] ≠ [] := by simp [entriesOf_singleton, hkind]
    obtain ⟨n, hn, -⟩ := (Relational.adds_upsert hread m).whole m.id hsome (hfits m.id)
    exact ⟨Metric.counter m.id n, by simp [fetch, hn]⟩
  | gauge =>
    refine ⟨Metric.gauge m.id m.valueOrZero.withoutNegativeZero, ?_⟩
    simp [fetch, get?_gauges_upsert, Relational.rowOf, hkind]

/-- A row cannot be read back if its counter has left the range. -/
theorem fetch_upsert_of_overflow {t : Tables} (hread : t.Readable) {m : Metric} {name : String}
    (hover : ¬ FitsInt64 (t.stored name + deltaSum name [m])) :
    (t.upsert (Relational.rowOf m)).fetch m.id m.kind = .error .database := by
  have hsome := touched_of_overflow hread hover
  obtain ⟨hname, hkind⟩ : m.id = name ∧ m.kind = .counter := by
    rw [entriesOf_singleton] at hsome
    exact Classical.byContradiction fun h => hsome (if_neg h)
  subst hname
  obtain ⟨r, hr⟩ := (Relational.adds_upsert hread m).real m.id hsome hover
  simp [fetch, hkind, hr]

end Tables

namespace Relational

variable {t : Tables} {w : Write} {a : Arrangement}

/-- A write is checked: one that would take a counter out of the range is refused as an overflow and
changes nothing, and an accepted one leaves the exact sums. -/
structure Checked (t : Tables) (w : Write)
    (outcome : Except StoreError (Option Metric) × Relational) : Prop where
  refuses : w.Overflows t →
    (∃ name, outcome.1 = .error (.invalid (.counterOverflow name))) ∧ outcome.2 = serving t
  exact : ∀ answer, outcome.1 = .ok answer → ∃ next, outcome.2 = serving next ∧
    ∀ m ∈ w.metrics, m.kind = .counter → ∃ n, next.counters.get? m.id = some (.whole n) ∧
      n.toInt = t.stored m.id + deltaSum m.id w.metrics

/-! ## One write -/

/-- What comes of a write of accepted metrics. -/
inductive Outcome (t : Tables) (w : Write) :
    Except StoreError (Option Metric) × Relational → Prop
  /-- A single metric is added, and its row is read back. -/
  | stored (m stored : Metric) (next : Tables) (isOne : w = .one m)
      (adds : t.Adds w.metrics next) (fits : ¬ w.Overflows t) :
      Outcome t w (.ok (some stored), serving next)
  /-- A single metric takes its counter out of the range, and its row cannot be read back. -/
  | unreadable (m : Metric) (isOne : w = .one m) (overflows : w.Overflows t) :
      Outcome t w (.error .database, serving t)
  /-- A batch is folded and added. -/
  | added (metrics : List Metric) (next : Tables) (isBatch : w = .batch metrics)
      (adds : t.Adds w.metrics next) (folds : ¬ w.OverflowsItself) :
      Outcome t w (.ok none, serving next)
  /-- A batch cannot be folded. -/
  | refused (name : String) (overflows : w.OverflowsItself) :
      Outcome t w (.error (.invalid (.counterOverflow name)), serving t)

/-- Every write of valid metrics has one of the outcomes. -/
theorem outcome_perform (hread : t.Readable) (hvalid : ∀ m ∈ w.metrics, m.validate = .ok ())
    (a : Arrangement) : Outcome t w ((serving t).perform a w) := by
  -- A single metric is read back before the commit and a batch is not, so they differ in what is
  -- noticed.
  cases w with
  | one m =>
    rw [perform_one (hvalid m (by simp [Write.metrics]))]
    by_cases hover : (Write.one m).Overflows t
    · obtain ⟨name, hname⟩ := hover
      rw [Tables.fetch_upsert_of_overflow hread hname]
      exact .unreadable m rfl ⟨name, hname⟩
    · obtain ⟨stored, hstored⟩ :=
        Tables.fetch_upsert_of_fits hread (Write.not_overflows_iff.1 hover)
      rw [hstored]
      exact .stored m stored _ rfl (adds_upsert hread m) hover
  | batch metrics =>
    have hmetrics : ∀ m ∈ metrics, m.validate = .ok () := hvalid
    rw [perform_batch hmetrics]
    cases hfold : fold metrics with
    | error e =>
      obtain ⟨name, rfl⟩ := fold_eq_error hfold
      refine .refused name (Classical.byContradiction fun hitself => ?_)
      obtain ⟨totals, htotals⟩ := Write.not_overflowsItself_iff.1 hitself
      rw [Write.metrics, hfold] at htotals
      cases htotals
    | ok totals =>
      have htakes := takes_of_perm t (a.perm (rowsOf totals))
      exact .added metrics _ rfl (htakes.adds hread (grows_of_fold hfold))
        (Write.not_overflowsItself_iff.2 ⟨totals, hfold⟩)

/-- The law of a write that is accepted holds exactly if all sums fit. -/
theorem checked_of_adds {next : Tables} {answer : Option Metric} (hadds : t.Adds w.metrics next) :
    Checked t w (.ok answer, serving next) ↔ ¬ w.Overflows t := by
  constructor
  · intro hchecked hover
    obtain ⟨⟨name, hname⟩, -⟩ := hchecked.refuses hover
    cases hname
  · intro hover
    refine ⟨fun h => absurd h hover, fun _ _ => ⟨next, rfl, fun m hm hkind => ?_⟩⟩
    have hsome : entriesOf m.id .counter w.metrics ≠ [] :=
      List.ne_nil_of_mem (mem_entriesOf.2 ⟨hm, rfl, hkind⟩)
    exact hadds.whole m.id hsome (Write.not_overflows_iff.1 hover m.id)

/-- The law of a write holds exactly if all of its sums fit or it overflows by itself. -/
theorem checked_perform_iff (hread : t.Readable) (hvalid : ∀ m ∈ w.metrics, m.validate = .ok ()) :
    Checked t w ((serving t).perform a w) ↔ ¬ w.Overflows t ∨ w.OverflowsItself := by
  generalize hperform : (serving t).perform a w = outcome
  cases hperform ▸ outcome_perform hread hvalid a with
  | stored m stored next hone hadds hfits =>
    exact iff_of_true ((checked_of_adds hadds).2 hfits) (.inl hfits)
  | unreadable m hone hover =>
    -- the write is refused, but not as an overflow
    refine iff_of_false (fun hchecked => ?_) ?_
    · obtain ⟨⟨name, hname⟩, -⟩ := hchecked.refuses hover
      cases hname
    · rintro (hfits | hitself)
      · exact hfits hover
      · exact Write.not_overflowsItself_one m (hone ▸ hitself)
  | added metrics next hbatch hadds hfolds => rw [checked_of_adds hadds, or_iff_left hfolds]
  | refused name hitself =>
    exact iff_of_true ⟨fun _ => ⟨⟨name, rfl⟩, rfl⟩, fun _ h => nomatch h⟩ (.inr hitself)

/-- A write that takes a counter out of the range and does not overflow by itself is refused as a
failure of the database, if it is a single metric, and accepted, if it is a batch. -/
theorem perform_of_overflow (hread : t.Readable) (hvalid : ∀ m ∈ w.metrics, m.validate = .ok ())
    (hover : w.Overflows t) (hfolds : ¬ w.OverflowsItself) :
    (∃ m, w = .one m ∧ (serving t).perform a w = (.error .database, serving t)) ∨
      ∃ metrics next, w = .batch metrics ∧ t.Adds metrics next ∧
        (serving t).perform a w = (.ok none, serving next) := by
  generalize hperform : (serving t).perform a w = outcome
  cases hperform ▸ outcome_perform hread hvalid a with
  | stored m stored next hone hadds hfits => exact absurd hover hfits
  | unreadable m hone _ => exact .inl ⟨m, hone, rfl⟩
  | added metrics next hbatch hadds _ =>
    subst hbatch
    exact .inr ⟨metrics, next, rfl, hadds, rfl⟩
  | refused name hitself => exact absurd hitself hfolds

/-- A write leaves a readable store readable, unless it is a batch whose overflow is not seen. -/
theorem readable_perform (hread : t.Readable) (a : Arrangement) (w : Write) :
    ∃ next, ((serving t).perform a w).2 = serving next ∧ (next.Readable ↔ ¬ w.Unseen t) := by
  by_cases hvalid : ∀ m ∈ w.metrics, m.validate = .ok ()
  · generalize hperform : (serving t).perform a w = outcome
    -- Of the four outcomes only a batch that was added can leave a cell that cannot be read.
    cases hperform ▸ outcome_perform hread hvalid a with
    | stored m stored next hone hadds hfits =>
      refine ⟨next, rfl, iff_of_true ?_ fun hunseen => hfits hunseen.overflows⟩
      exact (hadds.readable_iff hread).2 (Write.not_overflows_iff.1 hfits)
    | unreadable m hone hover =>
      refine ⟨t, rfl, iff_of_true hread fun hunseen => ?_⟩
      obtain ⟨metrics, hbatch⟩ := hunseen.isBatch
      rw [hone] at hbatch
      cases hbatch
    | added metrics next hbatch hadds hfolds =>
      refine ⟨next, rfl, ?_⟩
      rw [hadds.readable_iff hread, ← Write.not_overflows_iff]
      exact ⟨fun hfits hunseen => hfits hunseen.overflows,
        fun hunseen hover => hunseen ⟨⟨metrics, hbatch⟩, hvalid, hfolds, hover⟩⟩
    | refused name hitself =>
      exact ⟨t, rfl, iff_of_true hread fun hunseen => hunseen.folds hitself⟩
  · obtain ⟨e, he⟩ := perform_of_invalid (t := t) (a := a) hvalid
    exact ⟨t, by rw [he], iff_of_true hread fun hunseen => hvalid hunseen.valid⟩

/-! ## Any number of writes -/

/-- The states of a store stay readable exactly as long as no overflow goes unseen. -/
theorem readable_writeAll_iff (hread : t.Readable) (writes : List (Arrangement × Write)) :
    (∀ before, before <+: writes → ((serving t).writeAll before).tables.Readable) ↔
      ∀ before a w, before ++ [(a, w)] <+: writes →
        ¬ w.Unseen ((serving t).writeAll before).tables := by
  -- both sides split into the first write and the writes after it, which start from its tables
  induction writes generalizing t with
  | nil =>
    refine iff_of_true ?_ ?_
    · intro before hbefore
      rw [List.prefix_nil.1 hbefore]
      exact hread
    · intro before a w hbefore
      exact absurd (List.prefix_nil.1 hbefore) (by simp)
  | cons first rest ih =>
    obtain ⟨next, hnext, hiff⟩ := readable_perform hread first.1 first.2
    have hstep : ∀ before,
        (serving t).writeAll (first :: before) = (serving next).writeAll before :=
      fun before => by rw [← hnext]; rfl
    constructor
    · intro hall before a w hbefore
      have hone : next.Readable := by
        have hfirst := hall [first] (by simp)
        rw [hstep] at hfirst
        exact hfirst
      cases before with
      | nil =>
        rw [List.nil_append, List.cons_prefix_cons] at hbefore
        obtain ⟨rfl, -⟩ := hbefore
        exact hiff.1 hone
      | cons b before =>
        rw [List.cons_append, List.cons_prefix_cons] at hbefore
        obtain ⟨rfl, hrest⟩ := hbefore
        rw [hstep]
        refine (ih hone).1 (fun others hothers => ?_) before a w hrest
        rw [← hstep]
        exact hall (b :: others) (List.cons_prefix_cons.2 ⟨rfl, hothers⟩)
    · intro hall before hbefore
      have hone : next.Readable := hiff.2 (hall [] first.1 first.2 (by simp))
      cases before with
      | nil => exact hread
      | cons b before =>
        obtain ⟨rfl, hrest⟩ := List.cons_prefix_cons.1 hbefore
        rw [hstep]
        refine (ih hone).2 (fun others a w hothers => ?_) before hrest
        rw [← hstep]
        exact hall (b :: others) a w (List.cons_prefix_cons.2 ⟨rfl, hothers⟩)

/-! ## The law -/

/-- **Counters that leave the range.** For all tables that can be read, all accepted metrics and all
orders of the rows: the law of a write holds exactly if all of its sums fit or its own running sums
do not. Otherwise a single metric is refused as a failure of the database, and a batch is accepted,
which leaves the exact sums where they fit and a real number in place of every other one. From such
tables on, the empty ones among them, the counters can be read exactly as long as no such batch
comes. -/
theorem counter_overflow_checked_iff (t : Tables) (hread : t.Readable) :
    (∀ (w : Write) (a : Arrangement), (∀ m ∈ w.metrics, m.validate = .ok ()) →
      (Checked t w ((serving t).perform a w) ↔ ¬ w.Overflows t ∨ w.OverflowsItself) ∧
      (w.Overflows t → ¬ w.OverflowsItself →
        (∃ m, w = .one m ∧ (serving t).perform a w = (.error .database, serving t)) ∨
          ∃ metrics next, w = .batch metrics ∧ t.Adds metrics next ∧
            (serving t).perform a w = (.ok none, serving next))) ∧
    ∀ writes : List (Arrangement × Write),
      (∀ before, before <+: writes → ((serving t).writeAll before).tables.Readable) ↔
      ∀ before a w, before ++ [(a, w)] <+: writes →
        ¬ w.Unseen ((serving t).writeAll before).tables :=
  ⟨fun _ _ hvalid => ⟨checked_perform_iff hread hvalid, perform_of_overflow hread hvalid⟩,
    readable_writeAll_iff hread⟩

/-- The store that has taken the largest counter. -/
def full : Relational :=
  (connect Database.empty).writeAll [(.sorted, .one (Metric.counter "c" Int64.maxValue))]

/-- What the writes have made of the store. -/
theorem full_eq :
    full = serving ⟨Series.empty.insert "c" (.whole Int64.maxValue), Series.empty⟩ := by
  decide +kernel

/-- Everything in the store can be read. -/
theorem readable_full : full.tables.Readable := by
  intro name cell hcell
  rw [full_eq, tables_serving, Series.get?_insert] at hcell
  split at hcell
  · exact ⟨Int64.maxValue, (Option.some.inj hcell).symm⟩
  · cases hcell

/-- One more is refused as a failure of the database if it comes as a single metric. As a batch it
is accepted, and nothing can be read any more. -/
theorem batch_overflow_accepted :
    full.perform .sorted (.one (Metric.counter "c" 1)) = (.error .database, full) ∧
    (full.perform .sorted (.batch [Metric.counter "c" 1])).1 = .ok none ∧
    (full.perform .sorted (.batch [Metric.counter "c" 1])).2.contents = .error .database ∧
    ¬ Checked full.tables (.batch [Metric.counter "c" 1])
      (full.perform .sorted (.batch [Metric.counter "c" 1])) := by
  refine ⟨by decide +kernel, by decide +kernel, by decide +kernel, fun hchecked => ?_⟩
  have hover : (Write.batch [Metric.counter "c" 1]).Overflows full.tables :=
    ⟨"c", by decide +kernel⟩
  obtain ⟨⟨name, hname⟩, -⟩ := hchecked.refuses hover
  have hok : (full.perform .sorted (.batch [Metric.counter "c" 1])).1 = .ok none := by
    decide +kernel
  rw [hok] at hname
  cases hname

/-- A batch of two rows, one of which leaves the range: the other one takes its exact sum. -/
theorem real_beside_whole :
    full.tables.Readable ∧
    (∀ m ∈ (Write.batch [Metric.counter "c" 1, Metric.counter "d" 2]).metrics,
      m.validate = .ok ()) ∧
    (Write.batch [Metric.counter "c" 1, Metric.counter "d" 2]).Overflows full.tables ∧
    ¬ (Write.batch [Metric.counter "c" 1, Metric.counter "d" 2]).OverflowsItself ∧
    ¬ Checked full.tables (.batch [Metric.counter "c" 1, Metric.counter "d" 2])
      ((serving full.tables).perform .reversed
        (.batch [Metric.counter "c" 1, Metric.counter "d" 2])) ∧
    ∃ next, (serving full.tables).perform .reversed
        (.batch [Metric.counter "c" 1, Metric.counter "d" 2]) = (.ok none, serving next) ∧
      (∃ n, next.counters.get? "d" = some (.whole n) ∧ n.toInt = 2) ∧
      ∃ r, next.counters.get? "c" = some (.real r) := by
  have hvalid : ∀ m ∈ (Write.batch [Metric.counter "c" 1, Metric.counter "d" 2]).metrics,
      m.validate = .ok () := by
    decide +kernel
  have hover : ¬ FitsInt64 (full.tables.stored "c" +
      deltaSum "c" [Metric.counter "c" 1, Metric.counter "d" 2]) := by
    decide +kernel
  have hfits : full.tables.stored "d" +
      deltaSum "d" [Metric.counter "c" 1, Metric.counter "d" 2] = 2 := by
    decide +kernel
  have hitself : ¬ (Write.batch [Metric.counter "c" 1, Metric.counter "d" 2]).OverflowsItself :=
    Write.not_overflowsItself_iff.2
      ⟨⟨(Series.empty.insert "c" 1).insert "d" 2, Series.empty⟩, by decide +kernel⟩
  obtain ⟨hiff, hrest⟩ :=
    (counter_overflow_checked_iff full.tables readable_full).1 _ .reversed hvalid
  refine ⟨readable_full, hvalid, ⟨"c", hover⟩, hitself, fun hchecked => ?_, ?_⟩
  · rcases hiff.1 hchecked with hnone | hself
    · exact hnone ⟨"c", hover⟩
    · exact hitself hself
  · rcases hrest ⟨"c", hover⟩ hitself with ⟨m, hm, -⟩ | ⟨metrics, next, hw, hadds, hok⟩
    · cases hm
    · cases hw
      refine ⟨next, hok, ?_, hadds.real "c" (by decide +kernel) hover⟩
      obtain ⟨n, hn, hsum⟩ :=
        hadds.whole "d" (by decide +kernel) (by rw [hfits]; exact fitsInt64_toInt 2)
      exact ⟨n, hn, hsum.trans hfits⟩

end Relational

end Telemetry

import Telemetry.Proofs.Store.Relational.Tables
import Telemetry.Store.Client

/-!
# Writes to a relational store

What a write does to a relational store that is at work, once its transaction has been gone through.
A single metric is stored if its row can be read back (`perform_one`), a batch if it can be folded
(`perform_batch`). In both cases the tables take the folded metrics, a single metric being a batch
with one row (`rowsOf_of_fold_singleton`).
-/

namespace Telemetry

namespace Session

/-- Rows are written to the working copy, which then takes the place of the database. -/
theorem execAll_writes {faults : Faults} (hfaults : ∀ index, faults index = false) (index : Nat)
    (d : Database) (t : Tables) (row : Option Metric) (rows : List Upsert) :
    (Session.mk d (some ⟨some t⟩) row).execAll faults index (rows.map .write ++ [.commit]) =
      (.ok (), ⟨⟨some (rows.foldl Tables.upsert t)⟩, none, row⟩) := by
  induction rows generalizing index t with
  | nil => simp [execAll, hfaults, exec, visible]
  | cons first rest ih =>
    have hstep : (Session.mk d (some ⟨some t⟩) row).exec (.write first) =
        .ok ⟨d, some ⟨some (t.upsert first)⟩, row⟩ := rfl
    rw [List.map_cons, List.cons_append, execAll, hfaults, if_neg Bool.false_ne_true, hstep]
    exact ih (index + 1) (t.upsert first)

end Session

namespace Relational

/-- The store over some tables, with a connection that may write. -/
def serving (t : Tables) : Relational := ⟨⟨some t⟩, true, true⟩

/-- The rows of a store, none before the migration is applied. -/
def tables (r : Relational) : Tables := r.database.tables.getD Tables.empty

variable {t : Tables} {m : Metric} {metrics : List Metric} {a : Arrangement}

@[simp] theorem tables_serving (t : Tables) : (serving t).tables = t := rfl

theorem faults_serving (t : Tables) (index : Nat) : (serving t).faults index = false := rfl

/-! ## Transactions -/

/-- Rows that are written in one transaction without a fault are all written. -/
theorem transact_rows (t : Tables) (rows : List Upsert) :
    (Database.mk (some t)).transact (serving t).faults (statementsForRows rows) =
      (.ok (), ⟨⟨some (rows.foldl Tables.upsert t)⟩, none, none⟩) := by
  unfold Database.transact statementsForRows
  rw [Session.execAll, faults_serving, if_neg Bool.false_ne_true]
  exact Session.execAll_writes (faults_serving t) 1 ⟨some t⟩ t none rows

/-- A single metric is committed only after its row has been read. -/
theorem transact_metric (t : Tables) (m : Metric) :
    (Database.mk (some t)).transact (serving t).faults (statementsFor m) =
      match (t.upsert (rowOf m)).fetch m.id m.kind with
      | .ok stored => (.ok (), ⟨⟨some (t.upsert (rowOf m))⟩, none, some stored⟩)
      | .error e => (.error e, ⟨⟨some t⟩, none, none⟩) := by
  unfold Database.transact statementsFor
  rw [Session.execAll, faults_serving, if_neg Bool.false_ne_true]
  show (Session.mk ⟨some t⟩ (some ⟨some t⟩) none).execAll _ 1 _ = _
  rw [Session.execAll, faults_serving, if_neg Bool.false_ne_true]
  show (Session.mk ⟨some t⟩ (some ⟨some (t.upsert (rowOf m))⟩) none).execAll _ 2 _ = _
  rw [Session.execAll, faults_serving, if_neg Bool.false_ne_true]
  cases hfetch : (t.upsert (rowOf m)).fetch m.id m.kind with
  | ok stored =>
    have hread : (Session.mk ⟨some t⟩ (some ⟨some (t.upsert (rowOf m))⟩) none).exec
        (.readBack m.id m.kind)
        = .ok ⟨⟨some t⟩, some ⟨some (t.upsert (rowOf m))⟩, some stored⟩ := by
      simp [Session.exec, Session.visible, Database.withTables, hfetch, Except.map]
    rw [hread]
    -- what is left is the commit: a transaction with no more rows
    exact Session.execAll_writes (faults_serving t) 3 ⟨some t⟩ (t.upsert (rowOf m)) (some stored) []
  | error e =>
    have hread : (Session.mk ⟨some t⟩ (some ⟨some (t.upsert (rowOf m))⟩) none).exec
        (.readBack m.id m.kind) = .error e := by
      simp [Session.exec, Session.visible, Database.withTables, hfetch, Except.map]
    rw [hread]
    rfl

/-! ## Folds -/

/-- A batch can be folded exactly if its own running sums fit. -/
theorem fold_isOk_iff :
    (∃ totals, fold metrics = .ok totals) ↔
      ∀ before, before <+: metrics → ∀ name, FitsInt64 (deltaSum name before) := by
  have hzero : ∀ name, (Snapshot.empty.count? name).getD 0 = 0 := fun _ => rfl
  unfold fold
  rw [Snapshot.applyAll_isOk_iff]
  simp only [hzero, Int.zero_add]

/-- Folding a batch is applying it to an empty snapshot. -/
theorem grows_of_fold {totals : Snapshot} (h : fold metrics = .ok totals) :
    Snapshot.Grows Snapshot.empty metrics totals :=
  Snapshot.grows_of_applyAll h

/-- A refused fold names the counter whose running sum does not fit. -/
theorem fold_eq_error {e : MetricError} (h : fold metrics = .error e) :
    ∃ name, e = .counterOverflow name := by
  obtain ⟨before, m, -, rfl⟩ := Snapshot.applyAll_eq_error_iff.1 h
  exact ⟨m.id, rfl⟩

/-- A single metric is folded to its own row. -/
theorem rowsOf_of_fold_singleton (m : Metric) :
    ∃ totals, fold [m] = .ok totals ∧ rowsOf totals = [rowOf m] := by
  have hfold : fold [m] = (Snapshot.empty.apply m).map (·.2) :=
    Snapshot.applyAll_singleton Snapshot.empty m
  -- Folding starts from nothing, so the sum is the delta itself.
  cases hkind : m.kind with
  | counter =>
    refine ⟨⟨Series.empty.insert m.id m.deltaOrZero, Series.empty⟩, ?_, ?_⟩
    · have hzero : Snapshot.empty.sum m.id = 0 := rfl
      rw [hfold, Snapshot.apply_counter hkind, hzero, addChecked_zero_left]
      rfl
    · rw [rowOf, hkind]
      rfl
  | gauge =>
    refine ⟨⟨Series.empty, Series.empty.insert m.id m.valueOrZero⟩, ?_, ?_⟩
    · rw [hfold, Snapshot.apply_gauge hkind]
      rfl
    · rw [rowOf, hkind]
      rfl

/-- The row of a single metric does to the tables what the rows of a batch do. -/
theorem takes_upsert (t : Tables) (m : Metric) :
    ∃ totals, fold [m] = .ok totals ∧ t.Takes totals (t.upsert (rowOf m)) := by
  obtain ⟨totals, hfold, hrows⟩ := rowsOf_of_fold_singleton m
  have hperm : [rowOf m].Perm (rowsOf totals) := hrows ▸ .refl _
  exact ⟨totals, hfold, takes_of_perm t hperm⟩

/-- The row of a metric adds what the metric says. -/
theorem adds_upsert (hread : t.Readable) (m : Metric) : t.Adds [m] (t.upsert (rowOf m)) := by
  obtain ⟨totals, hfold, htakes⟩ := takes_upsert t m
  exact htakes.adds hread (grows_of_fold hfold)

/-! ## Writes -/

/-- With its rows in the order of the names, a write is the one of the store. -/
theorem perform_sorted (r : Relational) (w : Write) : r.perform .sorted w = w.perform r := by
  cases w <;> rfl

/-- A single metric is stored if its row can be read back. -/
theorem perform_one (hvalid : m.validate = .ok ()) :
    (serving t).perform a (.one m) =
      match (t.upsert (rowOf m)).fetch m.id m.kind with
      | .ok stored => (.ok (some stored), serving (t.upsert (rowOf m)))
      | .error e => (.error e, serving t) := by
  have hdatabase : (serving t).database = ⟨some t⟩ := rfl
  unfold perform createWith
  simp only [hvalid, hdatabase, transact_metric]
  cases (t.upsert (rowOf m)).fetch m.id m.kind <;> rfl

/-- A batch is stored if it can be folded. -/
theorem perform_batch (hvalid : ∀ m ∈ metrics, m.validate = .ok ()) :
    (serving t).perform a (.batch metrics) =
      match fold metrics with
      | .ok totals => (.ok none, serving ((a.arrange (rowsOf totals)).foldl Tables.upsert t))
      | .error e => (.error (.invalid e), serving t) := by
  have hdatabase : (serving t).database = ⟨some t⟩ := rfl
  unfold perform createAllWith
  simp only [validateAll_eq_ok_iff.2 hvalid, hdatabase]
  cases metrics with
  | nil =>
    -- nothing is touched, and there are no rows to be written either
    have hrows : a.arrange (rowsOf Snapshot.empty) = [] := (a.perm _).eq_nil
    show _ = (_, serving ((a.arrange (rowsOf Snapshot.empty)).foldl Tables.upsert t))
    rw [hrows]
    rfl
  | cons m rest =>
    rw [if_neg (by simp)]
    cases fold (m :: rest) with
    | error e => rfl
    | ok totals =>
      simp only [writeRows, transact_rows]
      rfl

/-- A write with a metric that is not accepted is refused. -/
theorem perform_of_invalid {w : Write} (h : ¬ ∀ m ∈ w.metrics, m.validate = .ok ()) :
    ∃ e, (serving t).perform a w = (.error (.invalid e), serving t) := by
  cases w with
  | one m =>
    rw [Write.metrics, List.forall_mem_singleton] at h
    cases hvalid : m.validate with
    | ok u => exact absurd hvalid h
    | error e => exact ⟨e, by simp [perform, createWith, hvalid, serving, Except.map]⟩
  | batch metrics =>
    rw [Write.metrics, ← validateAll_eq_ok_iff] at h
    cases hvalid : validateAll metrics with
    | ok u => exact absurd hvalid h
    | error e => exact ⟨e, by simp [perform, createAllWith, hvalid, serving, Except.map]⟩

end Relational

end Telemetry

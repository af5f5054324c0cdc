import Telemetry.Proofs.Store.Relational.Write

/-!
# Writes whose statements fail

Any statement of a write may fail from outside. A transaction that fails leaves the database as it
was, however far it had come (`Session.database_of_execAll_error`), and one that does not fail had
no failing statement (`Session.faultless_of_execAll_ok`), so it is the transaction of an undisturbed
store. Hence a write is stored whole or not at all (`write_is_all_or_nothing`).
-/

namespace Telemetry

namespace Session

variable {faults others : Faults} {index : Nat} {s next last : Session} {statement : Statement}
  {statements body : List Statement} {e : StoreError}

/-! ## Statements -/

/-- Only a commit changes the database. -/
theorem database_of_exec (hcommit : statement ≠ .commit) (h : s.exec statement = .ok next) :
    next.database = s.database := by
  -- Everything but the commit works on the copy.
  cases statement with
  | start =>
    cases h
    rfl
  | write row =>
    simp only [exec, Database.withTables] at h
    split at h <;> cases h
    rfl
  | readBack name kind =>
    simp only [exec, Database.withTables] at h
    split at h
    · next t _ =>
      cases hfetch : t.fetch name kind with
      | ok m =>
        rw [hfetch] at h
        cases h
        rfl
      | error e =>
        rw [hfetch] at h
        cases h
    · cases h
  | commit => exact absurd rfl hcommit

/-- A transaction is dropped at its first statement or goes on after it. -/
theorem execAll_cons_cases (faults : Faults) (index : Nat) (s : Session) (statement : Statement)
    (rest : List Statement) :
    (∃ e, s.execAll faults index (statement :: rest) = (.error e, s.rollBack)) ∨
      ∃ next, faults index = false ∧ s.exec statement = .ok next ∧
        s.execAll faults index (statement :: rest) = next.execAll faults (index + 1) rest := by
  rw [execAll]
  cases hfault : faults index with
  | true => exact .inl ⟨_, rfl⟩
  | false =>
    rw [if_neg Bool.false_ne_true]
    cases hexec : s.exec statement with
    | error e => exact .inl ⟨e, rfl⟩
    | ok next => exact .inr ⟨next, rfl, rfl, rfl⟩

/-! ## Transactions -/

/-- A transaction that fails leaves the database as it was, even if its commit is what fails. -/
theorem database_of_execAll_error (hbody : .commit ∉ body)
    (h : s.execAll faults index (body ++ [.commit]) = (.error e, last)) :
    last.database = s.database := by
  -- A failure before the commit drops the copy; the commit is the last statement, so if it fails it
  -- has not been done.
  induction body generalizing index s with
  | nil =>
    rw [List.nil_append] at h
    obtain ⟨_, hdropped⟩ | ⟨next, -, -, hcommitted⟩ := execAll_cons_cases faults index s .commit []
    · cases hdropped.symm.trans h
      rfl
    · cases hcommitted.symm.trans h
  | cons statement rest ih =>
    rw [List.mem_cons, not_or] at hbody
    rw [List.cons_append] at h
    obtain ⟨_, hdropped⟩ | ⟨next, -, hexec, hnext⟩ :=
      execAll_cons_cases faults index s statement (rest ++ [.commit])
    · cases hdropped.symm.trans h
      rfl
    · exact (ih hbody.2 (hnext.symm.trans h)).trans (database_of_exec (Ne.symm hbody.1) hexec)

/-- No statement of a transaction that reaches its end fails. -/
theorem faultless_of_execAll_ok (h : s.execAll faults index statements = (.ok (), last)) :
    ∀ i < statements.length, faults (index + i) = false := by
  induction statements generalizing index s with
  | nil => exact nofun
  | cons statement rest ih =>
    obtain ⟨_, hdropped⟩ | ⟨next, hfault, -, hnext⟩ :=
      execAll_cons_cases faults index s statement rest
    · cases hdropped.symm.trans h
    · intro i hi
      cases i with
      | zero => exact hfault
      | succ i =>
        have hrest := ih (hnext.symm.trans h) i (Nat.lt_of_succ_lt_succ hi)
        rwa [Nat.add_right_comm, Nat.add_assoc] at hrest

/-- Faults outside of a transaction do not matter to it. -/
theorem execAll_congr (h : ∀ i < statements.length, faults (index + i) = others (index + i)) :
    s.execAll faults index statements = s.execAll others index statements := by
  induction statements generalizing index s with
  | nil => rfl
  | cons statement rest ih =>
    have hfirst : faults index = others index := h 0 (Nat.zero_lt_succ _)
    have hrest : ∀ i < rest.length, faults (index + 1 + i) = others (index + 1 + i) := by
      intro i hi
      rw [Nat.add_right_comm, Nat.add_assoc]
      exact h (i + 1) (Nat.succ_lt_succ hi)
    rw [execAll, execAll, hfirst]
    cases s.exec statement with
    | error e => rfl
    | ok next => simp only [ih hrest]

end Session

/-! ## What is written -/

namespace Tables

/-- `next` is `t` with metrics written to it: each of their counters has taken the sum of all of its
deltas, each of their gauges is the last of its values, and every other row is as it was. -/
structure Written (t : Tables) (metrics : List Metric) (next : Tables) : Prop where
  counter : ∀ name, entriesOf name .counter metrics ≠ [] →
    ∃ delta, next.counters.get? name = some (t.cellAfter name delta) ∧
      delta.toInt = deltaSum name metrics
  gauge : ∀ name x, lastValue? name metrics = some x →
    next.gauges.get? name = some x.withoutNegativeZero
  otherCounter : ∀ name, entriesOf name .counter metrics = [] →
    next.counters.get? name = t.counters.get? name
  otherGauge : ∀ name, lastValue? name metrics = none →
    next.gauges.get? name = t.gauges.get? name

variable {t next : Tables} {totals : Snapshot} {metrics : List Metric}

/-- Tables that have taken the rows of a folded batch hold what was written, name by name. -/
theorem Takes.written (htakes : t.Takes totals next)
    (hgrows : Snapshot.Grows Snapshot.empty metrics totals) : t.Written metrics next := by
  have hgauge : ∀ name, totals.gauges.get? name = lastValue? name metrics := by
    intro name
    rw [hgrows.gauge]
    exact Option.or_none
  refine ⟨fun name => htakes.counter_of_touched hgrows, fun name x hlast => ?_,
    fun name hnone => ?_, fun name hnone => ?_⟩
  · rw [htakes.gauge, hgauge, hlast]
    rfl
  · have hrow : totals.counters.get? name = none := hgrows.counter_of_untouched hnone
    rw [htakes.counter, hrow]
    rfl
  · rw [htakes.gauge, hgauge, hnone]
    rfl

end Tables

namespace Relational

variable {faults : Faults} {t : Tables} {metrics : List Metric} {statements body : List Statement}
  {e : StoreError}

/-- The statements of a batch that is not refused before its transaction. -/
def statementsForBatch (a : Arrangement) (metrics : List Metric) : List Statement :=
  match metrics, fold metrics with
  | _ :: _, .ok totals => statementsForRows (a.arrange (rowsOf totals))
  | _, _ => []

/-- Tables that are as they were after an error, and that hold every metric of the call if there is
none; then no statement failed. -/
structure AllOrNothing {α : Type} (t : Tables) (faults : Faults) (statements : List Statement)
    (metrics : List Metric) (outcome : Except StoreError α × Database) : Prop where
  nothing : ∀ e, outcome.1 = .error e → outcome.2 = ⟨some t⟩
  all : ∀ answer, outcome.1 = .ok answer →
    ∃ next, outcome.2 = ⟨some next⟩ ∧ t.Written metrics next ∧ (t.Readable → t.Adds metrics next)
  faultless : ∀ answer, outcome.1 = .ok answer → ∀ i < statements.length, faults i = false

/-- A write that fails and leaves the tables as they were is all or nothing. -/
theorem AllOrNothing.of_error {α : Type} {outcome : Except StoreError α × Database}
    (h : outcome = (.error e, ⟨some t⟩)) : AllOrNothing t faults statements metrics outcome := by
  cases h
  exact ⟨fun _ _ => rfl, nofun, nofun⟩

/-- A write that succeeds and has taken every row is all or nothing. -/
theorem AllOrNothing.of_takes {α : Type} {outcome : Except StoreError α × Database} {answer : α}
    {totals : Snapshot} {next : Tables} (h : outcome = (.ok answer, ⟨some next⟩))
    (hfold : fold metrics = .ok totals) (htakes : t.Takes totals next)
    (hfaultless : ∀ i < statements.length, faults i = false) :
    AllOrNothing t faults statements metrics outcome := by
  cases h
  have hgrows := grows_of_fold hfold
  refine ⟨nofun, fun _ _ => ⟨next, rfl, htakes.written hgrows, ?_⟩, fun _ _ => hfaultless⟩
  exact fun hread => htakes.adds hread hgrows

/-! ## Outcomes -/

/-- A transaction fails and leaves the database as it was, or none of its statements fails and it is
the one of an undisturbed store. -/
theorem transact_cases (faults : Faults) (t : Tables) (hcommit : statements = body ++ [.commit])
    (hbody : .commit ∉ body) :
    (∃ e s, Database.transact faults ⟨some t⟩ statements = (.error e, s) ∧
      s.database = ⟨some t⟩) ∨
    ∃ s, Database.transact faults ⟨some t⟩ statements = (.ok (), s) ∧
      Database.transact (serving t).faults ⟨some t⟩ statements = (.ok (), s) ∧
      ∀ i < statements.length, faults i = false := by
  cases h : Database.transact faults ⟨some t⟩ statements with
  | mk result s =>
    cases result with
    | error e =>
      rw [hcommit] at h
      exact .inl ⟨e, s, rfl, Session.database_of_execAll_error hbody h⟩
    | ok u =>
      have hfaultless : ∀ i < statements.length, faults i = false := by
        intro i hi
        rw [← Nat.zero_add i]
        exact Session.faultless_of_execAll_ok h i hi
      -- No statement has failed, so the transaction goes as it does without faults.
      refine .inr ⟨s, rfl, ?_, hfaultless⟩
      rw [← h]
      refine Session.execAll_congr fun i hi => ?_
      rw [faults_serving, Nat.zero_add, hfaultless i hi]

/-- A single metric changes nothing, or its row is written and read back. -/
theorem createWith_cases (faults : Faults) (t : Tables) (m : Metric) :
    (∃ e, createWith faults ⟨some t⟩ m = (.error e, ⟨some t⟩)) ∨
    ∃ stored, createWith faults ⟨some t⟩ m = (.ok stored, ⟨some (t.upsert (rowOf m))⟩) ∧
      (t.upsert (rowOf m)).fetch m.id m.kind = .ok stored ∧
      ∀ i < (statementsFor m).length, faults i = false := by
  have hcommit : statementsFor m
      = [.start, .write (rowOf m), .readBack m.id m.kind] ++ [.commit] := rfl
  unfold createWith
  cases m.validate with
  | error cause => exact .inl ⟨_, rfl⟩
  | ok u =>
    obtain ⟨e, s, htransact, hdatabase⟩ | ⟨s, htransact, hserving, hfaultless⟩ :=
      transact_cases faults t hcommit (by simp)
    · exact .inl ⟨e, by simp only [htransact, hdatabase]⟩
    · right
      have hmetric := (transact_metric t m).symm.trans hserving
      -- A row that cannot be read back fails the transaction before its commit.
      cases hfetch : (t.upsert (rowOf m)).fetch m.id m.kind with
      | error cause =>
        rw [hfetch] at hmetric
        cases hmetric
      | ok stored =>
        rw [hfetch] at hmetric
        cases hmetric
        exact ⟨stored, by simp only [htransact, Option.getD_some], rfl, hfaultless⟩

/-- A batch changes nothing, or its rows are written. -/
theorem createAllWith_cases (a : Arrangement) (faults : Faults) (t : Tables)
    (metrics : List Metric) :
    (∃ e, createAllWith a.arrange faults ⟨some t⟩ metrics = (.error e, ⟨some t⟩)) ∨
    ∃ totals, fold metrics = .ok totals ∧
      createAllWith a.arrange faults ⟨some t⟩ metrics
        = (.ok (), ⟨some ((a.arrange (rowsOf totals)).foldl Tables.upsert t)⟩) ∧
      ∀ i < (statementsForBatch a metrics).length, faults i = false := by
  unfold createAllWith
  cases validateAll metrics with
  | error cause => exact .inl ⟨_, rfl⟩
  | ok u =>
    -- An empty batch makes no transaction, and takes no rows.
    cases metrics with
    | nil =>
      have hrows : a.arrange (rowsOf Snapshot.empty) = [] := (a.perm _).eq_nil
      refine .inr ⟨Snapshot.empty, rfl, ?_, nofun⟩
      rw [hrows]
      rfl
    | cons first rest =>
      unfold statementsForBatch
      cases fold (first :: rest) with
      | error cause => exact .inl ⟨_, rfl⟩
      | ok totals =>
        have hcommit : statementsForRows (a.arrange (rowsOf totals))
            = (.start :: (a.arrange (rowsOf totals)).map .write) ++ [.commit] := rfl
        obtain ⟨e, s, htransact, hdatabase⟩ | ⟨s, htransact, hserving, hfaultless⟩ :=
          transact_cases faults t hcommit (by simp)
        · refine .inl ⟨e, ?_⟩
          show writeRows faults ⟨some t⟩ _ = _
          simp only [writeRows, htransact, hdatabase]
        · refine .inr ⟨totals, rfl, ?_, hfaultless⟩
          cases (transact_rows t _).symm.trans hserving
          show writeRows faults ⟨some t⟩ _ = _
          simp only [writeRows, htransact]

/-- **A write is stored whole or not at all.** For all tables and whichever statements fail: after
an error the tables are as they were; a single metric or a batch that is accepted is in the tables
with every one of its metrics, whatever the order of its rows, and none of its statements failed. A
single metric is answered as it is then stored. -/
theorem write_is_all_or_nothing (t : Tables) (faults : Faults) :
    (∀ m, AllOrNothing t faults (statementsFor m) [m] (createWith faults ⟨some t⟩ m)) ∧
    (∀ m stored next, createWith faults ⟨some t⟩ m = (.ok stored, ⟨some next⟩) →
      next.fetch m.id m.kind = .ok stored) ∧
    ∀ a metrics, AllOrNothing t faults (statementsForBatch a metrics) metrics
      (createAllWith a.arrange faults ⟨some t⟩ metrics) := by
  refine ⟨fun m => ?_, fun m stored next h => ?_, fun a metrics => ?_⟩
  · obtain ⟨e, herror⟩ | ⟨stored, hok, -, hfaultless⟩ := createWith_cases faults t m
    · exact .of_error herror
    -- A single metric is a batch of one, folded to its own row.
    · obtain ⟨totals, hfold, htakes⟩ := takes_upsert t m
      exact .of_takes hok hfold htakes hfaultless
  · obtain ⟨e, herror⟩ | ⟨stored, hok, hfetch, -⟩ := createWith_cases faults t m
    · cases herror.symm.trans h
    · cases hok.symm.trans h
      exact hfetch
  · obtain ⟨e, herror⟩ | ⟨totals, hfold, hok, hfaultless⟩ := createAllWith_cases a faults t metrics
    · exact .of_error herror
    · exact .of_takes hok hfold (takes_of_perm t (a.perm (rowsOf totals))) hfaultless

/-- The commit of a batch with two rows is its statement number three. -/
example : createAllWith id (· == 3) ⟨some Tables.empty⟩
    [Metric.counter "c" 1, Metric.counter "d" 2] = (.error .database, ⟨some Tables.empty⟩) := by
  decide +kernel

end Relational

end Telemetry

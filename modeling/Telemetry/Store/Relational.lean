import Telemetry.Snapshot
import Telemetry.Store.Relational.Tables

/-!
# The relational store

The store in two tables. A single metric is written in a transaction of its own that also reads the
row back, so a counter whose sum is out of range is noticed before the commit. A batch is first
folded to one row a name (its own sums are checked on the way) and then written in one transaction,
in any order of the rows and without reading back.

`contents` asks two queries, one for each table.
-/

namespace Telemetry

/-! ## Transactions

A transaction is a list of statements. They act on a working copy that the first one makes and the
last one puts in the place of the database; a transaction that stops early leaves the database
alone. Any statement may fail from outside: a `Faults` says which ones do.
-/

/-- One statement of a transaction. -/
inductive Statement
  /-- The working copy is made. -/
  | start
  /-- A row of the working copy is written. -/
  | write (row : Upsert)
  /-- A row of the working copy is read. -/
  | readBack (name : String) (kind : Kind)
  /-- The working copy takes the place of the database. -/
  | commit
deriving DecidableEq

/-- The statements, by their number in the transaction, that fail from outside. -/
abbrev Faults := Nat → Bool

/-- A database and the transaction that is open on it. -/
structure Session where
  database : Database
  /-- The working copy of the open transaction. -/
  working : Option Database
  /-- The row that was read last. -/
  row : Option Metric
deriving DecidableEq

namespace Session

/-- No transaction is open. -/
def idle (d : Database) : Session := ⟨d, none, none⟩

/-- What a statement sees. -/
def visible (s : Session) : Database := s.working.getD s.database

/-- One statement. -/
def exec (s : Session) : Statement → Except StoreError Session
  | .start => .ok { s with working := some s.database }
  | .write row => s.visible.withTables fun t => .ok { s with working := some ⟨some (t.upsert row)⟩ }
  | .readBack name kind =>
      s.visible.withTables fun t => (t.fetch name kind).map fun m => { s with row := some m }
  | .commit => .ok { s with database := s.visible, working := none }

/-- The open transaction is dropped. -/
def rollBack (s : Session) : Session := { s with working := none }

/-- Statements one after another, the first of them being number `index`; the first failure drops
the transaction. -/
def execAll (faults : Faults) (index : Nat) (s : Session) :
    List Statement → Except StoreError Unit × Session
  | [] => (.ok (), s)
  | statement :: rest =>
    if faults index then (.error .database, s.rollBack)
    else
      match s.exec statement with
      | .ok next => next.execAll faults (index + 1) rest
      | .error e => (.error e, s.rollBack)

end Session

namespace Database

/-- A transaction from its first statement to its last. -/
def transact (faults : Faults) (d : Database) (statements : List Statement) :
    Except StoreError Unit × Session :=
  (Session.idle d).execAll faults 0 statements

end Database

/-! ## Writing and reading -/

/-- A database behind a connection. -/
structure Relational where
  database : Database
  /-- The connection is open. -/
  connected : Bool
  /-- The connection may write. -/
  writable : Bool
deriving DecidableEq, Inhabited

namespace Relational

/-- The row that a metric writes. -/
def rowOf (m : Metric) : Upsert :=
  match m.kind with
  | .counter => .counter m.id m.deltaOrZero
  | .gauge => .gauge m.id m.valueOrZero

/-- The statements that store one metric. -/
def statementsFor (m : Metric) : List Statement :=
  [.start, .write (rowOf m), .readBack m.id m.kind, .commit]

/-- The statements that write rows. -/
def statementsForRows (rows : List Upsert) : List Statement :=
  .start :: (rows.map .write ++ [.commit])

/-- A batch folded to one sum for each counter and one value for each gauge. -/
def fold (metrics : List Metric) : Except MetricError Snapshot :=
  Snapshot.empty.applyAll metrics

/-- The rows of a folded batch. -/
def rowsOf (s : Snapshot) : List Upsert :=
  (s.counters.toList.map fun p => .counter p.1 p.2) ++ s.gauges.toList.map fun p => .gauge p.1 p.2

/-- One metric is stored; the answer is the row as it was read back. -/
def createWith (faults : Faults) (d : Database) (m : Metric) :
    Except StoreError Metric × Database :=
  match m.validate with
  | .error e => (.error (.invalid e), d)
  | .ok () =>
    match d.transact faults (statementsFor m) with
    | (.ok (), s) => (.ok (s.row.getD m), s.database)
    | (.error e, s) => (.error e, s.database)

/-- Rows are written in one transaction. -/
def writeRows (faults : Faults) (d : Database) (rows : List Upsert) :
    Except StoreError Unit × Database :=
  let (result, s) := d.transact faults (statementsForRows rows)
  (result, s.database)

/-- A batch is stored, its rows in the order that `arrange` gives them. An empty batch touches
nothing. -/
def createAllWith (arrange : List Upsert → List Upsert) (faults : Faults) (d : Database)
    (metrics : List Metric) : Except StoreError Unit × Database :=
  match validateAll metrics with
  | .error e => (.error (.invalid e), d)
  | .ok () =>
    if metrics.isEmpty then (.ok (), d)
    else
      match fold metrics with
      | .error e => (.error (.invalid e), d)
      | .ok totals => writeRows faults d (arrange (rowsOf totals))

/-- Every statement fails once the connection is closed. On a connection that may not write, every
statement after the first one fails, which only makes the working copy. -/
def faults (r : Relational) : Faults := fun index => !r.connected || (!r.writable && 0 < index)

/-- A query outside of a transaction. -/
def query {α : Type} (r : Relational) (ask : Tables → Except StoreError α) : Except StoreError α :=
  if r.connected then r.database.withTables ask else .error .database

/-- The stored contents: all counters, then all gauges. -/
def contents (r : Relational) : Except StoreError Snapshot := do
  let counters ← r.query Tables.readCounters
  let gauges ← r.query fun t => .ok t.readGauges
  return ⟨counters, gauges⟩

/-- The stored metrics of one kind; only the table of that kind is read. -/
def ofKind (r : Relational) : Kind → Except StoreError (List Metric)
  | .counter => do return Snapshot.ofKind ⟨← r.query Tables.readCounters, Series.empty⟩ .counter
  | .gauge => do return Snapshot.ofKind ⟨Series.empty, ← r.query fun t => .ok t.readGauges⟩ .gauge

/-- The connection is closed. -/
def close (r : Relational) : Relational := { r with connected := false }

end Relational

instance : Store Relational where
  create r m :=
    let (result, d) := Relational.createWith r.faults r.database m
    (result, { r with database := d })
  createAll r metrics :=
    let (result, d) := Relational.createAllWith id r.faults r.database metrics
    (result, { r with database := d })
  get r name kind := r.query fun t => t.fetch name kind
  contents := Relational.contents
  ofKind := Relational.ofKind
  ping r := if r.connected then .ok () else .error .database

end Telemetry

import Telemetry.Number.Binary64
import Telemetry.Number.Decimal
import Telemetry.Series
import Telemetry.Store

/-!
# The tables of the relational store

The cells that hold counters, the two tables, and the migration that makes them.
-/

namespace Telemetry

/-! ## Counters in a table

The column that holds counters takes integers of 64 bits and real numbers. Adding two integers gives
an integer if the sum is in range, and otherwise the real number nearest to it; whatever is added to
a real number gives a real number. A real number that comes to lie strictly between the ends of the
range of integers is stored as an integer again.

All real numbers that arise in this way are integral, so a cell holds an `Int` in either case.
-/

/-- The contents of one counter. -/
inductive Cell
  /-- An integer, which can be read as a counter. -/
  | whole (n : Int64)
  /-- A real number, which cannot. -/
  | real (r : Int)
deriving DecidableEq, Inhabited

namespace Cell

/-- The natural number with at most 53 significant bits that is nearest to `n`, ties going to the
even one. -/
def nearestNat (n : Nat) : Nat :=
  let shift := bitLength n - 53
  roundHalfEven n (1 <<< shift) <<< shift

/-- The real number nearest to an integer. -/
def nearest (n : Int) : Int :=
  match n with
  | .ofNat m => nearestNat m
  | .negSucc m => -(nearestNat (m + 1) : Int)

/-- A real number is stored; inside the range of integers it becomes one. -/
def ofReal (r : Int) : Cell :=
  if Int64.minValue.toInt < r ∧ r ≤ Int64.maxValue.toInt then whole (Int64.ofInt r) else real r

/-- The stored number. -/
def toInt : Cell → Int
  | whole n => n.toInt
  | real r => r

/-- A delta is added to what is stored. -/
def add (c : Cell) (delta : Int64) : Cell :=
  match c with
  | whole n =>
    match addChecked n delta with
    | some total => whole total
    | none => ofReal (nearest (nearest n.toInt + nearest delta.toInt))
  | real r => ofReal (nearest (r + nearest delta.toInt))

/-- The counter, if the cell holds one. -/
def counter? : Cell → Option Int64
  | whole n => some n
  | real _ => none

end Cell

/-! ## The two tables

A relational store keeps counters and gauges in two tables, each keyed by the name. Both are made by
one migration, and before it is applied there are none. A row is written by an upsert: a counter row
adds the new delta to what it holds, a gauge row takes the new value.

Numbers of the gauge table are kept without the sign of zero.
-/

/-- The rows of the two tables. -/
structure Tables where
  counters : Series Cell
  gauges : Series Binary64
deriving DecidableEq, Inhabited

/-- One row to be written. -/
inductive Upsert
  /-- A counter row; the delta is added. -/
  | counter (name : String) (delta : Int64)
  /-- A gauge row; the value replaces the old one. -/
  | gauge (name : String) (value : Binary64)
deriving DecidableEq

namespace Tables

/-- No rows. -/
def empty : Tables := ⟨Series.empty, Series.empty⟩

/-- A row is written. -/
def upsert (t : Tables) : Upsert → Tables
  | .counter name delta =>
    let cell := match t.counters.get? name with
      | some cell => cell.add delta
      | none => .whole delta
    { t with counters := t.counters.insert name cell }
  | .gauge name value => { t with gauges := t.gauges.insert name value.withoutNegativeZero }

/-- All counters; a row that holds no counter fails the query. -/
def readCounters (t : Tables) : Except StoreError (Series Int64) :=
  match t.counters.mapM? Cell.counter? with
  | some counters => .ok counters
  | none => .error .database

/-- All gauges. -/
def readGauges (t : Tables) : Series Binary64 := t.gauges

/-- One row as a metric. -/
def fetch (t : Tables) (name : String) : Kind → Except StoreError Metric
  | .counter =>
    match t.counters.get? name with
    | some (.whole n) => .ok (Metric.counter name n)
    | some (.real _) => .error .database
    | none => .error (.notFound .counter name)
  | .gauge =>
    match t.gauges.get? name with
    | some x => .ok (Metric.gauge name x)
    | none => .error (.notFound .gauge name)

end Tables

/-- What a database file holds: the tables, once the migration is applied. -/
structure Database where
  tables : Option Tables
deriving DecidableEq, Inhabited

namespace Database

/-- A new database. -/
def empty : Database := ⟨none⟩

/-- The name of the migration that makes the tables. -/
def migrationName : String := "m001_metric_tables"

/-- The migration is applied, if it is not yet. -/
def migrate (d : Database) : Database := ⟨some (d.tables.getD Tables.empty)⟩

/-- The migration is taken back, with everything in the tables. -/
def rollBackMigration (_ : Database) : Database := ⟨none⟩

/-- The migrations that are applied. -/
def applied (d : Database) : List String := if d.tables.isSome then [migrationName] else []

/-- The migrations that are not applied. -/
def pending (d : Database) : List String := if d.tables.isSome then [] else [migrationName]

/-- The tables, for a statement that needs them. -/
def withTables {α : Type} (d : Database) (query : Tables → Except StoreError α) :
    Except StoreError α :=
  match d.tables with
  | some t => query t
  | none => .error .database

end Database

end Telemetry

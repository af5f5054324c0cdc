import Telemetry.Store.History
import Telemetry.Store.Relational

/-!
# Clients

What clients ask of a store, one request after another: writes, readings, and that the connection to
a relational store is closed and made again, which applies the migration once more. For a store in
memory there is nothing to do then.

The rows of a batch reach a relational store in an order that nothing prescribes. An `Arrangement`
is one such order, and every request comes with its own.
-/

namespace Telemetry

/-- An order in which the rows of a batch may be written. -/
structure Arrangement where
  arrange : List Upsert → List Upsert
  perm : ∀ rows, (arrange rows).Perm rows

namespace Arrangement

/-- The rows in increasing order of their names. -/
def sorted : Arrangement := ⟨id, fun rows => .refl rows⟩

/-- The rows in decreasing order of their names. -/
def reversed : Arrangement := ⟨List.reverse, List.reverse_perm⟩

end Arrangement

/-- What a client can read. -/
inductive Reading
  /-- The metric of a name and a kind. -/
  | metric (name : String) (kind : Kind)
  /-- Everything. -/
  | contents
  /-- The metrics of one kind. -/
  | ofKind (kind : Kind)
deriving DecidableEq

/-- What a client can ask. -/
inductive StoreRequest
  | write (w : Write)
  | read (r : Reading)
  /-- The connection is closed and made again. -/
  | reconnect
deriving DecidableEq

/-- What a client is told. -/
inductive Answer
  /-- A write is accepted; a single metric is shown as it is then stored. -/
  | written (stored : Option Metric)
  | metric (m : Metric)
  | contents (s : Snapshot)
  | metrics (ms : List Metric)
  /-- The connection is made again. -/
  | reconnected
deriving DecidableEq

namespace Reading

/-- The answer to a reading. -/
def ask {σ : Type} [Store σ] (s : σ) : Reading → Except StoreError Answer
  | metric name kind => (Store.get s name kind).map .metric
  | contents => (Store.contents s).map .contents
  | ofKind kind => (Store.ofKind s kind).map .metrics

end Reading

namespace StoreRequest

/-- The request is a write. -/
def isWrite : StoreRequest → Bool
  | write _ => true
  | _ => false

end StoreRequest

namespace Relational

/-- A connection is made, and the migration applied. -/
def connect (d : Database) : Relational := ⟨d.migrate, true, true⟩

/-- A write is performed, the rows of a batch in the given order. -/
def perform (a : Arrangement) (r : Relational) :
    Write → Except StoreError (Option Metric) × Relational
  | .one m =>
    let (result, d) := createWith r.faults r.database m
    (result.map some, { r with database := d })
  | .batch metrics =>
    let (result, d) := createAllWith a.arrange r.faults r.database metrics
    (result.map fun _ => none, { r with database := d })

/-- A request to a relational store. -/
def serve (r : Relational) : Arrangement × StoreRequest → Except StoreError Answer × Relational
  | (a, .write w) =>
    let (result, next) := r.perform a w
    (result.map .written, next)
  | (_, .read reading) => (reading.ask r, r)
  | (_, .reconnect) => (.ok .reconnected, connect r.close.database)

/-- The store after writes, each with an order of its rows. -/
def writeAll (r : Relational) (writes : List (Arrangement × Write)) : Relational :=
  writes.foldl (fun r w => (r.perform w.1 w.2).2) r

end Relational

namespace Snapshot

/-- A request to a store in memory. -/
def serve (s : Snapshot) : StoreRequest → Except StoreError Answer × Snapshot
  | .write w =>
    let (result, next) := w.perform s
    (result.map .written, next)
  | .read reading => (reading.ask s, s)
  | .reconnect => (.ok .reconnected, s)

end Snapshot

/-- The answers to requests and the states of the store after them. -/
def answers {σ ρ : Type} (serve : σ → ρ → Except StoreError Answer × σ) (s : σ) :
    List ρ → List (Except StoreError Answer × σ)
  | [] => []
  | request :: rest => serve s request :: answers serve (serve s request).2 rest

end Telemetry

import Telemetry.Metric
import Telemetry.Snapshot

/-!
# Stores

What everything that serves metrics needs of a store, what a store may refuse, and the simplest one,
which is a snapshot in memory.
-/

namespace Telemetry

/-! ## What a store may refuse

The failures of a store. Two of them are answers about metrics: a metric that is not there, and one
that is not accepted. The others say that the store itself is out of order.
-/

/-- Why a store did not do what it was asked. -/
inductive StoreError
  /-- There is no metric of this kind and name. -/
  | notFound (kind : Kind) (name : String)
  /-- The metric is not accepted. -/
  | invalid (cause : MetricError)
  /-- A file could not be read or written. -/
  | io
  /-- A snapshot file holds no snapshot. -/
  | json
  /-- A statement failed. -/
  | database
  /-- No attempt to connect succeeded; the cause is that of the last one. -/
  | connectFailed (attempts : Nat) (cause : String)
deriving DecidableEq

namespace StoreError

/-- The wording of a store error. -/
def message : StoreError → String
  | notFound kind name => "Storage: " ++ kind.name ++ " metric " ++ name ++ " not found"
  | invalid cause => "Storage: invalid metric: " ++ cause.message
  | io => "Storage: I/O error"
  | json => "Storage: JSON error"
  | database => "Storage: database error"
  | connectFailed attempts cause =>
    "Storage: could not connect to database after " ++ toString attempts ++ " attempts: " ++ cause

/-- The metric is not there. -/
def isNotFound : StoreError → Bool
  | notFound _ _ => true
  | _ => false

/-- The metric is not accepted. -/
def isInvalid : StoreError → Bool
  | invalid _ => true
  | _ => false

/-- A verdict on a metric as an answer of a store. -/
def lift {α : Type} : Except MetricError α → Except StoreError α
  | .ok a => .ok a
  | .error e => .error (.invalid e)

end StoreError

/-! ## The interface of stores

What everything that serves metrics needs of a store: it takes single metrics and batches, and shows
what it holds. A store is a type of states; taking a metric leads to the next state even if the
answer is an error, because some stores change before they fail.
-/

/-- The states of a store and what can be asked of it. -/
class Store (σ : Type) where
  /-- One metric is taken in; the answer is the metric as it is then stored. -/
  create : σ → Metric → Except StoreError Metric × σ
  /-- A batch is taken in as one operation. -/
  createAll : σ → List Metric → Except StoreError Unit × σ
  /-- The stored metric of a name and a kind. -/
  get : σ → String → Kind → Except StoreError Metric
  /-- Everything that is stored. -/
  contents : σ → Except StoreError Snapshot
  /-- The stored metrics of one kind. -/
  ofKind : σ → Kind → Except StoreError (List Metric)
  /-- The store can be reached. -/
  ping : σ → Except StoreError Unit

/-- Every metric of a batch is accepted; the first that is not is reported. -/
def validateAll (metrics : List Metric) : Except MetricError Unit := metrics.forM Metric.validate

/-! ## The store in memory

The simplest store is a snapshot. A metric is validated and put in. A batch is validated as a whole
and then applied metric by metric to a copy of the snapshot; if one of them is refused the copy is
dropped.
-/

namespace Memory

/-- One metric is validated and put in. -/
def create (s : Snapshot) (m : Metric) : Except MetricError Metric × Snapshot :=
  match m.validate with
  | .ok () => s.put m
  | .error e => (.error e, s)

/-- A batch is validated and applied. -/
def createAll (s : Snapshot) (metrics : List Metric) : Except MetricError Snapshot := do
  validateAll metrics
  s.applyAll metrics

/-- The stored metric of a name and a kind. -/
def get (s : Snapshot) (name : String) (kind : Kind) : Except StoreError Metric :=
  match s.get? name kind with
  | some m => .ok m
  | none => .error (.notFound kind name)

/-- The answer to a batch, and the snapshot it leads to: the old one if it is refused. -/
def answerAll (s : Snapshot) : Except MetricError Snapshot → Except StoreError Unit × Snapshot
  | .ok next => (.ok (), next)
  | .error e => (.error (.invalid e), s)

end Memory

instance : Store Snapshot where
  create s m :=
    let (result, next) := Memory.create s m
    (StoreError.lift result, next)
  createAll s metrics := Memory.answerAll s (Memory.createAll s metrics)
  get := Memory.get
  contents s := .ok s
  ofKind s kind := .ok (s.ofKind kind)
  ping _ := .ok ()

end Telemetry

import Telemetry.Store
import Telemetry.Store.SnapshotFile

/-!
# Histories

What a sequence of writes makes of a store, with the metrics it has accepted on the way. Every write
is one operation: it holds the store from its first look at the contents to its last change. So the
writes of any number of clients, in whatever order they come to hold it, are one list of writes.

A store with a snapshot file is followed through saves and closings too. Its disk may be another one
at every event, whatever savers and other programs have done to it in the meantime.
-/

namespace Telemetry

/-- A write to a store. -/
inductive Write
  /-- A single metric. -/
  | one (m : Metric)
  /-- A batch, taken in as one operation. -/
  | batch (metrics : List Metric)
deriving DecidableEq

namespace Write

/-- The metrics of a write, in their order. -/
def metrics : Write → List Metric
  | one m => [m]
  | batch metrics => metrics

/-- A write is performed; the answer to a single metric is the metric as it is then stored. -/
def perform {σ : Type} [Store σ] (s : σ) : Write → Except StoreError (Option Metric) × σ
  | one m =>
    let (result, next) := Store.create s m
    (result.map some, next)
  | batch metrics =>
    let (result, next) := Store.createAll s metrics
    (result.map fun _ => none, next)

/-- A write to a store with a snapshot file. -/
def performOn (d : Disk) (f : SnapshotFile) :
    Write → Except StoreError (Option Metric) × SnapshotFile × Disk
  | one m =>
    let (result, next) := f.create d m
    (result.map some, next)
  | batch metrics =>
    let (result, next) := f.createAll d metrics
    (result.map fun _ => none, next)

end Write

/-- A store after some writes, and the metrics it has accepted, in their order. -/
structure History (σ : Type) where
  store : σ
  accepted : List Metric

/-- What happens to a store with a snapshot file. -/
inductive FileEvent
  | write (w : Write)
  /-- The saver has saved up to a time. -/
  | saved (now : Nat)
  | close

namespace FileEvent

/-- The write of an event, if it is one. -/
def write? : FileEvent → Option Write
  | write w => some w
  | _ => none

end FileEvent

namespace History

/-- No write yet. -/
def start {σ : Type} (s : σ) : History σ := ⟨s, []⟩

/-- One write more; its metrics are accepted if it is answered without an error. -/
def extend {σ : Type} [Store σ] (h : History σ) (w : Write) : History σ :=
  match w.perform h.store with
  | (.ok _, next) => ⟨next, h.accepted ++ w.metrics⟩
  | (.error _, next) => ⟨next, h.accepted⟩

/-- The history of writes to a store. -/
def run {σ : Type} [Store σ] (s : σ) (writes : List Write) : History σ :=
  writes.foldl extend (start s)

/-- The metrics of a write have been refused. -/
def isRefused {α : Type} : Except StoreError α → Bool
  | .ok _ => false
  | .error e => e.isInvalid

/-- One event more, with the disk as it finds it. The metrics of a write are accepted unless they
are refused: one whose save fails stays in memory. -/
def extendFile (h : History SnapshotFile) : Disk × FileEvent → History SnapshotFile
  | (d, .write w) =>
    let (result, next, _) := w.performOn d h.store
    ⟨next, if isRefused result then h.accepted else h.accepted ++ w.metrics⟩
  | (_, .saved now) => { h with store := h.store.afterSave now }
  | (d, .close) => { h with store := (h.store.close d).2.1 }

/-- The history of events at a store with a snapshot file. -/
def runFile (f : SnapshotFile) (events : List (Disk × FileEvent)) : History SnapshotFile :=
  events.foldl extendFile (start f)

end History

end Telemetry

import Telemetry.Snapshot.Json
import Telemetry.Store
import Telemetry.Store.Disk

/-!
# The store with a snapshot file

A store in memory whose contents are saved to a file: after every accepted write if its period is
zero, and otherwise once every period by a saver that runs beside it. When it is opened it may
restore what the file holds. When it is closed, the saver stops and the contents are saved a last
time.

A write that is accepted stays in memory even if the save behind it fails; the caller is told.
-/

namespace Telemetry

namespace Snapshot

/-- The byte is white space of ASCII: blank, tab, line feed, form feed or carriage return. -/
def isBlankByte (b : UInt8) : Bool := b == 32 || b == 9 || b == 10 || b == 12 || b == 13

/-- The snapshot in a file; a missing or blank file holds none. -/
def load (d : Disk) (path : Path) : Except StoreError (Option Snapshot) :=
  match d.read path with
  | .error .missing => .ok none
  | .error _ => .error .io
  | .ok bytes =>
    if bytes.data.all isBlankByte then .ok none
    else
      match ofJsonBytes? bytes with
      | some s => .ok (some s)
      | none => .error .json

/-- The snapshot is written to a file. -/
def save (s : Snapshot) (d : Disk) (path : Path) : Except StoreError Unit × Disk :=
  match d.write path s.toJson.toUTF8 with
  | .ok next => (.ok (), next)
  | .error _ => (.error .io, d)

end Snapshot

/-- A store in memory with its file. -/
structure SnapshotFile where
  contents : Snapshot
  path : Path
  /-- How often the saver saves, in milliseconds; zero saves after every write. -/
  period : Nat
  /-- When the saver saves next, if it runs. -/
  nextSave : Option Nat

namespace SnapshotFile

/-- The store is opened at a time. The folder of its file is made; what the file holds is restored
on demand. -/
def openAt (now : Nat) (d : Disk) (path : Path) (intervalSeconds : Nat) (restore : Bool) :
    Except StoreError SnapshotFile × Disk :=
  match d.makeFolders path.parent with
  | (.error _, d) => (.error .io, d)
  | (.ok (), d) =>
    let period := 1000 * intervalSeconds
    let opened (contents : Snapshot) : SnapshotFile :=
      ⟨contents, path, period, if period = 0 then none else some (now + period)⟩
    if restore then
      match Snapshot.load d path with
      | .error e => (.error e, d)
      | .ok found => (.ok (opened (found.getD Snapshot.empty)), d)
    else (.ok (opened Snapshot.empty), d)

/-- The contents are saved. -/
def save (f : SnapshotFile) (d : Disk) : Except StoreError Unit × Disk := f.contents.save d f.path

/-- What follows an accepted write: a save if the period is zero. -/
def afterWrite {α : Type} (f : SnapshotFile) (d : Disk) (answer : α) :
    Except StoreError α × SnapshotFile × Disk :=
  if f.period = 0 then
    match f.save d with
    | (.ok (), d) => (.ok answer, f, d)
    | (.error e, d) => (.error e, f, d)
  else (.ok answer, f, d)

/-- One metric is taken in. -/
def create (f : SnapshotFile) (d : Disk) (m : Metric) :
    Except StoreError Metric × SnapshotFile × Disk :=
  match Memory.create f.contents m with
  | (.ok stored, next) => { f with contents := next }.afterWrite d stored
  | (.error e, next) => (.error (.invalid e), { f with contents := next }, d)

/-- A batch is taken in. -/
def createAll (f : SnapshotFile) (d : Disk) (metrics : List Metric) :
    Except StoreError Unit × SnapshotFile × Disk :=
  match Memory.createAll f.contents metrics with
  | .ok next => { f with contents := next }.afterWrite d ()
  | .error e => (.error (.invalid e), f, d)

/-- The saver stops, and the contents are saved. -/
def close (f : SnapshotFile) (d : Disk) : Except StoreError Unit × SnapshotFile × Disk :=
  let stopped := { f with nextSave := none }
  match stopped.save d with
  | (result, d) => (result, stopped, d)

/-- The last time up to `now` at which the saver saves, if there is one. -/
def lastSave? (f : SnapshotFile) (now : Nat) : Option Nat :=
  match f.nextSave with
  | some time => if time ≤ now then some (time + (now - time) / f.period * f.period) else none
  | none => none

/-- The saver after it has saved for the last time up to `now`. -/
def afterSave (f : SnapshotFile) (now : Nat) : SnapshotFile :=
  match f.lastSave? now with
  | some time => { f with nextSave := some (time + f.period) }
  | none => f

end SnapshotFile

end Telemetry

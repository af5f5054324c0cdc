import Telemetry.Store.Mirror

/-!
# Sessions at one snapshot file

A store with a snapshot file lives through sessions. In each of them it is opened and restores what
the file holds, it takes writes while its saver saves, and in the end it is closed. A store that
saves after every write may also be left without being closed.

A session is followed as closely as a `Mirror`: callers, the saver and the closing act in any order,
and what an aborted saver has handed over is carried out whenever the pool of threads gets to it, be
it after the closing has been answered. A session is over when its calls have been answered and
nothing is outstanding any more.
-/

namespace Telemetry

/-- A session. -/
structure FileSession where
  /-- How often the saver saves; zero saves after every write. -/
  intervalSeconds : Nat
  /-- What happens until the store is closed or left. -/
  work : List Mirror.Event
  /-- What happens from the closing on; `none` if the store is left without being closed. -/
  closing : Option (List Mirror.Event)
  /-- Only a store that saves after every write is left without being closed. -/
  ends : closing = none → intervalSeconds = 0
  /-- A store that is being closed takes no write. -/
  quiet : (closing.getD []).filterMap Mirror.Event.write? = []

/-- What becomes of a session. -/
structure SessionReport where
  /-- The store right after the opening. -/
  opened : Except StoreError Mirror
  /-- The store at the end; `none` if it could not be opened. -/
  last : Option Mirror

/-- The file could not be read or written. -/
def isFileFault {α : Type} : Except StoreError α → Bool
  | .error .io => true
  | _ => false

namespace SessionReport

/-- The file could be read and written whenever an answer depended on it. -/
def isFaultless (r : SessionReport) : Bool :=
  !isFileFault r.opened &&
    r.last.all fun m => m.saves.all fun s => !(s.answer?.any isFileFault)

/-- The contents right after the opening. -/
def contents (r : SessionReport) : Except StoreError Snapshot := r.opened.map Mirror.contents

/-- Every call has been answered, and nothing is outstanding. -/
def isOver (r : SessionReport) : Bool :=
  r.last.all fun m =>
    m.outstanding.isEmpty && m.saves.all fun s => s.cause = .saver || s.answer?.isSome

end SessionReport

namespace FileSession

/-- All that happens in a session, in its order. -/
def events (s : FileSession) : List Mirror.Event :=
  match s.closing with
  | some later => s.work ++ .close :: later
  | none => s.work

/-- The writes of a session, accepted or not, in their order. -/
def writes (s : FileSession) : List Write := s.work.filterMap Mirror.Event.write?

/-- A session at a path, and the disk behind it. The clock plays no part here: the saver starts a
save whenever an event says so. -/
def run (path : Path) (d : Disk) (s : FileSession) : SessionReport × Disk :=
  match SnapshotFile.openAt 0 d path s.intervalSeconds true with
  | (.error e, next) => (⟨.error e, none⟩, next)
  | (.ok f, next) =>
    let opened := Mirror.fresh f.contents path next (f.period = 0)
    let last := opened.play s.events
    (⟨.ok opened, some last⟩, last.disk)

/-- Sessions at a path, one after another. -/
def runAll (path : Path) (d : Disk) : List FileSession → List SessionReport
  | [] => []
  | s :: rest => (s.run path d).1 :: runAll path (s.run path d).2 rest

end FileSession

end Telemetry

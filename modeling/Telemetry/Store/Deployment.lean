import Telemetry.Store.Relational
import Telemetry.Store.Retry
import Telemetry.Store.Settings
import Telemetry.Store.SnapshotFile
import Telemetry.Store.Source
import Telemetry.Text

/-!
# Deployments

A deployment is a store of any of the three sorts in its surroundings: the disk, a clock, and the
savers of stores that were in use before. Opening a store replaces the one in use; if it fails, the
old one stays. A saver that is not stopped by closing its store goes on saving what that store held.

One client makes one call after another, and a save is over before anything else happens. How saves
and calls come between each other is what `Mirror` tells; a save that nothing comes between is the
same in both.

A relational store is reached through a connection, which keeps its file even if the name of the
file is removed: what it held can still be read, but no longer written. `attach` gives the store of
a connection as it is now, `settle` puts back what an operation made of it.
-/

namespace Telemetry

/-- Where the database of a connection is. -/
inductive Location
  /-- It is not kept. -/
  | memory (content : FileContent)
  /-- It is in the file of a number, which had its name at a place when it was opened. -/
  | file (number : Nat) (place : Place)

/-- A connection to a database. -/
structure Connection where
  location : Location
  /-- The key under which other connections share this one. -/
  key : Option (String × String)
  isOpen : Bool
  readOnly : Bool

/-- The store in use. -/
inductive Backend
  | memory (s : Snapshot)
  | file (f : SnapshotFile)
  | relational (c : Connection)

/-- A store in its surroundings. -/
structure Deployment where
  disk : Disk
  /-- The time in milliseconds. -/
  now : Nat
  backend : Backend
  /-- Stores that were replaced while their savers ran, oldest first. -/
  savers : List SnapshotFile

namespace Deployment

/-- An empty store in memory beside a disk. -/
def initial (disk : Disk) : Deployment := ⟨disk, 0, .memory Snapshot.empty, []⟩

/-- Another store takes the place of the one in use. -/
def replace (d : Deployment) (backend : Backend) : Deployment :=
  match d.backend with
  | .file f => { d with backend, savers := if f.nextSave.isSome then d.savers ++ [f] else d.savers }
  | _ => { d with backend }

/-! ## Connections -/

/-- What the connection leads to. -/
def content (d : Deployment) (c : Connection) : FileContent :=
  match c.location with
  | .memory content => content
  | .file number _ => d.disk.content number

/-- The place of the journal that a write needs beside a database file. -/
def journal (place : Place) : Place :=
  match place.getLast? with
  | some name => place.dropLast ++ [name ++ "-journal"]
  | none => []

/-- A folder stands where the journal would be. -/
def isJournalBlocked (d : Deployment) (c : Connection) : Bool :=
  match c.location with
  | .memory _ => false
  | .file _ place => d.disk.get? (journal place) = some .folder

/-- The connection may write: its file still has its name, and a journal can be made. -/
def isWritable (d : Deployment) (c : Connection) : Bool :=
  match c.location with
  | .memory _ => !c.readOnly
  | .file number place =>
    !c.readOnly && d.disk.get? place = some (.file number) && !d.isJournalBlocked c
      && !(journal place).any Path.isTooLong

/-- The database of a connection as it is now. A file that is no database has no tables and takes no
writes; nor can a database be read whose journal is blocked. -/
def attach (d : Deployment) (c : Connection) : Relational :=
  match (d.content c).database? with
  | some database =>
    if (d.content c).isDatabase && d.isJournalBlocked c then ⟨Database.empty, c.isOpen, false⟩
    else ⟨database, c.isOpen, d.isWritable c⟩
  | none => ⟨Database.empty, c.isOpen, false⟩

/-- The connection leads to another database from now on, and is the one in use. -/
def detach (d : Deployment) (c : Connection) (database : Database) : Deployment :=
  match c.location with
  | .memory _ =>
      { d with backend := .relational { c with location := .memory (.database database) } }
  | .file number _ =>
      { d with backend := .relational c, disk := d.disk.setContent number (.database database) }

/-- The database of a connection after an operation; one that has not changed is not written. -/
def settle (d : Deployment) (c : Connection) (before after : Database) : Deployment :=
  if after = before then d else d.detach c after

/-- A step of the migration through a connection. It writes what it changes, and it always writes
what was not written before. -/
def migrateThrough (d : Deployment) (c : Connection) (step : Database → Database) :
    Except StoreError Deployment :=
  let r := d.attach c
  let isNoOp := (d.content c).isDatabase && step r.database = r.database
  if r.connected && (r.writable || isNoOp) then .ok (d.detach c (step r.database))
  else .error .database

/-! ## Databases -/

/-- A file is opened, or made on demand, with its number. -/
def openNode? (disk : Disk) (place : Place) (right : Right) : Option (Nat × Disk) :=
  match disk.get? place with
  | some (.file number) => some (number, disk)
  | some .folder => none
  | none =>
    if right = .make && disk.get? place.dropLast = some .folder then
      some (disk.files.length, disk.addFile place FileContent.empty)
    else none

/-- The connection in use, if it is open and shared under a key. -/
def shared? (d : Deployment) (key : Option (String × String)) : Option Connection :=
  match d.backend with
  | .relational c => if key.isSome && c.isOpen && c.key = key then some c else none
  | _ => none

/-- A connection to a source, and the disk, on which a file may have been made. -/
def connect? (d : Deployment) : Source → Option (Connection × Disk)
  | .unkept key readOnly =>
    some ((d.shared? key).getD ⟨.memory FileContent.empty, key, true, readOnly⟩, d.disk)
  | .file f => do
    let place ← d.disk.fullPlace? f.name
    let key := if f.isShared then some (f.access, Disk.placeText place) else none
    match d.shared? key with
    | some c => return (c, d.disk)
    | none =>
      let (number, disk) ← openNode? d.disk place f.right
      return (⟨.file number place, key, true, f.right = .read || f.immutable⟩, disk)

/-- A connection to a data source. -/
def connectTo? (d : Deployment) (name : String) : Option (Connection × Disk) := do
  d.connect? (← Source.ofDsn? (← Dsn.ofText? name))

/-- Why a connection could not be made. -/
def connectFault : String := "unable to open database file"

/-- A database is opened under a retry policy, and the migration applied. -/
def openDatabase (d : Deployment) (policy : RetryPolicy) (name : String) :
    Except StoreError Unit × Deployment :=
  let outcome := match d.connectTo? name with
    | some found => .ok found
    | none => .error connectFault
  match (policy.run fun _ => ⟨0, outcome⟩).result with
  | .error e => (.error e, d)
  | .ok (c, disk) =>
    let opened := { d with disk }
    match (opened.replace (.relational c)).migrateThrough c Database.migrate with
    | .ok next => (.ok (), next)
    | .error e => (.error e, opened)

/-- A database is opened once and as it is. -/
def openUnmigrated (d : Deployment) (name : String) : Except StoreError Unit × Deployment :=
  match d.connectTo? name with
  | some (c, disk) => (.ok (), { d with disk }.replace (.relational c))
  | none => (.error .database, d)

/-- A migration step on the database in use; the answer is the database after it. -/
def migrate (d : Deployment) (step : Database → Database) :
    Except StoreError Database × Deployment :=
  match d.backend with
  | .relational c =>
    match d.migrateThrough c step with
    | .ok next => (.ok (step (d.attach c).database), next)
    | .error e => (.error e, d)
  | _ => (.error .database, d)

/-! ## Opening and closing -/

/-- A store with a snapshot file is opened. -/
def openFile (d : Deployment) (path : Path) (intervalSeconds : Nat) (restore : Bool) :
    Except StoreError Unit × Deployment :=
  match SnapshotFile.openAt d.now d.disk path intervalSeconds restore with
  | (.ok f, disk) => (.ok (), { d with disk }.replace (.file f))
  | (.error e, disk) => (.error e, { d with disk })

/-- A setting that is given and not blank, without the blanks at its ends. -/
def given? (value : Option String) : Option String := (value.map Text.trim).filter (· ≠ "")

/-- The store of the settings is opened. -/
def openSettings (d : Deployment) (settings : StoreSettings) :
    Except StoreError Unit × Deployment :=
  match given? settings.dsn, given? settings.path with
  | some dsn, _ => d.openDatabase RetryPolicy.standard dsn
  | none, some path => d.openFile ⟨path⟩ settings.intervalSeconds settings.restore
  | none, none => (.ok (), d.replace (.memory Snapshot.empty))

/-- The store is closed. -/
def close (d : Deployment) : Except StoreError Unit × Deployment :=
  match d.backend with
  | .memory _ => (.ok (), d)
  | .file f =>
    let (result, f, disk) := f.close d.disk
    (result, { d with disk, backend := .file f })
  | .relational c => (.ok (), { d with backend := .relational { c with isOpen := false } })

/-- The contents are saved, if there is a snapshot file. -/
def save (d : Deployment) : Except StoreError Unit × Deployment :=
  match d.backend with
  | .file f =>
    let (result, disk) := f.save d.disk
    (result, { d with disk })
  | _ => (.ok (), d)

/-! ## Time -/

/-- The saves that are due up to `now`, each with its time, in the order of their times. -/
def dueSaves (now : Nat) (files : List SnapshotFile) : List (Nat × SnapshotFile) :=
  let due := files.filterMap fun f => (f.lastSave? now).map fun time => (time, f)
  due.mergeSort fun a b => a.1 ≤ b.1

/-- Time passes without a call; savers save, and each save is over before the next one. -/
def sleep (d : Deployment) (milliseconds : Nat) : Deployment :=
  let now := d.now + milliseconds
  let current := match d.backend with
    | .file f => [f]
    | _ => []
  let disk := (dueSaves now (d.savers ++ current)).foldl (fun disk s => (s.2.save disk).2) d.disk
  let backend := match d.backend with
    | .file f => .file (f.afterSave now)
    | b => b
  { disk, now, backend, savers := d.savers.map (·.afterSave now) }

end Deployment

/-! ## The store in use -/

instance : Store Deployment where
  create d m :=
    match d.backend with
    | .memory s =>
      let (result, next) := Store.create s m
      (result, { d with backend := .memory next })
    | .file f =>
      let (result, f, disk) := f.create d.disk m
      (result, { d with disk, backend := .file f })
    | .relational c =>
      let (result, next) := Store.create (d.attach c) m
      (result, d.settle c (d.attach c).database next.database)
  createAll d metrics :=
    match d.backend with
    | .memory s =>
      let (result, next) := Store.createAll s metrics
      (result, { d with backend := .memory next })
    | .file f =>
      let (result, f, disk) := f.createAll d.disk metrics
      (result, { d with disk, backend := .file f })
    | .relational c =>
      let (result, next) := Store.createAll (d.attach c) metrics
      (result, d.settle c (d.attach c).database next.database)
  get d name kind :=
    match d.backend with
    | .memory s => Store.get s name kind
    | .file f => Store.get f.contents name kind
    | .relational c => Store.get (d.attach c) name kind
  contents d :=
    match d.backend with
    | .memory s => Store.contents s
    | .file f => Store.contents f.contents
    | .relational c => Store.contents (d.attach c)
  ofKind d kind :=
    match d.backend with
    | .memory s => Store.ofKind s kind
    | .file f => Store.ofKind f.contents kind
    | .relational c => Store.ofKind (d.attach c) kind
  ping d :=
    match d.backend with
    | .relational c => Store.ping (d.attach c)
    | _ => .ok ()

end Telemetry

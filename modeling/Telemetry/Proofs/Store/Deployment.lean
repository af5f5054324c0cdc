import Telemetry.Proofs.Store.Disk
import Telemetry.Store.Client
import Telemetry.Store.Deployment

/-!
# A connection that is made again

A relational store whose database is kept in a file finds it again: closing the connection and
opening the same source leads to the store that `Relational.connect` makes of the database
(`attach_openDatabase_of_close`), under any policy for the attempts. The file has to be where it
was, and the source has to allow writing to it.
-/

namespace Telemetry

namespace RetryPolicy

/-- The first attempt succeeds, if it takes no time. -/
theorem result_run_of_ok {α : Type} (p : RetryPolicy) (a : α) :
    (p.run fun _ => ⟨0, .ok a⟩).result = .ok a := by
  have htry : p.tryOnce (fun _ => ⟨0, .ok a⟩) 0 = ⟨0, .ok a⟩ := by
    rw [tryOnce, limited, if_pos (Nat.zero_le _)]
  rw [run, runFrom, htry]

end RetryPolicy

namespace Disk

/-- A database is in a file that there is. -/
theorem lt_of_content_eq_database {d : Disk} {number : Nat} {database : Database}
    (h : d.content number = .database database) : number < d.files.length := by
  refine Nat.lt_of_not_le fun hle => ?_
  rw [Disk.content, List.getD_eq_getElem?_getD, List.getElem?_eq_none hle] at h
  cases h

end Disk

namespace Deployment

variable {d : Deployment} {c : Connection} {number : Nat} {place : Place} {database : Database}

/-- What a connection to a file needs to write does not depend on what the files hold. -/
theorem isWritable_of_nodes {e : Deployment} {again : Connection}
    (hlocation : c.location = .file number place) (hagain : again.location = .file number place)
    (hnodes : e.disk.nodes = d.disk.nodes) (hreadOnly : again.readOnly = false)
    (hwritable : d.isWritable c = true) : e.isWritable again = true := by
  have hget : ∀ place, e.disk.get? place = d.disk.get? place := fun place => by
    rw [Disk.get?, Disk.get?, hnodes]
  unfold isWritable isJournalBlocked at hwritable ⊢
  rw [hlocation] at hwritable
  rw [hagain]
  simp_all

/-- A connection that may write leads to a file that has its name. -/
theorem get?_of_isWritable (hlocation : c.location = .file number place)
    (hwritable : d.isWritable c = true) : d.disk.get? place = some (.file number) := by
  unfold isWritable at hwritable
  rw [hlocation] at hwritable
  simp_all

/-- A connection to a written database that may write. -/
theorem attach_of_database (hlocation : c.location = .file number place)
    (hcontent : d.disk.content number = .database database) (hwritable : d.isWritable c = true) :
    d.attach c = ⟨database, c.isOpen, true⟩ := by
  have hblocked : d.isJournalBlocked c = false := by
    unfold isWritable at hwritable
    rw [hlocation] at hwritable
    simp_all
  simp [attach, content, hlocation, hcontent, FileContent.database?, hblocked, hwritable]

/-- The migration goes through a connection that may write. -/
theorem migrateThrough_of_database (hlocation : c.location = .file number place)
    (hcontent : d.disk.content number = .database database) (hwritable : d.isWritable c = true)
    (hopen : c.isOpen = true) (step : Database → Database) :
    d.migrateThrough c step =
      .ok { d with
        backend := .relational c,
        disk := d.disk.setContent number (.database (step database)) } := by
  simp [migrateThrough, attach_of_database hlocation hcontent hwritable, hopen, detach, hlocation]

/-- A source that is a file is found where it was, and none shares a closed connection. -/
theorem connectTo?_close {f : FileRequest} {name : String} (hbackend : d.backend = .relational c)
    (hnode : d.disk.get? place = some (.file number))
    (hsource : (Dsn.ofText? name).bind Source.ofDsn? = some (.file f))
    (hplace : d.disk.fullPlace? f.name = some place) :
    ∃ key, d.close.2.connectTo? name =
      some (⟨.file number place, key, true, f.right = .read || f.immutable⟩, d.disk) := by
  have hclose : d.close.2 = { d with backend := .relational { c with isOpen := false } } := by
    simp only [close, hbackend]
  have hshared : ∀ key, d.close.2.shared? key = none := by
    intro key
    rw [hclose]
    simp [shared?]
  obtain ⟨dsn, hdsn, hfile⟩ := Option.bind_eq_some_iff.1 hsource
  refine ⟨if f.isShared then some (f.access, Disk.placeText place) else none, ?_⟩
  have hdisk : d.close.2.disk = d.disk := by rw [hclose]
  simp [connectTo?, hdsn, hfile, connect?, hdisk, hplace, hshared, openNode?, hnode]

/-- **A kept database is found again.** After the connection to the database of a file is closed and
the same source is opened once more, the store is the one that `connect` makes of the database. -/
theorem attach_openDatabase_of_close {f : FileRequest} {name : String} (policy : RetryPolicy)
    (hbackend : d.backend = .relational c) (hlocation : c.location = .file number place)
    (hcontent : d.disk.content number = .database database) (hwritable : d.isWritable c = true)
    (hsource : (Dsn.ofText? name).bind Source.ofDsn? = some (.file f))
    (hplace : d.disk.fullPlace? f.name = some place) (hright : f.right ≠ .read)
    (hmutable : f.immutable = false) :
    ∃ next again, d.close.2.openDatabase policy name = (.ok (), next) ∧
      next.backend = .relational again ∧ next.attach again = Relational.connect database := by
  -- Closing has touched nothing on the disk, so the same name leads to the same file.
  obtain ⟨key, hfound⟩ := connectTo?_close hbackend (get?_of_isWritable hlocation hwritable) hsource
    hplace
  have hreadOnly : (f.right = .read || f.immutable : Bool) = false := by simp [hright, hmutable]
  rw [hreadOnly] at hfound
  generalize hagain : Connection.mk (.file number place) key true false = again at hfound
  have hlocated : again.location = .file number place := by rw [← hagain]
  have hopen : again.isOpen = true := by rw [← hagain]
  have hmay : again.readOnly = false := by rw [← hagain]
  have hreplace : ({ d.close.2 with disk := d.disk } : Deployment).replace (.relational again) =
      { d with backend := .relational again } := by
    simp only [replace, close, hbackend]
  -- The tables are there, so the migration that comes with every opening changes nothing.
  have hmigrate := migrateThrough_of_database (d := { d with backend := .relational again })
    hlocated hcontent (isWritable_of_nodes hlocation hlocated rfl hmay hwritable) hopen
    Database.migrate
  generalize hnext : ({ d with
    backend := .relational again,
    disk := d.disk.setContent number (.database database.migrate) } : Deployment) = next
  have hwritten : next.disk.content number = .database database.migrate := by
    rw [← hnext]
    exact Disk.content_setContent (Disk.lt_of_content_eq_database hcontent) _
  have hnodes : next.disk.nodes = d.disk.nodes := by rw [← hnext]; rfl
  refine ⟨next, again, ?_, by rw [← hnext], ?_⟩
  · unfold openDatabase
    simp only [hfound, RetryPolicy.result_run_of_ok, hreplace, hmigrate, hnext]
  · rw [attach_of_database hlocated hwritten
      (isWritable_of_nodes hlocation hlocated hnodes hmay hwritable), hopen]
    rfl

end Deployment

end Telemetry

import Telemetry.Store.Disk

/-!
# Files that stay where they are

What is at a place stays there while folders and files are put at places where nothing is, and while
files are written; `Extends` says so of two disks, and whatever a path led to it still leads to.
So folders that have been made stay, and what was written to a file is read again until the next
write to it.
-/

namespace Telemetry

namespace Disk

variable {d next : Disk} {p : Path} {place : Place} {bytes : ByteArray}

theorem content_setContent {number : Nat} (h : number < d.files.length) (content : FileContent) :
    (d.setContent number content).content number = content := by
  simp [Disk.content, setContent, h]

theorem content_addFile (d : Disk) (place : Place) (content : FileContent) :
    (d.addFile place content).content d.files.length = content := by
  simp [Disk.content, addFile]

/-! ## What is at a place -/

/-- Whatever is at a place of one disk is there on the other one. -/
def Extends (d next : Disk) : Prop := ∀ place node, d.get? place = some node →
  next.get? place = some node

theorem extends_setContent (d : Disk) (number : Nat) (content : FileContent) :
    d.Extends (d.setContent number content) := fun _ _ h => h

/-- A new name in front changes what is at its place only. -/
theorem extends_cons (h : d.get? place = none) (node : Node) (files : List FileContent) :
    d.Extends ⟨(place, node) :: d.nodes, files⟩ := by
  intro other found hother
  have hne : place ≠ other := by
    rintro rfl
    rw [h] at hother
    cases hother
  unfold get? at hother ⊢
  split
  · next hempty => rwa [if_pos hempty] at hother
  · next hempty =>
    rw [if_neg hempty] at hother
    rw [List.find?_cons_of_neg (by simpa using hne)]
    exact hother

/-- What has been put at a place where nothing was is there. -/
theorem get?_cons (h : d.get? place = none) (node : Node) (files : List FileContent) :
    get? ⟨(place, node) :: d.nodes, files⟩ place = some node := by
  unfold get? at h ⊢
  split
  · next hempty =>
    rw [if_pos hempty] at h
    cases h
  · simp

theorem extends_addFolder (h : d.get? place = none) : d.Extends (d.addFolder place) :=
  extends_cons h .folder d.files

theorem extends_addFile (h : d.get? place = none) (content : FileContent) :
    d.Extends (d.addFile place content) :=
  extends_cons h (.file d.files.length) (d.files ++ [content])

/-! ## What a path leads to -/

namespace Extends

variable {here : Place} {name : String} {node : Node}

/-- A step down a path leads to the same place after something was added. -/
theorem descend (h : d.Extends next) (hdescend : d.descend here name = .ok place) :
    next.descend here name = .ok place := by
  unfold Disk.descend at hdescend ⊢
  cases hhere : d.get? here with
  | none =>
    rw [hhere] at hdescend
    cases hdescend
  | some node =>
    rw [hhere] at hdescend
    rw [h here node hhere]
    exact hdescend

/-- A path leads to the same place after something was added. -/
theorem locate (h : d.Extends next) (hlocate : d.locate p = .ok place) :
    next.locate p = .ok place := by
  unfold Disk.locate at hlocate ⊢
  split at hlocate
  · cases hlocate
  · next husable =>
    rw [if_neg husable]
    -- Paths are followed from the top, so the induction on the names is over every place to start
    -- from.
    generalize ([] : Place) = here at hlocate ⊢
    generalize p.names = names at hlocate ⊢
    induction names generalizing here with
    | nil => exact hlocate
    | cons name names ih =>
      rw [List.foldlM_cons] at hlocate ⊢
      cases hname : d.descend here name with
      | error e =>
        rw [hname] at hlocate
        cases hlocate
      | ok there =>
        rw [hname] at hlocate
        rw [h.descend hname]
        exact ih there hlocate

end Extends

/-- What a path is found to lead to, step by step. -/
theorem find_eq_ok_iff {node : Node} :
    d.find p = .ok (place, node) ↔
      d.locate p = .ok place ∧ d.get? place = some node ∧
        (p.endsInSlash = true → node = .folder) := by
  unfold find
  -- A slash at the end asks for a folder, whatever the path leads to.
  cases d.locate p with
  | error e => exact iff_of_false (fun h => by cases h) fun h => by cases h.1
  | ok there =>
    simp only [bind, Except.bind, Except.ok.injEq]
    constructor
    · intro h
      split at h
      · cases h
      · next hget =>
        cases h
        exact ⟨rfl, hget, fun _ => rfl⟩
      · next hget =>
        split at h
        · cases h
        · next hslash =>
          cases h
          exact ⟨rfl, hget, fun h => absurd h hslash⟩
    · rintro ⟨rfl, hget, hslash⟩
      rw [hget]
      cases node with
      | folder => rfl
      | file n =>
        have hslash : ¬ p.endsInSlash = true := fun h => by cases hslash h
        exact if_neg hslash

/-- What is found at a path is found there after something was added. -/
theorem Extends.find {node : Node} (h : d.Extends next) (hfind : d.find p = .ok (place, node)) :
    next.find p = .ok (place, node) := by
  obtain ⟨hlocate, hget, hslash⟩ := find_eq_ok_iff.1 hfind
  exact find_eq_ok_iff.2 ⟨h.locate hlocate, h place node hget, hslash⟩

/-- A path is a folder if a folder is found at it. -/
theorem isFolder_iff : d.isFolder p = true ↔ ∃ place, d.find p = .ok (place, .folder) := by
  unfold isFolder
  split
  · next place hfind => exact ⟨fun _ => ⟨place, hfind⟩, fun _ => rfl⟩
  · next hfind => exact ⟨nofun, fun ⟨place, h⟩ => (hfind place h).elim⟩

/-- A folder stays a folder. -/
theorem Extends.isFolder (h : d.Extends next) (hfolder : d.isFolder p = true) :
    next.isFolder p = true := by
  obtain ⟨place, hfind⟩ := isFolder_iff.1 hfolder
  exact isFolder_iff.2 ⟨place, h.find hfind⟩

/-! ## Files -/

/-- A path leads to a file with these bytes. -/
def Holds (d : Disk) (p : Path) (bytes : ByteArray) : Prop :=
  ∃ place n, d.find p = .ok (place, .file n) ∧ n < d.files.length ∧ d.content n = .bytes bytes

theorem Holds.read (h : d.Holds p bytes) : d.read p = .ok bytes := by
  obtain ⟨place, n, hfind, -, hcontent⟩ := h
  rw [Disk.read, hfind]
  exact congrArg (fun content => Except.ok content.toBytes) hcontent

/-- A file is written where it is, or made where nothing is. -/
theorem write_cases (h : d.write p bytes = .ok next) :
    (∃ place n, d.find p = .ok (place, .file n) ∧ next = d.setContent n (.bytes bytes)) ∨
    ∃ place, d.locate p = .ok place ∧ d.get? place = none ∧ p.endsInSlash = false ∧
      next = d.addFile place (.bytes bytes) := by
  unfold write at h
  -- A path may lead nowhere, end in a slash, or lead to a folder, a file or nothing; the last two
  -- are written.
  cases hlocate : d.locate p with
  | error e =>
    rw [hlocate] at h
    cases h
  | ok place =>
    simp only [hlocate, bind, Except.bind] at h
    split at h
    · cases h
    · next hslash =>
      split at h
      · cases h
      · next n hget =>
        cases h
        exact .inl ⟨place, n, find_eq_ok_iff.2 ⟨hlocate, hget, fun h => absurd h hslash⟩, rfl⟩
      · next hget =>
        cases h
        exact .inr ⟨place, rfl, hget, Bool.eq_false_iff.2 hslash, rfl⟩

/-- Writing a file adds to the disk at most. -/
theorem extends_of_write (h : d.write p bytes = .ok next) : d.Extends next := by
  -- The file is there and gets a content, or it is made.
  rcases write_cases h with ⟨place, n, -, rfl⟩ | ⟨place, -, hnone, -, rfl⟩
  · exact extends_setContent d n _
  · exact extends_addFile hnone _

/-- A path leads to no file, or to one that there is. -/
def IsSettled (d : Disk) (p : Path) : Prop :=
  ∀ place n, d.find p = .ok (place, .file n) → n < d.files.length

/-- On an empty disk every path is settled: there is no file that an entry could lead to. -/
theorem isSettled_empty (p : Path) : empty.IsSettled p := by
  intro place n hfind
  obtain ⟨-, hget, -⟩ := find_eq_ok_iff.1 hfind
  unfold get? at hget
  split at hget <;> cases hget

/-- A path that holds a text leads to a file that is there. -/
theorem Holds.isSettled (h : d.Holds p bytes) : d.IsSettled p := by
  obtain ⟨place, n, hfind, hlt, -⟩ := h
  intro other m hother
  rw [hfind] at hother
  cases hother
  exact hlt

/-- What has been written is in the file. -/
theorem holds_of_write (hsettled : d.IsSettled p) (h : d.write p bytes = .ok next) :
    next.Holds p bytes := by
  rcases write_cases h with ⟨place, n, hfind, rfl⟩ | ⟨place, hlocate, hnone, hslash, rfl⟩
  · have hlt := hsettled place n hfind
    exact ⟨place, n, (extends_setContent d n _).find hfind, by simpa [setContent] using hlt,
      content_setContent hlt _⟩
  · refine ⟨place, d.files.length, find_eq_ok_iff.2 ⟨?_, get?_cons hnone _ _, ?_⟩, ?_, ?_⟩
    · exact (extends_addFile hnone _).locate hlocate
    · rw [hslash]
      nofun
    · simp [addFile]
    · exact content_addFile d place _

/-! ## Folders -/

/-- A folder is made in a place that is free. -/
theorem makeFolder_cases (h : d.makeFolder p = .ok next) :
    ∃ place, d.locate p = .ok place ∧ d.get? place = none ∧ next = d.addFolder place := by
  have hmake : d.makeFolder p = (d.locate p).bind fun place =>
      if (d.get? place).isSome then .error .occupied else .ok (d.addFolder place) := rfl
  rw [hmake] at h
  cases hlocate : d.locate p with
  | error e =>
    rw [hlocate] at h
    cases h
  | ok place =>
    rw [hlocate, Except.bind] at h
    split at h
    · cases h
    · next hget =>
      cases h
      exact ⟨place, rfl, Option.not_isSome_iff_eq_none.1 hget, rfl⟩

/-- Where a folder was made there is one. -/
theorem isFolder_of_makeFolder (h : d.makeFolder p = .ok next) : next.isFolder p = true := by
  obtain ⟨place, hlocate, hnone, rfl⟩ := makeFolder_cases h
  exact isFolder_iff.2 ⟨place, find_eq_ok_iff.2 ⟨(extends_addFolder hnone).locate hlocate,
    get?_cons hnone _ _, fun _ => rfl⟩⟩

/-- Nothing is made where something is. -/
theorem makeFolder_of_isFolder (h : d.isFolder p = true) : d.makeFolder p = .error .occupied := by
  obtain ⟨place, hfind⟩ := isFolder_iff.1 h
  obtain ⟨hlocate, hget, -⟩ := find_eq_ok_iff.1 hfind
  have hmake : d.makeFolder p = (d.locate p).bind fun place =>
      if (d.get? place).isSome then .error .occupied else .ok (d.addFolder place) := rfl
  rw [hmake, hlocate, Except.bind, hget]
  rfl

/-- A folder that cannot be made has to be there already. -/
theorem isFolder_of_found {e : DiskFault}
    (h : (if d.isFolder p then Except.ok () else Except.error e, d) = (Except.ok (), next)) :
    next.isFolder p = true := by
  split at h
  · next hfolder =>
    cases h
    exact hfolder
  · cases h

/-- Folders that have been made are there. -/
theorem isFolder_of_makeFolders (h : d.makeFolders p = (.ok (), next)) :
    next.isFolder p = true := by
  rw [makeFolders, makeFoldersUpTo] at h
  -- in the end the folder is made or found, whatever was done for its parent
  split at h
  · split at h
    · dsimp only at h
      split at h
      · next hmake =>
        cases h
        exact isFolder_of_makeFolder hmake
      · exact isFolder_of_found h
    · next hfailed => exact absurd h (hfailed next)
  · dsimp only at h
    split at h
    · next hmake =>
      cases h
      exact isFolder_of_makeFolder hmake
    · exact isFolder_of_found h

/-- Nothing is made where the folder is there. -/
theorem makeFolders_of_isFolder (h : d.isFolder p = true) : d.makeFolders p = (.ok (), d) := by
  have hmake := makeFolder_of_isFolder h
  rw [makeFolders, makeFoldersUpTo, hmake]
  simp only [hmake, h, if_true]

end Disk

end Telemetry

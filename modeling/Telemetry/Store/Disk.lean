import Telemetry.Store.Relational.Tables

/-!
# Paths and files

The part of a file system that stores live on.
-/

namespace Telemetry

/-! ## Paths

A path is a text that leads from the root of a file system to a place, name by name. The names stand
between slashes; several slashes count as one, a single dot is the folder reached so far, two dots
are the folder that holds it. A slash at the end says that the place is a folder.

What is here can be said without looking at a disk: the names, the parent, and whether a system
takes the path at all.
-/

/-- A path. -/
structure Path where
  text : String
deriving DecidableEq, Inhabited

namespace Path

/-- The names of a path in their order, dots included. -/
def names (p : Path) : List String :=
  ((p.text.toList.splitOn '/').filter fun name => !name.isEmpty).map String.ofList

/-- The path ends in a slash. -/
def endsInSlash (p : Path) : Bool := p.text.toList.getLast? = some '/'

/-- The longest name in bytes. -/
def longestName : Nat := 255

/-- The longest path in bytes. -/
def longestPath : Nat := 4095

/-- The name is too long for a folder. -/
def isTooLong (name : String) : Bool := longestName < name.utf8ByteSize

/-- No system takes the path: it holds a null or is too long. -/
def isUnusable (p : Path) : Bool :=
  p.text.toList.contains '\x00' || longestPath < p.text.utf8ByteSize

/-- A reversed text without slashes and single dots at its end; the slash of the root stays. -/
def dropEnd : List Char → List Char
  | '/' :: c :: rest => dropEnd (c :: rest)
  | '.' :: '/' :: rest => dropEnd ('/' :: rest)
  | cs => cs
termination_by cs => cs.length

/-- A text without slashes and single dots at its start. -/
def dropStart : List Char → List Char
  | '/' :: rest => dropStart rest
  | '.' :: '/' :: rest => dropStart rest
  | cs => cs

/-- The path without slashes and single dots at its end. -/
def trimmed (p : Path) : Path := ⟨String.ofList (dropEnd p.text.toList.reverse).reverse⟩

/-- The path without its last name. -/
def parent (p : Path) : Path :=
  ⟨String.ofList (dropEnd ((dropEnd p.text.toList.reverse).dropWhile (· ≠ '/'))).reverse⟩

/-- The path of a text that is read in a folder. A text that starts at the root is taken as it is.
-/
def within (folder : Path) (text : String) : Path :=
  if text.toList.head? = some '/' then ⟨text⟩ else ⟨folder.text ++ "/" ++ text⟩

/-- A path as it reads in a folder that its text starts with. -/
def seenFrom (folder p : Path) : String :=
  let text := p.trimmed.text.toList
  if folder.text.toList.isPrefixOf text then
    String.ofList (dropStart (text.drop folder.text.toList.length))
  else p.text

end Path

/-! ## Files

The part of a file system that stores live on: folders, and files that hold bytes or a database,
which is not looked into byte by byte. A place is the list of the names of the folders on the way
from the root and of the thing itself. Files have numbers, and a name leads to a number: a file
whose name is removed is still there for whoever holds its number.

A path is followed name by name. Everything on the way has to exist and to be a folder, also what
two dots lead out of again. `Disk.locate` does this; what is to be read, written, made or removed is
looked for with it.
-/

/-- The names that lead from the root to a thing. -/
abbrev Place := List String

/-- What a file holds. -/
inductive FileContent
  | bytes (b : ByteArray)
  | database (d : Database)

/-- What is at a place. -/
inductive Node
  | folder
  /-- The file of a number. -/
  | file (number : Nat)
deriving DecidableEq

/-- What is at every place but the root, which is a folder, and what the files hold, by number. -/
structure Disk where
  nodes : List (Place × Node)
  files : List FileContent

/-- Why a disk refuses. -/
inductive DiskFault
  /-- There is nothing at the place or on the way to it. -/
  | missing
  /-- Something that would have to be a folder is none. -/
  | noFolder
  /-- There is a folder where a file would have to be. -/
  | isFolder
  /-- Something is at the place already. -/
  | occupied
  /-- The path or one of its names is not one that a system takes. -/
  | unusable
deriving DecidableEq

namespace FileContent

/-- No bytes. -/
def empty : FileContent := .bytes ByteArray.empty

/-- The database of a file. One that holds at most a single byte has not been written yet and stands
for a new database; other bytes are none. -/
def database? : FileContent → Option Database
  | .database d => some d
  | .bytes b => if b.size ≤ 1 then some Database.empty else none

/-- The file is a database that has been written. -/
def isDatabase : FileContent → Bool
  | .database _ => true
  | .bytes _ => false

/-- The first bytes of every database file. -/
def databaseHeader : ByteArray := "SQLite format 3\x00".toUTF8

/-- The bytes of a file; of a database, the first ones. -/
def toBytes : FileContent → ByteArray
  | .bytes b => b
  | .database _ => databaseHeader

end FileContent

namespace Disk

/-- A disk with nothing on it. -/
def empty : Disk := ⟨[], []⟩

/-! ### Places -/

/-- What is at a place. -/
def get? (d : Disk) (place : Place) : Option Node :=
  if place.isEmpty then some .folder else (d.nodes.find? fun p => p.1 = place).map (·.2)

/-- What the file of a number holds. -/
def content (d : Disk) (number : Nat) : FileContent := d.files.getD number FileContent.empty

/-- The file of a number holds something else. -/
def setContent (d : Disk) (number : Nat) (content : FileContent) : Disk :=
  { d with files := d.files.set number content }

/-- A folder is put at a place. -/
def addFolder (d : Disk) (place : Place) : Disk := { d with nodes := (place, .folder) :: d.nodes }

/-- A new file is put at a place. -/
def addFile (d : Disk) (place : Place) (content : FileContent) : Disk :=
  ⟨(place, .file d.files.length) :: d.nodes, d.files ++ [content]⟩

/-- Everything below a place is removed. -/
def clear (d : Disk) (place : Place) : Disk :=
  { d with nodes := d.nodes.filter fun p => p.1 = place || !place.isPrefixOf p.1 }

/-- What is at a place is removed, with everything below it. -/
def drop (d : Disk) (place : Place) : Disk :=
  { d with nodes := d.nodes.filter fun p => !place.isPrefixOf p.1 }

/-! ### Paths -/

/-- One name further; what is reached need not exist. -/
def descend (d : Disk) (here : Place) (name : String) : Except DiskFault Place :=
  match d.get? here with
  | none => .error .missing
  | some (.file _) => .error .noFolder
  | some .folder =>
    if name = "." then .ok here
    else if name = ".." then .ok here.dropLast
    else if Path.isTooLong name then .error .unusable
    else .ok (here ++ [name])

/-- The place that a path leads to; what is there need not exist. -/
def locate (d : Disk) (p : Path) : Except DiskFault Place :=
  if p.isUnusable then .error .unusable else p.names.foldlM d.descend []

/-- What a path leads to, with its place. -/
def find (d : Disk) (p : Path) : Except DiskFault (Place × Node) := do
  let place ← d.locate p
  match d.get? place with
  | none => .error .missing
  | some .folder => .ok (place, .folder)
  | some (.file n) => if p.endsInSlash then .error .noFolder else .ok (place, .file n)

/-- A path leads to a folder. -/
def isFolder (d : Disk) (p : Path) : Bool :=
  match d.find p with
  | .ok (_, .folder) => true
  | _ => false

/-! ### Operations -/

/-- The bytes of a file. -/
def read (d : Disk) (p : Path) : Except DiskFault ByteArray := do
  match ← d.find p with
  | (_, .folder) => .error .isFolder
  | (_, .file n) => .ok (d.content n).toBytes

/-- A file is written, and made if it does not exist. -/
def write (d : Disk) (p : Path) (bytes : ByteArray) : Except DiskFault Disk := do
  let place ← d.locate p
  if p.endsInSlash then .error .isFolder
  else
    match d.get? place with
    | some .folder => .error .isFolder
    | some (.file n) => .ok (d.setContent n (.bytes bytes))
    | none => .ok (d.addFile place (.bytes bytes))

/-- A folder is made in one that exists. -/
def makeFolder (d : Disk) (p : Path) : Except DiskFault Disk := do
  let place ← d.locate p
  if (d.get? place).isSome then .error .occupied else .ok (d.addFolder place)

/-- The parent folders of a path and the folder itself are made if they do not exist; `levels`
bounds the number of parents that are tried. What was made stays if a later step fails. -/
def makeFoldersUpTo (d : Disk) (p : Path) : (levels : Nat) → Except DiskFault Unit × Disk
  | 0 => (.error .missing, d)
  | levels + 1 =>
    let settled (d : Disk) : Except DiskFault Unit × Disk :=
      match d.makeFolder p with
      | .ok next => (.ok (), next)
      | .error e => (if d.isFolder p then .ok () else .error e, d)
    match d.makeFolder p with
    | .error .missing =>
      match d.makeFoldersUpTo p.parent levels with
      | (.ok (), next) => settled next
      | failed => failed
    | _ => settled d

/-- A folder and its parent folders are made if they do not exist. -/
def makeFolders (d : Disk) (p : Path) : Except DiskFault Unit × Disk :=
  d.makeFoldersUpTo p (p.names.length + 1)

/-- What a path leads to is removed. A folder is emptied before its own name is looked for again: a
path that went through the folder and back leads nowhere by then, and the emptied folder stays; so
it does, with an error, if the path ends in a dot. -/
def remove (d : Disk) (p : Path) : Except DiskFault Unit × Disk :=
  match d.find p with
  | .error e => (.error e, d)
  | .ok (place, .file _) => (.ok (), d.drop place)
  | .ok (place, .folder) =>
    let emptied := d.clear place
    match emptied.locate p with
    | .error _ => (.ok (), emptied)
    | .ok _ =>
      if place.isEmpty || p.names.getLast? = some "." then (.error .unusable, emptied)
      else (.ok (), d.drop place)

end Disk

end Telemetry

import Telemetry.Store.Disk
import Telemetry.Store.Settings

/-!
# Sources of databases

What the file of a data source stands for. No name, the name `:memory:` and the memory mode stand
for a database that is not kept; anything else is a file. A name that starts with `file:` is an
address again: it is decoded once more, its fragment is cut off, and its options are taken, as far
as they ask for no more than the data source allows.

`Source.ofDsn?` says what is opened, `Disk.fullPlace?` where a file is. Such a place is found by the
names alone: two dots take back the name before them even if there is nothing of that name.
-/

namespace Telemetry

/-- What a connection may do with a file. -/
inductive Right
  | nothing
  | read
  | write
  /-- The file may also be made. -/
  | make
deriving DecidableEq

/-- A file as it is asked for. -/
structure FileRequest where
  name : String
  /-- The access to files, by name. -/
  access : String
  right : Right
  inMemory : Bool
  isShared : Bool
  /-- The name was written as an address. -/
  isAddress : Bool
  immutable : Bool
deriving DecidableEq

/-- What is opened. Connections with the same key share what they lead to while both are open. -/
inductive Source
  /-- A database that is not kept. -/
  | unkept (key : Option (String × String)) (readOnly : Bool)
  /-- A database file. -/
  | file (request : FileRequest)
deriving DecidableEq

namespace Right

/-- The rights in their order. -/
def rank : Right → Nat
  | nothing => 0
  | read => 1
  | write => 2
  | make => 3

/-- The right that a mode asks for. -/
def ofMode? : String → Option Right
  | "ro" => some read
  | "rw" => some write
  | "rwc" => some make
  | _ => none

end Right

namespace FileRequest

/-- The file of a data source, with a name. -/
def ofDsn (d : Dsn) (name : String) (isAddress : Bool) : FileRequest where
  name
  access := d.access.getD "unix"
  right := if d.readOnly then .read else if d.create then .make else .write
  inMemory := d.inMemory
  isShared := d.isShared
  isAddress
  immutable := d.immutable

/-- The kinds of access to files. The last one keeps every file in memory. -/
def accesses : List String := ["unix", "unix-none", "unix-dotfile", "unix-excl", "memdb"]

/-- The text reads as true. -/
def isTrue (text : String) : Bool :=
  match text.toList.takeWhile (·.isDigit) with
  | [] => ["on", "yes", "true"].contains (text.map Char.toLower)
  | digits =>
    let n := digits.foldl (fun n c => 10 * n + (c.toNat - 48)) 0
    n ≤ Int32.maxValue.toInt.toNat && n % 256 ≠ 0

/-- One option of an address. -/
def take? (f : FileRequest) (name value : String) : Option FileRequest :=
  match name with
  | "vfs" => some { f with access := value }
  | "cache" =>
    if value = "shared" then some { f with isShared := true }
    else if value = "private" then some { f with isShared := false }
    else none
  | "mode" =>
    if value = "memory" then some { f with inMemory := true, right := .nothing }
    else (Right.ofMode? value).bind fun right =>
      if f.inMemory || right.rank ≤ f.right.rank then some { f with right, inMemory := false }
      else none
  | _ => some f

/-- A piece of an address, decoded. A null ends it. -/
def decodePiece (text : List Char) : String :=
  let bytes := (Percent.decode (String.ofList text).toUTF8.data.toList).takeWhile (· ≠ 0)
  (String.fromUTF8? ⟨bytes.toArray⟩).getD (String.ofList (bytes.map fun b => Char.ofNat b.toNat))

/-- The options of an address, names and values; one without a name is passed over. -/
def options (query : List Char) : List (String × String) :=
  ((query.splitOn '&').map fun option =>
    (decodePiece (option.takeWhile (· ≠ '=')), decodePiece ((option.dropWhile (· ≠ '=')).drop 1))
  ).filter fun option => option.1 ≠ ""

/-- The text behind the machine that an address may name; only this machine will do. -/
def behindMachine? (text : List Char) : Option (List Char) :=
  match text with
  | '/' :: '/' :: rest =>
    let machine := rest.takeWhile (· ≠ '/')
    if machine.isEmpty || machine = "localhost".toList then some (rest.dropWhile (· ≠ '/'))
    else none
  | _ => some text

/-- The file of an address; the text starts behind `file:`. -/
def ofAddress? (d : Dsn) (text : List Char) : Option FileRequest := do
  let address := (← behindMachine? text).takeWhile (· ≠ '#')
  let given := options ((address.dropWhile (· ≠ '?')).drop 1)
  let request := ofDsn d (decodePiece (address.takeWhile (· ≠ '?'))) true
  let request ← given.foldlM (fun f option => f.take? option.1 option.2) request
  return { request with
    immutable := (given.find? fun option => option.1 = "immutable").any fun option =>
      isTrue option.2 }

/-- The file of a data source. A data source that says more than modes is handed on as an address of
its own, in which the name is escaped. -/
def ofDsn? (d : Dsn) : Option FileRequest :=
  let name := d.file.toList
  if d.immutable || d.access.isSome then
    some (ofDsn d (String.ofList (name.takeWhile (· ≠ '\x00'))) true)
  else if name.contains '\x00' then none
  else if "file:".toList.isPrefixOf name then ofAddress? d (name.drop 5)
  else some (ofDsn d d.file false)

/-- The name under which a connection is shared. -/
def key (f : FileRequest) : Option (String × String) :=
  if f.isShared then some (f.access, f.name) else none

end FileRequest

namespace Source

/-- What a data source opens. -/
def ofDsn? (d : Dsn) : Option Source := do
  if d.isUnnamed then
    guard (FileRequest.accesses.contains (d.access.getD "unix"))
    return unkept none d.readOnly
  else
    let f ← FileRequest.ofDsn? d
    guard (FileRequest.accesses.contains f.access)
    if f.name = "" then return unkept none (f.right = .read)
    else if f.inMemory || f.name = ":memory:" then
      return unkept (if f.isAddress then f.key else none) (f.right = .read)
    else if f.access = "memdb" then
      let isKnown := f.isShared || (f.name.toList.head? = some '/' && 1 < f.name.length)
      return unkept (if isKnown then some (f.access, f.name) else none)
        (f.right = .read || f.immutable)
    else return file f

end Source

namespace Disk

/-- The text of a place. -/
def placeText (place : Place) : String := String.join (place.map fun name => "/" ++ name)

/-- The longest text of a place on the way to a database file. -/
def longestOnWay : Nat := 511

/-- The longest text of the place of a database file; names of further files have to fit behind it.
-/
def longestPlace : Nat := 504

/-- One name further on the way to a database file. -/
def advance? (d : Disk) (here : Place) (name : String) : Option Place :=
  if name = "." then some here
  else if name = ".." then some here.dropLast
  else if longestOnWay < (placeText (here ++ [name])).utf8ByteSize then none
  else
    match d.get? here with
    | some (.file _) => none
    | some .folder => if Path.isTooLong name then none else some (here ++ [name])
    | none => some (here ++ [name])

/-- The place of a database file. -/
def fullPlace? (d : Disk) (name : String) : Option Place := do
  let place ← (Path.mk name).names.foldlM d.advance? []
  guard ((placeText place).utf8ByteSize ≤ longestPlace)
  return place

end Disk

end Telemetry

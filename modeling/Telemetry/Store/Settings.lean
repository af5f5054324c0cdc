import Telemetry.Json.Reader
import Telemetry.Url

/-!
# Which store is opened

The settings of a store, and the names that a database is opened by.
-/

namespace Telemetry

/-! ## Data source names

The name of a database: the scheme `sqlite`, a file, and parameters behind a question mark that say
how it is opened, `sqlite://store/metrics.db?mode=rwc`. The whole has to be an address of this
scheme, but the file is read off the text as it was written: what the address would escape or leave
out belongs to the name of the file.
-/

/-- A data source. -/
structure Dsn where
  /-- The name of the file, decoded. -/
  file : String
  /-- The name is written `:memory:`; every use of it is a database of its own. -/
  isUnnamed : Bool
  /-- The database is not kept in a file. -/
  inMemory : Bool
  /-- The file is made if it does not exist. -/
  create : Bool
  /-- Nothing may be written. -/
  readOnly : Bool
  /-- The file is taken not to change. -/
  immutable : Bool
  /-- Connections to the same place share what they know of it. -/
  isShared : Bool
  /-- The access to files, by name, if it is not the usual one. -/
  access : Option String
deriving DecidableEq, Inhabited

namespace Dsn

/-- A text without all leading copies of a word, which is given by its first character and the
others. -/
def stripLeading (first : Char) (others : List Char) : List Char → List Char
  | [] => []
  | c :: cs =>
    if (first :: others).isPrefixOf (c :: cs) then stripLeading first others (cs.drop others.length)
    else c :: cs
termination_by text => text.length
decreasing_by simp only [List.length_drop, List.length_cons]; omega

/-- The text of a percent-encoded one. -/
def decodeText? (text : List Char) : Option String :=
  String.fromUTF8? ⟨(Percent.decode (String.ofList text).toUTF8.data.toList).toArray⟩

/-- A parameter, where a plus sign stands for a blank. -/
def decodeParameter (text : List Char) : String :=
  (decodeText? (text.map fun c => if c = '+' then ' ' else c)).getD "\ufffd"

/-- A file of a name, as it is opened if nothing else is said. -/
def ofFile (file : String) : Dsn := ⟨file, false, false, false, false, false, false, none⟩

/-- A database of its own that is not kept. -/
def unnamed : Dsn := ⟨"", true, true, false, false, false, true, none⟩

/-- One parameter, a name and a value. -/
def take? (d : Dsn) (name value : String) : Option Dsn :=
  match name, value with
  | "mode", "ro" => some { d with readOnly := true }
  | "mode", "rw" => some d
  | "mode", "rwc" => some { d with create := true }
  | "mode", "memory" => some { d with inMemory := true, isShared := true }
  | "cache", "private" => some { d with isShared := false }
  | "cache", "shared" => some { d with isShared := true }
  | "immutable", "true" => some { d with immutable := true }
  | "immutable", "1" => some { d with immutable := true }
  | "immutable", "false" => some { d with immutable := false }
  | "immutable", "0" => some { d with immutable := false }
  | "vfs", name => some { d with access := some name }
  | _, _ => none

/-- The parameters one after another; an unknown one spoils the name. -/
def takeAll? (d : Dsn) (parameters : List Char) : Option Dsn :=
  ((parameters.splitOn '&').filter (!·.isEmpty)).foldlM (fun d p =>
    let name := p.takeWhile (· ≠ '=')
    let value := (p.dropWhile (· ≠ '=')).drop 1
    d.take? (decodeParameter name) (decodeParameter value)) d

/-- The data source of a name. -/
def ofText? (text : String) : Option Dsn := do
  guard ((Url.ofText? text).any fun u => u.scheme = "sqlite".toList)
  let rest := stripLeading 's' "qlite:".toList (stripLeading 's' "qlite://".toList text.toList)
  let file := rest.takeWhile (· ≠ '?')
  let start : Dsn ← if file = ":memory:".toList then some unnamed else (decodeText? file).map ofFile
  start.takeAll? ((rest.dropWhile (· ≠ '?')).drop 1)

end Dsn

/-! ## Settings of stores

Which store is used and how it saves. A data source wins over a path, and if neither is given the
store is in memory. Values that are blank count as not given.
-/

/-- The settings of a store. -/
structure StoreSettings where
  /-- The snapshot file. -/
  path : Option String
  /-- The seconds between two saves; zero saves after every write. -/
  intervalSeconds : Nat
  /-- What the file holds is restored at the start. -/
  restore : Bool
  /-- The database. -/
  dsn : Option String
deriving DecidableEq, Inhabited

namespace StoreSettings

/-- The settings when nothing is said. -/
def standard : StoreSettings := ⟨none, 300, true, none⟩

/-- The names of the fields. -/
def fieldNames : List String := ["store_path", "store_interval_secs", "restore", "database_dsn"]

/-- The settings of a JSON value. -/
def ofJson? (v : Json) : Option StoreSettings := do
  match ← v.record? fieldNames with
  | [path, interval, restore, dsn] =>
    return {
      path := ← Json.optional? Json.asText? path
      intervalSeconds := ← Json.withDefault? Json.asUnsigned? standard.intervalSeconds interval
      restore := ← Json.withDefault? Json.asBool? standard.restore restore
      dsn := ← Json.optional? Json.asText? dsn }
  | _ => none

/-- The settings of a JSON text. -/
def ofJsonBytes? (bytes : ByteArray) : Option StoreSettings :=
  (Json.ofBytes? bytes.data.toList).bind ofJson?

end StoreSettings

end Telemetry

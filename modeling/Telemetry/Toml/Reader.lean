import Telemetry.Toml.Value

/-!
# Documents of TOML and their values

A document is read to a table, and the values in the table are taken to what they mean.
-/

namespace Telemetry

/-! ## Documents of TOML

A document is a list of statements, one on a line: headers, which say to what table the following
entries belong, and entries. The statements are read first and then carried out one after another on
the table of the whole document.
-/

namespace Toml

/-- One statement. -/
inductive Statement
  /-- The entries that follow belong to a table. -/
  | header (path : List String)
  /-- The entries that follow belong to one more table of this name. -/
  | element (path : List String)
  | entry (key : List String) (v : Toml)

/-- What follows the end of a line: blanks, a comment and a line break, or the end of the text. -/
def endOfLine? (cs : List Char) : Option (List Char) :=
  let afterComment := match skipBlanks cs with
    | '#' :: rest => rest.dropWhile isPlain
    | rest => rest
  match afterComment with
  | [] => some []
  | '\n' :: rest => some rest
  | '\r' :: '\n' :: rest => some rest
  | _ => none

/-- The statement at the start of a line that is not blank. -/
def statement? (cs : List Char) : Option (Statement × List Char) :=
  match cs with
  | '[' :: '[' :: rest => do
    let (path, rest) ← keyWithin? rest
    match skipBlanks rest with
    | ']' :: ']' :: rest => return (.element path, rest)
    | _ => none
  | '[' :: rest => do
    let (path, rest) ← keyWithin? rest
    match skipBlanks rest with
    | ']' :: rest => return (.header path, rest)
    | _ => none
  | cs => do
    let (key, rest) ← keyWithin? cs
    let behind := skipBlanks (← mark? '=' (skipBlanks rest))
    let (v, rest) ← value? (2 * behind.length + 2) 0 behind
    return (.entry key v, rest)

/-- The statements of a text of at most `lines` lines. -/
def statements? : (lines : Nat) → List Char → Option (List Statement)
  | 0, _ => some []
  | lines + 1, cs =>
    match skipBlanks cs with
    | [] => some []
    | c :: rest =>
      if c = '#' ∨ c = '\n' ∨ c = '\r' then
        (endOfLine? (c :: rest)).bind fun rest => statements? lines rest
      else do
        let (statement, rest) ← statement? (c :: rest)
        let following ← statements? lines (← endOfLine? rest)
        return statement :: following

/-- The document so far, and the table to which entries belong. -/
structure Draft where
  entries : Entries
  path : List String

/-- One statement is carried out. -/
def Draft.take? (d : Draft) : Statement → Option Draft
  | .header path => do
    let name ← path.getLast?
    return ⟨← atHeader? path.dropLast (openTable? name) d.entries, path⟩
  | .element path => do
    let name ← path.getLast?
    return ⟨← atHeader? path.dropLast (openElement? name) d.entries, path⟩
  | .entry key v => do return { d with entries := ← atHeader? d.path (insert? key v) d.entries }

/-- A text without a byte order mark at its start. -/
def withoutMark : List Char → List Char
  | '\ufeff' :: rest => rest
  | cs => cs

/-- The table of a document. -/
def ofText? (s : String) : Option Entries := do
  let cs := withoutMark s.toList
  let draft ← (← statements? (cs.length + 1) cs).foldlM Draft.take? ⟨[], []⟩
  return draft.entries

end Toml

/-! ## Reading TOML values

Readers take a value to what it means, or refuse it. A record is a table, whose entries may stand in
any order and among unknown ones, or an array of its fields in order; a moment counts as a record
without any field. An alternative is a string, or a table with the alternative as its only name and
nothing in it.
-/

namespace Toml

/-- The text of a string. -/
def asText? : Toml → Option String
  | .text s => some s
  | _ => none

/-- A truth value. -/
def asBool? : Toml → Option Bool
  | .bool b => some b
  | _ => none

/-- A non-negative integer. -/
def asUnsigned? : Toml → Option Nat
  | .integer (.ofNat n) => some n
  | _ => none

/-- There is nothing in the value. -/
def isEmptyContainer : Toml → Bool
  | .array [] => true
  | .table _ [] => true
  | .tables [] => true
  | _ => false

/-- The name of an alternative. -/
def asAlternative? : Toml → Option String
  | .text s => some s
  | .table _ [(name, v)] => if v.isEmptyContainer then some name else none
  | _ => none

/-- The fields of a record in the order of their names. -/
def record? (names : List String) : Toml → Option (List (Option Toml))
  | .table _ entries => some (names.map fun name => (entries.find? fun e => e.1 = name).map (·.2))
  | .array items => some (names.mapIdx fun i _ => items[i]?)
  | .tables elements => some (names.mapIdx fun i _ => (elements[i]?).map (.table .header))
  | .moment => some (names.map fun _ => none)
  | _ => none

/-- A field that may be absent. -/
def optional? {α : Type} (read : Toml → Option α) : Option Toml → Option (Option α)
  | none => some none
  | some v => (read v).map some

/-- A field that has a value of its own if it is absent. -/
def withDefault? {α : Type} (read : Toml → Option α) (default : α) : Option Toml → Option α
  | none => some default
  | some v => read v

end Toml

end Telemetry

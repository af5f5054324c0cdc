import Telemetry.Toml.Text
import Telemetry.Toml.Word

/-!
# Values of TOML

The values of a document and how they are written. A table remembers how it came to be, because that
decides what may be added to it later: a table in braces is closed, one made by a header may get
entries and further tables, one that was only named on the way to another may still get a header of
its own, and one made by dots in keys takes further dotted keys.

Readers give the value and what follows it. Arrays and tables in braces lie at most `maxDepth` deep
in each other. The recursion of the readers is bounded by the length of the text.
-/

namespace Telemetry

/-- How a table came to be. -/
inductive TableForm
  /-- In braces. -/
  | closed
  /-- By a header. -/
  | header
  /-- On the way to a table with a header. -/
  | implied
  /-- By the dots of a key. -/
  | dotted
deriving DecidableEq

/-- A value. -/
inductive Toml
  | text (s : String)
  | integer (n : Int)
  | float (x : Binary64)
  | bool (b : Bool)
  /-- A date, a time, or both. -/
  | moment
  | array (items : List Toml)
  | table (form : TableForm) (entries : List (String × Toml))
  /-- Tables that share one header, in order. -/
  | tables (elements : List (List (String × Toml)))

namespace Toml

/-- The entries of a table. -/
abbrev Entries := List (String × Toml)

/-! ## Adding to tables -/

/-- The entry of a name replaced; `change` gets the old value, if there is one, and may refuse. -/
def alter? (name : String) (change : Option Toml → Option Toml) : Entries → Option Entries
  | [] => (change none).map fun v => [(name, v)]
  | (n, v) :: rest =>
    if n = name then (change (some v)).map fun v => (n, v) :: rest
    else (alter? name change rest).map ((n, v) :: ·)

/-- The last of some tables changed. -/
def alterLast? (change : Entries → Option Entries) : List Entries → Option (List Entries)
  | [] => none
  | [last] => (change last).map fun e => [e]
  | e :: rest => (alterLast? change rest).map (e :: ·)

/-- A value at the end of a dotted key. Tables on the way are made by the dots, or were; the table
that gets the value must have been made by dots if the key has any. -/
def insert? (key : List String) (v : Toml) (entries : Entries) : Option Entries :=
  match key with
  | [] => none
  | [name] => alter? name (fun old => if old.isSome then none else some v) entries
  | name :: rest =>
    let below (form : TableForm) (entries : Entries) : Option Entries :=
      if rest.length = 1 ∧ form ≠ .dotted then none else insert? rest v entries
    alter? name (fun old =>
      match old with
      | none => (below .dotted []).map (.table .dotted)
      | some (.table .dotted entries) => (below .dotted entries).map (.table .dotted)
      | some (.table .implied entries) => (below .implied entries).map (.table .implied)
      | some (.tables elements) => (alterLast? (below .header) elements).map .tables
      | some _ => none) entries

/-- Something done at the table that a header leads to; tables on the way are made if they are not
there. -/
def atHeader? (path : List String) (act : Entries → Option Entries) (entries : Entries) :
    Option Entries :=
  match path with
  | [] => act entries
  | name :: rest =>
    alter? name (fun old =>
      match old with
      | none => (atHeader? rest act []).map (.table .implied)
      | some (.table .closed _) => none
      | some (.table form entries) => (atHeader? rest act entries).map (.table form)
      | some (.tables elements) => (alterLast? (atHeader? rest act) elements).map .tables
      | some _ => none) entries

/-- A table gets its header. It may have been named on the way to another before, but not had a
header. -/
def openTable? (name : String) (entries : Entries) : Option Entries :=
  alter? name (fun old =>
    match old with
    | none => some (.table .header [])
    | some (.table .implied entries) => some (.table .header entries)
    | some _ => none) entries

/-- One more table with a shared header. -/
def openElement? (name : String) (entries : Entries) : Option Entries :=
  alter? name (fun old =>
    match old with
    | none => some (.tables [[]])
    | some (.tables elements) => some (.tables (elements ++ [[]]))
    | some _ => none) entries

/-! ## Blanks and keys -/

/-- A text without the blanks and tabs at its start. -/
def skipBlanks (cs : List Char) : List Char := cs.dropWhile fun c => c = ' ' || c = '\t'

/-- A text without blanks, line breaks and comments at its start; `inComment` says that it starts
inside a comment. -/
def skipLines? (inComment : Bool) : List Char → Option (List Char)
  | [] => some []
  | '\n' :: rest => skipLines? false rest
  | '\r' :: '\n' :: rest => skipLines? false rest
  | c :: rest =>
    if inComment then (if isPlain c then skipLines? true rest else none)
    else if c = ' ' ∨ c = '\t' then skipLines? false rest
    else if c = '#' then skipLines? true rest
    else some (c :: rest)

/-- The longest list of names in a key, and the deepest nesting of values. -/
def maxDepth : Nat := 80

/-- The character may stand in a key without quotes. -/
def isBare (c : Char) : Bool := c.isAlphanum || c = '_' || c = '-'

/-- One name of a key. -/
def name? (cs : List Char) : Option (String × List Char) :=
  match cs with
  | '"' :: rest => (basic? rest).map fun p => (String.ofList p.1, p.2)
  | '\'' :: rest => (literal? rest).map fun p => (String.ofList p.1, p.2)
  | cs =>
    if (cs.takeWhile isBare).isEmpty then none
    else some (String.ofList (cs.takeWhile isBare), cs.dropWhile isBare)

/-- The names of a key, with dots between them and blanks around the dots. -/
def key? : (fuel : Nat) → List Char → Option (List String × List Char)
  | 0, _ => none
  | fuel + 1, cs => do
    let (name, rest) ← name? (skipBlanks cs)
    match skipBlanks rest with
    | '.' :: rest =>
      let (names, rest) ← key? fuel rest
      return (name :: names, rest)
    | rest => return ([name], rest)

/-- A key that is not too long. -/
def keyWithin? (cs : List Char) : Option (List String × List Char) :=
  (key? cs.length cs).filter fun p => p.1.length < maxDepth

/-! ## Values -/

/-- A value that is one word. -/
def word? (cs : List Char) : Option Toml :=
  if cs = "true".toList then some (.bool true)
  else if cs = "false".toList then some (.bool false)
  else if isMoment cs then some .moment
  else
    match integer? cs with
    | some n => some (.integer n)
    | none => (float? cs).map .float

/-- A value that is one word, or a date and a time with a blank between them. -/
def wordOrMoment? (cs : List Char) : Option (Toml × List Char) :=
  let word := cs.takeWhile isWordChar
  let rest := cs.dropWhile isWordChar
  match rest with
  | ' ' :: c :: behind =>
    if isDate word && isDigit c then
      if isTimeWithOffset ((c :: behind).takeWhile isWordChar) then
        some (.moment, (c :: behind).dropWhile isWordChar)
      else none
    else (word? word).map fun v => (v, rest)
  | _ => (word? word).map fun v => (v, rest)

mutual

/-- A value that lies `depth` values deep. -/
def value? (fuel depth : Nat) (cs : List Char) : Option (Toml × List Char) :=
  match fuel with
  | 0 => none
  | fuel + 1 =>
    match cs with
    | '[' :: rest =>
      if depth + 1 < maxDepth then (items? fuel (depth + 1) rest).map fun p => (.array p.1, p.2)
      else none
    | '\x7b' :: rest =>
      if depth + 1 < maxDepth then
        match skipBlanks rest with
        | '\x7d' :: rest => some (.table .closed [], rest)
        | rest => (pairs? fuel (depth + 1) [] rest).map fun p => (.table .closed p.1, p.2)
      else none
    | cs =>
      match text? cs with
      | some (s, rest) => some (.text (String.ofList s), rest)
      | none => wordOrMoment? cs

/-- The items of an array up to its closing bracket. -/
def items? (fuel depth : Nat) (cs : List Char) : Option (List Toml × List Char) :=
  match fuel with
  | 0 => none
  | fuel + 1 => do
    match ← skipLines? false cs with
    | ']' :: rest => return ([], rest)
    | cs =>
      let (v, rest) ← value? fuel depth cs
      match ← skipLines? false rest with
      | ',' :: rest =>
        let (vs, rest) ← items? fuel depth rest
        return (v :: vs, rest)
      | ']' :: rest => return ([v], rest)
      | _ => none

/-- The entries of a table in braces, added to the ones before, up to its closing brace. -/
def pairs? (fuel depth : Nat) (entries : Entries) (cs : List Char) : Option (Entries × List Char) :=
  match fuel with
  | 0 => none
  | fuel + 1 => do
    let (key, rest) ← keyWithin? cs
    let (v, rest) ← value? fuel depth (skipBlanks (← mark? '=' (skipBlanks rest)))
    let entries ← insert? key v entries
    match skipBlanks rest with
    | ',' :: rest => pairs? fuel depth entries rest
    | '\x7d' :: rest => return (entries, rest)
    | _ => none

end

end Toml

end Telemetry

import Telemetry.Text

/-!
# Strings of TOML

Strings come in four forms: in double quotes, with escapes, or in single quotes, without; and each
of them on one line or, behind three quotes, on several. Every reader here starts behind the opening
quotes and gives the characters of the string and what follows its closing quotes. A line break in a
string is always one line feed.
-/

namespace Telemetry

namespace Toml

/-- The character may stand in a string or a comment: no control but the tab. -/
def isPlain (c : Char) : Bool := c = '\t' || (32 ≤ c.toNat && c.toNat ≠ 127)

/-- The character that hexadecimal digits stand for; half a surrogate pair is none. -/
def codePoint? (digits : List Char) : Option Char := do
  let n ← digits.foldlM (fun n c => (Hex.value? c).map (16 * n + ·)) 0
  if n.isValidChar then some (Char.ofNat n) else none

/-- The character of a one-letter escape. -/
def escaped? (c : Char) : Option Char :=
  match c with
  | 'b' => some '\x08'
  | 't' => some '\t'
  | 'n' => some '\n'
  | 'f' => some '\x0c'
  | 'r' => some '\r'
  | '"' => some '"'
  | '\\' => some '\\'
  | _ => none

/-- A character before the rest of a string. -/
def push (c : Char) (p : List Char × List Char) : List Char × List Char := (c :: p.1, p.2)

/-- A string in double quotes. -/
def basic? : List Char → Option (List Char × List Char)
  | [] => none
  | '"' :: rest => some ([], rest)
  | '\\' :: 'u' :: a :: b :: c :: d :: rest => do
    return push (← codePoint? [a, b, c, d]) (← basic? rest)
  | '\\' :: 'U' :: a :: b :: c :: d :: e :: f :: g :: h :: rest => do
    return push (← codePoint? [a, b, c, d, e, f, g, h]) (← basic? rest)
  | '\\' :: e :: rest => do return push (← escaped? e) (← basic? rest)
  | c :: rest => if isPlain c then (basic? rest).map (push c) else none

/-- A string in single quotes. -/
def literal? : List Char → Option (List Char × List Char)
  | [] => none
  | '\'' :: rest => some ([], rest)
  | c :: rest => if isPlain c then (literal? rest).map (push c) else none

/-- What a backslash at the end of a line does to the characters behind it. -/
inductive Fold
  /-- There was none. -/
  | no
  /-- Blanks are passed until the line ends. -/
  | line
  /-- The line has ended; blanks and line breaks are passed. -/
  | blank
deriving DecidableEq

/-- A string in double quotes on several lines. One or two quotes may stand before the closing ones.
-/
def multiBasic? : Fold → List Char → Option (List Char × List Char)
  | _, [] => none
  | .line, c :: rest =>
    if c = ' ' ∨ c = '\t' then multiBasic? .line rest
    else if c = '\n' then multiBasic? .blank rest
    else
      match c, rest with
      | '\r', '\n' :: rest => multiBasic? .blank rest
      | _, _ => none
  | .blank, ' ' :: rest => multiBasic? .blank rest
  | .blank, '\t' :: rest => multiBasic? .blank rest
  | .blank, '\n' :: rest => multiBasic? .blank rest
  | .blank, '\r' :: '\n' :: rest => multiBasic? .blank rest
  | _, '"' :: '"' :: '"' :: '"' :: '"' :: rest => some (['"', '"'], rest)
  | _, '"' :: '"' :: '"' :: '"' :: rest => some (['"'], rest)
  | _, '"' :: '"' :: '"' :: rest => some ([], rest)
  | _, '\\' :: 'u' :: a :: b :: c :: d :: rest => do
    return push (← codePoint? [a, b, c, d]) (← multiBasic? .no rest)
  | _, '\\' :: 'U' :: a :: b :: c :: d :: e :: f :: g :: h :: rest => do
    return push (← codePoint? [a, b, c, d, e, f, g, h]) (← multiBasic? .no rest)
  | _, '\\' :: e :: rest =>
    match escaped? e with
    | some c => (multiBasic? .no rest).map (push c)
    | none =>
      if e = ' ' ∨ e = '\t' then multiBasic? .line rest
      else if e = '\n' then multiBasic? .blank rest
      else
        match e, rest with
        | '\r', '\n' :: rest => multiBasic? .blank rest
        | _, _ => none
  | _, '\r' :: '\n' :: rest => (multiBasic? .no rest).map (push '\n')
  | _, '\n' :: rest => (multiBasic? .no rest).map (push '\n')
  | _, c :: rest => if isPlain c then (multiBasic? .no rest).map (push c) else none

/-- A string in single quotes on several lines. -/
def multiLiteral? : List Char → Option (List Char × List Char)
  | [] => none
  | '\'' :: '\'' :: '\'' :: '\'' :: '\'' :: rest => some (['\'', '\''], rest)
  | '\'' :: '\'' :: '\'' :: '\'' :: rest => some (['\''], rest)
  | '\'' :: '\'' :: '\'' :: rest => some ([], rest)
  | '\r' :: '\n' :: rest => (multiLiteral? rest).map (push '\n')
  | '\n' :: rest => (multiLiteral? rest).map (push '\n')
  | c :: rest => if isPlain c then (multiLiteral? rest).map (push c) else none

/-- A text without a line break at its start. -/
def dropBreak : List Char → List Char
  | '\n' :: rest => rest
  | '\r' :: '\n' :: rest => rest
  | cs => cs

/-- A string of any form, from its opening quotes on; `none` also if there is none. -/
def text? : List Char → Option (List Char × List Char)
  | '"' :: '"' :: '"' :: rest => multiBasic? .no (dropBreak rest)
  | '"' :: rest => basic? rest
  | '\'' :: '\'' :: '\'' :: rest => multiLiteral? (dropBreak rest)
  | '\'' :: rest => literal? rest
  | _ => none

end Toml

end Telemetry

import Telemetry.Url.Host

/-!
# Addresses

Absolute addresses by the rules that browsers follow. `Url.ofText?` reads one and brings it into its
normal form: scheme and host in lower case, no default port, no dot segments, everything escaped
that has to be. `Url.text` writes an address without its fragment, which is never sent. `Url.push?`
appends segments to the path.

Schemes that are looked up in the network (`http`, `https`, `ws`, `wss`, `ftp`) and `file` are
*special*: they take a backslash for a slash and always have a path.
-/

namespace Telemetry

/-- The path of an address. -/
inductive UrlPath
  /-- A text that is not cut into segments. -/
  | plain (text : List Char)
  /-- Segments, each behind a slash. -/
  | segments (names : List (List Char))
deriving DecidableEq

/-- An address. -/
structure Url where
  scheme : List Char
  /-- Name and password, escaped; empty if absent. -/
  user : List Char
  password : List Char
  host : Option (List Char)
  port : Option Nat
  path : UrlPath
  query : Option (List Char)
deriving DecidableEq

namespace Url

/-! ## Schemes -/

/-- The port that a scheme uses if none is given. -/
def defaultPort? (scheme : List Char) : Option Nat :=
  if scheme = "http".toList ∨ scheme = "ws".toList then some 80
  else if scheme = "https".toList ∨ scheme = "wss".toList then some 443
  else if scheme = "ftp".toList then some 21
  else none

/-- The scheme stands for files. -/
def isFile (scheme : List Char) : Bool := scheme = "file".toList

/-- The scheme is special. -/
def isSpecial (scheme : List Char) : Bool := (defaultPort? scheme).isSome || isFile scheme

/-- The character is an ASCII letter. -/
def isLetter (c : Char) : Bool := c.isAlpha

/-- The scheme at the start of a text, in lower case, and what follows its colon. -/
def scheme? (cs : List Char) : Option (List Char × List Char) :=
  let name := cs.takeWhile fun c => c.isAlphanum || c = '+' || c = '-' || c = '.'
  match name, cs.dropWhile fun c => c.isAlphanum || c = '+' || c = '-' || c = '.' with
  | first :: _, ':' :: rest => if isLetter first then some (name.map Char.toLower, rest) else none
  | _, _ => none

/-! ## Authorities -/

/-- The bytes that are escaped in names and passwords. -/
def escapedInUser : UInt8 → Bool := Percent.escapes " \"#<>?`\x7b\x7d/:;=@[\\]^|"

/-- A port: nothing, or digits. The result is `none` if it is malformed, and holds no port if it is
the default one. -/
def port? (scheme digits : List Char) : Option (Option Nat) :=
  if digits.isEmpty then some none
  else
    match digitsValue? digits with
    | some n =>
        if 65535 < n then none else some (if defaultPort? scheme = some n then none else some n)
    | none => none

/-- A text cut at its last `@`. -/
def cutAtUser (cs : List Char) : Option (List Char × List Char) :=
  if cs.contains '@' then
    let back := cs.reverse
    some ((back.dropWhile (· ≠ '@')).tail.reverse, (back.takeWhile (· ≠ '@')).reverse)
  else none

/-- A host and the port behind it; a colon inside brackets belongs to the host. -/
def cutAtPort (cs : List Char) : List Char × Option (List Char) :=
  let bracketed := if cs.head? = some '[' then cs.takeWhile (· ≠ ']') else []
  let rest := cs.drop bracketed.length
  match rest.dropWhile (· ≠ ':') with
  | ':' :: port => (bracketed ++ rest.takeWhile (· ≠ ':'), some port)
  | _ => (cs, none)

/-- An authority may do without a host: the scheme is not special, and there is neither a port nor a
user. An `@` that nothing stands before has to be the end of the address then. -/
def mayLackHost (scheme : List Char) (userInfo portDigits : Option (List Char)) (isLast : Bool) :
    Bool :=
  !isSpecial scheme && portDigits.isNone
    && match userInfo with
      | none => true
      | some [] => isLast
      | some info => info = [':']

/-- An authority: user, host and port. `isLast` says that the address ends with it. -/
def authority? (scheme cs : List Char) (isLast : Bool) : Option Url := do
  let (userInfo, hostAndPort) := match cutAtUser cs with
    | some (before, behind) => (some before, behind)
    | none => (none, cs)
  let (host, portDigits) := cutAtPort hostAndPort
  guard (!host.isEmpty || mayLackHost scheme userInfo portDigits isLast)
  let port ← port? scheme (portDigits.getD [])
  let host ← if host.isEmpty then some [] else Host.normalize? (isSpecial scheme) host
  let info := userInfo.getD []
  let escape (text : List Char) : List Char := Percent.encode escapedInUser (String.ofList text)
  return {
    scheme
    user := escape (info.takeWhile (· ≠ ':'))
    password := escape ((info.dropWhile (· ≠ ':')).drop 1)
    host := some host
    port
    path := .segments []
    query := none }

/-! ## Paths -/

/-- The bytes that are escaped in a path. -/
def escapedInPath : UInt8 → Bool := Percent.escapes " \"#<>?`\x7b\x7d"

/-- The segment stands for the folder itself. -/
def isDot (segment : List Char) : Bool :=
  let s := segment.map Char.toLower
  s = ['.'] || s = "%2e".toList

/-- The segment stands for the folder above. -/
def isDoubleDot (segment : List Char) : Bool :=
  let s := segment.map Char.toLower
  s = "..".toList || s = ".%2e".toList || s = "%2e.".toList || s = "%2e%2e".toList

/-- Segments with the dots resolved; `done` are the ones so far. A dot at the end leaves an empty
segment. -/
def resolve (done : List (List Char)) : List (List Char) → List (List Char)
  | [] => done
  | [segment] =>
    if isDoubleDot segment then done.dropLast ++ [[]]
    else if isDot segment then done ++ [[]]
    else done ++ [segment]
  | segment :: rest =>
    if isDoubleDot segment then resolve done.dropLast rest
    else if isDot segment then resolve done rest
    else resolve (done ++ [segment]) rest

/-- The segments of a path text, which starts with a slash unless it is empty. -/
def segmentsOf (special : Bool) (cs : List Char) : List (List Char) :=
  let slashed := if special then cs.map fun c => if c = '\\' then '/' else c else cs
  match slashed with
  | [] => if special then [[]] else []
  | '/' :: rest =>
      resolve [] ((rest.splitOn '/').map fun s => Percent.encode escapedInPath (String.ofList s))
  | rest =>
      resolve [] ((rest.splitOn '/').map fun s => Percent.encode escapedInPath (String.ofList s))

/-- The query of a text behind the path, escaped. -/
def queryOf (special : Bool) (cs : List Char) : Option (List Char) :=
  match cs with
  | '?' :: rest =>
    let escaped := Percent.escapes (if special then " \"#<>'" else " \"#<>")
    some (Percent.encode escaped (String.ofList rest))
  | _ => none

/-! ## Reading -/

/-- The text without controls and blanks at its ends, and without tabs and line breaks anywhere. -/
def cleaned (s : String) : List Char :=
  let isJunk (c : Char) : Bool := c.toNat ≤ 32
  ((s.toList.dropWhile isJunk).reverse.dropWhile isJunk).reverse.filter fun c =>
    c ≠ '\t' && c ≠ '\n' && c ≠ '\r'

/-- The character ends an authority. -/
def endsAuthority (special : Bool) (c : Char) : Bool :=
  c = '/' || c = '?' || c = '#' || (special && c = '\\')

/-- The path and query of a text behind an authority. -/
def withPath (special : Bool) (u : Url) (cs : List Char) : Url :=
  { u with
    path := .segments (segmentsOf special (cs.takeWhile fun c => c ≠ '?' && c ≠ '#'))
    query := queryOf special ((cs.dropWhile fun c => c ≠ '?' && c ≠ '#').takeWhile (· ≠ '#')) }

/-- An address with an authority; the text starts behind the slashes. -/
def ofAuthority? (scheme cs : List Char) : Option Url :=
  let special := isSpecial scheme
  let rest := cs.dropWhile fun c => !endsAuthority special c
  (authority? scheme (cs.takeWhile fun c => !endsAuthority special c) rest.isEmpty).map fun u =>
    u.withPath special rest

/-- An address without authority. -/
def bare (scheme : List Char) (host : Option (List Char)) : Url :=
  ⟨scheme, [], [], host, none, .segments [], none⟩

/-- The host of a file: a drive letter is none, and the machine itself is not named. -/
def fileHost? (cs : List Char) : Option (List Char) :=
  if cs.isEmpty then some []
  else (Host.normalize? true cs).map fun host => if host = "localhost".toList then [] else host

/-- The text is a drive letter. -/
def isDrive (cs : List Char) : Bool :=
  match cs with
  | [letter, mark] => isLetter letter && (mark = ':' || mark = '|')
  | _ => false

/-- An address of a file; the text starts behind the colon. -/
def ofFile? (scheme cs : List Char) : Option Url :=
  let isSlash (c : Char) : Bool := c = '/' || c = '\\'
  match cs with
  | a :: b :: rest =>
    if isSlash a && isSlash b then
      let host := rest.takeWhile fun c => !endsAuthority true c
      if isDrive host then some ((bare scheme (some [])).withPath true ('/' :: rest))
      else
        (fileHost? host).map fun h =>
          (bare scheme (some h)).withPath true (rest.dropWhile fun c => !endsAuthority true c)
    else some ((bare scheme (some [])).withPath true cs)
  | _ => some ((bare scheme (some [])).withPath true cs)

/-- The address of a text. -/
def ofText? (s : String) : Option Url := do
  let (scheme, rest) ← scheme? (cleaned s)
  if isFile scheme then ofFile? scheme rest
  else if isSpecial scheme then ofAuthority? scheme (rest.dropWhile fun c => c = '/' || c = '\\')
  else
    match rest with
    | '/' :: '/' :: behind => ofAuthority? scheme behind
    | '/' :: _ => some ((bare scheme none).withPath false rest)
    | _ =>
      let path := rest.takeWhile fun c => c ≠ '?' && c ≠ '#'
      let text := Percent.encode Percent.isControlOrWide (String.ofList path)
      let query := queryOf false ((rest.dropWhile fun c => c ≠ '?' && c ≠ '#').takeWhile (· ≠ '#'))
      some { bare scheme none with path := .plain text, query }

/-! ## Writing -/

/-- The user and the password before a host. -/
def userText (u : Url) : List Char :=
  if u.user.isEmpty && u.password.isEmpty then []
  else u.user ++ (if u.password.isEmpty then [] else ':' :: u.password) ++ ['@']

/-- The authority behind two slashes. -/
def authorityText (u : Url) : List Char :=
  match u.host with
  | some host =>
    '/' :: '/' :: (u.userText ++ host ++ (match u.port with
      | some n => ':' :: (toString n).toList
      | none => []))
  | none => []

/-- The path as it is sent. Without a host, two slashes at its start are kept apart from the scheme
by a dot. -/
def pathText (u : Url) : List Char :=
  match u.path with
  | .plain text => text
  | .segments names =>
    let text := names.flatMap fun name => '/' :: name
    if u.host.isNone && ['/', '/'].isPrefixOf text then '/' :: '.' :: text else text

/-- The address without its fragment. -/
def text (u : Url) : String :=
  String.ofList (u.scheme ++ ':' :: (u.authorityText ++ u.pathText ++ (match u.query with
    | some q => '?' :: q
    | none => [])))

/-- What is asked for at the address: the path and the query. -/
def target (u : Url) : String :=
  String.ofList (u.pathText ++ (match u.query with
    | some q => '?' :: q
    | none => []))

/-! ## Appending -/

/-- The bytes that are escaped in an appended segment. -/
def escapedInSegment (special : Bool) : UInt8 → Bool :=
  Percent.escapes (if special then " \"#<>?`\x7b\x7d/%\\" else " \"#<>?`\x7b\x7d/%")

/-- What is left of a name: its tabs and line breaks are dropped. -/
def keptName (name : String) : String :=
  String.ofList (name.toList.filter fun c => c ≠ '\t' && c ≠ '\n' && c ≠ '\r')

/-- A text as a segment. -/
def segmentOf (special : Bool) (text : String) : List Char :=
  Percent.encode (escapedInSegment special) text

/-- A name is appended to a path. One dot or two are passed over as a name; if they are what is left
of a longer one, they are read as a step in the path: one dot leaves an empty segment, two take the
segment before them away and leave an empty one. -/
def appendOne (special : Bool) (segments : List (List Char)) (name : String) : List (List Char) :=
  if name = "." || name = ".." then segments
  else
    -- a path of nothing but its first slash has one segment, whose place the name takes
    let before := if segments = [[]] then [] else segments
    if keptName name = "." then before ++ [[]]
    else if keptName name = ".." then before.dropLast ++ [[]]
    else before ++ [segmentOf special (keptName name)]

/-- Names are appended to a path, one after another. -/
def append (special : Bool) (segments : List (List Char)) (names : List String) :
    List (List Char) :=
  names.foldl (appendOne special) segments

/-- Names appended to the path, in the place of an empty last segment. A path that is not cut into
segments takes none. -/
def push? (u : Url) (names : List String) : Option Url :=
  match u.path with
  | .plain _ => none
  | .segments segments =>
    let kept := if 1 < segments.length && segments.getLast? = some [] then segments.dropLast
      else segments
    some { u with path := .segments (append (isSpecial u.scheme) kept names) }

end Url

end Telemetry

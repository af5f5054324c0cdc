import Telemetry.Text

/-!
# Messages of HTTP

Requests as they reach the server, and its responses.
-/

namespace Telemetry

/-! ## Requests

A request as it reaches the server: a method, a target, headers with values of bytes, and a body.
The names of headers are compared without regard to case.
-/

/-- The method of a request. -/
inductive Method
  | get
  | head
  | post
  | options
  /-- Any other method. -/
  | other (name : String)
deriving DecidableEq

/-- A request. -/
structure Request where
  method : Method
  target : String
  headers : List (String × List UInt8)
  body : ByteArray

namespace Method

/-- The method of a name. Names are compared with regard to case. -/
def ofName : String → Method
  | "GET" => get
  | "HEAD" => head
  | "POST" => post
  | "OPTIONS" => options
  | name => other name

end Method

namespace Request

/-- The values of a header, whose name is given in lower case. -/
def headerValues (r : Request) (name : String) : List (List UInt8) :=
  (r.headers.filter fun h => String.ofList (h.1.toList.map Char.toLower) = name).map (·.2)

/-- The first value of a header. -/
def header? (r : Request) (name : String) : Option (List UInt8) := (r.headerValues name).head?

/-- The text of a header value that holds visible ASCII characters, blanks and tabs only. -/
def visibleText? (value : List UInt8) : Option String :=
  if value.all fun b => b == 9 || (32 ≤ b && b ≤ 126) then
    some (String.ofList (value.map fun b => Char.ofNat b.toNat))
  else none

/-- The characters in front of the query and the fragment. -/
def beforeQuery (target : List Char) : List Char := target.takeWhile fun c => c ≠ '?' && c ≠ '#'

/-- The path of a target. A target that does not start with a slash may be absolute; its path
follows the host. -/
def pathOf (target : String) : List Char :=
  match target.toList with
  | '/' :: rest => '/' :: beforeQuery rest
  | cs =>
    match Text.cutAt "://".toList (beforeQuery cs) with
    | some (_, rest) =>
      match rest.dropWhile (· ≠ '/') with
      | [] => ['/']
      | path => path
    | none => beforeQuery cs

/-- The path that is asked for. -/
def path (r : Request) : List Char := pathOf r.target

end Request

/-! ## Responses

An answer of the server: a status, contents, and what the headers say besides. `Response.headers`
lists the headers with their values; those that allow requests from other origins are the same in
every answer.
-/

/-- The contents of an answer. -/
inductive Content
  | nothing
  | text (s : String)
  | json (s : String)
deriving DecidableEq

/-- An answer. -/
structure Response where
  status : Nat
  content : Content
  /-- The methods of the path, where the asked one is not among them. -/
  allow : Option String
  /-- The signature of the contents. -/
  signature : Option String
  /-- The answer to a preflight request, which allows every method and header. -/
  preflight : Bool
  /-- The contents are described by the headers, but not sent. -/
  headersOnly : Bool
deriving DecidableEq

namespace Content

/-- The bytes of contents. -/
def bytes : Content → ByteArray
  | nothing => ByteArray.empty
  | text s => s.toUTF8
  | json s => s.toUTF8

/-- The media type of contents. -/
def mediaType : Content → Option String
  | nothing => none
  | text _ => some "text/plain; charset=utf-8"
  | json _ => some "application/json"

end Content

namespace Response

/-- An answer with contents. -/
def of (status : Nat) (content : Content) : Response :=
  ⟨status, content, none, none, false, false⟩

/-- The status says that the request was carried out. -/
def isSuccess (r : Response) : Bool := 200 ≤ r.status && r.status < 300

/-- The bytes that are sent. -/
def body (r : Response) : ByteArray := if r.headersOnly then ByteArray.empty else r.content.bytes

/-- A header that may be absent. -/
def optional (name : String) (value : Option String) : List (String × String) :=
  (value.map fun v => (name, v)).toList

/-- The headers, their names in lower case. -/
def headers (r : Response) : List (String × String) :=
  optional "content-type" r.content.mediaType
  ++ [("content-length", toString r.content.bytes.size),
    ("vary", "origin, access-control-request-method, access-control-request-headers"),
    ("access-control-allow-origin", "*")]
  ++ (if r.preflight then
      [("access-control-allow-methods", "*"), ("access-control-allow-headers", "*")]
    else [])
  ++ optional "allow" r.allow
  ++ optional "hashsha256" r.signature

/-- The value of a header, whose name is given in lower case. -/
def header? (r : Response) (name : String) : Option String :=
  (r.headers.find? fun h => h.1 = name).map (·.2)

end Response

end Telemetry

import Telemetry.Server.Api
import Telemetry.Signature

/-!
# The server over HTTP

`Http.serve` takes a request to its answer. Requests that ask which methods and headers are allowed
are answered before anything else. If the server has a key, the body of every other request is then
checked against its signature header, whatever the path and the method, and JSON answers are signed.
Only after that it matters whether the path is known and has the method.

The id under which a request is logged is chosen apart from all this.
-/

namespace Telemetry

/-! ## Trace ids

Every answer carries an id under which its request is logged. A request may bring one along: a short
word of ASCII letters, digits and hyphens. Any other request gets a fresh one.
-/

namespace TraceId

/-- The name of the header that carries a trace id, in lower case. -/
def header : String := "x-trace-id"

/-- The longest accepted id. -/
def maxLength : Nat := 64

/-- The byte is an ASCII letter, an ASCII digit or a hyphen. -/
def isIdByte (b : UInt8) : Bool :=
  (48 ≤ b && b ≤ 57) || (65 ≤ b && b ≤ 90) || (97 ≤ b && b ≤ 122) || b == 45

/-- The bytes of a header value are an acceptable id. -/
def isAccepted (value : List UInt8) : Bool :=
  !value.isEmpty && value.length ≤ maxLength && value.all isIdByte

/-- The id that a request brings along: its first trace header, if that is acceptable. Later headers
do not count. -/
def given? (values : List (List UInt8)) : Option String :=
  match values with
  | value :: _ =>
    if isAccepted value then some (String.ofList (value.map fun b => Char.ofNat b.toNat)) else none
  | [] => none

/-- The id of a request, where `fresh` is a newly made one. -/
def choose (fresh : String) (values : List (List UInt8)) : String := (given? values).getD fresh

end TraceId

/-! ## Serving -/

namespace Http

/-- The key of a server; an empty one is none. -/
def effectiveKey (key : Option String) : Option String := key.filter (· ≠ "")

/-- The most bytes of a body that is checked. -/
def signedBodyLimit : Nat := 4 * 1024 * 1024

/-- The value of a signature header verifies against a body; one that is no visible text verifies
against none. -/
def verifies (key : String) (body : ByteArray) (value : List UInt8) : Bool :=
  (Request.visibleText? value).any (Signature.verify key body)

/-- The verdict of a server with a key on a request: the text of the refusal, if it is refused. A
request without a signature passes; of several signatures the first counts. -/
def refusal? (key : String) (r : Request) : Option String :=
  if signedBodyLimit < r.body.size then some "unreadable request body"
  else
    match r.header? Signature.header with
    | none => none
    | some value =>
      match Request.visibleText? value with
      | some text => if Signature.verify key r.body text then none else some "hash mismatch"
      | none => some "hash mismatch"

/-- The check of a server with or without a key lets a request pass. -/
def admits (key : Option String) (r : Request) : Bool :=
  ((effectiveKey key).bind fun key => refusal? key r).isNone

/-- JSON contents are signed with the key. -/
def signed (key : String) (response : Response) : Response :=
  match response.content with
  | .json s => { response with signature := some (Signature.sign key s.toUTF8) }
  | _ => response

/-- What a server with or without a key makes of a request; `inner` is what happens if it is not
refused. -/
def guarded {σ : Type} (key : Option String) (r : Request) (s : σ) (inner : Unit → Response × σ) :
    Response × σ :=
  match effectiveKey key with
  | none => inner ()
  | some key =>
    match refusal? key r with
    | some text => (.of 400 (.text text), s)
    | none =>
      let (response, next) := inner ()
      (signed key response, next)

/-- The answer to a question for what is allowed. -/
def preflight (resource : Option Resource) : Response :=
  { Response.of 200 .nothing with preflight := true, allow := resource.map Resource.allowed }

/-- The outcome of a request as an answer. -/
def respond : Except ApiError Content → Response
  | .ok content => .of 200 content
  | .error e => .of e.status (.text e.text)

variable {σ : Type} [Store σ]

/-- A request for a known resource. -/
def serveResource (key : Option String) (resource : Resource) (r : Request) (s : σ) :
    Response × σ :=
  if resource.allows r.method then
    let (response, next) := guarded key r s fun () =>
      (let (outcome, next) := Api.answer resource r.body s; (respond outcome, next))
    ({ response with headersOnly := r.method = .head }, next)
  else
    let (response, next) := guarded key r s fun () => (.of 405 .nothing, s)
    ({ response with allow := some resource.allowed }, next)

/-- The answer to a request, and the store afterwards. -/
def serve (key : Option String) (r : Request) (s : σ) : Response × σ :=
  let resource := Resource.ofPath? r.path
  if r.method = .options then (preflight resource, s)
  else
    match resource with
    | some resource => serveResource key resource r s
    | none => guarded key r s fun () => (.of 404 .nothing, s)

end Http

end Telemetry

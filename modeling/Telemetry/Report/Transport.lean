import Telemetry.Text
import Telemetry.Text.Quoted

/-!
# What the transports have in common

A report goes to a server that is named by an address, over HTTP or as a call of a service, and both
ways fail with the same errors.
-/

namespace Telemetry

/-! ## Addresses of servers

A server is named by a host and a port, or by a full address. `Address.base` makes a full address of
either.
-/

namespace Address

/-- What separates a scheme from the rest of an address. -/
def schemeMark : List Char := [':', '/', '/']

/-- The text names its scheme. -/
def namesScheme (cs : List Char) : Bool := (Text.cutAt schemeMark cs).isSome

/-- A text without the slashes at its end. -/
def withoutSlashes (cs : List Char) : List Char := (cs.reverse.dropWhile (· = '/')).reverse

/-- The full address of a server: without blanks at its ends nor slashes at its end, and with the
scheme `http` if it names none. -/
def base (address : String) : String :=
  let cs := withoutSlashes (Text.trim address).toList
  String.ofList (if namesScheme cs then cs else "http://".toList ++ cs)

end Address

/-! ## What a report may run into

The failures of a report. An address that is not usable fails before anything is sent; the others
are failures of single metrics.
-/

/-- How a call to a service ends when it does not succeed. -/
inductive RpcCode
  | cancelled
  | unknown
  | invalidArgument
  | deadlineExceeded
  | notFound
  | alreadyExists
  | permissionDenied
  | resourceExhausted
  | failedPrecondition
  | aborted
  | outOfRange
  | unimplemented
  | internal
  | unavailable
  | dataLoss
  | unauthenticated
deriving DecidableEq

/-- Why a metric could not be published. -/
inductive ReportError
  /-- The address names no server. -/
  | invalidAddress (address : String)
  /-- A request could not be sent, or nobody answered it. -/
  | http
  /-- The server answered a request with a status that is no success. -/
  | status (code : Nat) (body : String)
  /-- There is no connection to a service. -/
  | connect
  /-- A call to a service failed. -/
  | rpc (code : RpcCode) (message : String)
deriving DecidableEq

namespace RpcCode

/-- The name of a code. -/
def name : RpcCode → String
  | cancelled => "Cancelled"
  | unknown => "Unknown"
  | invalidArgument => "InvalidArgument"
  | deadlineExceeded => "DeadlineExceeded"
  | notFound => "NotFound"
  | alreadyExists => "AlreadyExists"
  | permissionDenied => "PermissionDenied"
  | resourceExhausted => "ResourceExhausted"
  | failedPrecondition => "FailedPrecondition"
  | aborted => "Aborted"
  | outOfRange => "OutOfRange"
  | unimplemented => "Unimplemented"
  | internal => "Internal"
  | unavailable => "Unavailable"
  | dataLoss => "DataLoss"
  | unauthenticated => "Unauthenticated"

end RpcCode

namespace ReportError

/-- The wording of a report error. -/
def message : ReportError → String
  | invalidAddress address => "invalid server address: " ++ Quoted.encode address
  | http => "HTTP request failed"
  | status code body => "server answered " ++ toString code ++ ": " ++ body
  | connect => "gRPC connect failed"
  | rpc _ message => "gRPC call failed: " ++ message

end ReportError

end Telemetry

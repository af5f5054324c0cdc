import Telemetry.Metric
import Telemetry.Wire.Field

/-!
# The binary messages

The messages that agents and server exchange. A field that is given several times counts as it was
given last, unknown fields are passed over, and a field of the wrong form spoils the message. Fields
with their default value are not written, except those that can be absent: they are written whenever
they are present.

`WireMetric.toMetric` takes a message to a metric that is accepted, `WireMetric.ofMetric` writes a
metric as a message.
-/

namespace Telemetry

/-- A metric as a message: the kind is any number. -/
structure WireMetric where
  id : String
  kind : Int
  delta : Option Int64
  value : Option Binary64
deriving DecidableEq, Inhabited

/-- A name and the number of a kind. -/
structure WireName where
  id : String
  kind : Int
deriving DecidableEq, Inhabited

namespace Wire

/-- The text of a payload. -/
def asText? : Payload → Option String
  | .bytes content => String.fromUTF8? ⟨content.toArray⟩
  | _ => none

/-- The signed integer in the low 32 bits of a payload. -/
def asInt32? : Payload → Option Int
  | .word n => some (Int.bmod n UInt32.size)
  | _ => none

/-- The signed integer in the 64 bits of a payload. -/
def asInt64? : Payload → Option Int64
  | .word n => some (Int64.ofInt n)
  | _ => none

/-- The floating-point number of a payload. -/
def asBinary64? : Payload → Option Binary64
  | .fixed64 n => some ⟨UInt64.ofNat n⟩
  | _ => none

/-- A signed integer as a payload, in two's complement of 64 bits. -/
def ofInt (n : Int) : Payload := .word (n % (UInt64.size : Int)).toNat

/-- A text field, unless it is empty. -/
def textField (number : Nat) (s : String) : List Field :=
  if s = "" then [] else [⟨number, .bytes s.toUTF8.data.toList⟩]

/-- A number field, unless it is zero. -/
def numberField (number : Nat) (n : Int) : List Field :=
  if n = 0 then [] else [⟨number, ofInt n⟩]

end Wire

open Wire

namespace WireMetric

/-- Nothing is given. -/
def empty : WireMetric := ⟨"", 0, none, none⟩

/-- One field taken in. -/
def take? (m : WireMetric) (f : Field) : Option WireMetric :=
  match f.number with
  | 1 => (asText? f.payload).map fun id => { m with id }
  | 2 => (asInt32? f.payload).map fun kind => { m with kind }
  | 3 => (asInt64? f.payload).map fun delta => { m with delta := some delta }
  | 4 => (asBinary64? f.payload).map fun value => { m with value := some value }
  | _ => some m

/-- The metric of a message that lies `depth` messages deep. -/
def decodeAt? (depth : Nat) (bytes : List UInt8) : Option WireMetric := do
  (← decode? depth bytes).foldlM take? empty

/-- The metric of a message. -/
def decode? (bytes : List UInt8) : Option WireMetric := decodeAt? 0 bytes

/-- The bytes of a metric. -/
def encode (m : WireMetric) : List UInt8 :=
  Wire.encode <|
    textField 1 m.id ++ numberField 2 m.kind
      ++ (m.delta.map fun delta => (⟨3, ofInt delta.toInt⟩ : Field)).toList
      ++ (m.value.map fun value => (⟨4, .fixed64 value.bits.toNat⟩ : Field)).toList

/-- A metric as a message. -/
def ofMetric (m : Metric) : WireMetric := ⟨m.id, m.kind.number, m.delta, m.value⟩

/-- The metric of a message: first the kind is looked at, then the metric is validated. -/
def toMetric (w : WireMetric) : Except MetricError Metric := do
  let metric : Metric := ⟨w.id, ← Kind.ofNumber w.kind, w.delta, w.value⟩
  metric.validate
  return metric

end WireMetric

namespace WireName

/-- One field taken in. -/
def take? (m : WireName) (f : Field) : Option WireName :=
  match f.number with
  | 1 => (asText? f.payload).map fun id => { m with id }
  | 2 => (asInt32? f.payload).map fun kind => { m with kind }
  | _ => some m

/-- The name of a message. -/
def decode? (bytes : List UInt8) : Option WireName :=
  do (← Wire.decode? 0 bytes).foldlM take? ⟨"", 0⟩

/-- The bytes of a name. -/
def encode (m : WireName) : List UInt8 := Wire.encode (textField 1 m.id ++ numberField 2 m.kind)

end WireName

namespace WireList

/-- The metric of one entry of a list. -/
def entry? (f : Field) : Option WireMetric :=
  match f.payload with
  | .bytes content => WireMetric.decodeAt? 1 content
  | _ => none

/-- The metrics of a message. -/
def decode? (bytes : List UInt8) : Option (List WireMetric) := do
  ((← Wire.decode? 0 bytes).filter fun f => f.number = 1).mapM entry?

/-- The bytes of a list of metrics. -/
def encode (ms : List WireMetric) : List UInt8 :=
  Wire.encode (ms.map fun m => ⟨1, .bytes m.encode⟩)

end WireList

namespace WireReply

/-- One field taken in. -/
def take? (message : String) (f : Field) : Option String :=
  match f.number with
  | 1 => asText? f.payload
  | _ => some message

/-- The text of a reply. -/
def decode? (bytes : List UInt8) : Option String := do (← Wire.decode? 0 bytes).foldlM take? ""

/-- The bytes of a reply. -/
def encode (message : String) : List UInt8 := Wire.encode (textField 1 message)

end WireReply

namespace WireNothing

/-- The message without fields of its own. -/
def decode? (bytes : List UInt8) : Option Unit := (Wire.decode? 0 bytes).map fun _ => ()

/-- The bytes of the message without fields. -/
def encode : List UInt8 := []

end WireNothing

end Telemetry

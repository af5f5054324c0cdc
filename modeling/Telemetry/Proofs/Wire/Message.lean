import Telemetry.Proofs.Json.Text
import Telemetry.Proofs.Metric
import Telemetry.Proofs.Wire.Field
import Telemetry.Wire.Message

/-!
# Metrics read back from their messages

A message of a metric is read back from its bytes, alone (`WireMetric.decodeAt?_encode`) and in a
list (`WireList.decode?_encode`), whatever is given in it: a number that is zero and a number that
is absent are told apart. A message is a metric exactly if it was made of an accepted one
(`WireMetric.toMetric_eq_ok_iff`). So metrics go over the wire bit for bit
(`metrics_cross_the_wire`).

The only condition is on the length of names, which has to have a place on the wire; no machine of
64 bits holds a longer one.
-/

namespace Telemetry

namespace Wire

variable {number : Nat} {s : String} {k : Int}

/-! ## Payloads -/

/-- A text is read from its bytes as it is. -/
theorem asText?_toUTF8 (s : String) : asText? (.bytes s.toUTF8.data.toList) = some s := by
  rw [asText?, Json.toList_toUTF8, Json.fromUTF8?_bytesOf, String.ofList_toList]

/-- A word holds its integer up to a multiple of two to the power 64. -/
theorem toNat_emod_size (k : Int) :
    (((k % (UInt64.size : Int)).toNat : Nat) : Int) = k % (UInt64.size : Int) :=
  Int.toNat_of_nonneg (Int.emod_nonneg k (by decide))

/-- An integer of 64 bits is read back from its two's complement. -/
theorem asInt64?_ofInt (n : Int64) : asInt64? (ofInt n.toInt) = some n := by
  rw [ofInt, asInt64?, toNat_emod_size]
  refine congrArg some (Int64.toInt_inj.1 ?_)
  rw [Int64.toInt_ofInt]
  exact (Int.emod_bmod _ _).trans (Int64.toInt_bmod n)

/-- The integer has 32 bits. -/
def FitsInt32 (k : Int) : Prop := -2147483648 ≤ k ∧ k < 2147483648

instance (k : Int) : Decidable (FitsInt32 k) := inferInstanceAs (Decidable (_ ∧ _))

/-- An integer of 32 bits is read back from its two's complement of 64 bits. -/
theorem asInt32?_ofInt (h : FitsInt32 k) : asInt32? (ofInt k) = some k := by
  obtain ⟨hlow, hhigh⟩ := h
  rw [ofInt, asInt32?, toNat_emod_size]
  refine congrArg some ?_
  simp only [Int.bmod, UInt64.size, UInt32.size]
  omega

/-- A number is read from its bits as it is. -/
theorem asBinary64?_fixed64 (x : Binary64) : asBinary64? (.fixed64 x.bits.toNat) = some x := by
  rw [asBinary64?, UInt64.ofNat_toNat]

/-- Every integer fits into a word. -/
theorem fits_ofInt (k : Int) : (ofInt k).Fits := by
  have hlt : k % (UInt64.size : Int) < UInt64.size := Int.emod_lt_of_pos k (by decide)
  have hnat := toNat_emod_size k
  show (k % (UInt64.size : Int)).toNat < UInt64.size
  omega

/-- The tag of a field with a small number takes one byte. -/
theorem fits_of_number_le {payload : Payload} (hpositive : 0 < number) (hsmall : number ≤ 4)
    (h : payload.Fits) : Field.Fits ⟨number, payload⟩ := by
  have hsize : UInt32.size = 4294967296 := rfl
  refine ⟨hpositive, ?_, h⟩
  show 8 * number + 7 < UInt32.size
  omega

end Wire

open Wire

namespace WireMetric

variable {w : WireMetric} {m : Metric} {depth : Nat}

/-- The fields of a message. -/
def fields (w : WireMetric) : List Field :=
  textField 1 w.id ++ numberField 2 w.kind
    ++ (w.delta.map fun delta => (⟨3, ofInt delta.toInt⟩ : Field)).toList
    ++ (w.value.map fun value => (⟨4, .fixed64 value.bits.toNat⟩ : Field)).toList

/-- The name and the number of the kind have a place on the wire. -/
structure Fits (w : WireMetric) : Prop where
  id : w.id.utf8ByteSize < 2 ^ 63
  kind : FitsInt32 w.kind

/-! ## Fields -/

/-- The fields of a message are at most four: the name, the kind, the delta and the value. -/
theorem mem_fields {f : Field} (h : f ∈ w.fields) :
    f = ⟨1, .bytes w.id.toUTF8.data.toList⟩ ∨ f = ⟨2, ofInt w.kind⟩ ∨
      (∃ delta, w.delta = some delta ∧ f = ⟨3, ofInt delta.toInt⟩) ∨
      ∃ value, w.value = some value ∧ f = ⟨4, .fixed64 value.bits.toNat⟩ := by
  simp only [fields, List.mem_append, textField, numberField, Option.mem_toList,
    Option.map_eq_some_iff] at h
  obtain ((hid | hkind) | ⟨delta, hdelta, rfl⟩) | ⟨value, hvalue, rfl⟩ := h
  · split at hid
    · cases hid
    · exact .inl (List.mem_singleton.1 hid)
  · split at hkind
    · cases hkind
    · exact .inr (.inl (List.mem_singleton.1 hkind))
  · exact .inr (.inr (.inl ⟨delta, hdelta, rfl⟩))
  · exact .inr (.inr (.inr ⟨value, hvalue, rfl⟩))

/-- The fields of a message that fits can be encoded. -/
theorem fits_of_mem_fields (h : w.Fits) {f : Field} (hf : f ∈ w.fields) : f.Fits := by
  have hsize : UInt64.size = 2 ^ 64 := by decide
  obtain rfl | rfl | ⟨delta, -, rfl⟩ | ⟨value, -, rfl⟩ := mem_fields hf
  · have hid : w.id.toUTF8.data.toList.length < 2 ^ 63 := h.id
    have hfits : w.id.toUTF8.data.toList.length < UInt64.size := by omega
    exact fits_of_number_le (by decide) (by decide) hfits
  · exact fits_of_number_le (by decide) (by decide) (fits_ofInt w.kind)
  · exact fits_of_number_le (by decide) (by decide) (fits_ofInt delta.toInt)
  · exact fits_of_number_le (by decide) (by decide) value.bits.toNat_lt

theorem take?_id (w : WireMetric) (s : String) :
    take? w ⟨1, .bytes s.toUTF8.data.toList⟩ = some { w with id := s } := by
  simp only [take?, asText?_toUTF8, Option.map_some]

theorem take?_kind (w : WireMetric) {k : Int} (h : FitsInt32 k) :
    take? w ⟨2, ofInt k⟩ = some { w with kind := k } := by
  simp only [take?, asInt32?_ofInt h, Option.map_some]

theorem take?_delta (w : WireMetric) (n : Int64) :
    take? w ⟨3, ofInt n.toInt⟩ = some { w with delta := some n } := by
  simp only [take?, asInt64?_ofInt, Option.map_some]

theorem take?_value (w : WireMetric) (x : Binary64) :
    take? w ⟨4, .fixed64 x.bits.toNat⟩ = some { w with value := some x } := by
  simp only [take?, asBinary64?_fixed64, Option.map_some]

/-- What is not written is what nothing stands for: the fields put together are the message. -/
theorem foldlM_fields (h : FitsInt32 w.kind) : w.fields.foldlM take? empty = some w := by
  obtain ⟨id, kind, delta, value⟩ := w
  -- A field that is left out has the value that the reader starts from.
  have hid : (textField 1 id).foldlM take? empty = some { empty with id } := by
    unfold textField
    split
    · next hid =>
      rw [hid]
      rfl
    · simp only [List.foldlM_cons, List.foldlM_nil, take?_id]
      rfl
  have hkind : ∀ w : WireMetric, w.kind = 0 →
      (numberField 2 kind).foldlM take? w = some { w with kind } := by
    rintro ⟨_, _, _, _⟩ rfl
    unfold numberField
    split
    · next hkind =>
      rw [hkind]
      rfl
    · simp only [List.foldlM_cons, List.foldlM_nil, take?_kind _ h]
      rfl
  simp only [fields, List.foldlM_append, hid, Option.bind_eq_bind, Option.bind_some,
    hkind { empty with id } rfl]
  cases delta <;> cases value <;>
    simp only [Option.map_some, Option.map_none, Option.toList_some, Option.toList_none,
      List.foldlM_cons, List.foldlM_nil, take?_delta, take?_value, Option.bind_eq_bind,
      Option.bind_some, Option.pure_def] <;> rfl

/-- **A message is read back from its bytes.** -/
theorem decodeAt?_encode (h : w.Fits) (hdepth : depth < groupLimit) :
    decodeAt? depth w.encode = some w := by
  have hdecode : Wire.decode? depth w.encode = some w.fields :=
    decode?_encode hdepth fun f hf => fits_of_mem_fields h hf
  rw [decodeAt?, hdecode]
  exact foldlM_fields h.kind

/-- The message of a metric can be an entry of a list. -/
theorem length_encode_lt (h : w.Fits) : w.encode.length < UInt64.size := by
  have hsize : UInt64.size = 2 ^ 64 := by decide
  have hid : w.id.toUTF8.data.toList.length < 2 ^ 63 := h.id
  have hle := length_encode_fields_le fun f hf => fits_of_mem_fields h hf
  have hcount : w.fields.length ≤ 4 ∧ (w.fields.map fun f => f.payload.contentLength).sum
      ≤ w.id.toUTF8.data.toList.length := by
    unfold fields textField numberField
    cases w.delta <;> cases w.value <;> split <;> split <;>
      simp [Payload.contentLength, ofInt]
  show (Wire.encode w.fields).length < UInt64.size
  omega

/-! ## Metrics -/

/-- A number stands for one kind at most. -/
theorem ofNumber_eq_ok_iff {n : Int} {kind : Kind} :
    Kind.ofNumber n = .ok kind ↔ n = kind.number := by
  constructor
  · intro h
    unfold Kind.ofNumber at h
    split at h
    · next hn =>
      cases h
      exact hn
    · split at h
      · next hn =>
        cases h
        exact hn
      · cases h
  · rintro rfl
    exact Kind.ofNumber_number kind

/-- A message that was made of a metric is that metric, if it is accepted. -/
theorem toMetric_ofMetric (m : Metric) : (ofMetric m).toMetric = m.validate.map fun _ => m := by
  have hmetric : (ofMetric m).toMetric = m.validate.bind fun _ => .ok m := by
    simp only [toMetric, ofMetric, Kind.ofNumber_number]
    rfl
  rw [hmetric]
  cases m.validate <;> rfl

/-- Messages that were made of metrics are those metrics, unless one of them is refused; then the
first such one is reported. -/
theorem mapM_toMetric_ofMetric (metrics : List Metric) :
    (metrics.map ofMetric).mapM toMetric = (validateAll metrics).map fun _ => metrics := by
  induction metrics with
  | nil => rfl
  | cons m rest ih =>
    rw [List.map_cons, List.mapM_cons, toMetric_ofMetric, ih, validateAll_cons]
    cases m.validate with
    | error e => rfl
    | ok u => cases validateAll rest <;> rfl

/-- A message is a metric exactly if it was made of an accepted one. -/
theorem toMetric_eq_ok_iff : w.toMetric = .ok m ↔ m.validate = .ok () ∧ w = ofMetric m := by
  constructor
  · intro h
    cases hkind : Kind.ofNumber w.kind with
    | error e =>
      rw [toMetric, hkind] at h
      cases h
    | ok kind =>
      -- The kind is known, so the message is that of the metric with the same fields.
      have hw : w = ofMetric ⟨w.id, kind, w.delta, w.value⟩ := by
        rw [ofMetric, ← ofNumber_eq_ok_iff.1 hkind]
      rw [hw, toMetric_ofMetric] at h
      cases hvalid : Metric.validate ⟨w.id, kind, w.delta, w.value⟩ with
      | error e =>
        rw [hvalid] at h
        cases h
      | ok u =>
        rw [hvalid] at h
        cases h
        exact ⟨hvalid, hw⟩
  · rintro ⟨hvalid, rfl⟩
    rw [toMetric_ofMetric, hvalid]
    rfl

/-- A message gives a name, a kind, exactly the number of that kind, and no value that is not
finite. -/
structure IsComplete (w : WireMetric) : Prop where
  named : w.id ≠ ""
  number : w.kind = 1 ∧ w.delta.isSome = true ∧ w.value = none ∨
    w.kind = 2 ∧ w.delta = none ∧ ∃ x : Binary64, w.value = some x ∧ x.isFinite = true

/-- The complete messages are those of accepted metrics. -/
theorem isComplete_iff : w.IsComplete ↔ ∃ m, m.validate = .ok () ∧ w = ofMetric m := by
  obtain ⟨id, kind, delta, value⟩ := w
  constructor
  · rintro ⟨hid, ⟨rfl, hdelta, rfl⟩ | ⟨rfl, rfl, x, rfl, hx⟩⟩
    · obtain ⟨n, rfl⟩ := Option.isSome_iff_exists.1 hdelta
      exact ⟨Metric.counter id n, Metric.validate_counter hid n, rfl⟩
    · exact ⟨Metric.gauge id x, Metric.validate_gauge hid hx, rfl⟩
  · rintro ⟨m, hvalid, hm⟩
    obtain ⟨hid, ⟨n, hcounter⟩ | ⟨x, hx, hgauge⟩⟩ := Metric.validate_eq_ok_iff.1 hvalid
    · rw [hm, hcounter]
      exact ⟨hid, .inl ⟨rfl, rfl, rfl⟩⟩
    · rw [hm, hgauge]
      exact ⟨hid, .inr ⟨rfl, rfl, x, rfl, hx⟩⟩

/-- Every metric can be sent, if its name is not longer than a text can be. -/
theorem fits_ofMetric (h : m.id.utf8ByteSize < 2 ^ 63) : (ofMetric m).Fits := by
  refine ⟨h, ?_⟩
  show FitsInt32 m.kind.number
  cases m.kind <;> decide

end WireMetric

namespace WireList

variable {ws : List WireMetric}

/-- The entry of a list that a message is. -/
def entryOf (w : WireMetric) : Field := ⟨1, .bytes w.encode⟩

/-- Messages in a list are read one by one. -/
theorem mapM_entry? (h : ∀ w ∈ ws, w.Fits) : (ws.map entryOf).mapM entry? = some ws := by
  induction ws with
  | nil => rfl
  | cons w rest ih =>
    obtain ⟨hw, hrest⟩ := List.forall_mem_cons.1 h
    have hentry : entry? (entryOf w) = some w := WireMetric.decodeAt?_encode hw (by decide)
    rw [List.map_cons, List.mapM_cons, hentry, ih hrest]
    rfl

/-- **A list of messages is read back from its bytes.** -/
theorem decode?_encode (h : ∀ w ∈ ws, w.Fits) : decode? (encode ws) = some ws := by
  have hfits : ∀ f ∈ ws.map entryOf, f.Fits := by
    intro f hf
    obtain ⟨w, hw, rfl⟩ := List.mem_map.1 hf
    exact fits_of_number_le (by decide) (by decide) (WireMetric.length_encode_lt (h w hw))
  have hdecode : Wire.decode? 0 (encode ws) = some (ws.map entryOf) :=
    Wire.decode?_encode (by decide) hfits
  have hnumber : (ws.map entryOf).filter (fun f => f.number = 1) = ws.map entryOf := by
    rw [List.filter_map]
    exact congrArg _ (List.filter_eq_self.2 fun _ _ => rfl)
  rw [decode?, hdecode, Option.bind_eq_bind, Option.bind_some, hnumber]
  exact mapM_entry? h

end WireList

/-- The fields of an accepted metric: its name, its kind, and the number of that kind, also if it is
zero. -/
def Metric.wireFields (m : Metric) : List Field :=
  [⟨1, .bytes m.id.toUTF8.data.toList⟩, ⟨2, ofInt m.kind.number⟩,
    match m.kind with
    | .counter => ⟨3, ofInt (m.delta.getD 0).toInt⟩
    | .gauge => ⟨4, .fixed64 (m.value.getD Binary64.zero).bits.toNat⟩]

/-- A valid metric is sent with its name, its kind and the number of that kind. Its name is not
empty, so it is not left out. -/
theorem WireMetric.fields_ofMetric {m : Metric} (h : m.validate = .ok ()) :
    (ofMetric m).fields = m.wireFields := by
  obtain ⟨hid, hnumber⟩ := Metric.validate_eq_ok_iff.1 h
  have hname : textField 1 m.id = [⟨1, .bytes m.id.toUTF8.data.toList⟩] := if_neg hid
  show textField 1 m.id ++ _ ++ _ ++ _ = _
  rw [hname]
  -- A valid metric is a counter with a delta alone or a gauge with a value alone.
  obtain ⟨n, hm⟩ | ⟨x, -, hm⟩ := hnumber
  · rw [hm]
    rfl
  · rw [hm]
    rfl

/-- The name of a metric is one that a machine of 64 bits can hold. -/
def Metric.HasHeldName (m : Metric) : Prop := m.id.utf8ByteSize < 2 ^ 63

/-- **Metrics cross the wire bit for bit.** An accepted metric is written as its fields, is read
back from the bytes and is a metric again, the same one; so is a list of them, in its order. Of all
messages exactly the complete ones are metrics, and such a message is the one that its metric would
be written as. -/
theorem metrics_cross_the_wire :
    (∀ m : Metric, m.validate = .ok () → m.HasHeldName →
      Wire.decode? 0 (WireMetric.ofMetric m).encode = some m.wireFields ∧
      (WireMetric.decode? (WireMetric.ofMetric m).encode).map WireMetric.toMetric
        = some (.ok m)) ∧
    (∀ metrics : List Metric, (∀ m ∈ metrics, m.validate = .ok () ∧ m.HasHeldName) →
      (WireList.decode? (WireList.encode (metrics.map WireMetric.ofMetric))).map
        (fun ws => ws.mapM WireMetric.toMetric) = some (.ok metrics)) ∧
    (∀ w : WireMetric, (∃ m, w.toMetric = .ok m) ↔ w.IsComplete) ∧
    ∀ (w : WireMetric) m, w.toMetric = .ok m → WireMetric.ofMetric m = w := by
  refine ⟨fun m hvalid hname => ⟨?_, ?_⟩, fun metrics h => ?_, fun w => ?_, fun w m h => ?_⟩
  · rw [← WireMetric.fields_ofMetric hvalid]
    exact Wire.decode?_encode (by decide) fun f hf =>
      WireMetric.fits_of_mem_fields (WireMetric.fits_ofMetric hname) hf
  · have hread : WireMetric.decode? (WireMetric.ofMetric m).encode = some (WireMetric.ofMetric m) :=
      WireMetric.decodeAt?_encode (WireMetric.fits_ofMetric hname) (by decide)
    rw [hread, Option.map_some, WireMetric.toMetric_ofMetric, hvalid]
    rfl
  · have hfits : ∀ w ∈ metrics.map WireMetric.ofMetric, w.Fits := by
      intro w hw
      obtain ⟨m, hm, rfl⟩ := List.mem_map.1 hw
      exact WireMetric.fits_ofMetric (h m hm).2
    -- All metrics are valid, so none of them stops the list.
    have hvalid := validateAll_eq_ok_iff.2 fun m hm => (h m hm).1
    rw [WireList.decode?_encode hfits, Option.map_some, WireMetric.mapM_toMetric_ofMetric, hvalid]
    rfl
  · rw [WireMetric.isComplete_iff]
    exact exists_congr fun m => WireMetric.toMetric_eq_ok_iff
  · exact (WireMetric.toMetric_eq_ok_iff.1 h).2.symm

/-- A sum of zero, a negative one and a negative zero. -/
theorem zeros_cross_the_wire :
    (∀ m ∈ [Metric.counter "c" 0, Metric.counter "d" (-1), Metric.gauge "g" (.ofRank true 0)],
      m.validate = .ok () ∧ m.HasHeldName) ∧
    (WireList.decode? (WireList.encode ([Metric.counter "c" 0, Metric.counter "d" (-1),
      Metric.gauge "g" (.ofRank true 0)].map WireMetric.ofMetric))).map
        (fun ws => ws.mapM WireMetric.toMetric)
      = some (.ok [Metric.counter "c" 0, Metric.counter "d" (-1),
        Metric.gauge "g" (.ofRank true 0)]) := by
  have haccepted : ∀ m ∈ [Metric.counter "c" 0, Metric.counter "d" (-1),
      Metric.gauge "g" (.ofRank true 0)], m.validate = .ok () ∧ m.HasHeldName := by
    unfold Metric.HasHeldName
    decide +kernel
  exact ⟨haccepted, metrics_cross_the_wire.2.1 _ haccepted⟩

end Telemetry

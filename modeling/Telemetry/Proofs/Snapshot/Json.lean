import Telemetry.Proofs.Json.Value
import Telemetry.Proofs.Number.Range
import Telemetry.Proofs.Series
import Telemetry.Snapshot.Json

/-!
# Snapshots read back

A snapshot whose gauges are finite is read back from its JSON text, in whatever order the members
were written (`ofJsonBytes?_of_isWrittenAs`), bit for bit. `ReadsBack cs read a` is what carries this: the
text stands for a value that a reader takes to `a`. It holds of integers and of finite numbers, and
of an object if it holds of its members.
-/

namespace Telemetry

namespace Json

/-- The text stands for a value that is read as `a`. -/
def ReadsBack {α : Type} (cs : List Char) (read : Json → Option α) (a : α) : Prop :=
  ∃ v, Denotes cs v ∧ read v = some a

/-- An integer, as the sum of a counter is written. -/
theorem readsBack_int64 (n : Int64) : ReadsBack (toString n.toInt).toList asInt64? n := by
  have hread := readInt?_toString n.toInt
  have hzero : (toString n.toInt).toList ≠ ['-', '0'] := by
    intro h
    have hn : readInt? ['-', '0'] = some n.toInt := h ▸ hread
    have : n.toInt = 0 := (Option.some.inj hn).symm
    rw [this] at h
    cases h
  refine ⟨.number (toString n.toInt).toList, ?_, ?_⟩
  · have hdenotes := Denotes.number (NumberParts.wellFormed_ofNat n.toInt.natAbs)
      (NumberParts.noLeadingZero_ofNat n.toInt.natAbs) (decide (n.toInt < 0))
    simpa only [decide_eq_true_eq, ← toList_toString] using hdenotes
  · rw [asInt64?, asInt?, if_neg hzero, hread, Option.bind_some]
    exact toInt64?_eq_some_iff.2 rfl

/-- A finite number. -/
theorem readsBack_binary64 {x : Binary64} (h : x.isFinite = true) :
    ReadsBack x.toJson asBinary64? x := by
  have hjson : x.toJson = (NumberLayout.json.write x).toList := if_pos h
  refine ⟨.number x.toJson, ?_, ?_⟩
  · obtain ⟨p, hp⟩ := NumberLayout.json.exists_writes (Binary64.shortest .toEven x.rank)
    -- Only zero is written with a zero in front.
    have hlead : p.NoLeadingZero := by
      refine hp.noLeadingZero ?_
      by_cases hrank : x.rank = 0
      · rw [hrank]
        exact .inr rfl
      · exact .inl (Binary64.coefficient_shortest_ne_zero .toEven (of_decide_eq_true h) hrank)
    have htext : x.toJson = (if x.isNegative then ['-'] else []) ++ p.text := by
      rw [hjson, Binary64.toList_write _ h]
      exact congrArg (_ ++ ·) hp.text
    rw [htext]
    exact .number hp.wellFormed hlead x.isNegative
  · rw [asBinary64?, hjson, String.ofList_toList, Binary64.read?_write _ h]
    exact if_pos h

/-- The keys of an object that are written as texts are read as these texts. -/
theorem asMembers?_rawText (members : List (String × Json)) :
    asMembers? (.object (members.map fun m => (rawText m.1, m.2))) = some members := by
  induction members with
  | nil => rfl
  | cons m members ih =>
    have hkey : decodeText? (rawText m.1) = some m.1 := decodeText?_encode m.1
    rw [asMembers?] at ih ⊢
    rw [List.map_cons, List.mapM_cons, hkey, ih]
    rfl

end Json

namespace Series

variable {α : Type} {write : α → List Char} {read : Json → Option α}

/-- Members that are read back one by one. -/
theorem exists_denotesMembers {pairs : List (String × α)} (hne : pairs ≠ [])
    (h : ∀ p ∈ pairs, Json.ReadsBack (write p.2) read p.2) :
    ∃ members : List (String × Json),
      Json.DenotesMembers (jsonMembers write pairs)
        (members.map fun m => (Json.rawText m.1, m.2)) ∧
      members.mapM (fun m => (read m.2).map fun a => (m.1, a)) = some pairs := by
  induction pairs with
  | nil => exact absurd rfl hne
  | cons p pairs ih =>
    obtain ⟨⟨v, hdenotes, hread⟩, hpairs⟩ := List.forall_mem_cons.1 h
    -- The last member is not followed by a comma.
    cases pairs with
    | nil => exact ⟨[(p.1, v)], .last hdenotes p.1, by simp [hread]⟩
    | cons q pairs =>
      obtain ⟨members, hmembers, hback⟩ := ih (List.cons_ne_nil _ _) hpairs
      refine ⟨(p.1, v) :: members, .cons hdenotes p.1 hmembers, ?_⟩
      rw [List.mapM_cons, hread, hback]
      rfl

/-- An object is read back if its members are. -/
theorem readsBack_jsonObject {pairs : List (String × α)}
    (h : ∀ p ∈ pairs, Json.ReadsBack (write p.2) read p.2) :
    Json.ReadsBack (jsonObject write pairs) (ofJson? read) (ofList pairs) := by
  by_cases hne : pairs = []
  · subst hne
    exact ⟨_, .emptyObject, rfl⟩
  · obtain ⟨members, hmembers, hback⟩ := exists_denotesMembers hne h
    refine ⟨_, .object hmembers, ?_⟩
    rw [ofJson?, Json.asMembers?_rawText, Option.bind_eq_bind, Option.bind_some, hback]
    rfl

end Series

namespace Snapshot

variable {counters : List (String × Int64)} {gauges : List (String × Binary64)}

/-- The text of a snapshot is that of an object of objects. -/
theorem toList_jsonOf (counters : List (String × Int64)) (gauges : List (String × Binary64)) :
    (jsonOf counters gauges).toList = Series.jsonObject id
      [("Counter", Series.jsonObject (fun n : Int64 => (toString n.toInt).toList) counters),
        ("Gauge", Series.jsonObject Binary64.toJson gauges)] := by
  have hcounter : "\x7b\"Counter\":".toList = '{' :: (Json.encodeText "Counter" ++ [':']) := rfl
  have hgauge : ",\"Gauge\":".toList = ',' :: (Json.encodeText "Gauge" ++ [':']) := rfl
  refine String.toList_ofList.trans ?_
  generalize Series.jsonObject (fun n : Int64 => (toString n.toInt).toList) counters = c
  generalize Series.jsonObject Binary64.toJson gauges = g
  simp only [hcounter, hgauge, Series.jsonObject, Series.jsonMembers, id_eq, List.cons_append,
    List.append_assoc, List.nil_append]

/-- An object with the two fields of a snapshot. -/
theorem ofJson?_fields {c g : Json}
    (hc : Series.ofJson? Json.asInt64? c = some (Series.ofList counters))
    (hg : Series.ofJson? Json.asBinary64? g = some (Series.ofList gauges)) :
    ofJson? (.object [(Json.rawText "Counter", c), (Json.rawText "Gauge", g)])
      = some ⟨Series.ofList counters, Series.ofList gauges⟩ := by
  have hmembers := Json.asMembers?_rawText [("Counter", c), ("Gauge", g)]
  have hrecord : Json.record? fieldNames
      (.object [(Json.rawText "Counter", c), (Json.rawText "Gauge", g)]) = some [some c, some g] :=
    (congrArg (Option.bind · fun members => fieldNames.mapM (Json.field? members)) hmembers).trans
      rfl
  rw [ofJson?, hrecord]
  simp only [Option.bind_eq_bind, Option.bind_some, Json.withDefault?, hc, hg]
  rfl

/-- **A snapshot is read back from its text**, whatever the order of its members, if its gauges are
finite. -/
theorem ofJsonBytes?_jsonOf (hgauges : ∀ p ∈ gauges, p.2.isFinite = true) :
    ofJsonBytes? (jsonOf counters gauges).toUTF8
      = some ⟨Series.ofList counters, Series.ofList gauges⟩ := by
  obtain ⟨c, hc, hreadc⟩ : Json.ReadsBack
      (Series.jsonObject (fun n : Int64 => (toString n.toInt).toList) counters)
      (Series.ofJson? Json.asInt64?) (Series.ofList counters) :=
    Series.readsBack_jsonObject fun p _ => Json.readsBack_int64 p.2
  obtain ⟨g, hg, hreadg⟩ : Json.ReadsBack (Series.jsonObject Binary64.toJson gauges)
      (Series.ofJson? Json.asBinary64?) (Series.ofList gauges) :=
    Series.readsBack_jsonObject fun p hp => Json.readsBack_binary64 (hgauges p hp)
  have hbytes := Json.ofBytes?_of_denotes
    (.object (.cons hc "Counter" (.last hg "Gauge")))
  rw [ofJsonBytes?, Json.toList_toUTF8, toList_jsonOf]
  exact (congrArg (Option.bind · ofJson?) hbytes).trans (ofJson?_fields hreadc hreadg)

/-- The bytes are the text of the snapshot, the members of either object in some order. -/
def IsWrittenAs (s : Snapshot) (bytes : ByteArray) : Prop :=
  ∃ counters gauges, counters.Perm s.counters.toList ∧ gauges.Perm s.gauges.toList ∧
    bytes = (jsonOf counters gauges).toUTF8

/-- A save writes the members in the order of their names. -/
theorem isWrittenAs_toJson (s : Snapshot) : s.IsWrittenAs s.toJson.toUTF8 :=
  ⟨_, _, .refl _, .refl _, rfl⟩

/-- A snapshot of finite gauges is read back from its text. -/
theorem ofJsonBytes?_of_isWrittenAs {s : Snapshot} {bytes : ByteArray}
    (hgauges : ∀ p ∈ s.gauges.toList, p.2.isFinite = true) (h : s.IsWrittenAs bytes) :
    ofJsonBytes? bytes = some s := by
  obtain ⟨counters, gauges, hc, hg, rfl⟩ := h
  rw [ofJsonBytes?_jsonOf fun p hp => hgauges p (hg.mem_iff.1 hp), Series.ofList_of_perm hc,
    Series.ofList_of_perm hg]

end Snapshot

end Telemetry

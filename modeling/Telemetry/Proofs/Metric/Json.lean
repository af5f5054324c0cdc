import Telemetry.Metric.Json
import Telemetry.Proofs.Snapshot.Json

/-!
# Metrics read back

A metric is read back from its JSON text whether it is accepted or not, as long as its value has a
JSON form of its own, which is to say that it is absent or finite (`ofJsonBytes?_toJson`); and so is
a list of such metrics (`listOfJsonBytes?_listToJson`).

The fields that may be absent are treated alike: `exists_optionalField` gives the text of such a
field, if there is one, together with the value that the text stands for.
-/

namespace Telemetry

namespace Json

/-- Fields of a record: a name, a text, and the value that the text stands for. -/
abbrev Fields := List (String × List Char × Json)

/-- Members that stand for values one by one. -/
theorem DenotesMembers.of_forall {fields : Fields} (hne : fields ≠ [])
    (h : ∀ f ∈ fields, Denotes f.2.1 f.2.2) :
    DenotesMembers (Series.jsonMembers Prod.fst fields)
      (fields.map fun f => (rawText f.1, f.2.2)) := by
  induction fields with
  | nil => exact absurd rfl hne
  | cons f fields ih =>
    obtain ⟨hf, hfields⟩ := List.forall_mem_cons.1 h
    cases fields with
    | nil => exact .last hf f.1
    | cons g fields => exact .cons hf f.1 (ih (List.cons_ne_nil _ _) hfields)

/-- A field that may be absent. -/
theorem exists_optionalField {α : Type} {write : α → List Char} (read : Json → Option α)
    (hnull : read .null = none) {a : Option α} (h : ∀ x ∈ a, ReadsBack (write x) read x) :
    ∃ field : Option (List Char × Json), field.map Prod.fst = a.map write ∧
      (∀ f ∈ field, Denotes f.1 f.2) ∧ optional? read (field.map Prod.snd) = some a := by
  cases a with
  | none => exact ⟨none, rfl, nofun, rfl⟩
  | some x =>
    obtain ⟨v, hdenotes, hread⟩ := h x rfl
    -- A number is not written as null, so it is not read as left out.
    have hv : v ≠ .null := by
      rintro rfl
      cases hnull.symm.trans hread
    have hoptional : optional? read (some v) = (read v).map some := by
      cases v <;> first | rfl | exact absurd rfl hv
    refine ⟨some (write x, v), rfl, ?_, ?_⟩
    · rintro f ⟨⟩
      exact hdenotes
    · show optional? read (some v) = some (some x)
      rw [hoptional, hread]
      rfl

end Json

namespace Metric

/-- The fields of a metric. -/
def jsonFields (m : Metric) (delta value : Option (List Char × Json)) : Json.Fields :=
  ("id", Json.encodeText m.id, .text (Json.rawText m.id))
    :: ("type", Json.encodeText m.kind.name, .text (Json.rawText m.kind.name))
    :: ((delta.map ("delta", ·)).toList ++ (value.map ("value", ·)).toList)

/-- The text of a metric is that of an object with its fields. -/
theorem toList_toJson {m : Metric} {delta value : Option (List Char × Json)}
    (hdelta : delta.map Prod.fst = m.delta.map fun n => (toString n.toInt).toList)
    (hvalue : value.map Prod.fst = m.value.map Binary64.toJson) :
    m.toJson.toList = Series.jsonObject Prod.fst (m.jsonFields delta value) := by
  obtain ⟨id, kind, n, x⟩ := m
  have hid : "\x7b\"id\":".toList = '{' :: (Json.encodeText "id" ++ [':']) := rfl
  have htype : ",\"type\":".toList = ',' :: (Json.encodeText "type" ++ [':']) := rfl
  have hdeltaName : ",\"delta\":".toList = ',' :: (Json.encodeText "delta" ++ [':']) := rfl
  have hvalueName : ",\"value\":".toList = ',' :: (Json.encodeText "value" ++ [':']) := rfl
  refine String.toList_ofList.trans ?_
  -- where a field is absent, both sides lack it
  rcases delta with _ | ⟨text, v⟩ <;> rcases n with _ | n <;>
    simp only [Option.map_none, Option.map_some, reduceCtorEq, Option.some.injEq] at hdelta
  all_goals
    rcases value with _ | ⟨text, v⟩ <;> rcases x with _ | x <;>
      simp only [Option.map_none, Option.map_some, reduceCtorEq, Option.some.injEq] at hvalue
  all_goals
    simp only [*, jsonFields, Series.jsonObject, Series.jsonMembers, Option.map_some,
      Option.map_none, Option.toList_some, Option.toList_none, List.cons_append, List.append_assoc,
      List.nil_append]

/-- The fields of a metric are found under their names. -/
theorem record?_jsonFields (m : Metric) (delta value : Option (List Char × Json)) :
    Json.record? fieldNames
        (.object ((m.jsonFields delta value).map fun f => (Json.rawText f.1, f.2.2)))
      = some [some (.text (Json.rawText m.id)), some (.text (Json.rawText m.kind.name)),
          delta.map Prod.snd, value.map Prod.snd] := by
  have hmembers := Json.asMembers?_rawText ((m.jsonFields delta value).map fun f => (f.1, f.2.2))
  rw [List.map_map] at hmembers
  refine (congrArg (Option.bind · fun members => fieldNames.mapM (Json.field? members))
    hmembers).trans ?_
  cases delta <;> cases value <;> rfl

/-- A metric whose value is absent or finite is read back. -/
theorem readsBack_toJson {m : Metric} (h : ∀ x ∈ m.value, x.isFinite = true) :
    Json.ReadsBack m.toJson.toList ofJson? m := by
  obtain ⟨delta, hdelta, hdenotesDelta, hreadDelta⟩ :=
    Json.exists_optionalField Json.asInt64? rfl fun n (_ : n ∈ m.delta) =>
      Json.readsBack_int64 n
  obtain ⟨value, hvalue, hdenotesValue, hreadValue⟩ :=
    Json.exists_optionalField Json.asBinary64? rfl fun x hx =>
      Json.readsBack_binary64 (h x hx)
  -- Whichever of the optional fields are there, each is denoted by its own text.
  have hfields : ∀ f ∈ m.jsonFields delta value, Json.Denotes f.2.1 f.2.2 := by
    simp only [jsonFields, List.forall_mem_cons, List.forall_mem_append, Option.mem_toList,
      Option.map_eq_some_iff]
    refine ⟨.text m.id, .text m.kind.name, ?_, ?_⟩
    · rintro _ ⟨f, hf, rfl⟩
      exact hdenotesDelta f hf
    · rintro _ ⟨f, hf, rfl⟩
      exact hdenotesValue f hf
  have hdenotes : Json.Denotes m.toJson.toList
      (.object ((m.jsonFields delta value).map fun f => (Json.rawText f.1, f.2.2))) := by
    rw [toList_toJson hdelta hvalue]
    exact .object (.of_forall (List.cons_ne_nil _ _) hfields)
  have hid : Json.asText? (.text (Json.rawText m.id)) = some m.id := Json.decodeText?_encode m.id
  have hkind : Kind.ofJson? (.text (Json.rawText m.kind.name)) = some m.kind := by
    cases m.kind <;> rfl
  refine ⟨_, hdenotes, ?_⟩
  rw [ofJson?, record?_jsonFields]
  simp only [Option.bind_eq_bind, Option.bind_some, hid, hkind, hreadDelta, hreadValue]
  rfl

/-- **A metric is read back from its text** if its value is absent or finite. -/
theorem ofJsonBytes?_toJson {m : Metric} (h : ∀ x ∈ m.value, x.isFinite = true) :
    ofJsonBytes? m.toJson.toUTF8 = some m := by
  obtain ⟨v, hdenotes, hread⟩ := readsBack_toJson h
  rw [ofJsonBytes?, Json.toList_toUTF8, Json.ofBytes?_of_denotes hdenotes, Option.bind_some, hread]

/-! ## Lists -/

/-- The items of an array are read back one by one. -/
theorem exists_denotesItems {metrics : List Metric} (hne : metrics ≠ [])
    (h : ∀ m ∈ metrics, ∀ x ∈ m.value, x.isFinite = true) :
    ∃ items, Json.DenotesItems (jsonItems metrics) items ∧ items.mapM ofJson? = some metrics := by
  induction metrics with
  | nil => exact absurd rfl hne
  | cons m metrics ih =>
    obtain ⟨hm, hmetrics⟩ := List.forall_mem_cons.1 h
    obtain ⟨v, hdenotes, hread⟩ := readsBack_toJson hm
    -- The last item is not followed by a comma.
    cases metrics with
    | nil => exact ⟨[v], .last hdenotes, by simp [hread]⟩
    | cons m' metrics =>
      obtain ⟨items, hitems, hback⟩ := ih (List.cons_ne_nil _ _) hmetrics
      refine ⟨v :: items, .cons hdenotes hitems, ?_⟩
      rw [List.mapM_cons, hread, hback]
      rfl

/-- **Metrics are read back from the text of their list** if their values are absent or finite. -/
theorem listOfJsonBytes?_listToJson {metrics : List Metric}
    (h : ∀ m ∈ metrics, ∀ x ∈ m.value, x.isFinite = true) :
    listOfJsonBytes? (listToJson metrics).toUTF8 = some metrics := by
  have htext : (listToJson metrics).toList = '[' :: (jsonItems metrics ++ [']']) :=
    String.toList_ofList
  obtain ⟨items, hitems, hback⟩ : ∃ items,
      Json.Denotes ('[' :: (jsonItems metrics ++ [']'])) (.array items) ∧
        items.mapM ofJson? = some metrics := by
    -- An empty list has no items between its brackets.
    by_cases hne : metrics = []
    · subst hne
      exact ⟨[], .emptyArray, rfl⟩
    · obtain ⟨items, hitems, hback⟩ := exists_denotesItems hne h
      exact ⟨items, .array hitems, hback⟩
  rw [listOfJsonBytes?, Json.toList_toUTF8, htext, Json.ofBytes?_of_denotes hitems,
    Option.bind_some]
  exact hback

end Metric

end Telemetry

import Telemetry.Proofs.Metric.Text
import Telemetry.Proofs.Server.Resource
import Telemetry.Proofs.Url
import Telemetry.Server.Api

/-!
# Names in the paths of addresses

A name that is appended to an address is escaped, so that it arrives as one piece of the path and is
read back, except for what `Url.push?` leaves out: the names that are one dot or two, and tabs and
line breaks. `Url.IsSendable` says of a name that nothing of it is left out. Of any other name
`Url.keptName` is left, and `Url.arrivingName` is what the path shows of that; the path loses a
piece (`Url.LosesPiece`) if the name is one dot, or if two dots are left of it.
-/

namespace Telemetry

namespace Url

/-- Nothing of the name is left out of an address. -/
structure IsSendable (name : String) : Prop where
  ne_dot : name ≠ "."
  ne_dots : name ≠ ".."
  unbroken : ∀ c ∈ name.toList, c ≠ '\t' ∧ c ≠ '\n' ∧ c ≠ '\r'

/-- What the path shows of a name: one dot that is left of a longer name is nothing but a step. -/
def arrivingName (name : String) : String := if keptName name = "." then "" else keptName name

/-- Under this name a path has a piece less: one dot is passed over, and two dots, whatever they are
left of, take a piece away or are passed over. -/
def LosesPiece (name : String) : Prop := name = "." ∨ keptName name = ".."

instance (name : String) : Decidable (LosesPiece name) :=
  inferInstanceAs (Decidable (name = "." ∨ keptName name = ".."))

/-- Nothing is dropped from a dot. -/
theorem keptName_of_dot {name : String} (h : name = ".") : keptName name = "." := by
  rw [h]
  decide

/-- The names of one dot and of two dots lose their segment. -/
theorem losesPiece_of_dots {name : String} (h : name = "." ∨ name = "..") : LosesPiece name :=
  h.imp id fun htwo => by rw [htwo]; decide

/-- A name is kept if there is no tab and no line break in it. -/
theorem keptName_eq_iff {name : String} :
    keptName name = name ↔ ∀ c ∈ name.toList, c ≠ '\t' ∧ c ≠ '\n' ∧ c ≠ '\r' := by
  have hfilter : keptName name = name ↔ (name.toList.filter fun c =>
      c ≠ '\t' && c ≠ '\n' && c ≠ '\r') = name.toList := by
    rw [keptName, ← String.toList_inj, String.toList_ofList]
  rw [hfilter, List.filter_eq_self]
  simp [and_assoc]

/-- A name that can be sent is kept. -/
theorem IsSendable.kept {name : String} (h : IsSendable name) : keptName name = name :=
  keptName_eq_iff.2 h.unbroken

/-- The names of the kinds can be sent. -/
theorem isSendable_kind (kind : Kind) : IsSendable kind.name := by
  cases kind <;> exact ⟨by decide, by decide, Text.forall_of_all (by decide)⟩

/-- The text of a number is sendable, and there is some. -/
theorem isSendable_valueText {m : Metric} (h : m.validate = .ok ()) :
    IsSendable m.valueText ∧ m.valueText ≠ "" := by
  obtain ⟨negative, p, hp, htext⟩ := Metric.exists_toList_valueText h
  have hfirst : ∃ c, m.valueText.toList.head? = some c ∧ c ≠ '.' := by
    obtain ⟨c, cs, hdigits, hc⟩ := p.exists_text_eq hp
    rw [htext, hdigits]
    cases negative with
    | true => exact ⟨'-', rfl, by decide⟩
    | false => exact ⟨c, rfl, by rintro rfl; cases hc⟩
  have hne : ∀ text : String, (∀ c ∈ text.toList.head?, c = '.') → m.valueText ≠ text := by
    rintro text hdot rfl
    obtain ⟨c, hc, hother⟩ := hfirst
    exact hother (hdot c hc)
  -- A number is written with digits, a point, signs and an `e`.
  have hunbroken : ∀ c ∈ m.valueText.toList, c ≠ '\t' ∧ c ≠ '\n' ∧ c ≠ '\r' := by
    intro c hc
    have hchar : isDigit c = true ∨ c ∈ ['.', 'e', '-', '+'] := by
      rw [htext] at hc
      rcases List.mem_append.1 hc with hc | hc
      · cases negative with
        | true =>
          rw [List.mem_singleton.1 hc]
          exact .inr (by decide)
        | false => cases hc
      · exact NumberParts.isDigit_or_mem_of_mem_text hp hc
    refine ⟨?_, ?_, ?_⟩ <;> rintro rfl <;> revert hchar <;> decide
  exact ⟨⟨hne "." (by rintro _ ⟨⟩; rfl), hne ".." (by rintro _ ⟨⟩; rfl), hunbroken⟩, hne "" nofun⟩

/-! ## Segments -/

/-- What a segment escapes can be told from what it does not. -/
theorem isReadable_escapedInSegment (special : Bool) :
    Percent.IsReadable (escapedInSegment special) := by
  constructor
  · cases special <;> decide
  · intro b hb
    have hwide : (126 : UInt8) < b := UInt8.lt_iff_toNat_lt.2 (Nat.lt_of_lt_of_le (by decide) hb)
    cases special <;> simp [escapedInSegment, Percent.escapes, Percent.isControlOrWide, hwide]

/-- A segment holds nothing that ends a piece, a path or a query. -/
theorem not_mem_segmentOf (special : Bool) (name : String) {c : Char} (hc : c ∈ ['/', '?', '#']) :
    c ∉ segmentOf special name := by
  have hescaped : ∀ c ∈ ['/', '?', '#'], escapedInSegment special (UInt8.ofNat c.toNat) = true ∧
      c ≠ '%' ∧ Hex.value? c = none := by
    cases special <;> exact Text.forall_of_all (by decide)
  obtain ⟨hc, hpercent, hdigit⟩ := hescaped c hc
  exact Percent.not_mem_encode (isReadable_escapedInSegment special) hc hpercent hdigit _

/-- A text is read back from its segment. -/
theorem parameter_segmentOf (special : Bool) (label text : String) :
    Resource.parameter label (segmentOf special text) = .ok text :=
  Resource.parameter_encode (isReadable_escapedInSegment special) label text

/-- A name that can be sent arrives. -/
theorem IsSendable.arriving {name : String} (h : IsSendable name) : arrivingName name = name := by
  rw [arrivingName, h.kept, if_neg h.ne_dot]

/-- Nothing is lost of a sendable name. -/
theorem IsSendable.not_losesPiece {name : String} (h : IsSendable name) : ¬ LosesPiece name := by
  rintro (hone | htwo)
  · exact h.ne_dot hone
  · exact h.ne_dots (h.kept ▸ htwo)

/-- A sendable name is appended as its segment. -/
theorem appendOne_of_isSendable (special : Bool) (segments : List (List Char)) {name : String}
    (h : IsSendable name) :
    appendOne special segments name
      = (if segments = [[]] then [] else segments) ++ [segmentOf special name] := by
  simp [appendOne, h.kept, h.ne_dot, h.ne_dots]

/-- The segments that are appended for a metric. -/
theorem append_update {m : Metric} (h : m.validate = .ok ()) :
    append true [[]] ["update", m.kind.name, m.id, m.valueText] =
      if m.id = "." ∨ m.id = ".." then
        ["update".toList, segmentOf true m.kind.name, segmentOf true m.valueText]
      else if keptName m.id = ".." then ["update".toList, [], segmentOf true m.valueText]
      else ["update".toList, segmentOf true m.kind.name, segmentOf true (arrivingName m.id),
        segmentOf true m.valueText] := by
  have hupdate : appendOne true [[]] "update" = ["update".toList] := by decide
  have hkind := isSendable_kind m.kind
  have hvalue := (isSendable_valueText h).1
  simp only [append, List.foldl_cons, List.foldl_nil, hupdate,
    appendOne_of_isSendable true _ hkind, appendOne_of_isSendable true _ hvalue]
  -- a dot by itself, two dots by themselves, either of them under tabs, and any other name
  by_cases hdots : m.id = "." ∨ m.id = ".."
  · simp [appendOne, hdots]
  · obtain ⟨hone, htwo⟩ := not_or.1 hdots
    have hnothing : segmentOf true "" = [] := by decide
    by_cases hkept : keptName m.id = "."
    · simp [appendOne, arrivingName, hone, htwo, hkept, hnothing]
    · by_cases hkept' : keptName m.id = ".." <;>
        simp [appendOne, arrivingName, hone, htwo, hkept, hkept']

example : append true [[]] ["update", "counter", "..\t", "5"] = ["update".toList, [], ['5']] := by
  decide

/-- The resource of the path that is appended for a metric: that of its three segments, or none if
the path has a piece less. -/
theorem ofPath?_append_update {m : Metric} (h : m.validate = .ok ()) :
    Resource.ofPath? ((append true [[]] ["update", m.kind.name, m.id, m.valueText]).flatMap
        fun name => '/' :: name) =
      if LosesPiece m.id then none
      else some (.updatePath (segmentOf true m.kind.name) (segmentOf true (arrivingName m.id))
        (segmentOf true m.valueText)) := by
  have hslash : ∀ text, '/' ∉ segmentOf true text :=
    fun text => not_mem_segmentOf true text (by simp)
  have hvalue : segmentOf true m.valueText ≠ [] := by
    intro hnil
    have hread := parameter_segmentOf true "value" m.valueText
    rw [hnil] at hread
    exact (isSendable_valueText h).2 (Except.ok.inj hread).symm
  have hupdate : "/update/".toList = '/' :: ("update".toList ++ ['/']) := rfl
  have htwo : ∀ kind value : List Char,
      ["update".toList, kind, value].flatMap (fun name => '/' :: name)
        = "/update/".toList ++ (kind ++ '/' :: value) := by
    intro kind value
    simp [hupdate]
  have hthree : ∀ kind id value : List Char,
      ["update".toList, kind, id, value].flatMap (fun name => '/' :: name)
        = "/update/".toList ++ (kind ++ '/' :: (id ++ '/' :: value)) := by
    intro kind id value
    simp [hupdate]
  rw [append_update h]
  -- A name of dots leaves three segments, or two of them with an empty one; any other leaves four.
  split
  · next hdots =>
    rw [htwo, Resource.ofPath?_two (hslash _) (hslash _), if_pos (losesPiece_of_dots hdots)]
  · next hdots =>
    split
    · next hkept => rw [htwo, Resource.ofPath?_two List.not_mem_nil (hslash _), if_pos (.inr hkept)]
    · next hkept =>
      have hpieces : ¬ LosesPiece m.id := fun hloses =>
        hloses.elim (fun hone => hdots (.inl hone)) hkept
      rw [hthree, if_neg hpieces]
      exact Resource.ofPath?_three (hslash _) (hslash _) (hslash _) hvalue

/-- What the segments of a metric are read as: the metric under what is shown of its name. -/
theorem updateParameters_segments {m : Metric} (h : m.validate = .ok ()) :
    Api.updateParameters (segmentOf true m.kind.name) (segmentOf true (arrivingName m.id))
        (segmentOf true m.valueText) =
      if arrivingName m.id = "" then .error (.ofMetric .missingName)
      else .ok { m with id := arrivingName m.id } := by
  simp only [Api.updateParameters, parameter_segmentOf]
  show ((Kind.ofName m.kind.name).bind fun kind =>
    Metric.ofTexts kind (arrivingName m.id) m.valueText).mapError ApiError.ofMetric = _
  rw [Kind.ofName_name]
  by_cases hname : arrivingName m.id = ""
  · rw [if_pos hname, hname]
    rfl
  · rw [if_neg hname]
    exact congrArg (Except.mapError ApiError.ofMetric) (Metric.ofTexts_valueText h hname)

end Url

end Telemetry

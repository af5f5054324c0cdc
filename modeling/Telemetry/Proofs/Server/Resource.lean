import Telemetry.Proofs.Text
import Telemetry.Server.Resource

/-!
# Paths and parameters

A path below `/update/` or `/value/` is the resource of its pieces (`ofPath?_three`,
`ofPath?_value`), whatever the pieces hold besides slashes; below `/update/`, two pieces are no
resource. A parameter that was percent-encoded is read back.
-/

namespace Telemetry

namespace Resource

/-- Everything below `/update/` is decided by what follows. -/
theorem ofPath?_below_update (parameters : List Char) :
    ofPath? ("/update/".toList ++ parameters) = ofUpdate? parameters := by
  have hbehind : behind? "/update/".toList ("/update/".toList ++ parameters) = some parameters := by
    rw [behind?, if_pos (List.isPrefixOf_iff_prefix.2 (List.prefix_append _ _)), List.drop_left]
  have hroot : "/update/".toList ++ parameters ≠ ['/'] := nofun
  have hping : "/update/".toList ++ parameters ≠ "/ping".toList := nofun
  have hupdates : "/update/".toList ++ parameters ≠ "/updates/".toList := nofun
  rw [ofPath?, if_neg hroot, if_neg hping, if_neg hupdates, hbehind]

/-- Everything below `/value/` is decided by what follows. -/
theorem ofPath?_below_value (parameters : List Char) :
    ofPath? ("/value/".toList ++ parameters) = ofValue? parameters := by
  have hbehind : behind? "/value/".toList ("/value/".toList ++ parameters) = some parameters := by
    rw [behind?, if_pos (List.isPrefixOf_iff_prefix.2 (List.prefix_append _ _)), List.drop_left]
  have hupdate : behind? "/update/".toList ("/value/".toList ++ parameters) = none := rfl
  have hroot : "/value/".toList ++ parameters ≠ ['/'] := nofun
  have hping : "/value/".toList ++ parameters ≠ "/ping".toList := nofun
  have hupdates : "/value/".toList ++ parameters ≠ "/updates/".toList := nofun
  rw [ofPath?, if_neg hroot, if_neg hping, if_neg hupdates, hbehind, hupdate]

variable {kind name value : List Char}

/-- A text without a slash is one segment. -/
theorem forall_ne_slash {cs : List Char} (h : '/' ∉ cs) : ∀ c ∈ cs, (c == '/') = false := by
  intro c hc
  refine beq_eq_false_iff_ne.2 fun heq => h ?_
  rw [← heq]
  exact hc

/-- A piece ends at the first slash. -/
theorem splitOn_append (h : '/' ∉ kind) (rest : List Char) :
    (kind ++ '/' :: rest).splitOn '/' = kind :: rest.splitOn '/' :=
  List.splitOnP_append_cons_of_forall_mem (forall_ne_slash h) '/' rfl rest

/-- The last piece has no slash behind it. -/
theorem splitOn_eq_singleton (h : '/' ∉ value) : value.splitOn '/' = [value] :=
  List.splitOnP_eq_singleton (forall_ne_slash h)

/-- Three pieces are the parameters of an update. -/
theorem ofPath?_three (hkind : '/' ∉ kind) (hname : '/' ∉ name) (hvalue : '/' ∉ value)
    (hne : value ≠ []) :
    ofPath? ("/update/".toList ++ (kind ++ '/' :: (name ++ '/' :: value)))
      = some (.updatePath kind name value) := by
  rw [ofPath?_below_update, ofUpdate?, splitOn_append hkind, splitOn_append hname,
    splitOn_eq_singleton hvalue]
  have hvalue : ¬ value.isEmpty = true := fun h => hne (List.isEmpty_iff.1 h)
  cases kind <;> exact if_neg hvalue

/-- Two pieces are nothing. -/
theorem ofPath?_two (hkind : '/' ∉ kind) (hvalue : '/' ∉ value) :
    ofPath? ("/update/".toList ++ (kind ++ '/' :: value)) = none := by
  rw [ofPath?_below_update, ofUpdate?, splitOn_append hkind, splitOn_eq_singleton hvalue]
  cases kind <;> rfl

/-- Two pieces are the parameters of a query. -/
theorem ofPath?_value (hkind : '/' ∉ kind) (hname : '/' ∉ name) (hne : name ≠ []) :
    ofPath? ("/value/".toList ++ (kind ++ '/' :: name)) = some (.valuePath kind name) := by
  rw [ofPath?_below_value, ofValue?, splitOn_append hkind, splitOn_eq_singleton hname]
  have hname : ¬ name.isEmpty = true := fun h => hne (List.isEmpty_iff.1 h)
  cases kind <;> exact if_neg hname

/-- A parameter is read back from its percent encoding. -/
theorem parameter_encode {escaped : UInt8 → Bool} (h : Percent.IsReadable escaped)
    (label s : String) : parameter label (Percent.encode escaped s) = .ok s := by
  rw [parameter, Percent.decode_encode h, Json.toList_toUTF8, Json.fromUTF8?_bytesOf,
    String.ofList_toList]

end Resource

end Telemetry

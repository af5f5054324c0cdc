import Telemetry.Proofs.Metric
import Telemetry.Proofs.Number.Range
import Telemetry.Proofs.Number.Reading
import Telemetry.Proofs.Number.Text

/-!
# Metrics and texts

The text of the number of an accepted metric is read back as that number, and the texts that a
metric can be made of are the ones that write a number of its kind.
-/

namespace Telemetry

/-! ## Numbers of metrics as texts

The text of the number of an accepted metric is read back as that number, for gauges bit for bit
(`ofTexts_valueText`). It is an optional minus sign in front of the parts of a number, so that it
neither is empty nor holds anything but digits, a point and what belongs to an exponent.
-/

namespace NumberParts

variable {p : NumberParts}

/-- What stands in a number text. -/
theorem isDigit_or_mem_of_mem_text (h : p.WellFormed) {c : Char} (hc : c ∈ p.text) :
    isDigit c = true ∨ c ∈ ['.', 'e', '-', '+'] := by
  -- The three parts in turn: the whole number, what is behind the point, and the exponent.
  rcases List.mem_append.1 hc with hc | hc
  · exact .inl (h.whole c hc)
  rcases List.mem_append.1 hc with hc | hc
  · unfold pointText at hc
    split at hc
    · cases hc
    rcases List.mem_cons.1 hc with rfl | hc
    · exact .inr (by decide)
    · exact .inl (h.fraction c hc)
  · unfold exponentText at hc
    split at hc
    · cases hc
    · next e _ =>
      rcases List.mem_cons.1 hc with rfl | hc
      · exact .inr (by decide)
      rcases List.mem_cons.1 hc with rfl | hc
      · exact .inr (by split <;> decide)
      · exact .inl (AllDigits.ofNat e.natAbs c hc)

end NumberParts

namespace Metric

/-- The text of an accepted metric is that of a number. -/
theorem exists_toList_valueText {m : Metric} (h : m.validate = .ok ()) :
    ∃ (negative : Bool) (p : NumberParts), p.WellFormed ∧
      m.valueText.toList = (if negative then ['-'] else []) ++ p.text := by
  obtain ⟨-, ⟨n, hm⟩ | ⟨x, hx, hm⟩⟩ := validate_eq_ok_iff.1 h
  · rw [hm]
    refine ⟨decide (n.toInt < 0), .ofNat n.toInt.natAbs, NumberParts.wellFormed_ofNat _, ?_⟩
    show (toString n.toInt).toList = _
    simpa only [decide_eq_true_eq] using toList_toString n.toInt
  · rw [hm]
    obtain ⟨p, hp⟩ := NumberLayout.plain.exists_writes (Binary64.shortest .up x.rank)
    refine ⟨x.isNegative, p, hp.wellFormed, ?_⟩
    rw [← hp.text]
    exact Binary64.toList_write .plain hx

/-- The number of an accepted metric is read back from its text, under any name. -/
theorem ofTexts_valueText {m : Metric} (h : m.validate = .ok ()) {name : String}
    (hname : name ≠ "") : ofTexts m.kind name m.valueText = .ok { m with id := name } := by
  obtain ⟨-, ⟨n, hm⟩ | ⟨x, hx, hm⟩⟩ := validate_eq_ok_iff.1 h
  · have hread : readInt64? (toString n.toInt) = some n := by
      rw [readInt64?, readInt?_toString]
      exact toInt64?_eq_some_iff.2 rfl
    rw [hm]
    show ofTexts .counter name (toString n.toInt) = .ok (counter name n)
    simp only [ofTexts, if_neg hname, hread]
  · have hread : Binary64.read? (NumberLayout.plain.write x) = some x :=
      Binary64.read?_write .plain hx
    rw [hm]
    show ofTexts .gauge name (NumberLayout.plain.write x) = .ok (gauge name x)
    simp only [ofTexts, if_neg hname, hread, if_pos hx]

end Metric

/-! ## Metrics from texts

The texts that a metric can be made of are the ones that write a number of its kind, and the metric
has this number (`ofTexts_eq_ok_iff`): a counter an integer of 64 bits, a gauge a decimal that is
rounded to a finite number. The text that an accepted metric gives is one of them.
-/

namespace Metric

/-- The text writes the number that the metric has. -/
inductive WrittenBy (raw : String) : Metric → Prop
  | counter {id : String} {n : Int64} (h : IntegerText raw.toList n.toInt) :
    WrittenBy raw (counter id n)
  | gauge {id : String} {x : Binary64} (hfinite : x.isFinite = true)
      (h : Binary64.NumberText raw.toList x) : WrittenBy raw (gauge id x)

variable {name raw : String} {m : Metric}

/-- A counter is read from the texts of the integers in range, and from no others. -/
theorem ofTexts_counter_eq_ok_iff (hname : name ≠ "") :
    ofTexts .counter name raw = .ok m ↔
      ∃ n : Int64, IntegerText raw.toList n.toInt ∧ m = counter name n := by
  simp only [ofTexts, if_neg hname, ← readInt64?_eq_some_iff]
  cases readInt64? raw with
  | none => exact iff_of_false (by rintro ⟨⟩) (by rintro ⟨n, ⟨⟩, -⟩)
  | some n =>
    constructor
    · intro h
      exact ⟨n, rfl, (Except.ok.inj h).symm⟩
    · rintro ⟨_, ⟨⟩, rfl⟩
      rfl

/-- A gauge is read from the texts of finite numbers, and from no others. -/
theorem ofTexts_gauge_eq_ok_iff (hname : name ≠ "") :
    ofTexts .gauge name raw = .ok m ↔
      ∃ x : Binary64, x.isFinite = true ∧ Binary64.NumberText raw.toList x ∧ m = gauge name x := by
  constructor
  · intro h
    simp only [ofTexts, if_neg hname] at h
    split at h
    · next x hread =>
      split at h
      · next hfinite =>
        exact ⟨x, hfinite, (Binary64.read?_eq_some_iff hfinite).1 hread, (Except.ok.inj h).symm⟩
      · cases h
    · cases h
  · rintro ⟨x, hfinite, htext, rfl⟩
    have hread := (Binary64.read?_eq_some_iff hfinite).2 htext
    simp only [ofTexts, if_neg hname, hread, if_pos hfinite]

/-- A metric is made of a name and of a text that writes its number, and of nothing else. -/
theorem ofTexts_eq_ok_iff {kind : Kind} :
    ofTexts kind name raw = .ok m ↔
      name ≠ "" ∧ m.kind = kind ∧ m.id = name ∧ m.WrittenBy raw := by
  by_cases hname : name = ""
  · simp only [ofTexts, if_pos hname]
    exact iff_of_false (by rintro ⟨⟩) fun h => h.1 hname
  cases kind with
  | counter =>
    rw [ofTexts_counter_eq_ok_iff hname]
    constructor
    · rintro ⟨n, htext, rfl⟩
      exact ⟨hname, rfl, rfl, .counter htext⟩
    · rintro ⟨-, hkind, rfl, htext⟩
      cases htext with
      | counter h => exact ⟨_, h, rfl⟩
      | gauge => cases hkind
  | gauge =>
    rw [ofTexts_gauge_eq_ok_iff hname]
    constructor
    · rintro ⟨x, hfinite, htext, rfl⟩
      exact ⟨hname, rfl, rfl, .gauge hfinite htext⟩
    · rintro ⟨-, hkind, rfl, htext⟩
      cases htext with
      | counter => cases hkind
      | gauge hfinite h => exact ⟨_, hfinite, h, rfl⟩

/-- What is written by a text is valid, if it has a name. -/
theorem validate_of_writtenBy (h : m.WrittenBy raw) (hid : m.id ≠ "") : m.validate = .ok () := by
  cases h with
  | counter => exact validate_counter hid _
  | gauge hfinite => exact validate_gauge hid hfinite

/-- **Metrics and the texts of their numbers.** The text of an accepted metric is read as this very
metric. Of a name and a text a metric is made if and only if the text writes a number of the kind,
and every metric that is made is accepted. -/
theorem ofTexts_reads_what_is_written :
    (∀ m : Metric, m.validate = .ok () → ofTexts m.kind m.id m.valueText = .ok m) ∧
    (∀ name raw, (∃ m, ofTexts .counter name raw = .ok m) ↔
      name ≠ "" ∧ ∃ n, IntegerText raw.toList n ∧ FitsInt64 n) ∧
    (∀ name raw, (∃ m, ofTexts .gauge name raw = .ok m) ↔
      name ≠ "" ∧ ∃ x, Binary64.NumberText raw.toList x ∧ x.isFinite = true) ∧
    (∀ kind name raw m, ofTexts kind name raw = .ok m ↔
      name ≠ "" ∧ m.kind = kind ∧ m.id = name ∧ m.WrittenBy raw) ∧
    ∀ kind name raw m, ofTexts kind name raw = .ok m → m.validate = .ok () := by
  refine ⟨fun m h => ofTexts_valueText h (id_ne_empty_of_validate h), fun name raw => ?_,
    fun name raw => ?_, fun _ _ _ _ => ofTexts_eq_ok_iff, fun kind name raw m h => ?_⟩
  · constructor
    · rintro ⟨m, hm⟩
      obtain ⟨hname, hkind, -, htext⟩ := ofTexts_eq_ok_iff.1 hm
      cases htext with
      | counter h => exact ⟨hname, _, h, fitsInt64_toInt _⟩
      | gauge => cases hkind
    · rintro ⟨hname, n, htext, hfits⟩
      rw [← toInt_ofInt_of_fits hfits] at htext
      exact ⟨_, ofTexts_eq_ok_iff.2 ⟨hname, rfl, rfl, .counter htext⟩⟩
  · constructor
    · rintro ⟨m, hm⟩
      obtain ⟨hname, hkind, -, htext⟩ := ofTexts_eq_ok_iff.1 hm
      cases htext with
      | counter => cases hkind
      | gauge hfinite h => exact ⟨hname, _, h, hfinite⟩
    · rintro ⟨hname, x, htext, hfinite⟩
      exact ⟨_, ofTexts_eq_ok_iff.2 ⟨hname, rfl, rfl, .gauge hfinite htext⟩⟩
  · obtain ⟨hname, -, rfl, htext⟩ := ofTexts_eq_ok_iff.1 h
    exact validate_of_writtenBy htext hname

/-- A gauge whose text has more than 300 digits. -/
def smallestGauge : Metric := gauge "g" ⟨1⟩

/-- Long texts are read back, and a text that is not the written one is read up to the end of the
range. -/
theorem ofTexts_reads_smallestGauge :
    smallestGauge.validate = .ok () ∧
      ofTexts smallestGauge.kind smallestGauge.id smallestGauge.valueText = .ok smallestGauge ∧
      (∃ m, ofTexts .counter "c" "+009223372036854775807" = .ok m) ∧
      ofTexts .counter "c" "+009223372036854775808"
        = .error (.invalidValue .counter "+009223372036854775808") := by
  obtain ⟨hback, hcounter, -, -, -⟩ := ofTexts_reads_what_is_written
  have hvalid : smallestGauge.validate = .ok () := rfl
  have hdigits : AllDigits "009223372036854775807".toList := List.all_eq_true.1 (by decide)
  refine ⟨hvalid, hback _ hvalid, (hcounter _ _).2 ⟨by decide, Int64.maxValue.toInt, ?_⟩, rfl⟩
  exact ⟨.mk .plus hdigits (by decide), by decide⟩

end Metric

end Telemetry

import Telemetry.Metric
import Telemetry.Store

/-!
# Accepted metrics

`validate_eq_ok_iff` says which metrics are accepted: counters and finite gauges that have a name,
each with the number of its kind and no other. A batch is refused for its first metric that is not
(`validateAll_eq_error_iff`); `IsFirstFault` says which element of a list that is, for a fault that
may also depend on what stands before.
-/

namespace Telemetry

/-! ## The first element at fault -/

/-- An element of a list is the first one at fault; a fault may depend on what stands before. -/
structure IsFirstFault {α : Type} (fault : List α → α → Prop) (xs before : List α) (x : α) :
    Prop where
  begins : before ++ [x] <+: xs
  atFault : fault before x
  first : ∀ ys y, ys ++ [y] <+: before → ¬ fault ys y

theorem isFirstFault_nil {α : Type} {fault : List α → α → Prop} {before : List α} {x : α} :
    ¬ IsFirstFault fault [] before x :=
  fun h => absurd (List.prefix_nil.1 h.begins) (by simp)

section FirstFault

variable {α : Type} {fault : List α → α → Prop} {a : α} {rest : List α} {p : α → Prop}

/-- A first element at fault is the first one of all. -/
theorem exists_firstFault_of_fault (ha : fault [] a) :
    (∃ before x, IsFirstFault fault (a :: rest) before x ∧ p x) ↔ p a := by
  constructor
  · rintro ⟨before, x, ⟨hbegins, -, hfirst⟩, hx⟩
    cases before with
    | nil =>
      obtain ⟨rfl, -⟩ := List.cons_prefix_cons.1 hbegins
      exact hx
    | cons b others =>
      obtain ⟨rfl, -⟩ := List.cons_prefix_cons.1 hbegins
      exact absurd ha (hfirst [] b (by simp))
  · intro hp
    exact ⟨[], a, ⟨by simp, ha, fun ys y hys => absurd (List.prefix_nil.1 hys) (by simp)⟩, hp⟩

/-- Behind an element that is not at fault, the first one at fault is that of the rest. -/
theorem exists_firstFault_of_not_fault (ha : ¬ fault [] a) :
    (∃ before x, IsFirstFault fault (a :: rest) before x ∧ p x) ↔
      ∃ before x, IsFirstFault (fun ys y => fault (a :: ys) y) rest before x ∧ p x := by
  -- Both lists have the same first fault, one of them with `a` in front.
  constructor
  · rintro ⟨before, x, ⟨hbegins, hfault, hfirst⟩, hx⟩
    cases before with
    | nil =>
      obtain ⟨rfl, -⟩ := List.cons_prefix_cons.1 hbegins
      exact absurd hfault ha
    | cons b others =>
      obtain ⟨rfl, hrest⟩ := List.cons_prefix_cons.1 hbegins
      refine ⟨others, x, ⟨hrest, hfault, fun ys y hys => ?_⟩, hx⟩
      exact hfirst (b :: ys) y (List.cons_prefix_cons.2 ⟨rfl, hys⟩)
  · rintro ⟨others, x, ⟨hbegins, hfault, hfirst⟩, hx⟩
    refine ⟨a :: others, x, ⟨List.cons_prefix_cons.2 ⟨rfl, hbegins⟩, hfault, ?_⟩, hx⟩
    intro ys y hys
    cases ys with
    | nil =>
      obtain ⟨rfl, -⟩ := List.cons_prefix_cons.1 hys
      exact ha
    | cons z ys =>
      obtain ⟨rfl, hrest⟩ := List.cons_prefix_cons.1 hys
      exact hfirst ys y hrest

end FirstFault

/-! ## Metrics -/

namespace Metric

/-- A counter with a name is valid. -/
theorem validate_counter {id : String} (hid : id ≠ "") (delta : Int64) :
    (counter id delta).validate = .ok () := by
  simp [validate, counter, carriesItsNumber, hid]

/-- A gauge with a name and a finite value is valid. -/
theorem validate_gauge {id : String} (hid : id ≠ "") {x : Binary64} (hx : x.isFinite = true) :
    (gauge id x).validate = .ok () := by
  simp [validate, gauge, carriesItsNumber, hid, hx]

/-- The accepted metrics are the counters and the finite gauges that have a name. -/
theorem validate_eq_ok_iff {m : Metric} :
    m.validate = .ok () ↔
      m.id ≠ "" ∧
        ((∃ n, m = counter m.id n) ∨ ∃ x : Binary64, x.isFinite = true ∧ m = gauge m.id x) := by
  constructor
  · intro h
    obtain ⟨id, kind, delta, value⟩ := m
    by_cases hid : id = ""
    · simp [validate, hid] at h
    refine ⟨hid, ?_⟩
    -- Each kind carries its own number and not the other one.
    cases kind <;> cases delta <;> cases value <;>
      simp_all [validate, carriesItsNumber, counter, gauge]
  · rintro ⟨hid, ⟨n, hm⟩ | ⟨x, hx, hm⟩⟩
    · exact hm ▸ validate_counter hid n
    · exact hm ▸ validate_gauge hid hx

/-- A valid metric has a name. -/
theorem id_ne_empty_of_validate {m : Metric} (h : m.validate = .ok ()) : m.id ≠ "" :=
  (validate_eq_ok_iff.1 h).1

/-- The value of an accepted metric is absent or finite. -/
theorem isFinite_of_validate {m : Metric} (h : m.validate = .ok ()) :
    ∀ x ∈ m.value, x.isFinite = true := by
  obtain ⟨-, ⟨n, hm⟩ | ⟨x, hx, hm⟩⟩ := validate_eq_ok_iff.1 h
  · rw [hm]
    exact nofun
  · rw [hm]
    rintro _ ⟨⟩
    exact hx

/-- An accepted gauge has a finite value. -/
theorem isFinite_valueOrZero_of_validate {m : Metric} (h : m.validate = .ok ()) :
    m.valueOrZero.isFinite = true := by
  obtain ⟨-, ⟨n, hm⟩ | ⟨x, hx, hm⟩⟩ := validate_eq_ok_iff.1 h
  · rw [hm]
    rfl
  · rw [hm]
    exact hx

end Metric

theorem validateAll_cons (m : Metric) (rest : List Metric) :
    validateAll (m :: rest) = m.validate.bind fun _ => validateAll rest := rfl

/-- A batch is accepted if each of its metrics is. -/
theorem validateAll_eq_ok_iff {metrics : List Metric} :
    validateAll metrics = .ok () ↔ ∀ m ∈ metrics, m.validate = .ok () := by
  induction metrics with
  | nil => simp [validateAll, pure, Except.pure]
  | cons m rest ih =>
    rw [validateAll_cons, List.forall_mem_cons, ← ih]
    cases hm : m.validate with
    | ok u => simp [Except.bind]
    | error e => simp [Except.bind]

/-- A batch is refused for its first metric that is not accepted. -/
theorem validateAll_eq_error_iff {metrics : List Metric} {e : MetricError} :
    validateAll metrics = .error e ↔
      ∃ before m, IsFirstFault (fun _ m => m.validate ≠ .ok ()) metrics before m ∧
        m.validate = .error e := by
  -- The first metric is at fault, or the first fault is among the others.
  induction metrics with
  | nil => exact iff_of_false nofun fun ⟨_, _, h, _⟩ => isFirstFault_nil h
  | cons m rest ih =>
    rw [validateAll_cons]
    cases hvalid : m.validate with
    | error cause =>
      have hfault : m.validate ≠ .ok () := by rw [hvalid]; nofun
      rw [exists_firstFault_of_fault hfault, hvalid]
      rfl
    | ok u =>
      have hfault : ¬ m.validate ≠ .ok () := not_not_intro hvalid
      rw [exists_firstFault_of_not_fault hfault]
      exact ih

end Telemetry

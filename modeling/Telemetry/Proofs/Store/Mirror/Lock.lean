import Telemetry.Proofs.Store.History
import Telemetry.Proofs.Store.Mirror.Moves

/-!
# Memory and the locks

Three invariants of a store with a snapshot file. `Remembers`: memory is what the writes have made
of it, and every copy is what it was at some time. `Locked`: one save at a time holds the save lock,
and what it copies is not older than what the saves before it have copied. `Barred`: once a closing
has got the lock, the saver never gets it again.
-/

namespace Telemetry

namespace Mirror

open scoped List

variable {m next : Mirror} {i j : Nat} {s t : Save} {c : Copy}

/-! ## The memory -/

/-- The copy is what the store held after as many writes as it says. -/
def HasHeld (m : Mirror) (s₀ : Snapshot) (c : Copy) : Prop :=
  c.version ≤ m.applied.length ∧
    c.contents = (History.run s₀ (m.applied.take c.version)).store

/-- The last of a number of writes is `w`, and the store in memory answers it with `answer`. -/
def HasAnswered (m : Mirror) (s₀ : Snapshot) (since : Nat) (w : Write) (answer : Option Metric) :
    Prop :=
  ∃ before after, m.applied = before ++ w :: after ∧ since = before.length + 1 ∧
    (w.perform (History.run s₀ before).store).1 = .ok answer

/-- Memory is what the writes have made of it, and every copy is what it was at some time, not
before the save of the copy came. A save that a write has asked for came right after the write. -/
structure Remembers (s₀ : Snapshot) (m : Mirror) : Prop where
  contents : m.contents = (History.run s₀ m.applied).store
  since : ∀ (i : Nat) (s : Save), m.saves[i]? = some s → s.since ≤ m.applied.length
  copies : ∀ (i : Nat) (s : Save) (c : Copy), m.saves[i]? = some s → s.point.copy? = some c →
    m.HasHeld s₀ c ∧ s.since ≤ c.version
  own : ∀ (i : Nat) (s : Save) (w : Write) (answer : Option Metric), m.saves[i]? = some s →
    s.cause = .write w answer → m.HasAnswered s₀ s.since w answer

variable {s₀ : Snapshot}

/-- What memory has held it has held later too. -/
theorem HasHeld.mono (h : m.HasHeld s₀ c) (hgrows : m.applied <+: next.applied) :
    next.HasHeld s₀ c := by
  obtain ⟨more, hmore⟩ := hgrows
  refine ⟨Nat.le_trans h.1 ?_, ?_⟩
  · rw [← hmore, List.length_append]
    exact Nat.le_add_right _ _
  · rw [← hmore, List.take_append_of_le_length h.1]
    exact h.2

/-- A write that has been performed has been performed later too. -/
theorem HasAnswered.mono {since : Nat} {w : Write} {answer : Option Metric}
    (h : m.HasAnswered s₀ since w answer) (hgrows : m.applied <+: next.applied) :
    next.HasAnswered s₀ since w answer := by
  obtain ⟨more, hmore⟩ := hgrows
  obtain ⟨before, after, happlied, hsince, hanswer⟩ := h
  refine ⟨before, after ++ more, ?_, hsince, hanswer⟩
  rw [← hmore, happlied, List.append_assoc, List.cons_append]

/-- What memory holds now is a copy it has held. -/
theorem Remembers.hasHeld_current (h : m.Remembers s₀) : m.HasHeld s₀ m.current :=
  ⟨Nat.le_refl _, by
    rw [current, List.take_length]
    exact h.contents⟩

/-- A save that goes on keeps its copy, has none, or takes the one of this moment. -/
theorem Proceeds.copy?_cases {p : SavePoint} (h : Proceeds m s p) (hc : p.copy? = some c) :
    s.point.copy? = some c ∨ c = m.current ∧ p.holdsLock = true := by
  cases h with
  | advance h =>
    cases h with
    | giveUp _ _ => cases hc
    | drop c' _ hpoint => rw [hpoint]; exact .inl hc
    | lock _ _ _ => cases hc
    | copy _ => exact .inr ⟨(Option.some.inj hc).symm, rfl⟩
    | release c' works hpoint => rw [hpoint]; exact .inl hc
    | answer c' works hpoint => rw [hpoint]; exact .inl hc
  | handOver c' hpoint => rw [hpoint]; exact .inl hc
  | settle c' works hpoint => rw [hpoint]; exact .inl hc

/-- Memory and the copies remember what was performed, whatever happens next. -/
theorem Remembers.moves (h : m.Remembers s₀) (hmoves : Moves m next) : next.Remembers s₀ := by
  have hcontents : next.contents = (History.run s₀ next.applied).store := by
    rcases hmoves.effects.2.1 with ⟨w, hcontents, happlied⟩ | ⟨hcontents, happlied⟩
    · rw [hcontents, happlied, h.contents, History.store_run_append]
    · rw [hcontents, happlied, h.contents]
  have hgrows := hmoves.savesMove.applied_grows
  -- A save is new, or the same as before, or one step on; each part is shown for these three.
  refine ⟨hcontents, fun j t ht => ?_, fun j t c ht hc => ?_, fun j t w answer ht hcause => ?_⟩
  · rcases hmoves.savesMove.save_cases ht with ⟨-, hsince, -⟩ | hs | ⟨s, p, hs, hproceeds, rfl⟩
    · exact Nat.le_of_eq hsince
    · exact Nat.le_trans (h.since j t hs) hgrows.length_le
    · exact Nat.le_trans (h.since j s hs) hgrows.length_le
  · rcases hmoves.savesMove.save_cases ht with ⟨hwaiting, -⟩ | hs | ⟨s, p, hs, hproceeds, rfl⟩
    · rw [hwaiting] at hc
      cases hc
    · obtain ⟨hheld, hsince⟩ := h.copies j t c hs hc
      exact ⟨hheld.mono hgrows, hsince⟩
    · rcases hproceeds.copy?_cases hc with hold | ⟨rfl, -⟩
      · obtain ⟨hheld, hsince⟩ := h.copies j s c hs hold
        exact ⟨hheld.mono hgrows, hsince⟩
      · exact ⟨h.hasHeld_current.mono hgrows, h.since j s hs⟩
  · rcases hmoves.savesMove.save_cases ht with ⟨-, hsince, hwrite⟩ | hs | ⟨s, p, hs, hproceeds, rfl⟩
    · obtain ⟨happlied, hanswer⟩ := hwrite w answer hcause
      refine ⟨m.applied, [], happlied, ?_, h.contents ▸ hanswer⟩
      rw [hsince, happlied, List.length_append]
      rfl
    · exact (h.own j t w answer hs hcause).mono hgrows
    · exact (h.own j s w answer hs hcause).mono hgrows

/-! ## The lock -/

/-- One save at a time holds the lock; a save that does not hold it any more has taken its copy
before the one that does. -/
structure Locked (m : Mirror) : Prop where
  exclusive : ∀ (i j : Nat) (s t : Save), m.saves[i]? = some s → m.saves[j]? = some t →
    s.point.holdsLock = true → t.point.holdsLock = true → i = j
  order : ∀ (i j : Nat) (s t : Save) (c c' : Copy), m.saves[i]? = some s → m.saves[j]? = some t →
    s.point.holdsLock = false → s.point.copy? = some c →
    t.point.holdsLock = true → t.point.copy? = some c' → c.version ≤ c'.version

/-- A save that goes on holds the lock if it did before, or nobody did. -/
theorem Proceeds.holdsLock_cases {p : SavePoint} (h : Proceeds m s p) (hp : p.holdsLock = true) :
    s.point.holdsLock = true ∨ s.point = .waiting ∧ m.isAborted s = false ∧
      ∀ t ∈ m.saves, t.point.holdsLock = false := by
  cases h with
  | advance h =>
    cases h with
    | giveUp _ _ => cases hp
    | drop c _ hpoint => cases hp
    | lock hpoint hgoes hfree => exact .inr ⟨hpoint, hgoes, hfree⟩
    | copy hpoint => rw [hpoint]; exact .inl rfl
    | release c works hpoint => cases hp
    | answer c works hpoint => cases hp
  | handOver c hpoint => rw [hpoint]; exact .inl rfl
  | settle c works hpoint => rw [hpoint]; exact .inl rfl

/-- The lock stays with one save, and copies are taken in the order in which it is taken. -/
theorem Locked.moves (h : m.Locked) (hremembers : m.Remembers s₀) (hmoves : Moves m next) :
    next.Locked := by
  cases hmoves.savesMove with
  | same hsaves _ _ =>
    constructor <;> rw [hsaves]
    · exact h.exclusive
    · exact h.order
  | call cause hsaves _ _ _ _ _ =>
    constructor <;> rw [hsaves]
    · intro i j s t hs ht hsholds htholds
      rcases append_cases hs with rfl | hs
      · cases hsholds
      rcases append_cases ht with rfl | ht
      · cases htholds
      exact h.exclusive i j s t hs ht hsholds htholds
    -- One of the two saves may be the one that has gone on, or the other, or none of them.
    · intro i j s t c c' hs ht hfree hc hholds hc'
      rcases append_cases hs with rfl | hs
      · cases hc
      rcases append_cases ht with rfl | ht
      · cases hc'
      exact h.order i j s t c c' hs ht hfree hc hholds hc'
  | proceed k u p hu hproceeds hsaves _ _ =>
    -- a save that has gone on and holds the lock held it before, or nobody else does
    have hmoved : p.holdsLock = true → ∀ j t, j ≠ k → m.saves[j]? = some t →
        t.point.holdsLock = false := by
      intro hp j t hne ht
      rcases hproceeds.holdsLock_cases hp with hbefore | ⟨-, -, hfree⟩
      · by_contra hholds
        exact hne (h.exclusive j k t u ht hu (by simpa using hholds) hbefore)
      · exact hfree t (List.mem_of_getElem? ht)
    constructor <;> rw [hsaves]
    · intro i j s t hs ht hsholds htholds
      rcases put_cases hu hs with ⟨rfl, rfl⟩ | ⟨hi, hs'⟩ <;>
        rcases put_cases hu ht with ⟨rfl, rfl⟩ | ⟨hj, ht'⟩
      · rfl
      · rw [hmoved hsholds j t hj ht'] at htholds
        cases htholds
      · rw [hmoved htholds i s hi hs'] at hsholds
        cases hsholds
      · exact h.exclusive i j s t hs' ht' hsholds htholds
    · intro i j s t c c' hs ht hfree hc hholds hc'
      rcases put_cases hu hs with ⟨rfl, rfl⟩ | ⟨hi, hs'⟩ <;>
        rcases put_cases hu ht with ⟨rfl, rfl⟩ | ⟨hj, ht'⟩
      · rw [hholds] at hfree
        cases hfree
      · -- the save that has let go of the lock did not hold it beside another one
        rcases hproceeds.copy?_cases hc with hold | ⟨-, hp⟩
        · refine h.order i j u t c c' hu ht' ?_ hold hholds hc'
          by_contra hbefore
          exact hj (h.exclusive j i t u ht' hu hholds (by simpa using hbefore))
        · rw [hp] at hfree
          cases hfree
      · rcases hproceeds.copy?_cases hc' with hold | ⟨rfl, -⟩
        · rcases hproceeds.holdsLock_cases hholds with hbefore | ⟨hwaiting, -, -⟩
          · exact h.order i j s u c c' hs' hu hfree hc hbefore hold
          · rw [hwaiting] at hold
            cases hold
        · exact (hremembers.copies i s c hs' hc).1.1
      · exact h.order i j s t c c' hs' ht' hfree hc hholds hc'

/-! ## The saver -/

/-- Only the saver is ever dropped, and only a store that does not save after every write has one.
Once a closing has got the lock, the saver does not hold it. -/
structure Barred (m : Mirror) : Prop where
  synchronous : m.isSynchronous = true → ∀ (i : Nat) (s : Save), m.saves[i]? = some s →
    s.cause ≠ .saver
  dropped : ∀ (i : Nat) (s : Save) (c : Copy), m.saves[i]? = some s → s.point = .dropped c →
    s.cause = .saver
  closed : ∀ (i : Nat) (s : Save), m.saves[i]? = some s → s.cause = .close → m.isClosed = true
  quiet : ∀ (i j : Nat) (s t : Save), m.saves[i]? = some s → m.saves[j]? = some t →
    s.cause = .close → s.point ≠ .waiting → t.cause = .saver → t.point.holdsLock = false

/-- Only saves of the saver are aborted. -/
theorem cause_of_isAborted (h : m.isAborted s = true) : s.cause = .saver := by
  simp only [isAborted, Bool.and_eq_true, decide_eq_true_eq] at h
  exact h.1

/-- A save that is dropped now or was dropped before. -/
theorem Proceeds.dropped {p : SavePoint} (h : Proceeds m s p) (hp : p = .dropped c) :
    s.cause = .saver ∧ s.point = .rewriting c := by
  cases h with
  | advance h =>
    cases h with
    | drop c' haborted hpoint =>
      cases hp
      exact ⟨cause_of_isAborted haborted, hpoint⟩
    | giveUp _ _ => cases hp
    | lock _ _ _ => cases hp
    | copy _ => cases hp
    | release _ _ _ => cases hp
    | answer _ _ _ => cases hp
  | handOver _ _ => cases hp
  | settle _ _ _ => cases hp

/-- A waiting save that goes on is the dropped saver, or gets the lock that nobody holds. -/
theorem Proceeds.of_waiting {p : SavePoint} (h : Proceeds m s p) (hs : s.point = .waiting) :
    s.cause = .saver ∨ ∀ t ∈ m.saves, t.point.holdsLock = false := by
  cases h with
  | advance h =>
    cases h with
    | giveUp haborted _ => exact .inl (cause_of_isAborted haborted)
    | drop c haborted _ => exact .inl (cause_of_isAborted haborted)
    | lock _ _ hfree => exact .inr hfree
    | copy hpoint => cases hs.symm.trans hpoint
    | release c works hpoint => cases hs.symm.trans hpoint
    | answer c works hpoint => cases hs.symm.trans hpoint
  | handOver c hpoint => cases hs.symm.trans hpoint
  | settle c works hpoint => cases hs.symm.trans hpoint

/-- A store that is closed goes on keeping its saver out. -/
theorem Barred.moves (h : m.Barred) (hmoves : Moves m next) : next.Barred := by
  obtain ⟨-, hsynchronous⟩ := hmoves.fixed
  cases hmoves.savesMove with
  | same hsaves _ hclosed =>
    constructor <;> rw [hsaves]
    · rw [hsynchronous]
      exact h.synchronous
    · exact h.dropped
    · rw [hclosed]
      exact h.closed
    · exact h.quiet
  | call cause hsaves _ hsaver hclose hclosed _ =>
    constructor <;> rw [hsaves]
    · intro hsync i s hs hcause
      rw [hsynchronous] at hsync
      rcases append_cases hs with rfl | hs
      · rw [(hsaver hcause).1] at hsync
        cases hsync
      · exact h.synchronous hsync i s hs hcause
    · intro i s c hs hpoint
      rcases append_cases hs with rfl | hs
      · cases hpoint
      · exact h.dropped i s c hs hpoint
    · intro i s hs hcause
      rcases append_cases hs with rfl | hs
      · exact hclose hcause
      · exact hclosed (h.closed i s hs hcause)
    · intro i j s t hs ht hcause hpoint hsaver'
      rcases append_cases hs with rfl | hs
      · exact absurd rfl hpoint
      rcases append_cases ht with rfl | ht
      · rfl
      exact h.quiet i j s t hs ht hcause hpoint hsaver'
  | proceed k u p hu hproceeds hsaves _ hclosed =>
    constructor <;> rw [hsaves]
    · intro hsync i s hs
      rw [hsynchronous] at hsync
      rcases put_cases hu hs with ⟨rfl, rfl⟩ | ⟨-, hs'⟩
      · exact h.synchronous hsync i u hu
      · exact h.synchronous hsync i s hs'
    · intro i s c hs hpoint
      rcases put_cases hu hs with ⟨rfl, rfl⟩ | ⟨-, hs'⟩
      · exact (hproceeds.dropped hpoint).1
      · exact h.dropped i s c hs' hpoint
    · intro i s hs hcause
      rw [hclosed]
      rcases put_cases hu hs with ⟨rfl, rfl⟩ | ⟨-, hs'⟩
      · exact h.closed i u hu hcause
      · exact h.closed i s hs' hcause
    · intro i j s t hs ht hcause hpoint hsaver
      rcases put_cases hu hs with ⟨rfl, rfl⟩ | ⟨hi, hs'⟩ <;>
        rcases put_cases hu ht with ⟨rfl, rfl⟩ | ⟨hj, ht'⟩
      · cases hcause.symm.trans hsaver
      · by_cases hwaiting : u.point = .waiting
        · rcases hproceeds.of_waiting hwaiting with hcause' | hfree
          · cases hcause.symm.trans hcause'
          · exact hfree t (List.mem_of_getElem? ht')
        · exact h.quiet i j u t hu ht' hcause hwaiting hsaver
      · -- the saver may not take the lock any more, so it does not hold it
        by_contra hholds
        rcases hproceeds.holdsLock_cases (by simpa using hholds) with hbefore | ⟨-, hgoes, -⟩
        · rw [h.quiet i j s u hs' hu hcause hpoint hsaver] at hbefore
          cases hbefore
        · have hcause' : u.cause = .saver := hsaver
          rw [isAborted, hcause', h.closed i s hs' hcause] at hgoes
          cases hgoes
      · exact h.quiet i j s t hs' ht' hcause hpoint hsaver

end Mirror

end Telemetry

import Telemetry.Store.Mirror

/-!
# What can happen to a snapshot file

`Moves` lists what an event can do to a store with a snapshot file, with the conditions under which
it does it, and `step_cases` says that an event does one of these things or nothing. Much of what
follows is about the saves alone: one comes, one goes on, or all of them stay where they are, and
`save_cases` says so of every single one. `Moves.effects` says what happens to the rest.
-/

namespace Telemetry

namespace Mirror

open scoped List

variable {m next : Mirror} {i j : Nat} {s t : Save} {c : Copy}

/-! ## The saves of a store -/

theorem getElem?_put_self (hs : m.saves[i]? = some s) (p : SavePoint) :
    (m.put i p).saves[i]? = some { s with point := p } := by
  simp [put, hs]

theorem getElem?_put_of_ne (h : i ≠ j) (p : SavePoint) : (m.put i p).saves[j]? = m.saves[j]? := by
  simp [put, h]

/-- After one save has gone on to another point, every save is this one or one from before. -/
theorem put_cases (hs : m.saves[i]? = some s) {p : SavePoint}
    (ht : (m.put i p).saves[j]? = some t) :
    j = i ∧ t = { s with point := p } ∨ j ≠ i ∧ m.saves[j]? = some t := by
  by_cases hij : i = j
  · subst hij
    rw [getElem?_put_self hs] at ht
    exact .inl ⟨rfl, (Option.some.inj ht).symm⟩
  · rw [getElem?_put_of_ne hij] at ht
    exact .inr ⟨fun h => hij h.symm, ht⟩

/-- After a call every save is the new one or one from before. -/
theorem append_cases {saves : List Save} (ht : (saves ++ [s])[j]? = some t) :
    t = s ∨ saves[j]? = some t := by
  rcases Nat.lt_or_ge j saves.length with hlt | hge
  · rw [List.getElem?_append_left hlt] at ht
    exact .inr ht
  · rw [List.getElem?_append_right hge] at ht
    rcases hj : j - saves.length with _ | n
    · rw [hj] at ht
      exact .inl (Option.some.inj ht).symm
    · rw [hj] at ht
      cases ht

theorem getElem?_append {saves : List Save} (hs : saves[i]? = some s) (t : Save) :
    (saves ++ [t])[i]? = some s := by
  rw [List.getElem?_append_left (List.getElem?_eq_some_iff.1 hs).1]
  exact hs

/-! ## What an event can do -/

/-- A save goes on to another point, and nothing but this changes. -/
inductive Advances (m : Mirror) (s : Save) : SavePoint → Prop
  | giveUp (haborted : m.isAborted s = true) (hpoint : s.point = .waiting) : Advances m s .givenUp
  | drop (c : Copy) (haborted : m.isAborted s = true) (hpoint : s.point = .rewriting c) :
    Advances m s (.dropped c)
  | lock (hpoint : s.point = .waiting) (hgoes : m.isAborted s = false)
    (hfree : ∀ t ∈ m.saves, t.point.holdsLock = false) : Advances m s .holding
  | copy (hpoint : s.point = .holding) : Advances m s (.copied m.current)
  | release (c : Copy) (works : Bool) (hpoint : s.point = .rewritten c works) :
    Advances m s (.released c works)
  | answer (c : Copy) (works : Bool) (hpoint : s.point = .released c works) :
    Advances m s (.answered c works)

/-- An event takes place, and leads to another state. -/
inductive Moves (m : Mirror) : Mirror → Prop
  | perform (w : Write) : Moves m (m.performed w)
  | performAndSave (w : Write) (answer : Option Metric) (hsync : m.isSynchronous = true)
    (hanswer : (w.perform m.contents).1 = .ok answer) :
    Moves m ((m.performed w).call (.write w answer))
  | demand : Moves m (m.call .demand)
  | tick (hperiodic : m.isSynchronous = false) (hopen : m.isClosed = false)
    (hidle : ∀ s ∈ m.saves, s.cause = .saver → s.point.isOver = true) : Moves m (m.call .saver)
  | close : Moves m ({ m with isClosed := true }.call .close)
  | advance (i : Nat) (s : Save) (p : SavePoint) (hs : m.saves[i]? = some s)
    (hadvances : Advances m s p) : Moves m (m.put i p)
  | handOver (i : Nat) (s : Save) (c : Copy) (hs : m.saves[i]? = some s)
    (hpoint : s.point = .copied c) :
    Moves m { m.put i (.rewriting c) with outstanding := m.outstanding ++ [⟨i, s.cause, c⟩] }
  | succeed (k : Nat) (r : Rewrite) (disk : Disk) (hr : m.outstanding[k]? = some r)
    (hsave : r.copy.contents.save m.disk m.path = (.ok (), disk)) :
    Moves m ({ m with
      outstanding := m.outstanding.eraseIdx k
      disk
      written := m.written ++ [r] }.settle r true)
  | fail (k : Nat) (r : Rewrite) (hr : m.outstanding[k]? = some r) :
    Moves m ({ m with outstanding := m.outstanding.eraseIdx k }.settle r false)

/-- An event takes place, or it changes nothing. -/
theorem step_cases (m : Mirror) (e : Event) : Moves m (m.step e) ∨ m.step e = m := by
  -- One case for each event, and in it one for each guard: the event moves the store or does
  -- nothing.
  cases e with
  | write w =>
    left
    simp only [step, write]
    split
    · split
      · next answer hanswer hsync => exact .performAndSave w answer hsync hanswer
      · exact .perform w
    · exact .perform w
  | demand => exact .inl .demand
  | tick =>
    simp only [step, tick]
    split
    · next h =>
      left
      simp only [Bool.and_eq_true, Bool.not_eq_true', List.all_eq_true, Bool.or_eq_true,
        decide_eq_true_eq] at h
      exact .tick h.1.1 h.1.2 fun s hs hcause => (h.2 s hs).resolve_left fun hne => hne hcause
    · exact .inr rfl
  | close => exact .inl .close
  | drop i =>
    simp only [step, drop]
    split
    · next s hs =>
      split
      · next haborted =>
        split
        · next hpoint => exact .inl (.advance i s _ hs (.giveUp haborted hpoint))
        · next c hpoint => exact .inl (.advance i s _ hs (.drop c haborted hpoint))
        · next c works hpoint => exact .inl (.advance i s _ hs (.release c works hpoint))
        · exact .inr rfl
      · exact .inr rfl
    · exact .inr rfl
  | lock i =>
    simp only [step, lock]
    split
    · next s hs =>
      split
      · next h =>
        simp only [Bool.and_eq_true, Bool.not_eq_true', List.all_eq_true, decide_eq_true_eq] at h
        exact .inl (.advance i s _ hs (.lock h.1.1 h.1.2 h.2))
      · exact .inr rfl
    · exact .inr rfl
  | copy i =>
    simp only [step, copy]
    split
    · next s hs =>
      split
      · next hpoint => exact .inl (.advance i s _ hs (.copy hpoint))
      · exact .inr rfl
    · exact .inr rfl
  | handOver i =>
    simp only [step, handOver]
    split
    · next s hs =>
      split
      · next c hpoint => exact .inl (.handOver i s c hs hpoint)
      · exact .inr rfl
    · exact .inr rfl
  | rewrite k works =>
    simp only [step, rewrite]
    split
    · next r hr =>
      left
      split
      · next disk hsave =>
        cases works with
        | true => exact .succeed k r disk hr hsave
        | false => cases hsave
      · exact .fail k r hr
    · exact .inr rfl
  | release i =>
    simp only [step, release]
    split
    · next s hs =>
      split
      · next c works hpoint =>
        split
        · exact .inr rfl
        · exact .inl (.advance i s _ hs (.release c works hpoint))
      · exact .inr rfl
    · exact .inr rfl
  | answer i =>
    simp only [step, answer]
    split
    · next s hs =>
      split
      · next c works hpoint => exact .inl (.advance i s _ hs (.answer c works hpoint))
      · exact .inr rfl
    · exact .inr rfl

/-- A save goes on, on its own or because of what it has handed over. -/
inductive Proceeds (m : Mirror) (s : Save) : SavePoint → Prop
  | advance {p : SavePoint} (h : Advances m s p) : Proceeds m s p
  | handOver (c : Copy) (hpoint : s.point = .copied c) : Proceeds m s (.rewriting c)
  | settle (c : Copy) (works : Bool) (hpoint : s.point = .rewriting c) :
    Proceeds m s (.rewritten c works)

/-- A save learns of its rewriting if it waits for it. A save that was dropped does not. -/
theorem settle_cases (m : Mirror) (r : Rewrite) (works : Bool) :
    (∃ s, m.saves[r.save]? = some s ∧ s.point = .rewriting r.copy ∧
      m.settle r works = m.put r.save (.rewritten r.copy works)) ∨
    (∀ s, m.saves[r.save]? = some s → s.point ≠ .rewriting r.copy) ∧ m.settle r works = m := by
  unfold settle
  split
  · next s hs =>
    split
    · next hpoint => exact .inl ⟨s, hs, hpoint, rfl⟩
    · next hpoint =>
      refine .inr ⟨fun t ht => ?_, rfl⟩
      rw [hs] at ht
      cases ht
      exact hpoint
  · next hnone =>
    refine .inr ⟨fun t ht => ?_, rfl⟩
    rw [hnone] at ht
    cases ht

/-- Only the saves learn how a rewriting has ended. -/
theorem settle_eq (m : Mirror) (r : Rewrite) (works : Bool) :
    ∃ saves, m.settle r works = { m with saves } := by
  rcases settle_cases m r works with ⟨s, -, -, hsettle⟩ | ⟨-, hsettle⟩ <;> rw [hsettle]
  · exact ⟨_, rfl⟩
  · exact ⟨_, rfl⟩

/-- What a move does besides: a write is performed in memory or none, and what was outstanding is
written to the file or nothing is. It never changes where the file is or when it is saved. -/
theorem Moves.effects (h : Moves m next) :
    (next.path = m.path ∧ next.isSynchronous = m.isSynchronous) ∧
    ((∃ w, next.contents = (w.perform m.contents).2 ∧ next.applied = m.applied ++ [w]) ∨
      next.contents = m.contents ∧ next.applied = m.applied) ∧
    ((∃ r ∈ m.outstanding, next.written = m.written ++ [r] ∧
        r.copy.contents.save m.disk m.path = (.ok (), next.disk)) ∨
      next.written = m.written ∧ next.disk = m.disk) := by
  cases h with
  | perform w => exact ⟨⟨rfl, rfl⟩, .inl ⟨w, rfl, rfl⟩, .inr ⟨rfl, rfl⟩⟩
  | performAndSave w answer hsync hanswer =>
    exact ⟨⟨rfl, rfl⟩, .inl ⟨w, rfl, rfl⟩, .inr ⟨rfl, rfl⟩⟩
  | demand => exact ⟨⟨rfl, rfl⟩, .inr ⟨rfl, rfl⟩, .inr ⟨rfl, rfl⟩⟩
  | tick _ _ _ => exact ⟨⟨rfl, rfl⟩, .inr ⟨rfl, rfl⟩, .inr ⟨rfl, rfl⟩⟩
  | close => exact ⟨⟨rfl, rfl⟩, .inr ⟨rfl, rfl⟩, .inr ⟨rfl, rfl⟩⟩
  | advance i s p hs hadvances => exact ⟨⟨rfl, rfl⟩, .inr ⟨rfl, rfl⟩, .inr ⟨rfl, rfl⟩⟩
  | handOver i s c hs hpoint => exact ⟨⟨rfl, rfl⟩, .inr ⟨rfl, rfl⟩, .inr ⟨rfl, rfl⟩⟩
  -- A rewriting that works is the only event that touches the disk.
  | succeed k r disk hr hsave =>
    obtain ⟨saves, hsettle⟩ := settle_eq { m with
      outstanding := m.outstanding.eraseIdx k
      disk
      written := m.written ++ [r] } r true
    rw [hsettle]
    exact ⟨⟨rfl, rfl⟩, .inr ⟨rfl, rfl⟩, .inl ⟨r, List.mem_of_getElem? hr, rfl, hsave⟩⟩
  | fail k r hr =>
    obtain ⟨saves, hsettle⟩ := settle_eq
      { m with outstanding := m.outstanding.eraseIdx k } r false
    rw [hsettle]
    exact ⟨⟨rfl, rfl⟩, .inr ⟨rfl, rfl⟩, .inr ⟨rfl, rfl⟩⟩

/-- The path and the way of saving never change. -/
theorem Moves.fixed (h : Moves m next) :
    next.path = m.path ∧ next.isSynchronous = m.isSynchronous :=
  h.effects.1

/-- What a move does to the saves: nothing, or one comes and waits, or one goes on. -/
inductive SavesMove (m : Mirror) (next : Mirror) : Prop
  | same (hsaves : next.saves = m.saves) (happlied : m.applied <+: next.applied)
    (hclosed : next.isClosed = m.isClosed)
  | call (cause : SaveCause)
    (hsaves : next.saves = m.saves ++ [⟨cause, next.applied.length, .waiting⟩])
    (happlied : m.applied <+: next.applied)
    (hsaver : cause = .saver → m.isSynchronous = false ∧ next.isClosed = false)
    (hclose : cause = .close → next.isClosed = true)
    (hclosed : m.isClosed = true → next.isClosed = true)
    (hwrite : ∀ w answer, cause = .write w answer → next.applied = m.applied ++ [w] ∧
      (w.perform m.contents).1 = .ok answer)
  | proceed (i : Nat) (s : Save) (p : SavePoint) (hs : m.saves[i]? = some s)
    (hproceeds : Proceeds m s p) (hsaves : next.saves = (m.put i p).saves)
    (happlied : next.applied = m.applied) (hclosed : next.isClosed = m.isClosed)

/-- Every event does one of three things to the saves: none, one save more, or one save goes on. -/
theorem Moves.savesMove (h : Moves m next) : SavesMove m next := by
  have hperformed : ∀ w, m.applied <+: (m.performed w).applied := fun w => ⟨[w], rfl⟩
  -- Writes and calls bring a save or none; all other events move one save on.
  cases h with
  | perform w => exact .same rfl (hperformed w) rfl
  | performAndSave w answer hsync hanswer =>
    refine .call _ rfl (hperformed w) nofun nofun id ?_
    rintro w' answer' ⟨⟩
    exact ⟨rfl, hanswer⟩
  | demand => exact .call _ rfl (List.prefix_refl _) nofun nofun id nofun
  | tick hperiodic hopen _ =>
    exact .call _ rfl (List.prefix_refl _) (fun _ => ⟨hperiodic, hopen⟩) nofun id nofun
  | close => exact .call _ rfl (List.prefix_refl _) nofun (fun _ => rfl) (fun _ => rfl) nofun
  | advance i s p hs hadvances => exact .proceed i s p hs (.advance hadvances) rfl rfl rfl
  | handOver i s c hs hpoint => exact .proceed i s _ hs (.handOver c hpoint) rfl rfl rfl
  -- Nobody may wait for the rewriting any more, and then no save moves.
  | succeed k r disk hr hsave =>
    rcases settle_cases { m with
      outstanding := m.outstanding.eraseIdx k
      disk
      written := m.written ++ [r] } r true with ⟨s, hs, hpoint, hsettle⟩ | ⟨-, hsettle⟩
    · rw [hsettle]
      exact .proceed r.save s _ hs (.settle r.copy true hpoint) rfl rfl rfl
    · rw [hsettle]
      exact .same rfl (List.prefix_refl _) rfl
  | fail k r hr =>
    rcases settle_cases { m with outstanding := m.outstanding.eraseIdx k } r false with
      ⟨s, hs, hpoint, hsettle⟩ | ⟨-, hsettle⟩
    · rw [hsettle]
      exact .proceed r.save s _ hs (.settle r.copy false hpoint) rfl rfl rfl
    · rw [hsettle]
      exact .same rfl (List.prefix_refl _) rfl

/-- Writes are never taken back from memory. -/
theorem SavesMove.applied_grows (h : SavesMove m next) : m.applied <+: next.applied := by
  cases h with
  | same _ happlied _ => exact happlied
  | call _ _ happlied _ _ _ _ => exact happlied
  | proceed _ _ _ _ _ _ happlied _ => exact happlied ▸ List.prefix_refl _

/-- Every save after a move has just come, is as it was, or has gone on. -/
theorem SavesMove.save_cases (h : SavesMove m next) (ht : next.saves[j]? = some t) :
    (t.point = .waiting ∧ t.since = next.applied.length ∧ ∀ w answer, t.cause = .write w answer →
      next.applied = m.applied ++ [w] ∧ (w.perform m.contents).1 = .ok answer) ∨
    m.saves[j]? = some t ∨
      ∃ s p, m.saves[j]? = some s ∧ Proceeds m s p ∧ t = { s with point := p } := by
  cases h with
  | same hsaves _ _ => exact .inr (.inl (hsaves ▸ ht))
  | call cause hsaves _ _ _ _ hwrite =>
    rw [hsaves] at ht
    rcases append_cases ht with rfl | ht
    · exact .inl ⟨rfl, rfl, hwrite⟩
    · exact .inr (.inl ht)
  | proceed i s p hs hproceeds hsaves _ _ =>
    rw [hsaves] at ht
    rcases put_cases hs ht with ⟨rfl, rfl⟩ | ⟨-, ht⟩
    · exact .inr (.inr ⟨s, p, hs, hproceeds, rfl⟩)
    · exact .inr (.inl ht)

end Mirror

end Telemetry

import Telemetry.Proofs.Store.Mirror.Moves
import Telemetry.Proofs.Store.SnapshotFile

/-!
# Calls that nobody disturbs

A mirror is the store of `SnapshotFile` seen more closely. If nothing else happens between the call
of a write and its answer, both are left with the same contents, the same disk and the same answer
(`write_undisturbed`), and so they are after a save of the saver (`tick_undisturbed`) and after a
closing (`close_undisturbed`).
-/

namespace Telemetry

namespace Mirror

variable {m : Mirror} {cause : SaveCause} {since : Nat} {c : Copy}

/-- A store with one save more than before. -/
def withSave (m : Mirror) (s : Save) : Mirror := { m with saves := m.saves ++ [s] }

theorem getElem?_withSave (m : Mirror) (s : Save) :
    (m.withSave s).saves[m.saves.length]? = some s := by
  simp [withSave]

theorem put_withSave (m : Mirror) (s : Save) (p : SavePoint) :
    (m.withSave s).put m.saves.length p = m.withSave { s with point := p } := by
  simp only [withSave, put, Mirror.mk.injEq, true_and, and_true]
  rw [List.modify_eq_take_cons_drop (by simp)]
  simp

/-! ## The steps of the last save -/

theorem lock_withSave (hfree : ∀ s ∈ m.saves, s.point.holdsLock = false)
    (hgoes : m.isAborted ⟨cause, since, .waiting⟩ = false) :
    (m.withSave ⟨cause, since, .waiting⟩).lock m.saves.length
      = m.withSave ⟨cause, since, .holding⟩ := by
  have haborted : (m.withSave ⟨cause, since, .waiting⟩).isAborted ⟨cause, since, .waiting⟩
      = false := hgoes
  have hall : ((m.withSave ⟨cause, since, .waiting⟩).saves.all fun s => !s.point.holdsLock)
      = true := by
    rw [List.all_eq_true]
    intro s hs
    rcases List.mem_append.1 hs with hs | hs
    · rw [hfree s hs]
      rfl
    · obtain rfl := List.mem_singleton.1 hs
      rfl
  simp [lock, getElem?_withSave, haborted, hall, put_withSave]

theorem copy_withSave : (m.withSave ⟨cause, since, .holding⟩).copy m.saves.length
    = m.withSave ⟨cause, since, .copied m.current⟩ := by
  have hcurrent : (m.withSave ⟨cause, since, .holding⟩).current = m.current := rfl
  simp [copy, getElem?_withSave, hcurrent, put_withSave]

theorem handOver_withSave : (m.withSave ⟨cause, since, .copied c⟩).handOver m.saves.length
    = withSave { m with outstanding := m.outstanding ++ [⟨m.saves.length, cause, c⟩] }
        ⟨cause, since, .rewriting c⟩ := by
  simp only [handOver, getElem?_withSave, put_withSave]
  rfl

theorem settle_withSave (works : Bool) :
    (m.withSave ⟨cause, since, .rewriting c⟩).settle ⟨m.saves.length, cause, c⟩ works
      = m.withSave ⟨cause, since, .rewritten c works⟩ := by
  simp [settle, getElem?_withSave, put_withSave]

/-- What the last save has handed over is written, if the disk takes it. -/
theorem rewrite_withSave :
    (withSave { m with outstanding := [⟨m.saves.length, cause, c⟩] }
      ⟨cause, since, .rewriting c⟩).rewrite 0 true =
        match c.contents.save m.disk m.path with
        | (.ok (), disk) =>
          withSave { m with
            outstanding := []
            disk
            written := m.written ++ [⟨m.saves.length, cause, c⟩] } ⟨cause, since, .rewritten c true⟩
        | (.error _, _) =>
          withSave { m with outstanding := [] } ⟨cause, since, .rewritten c false⟩ := by
  simp only [rewrite, withSave, List.getElem?_cons_zero, List.eraseIdx_cons_zero, if_true]
  -- The disk may refuse; then the file is what it was, and the save learns that.
  generalize c.contents.save m.disk m.path = result
  obtain ⟨⟨⟩ | ⟨⟩, disk⟩ := result
  · exact settle_withSave (m := { m with outstanding := [] }) false
  · exact settle_withSave (m := { m with
      outstanding := []
      disk
      written := m.written ++ [⟨m.saves.length, cause, c⟩] }) true

theorem release_withSave {works : Bool}
    (hgoes : m.isAborted ⟨cause, since, .rewritten c works⟩ = false) :
    (m.withSave ⟨cause, since, .rewritten c works⟩).release m.saves.length
      = m.withSave ⟨cause, since, .released c works⟩ := by
  have haborted : (m.withSave ⟨cause, since, .rewritten c works⟩).isAborted
      ⟨cause, since, .rewritten c works⟩ = false := hgoes
  simp [release, getElem?_withSave, haborted, put_withSave]

theorem answer_withSave {works : Bool} :
    (m.withSave ⟨cause, since, .released c works⟩).answer m.saves.length
      = m.withSave ⟨cause, since, .answered c works⟩ := by
  simp [answer, getElem?_withSave, put_withSave]

/-! ## A whole call -/

/-- The last save alone goes its way, to its answer. -/
theorem play_undisturbed (hfree : ∀ t ∈ m.saves, t.point.holdsLock = false)
    (hidle : m.outstanding = []) (cause : SaveCause) (hgoes : cause = .saver → m.isClosed = false) :
    (m.call cause).play (undisturbed m.saves.length) =
      match m.contents.save m.disk m.path with
      | (.ok (), disk) =>
        withSave { m with disk, written := m.written ++ [⟨m.saves.length, cause, m.current⟩] }
          ⟨cause, m.applied.length, .answered m.current true⟩
      | (.error _, _) => m.withSave ⟨cause, m.applied.length, .answered m.current false⟩ := by
  -- A saver that is not aborted goes through; every other save always does.
  have haborted : ∀ p, m.isAborted ⟨cause, m.applied.length, p⟩ = false := by
    intro p
    by_cases hcause : cause = .saver
    · simp [isAborted, hgoes hcause]
    · simp [isAborted, hcause]
  have hend : ∀ (next : Mirror) (works : Bool), next.saves = m.saves → next.isClosed = m.isClosed →
      ((next.withSave ⟨cause, m.applied.length, .rewritten m.current works⟩).release
        m.saves.length).answer m.saves.length =
          next.withSave ⟨cause, m.applied.length, .answered m.current works⟩ := by
    intro next works hsaves hclosed
    rw [← hsaves, release_withSave, answer_withSave]
    rw [isAborted, hclosed]
    exact haborted _
  have hcall : m.call cause = m.withSave ⟨cause, m.applied.length, .waiting⟩ := rfl
  have hplay : (m.call cause).play (undisturbed m.saves.length) =
      (((((m.call cause).lock m.saves.length).copy m.saves.length).handOver m.saves.length).rewrite
        0 true |>.release m.saves.length).answer m.saves.length := rfl
  rw [hplay, hcall, lock_withSave hfree (haborted _), copy_withSave, handOver_withSave,
    hidle, List.nil_append, rewrite_withSave]
  have hcontents : m.current.contents = m.contents := rfl
  rw [hcontents]
  -- The disk takes the file or it does not; either way the caller is answered.
  split
  · refine hend _ true ?_ ?_ <;> rfl
  · refine (hend { m with outstanding := [] } false ?_ ?_).trans ?_
    · rfl
    · rfl
    · rw [← hidle]

/-- The disk and the answer to a save that nobody disturbs are those of the save. -/
theorem call_undisturbed (hfree : ∀ s ∈ m.saves, s.point.holdsLock = false)
    (hidle : m.outstanding = []) (cause : SaveCause) (hgoes : cause = .saver → m.isClosed = false) :
    let next := (m.call cause).play (undisturbed m.saves.length)
    next.contents = m.contents ∧ next.disk = (m.contents.save m.disk m.path).2 ∧
      ∃ s c works, next.saves = m.saves ++ [s] ∧ s.cause = cause ∧ s.point = .answered c works ∧
        (m.contents.save m.disk m.path).1 = if works then .ok () else .error .io := by
  intro next
  have hnext : next = _ := play_undisturbed hfree hidle cause hgoes
  rw [hnext]
  rcases hsave : m.contents.save m.disk m.path with ⟨⟨⟩ | ⟨⟩, disk⟩
  · obtain ⟨rfl, rfl⟩ := Snapshot.save_of_error hsave
    exact ⟨rfl, rfl, _, m.current, false, rfl, rfl, rfl, rfl⟩
  · exact ⟨rfl, rfl, _, m.current, true, rfl, rfl, rfl, rfl⟩

/-- Where there is no save to go its way, its events change nothing. -/
theorem play_undisturbed_of_none {i : Nat} (hnone : m.saves[i]? = none)
    (hidle : m.outstanding = []) : m.play (undisturbed i) = m := by
  have hnothing : m.outstanding[0]? = none := by
    rw [hidle]
    rfl
  simp only [undisturbed, play, List.foldl_cons, List.foldl_nil, step, lock, copy, handOver, rewrite,
    release, answer, hnone, hnothing]

/-- A write to a store that saves after every write, as `SnapshotFile` has it. -/
theorem write_undisturbed (hfree : ∀ s ∈ m.saves, s.point.holdsLock = false)
    (hidle : m.outstanding = []) {f : SnapshotFile} (hcontents : f.contents = m.contents)
    (hpath : f.path = m.path) (hperiod : f.period = 0) (hsync : m.isSynchronous = true)
    (w : Write) :
    let next := (m.write w).play (undisturbed m.saves.length)
    let expected := w.performOn m.disk f
    next.contents = expected.2.1.contents ∧ next.disk = expected.2.2 ∧
      ((∃ s, next.saves = m.saves ++ [s] ∧ s.answer? = some expected.1) ∨
        next.saves = m.saves ∧ ∃ e, expected.1 = .error (.invalid e)) := by
  intro next expected
  -- A refused write asks for no save, so the steps that follow find nothing to do.
  rcases f.performOn_cases m.disk w with ⟨e, hperform, hrefused⟩ | ⟨answer, hanswer, hperform⟩
  · rw [hcontents] at hrefused
    have hexpected : expected = _ := hperform
    have hwrite : m.write w = m.performed w := by rw [write, hrefused]
    have hnext : next = m.performed w :=
      (congrArg (fun m : Mirror => m.play _) hwrite).trans
        (play_undisturbed_of_none (List.getElem?_eq_none (Nat.le_refl _)) hidle)
    rw [hexpected, hnext]
    refine ⟨?_, rfl, .inr ⟨rfl, e, rfl⟩⟩
    rw [performed, hrefused, hcontents]
  · rw [hcontents] at hanswer hperform
    have hwrite : m.write w = (m.performed w).call (.write w answer) := by
      rw [write, hanswer]
      exact if_pos hsync
    obtain ⟨hnext, hdisk, s, c, works, hsaves, hcause, hpoint, hresult⟩ :=
      call_undisturbed (m := m.performed w) hfree hidle (.write w answer) fun h => by cases h
    have hcall : next
        = ((m.performed w).call (.write w answer)).play (undisturbed m.saves.length) := by
      rw [← hwrite]
    have hexpected : expected = _ := hperform
    have hsave : SnapshotFile.save { f with contents := (w.perform m.contents).2 } m.disk =
        (m.performed w).contents.save (m.performed w).disk (m.performed w).path := by
      rw [SnapshotFile.save, hpath]
      rfl
    rw [hexpected, hcall, SnapshotFile.afterWrite, if_pos hperiod, hsave]
    -- Both sides depend on the disk by the result of one rewriting only.
    generalize (m.performed w).contents.save (m.performed w).disk (m.performed w).path = result
      at hdisk hresult ⊢
    obtain ⟨done, disk⟩ := result
    obtain rfl : done = if works then .ok () else .error .io := hresult
    have hanswered : s.answer? = some (if works then .ok answer else .error .io) := by
      rw [Save.answer?, hcause, hpoint]
      cases works <;> rfl
    cases works with
    | true => exact ⟨hnext, hdisk, .inl ⟨s, hsaves, hanswered⟩⟩
    | false => exact ⟨hnext, hdisk, .inl ⟨s, hsaves, hanswered⟩⟩

/-- A save of the saver, as `SnapshotFile` has it. -/
theorem tick_undisturbed (hfree : ∀ s ∈ m.saves, s.point.holdsLock = false)
    (hidle : m.outstanding = []) {f : SnapshotFile} (hcontents : f.contents = m.contents)
    (hpath : f.path = m.path) (hsync : m.isSynchronous = false) (hopen : m.isClosed = false)
    (hover : ∀ s ∈ m.saves, s.cause = .saver → s.point.isOver = true) :
    let next := m.tick.play (undisturbed m.saves.length)
    next.contents = f.contents ∧ next.disk = (f.save m.disk).2 := by
  have hall : (m.saves.all fun s => s.cause ≠ .saver || s.point.isOver) = true := by
    rw [List.all_eq_true]
    intro s hs
    by_cases hsaver : s.cause = .saver
    · rw [hover s hs hsaver, Bool.or_true]
    · simp [hsaver]
  -- The saver is not busy, so its interval starts a save.
  have htick : m.tick = m.call .saver := by
    rw [tick, hsync, hopen, hall]
    rfl
  obtain ⟨hnext, hdisk, -⟩ := call_undisturbed hfree hidle .saver fun _ => hopen
  intro next
  have hcall : next = (m.call .saver).play (undisturbed m.saves.length) := by rw [← htick]
  rw [hcall, SnapshotFile.save, hcontents, hpath]
  exact ⟨hnext, hdisk⟩

/-- A closing, as `SnapshotFile` has it. -/
theorem close_undisturbed (hfree : ∀ s ∈ m.saves, s.point.holdsLock = false)
    (hidle : m.outstanding = []) {f : SnapshotFile} (hcontents : f.contents = m.contents)
    (hpath : f.path = m.path) :
    let next := m.close.play (undisturbed m.saves.length)
    let expected := f.close m.disk
    next.contents = expected.2.1.contents ∧ next.disk = expected.2.2 ∧
      ∃ s, next.saves = m.saves ++ [s] ∧ s.answer? = some (expected.1.map fun _ => none) := by
  have hclose : f.close m.disk = ((m.contents.save m.disk m.path).1, { f with nextSave := none },
      (m.contents.save m.disk m.path).2) := by
    rw [SnapshotFile.close, SnapshotFile.save, hcontents, hpath]
  obtain ⟨hnext, hdisk, s, c, works, hsaves, hcause, hpoint, hresult⟩ :=
    call_undisturbed (m := { m with isClosed := true }) hfree hidle .close fun h => by cases h
  intro next expected
  have hexpected : expected = _ := hclose
  rw [hexpected]
  refine ⟨hnext.trans hcontents.symm, hdisk, s, hsaves, ?_⟩
  have hresult : (m.contents.save m.disk m.path).1 = if works then .ok () else .error .io := hresult
  rw [hresult, Save.answer?, hcause, hpoint]
  cases works <;> rfl

end Mirror

end Telemetry

import Telemetry.Proofs.Store.Mirror.File

/-!
# What saves promise

A store that saves after every write never writes an older copy after a newer one, whoever saves and
whichever rewritings fail, and what it has answered without an error is in the file (`Faithful`). A
save whose rewriting has failed is made up for by whatever is written next.

A store with a saver promises less. When it is closed, a rewriting that the saver has handed over
may still be outstanding, and may come last (`closing_save`, `late_rewrite_comes_last`).
-/

namespace Telemetry

namespace Mirror

variable {m next : Mirror} {i n : Nat} {s : Save} {c : Copy} {s₀ : Snapshot} {disk₀ : Disk}

/-! ## What is written from now on -/

/-- The first `n` writes have been performed, and are in the copy of the save that holds the
lock. -/
structure Awaits (n : Nat) (m : Mirror) : Prop where
  performed : n ≤ m.applied.length
  held : ∀ (i : Nat) (s : Save) (c : Copy), m.saves[i]? = some s → s.point.holdsLock = true →
    s.point.copy? = some c → n ≤ c.version

/-- What is in one copy is in every copy that is not written yet. -/
theorem Consistent.awaits (h : m.Consistent s₀ disk₀) (hs : m.saves[i]? = some s)
    (hc : s.point.copy? = some c) : m.Awaits c.version where
  performed := (h.remembers.copies i s c hs hc).1.1
  held := by
    intro j t c' ht hholds hc'
    cases hbusy : s.point.holdsLock with
    | true =>
      obtain rfl := h.locked.exclusive i j s t hs ht hbusy hholds
      rw [hs] at ht
      cases ht
      rw [hc] at hc'
      cases hc'
      exact Nat.le_refl _
    | false => exact h.locked.order i j s t c c' hs ht hbusy hc hholds hc'

/-- Writes that are in every copy to come are so after any event. -/
theorem Awaits.moves (h : m.Awaits n) (hmoves : Moves m next) : next.Awaits n where
  performed := Nat.le_trans h.performed hmoves.savesMove.applied_grows.length_le
  held := by
    intro j t c ht hholds hc
    rcases hmoves.savesMove.save_cases ht with ⟨hwaiting, -⟩ | hs | ⟨s, p, hs, hproceeds, rfl⟩
    · rw [hwaiting] at hc
      cases hc
    · exact h.held j t c hs hholds hc
    -- The copy was there before, or it is taken in this very step.
    · rcases hproceeds.copy?_cases hc with hold | ⟨rfl, -⟩
      · rcases hproceeds.holdsLock_cases hholds with hbefore | ⟨hwaiting, -, -⟩
        · exact h.held j s c hs hbefore hold
        · rw [hwaiting] at hold
          cases hold
      · exact h.performed

/-- A store that saves after every write has no saver that could be dropped. -/
theorem Consistent.not_dropped (h : m.Consistent s₀ disk₀) (hsync : m.isSynchronous = true)
    (hs : m.saves[i]? = some s) : s.point ≠ .dropped c :=
  fun hdropped => h.barred.synchronous hsync i s hs (h.barred.dropped i s c hs hdropped)

/-- What is awaited is in everything that is written from now on. -/
theorem Awaits.play (hawaits : m.Awaits n) (h : m.Consistent s₀ disk₀)
    (hsync : m.isSynchronous = true) (events : List Event) :
    ∃ later, (m.play events).written = m.written ++ later ∧ ∀ r ∈ later, n ≤ r.copy.version := by
  induction events generalizing m with
  | nil => exact ⟨[], (List.append_nil _).symm, nofun⟩
  | cons e rest ih =>
    rcases m.step_cases e with hmoves | hsame
    · obtain ⟨later, hlater, hnew⟩ :=
        ih (hawaits.moves hmoves) (h.step e) (hmoves.fixed.2.trans hsync)
      rcases hmoves.effects.2.2 with ⟨r, hr, hwritten, -⟩ | ⟨hwritten, -⟩
      · refine ⟨r :: later, ?_, List.forall_mem_cons.2 ⟨?_, hnew⟩⟩
        · rw [hwritten, List.append_assoc] at hlater
          exact hlater
        -- What is written now was handed over by the save that holds the lock.
        · obtain ⟨s, hs, -, hpoint⟩ := h.pending.waited r hr
          have hrewriting := hpoint.resolve_right (h.not_dropped hsync hs)
          exact hawaits.held r.save s r.copy hs (by rw [hrewriting]; rfl) (by rw [hrewriting]; rfl)
      · rw [hwritten] at hlater
        exact ⟨later, hlater, hnew⟩
    · have hplay : m.play (e :: rest) = m.play rest :=
        congrArg (fun m : Mirror => m.play rest) hsame
      rw [hplay]
      exact ih hawaits h hsync

/-! ## The writes of a run -/

/-- What a save learns of its rewriting changes nothing in memory. -/
theorem applied_settle (m : Mirror) (r : Rewrite) (works : Bool) :
    (m.settle r works).applied = m.applied := by
  obtain ⟨saves, hsettle⟩ := m.settle_eq r works
  rw [hsettle]

/-- Only a write is performed in memory. -/
theorem applied_step (m : Mirror) (e : Event) :
    (m.step e).applied = m.applied ++ e.write?.toList := by
  cases e with
  | write w =>
    simp only [step, write]
    split
    · split <;> rfl
    · rfl
  | rewrite k works =>
    simp only [step, rewrite]
    split
    · split <;> exact (applied_settle ..).trans (List.append_nil _).symm
    · exact (List.append_nil _).symm
  | _ =>
    -- whatever the others find, they leave the memory alone
    simp only [step, tick, close, drop, lock, copy, handOver, release, answer]
    repeat' split
    all_goals exact (List.append_nil _).symm

/-- The writes of a run are performed one after the other. -/
theorem applied_play (m : Mirror) (events : List Event) :
    (m.play events).applied = m.applied ++ events.filterMap Event.write? := by
  induction events generalizing m with
  | nil => exact (List.append_nil _).symm
  | cons e rest ih =>
    have hplay : m.play (e :: rest) = (m.step e).play rest := rfl
    rw [hplay, ih, applied_step, List.append_assoc, filterMap_cons_eq]

/-! ## A store that saves after every write -/

/-- What the file holds: the last copy that was written, or what it held when nothing has been
written. -/
theorem Consistent.read (h : m.Consistent s₀ disk₀) :
    (m.written = [] ∧ m.disk = disk₀) ∨ ∃ last, m.written.getLast? = some last ∧
      m.disk.read m.path = .ok last.copy.contents.toJson.toUTF8 := by
  cases hlast : m.written.getLast? with
  | none =>
    have hnil := List.getLast?_eq_none_iff.1 hlast
    exact .inl ⟨hnil, h.filed.untouched hnil⟩
  | some last => exact .inr ⟨last, rfl, (h.filed.holds last hlast).read⟩

/-- A store that saves after every write has no saver, so nothing is dropped. -/
theorem Consistent.not_isStray (h : m.Consistent s₀ disk₀) (hsync : m.isSynchronous = true)
    (r : Rewrite) : ¬ m.IsStray r :=
  fun ⟨_, hs, hdropped⟩ => h.not_dropped hsync hs hdropped

/-- An answer without an error is that of a save whose rewriting has worked. -/
theorem saved?_of_answer? {answer : Option Metric} (h : s.answer? = some (.ok answer)) :
    ∃ c, s.point = .answered c true ∧ s.point.saved? = some c ∧
      ∀ w stored, s.cause = .write w stored → answer = stored := by
  unfold Save.answer? at h
  split at h
  · next c w stored hpoint hcause =>
    cases h
    refine ⟨c, hpoint, by rw [hpoint]; rfl, fun w' stored' hcause' => ?_⟩
    rw [hcause] at hcause'
    cases hcause'
    rfl
  · next c hpoint hcause =>
    exact ⟨c, hpoint, by rw [hpoint]; rfl, fun w stored hw => absurd hw (hcause w stored)⟩
  · cases h
  · cases h

/-- What a save has found written was written last, or something was written after it. -/
theorem Consistent.getLast?_of_saved (h : m.Consistent s₀ disk₀) (hs : m.saves[i]? = some s)
    (hc : s.point.saved? = some c) : ∃ last, m.written.getLast? = some last ∧
      (last = ⟨i, s.cause, c⟩ ∨ m.MayFollow ⟨i, s.cause, c⟩ last) := by
  have hmem := h.recorded.saved i s c hs hc
  obtain ⟨last, hlast⟩ :=
    Option.isSome_iff_exists.1 (List.getLast?_isSome.2 (List.ne_nil_of_mem hmem))
  obtain ⟨before, hwritten⟩ := List.getLast?_eq_some_iff.1 hlast
  refine ⟨last, hlast, ?_⟩
  have hordered := h.recorded.ordered
  rw [hwritten] at hmem hordered
  rcases List.mem_append.1 hmem with hbefore | hsame
  · exact .inr ((List.pairwise_append.1 hordered).2.2 _ hbefore _ List.mem_cons_self)
  · exact .inl (List.mem_singleton.1 hsame).symm

/-- What a store that saves after every write promises at any moment: `s₀` and `disk₀` are its
contents and its disk when it was opened. -/
structure Faithful (s₀ : Snapshot) (disk₀ : Disk) (m : Mirror) : Prop where
  /-- Memory is what the store in memory would hold, whichever saves have failed. -/
  memory : m.contents = (History.run s₀ m.applied).store
  /-- What was written was held at some time. -/
  held : ∀ r ∈ m.written, m.HasHeld s₀ r.copy
  /-- What was written later is not older. -/
  forward : m.written.Pairwise fun a b => a.copy.version ≤ b.copy.version
  /-- The file holds what was written last. -/
  file : (m.written = [] ∧ m.disk = disk₀) ∨ ∃ last, m.written.getLast? = some last ∧
    m.disk.read m.path = .ok last.copy.contents.toJson.toUTF8
  /-- The file includes whatever a caller has been told is saved. -/
  answered : ∀ s ∈ m.saves, ∀ answer, s.answer? = some (.ok answer) →
    ∃ last, m.written.getLast? = some last ∧ s.since ≤ last.copy.version
  /-- The save of a write comes right after the write, and answers as the store in memory does. -/
  own : ∀ s ∈ m.saves, ∀ w stored, s.cause = .write w stored →
    m.HasAnswered s₀ s.since w stored ∧ ∀ answer, s.answer? = some (.ok answer) → answer = stored
  /-- Once a save has taken its copy, everything that is written includes what it was to save,
  whether its own rewriting works or fails. -/
  later : ∀ s ∈ m.saves, ∀ c, s.point.copy? = some c → s.since ≤ c.version ∧ ∀ events,
    ∃ more, (m.play events).written = m.written ++ more ∧ ∀ r ∈ more, c.version ≤ r.copy.version

/-- **Saves never go backwards.** Any number of writes and saves come in any order, and any of the
rewritings fail. -/
theorem saves_never_go_backwards (contents : Snapshot) (path : Path) (disk : Disk)
    (hsettled : disk.IsSettled path) (events : List Event) :
    ((fresh contents path disk true).play events).applied = events.filterMap Event.write? ∧
      ((fresh contents path disk true).play events).Faithful contents disk := by
  have hconsistent := (consistent_fresh contents hsettled true).play events
  have hsync := (fixed_play (fresh contents path disk true) events).2
  have happlied := applied_play (fresh contents path disk true) events
  generalize (fresh contents path disk true).play events = m at hconsistent hsync happlied
  refine ⟨happlied, ?_⟩
  -- No rewriting is a stray one, so each may follow the others only by not being older.
  have hforward : m.written.Pairwise fun a b => a.copy.version ≤ b.copy.version :=
    hconsistent.recorded.ordered.imp fun hfollow =>
      (hfollow.resolve_left (hconsistent.not_isStray hsync _)).1
  exact {
    memory := hconsistent.remembers.contents
    held := fun r hr => hconsistent.hasHeld hr
    forward := hforward
    file := hconsistent.read
    answered := by
      intro s hs answer hanswer
      obtain ⟨i, hi⟩ := List.getElem?_of_mem hs
      obtain ⟨c, -, hsaved, -⟩ := saved?_of_answer? hanswer
      have hsince := (hconsistent.remembers.copies i s c hi (copy?_of_saved? hsaved)).2
      obtain ⟨last, hlast, rfl | hfollow⟩ := hconsistent.getLast?_of_saved hi hsaved
      · exact ⟨_, hlast, hsince⟩
      -- What was written last is not older than the copy of this save.
      · have hversion := (hfollow.resolve_left (hconsistent.not_isStray hsync last)).1
        exact ⟨last, hlast, Nat.le_trans hsince hversion⟩
    own := by
      intro s hs w stored hcause
      obtain ⟨i, hi⟩ := List.getElem?_of_mem hs
      refine ⟨hconsistent.remembers.own i s w stored hi hcause, fun answer hanswer => ?_⟩
      obtain ⟨c, -, -, hstored⟩ := saved?_of_answer? hanswer
      exact hstored w stored hcause
    later := by
      intro s hs c hc
      obtain ⟨i, hi⟩ := List.getElem?_of_mem hs
      exact ⟨(hconsistent.remembers.copies i s c hi hc).2, fun events =>
        (hconsistent.awaits hi hc).play hconsistent hsync events⟩ }

/-- Two writes are performed before one of them is saved. The save of the later one comes first and
fails; the save of the earlier one works. -/
def failedThenSaved : List Event :=
  [.write (.one (Metric.counter "c" 1)), .write (.one (Metric.counter "c" 2)),
    .lock 1, .copy 1, .handOver 1, .rewrite 0 false, .lock 0, .release 1, .lock 0, .answer 1,
    .copy 0, .handOver 0, .rewrite 0 true, .release 0, .answer 0]

/-- The later write is answered with an error, and the save of the earlier one writes both. -/
theorem saves_never_go_backwards_failedThenSaved :
    Disk.empty.IsSettled ⟨"/m.json"⟩ ∧
      ((fresh Snapshot.empty ⟨"/m.json"⟩ Disk.empty true).play failedThenSaved).Faithful
        Snapshot.empty Disk.empty ∧
      ((fresh Snapshot.empty ⟨"/m.json"⟩ Disk.empty true).play failedThenSaved).saves.map
        Save.answer? = [some (.ok (some (Metric.counter "c" 1))), some (.error .io)] ∧
      ((fresh Snapshot.empty ⟨"/m.json"⟩ Disk.empty true).play failedThenSaved).written.map
        (fun r => r.copy) = [⟨2, ⟨Series.ofList [("c", 3)], Series.ofList []⟩⟩] := by
  have hsettled := Disk.isSettled_empty ⟨"/m.json"⟩
  exact ⟨hsettled, (saves_never_go_backwards Snapshot.empty ⟨"/m.json"⟩ Disk.empty hsettled
    failedThenSaved).2, by decide +kernel, by decide +kernel⟩

/-! ## A store with a saver -/

/-- **The last save.** A closing has been answered without an error: its own copy includes every
write that was performed before it, and was written. The file holds it or a newer copy, and exactly
it if only the saver has saved besides, unless what was written last is of the saver, which was
dropped while it waited for it. -/
theorem closing_save (contents : Snapshot) (path : Path) (disk : Disk)
    (hsettled : disk.IsSettled path) (events : List Event) (i : Nat) (s : Save)
    (hs : ((fresh contents path disk false).play events).saves[i]? = some s)
    (hcause : s.cause = .close) (hanswer : s.answer? = some (.ok none)) :
    let m := (fresh contents path disk false).play events
    ∃ c last, s.point = .answered c true ∧ s.since ≤ c.version ∧ m.HasHeld contents c ∧
      m.written.getLast? = some last ∧
      m.disk.read path = .ok last.copy.contents.toJson.toUTF8 ∧
      ((last.cause = .saver ∧ m.IsStray last) ∨ c.version ≤ last.copy.version ∧
        ((∀ j t, m.saves[j]? = some t → j ≠ i → t.cause = .saver) → last.copy = c)) := by
  have hconsistent := (consistent_fresh contents hsettled false).play events
  have hpath := (fixed_play (fresh contents path disk false) events).1
  generalize (fresh contents path disk false).play events = m at hconsistent hpath hs ⊢
  obtain ⟨c, hpoint, hsaved, -⟩ := saved?_of_answer? hanswer
  obtain ⟨hheld, hsince⟩ := hconsistent.remembers.copies i s c hs (copy?_of_saved? hsaved)
  obtain ⟨last, hlast, hfollow⟩ := hconsistent.getLast?_of_saved hs hsaved
  have hread : m.disk.read path = .ok last.copy.contents.toJson.toUTF8 := by
    rw [← show m.path = path from hpath]
    exact (hconsistent.filed.holds last hlast).read
  refine ⟨c, last, hpoint, hsince, hheld, hlast, hread, ?_⟩
  obtain ⟨t, ht, hcause', hthrough⟩ :=
    hconsistent.recorded.written last (List.mem_of_getLast? hlast)
  -- Only what a dropped saver had handed over may have come after the closing save.
  by_cases hstray : m.IsStray last
  · refine .inl ⟨?_, hstray⟩
    obtain ⟨u, hu, hdropped⟩ := hstray
    rw [hu] at ht
    cases ht
    exact hcause' ▸ hconsistent.barred.dropped last.save t last.copy hu hdropped
  · right
    rcases hfollow with rfl | hfollow
    · exact ⟨Nat.le_refl _, fun _ => rfl⟩
    · obtain ⟨hversion, hnosaver⟩ := hfollow.resolve_left hstray
      refine ⟨hversion, fun hothers => ?_⟩
      -- With no other save than the saver's the last one written is the closing one itself.
      by_cases hi : last.save = i
      · subst hi
        rw [hs] at ht
        cases ht
        rcases hthrough with hcopy | hdropped
        · exact Option.some.inj (hcopy.symm.trans hsaved)
        · exact absurd ⟨s, hs, hdropped⟩ hstray
      · exact absurd (hcause' ▸ hothers _ t ht hi) (hnosaver hcause)

/-- The saver is dropped before it has handed anything over, and the closing saves last. -/
def closedInTime : List Event :=
  [.write (.one (Metric.counter "c" 1)), .tick, .lock 0, .copy 0, .handOver 0, .rewrite 0 true,
    .release 0, .answer 0, .write (.one (Metric.counter "c" 2)), .tick, .close, .drop 1] ++
  undisturbed 2

/-- A saver that has handed over nothing when the store is closed: the file is left with what the
closing has saved. -/
theorem closing_save_closedInTime :
    let m := (fresh Snapshot.empty ⟨"/m.json"⟩ Disk.empty false).play closedInTime
    Disk.empty.IsSettled ⟨"/m.json"⟩ ∧
      m.saves[2]?
        = some ⟨.close, 2, .answered ⟨2, ⟨Series.ofList [("c", 3)], Series.ofList []⟩⟩ true⟩ ∧
      m.outstanding = [] ∧
      m.disk.read ⟨"/m.json"⟩
        = .ok (Snapshot.toJson ⟨Series.ofList [("c", 3)], Series.ofList []⟩).toUTF8 := by
  have hsettled := Disk.isSettled_empty ⟨"/m.json"⟩
  have hs : ((fresh Snapshot.empty ⟨"/m.json"⟩ Disk.empty false).play closedInTime).saves[2]?
      = some ⟨.close, 2, .answered ⟨2, ⟨Series.ofList [("c", 3)], Series.ofList []⟩⟩ true⟩ := by
    decide +kernel
  have hwritten :
      ((fresh Snapshot.empty ⟨"/m.json"⟩ Disk.empty false).play closedInTime).written.getLast?
        = some ⟨2, .close, ⟨2, ⟨Series.ofList [("c", 3)], Series.ofList []⟩⟩⟩ := by
    decide +kernel
  obtain ⟨c, last, -, -, -, hlast, hread, -⟩ := closing_save Snapshot.empty ⟨"/m.json"⟩
    Disk.empty hsettled closedInTime 2 _ hs rfl rfl
  obtain rfl := Option.some.inj (hlast.symm.trans hwritten)
  exact ⟨hsettled, hs, by decide +kernel, hread⟩

/-- What the saver has handed over before it is dropped is carried out after the closing has been
answered. -/
def closedTooLate : List Event :=
  [.write (.one (Metric.counter "c" 1)), .tick, .lock 0, .copy 0, .handOver 0,
    .write (.one (Metric.counter "c" 2)), .close, .drop 0] ++
  [.lock 1, .copy 1, .handOver 1, .rewrite 1 true, .release 1, .answer 1, .rewrite 0 true]

/-- A closing that has been answered without an error, with nothing outstanding, and a file that
holds less than the store did when it was closed. -/
theorem late_rewrite_comes_last :
    let m := (fresh Snapshot.empty ⟨"/m.json"⟩ Disk.empty false).play closedTooLate
    m.outstanding = [] ∧ m.contents = ⟨Series.ofList [("c", 3)], Series.ofList []⟩ ∧
      m.saves = [⟨.saver, 1, .dropped ⟨1, ⟨Series.ofList [("c", 1)], Series.ofList []⟩⟩⟩,
        ⟨.close, 2, .answered ⟨2, m.contents⟩ true⟩] ∧
      m.disk.read ⟨"/m.json"⟩
        = .ok (Snapshot.toJson ⟨Series.ofList [("c", 1)], Series.ofList []⟩).toUTF8 ∧
      m.disk.read ⟨"/m.json"⟩ ≠ .ok m.contents.toJson.toUTF8 := by
  decide +kernel

end Mirror

end Telemetry

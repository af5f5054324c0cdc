import Telemetry.Proofs.Store.Mirror.Saves
import Telemetry.Store.Restart

/-!
# What sessions restore

A session finds what the session before it has left in the file: the copy that was written last, or
what it had found itself if nothing was written (`FileSession.keeps_run`). As long as no rewriting
that an aborted saver had handed over comes last, this is what the writes of all sessions so far
make of an empty store (`opened_eq_run`): a store that is closed has saved its contents in the end,
and one that saves after every write has done so whenever a write was answered. Otherwise it is an
older copy (`late_rewrite_is_restored`).

`Disk.Keeps` says that a file keeps a snapshot: it holds its text, or nothing has been stored yet
and there is no file. `Disk.Offers` says so of the file that the next session will open.
-/

namespace Telemetry

/-- Nothing is left to restore: no file is where the path leads once its folders are made. -/
def Disk.IsVacant (d : Disk) (p : Path) : Prop :=
  ∀ bytes, (d.makeFolders p.parent).2.read p ≠ .ok bytes

/-- Where the folder is there already, it is enough that the path leads to no file. (A path through
two dots may lead to an old file only after the folder in front of the dots has been made.) -/
theorem Disk.isVacant_iff {d : Disk} {p : Path} (h : d.isFolder p.parent = true) :
    d.IsVacant p ↔ ∀ bytes, d.read p ≠ .ok bytes := by
  rw [IsVacant, makeFolders_of_isFolder h]

/-- A store that is opened at the path will find the snapshot. -/
def Disk.Offers (d : Disk) (p : Path) (s : Snapshot) : Prop :=
  ∀ next, d.makeFolders p.parent = (.ok (), next) → next.Keeps p s

/-- Where the folder is there already, opening makes nothing. -/
theorem Disk.Keeps.offers {d : Disk} {p : Path} {s : Snapshot} (h : d.Keeps p s)
    (hfolder : d.isFolder p.parent = true) : d.Offers p s := by
  intro next hnext
  rw [makeFolders_of_isFolder hfolder] at hnext
  cases hnext
  exact h

/-- Nothing is offered where nothing is left. -/
theorem Disk.IsVacant.offers {d : Disk} {p : Path} (h : d.IsVacant p) :
    d.Offers p Snapshot.empty := by
  intro next hnext
  have hfolders : (d.makeFolders p.parent).2 = next := congrArg Prod.snd hnext
  exact .inr ⟨rfl, hfolders ▸ h⟩

/-- A store that is opened finds the snapshot that is offered, or the file cannot be read. -/
theorem SnapshotFile.openAt_of_offers {d : Disk} {p : Path} {s : Snapshot} (h : d.Offers p s)
    (hfinite : s.AllFinite) (now intervalSeconds : Nat) :
    (openAt now d p intervalSeconds true).1 = .error .io ∨
      ∃ f next, openAt now d p intervalSeconds true = (.ok f, next) ∧ f.contents = s ∧
        f.period = 1000 * intervalSeconds ∧ next.isFolder p.parent = true ∧ next.Keeps p s := by
  -- Opening makes the folder, loads the file and may fail at either.
  cases hfolders : d.makeFolders p.parent with
  | mk result disk =>
    cases result with
    | error e =>
      left
      simp [openAt, hfolders]
    | ok u =>
      have hkeeps := h disk hfolders
      rcases Snapshot.load_of_keeps hfinite hkeeps with hload | ⟨found, hload, hfound⟩
      · left
        simp [openAt, hfolders, hload]
      · right
        refine ⟨_, disk, by simp [openAt, hfolders, hload]; rfl, hfound, rfl,
          Disk.isFolder_of_makeFolders hfolders, hkeeps⟩

namespace Mirror

variable {m : Mirror} {s₀ : Snapshot} {disk₀ : Disk} {i n : Nat} {s : Save} {c : Copy}

/-! ## What a run leaves alone -/

/-- Events leave the folders of the disk alone. -/
theorem isFolder_play {p : Path} (hfolder : m.disk.isFolder p = true) (events : List Event) :
    (m.play events).disk.isFolder p = true := by
  induction events generalizing m with
  | nil => exact hfolder
  | cons e rest ih =>
    refine ih (m := m.step e) ?_
    rcases m.step_cases e with hmoves | hsame
    · rcases hmoves.effects.2.2 with ⟨r, -, -, hsave⟩ | ⟨-, hdisk⟩
      · exact (Snapshot.extends_of_save hsave).isFolder hfolder
      · rwa [hdisk]
    · rwa [hsame]

/-- A save that has come stays, with its cause, whatever else happens. -/
theorem SavesMove.survives {next : Mirror} (h : SavesMove m next) (hs : m.saves[i]? = some s) :
    ∃ t, next.saves[i]? = some t ∧ t.cause = s.cause ∧ t.since = s.since := by
  cases h with
  | same hsaves _ _ => exact ⟨s, hsaves ▸ hs, rfl, rfl⟩
  | call cause hsaves _ _ _ _ _ => exact ⟨s, hsaves ▸ getElem?_append hs _, rfl, rfl⟩
  | proceed j u p hu hproceeds hsaves _ _ =>
    rw [hsaves]
    by_cases hij : j = i
    · subst hij
      rw [hs] at hu
      cases hu
      exact ⟨_, getElem?_put_self hs p, rfl, rfl⟩
    · exact ⟨s, by rw [getElem?_put_of_ne hij]; exact hs, rfl, rfl⟩

/-- No event takes a save away or gives it another cause. -/
theorem survives_step (hs : m.saves[i]? = some s) (e : Event) :
    ∃ t, (m.step e).saves[i]? = some t ∧ t.cause = s.cause ∧ t.since = s.since := by
  rcases m.step_cases e with hmoves | hsame
  · exact hmoves.savesMove.survives hs
  · refine ⟨s, ?_, rfl, rfl⟩
    rwa [hsame]

/-- No run takes a save away or gives it another cause. -/
theorem survives_play (hs : m.saves[i]? = some s) (events : List Event) :
    ∃ t, (m.play events).saves[i]? = some t ∧ t.cause = s.cause ∧ t.since = s.since := by
  induction events generalizing m s with
  | nil => exact ⟨s, hs, rfl, rfl⟩
  | cons e rest ih =>
    obtain ⟨t, ht, hcause, hsince⟩ := survives_step hs e
    obtain ⟨u, hu, hcause', hsince'⟩ := ih ht
    exact ⟨u, hu, hcause'.trans hcause, hsince'.trans hsince⟩

/-! ## Which saves are enough -/

/-- After the first `n` writes the contents have not changed any more: the others were refused, or
there are none. -/
def Suffices (s₀ : Snapshot) (n : Nat) (m : Mirror) : Prop :=
  ∀ v, n ≤ v → (History.run s₀ (m.applied.take v)).store = m.contents

/-- All writes are enough. -/
theorem Remembers.suffices (h : m.Remembers s₀) : m.Suffices s₀ m.applied.length := by
  intro v hv
  rw [List.take_of_length_le hv]
  exact h.contents.symm

/-- Enough stays enough if a write more is refused, or none comes. -/
theorem Suffices.of_same {next : Mirror} (h : m.Suffices s₀ n) (hnext : next.Remembers s₀)
    (more : List Write) (happlied : next.applied = m.applied ++ more)
    (hmore : more.length ≤ 1) (hcontents : next.contents = m.contents) : next.Suffices s₀ n := by
  intro v hv
  rcases Nat.lt_or_ge m.applied.length v with hlong | hshort
  · exact hnext.suffices v (by rw [happlied, List.length_append]; omega)
  · rw [happlied, List.take_append_of_le_length hshort, hcontents]
    exact h v hv

/-- A save was asked for behind the last write that has changed the contents. -/
def Covered (s₀ : Snapshot) (m : Mirror) : Prop :=
  ∃ n, m.Suffices s₀ n ∧ (n = 0 ∨ ∃ (i : Nat) (s : Save), m.saves[i]? = some s ∧ s.since = n)

/-- In a store that saves after every write, an accepted write asks for a save of its own, and a
refused one changes nothing. -/
theorem Covered.step (h : m.Covered s₀) (hconsistent : m.Consistent s₀ disk₀)
    (hsync : m.isSynchronous = true) (e : Event) : (m.step e).Covered s₀ := by
  have hnext := (hconsistent.step e).remembers
  have happlied := m.applied_step e
  obtain ⟨n, hsuffices, hsave⟩ := h
  have hsurvives : n = 0 ∨
      ∃ (i : Nat) (s : Save), (m.step e).saves[i]? = some s ∧ s.since = n := by
    rcases hsave with hzero | ⟨i, s, hs, hsince⟩
    · exact .inl hzero
    · obtain ⟨t, ht, -, hsince'⟩ := survives_step hs e
      exact .inr ⟨i, t, ht, hsince'.trans hsince⟩
  cases hwrite : e.write? with
  | none =>
    rw [hwrite, Option.toList_none, List.append_nil] at happlied
    have hcontents : (m.step e).contents = m.contents := by
      rw [hnext.contents, happlied, hconsistent.remembers.contents]
    exact ⟨n, hsuffices.of_same hnext [] (by simpa using happlied) (Nat.zero_le 1) hcontents,
      hsurvives⟩
  | some w =>
    obtain rfl : e = .write w := by
      cases e with
      | write w' => rw [Option.some.inj hwrite]
      | _ => cases hwrite
    rcases perform_cases m.contents w with ⟨answer, next, hw, -, -⟩ | ⟨refusal, hw⟩
    · -- the save that the write asks for comes right after all the writes so far
      refine ⟨_, hnext.suffices, .inr ⟨m.saves.length, ?_⟩⟩
      have hstep : m.step (.write w) = (m.performed w).call (.write w answer) := by
        simp only [Mirror.step, write, hw, hsync, if_true]
      rw [hstep]
      exact ⟨_, List.getElem?_concat_length, rfl⟩
    · refine ⟨n, hsuffices.of_same hnext [w] happlied (Nat.le_refl 1) ?_, hsurvives⟩
      rw [hnext.contents, happlied]
      show (History.run s₀ (m.applied ++ [w])).store = m.contents
      rw [History.store_run_append, ← hconsistent.remembers.contents, hw]

/-- At every moment of a store that saves after every write a save has been asked for behind the last
change. -/
theorem Covered.play (h : m.Covered s₀) (hconsistent : m.Consistent s₀ disk₀)
    (hsync : m.isSynchronous = true) (events : List Event) : (m.play events).Covered s₀ := by
  induction events generalizing m with
  | nil => exact h
  | cons e rest ih =>
    exact ih (h.step hconsistent hsync e) (hconsistent.step e)
      ((fixed_play m [e]).2.trans hsync)

/-- In a fresh store nothing is left to be saved. -/
theorem covered_fresh (s₀ : Snapshot) (path : Path) (disk : Disk) (isSynchronous : Bool) :
    (fresh s₀ path disk isSynchronous).Covered s₀ := by
  refine ⟨0, fun v _ => ?_, .inl rfl⟩
  show (History.run s₀ (List.take v [])).store = s₀
  rw [List.take_nil]
  rfl

/-! ## What is left in the file -/

/-- What the file holds in the end: the copy that was written last, or what was found in it. -/
def left (m : Mirror) (found : Snapshot) : Snapshot :=
  match m.written.getLast? with
  | some r => r.copy.contents
  | none => found

/-- The file keeps what is left in it. -/
theorem Consistent.keeps_left (h : m.Consistent s₀ disk₀) (hkeeps : disk₀.Keeps m.path s₀) :
    m.disk.Keeps m.path (m.left s₀) := by
  unfold left
  cases hlast : m.written.getLast? with
  | some r => exact .inl (h.filed.holds r hlast)
  | none =>
    rw [h.filed.untouched (List.getLast?_eq_none_iff.1 hlast)]
    exact hkeeps

/-- What is left is what some of the writes have made of the contents. -/
theorem Consistent.exists_left_eq (h : m.Consistent s₀ disk₀) :
    ∃ writes, m.left s₀ = (History.run s₀ writes).store := by
  unfold left
  cases hlast : m.written.getLast? with
  | some r => exact ⟨_, (h.hasHeld (List.mem_of_getLast? hlast)).2⟩
  | none => exact ⟨[], rfl⟩

/-- The rewriting that comes last is not one that an aborted saver had handed over. -/
def EndsOwn (m : Mirror) : Prop := ∀ r ∈ m.written.getLast?, ¬ m.IsStray r

instance (m : Mirror) (r : Rewrite) : Decidable (m.IsStray r) :=
  match h : m.saves[r.save]? with
  | some s =>
    if hpoint : s.point = .dropped r.copy then isTrue ⟨s, h, hpoint⟩
    else isFalse fun ⟨_, ht, hdropped⟩ =>
      hpoint (Option.some.inj (h.symm.trans ht) ▸ hdropped)
  | none => isFalse fun ⟨_, ht, _⟩ => Option.some_ne_none _ (ht.symm.trans h)

instance (m : Mirror) : Decidable m.EndsOwn :=
  inferInstanceAs (Decidable (∀ r ∈ m.written.getLast?, ¬ m.IsStray r))

/-- The saver is not in the middle of a save: no save of its holds the lock, or was dropped while it
held it. -/
def SaverRests (m : Mirror) : Prop :=
  ∀ (i : Nat) (s : Save), m.saves[i]? = some s → s.cause = .saver →
    s.point.holdsLock = false ∧ ∀ c, s.point ≠ .dropped c

/-- The saver of a closed store does not come to hold the lock again, so it rests for good. -/
theorem SaverRests.moves {next : Mirror} (h : m.SaverRests) (hclosed : m.isClosed = true)
    (hmoves : Moves m next) : next.SaverRests := by
  intro i t ht hsaver
  rcases hmoves.savesMove.save_cases ht with ⟨hwaiting, -⟩ | hs | ⟨s, p, hs, hproceeds, rfl⟩
  · rw [hwaiting]
    exact ⟨rfl, nofun⟩
  · exact h i t hs hsaver
  · obtain ⟨hfree, -⟩ := h i s hs hsaver
    have haborted : m.isAborted s = true := by
      have hcause : s.cause = .saver := hsaver
      simp [isAborted, hcause, hclosed]
    refine ⟨?_, fun c hdropped => ?_⟩
    · by_contra hholds
      rcases hproceeds.holdsLock_cases (by simpa using hholds) with hbefore | ⟨-, hgoes, -⟩
      · rw [hfree] at hbefore
        cases hbefore
      · rw [haborted] at hgoes
        cases hgoes
    · -- it could only be dropped where it waits for a rewriting, and then it holds the lock
      rw [(hproceeds.dropped hdropped).2] at hfree
      cases hfree

/-- A closed store stays closed. -/
theorem Moves.isClosed {next : Mirror} (h : Moves m next) (hclosed : m.isClosed = true) :
    next.isClosed = true := by
  cases h.savesMove with
  | same _ _ hsame => exact hsame.trans hclosed
  | call _ _ _ _ _ hstays _ => exact hstays hclosed
  | proceed _ _ _ _ _ _ _ hsame => exact hsame.trans hclosed

/-- After the store is closed the saver starts nothing, so once it rests it goes on resting. -/
theorem SaverRests.play (h : m.SaverRests) (hclosed : m.isClosed = true) (events : List Event) :
    (m.play events).SaverRests := by
  induction events generalizing m with
  | nil => exact h
  | cons e rest ih =>
    refine ih (m := m.step e) ?_ ?_ <;> rcases m.step_cases e with hmoves | hsame
    · exact h.moves hclosed hmoves
    · rwa [hsame]
    · exact hmoves.isClosed hclosed
    · rwa [hsame]

/-- If the saver rests when the store is closed, nothing of it comes last. -/
theorem Consistent.endsOwn_of_saverRests (h : m.Consistent s₀ disk₀) (hrests : m.SaverRests) :
    m.EndsOwn := by
  rintro r - ⟨s, hs, hdropped⟩
  exact (hrests r.save s hs (h.barred.dropped r.save s r.copy hs hdropped)).2 r.copy hdropped

/-- The closing is a save of its own, and no save of the saver. -/
theorem SaverRests.close (h : m.SaverRests) : m.close.SaverRests := by
  intro i s hs hsaver
  rcases append_cases hs with rfl | hs
  · cases hsaver
  · exact h i s hs hsaver

/-- A save that has come after enough writes and has worked leaves all of them in the file. -/
theorem Consistent.left_eq_of_saved (h : m.Consistent s₀ disk₀) (hown : m.EndsOwn)
    (hsuffices : m.Suffices s₀ n) (hs : m.saves[i]? = some s) (hc : s.point.saved? = some c)
    (hsince : n ≤ s.since) : m.left s₀ = m.contents := by
  obtain ⟨last, hlast, hfollow⟩ := h.getLast?_of_saved hs hc
  have hversion : c.version ≤ last.copy.version := by
    rcases hfollow with rfl | hfollow
    · exact Nat.le_refl _
    · exact (hfollow.resolve_left (hown last hlast)).1
  have hcopy := (h.remembers.copies i s c hs (copy?_of_saved? hc)).2
  have hheld := (h.hasHeld (List.mem_of_getLast? hlast)).2
  have hleft : m.left s₀ = last.copy.contents := by rw [left, hlast]
  rw [hleft, hheld]
  exact hsuffices _ (by omega)

/-- If no write has changed anything, neither has the file changed. -/
theorem Consistent.left_eq_of_unchanged (h : m.Consistent s₀ disk₀) (hsame : m.Suffices s₀ 0) :
    m.left s₀ = m.contents := by
  unfold left
  cases hlast : m.written.getLast? with
  | some r =>
    rw [← hsame r.copy.version (Nat.zero_le _)]
    exact (h.hasHeld (List.mem_of_getLast? hlast)).2
  | none => exact hsame 0 (Nat.le_refl 0)

/-- A call that has been answered, but not with a failing file, has been saved. -/
theorem exists_saved_of_answered (hanswered : s.answer?.isSome = true)
    (hfaultless : s.answer?.any isFileFault = false) : ∃ c, s.point.saved? = some c := by
  cases hanswer : s.answer? with
  | none =>
    rw [hanswer] at hanswered
    cases hanswered
  | some answer =>
    cases answer with
    | ok stored =>
      obtain ⟨c, -, hsaved, -⟩ := saved?_of_answer? hanswer
      exact ⟨c, hsaved⟩
    | error e =>
      rw [hanswer] at hfaultless
      -- the only error of a save is that of the file
      have hio : e = .io := by
        unfold Save.answer? at hanswer
        split at hanswer
        · cases hanswer
        · cases hanswer
        · exact (Except.error.inj (Option.some.inj hanswer)).symm
        · cases hanswer
      rw [hio] at hfaultless
      cases hfaultless

end Mirror

namespace FileSession

variable {p : Path} {d : Disk} {s₀ : Snapshot} {s : FileSession}

/-! ## One session -/

/-- The store of a session right after it has been opened on contents that were found. -/
def store (s : FileSession) (found : Snapshot) (p : Path) (d : Disk) : Mirror :=
  .fresh found p d (1000 * s.intervalSeconds = 0)

/-- A session finds what is offered, and offers what it leaves in the file. -/
theorem keeps_run (hoffers : d.Offers p s₀) (hfinite : s₀.AllFinite) (s : FileSession)
    (hfaultless : (s.run p d).1.isFaultless = true) :
    ∃ disk, (s.run p d).1
        = ⟨.ok (s.store s₀ p disk), some ((s.store s₀ p disk).play s.events)⟩ ∧
      (s.store s₀ p disk).Consistent s₀ disk ∧
      (s.run p d).2.Offers p (((s.store s₀ p disk).play s.events).left s₀) := by
  -- A session that could not be opened is not faultless.
  rcases SnapshotFile.openAt_of_offers hoffers hfinite 0 s.intervalSeconds with
    hio | ⟨f, disk, hopen, rfl, hperiod, hfolder, hkeeps⟩
  · have hopened : (s.run p d).1.opened = .error .io := by
      unfold run
      split
      · next e next hopen =>
        rw [hopen] at hio
        cases hio
        rfl
      · next hopen =>
        rw [hopen] at hio
        cases hio
    simp [SessionReport.isFaultless, hopened, isFileFault] at hfaultless
  · have hrun : s.run p d = (⟨.ok (s.store f.contents p disk),
          some ((s.store f.contents p disk).play s.events)⟩,
        ((s.store f.contents p disk).play s.events).disk) := by
      simp only [run, hopen, hperiod, store]
    have hfresh : (s.store f.contents p disk).Consistent f.contents disk :=
      Mirror.consistent_fresh f.contents hkeeps.isSettled _
    have hpath := (Mirror.fixed_play (s.store f.contents p disk) s.events).1
    refine ⟨disk, congrArg Prod.fst hrun, hfresh, ?_⟩
    have hleft := (hfresh.play s.events).keeps_left (hpath.symm ▸ hkeeps)
    rw [hpath] at hleft
    rw [congrArg Prod.snd hrun]
    exact hleft.offers (Mirror.isFolder_play (m := s.store f.contents p disk) hfolder s.events)

/-- A session that is closed plays its work, then the closing, then what comes behind it. -/
theorem play_events_of_closing {later : List Mirror.Event} (h : s.closing = some later)
    (m : Mirror) : m.play s.events = ((m.play s.work).close).play later := by
  have hevents : s.events = s.work ++ .close :: later := by rw [events, h]
  rw [hevents, Mirror.play, List.foldl_append, List.foldl_cons]
  rfl

/-- The writes of a session are performed, in their order, and none behind the closing. -/
theorem applied_play_events (s : FileSession) (found : Snapshot) (disk : Disk) :
    ((s.store found p disk).play s.events).applied = s.writes := by
  have hwrites : s.events.filterMap Mirror.Event.write? = s.writes := by
    have hquiet := s.quiet
    unfold events
    cases hclosing : s.closing with
    | none => rfl
    | some later =>
      rw [hclosing] at hquiet
      rw [List.filterMap_append, List.filterMap_cons_none rfl]
      exact (congrArg (s.writes ++ ·) hquiet).trans (List.append_nil _)
  rw [Mirror.applied_play, hwrites]
  rfl

/-- Behind the closing there is a save that has come after all writes. -/
theorem exists_closing_save {later : List Mirror.Event} (h : s.closing = some later)
    (found : Snapshot) (disk : Disk) :
    ∃ (i : Nat) (t : Save), ((s.store found p disk).play s.events).saves[i]? = some t ∧
      t.cause = .close ∧
      t.since = ((s.store found p disk).play s.events).applied.length := by
  have hcall : (((s.store found p disk).play s.work).close).saves[
      ((s.store found p disk).play s.work).saves.length]?
      = some ⟨.close, ((s.store found p disk).play s.work).applied.length, .waiting⟩ :=
    List.getElem?_concat_length
  obtain ⟨t, ht, hcause, hsince⟩ := Mirror.survives_play hcall later
  refine ⟨((s.store found p disk).play s.work).saves.length, t, ?_, hcause, ?_⟩
  · rw [play_events_of_closing h]
    exact ht
  · rw [applied_play_events, hsince, Mirror.applied_play]
    rfl

/-- A session whose calls have been answered leaves in the file what its writes have made of the
contents, unless a rewriting of its aborted saver comes last. -/
theorem left_eq_of_isOver {disk : Disk} (hfresh : (s.store s₀ p disk).Consistent s₀ disk)
    (hfaultless : ∀ t ∈ ((s.store s₀ p disk).play s.events).saves,
      t.answer?.any isFileFault = false)
    (hover : ∀ t ∈ ((s.store s₀ p disk).play s.events).saves,
      t.cause = .saver ∨ t.answer?.isSome = true)
    (hown : ((s.store s₀ p disk).play s.events).EndsOwn) :
    ((s.store s₀ p disk).play s.events).left s₀ = (History.run s₀ s.writes).store := by
  have hconsistent := hfresh.play s.events
  have hcontents := hconsistent.remembers.contents
  rw [applied_play_events] at hcontents
  rw [← hcontents]
  cases hclosing : s.closing with
  | some later =>
    -- the closing has been answered, and has copied everything
    obtain ⟨i, t, ht, hcause, hsince⟩ := exists_closing_save (p := p) hclosing s₀ disk
    have hmem := List.mem_of_getElem? ht
    have hanswered := (hover t hmem).resolve_left (by rw [hcause]; exact nofun)
    obtain ⟨c, hc⟩ := Mirror.exists_saved_of_answered hanswered (hfaultless t hmem)
    exact hconsistent.left_eq_of_saved hown hconsistent.remembers.suffices ht hc
      (Nat.le_of_eq hsince.symm)
  | none =>
    have hsync : (s.store s₀ p disk).isSynchronous = true := by
      simp [store, Mirror.fresh, s.ends hclosing]
    have hcovered : (s.store s₀ p disk).Covered s₀ := Mirror.covered_fresh s₀ p disk _
    obtain ⟨n, hsuffices, rfl | ⟨i, t, ht, rfl⟩⟩ := hcovered.play hfresh hsync s.events
    · exact hconsistent.left_eq_of_unchanged hsuffices
    · -- the save behind the last write that was accepted has been answered
      have hmem := List.mem_of_getElem? ht
      have hstays := (Mirror.fixed_play (s.store s₀ p disk) s.events).2.trans hsync
      have hanswered :=
        (hover t hmem).resolve_left (hconsistent.barred.synchronous hstays i t ht)
      obtain ⟨c, hc⟩ := Mirror.exists_saved_of_answered hanswered (hfaultless t hmem)
      exact hconsistent.left_eq_of_saved hown hsuffices ht hc (Nat.le_refl _)

/-- A session ends with a rewriting of its own if it saves after every write, or if its saver is not
in the middle of a save when the store is closed. -/
theorem endsOwn_play_events {disk : Disk} (hfresh : (s.store s₀ p disk).Consistent s₀ disk)
    (hrests : s.intervalSeconds = 0 ∨ ((s.store s₀ p disk).play s.work).SaverRests) :
    ((s.store s₀ p disk).play s.events).EndsOwn := by
  have hconsistent := hfresh.play s.events
  have hsynchronous : s.intervalSeconds = 0 → ((s.store s₀ p disk).play s.events).EndsOwn := by
    intro hzero
    have hsync : (s.store s₀ p disk).isSynchronous = true := by
      simp [store, Mirror.fresh, hzero]
    exact fun r _ => hconsistent.not_isStray
      ((Mirror.fixed_play (s.store s₀ p disk) s.events).2.trans hsync) r
  rcases hrests with hzero | hrests
  · exact hsynchronous hzero
  -- A session that is not closed saves after every write, so there is no saver in it.
  · cases hclosing : s.closing with
    | none => exact hsynchronous (s.ends hclosing)
    | some later =>
      refine hconsistent.endsOwn_of_saverRests ?_
      rw [play_events_of_closing hclosing]
      exact hrests.close.play rfl later

end FileSession

/-! ## One session after another -/

/-- The rewriting that comes last in a session is not one that its aborted saver had handed over. -/
def SessionReport.EndsOwn (r : SessionReport) : Prop := ∀ m ∈ r.last, m.EndsOwn

instance (r : SessionReport) : Decidable r.EndsOwn :=
  inferInstanceAs (Decidable (∀ m ∈ r.last, m.EndsOwn))

/-- Every session finds what the one before it has left in the file, and leaves what its writes have
made of this if it ends with a rewriting of its own. -/
inductive RestoresInTurn : Snapshot → List FileSession → List SessionReport → Prop
  | nil (found : Snapshot) : RestoresInTurn found [] []
  | cons {found : Snapshot} {s : FileSession} {m last : Mirror} {rest : List FileSession}
      {reports : List SessionReport} (hfound : m.contents = found)
      (hleft : last.EndsOwn → last.left found = (History.run found s.writes).store)
      (hown : s.intervalSeconds = 0 ∨ (m.play s.work).SaverRests → last.EndsOwn)
      (hrest : RestoresInTurn (last.left found) rest reports) :
      RestoresInTurn found (s :: rest) (⟨.ok m, some last⟩ :: reports)

/-- Sessions one after another, each of them finding what the one before has left in the file. -/
theorem FileSession.restoresInTurn_runAll {p : Path} (sessions : List FileSession) {d : Disk}
    (writes : List Write) (hoffers : d.Offers p (History.run Snapshot.empty writes).store)
    (hfaultless : ∀ report ∈ runAll p d sessions, report.isFaultless = true)
    (hover : ∀ report ∈ runAll p d sessions, report.isOver = true) :
    RestoresInTurn (History.run Snapshot.empty writes).store sessions (runAll p d sessions) := by
  induction sessions generalizing d writes with
  | nil => exact .nil _
  | cons s rest ih =>
    have hfirst : (s.run p d).1.isFaultless = true := hfaultless _ List.mem_cons_self
    have hfirst' : (s.run p d).1.isOver = true := hover _ List.mem_cons_self
    have hfinite := (History.sound_run writes).allFinite
    -- The induction goes from session to session over what the file offers.
    obtain ⟨disk, hrun, hfresh, hnext⟩ := keeps_run hoffers hfinite s hfirst
    rw [hrun] at hfirst hfirst'
    simp only [SessionReport.isFaultless, SessionReport.isOver, Option.all_some, Bool.and_eq_true,
      List.all_eq_true, Bool.not_eq_true', Bool.or_eq_true, decide_eq_true_eq] at hfirst hfirst'
    -- whatever is left in the file, it is what some writes have made of an empty store
    obtain ⟨more, hmore⟩ := (hfresh.play s.events).exists_left_eq
    rw [History.store_run_run] at hmore
    rw [hmore] at hnext
    have hrest := ih _ hnext (fun r hr => hfaultless r (List.mem_cons_of_mem _ hr))
      fun r hr => hover r (List.mem_cons_of_mem _ hr)
    rw [← hmore] at hrest
    rw [runAll, hrun]
    exact .cons rfl (fun hown => left_eq_of_isOver hfresh hfirst.2 hfirst'.2 hown)
      (endsOwn_play_events hfresh) hrest

namespace RestoresInTurn

variable {found : Snapshot} {sessions : List FileSession} {reports : List SessionReport} {k : Nat}

/-- As long as every session ends with a rewriting of its own, nothing is lost. -/
theorem contents (h : RestoresInTurn found sessions reports) (hk : k < sessions.length)
    (hown : ∀ report ∈ reports.take k, report.EndsOwn) :
    (reports[k]?).map (·.contents) = some (.ok
      (History.run found ((sessions.take k).flatMap FileSession.writes)).store) := by
  -- The induction is on the sessions; each of them hands on what it has left in the file.
  induction h generalizing k with
  | nil => cases hk
  | @cons found s m last rest reports hfound hleft hown' hrest ih =>
    cases k with
    | zero =>
      subst hfound
      rfl
    | succ k =>
      have hfirst : last.EndsOwn :=
        hown ⟨.ok m, some last⟩ (List.take_succ_cons ▸ List.mem_cons_self) last rfl
      have hback := ih (Nat.lt_of_succ_lt_succ hk) fun report hr =>
        hown report (List.take_succ_cons ▸ List.mem_cons_of_mem _ hr)
      rw [hleft hfirst, History.store_run_run] at hback
      rw [List.take_succ_cons, List.flatMap_cons]
      exact hback

/-- A session finds what was written last in the one before it, whoever has written it. -/
theorem contents_succ (h : RestoresInTurn found sessions reports) (hk : k + 1 < sessions.length)
    {report : SessionReport} {last : Mirror} {r : Rewrite} (hreport : reports[k]? = some report)
    (hlast : report.last = some last) (hr : last.written.getLast? = some r) :
    (reports[k + 1]?).map (·.contents) = some (.ok r.copy.contents) := by
  induction h generalizing k with
  | nil => cases hk
  | @cons found s m last' rest reports hfound hleft hown hrest ih =>
    cases k with
    | zero =>
      cases hreport
      cases hlast
      -- What was written last is what the session has left, its own or not.
      have hleft : last.left found = r.copy.contents := by rw [Mirror.left, hr]
      rw [hleft] at hrest
      cases hrest with
      | nil => exact absurd hk (Nat.lt_irrefl _)
      | cons hfound' _ _ _ =>
        rw [← hfound']
        rfl
    | succ k => exact ih (Nat.lt_of_succ_lt_succ hk) hreport

/-- A session whose saver rests when it is closed ends with a rewriting of its own. -/
theorem endsOwn (h : RestoresInTurn found sessions reports) {s : FileSession}
    {report : SessionReport} {m : Mirror} (hs : sessions[k]? = some s)
    (hreport : reports[k]? = some report) (hm : report.opened = .ok m)
    (hrests : s.intervalSeconds = 0 ∨ (m.play s.work).SaverRests) : report.EndsOwn := by
  induction h generalizing k with
  | nil => cases hs
  | @cons found s' m' last rest reports hfound hleft hown hrest ih =>
    cases k with
    | zero =>
      cases hs
      cases hreport
      cases hm
      rintro last' ⟨⟩
      exact hown hrests
    | succ k => exact ih hs hreport

end RestoresInTurn

/-- **Persistence over restarts.** Sessions follow each other at a path that leads to no file at
first, every call in them is answered, and no answer is that the file could not be read or written.

As long as no rewriting that an aborted saver had handed over comes last in a session, every session
finds right after it was opened, bit for bit, what the writes of all the sessions before it,
accepted or refused, make of an empty store in memory. This is so if a session saves after every
write, or if its saver is not in the middle of a save when the store is closed. In any case a
session finds the copy that was written last in the one before it. -/
theorem FileSession.opened_eq_run (disk : Disk) (path : Path) (hvacant : disk.IsVacant path)
    (sessions : List FileSession)
    (hfaultless : ∀ report ∈ runAll path disk sessions, report.isFaultless = true)
    (hover : ∀ report ∈ runAll path disk sessions, report.isOver = true) :
    (∀ k < sessions.length, (∀ report ∈ (runAll path disk sessions).take k, report.EndsOwn) →
      ((runAll path disk sessions)[k]?).map (·.contents) = some (.ok
        (History.run Snapshot.empty ((sessions.take k).flatMap writes)).store)) ∧
    (∀ (k : Nat) (s : FileSession) (report : SessionReport) (m : Mirror), sessions[k]? = some s →
      (runAll path disk sessions)[k]? = some report → report.opened = .ok m →
        s.intervalSeconds = 0 ∨ (m.play s.work).SaverRests → report.EndsOwn) ∧
    ∀ k, k + 1 < sessions.length → ∀ report, (runAll path disk sessions)[k]? = some report →
      ∀ last r, report.last = some last → last.written.getLast? = some r →
        ((runAll path disk sessions)[k + 1]?).map (·.contents) = some (.ok r.copy.contents) := by
  have hchain : RestoresInTurn Snapshot.empty sessions (runAll path disk sessions) :=
    restoresInTurn_runAll sessions [] hvacant.offers hfaultless hover
  exact ⟨fun k hk hown => hchain.contents hk hown,
    fun k s report m hs hreport hm hrests => hchain.endsOwn hs hreport hm hrests,
    fun k hk report hreport last r hlast hr => hchain.contents_succ hk hreport hlast hr⟩

namespace FileSession

/-- A store that saves after every write is left, one with a saver is closed while the saver waits,
and the next session finds what both of them have taken in. -/
def leftThenClosed : List FileSession :=
  [{ intervalSeconds := 0
     work := .write (.one (Metric.counter "c" 1)) :: Mirror.undisturbed 0 ++
       [.write (.one (Metric.counter "" 1))]
     closing := none
     ends := fun _ => rfl
     quiet := rfl },
    { intervalSeconds := 300
      work := [.write (.batch [Metric.counter "c" 2, Metric.gauge "g" Binary64.zero]), .tick] ++
        Mirror.undisturbed 0 ++ [.write (.one (Metric.counter "d" (-1))), .tick]
      closing := some (.drop 1 :: Mirror.undisturbed 2)
      ends := nofun
      quiet := rfl },
    { intervalSeconds := 0, work := [], closing := none, ends := fun _ => rfl, quiet := rfl }]

/-- A session that is left with a saver, one that is closed, and an opening that finds the writes of
both. -/
theorem opened_leftThenClosed :
    Disk.empty.IsVacant ⟨"/m.json"⟩ ∧
    (∀ report ∈ runAll ⟨"/m.json"⟩ Disk.empty leftThenClosed, report.isFaultless = true) ∧
    (∀ report ∈ runAll ⟨"/m.json"⟩ Disk.empty leftThenClosed, report.isOver = true) ∧
    (∀ report ∈ (runAll ⟨"/m.json"⟩ Disk.empty leftThenClosed).take 2, report.EndsOwn) ∧
    ((runAll ⟨"/m.json"⟩ Disk.empty leftThenClosed)[2]?).map (·.contents) = some (.ok
      (History.run Snapshot.empty ((leftThenClosed.take 2).flatMap writes)).store) ∧
    (History.run Snapshot.empty ((leftThenClosed.take 2).flatMap writes)).store
      = ⟨Series.ofList [("c", 3), ("d", -1)], Series.ofList [("g", Binary64.zero)]⟩ := by
  have hvacant : Disk.empty.IsVacant ⟨"/m.json"⟩ :=
    (Disk.isVacant_iff (by decide +kernel)).2 fun bytes hread => by
      have hmissing : Disk.empty.read ⟨"/m.json"⟩ = .error .missing := rfl
      rw [hmissing] at hread
      cases hread
  have hfaultless : ∀ report ∈ runAll ⟨"/m.json"⟩ Disk.empty leftThenClosed,
      report.isFaultless = true := by
    decide +kernel
  have hover : ∀ report ∈ runAll ⟨"/m.json"⟩ Disk.empty leftThenClosed,
      report.isOver = true := by
    decide +kernel
  have hown : ∀ report ∈ (runAll ⟨"/m.json"⟩ Disk.empty leftThenClosed).take 2,
      report.EndsOwn := by
    decide +kernel
  obtain ⟨hcontents, -, -⟩ :=
    opened_eq_run Disk.empty ⟨"/m.json"⟩ hvacant leftThenClosed hfaultless hover
  exact ⟨hvacant, hfaultless, hover, hown, hcontents 2 (by decide) hown, by decide +kernel⟩

/-- What the saver has handed over before it is aborted is carried out after the closing has been
answered, and then the store is opened again. -/
def closedTooLate : List FileSession :=
  [{ intervalSeconds := 300
     work := [.write (.one (Metric.counter "c" 1)), .tick, .lock 0, .copy 0, .handOver 0,
       .write (.one (Metric.counter "c" 2))]
     closing := some [.drop 0, .lock 1, .copy 1, .handOver 1, .rewrite 1 true, .release 1, .answer 1,
       .rewrite 0 true]
     ends := nofun
     quiet := rfl },
    { intervalSeconds := 0, work := [], closing := none, ends := fun _ => rfl, quiet := rfl }]

/-- A session that was closed without an error, with nothing outstanding, and a next one that finds
less than the writes have made. -/
theorem late_rewrite_is_restored :
    (∀ report ∈ runAll ⟨"/m.json"⟩ Disk.empty closedTooLate, report.isFaultless = true) ∧
    (∀ report ∈ runAll ⟨"/m.json"⟩ Disk.empty closedTooLate, report.isOver = true) ∧
    ((runAll ⟨"/m.json"⟩ Disk.empty closedTooLate)[1]?).map (·.contents)
      = some (.ok ⟨Series.ofList [("c", 1)], Series.ofList []⟩) ∧
    (History.run Snapshot.empty ((closedTooLate.take 1).flatMap writes)).store
      = ⟨Series.ofList [("c", 3)], Series.ofList []⟩ ∧
    ((runAll ⟨"/m.json"⟩ Disk.empty closedTooLate)[1]?).map (·.contents) ≠ some (.ok
      (History.run Snapshot.empty ((closedTooLate.take 1).flatMap writes)).store) := by
  decide +kernel

end FileSession

end Telemetry

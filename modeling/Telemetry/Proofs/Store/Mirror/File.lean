import Telemetry.Proofs.Store.Mirror.Lock
import Telemetry.Proofs.Store.SnapshotFile

/-!
# What the file holds

What a save hands over is carried out by somebody else, and is carried out even if the save is
dropped. `Pending` ties what is outstanding to the saves, `Recorded` says in which order copies have
been written, and `Filed` that the file holds the last of them. Together with what holds of memory
and the locks they are the invariant `Consistent`, which every run keeps.
-/

namespace Telemetry

namespace Mirror

open scoped List

variable {m next : Mirror} {i j : Nat} {s t : Save} {c : Copy} {s₀ : Snapshot}

/-! ## What has been handed over -/

/-- What has been handed over is waited for, or its save was dropped. -/
structure Pending (m : Mirror) : Prop where
  waited : ∀ r ∈ m.outstanding, ∃ s, m.saves[r.save]? = some s ∧ s.cause = r.cause ∧
    (s.point = .rewriting r.copy ∨ s.point = .dropped r.copy)
  once : (m.outstanding.map Rewrite.save).Nodup

/-- A save that goes on on its own does not leave what it has handed over, unless it is dropped. -/
theorem Advances.rewriting {p : SavePoint} (h : Advances m s p)
    (hs : s.point = .rewriting c ∨ s.point = .dropped c) : p = .dropped c := by
  cases h with
  | drop c' _ hpoint => simpa [hpoint] using hs
  | giveUp _ hpoint => simp [hpoint] at hs
  | lock hpoint _ _ => simp [hpoint] at hs
  | copy hpoint => simp [hpoint] at hs
  | release _ _ hpoint => simp [hpoint] at hs
  | answer _ _ hpoint => simp [hpoint] at hs

/-- What is carried out is not outstanding any more, and no other rewriting is of its save. -/
theorem Pending.save_ne (h : m.Pending) {k : Nat} {r r' : Rewrite} (hr : m.outstanding[k]? = some r)
    (hr' : r' ∈ m.outstanding.eraseIdx k) : r'.save ≠ r.save := by
  obtain ⟨j, hjk, hj⟩ := List.mem_eraseIdx_iff_getElem?.1 hr'
  intro hsave
  have hlt : j < (m.outstanding.map Rewrite.save).length := by
    rw [List.length_map]
    exact (List.getElem?_eq_some_iff.1 hj).1
  refine hjk ((List.getElem?_inj hlt h.once).1 ?_)
  rw [List.getElem?_map, List.getElem?_map, hj, hr]
  exact congrArg some hsave

/-- Saves that come or go on, each of them without leaving what it has handed over. -/
theorem Pending.of_saves (h : m.Pending) (houtstanding : next.outstanding <+ m.outstanding)
    (hsaves : ∀ r ∈ next.outstanding, ∀ s, m.saves[r.save]? = some s →
      s.point = .rewriting r.copy ∨ s.point = .dropped r.copy →
      ∃ t, next.saves[r.save]? = some t ∧ t.cause = s.cause ∧
        (t.point = .rewriting r.copy ∨ t.point = .dropped r.copy)) : next.Pending where
  waited := by
    intro r hr
    obtain ⟨s, hs, hcause, hpoint⟩ := h.waited r (houtstanding.subset hr)
    obtain ⟨t, ht, hcause', hpoint'⟩ := hsaves r hr s hs hpoint
    exact ⟨t, ht, hcause'.trans hcause, hpoint'⟩
  once := (houtstanding.map Rewrite.save).nodup h.once

/-- An outstanding rewriting is carried out; the save that waits for it learns how it has ended. -/
theorem Pending.settle (h : m.Pending) {k : Nat} {r : Rewrite} (hr : m.outstanding[k]? = some r)
    (hsaves : next.saves = m.saves) (houtstanding : next.outstanding = m.outstanding.eraseIdx k)
    (works : Bool) : (next.settle r works).Pending := by
  obtain ⟨saves, hsettle⟩ := next.settle_eq r works
  have houtstanding' : (next.settle r works).outstanding = m.outstanding.eraseIdx k := by
    rw [hsettle]
    exact houtstanding
  refine h.of_saves (houtstanding' ▸ List.eraseIdx_sublist _ k) fun r' hr' s hs hpoint => ?_
  rw [houtstanding'] at hr'
  have hne := h.save_ne hr hr'
  refine ⟨s, ?_, rfl, hpoint⟩
  rcases next.settle_cases r works with ⟨u, -, -, hput⟩ | ⟨-, hsame⟩
  · rw [hput, getElem?_put_of_ne (Ne.symm hne), hsaves]
    exact hs
  · rw [hsame, hsaves]
    exact hs

/-- What is outstanding goes on belonging to a save, whatever happens. -/
theorem Pending.moves (h : m.Pending) (hmoves : Moves m next) : next.Pending := by
  have hcall : ∀ {next : Mirror} (t : Save), next.outstanding = m.outstanding →
      next.saves = m.saves ++ [t] → next.Pending := by
    intro next t houtstanding hsaves
    refine h.of_saves (houtstanding ▸ List.Sublist.refl _) fun r hr s hs hpoint => ?_
    rw [hsaves]
    exact ⟨s, getElem?_append hs t, rfl, hpoint⟩
  -- Writes and calls bring saves that hand nothing over yet; a save that goes on keeps what it has
  -- handed over; only the hand-over adds something, and only a rewriting takes something away.
  cases hmoves with
  | perform w => exact ⟨h.waited, h.once⟩
  | performAndSave w answer hsync hanswer => exact hcall _ rfl rfl
  | demand => exact hcall _ rfl rfl
  | tick _ _ _ => exact hcall _ rfl rfl
  | close => exact hcall _ rfl rfl
  | advance i u p hu hadvances =>
    refine h.of_saves (List.Sublist.refl _) fun r hr s hs hpoint => ?_
    by_cases hi : i = r.save
    · subst hi
      rw [hu] at hs
      cases hs
      exact ⟨_, getElem?_put_self hu p, rfl, .inr (hadvances.rewriting hpoint)⟩
    · exact ⟨s, by rw [getElem?_put_of_ne hi]; exact hs, rfl, hpoint⟩
  | handOver i u c hu hcopied =>
    have hnew : ∀ r ∈ m.outstanding, r.save ≠ i := by
      rintro r hr rfl
      obtain ⟨s, hs, -, hpoint⟩ := h.waited r hr
      rw [hu] at hs
      cases hs
      rw [hcopied] at hpoint
      rcases hpoint with hpoint | hpoint <;> cases hpoint
    constructor
    · intro r hr
      rcases List.mem_append.1 hr with hr | hr
      · obtain ⟨s, hs, hcause, hpoint⟩ := h.waited r hr
        exact ⟨s, by
          rw [show _ = (m.put i (.rewriting c)).saves from rfl, getElem?_put_of_ne (hnew r hr).symm]
          exact hs, hcause, hpoint⟩
      · obtain rfl := List.mem_singleton.1 hr
        exact ⟨_, getElem?_put_self hu _, rfl, .inl rfl⟩
    · rw [List.map_append, List.nodup_append]
      refine ⟨h.once, by simp, ?_⟩
      intro a ha b hb
      obtain ⟨r, hr, rfl⟩ := List.mem_map.1 ha
      obtain rfl : b = i := by simpa using hb
      exact hnew r hr
  | succeed k r disk hr hsave => refine h.settle hr ?_ ?_ true <;> rfl
  | fail k r hr => refine h.settle hr ?_ ?_ false <;> rfl

/-! ## What has been written -/

/-- The rewriting is of a saver that was dropped while it waited for it. -/
def IsStray (m : Mirror) (r : Rewrite) : Prop :=
  ∃ s, m.saves[r.save]? = some s ∧ s.point = .dropped r.copy

/-- What may be written after something else: what is not older, and after a closing nothing of the
saver, unless it is of a saver that was dropped. -/
def MayFollow (m : Mirror) (a b : Rewrite) : Prop :=
  m.IsStray b ∨ a.copy.version ≤ b.copy.version ∧ (a.cause = .close → b.cause ≠ .saver)

/-- What a save has found written is among what was written, and was written in an order that may
be. -/
structure Recorded (m : Mirror) : Prop where
  saved : ∀ (i : Nat) (s : Save) (c : Copy), m.saves[i]? = some s → s.point.saved? = some c →
    ⟨i, s.cause, c⟩ ∈ m.written
  written : ∀ r ∈ m.written, ∃ s, m.saves[r.save]? = some s ∧ s.cause = r.cause ∧
    (s.point.saved? = some r.copy ∨ s.point = .dropped r.copy)
  ordered : m.written.Pairwise m.MayFollow

/-- Saves come and go on, and none of them forgets that its copy has been written or that it was
dropped. -/
def Keeps (m next : Mirror) : Prop :=
  ∀ (i : Nat) (s : Save), m.saves[i]? = some s → ∃ t, next.saves[i]? = some t ∧ t.cause = s.cause ∧
    ∀ c, (s.point.saved? = some c → t.point.saved? = some c) ∧
      (s.point = .dropped c → t.point = .dropped c)

theorem keeps_same (hsaves : next.saves = m.saves) : Keeps m next :=
  fun _ s hs => ⟨s, hsaves ▸ hs, rfl, fun _ => ⟨id, id⟩⟩

theorem keeps_append (hsaves : next.saves = m.saves ++ [s]) : Keeps m next :=
  fun _ t ht => ⟨t, hsaves ▸ getElem?_append ht s, rfl, fun _ => ⟨id, id⟩⟩

/-- A save that goes on forgets nothing if its new point remembers what the old one did. -/
theorem keeps_put (hs : m.saves[i]? = some s) {p : SavePoint}
    (hsaves : next.saves = (m.put i p).saves)
    (hkeeps : ∀ c, (s.point.saved? = some c → p.saved? = some c) ∧ s.point ≠ .dropped c) :
    Keeps m next := by
  intro j t ht
  rw [hsaves]
  by_cases hij : i = j
  · subst hij
    rw [hs] at ht
    cases ht
    exact ⟨_, getElem?_put_self hs p, rfl, fun c =>
      ⟨(hkeeps c).1, fun hdropped => absurd hdropped (hkeeps c).2⟩⟩
  · rw [getElem?_put_of_ne hij]
    exact ⟨t, ht, rfl, fun _ => ⟨id, id⟩⟩

theorem IsStray.of_keeps {r : Rewrite} (h : m.IsStray r) (hkeeps : Keeps m next) :
    next.IsStray r := by
  obtain ⟨s, hs, hpoint⟩ := h
  obtain ⟨t, ht, -, hdropped⟩ := hkeeps r.save s hs
  exact ⟨t, ht, (hdropped r.copy).2 hpoint⟩

/-- What may be written after something else may be so later. -/
theorem MayFollow.of_keeps {a r : Rewrite} (h : m.MayFollow a r) (hkeeps : Keeps m next) :
    next.MayFollow a r :=
  h.imp_left fun hstray => hstray.of_keeps hkeeps

/-- Something more is written, or nothing; what saves have found written is among it. -/
theorem Recorded.of_keeps (h : m.Recorded) (hkeeps : Keeps m next) (more : Option Rewrite)
    (hwritten : next.written = m.written ++ more.toList)
    (hsaved : ∀ (i : Nat) (t : Save) (c : Copy), next.saves[i]? = some t →
      t.point.saved? = some c → (∃ s, m.saves[i]? = some s ∧ s.cause = t.cause ∧
        s.point.saved? = some c) ∨ ⟨i, t.cause, c⟩ ∈ more)
    (hmore : ∀ r ∈ more, (∃ s, next.saves[r.save]? = some s ∧ s.cause = r.cause ∧
      (s.point.saved? = some r.copy ∨ s.point = .dropped r.copy)) ∧
        ∀ a ∈ m.written, next.MayFollow a r) : next.Recorded where
  saved := by
    intro i t c ht hc
    rw [hwritten]
    rcases hsaved i t c ht hc with ⟨s, hs, hcause, hc'⟩ | hmem
    · exact List.mem_append_left _ (hcause ▸ h.saved i s c hs hc')
    · exact List.mem_append_right _ (Option.mem_toList.2 hmem)
  written := by
    intro r hr
    rw [hwritten] at hr
    rcases List.mem_append.1 hr with hr | hr
    -- What was written before belongs to a save that has not forgotten it.
    · obtain ⟨s, hs, hcause, hpoint⟩ := h.written r hr
      obtain ⟨t, ht, hcause', hkept⟩ := hkeeps r.save s hs
      exact ⟨t, ht, hcause'.trans hcause, hpoint.imp (hkept _).1 (hkept _).2⟩
    · exact (hmore r (Option.mem_toList.1 hr)).1
  ordered := by
    rw [hwritten, List.pairwise_append]
    refine ⟨h.ordered.imp fun hfollow => hfollow.of_keeps hkeeps, ?_, fun a ha r hr =>
      (hmore r (Option.mem_toList.1 hr)).2 a ha⟩
    cases more with
    | none => exact .nil
    | some r => exact List.pairwise_singleton _ r

/-- Nothing is written, and no save learns anything. -/
theorem Recorded.of_same (h : m.Recorded) (hsaves : next.saves = m.saves)
    (hwritten : next.written = m.written) : next.Recorded :=
  h.of_keeps (keeps_same hsaves) none (by simp [hwritten])
    (fun i t c ht hc => .inl ⟨t, hsaves ▸ ht, rfl, hc⟩) nofun

/-- A save that comes has found nothing written. -/
theorem Recorded.of_append (h : m.Recorded) (hs : s.point = .waiting)
    (hsaves : next.saves = m.saves ++ [s]) (hwritten : next.written = m.written) :
    next.Recorded := by
  refine h.of_keeps (keeps_append hsaves) none (by simp [hwritten]) (fun i t c ht hc => ?_) nofun
  rw [hsaves] at ht
  rcases append_cases ht with rfl | ht
  · rw [hs] at hc
    cases hc
  · exact .inl ⟨t, ht, rfl, hc⟩

/-- A save that goes on, and learns nothing about its copy by that, changes nothing in what is
recorded. -/
theorem Recorded.of_put (h : m.Recorded) (hs : m.saves[i]? = some s) {p : SavePoint}
    (hsaves : next.saves = (m.put i p).saves) (hwritten : next.written = m.written)
    (hdropped : ∀ c, s.point ≠ .dropped c) (hsaved : p.saved? = s.point.saved?) :
    next.Recorded := by
  refine h.of_keeps (keeps_put hs hsaves fun c => ⟨fun hc => hsaved ▸ hc, hdropped c⟩) none
    (by simp [hwritten]) (fun j t c ht hc => ?_) nofun
  rw [hsaves] at ht
  rcases put_cases hs ht with ⟨rfl, rfl⟩ | ⟨-, ht'⟩
  · exact .inl ⟨s, hs, rfl, hsaved ▸ hc⟩
  · exact .inl ⟨t, ht', rfl, hc⟩

/-- A save that goes on on its own has not been dropped, and learns nothing. -/
theorem Advances.learns_nothing {p : SavePoint} (h : Advances m s p) :
    (∀ c, s.point ≠ .dropped c) ∧ p.saved? = s.point.saved? := by
  cases h with
  | giveUp _ hpoint => rw [hpoint]; exact ⟨nofun, rfl⟩
  | drop c _ hpoint => rw [hpoint]; exact ⟨nofun, rfl⟩
  | lock hpoint _ _ => rw [hpoint]; exact ⟨nofun, rfl⟩
  | copy hpoint => rw [hpoint]; exact ⟨nofun, rfl⟩
  | release c works hpoint => rw [hpoint]; exact ⟨nofun, by cases works <;> rfl⟩
  | answer c works hpoint => rw [hpoint]; exact ⟨nofun, by cases works <;> rfl⟩

/-- A save whose copy is in the file has taken that copy. -/
theorem copy?_of_saved? {p : SavePoint} (h : p.saved? = some c) : p.copy? = some c := by
  unfold SavePoint.saved? at h
  split at h
  · exact h
  · exact h
  · exact h
  · cases h

/-- What a save waits for may be written after everything that has been written. -/
theorem mayFollow_of_rewriting (hrecorded : m.Recorded) (hlocked : m.Locked) (hbarred : m.Barred)
    {a r : Rewrite} (ha : a ∈ m.written) (hs : m.saves[r.save]? = some s)
    (hcause : s.cause = r.cause) (hpoint : s.point = .rewriting r.copy) :
    a.copy.version ≤ r.copy.version ∧ (a.cause = .close → r.cause ≠ .saver) := by
  obtain ⟨t, ht, hcause', hthrough⟩ := hrecorded.written a ha
  have hholds : s.point.holdsLock = true := by rw [hpoint]; rfl
  have hcopy : t.point.copy? = some a.copy :=
    hthrough.elim copy?_of_saved? fun hdropped => by rw [hdropped]; rfl
  have hfree : t.point.holdsLock = false := by
    by_contra hbusy
    -- it would be the save that still waits
    have hsave := hlocked.exclusive a.save r.save t s ht hs (by simpa using hbusy) hholds
    rw [hsave, hs] at ht
    cases ht
    rw [hpoint] at hthrough
    rcases hthrough with hthrough | hthrough <;> cases hthrough
  refine ⟨hlocked.order a.save r.save t s a.copy r.copy ht hs hfree hcopy hholds
    (by rw [hpoint]; rfl), fun hclose hsaver => ?_⟩
  have hwaiting : t.point ≠ .waiting := by
    intro hwaiting
    rw [hwaiting] at hcopy
    cases hcopy
  rw [hbarred.quiet a.save r.save t s ht hs (hcause'.trans hclose) hwaiting (hcause.trans hsaver)]
    at hholds
  cases hholds

/-- A rewriting works, and the save that waits for it learns so. -/
theorem Recorded.succeed (h : m.Recorded) (hpending : m.Pending) (hlocked : m.Locked)
    (hbarred : m.Barred) {r : Rewrite} (hr : r ∈ m.outstanding) (hsaves : next.saves = m.saves)
    (hwritten : next.written = m.written ++ [r]) : (next.settle r true).Recorded := by
  obtain ⟨saves, hsettle⟩ := next.settle_eq r true
  have hwritten' : (next.settle r true).written = m.written ++ [r] := by
    rw [hsettle]
    exact hwritten
  obtain ⟨s, hs, hcause, hpoint⟩ := hpending.waited r hr
  -- The save still waits for its rewriting, or it was dropped and the rewriting is a stray one.
  rcases next.settle_cases r true with ⟨t, ht, hrewriting, hput⟩ | ⟨hnone, hsame⟩
  · obtain rfl : s = t := Option.some.inj (hs.symm.trans (hsaves ▸ ht))
    have hput' : (next.settle r true).saves = (m.put r.save (.rewritten r.copy true)).saves := by
      rw [hput, put, hsaves]
      rfl
    refine h.of_keeps (keeps_put hs hput' fun c => ?_) (some r) hwritten' (fun i t c ht hc => ?_) ?_
    · rw [hrewriting]
      exact ⟨fun hc => (by cases hc), fun hdropped => by cases hdropped⟩
    · rw [hput'] at ht
      rcases put_cases hs ht with ⟨rfl, rfl⟩ | ⟨-, ht'⟩
      · right
        cases hc
        show (⟨r.save, s.cause, r.copy⟩ : Rewrite) ∈ some r
        rw [hcause]
        rfl
      · exact .inl ⟨t, ht', rfl, hc⟩
    · rintro r' ⟨⟩
      refine ⟨⟨{ s with point := .rewritten r.copy true }, ?_, hcause, .inl rfl⟩,
        fun a ha => .inr ?_⟩
      · rw [hput']
        exact getElem?_put_self hs _
      -- A save that waits holds the lock, and so its copy is not older than what was written
      -- before.
      · exact mayFollow_of_rewriting h hlocked hbarred ha hs hcause hrewriting
  · have hdropped : s.point = .dropped r.copy :=
      hpoint.resolve_left fun hrewriting => hnone s (hsaves ▸ hs) hrewriting
    have hsame' : (next.settle r true).saves = m.saves := by rw [hsame, hsaves]
    refine h.of_keeps (keeps_same hsame') (some r) hwritten'
      (fun i t c ht hc => .inl ⟨t, hsame' ▸ ht, rfl, hc⟩) ?_
    rintro r' ⟨⟩
    exact ⟨⟨s, hsame' ▸ hs, hcause, .inr hdropped⟩, fun a ha => .inl ⟨s, hsame' ▸ hs, hdropped⟩⟩

/-- A rewriting fails, and the save that waits for it learns so. -/
theorem Recorded.fail (h : m.Recorded) {r : Rewrite} (hsaves : next.saves = m.saves)
    (hwritten : next.written = m.written) : (next.settle r false).Recorded := by
  obtain ⟨saves, hsettle⟩ := next.settle_eq r false
  have hwritten' : (next.settle r false).written = m.written := by
    rw [hsettle]
    exact hwritten
  rcases next.settle_cases r false with ⟨s, hs, hrewriting, hput⟩ | ⟨-, hsame⟩
  · refine h.of_put (hsaves ▸ hs) ?_ hwritten' (p := .rewritten r.copy false) (fun c hc => ?_) ?_
    · rw [hput, put, put, hsaves]
    · rw [hrewriting] at hc
      cases hc
    · rw [hrewriting]
      rfl
  · exact h.of_same (by rw [hsame, hsaves]) hwritten'

/-- What is recorded stays right. Of all events only a rewriting that works adds to what was
written. -/
theorem Recorded.moves (h : m.Recorded) (hpending : m.Pending) (hlocked : m.Locked)
    (hbarred : m.Barred) (hmoves : Moves m next) : next.Recorded := by
  cases hmoves with
  | perform w => exact h.of_same rfl rfl
  | performAndSave w answer hsync hanswer => exact h.of_append rfl rfl rfl
  | demand => exact h.of_append rfl rfl rfl
  | tick _ _ _ => exact h.of_append rfl rfl rfl
  | close => exact h.of_append rfl rfl rfl
  | advance i s p hs hadvances =>
    exact h.of_put hs rfl rfl hadvances.learns_nothing.1 hadvances.learns_nothing.2
  | handOver i s c hs hpoint =>
    refine h.of_put hs ?_ rfl ?_ ?_ (p := .rewriting c)
    · rfl
    · rw [hpoint]
      nofun
    · rw [hpoint]
      rfl
  -- The lock says which copies may be handed over, so the order is settled by the other invariants.
  | succeed k r disk hr hsave =>
    refine h.succeed hpending hlocked hbarred (List.mem_of_getElem? hr) ?_ ?_ <;> rfl
  | fail k r hr => refine h.fail ?_ ?_ <;> rfl

/-! ## The file -/

/-- The file holds what was written last. -/
structure Filed (disk₀ : Disk) (m : Mirror) : Prop where
  settled : m.disk.IsSettled m.path
  untouched : m.written = [] → m.disk = disk₀
  holds : ∀ r, m.written.getLast? = some r → m.disk.Holds m.path r.copy.contents.toJson.toUTF8

variable {disk₀ : Disk}

/-- The file holds what was written last after every event. -/
theorem Filed.moves (h : m.Filed disk₀) (hmoves : Moves m next) : next.Filed disk₀ := by
  have hpath := hmoves.fixed.1
  rcases hmoves.effects.2.2 with ⟨r, -, hwritten, hsave⟩ | ⟨hwritten, hdisk⟩
  -- A rewriting has worked, so the file holds its copy, whatever it held before.
  · have hholds : next.disk.Holds next.path r.copy.contents.toJson.toUTF8 := by
      rw [hpath]
      rcases Snapshot.save_cases h.settled r.copy.contents with hfail | ⟨disk, hok, -, hholds⟩
      · rw [hsave] at hfail
        cases hfail
      · rw [hsave] at hok
        cases hok
        exact hholds
    refine ⟨hholds.isSettled, fun hnil => ?_, fun last hlast => ?_⟩
    · rw [hwritten] at hnil
      exact absurd hnil (by simp)
    · rw [hwritten, List.getLast?_append, List.getLast?_singleton] at hlast
      cases hlast
      exact hholds
  · constructor
    · rw [hpath, hdisk]
      exact h.settled
    · rw [hwritten, hdisk]
      exact h.untouched
    · rw [hwritten, hdisk, hpath]
      exact h.holds

/-! ## Runs -/

/-- What holds of a store with a snapshot file at any moment. -/
structure Consistent (s₀ : Snapshot) (disk₀ : Disk) (m : Mirror) : Prop where
  remembers : m.Remembers s₀
  locked : m.Locked
  barred : m.Barred
  pending : m.Pending
  recorded : m.Recorded
  filed : m.Filed disk₀

/-- A store that nobody has called, whatever it holds. -/
theorem consistent_of_idle (hcontents : m.contents = s₀) (hdisk : m.disk = disk₀)
    (hsaves : m.saves = []) (happlied : m.applied = []) (houtstanding : m.outstanding = [])
    (hwritten : m.written = []) (hsettled : disk₀.IsSettled m.path) : m.Consistent s₀ disk₀ := by
  constructor
  · constructor
    · rw [happlied]
      exact hcontents
    all_goals simp [hsaves]
  · constructor <;> simp [hsaves]
  · constructor <;> simp [hsaves]
  · constructor <;> simp [houtstanding]
  · constructor <;> simp [hsaves, hwritten]
  · constructor
    · exact hdisk ▸ hsettled
    · exact fun _ => hdisk
    · simp [hwritten]

/-- A fresh store is consistent, on any disk on which its path is settled. -/
theorem consistent_fresh (s₀ : Snapshot) {path : Path} {disk : Disk} (h : disk.IsSettled path)
    (isSynchronous : Bool) : (fresh s₀ path disk isSynchronous).Consistent s₀ disk := by
  refine consistent_of_idle ?_ ?_ ?_ ?_ ?_ ?_ h <;> rfl

/-- One event keeps every part of the invariant. The parts that come later lean on the earlier ones.
-/
theorem Consistent.step (h : m.Consistent s₀ disk₀) (e : Event) :
    (m.step e).Consistent s₀ disk₀ := by
  rcases m.step_cases e with hmoves | hsame
  · exact {
      remembers := h.remembers.moves hmoves
      locked := h.locked.moves h.remembers hmoves
      barred := h.barred.moves hmoves
      pending := h.pending.moves hmoves
      recorded := h.recorded.moves h.pending h.locked h.barred hmoves
      filed := h.filed.moves hmoves }
  · rwa [hsame]

/-- A store with a snapshot file stays consistent over any events, in any order. -/
theorem Consistent.play (h : m.Consistent s₀ disk₀) (events : List Event) :
    (m.play events).Consistent s₀ disk₀ := by
  induction events generalizing m with
  | nil => exact h
  | cons e rest ih => exact ih (h.step e)

/-- Everything that was ever written is a copy that memory once held. -/
theorem Consistent.hasHeld (h : m.Consistent s₀ disk₀) {r : Rewrite} (hr : r ∈ m.written) :
    m.HasHeld s₀ r.copy := by
  obtain ⟨s, hs, -, hthrough⟩ := h.recorded.written r hr
  have hcopy : s.point.copy? = some r.copy :=
    hthrough.elim copy?_of_saved? fun hdropped => by rw [hdropped]; rfl
  exact (h.remembers.copies r.save s r.copy hs hcopy).1

/-- No event changes where the file is or when it is saved. -/
theorem fixed_play (m : Mirror) (events : List Event) :
    (m.play events).path = m.path ∧ (m.play events).isSynchronous = m.isSynchronous := by
  induction events generalizing m with
  | nil => exact ⟨rfl, rfl⟩
  | cons e rest ih =>
    obtain ⟨hpath, hsync⟩ := ih (m.step e)
    have hstep : (m.step e).path = m.path ∧ (m.step e).isSynchronous = m.isSynchronous := by
      rcases m.step_cases e with hmoves | hsame
      · exact hmoves.fixed
      · rw [hsame]
        exact ⟨rfl, rfl⟩
    exact ⟨hpath.trans hstep.1, hsync.trans hstep.2⟩

end Mirror

end Telemetry

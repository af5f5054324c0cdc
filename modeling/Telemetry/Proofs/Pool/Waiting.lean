import Telemetry.Proofs.Pool.Schedule

/-!
# Waiting for a pool

`backlog` is the work that is left. While a worker has a task in its hands every millisecond that
passes takes at least one away (`Valid.backlog_completeAt`), so a pool that runs is drained by the
time that is as far away as its backlog. `Schedule.wait` returns with the last end
(`Valid.waitsExactly`), and like every other action it leads from a valid schedule to a valid one.
-/

namespace Telemetry

namespace Schedule

open scoped List

variable {s t : Schedule}

/-! ## The work that is left -/

/-- The time that the tasks in hand still take, and the queued ones after them. -/
def backlog (s : Schedule) : Nat :=
  (s.pool.busy.map fun w => s.endOf w.task - s.now).sum
    + (s.pool.queue.map fun task => (s.job task).length).sum

/-- Receiving a task moves its work from the queue to a worker and changes no amount. -/
theorem Valid.backlog_take (h : s.Valid) (htake : s.take? = some t) : t.backlog = s.backlog := by
  have hpasses := h.passes_take htake
  obtain ⟨own, task, rest, htoken, hqueue, hfree, hstep, ht⟩ := take?_eq_some htake
  have hbusy : t.pool.busy = s.pool.busy ++ [⟨task, none⟩] := by rw [ht]
  have hrest : t.pool.queue = rest := by rw [ht]
  have hnow : t.now = s.now := by rw [ht]
  have hjob : t.job = s.job := by rw [ht]; rfl
  have hold : (s.pool.busy.map fun w => t.endOf w.task - t.now)
      = s.pool.busy.map fun w => s.endOf w.task - s.now := by
    refine List.map_congr_left fun w hw => ?_
    rw [h.endOf_eq hpasses.starts (hpasses.jobs ▸ List.prefix_rfl) (h.lt_of_busy hw), hnow]
  have hnew : t.endOf task - t.now = (s.job task).length := by
    have hstarts : t.starts = s.starts ++ [s.now] := by rw [ht]
    have hstart : t.starts.getD task 0 = s.now := by
      rw [hstarts, h.task_eq hqueue, List.getD_append_right _ _ _ _ (Nat.le_refl _), Nat.sub_self]
      rfl
    rw [endOf, hstart, hnow, hjob, Nat.add_sub_cancel_left]
  rw [backlog, backlog, hbusy, hrest, hqueue, List.map_append, List.sum_append, hold, hjob]
  simp only [List.map_cons, List.map_nil, List.sum_cons, List.sum_nil, hnew]
  omega

/-- Every task in hand takes the time off the work that is left. -/
theorem sum_later {works : List Work} {ends : Work → Nat} {now time : Nat} (hnow : now ≤ time)
    (hends : ∀ w ∈ works, time ≤ ends w) :
    ((works.filter fun w => time < ends w).map fun w => ends w - time).sum
        + works.length * (time - now)
      ≤ (works.map fun w => ends w - now).sum := by
  induction works with
  | nil => simp
  | cons w rest ih =>
    have hrest := ih fun b hb => hends b (List.mem_cons_of_mem _ hb)
    have hfirst := hends w List.mem_cons_self
    rw [List.length_cons, Nat.succ_mul, List.map_cons, List.sum_cons]
    by_cases hlt : time < ends w
    · rw [List.filter_cons_of_pos (by simpa using hlt), List.map_cons, List.sum_cons]
      omega
    · rw [List.filter_cons_of_neg (by simpa using hlt)]
      omega

/-- Until `time` every worker that has a task takes off as much as the clock moves. -/
theorem Valid.backlog_completeAt (h : s.Valid) {time : Nat} (hnow : s.now ≤ time)
    (hbusy : ∀ w ∈ s.pool.busy, time ≤ s.endOf w.task) :
    (s.completeAt time).backlog + s.pool.busy.length * (time - s.now) ≤ s.backlog := by
  have hsum := sum_later hnow hbusy
  rw [h.completeAt_eq time]
  show ((s.pool.busy.filter fun b => time < s.endOf b.task).map fun w => s.endOf w.task - time).sum
    + (s.pool.queue.map fun task => (s.job task).length).sum + _ ≤ _
  rw [backlog]
  omega

/-- Receiving adds no work. -/
theorem Valid.backlog_takeUpTo_le (h : s.Valid) (count : Nat) :
    (s.takeUpTo count).backlog ≤ s.backlog := by
  induction count generalizing s with
  | zero => exact Nat.le_refl _
  | succ count ih =>
    rw [takeUpTo]
    cases htake : s.take? with
    | none => exact Nat.le_refl _
    | some t =>
      have hvalid := (h.passes_take htake).valid
      have hbacklog := h.backlog_take htake
      have hend := hvalid.backlog_completeAt (Nat.le_refl _) hvalid.busy
      exact Nat.le_trans (ih hvalid.busy_now.valid) (by omega)

/-- A pool that runs is drained once the work that is left is done. -/
theorem Valid.pending_advance (h : s.Valid) (htoken : s.pool.token.isSome)
    {deadline rounds : Nat} (hrounds : s.pool.pending < rounds)
    (hdeadline : s.now + s.backlog ≤ deadline) :
    (s.advance deadline rounds).pool.pending = 0 := by
  induction rounds generalizing s with
  | zero => exact absurd hrounds (Nat.not_lt_zero _)
  | succ rounds ih =>
    have htake := h.passes_takeAll
    have hrunning : s.takeAll.pool.token.isSome := htake.token ▸ htoken
    have hclock : s.takeAll.now = s.now := h.now_takeUpTo _
    have hwork : s.takeAll.backlog ≤ s.backlog := h.backlog_takeUpTo_le _
    -- The rounds bound the induction; that the backlog is done by the deadline carries it on.
    rw [advance]
    cases hnext : s.takeAll.nextEnd? with
    | none =>
      have hnobody := nextEnd?_eq_none hnext
      -- A worker that could still receive would find the queue empty, so nothing is queued either.
      have hsound := htake.valid.sound
      have hqueue := queue_eq_nil_of_take? hrunning (by rw [hnobody]; exact hsound.positive)
        (h.take?_takeUpTo (Nat.le_refl _))
      show s.takeAll.pool.pending = 0
      rw [hsound.pending, hqueue, hnobody]
      rfl
    | some time =>
      obtain ⟨⟨w, hw, hend⟩, hfirst⟩ := nextEnd?_eq_some hnext
      have hnow := htake.valid.busy w hw
      have hround := htake.valid.passes_completeAt (by omega) hfirst
      have hless := htake.valid.pending_completeAt_lt hnext
      have hle := htake.pending_le h
      -- At least one worker works until the next end.
      have hdone := htake.valid.backlog_completeAt (by omega) hfirst
      have hsome := Nat.mul_le_mul_right (time - s.takeAll.now) (List.length_pos_of_mem hw)
      have hafter : (s.takeAll.completeAt time).now = time := by rw [htake.valid.completeAt_eq]
      show (Schedule.pool (ite _ _ _)).pending = 0
      rw [if_pos (by omega)]
      exact ih hround.valid (hround.token ▸ hrunning) (by omega) (by omega)

/-! ## Waiting -/

/-- The last end is an upper bound of the ends and of the time it starts from, and it is one of
them. -/
theorem lastEnd_eq (s : Schedule) (time : Nat) :
    time ≤ s.lastEnd time ∧ (∀ e ∈ s.ends, e.2 ≤ s.lastEnd time) ∧
      (s.lastEnd time = time ∨ ∃ e ∈ s.ends, e.2 = s.lastEnd time) := by
  unfold lastEnd
  induction s.ends generalizing time with
  | nil => exact ⟨Nat.le_refl _, nofun, .inl rfl⟩
  | cons e rest ih =>
    obtain ⟨hle, hall, hattained⟩ := ih (max time e.2)
    rw [List.foldl_cons]
    refine ⟨by omega, fun b hb => ?_, ?_⟩
    · rcases List.mem_cons.1 hb with rfl | hb
      · omega
      · exact hall b hb
    · rcases hattained with heq | ⟨b, hb, heq⟩
      · by_cases hlt : time < e.2
        · exact .inr ⟨e, List.mem_cons_self, by omega⟩
        · exact .inl (by omega)
      · exact .inr ⟨b, List.mem_cons_of_mem _ hb, heq⟩

/-- The tasks that are accepted and not counted off. -/
def pendingTasks (s : Schedule) : List Nat := s.pool.queue ++ s.pool.busy.map Work.task

/-- What a waiting caller may rely on. -/
structure WaitsExactly (s : Schedule) : Prop where
  /-- With nothing pending it goes on at once. -/
  atOnce : s.pool.pending = 0 → ∀ limit, s.wait limit = (true, s)
  /-- It does not wait for ever. -/
  inTime : ∀ limit, s.backlog ≤ limit → (s.wait limit).1 = true
  /-- When it goes on nothing is pending, and every task that was pending has ended its length
  after its start. -/
  drained : ∀ limit, (s.wait limit).1 = true →
    (s.wait limit).2.pool.pending = 0 ∧
      ∀ task ∈ s.pendingTasks, (task, (s.wait limit).2.endOf task) ∈ (s.wait limit).2.ends
  /-- It goes on at the latest of these ends. -/
  exact : ∀ limit, (s.wait limit).1 = true → s.pool.pending ≠ 0 →
    (∀ task ∈ s.pendingTasks, (s.wait limit).2.endOf task ≤ (s.wait limit).2.now) ∧
      ∃ task ∈ s.pendingTasks, (s.wait limit).2.endOf task = (s.wait limit).2.now

/-- Every accepted task is pending or counted off, and no task is both. -/
theorem Valid.perm_tasks (h : s.Valid) :
    s.pendingTasks ++ s.pool.finished ~ List.range s.pool.accepted := by
  have hsound := h.sound
  have hcut : List.range (s.pool.accepted - s.pool.queue.length)
      = (List.range s.pool.accepted).take (s.pool.accepted - s.pool.queue.length) := by
    rw [List.take_range, Nat.min_eq_left (Nat.sub_le ..)]
  calc
    s.pendingTasks ++ s.pool.finished
    _ = s.pool.queue ++ (s.pool.busy.map Work.task ++ s.pool.finished) := List.append_assoc ..
    -- What has started is in hand or counted off; what has not is the queue.
    _ ~ s.pool.queue ++ List.range (s.pool.accepted - s.pool.queue.length) :=
      hsound.started.append_left _
    _ ~ List.range (s.pool.accepted - s.pool.queue.length) ++ s.pool.queue :=
      List.perm_append_comm
    _ = List.range s.pool.accepted := by
      rw [hcut]
      conv => lhs; rhs; rw [hsound.queued]
      exact List.take_append_drop _ _

/-- The pending tasks are the accepted ones that are not counted off. -/
theorem Valid.mem_pendingTasks (h : s.Valid) {task : Nat} :
    task ∈ s.pendingTasks ↔ task < s.pool.accepted ∧ task ∉ s.pool.finished := by
  have hmem := h.perm_tasks.mem_iff (a := task)
  have hnodup := h.perm_tasks.nodup_iff.2 List.nodup_range
  rw [List.mem_append, List.mem_range] at hmem
  constructor
  · intro hpending
    refine ⟨hmem.1 (.inl hpending), fun hfinished => ?_⟩
    exact (List.nodup_append.1 hnodup).2.2 task hpending task hfinished rfl
  · rintro ⟨hlt, hopen⟩
    exact (hmem.2 hlt).resolve_right hopen

/-- The pending counter counts the pending tasks. -/
theorem Valid.length_pendingTasks (h : s.Valid) : s.pendingTasks.length = s.pool.pending := by
  rw [pendingTasks, List.length_append, List.length_map, h.sound.pending]

/-- When nothing is pending any more, every task that was pending has ended. -/
theorem Passes.ended (h : s.Passes t) (hs : s.Valid) (hdrained : t.pool.pending = 0) {task : Nat}
    (hpending : task ∈ s.pendingTasks) : (task, t.endOf task) ∈ t.ends := by
  have hlt := (hs.mem_pendingTasks.1 hpending).1
  have hnone : t.pendingTasks = [] := List.length_eq_zero_iff.1 (by
    rw [h.valid.length_pendingTasks, hdrained])
  have hfinished : task ∈ t.pool.finished := by
    have hmem := h.valid.perm_tasks.mem_iff (a := task)
    rw [hnone, List.nil_append, List.mem_range, h.accepted] at hmem
    exact hmem.2 hlt
  rw [← h.valid.ends] at hfinished
  obtain ⟨⟨own, time⟩, hmem, rfl⟩ := List.mem_map.1 hfinished
  rw [← (h.valid.ended own time hmem).1]
  exact hmem

/-- The last end is the latest one of the tasks that were pending. -/
theorem Passes.lastEnd_eq (h : s.Passes t) (hs : s.Valid) (hsome : s.pool.pending ≠ 0)
    (hdrained : t.pool.pending = 0) :
    (∀ task ∈ s.pendingTasks, t.endOf task ≤ t.lastEnd s.now) ∧
      ∃ task ∈ s.pendingTasks, t.endOf task = t.lastEnd s.now := by
  obtain ⟨hnow, hall, hattained⟩ := t.lastEnd_eq s.now
  obtain ⟨new, hnew, hafter⟩ := h.ends
  have hbounded : ∀ task ∈ s.pendingTasks, t.endOf task ≤ t.lastEnd s.now :=
    fun task htask => hall _ (h.ended hs hdrained htask)
  refine ⟨hbounded, ?_⟩
  -- If the last end is now, any of the tasks will do.
  have hif : t.lastEnd s.now = s.now → ∃ task ∈ s.pendingTasks, t.endOf task = t.lastEnd s.now := by
    intro heq
    obtain ⟨task, htask⟩ : ∃ task, task ∈ s.pendingTasks :=
      List.exists_mem_of_length_pos (by rw [hs.length_pendingTasks]; omega)
    refine ⟨task, htask, Nat.le_antisymm (hbounded task htask) ?_⟩
    have hmem := h.ended hs hdrained htask
    rw [hnew] at hmem
    rcases List.mem_append.1 hmem with hmem | hmem
    · have hle := hafter _ hmem
      rw [heq]
      exact hle
    · refine absurd ?_ (hs.mem_pendingTasks.1 htask).2
      rw [← hs.ends]
      exact List.mem_map_of_mem hmem
  -- Otherwise the task of the last end ended after the wait began, so it was pending then.
  rcases hattained with heq | ⟨⟨task, time⟩, hmem, heq⟩
  · exact hif heq
  · have hend := (h.valid.ended task time hmem).1
    have hsplit := hmem
    rw [hnew] at hsplit
    rcases List.mem_append.1 hsplit with hin | hin
    · refine ⟨task, hs.mem_pendingTasks.2 ⟨?_, fun hfinished => ?_⟩, hend ▸ heq⟩
      · rw [← h.accepted]
        exact List.mem_range.1 (h.valid.perm_tasks.mem_iff.1 (List.mem_append_right _ (by
          rw [← h.valid.ends]
          exact List.mem_map_of_mem hmem)))
      · have hnodup : (t.ends.map Prod.fst).Nodup := by
          rw [h.valid.ends]
          exact (List.nodup_append.1
            (h.valid.perm_tasks.nodup_iff.2 List.nodup_range)).2.1
        rw [hnew, List.map_append, hs.ends, List.nodup_append] at hnodup
        exact hnodup.2.2 task (List.mem_map_of_mem hin) task hfinished rfl
    · have hle := (hs.ended task time hin).2
      exact hif (by omega)

/-- How a wait goes. -/
theorem wait_cases (s : Schedule) (limit : Nat) :
    (s.pool.pending = 0 ∧ s.wait limit = (true, s)) ∨
      s.pool.pending ≠ 0 ∧
        ((s.advanceTo (s.now + limit)).pool.pending = 0 ∧
            s.wait limit = (true, { s.advanceTo (s.now + limit) with
              now := (s.advanceTo (s.now + limit)).lastEnd s.now }) ∨
          (s.advanceTo (s.now + limit)).pool.pending ≠ 0 ∧
            s.wait limit = (false, s.advanceTo (s.now + limit))) := by
  unfold wait
  by_cases hzero : s.pool.pending = 0
  · exact .inl ⟨hzero, if_pos hzero⟩
  · rw [if_neg hzero]
    by_cases hdrained : (s.advanceTo (s.now + limit)).pool.pending = 0
    · exact .inr ⟨hzero, .inl ⟨hdrained, if_pos hdrained⟩⟩
    · exact .inr ⟨hzero, .inr ⟨hdrained, if_neg hdrained⟩⟩

/-- A caller that waits for a running pool goes on exactly when the last pending task has ended, and
it does go on. -/
theorem Valid.waitsExactly (h : s.Valid) (htoken : s.pool.token.isSome) : s.WaitsExactly where
  atOnce hzero limit := if_pos hzero
  -- The backlog is done within the limit, so the branch that gives up is not taken.
  inTime limit hle := by
    have hdrained : (s.advanceTo (s.now + limit)).pool.pending = 0 :=
      h.pending_advance htoken (Nat.lt_succ_self _) (by omega)
    rcases s.wait_cases limit with ⟨-, heq⟩ | ⟨-, ⟨-, heq⟩ | ⟨hleft, -⟩⟩
    · rw [heq]
    · rw [heq]
    · exact absurd hdrained hleft
  drained limit hdone := by
    have hpasses := h.passes_advanceTo (s.now + limit)
    rcases s.wait_cases limit with ⟨hzero, heq⟩ | ⟨-, ⟨hdrained, heq⟩ | ⟨-, heq⟩⟩
    · rw [heq]
      exact ⟨hzero, fun task htask => (Passes.refl h).ended h hzero htask⟩
    · rw [heq]
      exact ⟨hdrained, fun task htask => hpasses.ended h hdrained htask⟩
    · rw [heq] at hdone
      cases hdone
  exact limit hdone hsome := by
    have hpasses := h.passes_advanceTo (s.now + limit)
    rcases s.wait_cases limit with ⟨hzero, -⟩ | ⟨-, ⟨hdrained, heq⟩ | ⟨-, heq⟩⟩
    · exact absurd hzero hsome
    · rw [heq]
      exact hpasses.lastEnd_eq h hsome hdrained
    · rw [heq] at hdone
      cases hdone

/-! ## Every schedule -/

/-- Waiting leaves a schedule valid, whether it comes to an end or gives up. -/
theorem Valid.wait (h : s.Valid) (limit : Nat) : (s.wait limit).2.Valid := by
  have hpasses := h.passes_advanceTo (s.now + limit)
  rcases s.wait_cases limit with ⟨-, heq⟩ | ⟨-, ⟨hdrained, heq⟩ | ⟨-, heq⟩⟩
  · rw [heq]
    exact h
  · rw [heq]
    obtain ⟨-, hall, -⟩ := (s.advanceTo (s.now + limit)).lastEnd_eq s.now
    have hvalid := hpasses.valid
    -- The clock stands at the last end, before the deadline; nobody has a task in hand by then.
    have hnobody : (s.advanceTo (s.now + limit)).pool.busy = [] := by
      have hpending := hvalid.sound.pending
      exact List.length_eq_zero_iff.1 (by omega)
    refine ⟨hvalid.reached, hvalid.jobs, hvalid.starts, hvalid.ends, fun task time hmem => ?_, ?_⟩
    · exact ⟨(hvalid.ended task time hmem).1, hall _ hmem⟩
    · show ∀ w ∈ (s.advanceTo (s.now + limit)).pool.busy, _
      rw [hnobody]
      exact nofun
  · rw [heq]
    exact hpasses.valid

/-- Each action leads from a valid schedule to a valid one. -/
theorem Valid.act (h : s.Valid) (action : Action) : (s.act action).Valid := by
  cases action with
  | add task =>
    show ((s.add task).toOption.getD s).Valid
    cases hadd : s.add task with
    | error _ => exact h
    | ok t => exact h.add hadd
  | run token =>
    show ((s.run token).toOption.getD s).Valid
    unfold run
    cases hrun : s.pool.run token with
    | error _ => exact h
    | ok pool =>
      have hstep : pool = s.pool.step (.run token) := by
        rw [Pool.step, hrun]
        rfl
      cases Pool.moves_run hrun with
      | run _ _ =>
        exact ⟨h.reached.play [.run token] hstep, h.jobs, h.starts, h.ends, h.ended, h.busy⟩
  | cancel token =>
    exact ⟨h.reached.play [.cancel token] rfl, h.jobs, h.starts, h.ends, h.ended, h.busy⟩
  | sleep length => exact (h.passes_advanceTo _).valid
  | wait limit => exact h.wait limit

/-- A schedule stays valid over any script. -/
theorem Valid.play (h : s.Valid) (actions : List Action) : (s.play actions).Valid := by
  induction actions generalizing s with
  | nil => exact h
  | cons action rest ih => exact ih (h.act action)

end Schedule

end Telemetry

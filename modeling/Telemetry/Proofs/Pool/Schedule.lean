import Mathlib.Algebra.BigOperators.Group.List.Basic
import Mathlib.Algebra.Ring.Nat
import Mathlib.Data.List.GetD
import Telemetry.Pool.Schedule
import Telemetry.Proofs.Pool.Calls

/-!
# Pools under a clock

`Valid` ties the history of a schedule to its pool: started tasks have a start, counted off tasks
the end that follows from it, and no task in hand has ended before now. `Passes` is what time does
to a schedule while nobody calls: `Valid.passes_take` and `Valid.passes_completeAt` are its steps,
and `Valid.passes_advanceTo` puts them together.
-/

namespace Telemetry

/-- The end of a task leaves the other tasks in hand as they are. -/
theorem Pool.filter_busy_finish (p : Pool) (task : Nat) (ending : Ending) :
    (p.finish task ending).busy.filter (fun b => b.task ≠ task)
      = p.busy.filter fun b => b.task ≠ task := by
  show (p.busy.map _).filter _ = _
  induction p.busy with
  | nil => rfl
  | cons b rest ih =>
    by_cases hb : b.task = task
    · simpa [hb] using ih
    · simpa [hb] using ih

namespace Schedule

open scoped List

variable {s t u : Schedule}

/-- The pool comes from a fresh one by calls and steps of its workers. -/
def Reached (s : Schedule) : Prop :=
  ∃ (concurrency : Nat) (start : Pool) (calls : List Pool.Event),
    Pool.create concurrency = .ok start ∧ s.pool = start.play calls

/-- What holds of a schedule at any time. -/
structure Valid (s : Schedule) : Prop where
  reached : s.Reached
  jobs : s.jobs.length = s.pool.accepted
  starts : s.starts.length + s.pool.queue.length = s.pool.accepted
  ends : s.ends.map Prod.fst = s.pool.finished
  ended : ∀ task time, (task, time) ∈ s.ends → time = s.endOf task ∧ time ≤ s.now
  busy : ∀ w ∈ s.pool.busy, s.now ≤ s.endOf w.task

/-- Time passes and nobody calls. -/
structure Passes (s t : Schedule) : Prop where
  valid : t.Valid
  jobs : t.jobs = s.jobs
  concurrency : t.pool.concurrency = s.pool.concurrency
  accepted : t.pool.accepted = s.pool.accepted
  token : t.pool.token = s.pool.token
  starts : s.starts <+: t.starts
  ends : ∃ new, t.ends = new ++ s.ends ∧ ∀ e ∈ new, s.now ≤ e.2
  now : s.now ≤ t.now

theorem Passes.refl (h : s.Valid) : s.Passes s :=
  ⟨h, rfl, rfl, rfl, rfl, List.prefix_rfl, ⟨[], rfl, nofun⟩, Nat.le_refl _⟩

/-- Two stretches of time without a call make one. -/
theorem Passes.trans (h : s.Passes t) (h' : t.Passes u) : s.Passes u := by
  -- The later ends come to stand in front of the earlier ones, as in the history itself.
  obtain ⟨first, hfirst, hafter⟩ := h.ends
  obtain ⟨second, hsecond, hafter'⟩ := h'.ends
  have hnow : s.now ≤ t.now := h.now
  refine ⟨h'.valid, h'.jobs.trans h.jobs, h'.concurrency.trans h.concurrency,
    h'.accepted.trans h.accepted, h'.token.trans h.token, h.starts.trans h'.starts,
    ⟨second ++ first, ?_, fun e he => ?_⟩, Nat.le_trans hnow h'.now⟩
  · rw [hsecond, hfirst, List.append_assoc]
  · rcases List.mem_append.1 he with he | he
    · exact Nat.le_trans hnow (hafter' e he)
    · exact hafter e he

/-! ## The tasks of a valid schedule -/

/-- The pool of a valid schedule was reached by calls and steps, so what `Pool.Sound` says holds of
it. -/
theorem Valid.sound (h : s.Valid) : s.pool.Sound := by
  obtain ⟨concurrency, start, calls, hcreate, hpool⟩ := h.reached
  rw [hpool]
  exact Pool.sound_play hcreate calls

/-- The tasks that have a start are just those in hand and those counted off. -/
theorem Valid.perm_started (h : s.Valid) :
    s.pool.busy.map Work.task ++ s.pool.finished ~ List.range s.starts.length := by
  have hstarted := h.sound.started
  rwa [show s.pool.accepted - s.pool.queue.length = s.starts.length by
    have hstarts := h.starts
    omega] at hstarted

/-- No task is in the hands of two workers, so taking one out of a schedule leaves the others. -/
theorem Valid.nodup_busy (h : s.Valid) : (s.pool.busy.map Work.task).Nodup :=
  (List.nodup_append.1 (h.perm_started.nodup_iff.2 List.nodup_range)).1

/-- A task in hand has a start. -/
theorem Valid.lt_of_busy (h : s.Valid) {w : Work} (hw : w ∈ s.pool.busy) :
    w.task < s.starts.length :=
  List.mem_range.1 (h.perm_started.mem_iff.1
    (List.mem_append_left _ (List.mem_map_of_mem hw)))

/-- A task counted off has a start. -/
theorem Valid.lt_of_ended (h : s.Valid) {task time : Nat} (hmem : (task, time) ∈ s.ends) :
    task < s.starts.length := by
  have hfinished : task ∈ s.pool.finished := by
    rw [← h.ends]
    exact List.mem_map_of_mem hmem
  exact List.mem_range.1 (h.perm_started.mem_iff.1 (List.mem_append_right _ hfinished))

/-- A started task ends when it did before, whatever tasks start or come later. -/
theorem endOf_eq {task : Nat} (hstarts : s.starts <+: t.starts) (hjobs : s.jobs <+: t.jobs)
    (hstarted : task < s.starts.length) (hjob : task < s.jobs.length) :
    t.endOf task = s.endOf task := by
  obtain ⟨later, hlater⟩ := hstarts
  obtain ⟨more, hmore⟩ := hjobs
  rw [endOf, endOf, job, job, ← hlater, ← hmore, List.getD_append _ _ _ _ hstarted,
    List.getD_append _ _ _ _ hjob]

/-- In a valid schedule every started task is an accepted one, so its end stays once it has started.
-/
theorem Valid.endOf_eq (h : s.Valid) {task : Nat} (hstarts : s.starts <+: t.starts)
    (hjobs : s.jobs <+: t.jobs) (hstarted : task < s.starts.length) :
    t.endOf task = s.endOf task := by
  have hjob := h.jobs
  have hle := h.starts
  exact Schedule.endOf_eq hstarts hjobs hstarted (by omega)

/-! ## A task starts -/

/-- What a worker that receives does to the schedule: the oldest task moves from the queue to its
hands, and its start is now. -/
theorem take?_eq_some (htake : s.take? = some t) :
    ∃ own task rest, s.pool.token = some own ∧ s.pool.queue = task :: rest ∧
      s.pool.busy.length < s.pool.concurrency ∧ t.pool = s.pool.step .take ∧
      t = { s with
        pool := { s.pool with queue := rest, busy := s.pool.busy ++ [⟨task, none⟩] }
        starts := s.starts ++ [s.now]
        peak := max s.peak (s.pool.busy ++ [(⟨task, none⟩ : Work)]).length } := by
  obtain ⟨pool, hpool, rfl⟩ := Option.map_eq_some_iff.1 htake
  have hstep : pool = s.pool.step .take := by rw [Pool.step, hpool, Option.getD_some]
  cases Pool.moves_take hpool with
  | take own task rest htoken hqueue hfree =>
    exact ⟨own, task, rest, htoken, hqueue, hfree, hstep, rfl⟩

/-- Further calls and steps of the workers lead to a pool that is reached too. -/
theorem Reached.play (h : s.Reached) (calls : List Pool.Event)
    (hpool : t.pool = s.pool.play calls) : t.Reached := by
  obtain ⟨concurrency, start, before, hcreate, hbefore⟩ := h
  refine ⟨concurrency, start, before ++ calls, hcreate, ?_⟩
  rw [hpool, hbefore]
  exact List.foldl_append.symm

/-- The head of the queue is the task with the next number, so its start takes that place in
`starts`. -/
theorem Valid.task_eq (h : s.Valid) {task : Nat} {rest : List Nat}
    (hqueue : s.pool.queue = task :: rest) : task = s.starts.length := by
  have hqueued := h.sound.queued
  have hstarts := h.starts
  have hlength := congrArg List.length hqueue
  rw [List.length_cons] at hlength
  rw [show s.pool.accepted - s.pool.queue.length = s.starts.length by omega, hqueue,
    List.drop_eq_getElem_cons (by rw [List.length_range]; omega), List.getElem_range] at hqueued
  exact (List.cons.inj hqueued).1

/-- Receiving a task is a step of the time that passes: it leaves the schedule valid. -/
theorem Valid.passes_take (h : s.Valid) (htake : s.take? = some t) : s.Passes t := by
  obtain ⟨own, task, rest, htoken, hqueue, hfree, hstep, ht⟩ := take?_eq_some htake
  have hreached : t.Reached := h.reached.play [.take] hstep
  have hstarts : t.starts = s.starts ++ [s.now] := by rw [ht]
  have hjobs : t.jobs = s.jobs := by rw [ht]
  have hends : t.ends = s.ends := by rw [ht]
  have hnow : t.now = s.now := by rw [ht]
  have hbusy : t.pool.busy = s.pool.busy ++ [⟨task, none⟩] := by rw [ht]
  have hrest : t.pool.queue = rest := by rw [ht]
  have haccepted : t.pool.accepted = s.pool.accepted := by rw [ht]
  have hearlier : s.starts <+: t.starts := hstarts ▸ List.prefix_append _ _
  have hold : ∀ {task}, task < s.starts.length → t.endOf task = s.endOf task :=
    fun hstarted => h.endOf_eq hearlier (hjobs ▸ List.prefix_rfl) hstarted
  have hcount := h.starts
  rw [hqueue, List.length_cons] at hcount
  -- The task that starts now is the next number, so the ends of the others stay what they were.
  refine ⟨⟨hreached, ?_, ?_, ?_, fun task time hmem => ?_, fun w hw => ?_⟩, hjobs, ?_, haccepted,
    ?_, hearlier, ⟨[], hends, nofun⟩, Nat.le_of_eq hnow.symm⟩
  · rw [hjobs, haccepted]
    exact h.jobs
  · rw [hstarts, hrest, haccepted, List.length_append, List.length_singleton]
    omega
  · rw [ht]
    exact h.ends
  · rw [hends] at hmem
    rw [hold (h.lt_of_ended hmem), hnow]
    exact h.ended task time hmem
  · rw [hbusy] at hw
    rw [hnow]
    rcases List.mem_append.1 hw with hw | hw
    · rw [hold (h.lt_of_busy hw)]
      exact h.busy w hw
    -- Its own end is its length from now, and so not before now.
    · obtain rfl := List.mem_singleton.1 hw
      rw [endOf, hstarts, h.task_eq hqueue, List.getD_append_right _ _ _ _ (Nat.le_refl _),
        Nat.sub_self]
      exact Nat.le_add_right _ _
  · rw [ht]
  · rw [ht]

/-! ## Tasks end -/

/-- What the end of one task in hand does to the schedule. The task is in the hands of one worker
only, so it is taken out of `busy` altogether. -/
theorem complete_eq {w : Work} (hw : w ∈ s.pool.busy) :
    s.complete w.task =
      { s with
        pool := { s.pool with
          busy := s.pool.busy.filter fun b => b.task ≠ w.task
          finished := w.task :: s.pool.finished
          pending := s.pool.pending - 1 }
        ends := (w.task, s.now) :: s.ends } := by
  have hended : (s.pool.finish w.task (s.job w.task).ending).busy.any
      (fun b => b.task = w.task && b.ending.isSome) = true := by
    refine List.any_eq_true.2 ⟨{ w with ending := some (s.job w.task).ending }, ?_, by simp⟩
    exact List.mem_map.2 ⟨w, hw, if_pos rfl⟩
  -- Writing the ending down before counting it off changes no other task.
  have hothers := s.pool.filter_busy_finish w.task (s.job w.task).ending
  rw [complete, Pool.release?, if_pos hended]
  simp only [hothers]
  rfl

/-- The end of a task is what its worker does to the pool: it notes the ending and counts it off. -/
theorem reached_complete (s : Schedule) (task : Nat) :
    ∃ calls, (s.complete task).pool = s.pool.play calls := by
  unfold complete
  split
  · next pool hpool =>
    refine ⟨[.finish task (s.job task).ending, .release task], ?_⟩
    show pool = ((s.pool.finish task (s.job task).ending).release? task).getD _
    rw [hpool]
    rfl
  · exact ⟨[], rfl⟩

/-- Tasks in hand are counted off one after another. -/
theorem foldl_complete (works : List Work) (hnodup : (works.map Work.task).Nodup)
    (hbusy : ∀ w ∈ works, w ∈ s.pool.busy) :
    works.foldl (fun s w => s.complete w.task) s =
      { s with
        pool := { s.pool with
          busy := s.pool.busy.filter fun b => b.task ∉ works.map Work.task
          finished := (works.map Work.task).reverse ++ s.pool.finished
          pending := s.pool.pending - works.length }
        ends := (works.map fun w => (w.task, s.now)).reverse ++ s.ends } := by
  -- The others are still in hand after the first one has ended, since it has another number.
  induction works generalizing s with
  | nil => simp
  | cons w rest ih =>
    rw [List.map_cons, List.nodup_cons] at hnodup
    have hrest : ∀ b ∈ rest, b ∈ (s.complete w.task).pool.busy := by
      intro b hb
      rw [complete_eq (hbusy w List.mem_cons_self)]
      refine List.mem_filter.2 ⟨hbusy b (List.mem_cons_of_mem _ hb), decide_eq_true fun heq => ?_⟩
      exact hnodup.1 (heq ▸ List.mem_map_of_mem hb)
    rw [List.foldl_cons, ih hnodup.2 hrest, complete_eq (hbusy w List.mem_cons_self)]
    have hfilter : (s.pool.busy.filter fun b => b.task ≠ w.task).filter
        (fun b => b.task ∉ rest.map Work.task)
        = s.pool.busy.filter fun b => b.task ∉ w.task :: rest.map Work.task := by
      rw [List.filter_filter]
      refine List.filter_congr fun b _ => ?_
      rw [← Bool.decide_and, decide_eq_decide, List.mem_cons, not_or, and_comm]
    simp only [hfilter, List.map_cons, List.reverse_cons, List.append_assoc, List.singleton_append,
      List.length_cons, Nat.sub_sub, Nat.add_comm 1]

/-- The tasks in hand whose end has come by a time. -/
def ended (s : Schedule) (time : Nat) : List Work :=
  s.pool.busy.filter fun w => s.endOf w.task ≤ time

/-- Every task that has ended by `time` is counted off at `time`, and the others stay in hand. -/
theorem Valid.completeAt_eq (h : s.Valid) (time : Nat) :
    s.completeAt time =
      { s with
        now := time
        pool := { s.pool with
          busy := s.pool.busy.filter fun b => time < s.endOf b.task
          finished := ((s.ended time).map Work.task).reverse ++ s.pool.finished
          pending := s.pool.pending - (s.ended time).length }
        ends := ((s.ended time).map fun w => (w.task, time)).reverse ++ s.ends } := by
  have hnodup : ((s.ended time).map Work.task).Nodup :=
    h.nodup_busy.sublist (List.filter_sublist.map Work.task)
  -- No task ends twice, so the fold over the ended tasks takes each of them out once.
  have hfold := foldl_complete (s := { s with now := time }) (s.ended time) hnodup
    fun w hw => (List.mem_filter.1 hw).1
  have hleft : (s.pool.busy.filter fun b => b.task ∉ (s.ended time).map Work.task)
      = s.pool.busy.filter fun b => time < s.endOf b.task := by
    refine List.filter_congr fun b hb => decide_eq_decide.2 ⟨fun hout => ?_, fun hlt hin => ?_⟩
    · refine Nat.lt_of_not_le fun hle => hout ?_
      exact List.mem_map_of_mem (List.mem_filter.2 ⟨hb, decide_eq_true hle⟩)
    · obtain ⟨w, hw, htask⟩ := List.mem_map.1 hin
      have hle := of_decide_eq_true (List.mem_filter.1 hw).2
      rw [htask] at hle
      omega
  show (s.ended time).foldl _ _ = _
  rw [hfold]
  simp only [hleft]

/-- However many tasks end at a time, their ends are steps of the workers. -/
theorem reached_completeAt (s : Schedule) (time : Nat) :
    ∃ calls, (s.completeAt time).pool = s.pool.play calls := by
  have hfold : ∀ (works : List Work) (t : Schedule), ∃ calls,
      (works.foldl (fun s w => s.complete w.task) t).pool = t.pool.play calls := by
    -- The fold starts at a schedule whose clock has moved, so it is stated from any schedule.
    intro works
    induction works with
    | nil => exact fun t => ⟨[], rfl⟩
    | cons w rest ih =>
      intro t
      obtain ⟨first, hfirst⟩ := reached_complete t w.task
      obtain ⟨later, hlater⟩ := ih (t.complete w.task)
      refine ⟨first ++ later, ?_⟩
      rw [List.foldl_cons, hlater, hfirst]
      exact List.foldl_append.symm
  exact hfold (s.ended time) { s with now := time }

/-- Ending tasks is a step of the time that passes, as long as nothing in hand ends before `time`.
-/
theorem Valid.passes_completeAt (h : s.Valid) {time : Nat} (hnow : s.now ≤ time)
    (hbusy : ∀ w ∈ s.pool.busy, time ≤ s.endOf w.task) : s.Passes (s.completeAt time) := by
  obtain ⟨calls, hcalls⟩ := reached_completeAt s time
  have hreached := h.reached.play calls hcalls
  rw [h.completeAt_eq time] at hreached ⊢
  refine ⟨⟨hreached, h.jobs, h.starts, ?_, fun task e hmem => ?_, fun w hw => ?_⟩, rfl, rfl, rfl,
    rfl, List.prefix_rfl, ⟨_, rfl, fun e he => ?_⟩, hnow⟩
  · rw [List.map_append, List.map_reverse, List.map_map, h.ends]
    rfl
  -- What ends now ends exactly now: not before, by the hypothesis, and not later, since it has
  -- ended.
  · rcases List.mem_append.1 hmem with hmem | hmem
    · obtain ⟨w, hw, heq⟩ := List.mem_map.1 (List.mem_reverse.1 hmem)
      obtain ⟨rfl, rfl⟩ := Prod.mk.inj heq
      obtain ⟨hin, hle⟩ := List.mem_filter.1 hw
      exact ⟨Nat.le_antisymm (hbusy w hin) (of_decide_eq_true hle), Nat.le_refl _⟩
    · obtain ⟨heq, hle⟩ := h.ended task e hmem
      exact ⟨heq, Nat.le_trans hle hnow⟩
  · exact hbusy w (List.mem_filter.1 hw).1
  · obtain ⟨w, hw, rfl⟩ := List.mem_map.1 (List.mem_reverse.1 he)
    exact hnow

/-- The clock goes on to a time at which no task in hand has ended. -/
theorem Valid.passes_later (h : s.Valid) (time : Nat) (hnow : s.now ≤ time)
    (hbusy : ∀ w ∈ s.pool.busy, time ≤ s.endOf w.task) : s.Passes { s with now := time } := by
  refine ⟨⟨h.reached, h.jobs, h.starts, h.ends, fun task e hmem => ?_, hbusy⟩, rfl, rfl, rfl, rfl,
    List.prefix_rfl, ⟨[], rfl, nofun⟩, hnow⟩
  obtain ⟨heq, hle⟩ := h.ended task e hmem
  exact ⟨heq, Nat.le_trans hle hnow⟩

/-- Every accepted task is pending or has ended. -/
theorem Valid.pending_add_ends (h : s.Valid) :
    s.pool.pending + s.ends.length = s.pool.accepted := by
  have hstarted := h.perm_started.length_eq
  have hends := congrArg List.length h.ends
  have hstarts := h.starts
  have hpending := h.sound.pending
  simp only [List.length_append, List.length_map, List.length_range] at hstarted hends
  omega

/-- While time passes tasks are only counted off, so what is pending does not grow. -/
theorem Passes.pending_le (h : s.Passes t) (hs : s.Valid) : t.pool.pending ≤ s.pool.pending := by
  obtain ⟨new, hnew, -⟩ := h.ends
  have hbefore := hs.pending_add_ends
  have hafter := h.valid.pending_add_ends
  have haccepted := h.accepted
  rw [hnew, List.length_append] at hafter
  omega

/-! ## Free workers receive -/

/-- Whatever has ended by now may be counted off now. -/
theorem Valid.busy_now (h : s.Valid) : s.Passes (s.completeAt s.now) :=
  h.passes_completeAt (Nat.le_refl _) h.busy

/-- Free workers receive one task after the other, and time does not pass in between. -/
theorem Valid.passes_takeUpTo (h : s.Valid) (count : Nat) : s.Passes (s.takeUpTo count) := by
  induction count generalizing s with
  | zero => exact .refl h
  | succ count ih =>
    rw [takeUpTo]
    cases htake : s.take? with
    | none => exact .refl h
    | some t =>
      have hfirst := h.passes_take htake
      have hnow := hfirst.valid.busy_now
      exact (hfirst.trans hnow).trans (ih hnow.valid)

/-- No time passes. -/
theorem Valid.now_takeUpTo (h : s.Valid) (count : Nat) : (s.takeUpTo count).now = s.now := by
  induction count generalizing s with
  | zero => rfl
  | succ count ih =>
    rw [takeUpTo]
    cases htake : s.take? with
    | none => rfl
    | some t =>
      have hvalid := (h.passes_take htake).valid
      obtain ⟨own, task, rest, -, -, -, -, ht⟩ := take?_eq_some htake
      have hclock : (t.completeAt t.now).now = s.now := by
        rw [hvalid.completeAt_eq]
        show t.now = s.now
        rw [ht]
      exact (ih hvalid.busy_now.valid).trans hclock

theorem take?_eq_none_of_queue (hqueue : s.pool.queue = []) : s.take? = none := by
  rw [take?, Pool.take?, hqueue]
  cases s.pool.token <;> rfl

/-- After as many rounds as tasks were queued nobody can receive any more. -/
theorem Valid.take?_takeUpTo (h : s.Valid) {count : Nat} (hcount : s.pool.queue.length ≤ count) :
    (s.takeUpTo count).take? = none := by
  induction count generalizing s with
  | zero => exact take?_eq_none_of_queue (List.length_eq_zero_iff.1 (Nat.le_zero.1 hcount))
  | succ count ih =>
    rw [takeUpTo]
    cases htake : s.take? with
    | none => exact htake
    | some t =>
      have hfirst := h.passes_take htake
      obtain ⟨own, task, rest, -, hqueue, -, -, ht⟩ := take?_eq_some htake
      have hrest : t.pool.queue = rest := by rw [ht]
      -- A round takes one task off the queue, and ending a task puts none on it.
      refine ih hfirst.valid.busy_now.valid ?_
      rw [hfirst.valid.completeAt_eq]
      show t.pool.queue.length ≤ count
      rw [hqueue, List.length_cons] at hcount
      rw [hrest]
      omega

/-- When a worker is free in a pool that runs and nothing is received, nothing is queued. -/
theorem queue_eq_nil_of_take? (htoken : s.pool.token.isSome)
    (hfree : s.pool.busy.length < s.pool.concurrency) (htake : s.take? = none) :
    s.pool.queue = [] := by
  obtain ⟨own, htoken⟩ := Option.isSome_iff_exists.1 htoken
  cases hqueue : s.pool.queue with
  | nil => rfl
  | cons task rest =>
    rw [take?, Pool.take?, htoken, hqueue] at htake
    simp only [hfree, if_true, Option.map_some] at htake
    cases htake

/-! ## Time passes -/

theorem Valid.passes_takeAll (h : s.Valid) : s.Passes s.takeAll := h.passes_takeUpTo _

/-- The next end is the end of a task in hand, and no task in hand ends before it. -/
theorem nextEnd?_eq_some {time : Nat} (hnext : s.nextEnd? = some time) :
    (∃ w ∈ s.pool.busy, s.endOf w.task = time) ∧ ∀ w ∈ s.pool.busy, time ≤ s.endOf w.task := by
  obtain ⟨hmem, hle⟩ := List.min?_eq_some_iff.1 hnext
  exact ⟨List.mem_map.1 hmem, fun w hw => hle _ (List.mem_map_of_mem hw)⟩

theorem nextEnd?_eq_none (hnext : s.nextEnd? = none) : s.pool.busy = [] :=
  List.map_eq_nil_iff.1 (List.min?_eq_none_iff.1 hnext)

/-- At the next end a task ends. -/
theorem Valid.pending_completeAt_lt (h : s.Valid) {time : Nat} (hnext : s.nextEnd? = some time) :
    (s.completeAt time).pool.pending < s.pool.pending := by
  obtain ⟨⟨w, hw, hend⟩, -⟩ := nextEnd?_eq_some hnext
  have hended : w ∈ s.ended time := List.mem_filter.2 ⟨hw, by simp [hend]⟩
  have hlength := List.length_pos_of_mem hended
  have hbusy := List.length_pos_of_mem hw
  have hpending := h.sound.pending
  rw [h.completeAt_eq]
  show s.pool.pending - (s.ended time).length < s.pool.pending
  omega

/-- Every round ends a task or is the last one, so the rounds are enough to come to the deadline. -/
theorem Valid.passes_advance (h : s.Valid) {deadline rounds : Nat}
    (hrounds : s.pool.pending < rounds) : s.Passes (s.advance deadline rounds) := by
  induction rounds generalizing s with
  | zero => exact absurd hrounds (Nat.not_lt_zero _)
  | succ rounds ih =>
    have htake := h.passes_takeAll
    have hclock : s.takeAll.now = s.now := h.now_takeUpTo _
    rw [advance]
    -- Three ways a round goes: nobody works, the next end is in time, or it lies beyond the
    -- deadline.
    cases hnext : s.takeAll.nextEnd? with
    | none =>
      have hnobody := nextEnd?_eq_none hnext
      have hlater := htake.valid.passes_later (max s.now deadline) (by omega)
        (by rw [hnobody]; exact nofun)
      exact htake.trans hlater
    | some time =>
      obtain ⟨⟨w, hw, hend⟩, hfirst⟩ := nextEnd?_eq_some hnext
      have hnow := htake.valid.busy w hw
      show s.Passes (ite _ _ _)
      split
      · have hround := htake.valid.passes_completeAt (by omega) hfirst
        have hless := htake.valid.pending_completeAt_lt hnext
        have hle := htake.pending_le h
        exact (htake.trans hround).trans (ih hround.valid (by omega))
      · have hlater := htake.valid.passes_later (max s.now deadline) (by omega)
          fun b hb => by
            have hb := hfirst b hb
            omega
        exact htake.trans hlater

/-- There are rounds enough, since each counts off one pending task at least. -/
theorem Valid.passes_advanceTo (h : s.Valid) (deadline : Nat) : s.Passes (s.advanceTo deadline) :=
  h.passes_advance (Nat.lt_succ_self _)

/-! ## Calls -/

/-- An accepted task has the next number, waits at the end of the queue, and is pending. -/
theorem add_eq_ok {task : Job} (hadd : s.add task = .ok t) :
    t.pool = s.pool.step .add ∧
      t = { s with
        pool := { s.pool with
          accepted := s.pool.accepted + 1
          queue := s.pool.queue ++ [s.pool.accepted]
          pending := s.pool.pending + 1 }
        jobs := s.jobs ++ [task] } := by
  unfold add at hadd
  rw [Pool.step]
  cases hpool : s.pool.add with
  | error _ =>
    rw [hpool] at hadd
    cases hadd
  | ok pool =>
    rw [hpool] at hadd
    cases hadd
    cases Pool.moves_add hpool with
    | add _ => exact ⟨rfl, rfl⟩

/-- Accepting a task leaves a schedule valid: nothing that has started or ended is touched. -/
theorem Valid.add (h : s.Valid) {task : Job} (hadd : s.add task = .ok t) : t.Valid := by
  obtain ⟨hstep, ht⟩ := add_eq_ok hadd
  have hjobs : t.jobs = s.jobs ++ [task] := by rw [ht]
  have hstarts : t.starts = s.starts := by rw [ht]
  have hends : t.ends = s.ends := by rw [ht]
  have hnow : t.now = s.now := by rw [ht]
  have hbusy : t.pool.busy = s.pool.busy := by rw [ht]
  have hfinished : t.pool.finished = s.pool.finished := by rw [ht]
  have haccepted : t.pool.accepted = s.pool.accepted + 1 := by rw [ht]
  have hqueue : t.pool.queue = s.pool.queue ++ [s.pool.accepted] := by rw [ht]
  -- The new task stands behind all others and has not started.
  have hold : ∀ {task}, task < s.starts.length → t.endOf task = s.endOf task :=
    fun hstarted => h.endOf_eq (hstarts ▸ List.prefix_rfl) (hjobs ▸ List.prefix_append _ _) hstarted
  refine ⟨h.reached.play [.add] hstep, ?_, ?_, ?_, fun task time hmem => ?_, fun w hw => ?_⟩
  · rw [hjobs, haccepted, List.length_append, h.jobs]
    rfl
  · have hcount := h.starts
    rw [hstarts, hqueue, haccepted, List.length_append, List.length_singleton]
    omega
  · rw [hends, hfinished]
    exact h.ends
  · rw [hends] at hmem
    rw [hold (h.lt_of_ended hmem), hnow]
    exact h.ended task time hmem
  · rw [hbusy] at hw
    rw [hold (h.lt_of_busy hw), hnow]
    exact h.busy w hw

/-- A fresh schedule is valid: nothing is accepted, started or ended. -/
theorem valid_create {concurrency : Nat} (hcreate : create concurrency = .ok s) : s.Valid := by
  unfold create at hcreate
  cases hpool : Pool.create concurrency with
  | error _ =>
    rw [hpool] at hcreate
    cases hcreate
  | ok start =>
    rw [hpool] at hcreate
    cases hcreate
    have hreached : Reached ⟨start, 0, [], [], [], 0⟩ := ⟨concurrency, start, [], hpool, rfl⟩
    unfold Pool.create at hpool
    split at hpool
    · cases hpool
    · cases hpool
      exact ⟨hreached, rfl, rfl, rfl, nofun, nofun⟩

end Schedule

end Telemetry

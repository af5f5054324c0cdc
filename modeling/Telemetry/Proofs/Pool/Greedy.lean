import Mathlib.Data.Finset.Max
import Telemetry.Proofs.Pool.Turns

/-!
# No worker is idle while a task waits

At every moment of the time that has passed since the run, as many tasks run as there are workers,
or all accepted tasks that are unfinished (`Paced.card_running`). No more run than there are
workers, because the last one of them to start had its turn; and if one task that is unfinished
does not run, then it has no turn, and the first such task has that many running tasks before it.

The starts are fixed by the times at which the run and the tasks are accepted and by the lengths of
the tasks before (`Paced.starts_eq`). `pool_is_greedy` puts the description of a schedule together.
-/

namespace Telemetry

namespace Schedule

variable {s t : Schedule} {c began time task : Nat} {accepted accepted' : List (Nat × Job)}

/-- The tasks that run at a time. -/
def running (s : Schedule) (time : Nat) : Finset Nat :=
  (Finset.range s.starts.length).filter fun task =>
    s.starts.getD task 0 ≤ time ∧ time < s.endOf task

/-- The tasks that are accepted by a time and have not come to their end. -/
def outstanding (accepted : List (Nat × Job)) (s : Schedule) (time : Nat) : Finset Nat :=
  (Finset.range accepted.length).filter fun task =>
    (accepted.getD task default).1 ≤ time ∧ ¬ s.HasEnded time task

/-! ## What has been passed over -/

/-- Every start is the first moment at which the task has its turn. -/
theorem Timely.isLeast (h : Timely c [began] accepted s) (htask : task < s.starts.length) :
    IsLeast {time | HasTurn c began accepted s task time} (s.starts.getD task 0) := by
  obtain ⟨run, hrun, hleast⟩ := h.starts task htask
  exact List.mem_singleton.1 hrun ▸ hleast

/-- Tasks arrive in the order of their numbers. -/
theorem Timely.sorted_getD (h : Timely c [began] accepted s) {j : Nat} (hj : j < task)
    (htask : task < accepted.length) :
    (accepted.getD j default).1 ≤ (accepted.getD task default).1 := by
  have hlt := Nat.lt_trans hj htask
  have hle := List.pairwise_iff_getElem.1 h.sorted j task (by rwa [List.length_map])
    (by rwa [List.length_map]) hj
  rw [List.getElem_map, List.getElem_map] at hle
  rwa [List.getD_eq_getElem _ _ hlt, List.getD_eq_getElem _ _ htask]

/-- A running task is accepted and unfinished. -/
theorem Timely.running_subset (h : Timely c [began] accepted s) (time : Nat) :
    s.running time ⊆ s.outstanding accepted time := by
  intro task hrunning
  obtain ⟨hrange, hstart, hend⟩ := Finset.mem_filter.1 hrunning
  have htask := Finset.mem_range.1 hrange
  have hfits := h.fits
  refine Finset.mem_filter.2 ⟨Finset.mem_range.2 (by omega), ?_, fun hended => ?_⟩
  · exact Nat.le_trans (h.isLeast htask).1.accepted hstart
  · exact Nat.not_le_of_lt hend hended.2

/-- The last of the running tasks to start had its turn. -/
theorem Timely.card_running_le (h : Timely c [began] accepted s) (time : Nat) :
    (s.running time).card ≤ c := by
  rcases (s.running time).eq_empty_or_nonempty with hempty | hsome
  · rw [hempty]
    exact Nat.zero_le _
  -- The last of the running tasks had its turn, so less than `c` of the others were unfinished
  -- then.
  have hlast := Finset.max'_mem _ hsome
  generalize hmax : (s.running time).max' hsome = last at hlast
  obtain ⟨hrange, hstart, -⟩ := Finset.mem_filter.1 hlast
  have hturn := (h.isLeast (Finset.mem_range.1 hrange)).1
  have hsubset :
      s.running time ⊆ insert last (s.unfinished (s.starts.getD last 0) last) := by
    intro j hj
    have hle : j ≤ last := hmax ▸ Finset.le_max' _ j hj
    rcases Nat.lt_or_eq_of_le hle with hlt | rfl
    -- An earlier task that runs now had not ended when the last one started.
    · obtain ⟨-, -, hend⟩ := Finset.mem_filter.1 hj
      refine Finset.mem_insert_of_mem (Finset.mem_filter.2 ⟨Finset.mem_range.2 hlt, ?_⟩)
      exact fun hended => Nat.not_le_of_lt hend (Nat.le_trans hended.2 hstart)
    · exact Finset.mem_insert_self _ _
  calc (s.running time).card
    _ ≤ (insert last (s.unfinished (s.starts.getD last 0) last)).card :=
      Finset.card_le_card hsubset
    _ ≤ (s.unfinished (s.starts.getD last 0) last).card + 1 := Finset.card_insert_le _ _
    _ ≤ c := hturn.free

/-- A task that is open and does not run has no turn. -/
theorem Timely.not_hasTurn (h : Timely c [began] accepted s) (hnow : time < s.now)
    (hopen : task ∈ s.outstanding accepted time) (hidle : task ∉ s.running time) :
    ¬ HasTurn c began accepted s task time := by
  obtain ⟨hrange, -, hunfinished⟩ := Finset.mem_filter.1 hopen
  have hlt := Finset.mem_range.1 hrange
  intro hturn
  rcases Nat.lt_or_ge task s.starts.length with hstarted | hqueued
  · refine hidle (Finset.mem_filter.2 ⟨Finset.mem_range.2 hstarted, ?_, ?_⟩)
    · exact (h.isLeast hstarted).2 hturn
    · exact Nat.lt_of_not_le fun hend => hunfinished ⟨hstarted, hend⟩
  · have hlater := h.waiting began (List.mem_singleton_self _) task hqueued hlt time hturn
    exact Nat.not_le_of_lt hnow hlater

/-- **While time passes, all workers have a task or all open tasks run.** -/
theorem Timely.card_running (h : Timely c [began] accepted s) (hbegan : began ≤ time)
    (hnow : time < s.now) :
    (s.running time).card = min c (s.outstanding accepted time).card := by
  have hsubset := h.running_subset time
  have hle := Finset.card_le_card hsubset
  have hbound := h.card_running_le time
  by_cases hall : s.outstanding accepted time ⊆ s.running time
  · have hge := Finset.card_le_card hall
    omega
  -- the first open task that does not run has only running ones before it that are unfinished
  obtain ⟨task, hfirst⟩ : ∃ task, task ∈ s.outstanding accepted time \ s.running time ∧
      ∀ j ∈ s.outstanding accepted time \ s.running time, task ≤ j := by
    have hsome : (s.outstanding accepted time \ s.running time).Nonempty :=
      Finset.sdiff_nonempty.2 hall
    exact ⟨_, Finset.min'_mem _ hsome, fun j hj => Finset.min'_le _ j hj⟩
  obtain ⟨hmem, hleast⟩ := hfirst
  obtain ⟨hopen, hidle⟩ := Finset.mem_sdiff.1 hmem
  obtain ⟨hrange, haccepted, -⟩ := Finset.mem_filter.1 hopen
  have hlt := Finset.mem_range.1 hrange
  have hbefore : s.unfinished time task ⊆ s.running time := by
    intro j hj
    obtain ⟨hj, hunfinished⟩ := Finset.mem_filter.1 hj
    have hj := Finset.mem_range.1 hj
    by_contra hnot
    have hopen : j ∈ s.outstanding accepted time := Finset.mem_filter.2
      ⟨Finset.mem_range.2 (Nat.lt_trans hj hlt),
        Nat.le_trans (h.sorted_getD hj hlt) haccepted, hunfinished⟩
    exact Nat.not_le_of_lt hj (hleast j (Finset.mem_sdiff.2 ⟨hopen, hnot⟩))
  have hcard := Finset.card_le_card hbefore
  have hbusy : c ≤ (s.unfinished time task).card :=
    Nat.le_of_not_lt fun hfree =>
      h.not_hasTurn hnow hopen hidle ⟨haccepted, hbegan, hfree⟩
  omega

/-! ## Starts and ends -/

/-- A task ends its length after its start, and the length is the accepted one. -/
theorem Timely.endOf_eq (h : Timely c [began] accepted s) (task : Nat) :
    s.endOf task = s.starts.getD task 0 + (accepted.getD task default).2.length := by
  have hjob : s.job task = (accepted.getD task default).2 := by
    rw [job, ← h.jobs]
    exact List.getD_map accepted default Prod.snd
  rw [endOf, hjob]

/-- The starts follow from what is accepted when and from the lengths of the tasks before. -/
theorem Timely.starts_eq (h : Timely c [began] accepted s) (h' : Timely c [began] accepted' t)
    (htimes : ∀ j ≤ task, (accepted'.getD j default).1 = (accepted.getD j default).1)
    (hlengths : ∀ j < task,
      (accepted'.getD j default).2.length = (accepted.getD j default).2.length)
    (htask : task < s.starts.length) (htask' : task < t.starts.length) :
    t.starts.getD task 0 = s.starts.getD task 0 := by
  -- The turn of a task depends on the ends of the tasks before, and these on their starts.
  induction task using Nat.strongRecOn with
  | _ task ih =>
    have hended : ∀ time, ∀ j < task, (t.HasEnded time j ↔ s.HasEnded time j) := by
      intro time j hj
      have hstart : t.starts.getD j 0 = s.starts.getD j 0 :=
        ih j hj (fun i hi => htimes i (by omega)) (fun i hi => hlengths i (by omega)) (by omega)
          (by omega)
      have hend : t.endOf j = s.endOf j := by
        rw [h.endOf_eq, h'.endOf_eq, hstart, hlengths j hj]
      unfold HasEnded
      rw [hend]
      exact and_congr_left' (iff_of_true (by omega) (by omega))
    have hturns : {time | HasTurn c began accepted' t task time}
        = {time | HasTurn c began accepted s task time} :=
      setOf_hasTurn_congr (htimes task (Nat.le_refl _)) hended
    exact (h'.isLeast htask').unique (hturns ▸ h.isLeast htask)

/-- The tasks in hand are those that have started and are not at their end. -/
theorem Paced.mem_busy_iff (h : Paced c [began] accepted s) :
    task ∈ s.pool.busy.map Work.task ↔ task < s.starts.length ∧ s.now < s.endOf task := by
  constructor
  · intro hbusy
    obtain ⟨w, hw, rfl⟩ := List.mem_map.1 hbusy
    exact ⟨h.valid.lt_of_busy hw, h.ahead w hw⟩
  · rintro ⟨hstarted, hend⟩
    exact h.valid.mem_busy hstarted fun hended => Nat.not_le_of_lt hend hended.2

/-- A task that has started shows its start, and its end once that has come, if the tasks that have
come to their end are those that are counted off. -/
theorem span?_eq (hends : ∀ task time, (task, time) ∈ s.ends → time = s.endOf task ∧ time ≤ s.now)
    (hcounted : s.endOf task ≤ s.now → task ∈ s.ends.map Prod.fst)
    (htask : task < s.starts.length) :
    s.span? task
      = some (s.starts.getD task 0,
          if s.endOf task ≤ s.now then some (s.endOf task) else none) := by
  have hfind : ((s.ends.find? fun e => e.1 = task).map (·.2))
      = if s.endOf task ≤ s.now then some (s.endOf task) else none := by
    by_cases hend : s.endOf task ≤ s.now
    -- Whatever entry is found first, its time is the end of the task.
    · obtain ⟨own, hown, howntask⟩ := List.mem_map.1 (hcounted hend)
      have hsome : (s.ends.find? fun e => e.1 = task).isSome :=
        List.find?_isSome.2 ⟨own, hown, decide_eq_true howntask⟩
      obtain ⟨e, he⟩ := Option.isSome_iff_exists.1 hsome
      have hmatch := List.find?_some he
      have hetask : e.1 = task := of_decide_eq_true hmatch
      have htime := (hends e.1 e.2 (List.mem_of_find?_eq_some he)).1
      rw [he, if_pos hend, Option.map_some, htime, hetask]
    · rw [if_neg hend, Option.map_eq_none_iff, List.find?_eq_none]
      intro e he hetask
      obtain ⟨htime, hpast⟩ := hends e.1 e.2 he
      rw [htime, of_decide_eq_true hetask] at hpast
      exact hend hpast
  rw [span?, List.getElem?_eq_getElem htask, Option.map_some, hfind, List.getD_eq_getElem _ _ htask]

/-- A started task whose end is past has been counted off. -/
theorem Paced.mem_ends (h : Paced c [began] accepted s) (htask : task < s.starts.length)
    (hend : s.endOf task ≤ s.now) : task ∈ s.ends.map Prod.fst := by
  have hmem := h.valid.perm_started.mem_iff.2 (List.mem_range.2 htask)
  rw [h.valid.ends]
  refine (List.mem_append.1 hmem).resolve_left fun hbusy => ?_
  exact Nat.not_le_of_lt (h.mem_busy_iff.1 hbusy).2 hend

/-! ## Every script -/

/-- How a schedule works off what was accepted. -/
structure IsGreedy (c began : Nat) (accepted : List (Nat × Job)) (s : Schedule) : Prop where
  /-- Whenever time passes, all workers have a task or all outstanding tasks run. -/
  occupied : ∀ time, began ≤ time → time < s.now →
    (s.running time).card = min c (s.outstanding accepted time).card
  /-- The tasks that have started are the first ones, and each started at its first turn. -/
  fits : s.starts.length ≤ accepted.length
  starts : ∀ task < s.starts.length,
    IsLeast {time | HasTurn c began accepted s task time} (s.starts.getD task 0)
  /-- The others have had no turn. -/
  waiting : ∀ task, s.starts.length ≤ task → task < accepted.length →
    ∀ time, HasTurn c began accepted s task time → s.now ≤ time
  /-- The workers have in their hands what has started and has not come to its end. -/
  hands : ∀ task, task ∈ s.pool.busy.map Work.task ↔
    task < s.starts.length ∧ s.now < s.endOf task
  /-- A task ends its length after its start, however it ends. -/
  ends : ∀ task < s.starts.length, s.span? task = some (s.starts.getD task 0,
    let ended := s.starts.getD task 0 + (accepted.getD task default).2.length
    if ended ≤ s.now then some ended else none)

/-- A schedule that keeps pace is greedy. -/
theorem Paced.isGreedy (h : Paced c [began] accepted s) : IsGreedy c began accepted s where
  occupied _ hbegan hnow := h.card_running hbegan hnow
  fits := h.fits
  starts _ htask := h.isLeast htask
  waiting := h.waiting began (List.mem_singleton_self _)
  hands task := h.mem_busy_iff
  ends task htask := by
    rw [span?_eq h.valid.ended (h.mem_ends htask) htask, h.endOf_eq]

/-- A pool for at least one worker can be made. -/
theorem exists_create (hc : 0 < c) : ∃ start, create c = .ok start := by
  rw [create, Pool.create, if_neg (Nat.ne_of_gt hc)]
  exact ⟨_, rfl⟩

/-- A script whose run is accepted keeps the schedule in turn from then on. -/
theorem paced_play (hcreate : create c = .ok s) {actions : List Action}
    (hrun : began ∈ s.notes runAt? actions) :
    Paced c [began] (s.notes taskAt? actions) (s.play actions) := by
  have hpaced := (paced_create hcreate).play actions
  rw [List.nil_append, List.nil_append] at hpaced
  rcases hpaced.launched with ⟨-, hruns⟩ | ⟨-, run, hruns⟩
  · rw [hruns] at hrun
    cases hrun
  · rw [hruns] at hpaced hrun
    exact List.mem_singleton.1 hrun ▸ hpaced

/-- **A pool is greedy and takes its tasks in their order.** When a task starts depends on the
times at which the run and the tasks up to it are accepted and on the lengths of the tasks before,
and on nothing else. -/
theorem pool_is_greedy (hc : 0 < c) :
    ∃ start, create c = .ok start ∧
      ∀ actions, ∀ began ∈ start.notes runAt? actions,
        IsGreedy c began (start.notes taskAt? actions) (start.play actions) ∧
        ∀ others, began ∈ start.notes runAt? others → ∀ task,
          (∀ j ≤ task, ((start.notes taskAt? others).getD j default).1
            = ((start.notes taskAt? actions).getD j default).1) →
          (∀ j < task, ((start.notes taskAt? others).getD j default).2.length
            = ((start.notes taskAt? actions).getD j default).2.length) →
          task < (start.play actions).starts.length → task < (start.play others).starts.length →
          (start.play others).starts.getD task 0 = (start.play actions).starts.getD task 0 := by
  obtain ⟨start, hcreate⟩ := exists_create hc
  refine ⟨start, hcreate, fun actions began hrun => ?_⟩
  have hpaced := paced_play hcreate hrun
  refine ⟨hpaced.isGreedy, fun others hother task htimes hlengths htask htask' => ?_⟩
  exact hpaced.starts_eq (paced_play hcreate hother).toTimely htimes hlengths htask htask'

/-- A task before the run, one without length, two that start at once and one that waits for the
first end; then no more are accepted. -/
def crowd (ending : Ending) : List Action :=
  [.add ⟨5, ending⟩, .sleep 3, .run 0, .add ⟨0, ending⟩, .add ⟨4, ending⟩, .add ⟨4, ending⟩,
    .sleep 4, .cancel 0, .add ⟨1, ending⟩, .wait 100]

/-- A fresh pool of two workers. -/
def pair : Schedule := ⟨⟨2, 0, [], [], [], 0, none, []⟩, 0, [], [], [], 0⟩

/-- Two workers and four tasks that panic: one brought before the run, one without length, and a last
one that starts when the first of the two in hand ends. Ending well moves no start. -/
theorem pool_is_greedy_crowd :
    0 < 2 ∧ create 2 = .ok pair ∧ 3 ∈ pair.notes runAt? (crowd .panicked) ∧
      IsGreedy 2 3 [(0, ⟨5, .panicked⟩), (3, ⟨0, .panicked⟩), (3, ⟨4, .panicked⟩),
        (3, ⟨4, .panicked⟩)] (pair.play (crowd .panicked)) ∧
      (pair.play (crowd .panicked)).starts = [3, 3, 3, 7] ∧
      (pair.play (crowd .done)).starts.getD 3 0 = 7 := by
  obtain ⟨start, hcreate, hall⟩ := pool_is_greedy (by decide : 0 < 2)
  obtain rfl : pair = start := Except.ok.inj hcreate
  have hrun : ∀ ending, 3 ∈ pair.notes runAt? (crowd ending) := fun ending => by
    cases ending <;> decide
  obtain ⟨hgreedy, hsame⟩ := hall (crowd .panicked) 3 (hrun _)
  exact ⟨by decide, hcreate, hrun _, hgreedy, rfl, hsame (crowd .done) (hrun _) 3 (by decide)
    (by decide) (by decide) (by decide)⟩

end Schedule

end Telemetry

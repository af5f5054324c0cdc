import Telemetry.Pool.Shift
import Telemetry.Proofs.Pool.Greedy
import Telemetry.Proofs.Pool.Tasks

/-!
# Every timed run of a crew is greedy

A crew in which no worker can go on by itself has all its workers busy or nothing queued
(`Crew.Consistent.busy_or_idle`). Time passes for a shift only then, so no queued task is passed
over while it passes; and a task that a worker receives has its turn, because that worker has
nothing else in its hands. So the starts of a shift are timely at any moment (`Shift.OnTime`), every
task starts when it does in a schedule to which the same tasks are brought at the same times, and a
shift at rest is greedy (`Shift.greedy_play`).
-/

namespace Telemetry

namespace Crew

open scoped List

variable {p : Crew}

/-! ## A crew in which no worker can go on -/

/-- In a still crew no worker can come to hold the receiver, receive or count off. -/
theorem still_of_isStill (hstill : p.isStill = true) {worker : Nat} {point : Worker}
    (hworker : p.workers[worker]? = some point) :
    p.lock worker = p ∧ p.receive worker = p ∧ p.countOff worker = p := by
  have hlt := (List.getElem?_eq_some_iff.1 hworker).1
  have hall := List.all_eq_true.1 hstill worker (List.mem_range.2 hlt)
  simpa only [Bool.and_eq_true, decide_eq_true_eq, and_assoc] using hall

/-- No task in hand has ended without being counted off. -/
theorem ending_of_isStill (hstill : p.isStill = true) {worker : Nat} {work : Work}
    (hworker : p.workers[worker]? = some (.busy work)) : work.ending = none := by
  obtain ⟨task, ending⟩ := work
  cases ending with
  | none => rfl
  | some ending =>
    have hsame := (still_of_isStill hstill hworker).2.2
    rw [countOff_eq hworker] at hsame
    have hlength := congrArg (fun q => q.finished.length) hsame
    simp at hlength

/-- Nobody holds the receiver while there is something to receive. -/
theorem receiving_of_isStill (hstill : p.isStill = true) (hchannel : p.channel ≠ []) :
    .receiving ∉ p.workers := by
  intro hmem
  obtain ⟨worker, hworker⟩ := List.getElem?_of_mem hmem
  obtain ⟨task, rest, htask⟩ := List.exists_cons_of_ne_nil hchannel
  have hsame := (still_of_isStill hstill hworker).2.1
  rw [receive_eq hworker htask] at hsame
  have hlength := congrArg (fun q => q.started.length) hsame
  simp at hlength

/-- **If no worker can go on by itself, all workers are busy or nothing is queued.** -/
theorem Consistent.busy_or_idle (h : p.Consistent) (hstill : p.isStill = true)
    (hcall : p.call = none) (htoken : p.token.isSome) :
    p.queued = [] ∨ p.running.length = p.concurrency := by
  rw [queued_eq_channel hcall]
  by_cases hchannel : p.channel = []
  · exact .inl hchannel
  refine .inr ?_
  have hnobody := receiving_of_isStill hstill hchannel
  have hbusy : ∀ w ∈ p.workers, w.work?.isSome := by
    intro w hw
    obtain ⟨worker, hworker⟩ := List.getElem?_of_mem hw
    cases w with
    | busy work => rfl
    | receiving => exact absurd hw hnobody
    | stopped => exact absurd (h.stopped hw).2 hchannel
    | idle =>
      -- it could come to hold the receiver
      have hsame := (still_of_isStill hstill hworker).1
      rw [lock_eq hworker hnobody] at hsame
      have hput := getElem?_put hworker .receiving
      rw [hsame, hworker] at hput
      cases hput
  have hhands : p.hands.length = p.workers.length := List.filterMap_length_eq_length.2 hbusy
  have hcrewed := h.crewed
  rw [if_pos htoken] at hcrewed
  rw [running, List.length_map, hhands, hcrewed]

end Crew

namespace Shift

open scoped List

variable {s t : Shift} {e : Crew.Event} {task : Nat}

/-! ## What holds of a shift at any moment -/

/-- The notes of a shift fit its crew, its tasks end on time, and its starts are timely. -/
structure OnTime (s : Shift) : Prop where
  consistent : s.crew.Consistent
  arrivals : s.arrivals.length = s.crew.accepted.length
  starts : s.starts.length = s.crew.started.length
  began : s.began.isSome = s.crew.token.isSome
  /-- A task in hand has not gone on for longer than it takes. -/
  going : ∀ task, ⟨task, none⟩ ∈ s.crew.hands → s.now ≤ s.endOf task
  /-- A task that has ended and is not counted off has ended now. -/
  ended : ∀ task ending, ⟨task, some ending⟩ ∈ s.crew.hands → s.endOf task = s.now
  counted : s.ends.map Prod.fst = s.crew.finished.reverse
  ends : ∀ task time, (task, time) ∈ s.ends → time = s.endOf task ∧ time ≤ s.now
  timely : Schedule.Timely s.crew.concurrency s.began.toList s.accepted s.schedule

/-! ## The tasks of a shift -/

/-- Tasks start in the order of their numbers. -/
theorem OnTime.started_eq (h : s.OnTime) : s.crew.started = List.range s.starts.length := by
  have hprefix := h.consistent.started_prefix
  have htake := List.prefix_iff_eq_take.1 hprefix
  rw [h.consistent.accepted_eq_range, List.take_range, Nat.min_eq_left hprefix.length_le] at htake
  rw [h.starts]
  exact htake

/-- No more tasks have started than were accepted. -/
theorem OnTime.starts_le (h : s.OnTime) : s.starts.length ≤ s.crew.accepted.length := by
  rw [h.starts]
  exact h.consistent.started_prefix.length_le

/-- A task in the hands of a worker has started. -/
theorem OnTime.lt_of_hands (h : s.OnTime) {work : Work} (hwork : work ∈ s.crew.hands) :
    work.task < s.starts.length := by
  have hrunning : work.task ∈ s.crew.running ++ s.crew.finished :=
    List.mem_append_left _ (List.mem_map_of_mem hwork)
  have hstarted := h.consistent.taken.subset hrunning
  rw [h.started_eq] at hstarted
  exact List.mem_range.1 hstarted

/-- A task that has been counted off has started. -/
theorem OnTime.lt_of_ended (h : s.OnTime) {time : Nat} (hmem : (task, time) ∈ s.ends) :
    task < s.starts.length := by
  have hfinished : task ∈ s.crew.finished := by
    rw [← List.mem_reverse, ← h.counted]
    exact List.mem_map_of_mem hmem
  have hstarted := h.consistent.taken.subset (List.mem_append_right _ hfinished)
  rw [h.started_eq] at hstarted
  exact List.mem_range.1 hstarted

/-- A started task that is not in hand is counted off. -/
theorem OnTime.mem_ends (h : s.OnTime) (htask : task < s.starts.length)
    (hidle : task ∉ s.crew.running) : task ∈ s.ends.map Prod.fst := by
  have hstarted : task ∈ s.crew.started := by
    rw [h.started_eq]
    exact List.mem_range.2 htask
  rw [h.counted, List.mem_reverse]
  exact (List.mem_append.1 (h.consistent.taken.symm.subset hstarted)).resolve_left hidle

/-- A started task that has not come to its end is in hand. -/
theorem OnTime.mem_running (h : s.OnTime) (htask : task < s.starts.length)
    (hend : ¬ s.endOf task ≤ s.now) : task ∈ s.crew.running := by
  by_contra hidle
  obtain ⟨⟨own, time⟩, hown, rfl⟩ := List.mem_map.1 (h.mem_ends htask hidle)
  obtain ⟨htime, hpast⟩ := h.ends own time hown
  exact hend (htime ▸ hpast)

/-- A schedule shows when a task comes to its end. -/
theorem endOf_schedule (htask : task < s.crew.accepted.length) :
    s.schedule.endOf task = s.endOf task := by
  have hjob : s.schedule.job task = s.job task := by
    rw [Schedule.job, schedule, List.getD_eq_getElem _ _ (by simpa using htask), List.getElem_map,
      List.getElem_range]
  rw [Schedule.endOf, hjob]
  rfl

/-- A started task has ended in the history of the shift when its time is over. -/
theorem OnTime.hasEnded_iff (h : s.OnTime) (htask : task < s.starts.length) {time : Nat} :
    s.schedule.HasEnded time task ↔ s.endOf task ≤ time := by
  rw [Schedule.HasEnded, endOf_schedule (Nat.lt_of_lt_of_le htask h.starts_le)]
  exact and_iff_right htask

/-- All the unfinished tasks that have started are in hand. -/
theorem OnTime.card_unfinished_le (h : s.OnTime) :
    (s.schedule.unfinished s.now s.starts.length).card ≤ s.crew.running.length := by
  have hsubset : s.schedule.unfinished s.now s.starts.length ⊆ s.crew.running.toFinset := by
    intro j hj
    obtain ⟨hrange, hopen⟩ := Finset.mem_filter.1 hj
    have hlt := Finset.mem_range.1 hrange
    exact List.mem_toFinset.2 (h.mem_running hlt fun hend => hopen ((h.hasEnded_iff hlt).2 hend))
  exact Nat.le_trans (Finset.card_le_card hsubset) s.crew.running.toFinset_card_le

/-- If all the tasks in hand go on beyond now, they are unfinished. -/
theorem OnTime.length_running_le (h : s.OnTime) (htask : s.starts.length ≤ task)
    (hgoing : ∀ task ∈ s.crew.running, s.now < s.endOf task) :
    s.crew.running.length ≤ (s.schedule.unfinished s.now task).card := by
  have hsubset : s.crew.running.toFinset ⊆ s.schedule.unfinished s.now task := by
    intro j hj
    have hrunning := List.mem_toFinset.1 hj
    obtain ⟨work, hwork, rfl⟩ := List.mem_map.1 hrunning
    have hlt := h.lt_of_hands hwork
    refine Finset.mem_filter.2 ⟨Finset.mem_range.2 (Nat.lt_of_lt_of_le hlt htask), fun hended => ?_⟩
    exact Nat.not_le_of_lt (hgoing _ hrunning) ((h.hasEnded_iff hlt).1 hended)
  rw [← List.toFinset_card_of_nodup h.consistent.nodup_running]
  exact Finset.card_le_card hsubset

/-- The notes on accepted tasks are as many as the tasks. -/
theorem OnTime.length_accepted (h : s.OnTime) : s.accepted.length = s.crew.accepted.length := by
  rw [accepted, List.length_zip, h.arrivals, schedule, List.length_map, List.length_range,
    Nat.min_self]

/-! ## Time passes -/

/-- A shift rests when no call is on its way, no run either, and no worker can go on before its task
comes to its end. -/
theorem rests_iff :
    s.rests = true ↔ s.crew.call = none ∧ s.crew.claimed = s.crew.token ∧ s.crew.isStill = true ∧
      ∀ task ∈ s.crew.running, s.now < s.endOf task := by
  simp only [rests, Bool.and_eq_true, Option.isNone_iff_eq_none, decide_eq_true_eq,
    List.all_eq_true, and_assoc]

/-- At rest no queued task has its turn. -/
theorem OnTime.noTurnBefore (h : s.OnTime) (hrests : s.rests = true) :
    Schedule.NoTurnBefore s.crew.concurrency s.began.toList s.accepted s.schedule (s.now + 1) := by
  obtain ⟨hcall, -, hstill, hgoing⟩ := rests_iff.1 hrests
  intro run hrun task hle hlt time hturn
  have hlater := h.timely.waiting run hrun task hle hlt time hturn
  refine Nat.lt_of_le_of_ne hlater fun hnow => ?_
  rw [← hnow] at hturn
  have htoken : s.crew.token.isSome := by
    rw [← h.began]
    exact Option.isSome_iff_exists.2 ⟨run, Option.mem_toList.1 hrun⟩
  rcases h.consistent.busy_or_idle hstill hcall htoken with hqueue | hbusy
  · -- nothing is queued, so every accepted task has started
    have horder := congrArg List.length h.consistent.inOrder
    rw [hqueue, List.append_nil] at horder
    have hstarts : s.schedule.starts.length = s.crew.started.length := h.starts
    rw [h.length_accepted] at hlt
    omega
  · -- as many tasks are unfinished as there are workers
    have hall := h.length_running_le hle hgoing
    have hfree : (s.schedule.unfinished s.now task).card < s.crew.concurrency := hturn.free
    omega

/-- Time passes over a shift that rests, and nothing is late by it. -/
theorem OnTime.tick (h : s.OnTime) (hrests : s.rests = true) :
    ({ s with now := s.now + 1 } : Shift).OnTime := by
  obtain ⟨-, -, hstill, hgoing⟩ := rests_iff.1 hrests
  refine { h with
    going := fun task hmem => ?_
    ended := fun task ending hmem => ?_
    ends := fun task time hmem => ?_
    timely := h.timely.frame rfl rfl (fun time htime => ?_) (h.noTurnBefore hrests) }
  · exact hgoing task (List.mem_map_of_mem hmem)
  · -- a worker would have counted it off
    obtain ⟨point, hpoint, hwork⟩ := List.mem_filterMap.1 hmem
    obtain ⟨worker, hworker⟩ := List.getElem?_of_mem hpoint
    cases point with
    | busy work =>
      cases hwork
      cases Crew.ending_of_isStill hstill hworker
    | idle => cases hwork
    | receiving => cases hwork
    | stopped => cases hwork
  · obtain ⟨htime, hpast⟩ := h.ends task time hmem
    exact ⟨htime, Nat.le_succ_of_le hpast⟩
  · exact Nat.le_succ_of_le (h.timely.past time htime)

/-! ## Somebody does a step -/

/-- A step moves no end of a task that has started. -/
theorem endOf_act (htask : task < s.starts.length) : (s.act e).endOf task = s.endOf task := by
  simp only [endOf, act]
  rw [List.getD_append _ _ _ _ htask]

/-- Whatever a step does, its notes fit. -/
theorem OnTime.act (h : s.OnTime) (hconsistent : (s.crew.step e).Consistent)
    (hextends : s.crew.Extends (s.crew.step e))
    (hgoing : ∀ task, ⟨task, none⟩ ∈ (s.crew.step e).hands → s.now ≤ (s.act e).endOf task)
    (hended : ∀ task ending, ⟨task, some ending⟩ ∈ (s.crew.step e).hands →
      (s.act e).endOf task = s.now)
    (hcounted : ∀ task ∈ (s.crew.step e).finished.drop s.crew.finished.length,
      (s.act e).endOf task = s.now)
    (htimely : Schedule.Timely (s.act e).crew.concurrency (s.act e).began.toList (s.act e).accepted
      (s.act e).schedule) : (s.act e).OnTime := by
  obtain ⟨accepted, haccepted⟩ := hextends.accepted
  obtain ⟨started, hstarted⟩ := hextends.started
  obtain ⟨finished, hfinished⟩ := hextends.finished
  -- Each note is taken from what the step has added to the histories of the crew.
  refine ⟨hconsistent, ?_, ?_, ?_, hgoing, hended, ?_, fun task time hmem => ?_, htimely⟩
  · simp only [Shift.act, ← haccepted, List.drop_left, List.length_append, List.length_map,
      h.arrivals]
  · simp only [Shift.act, ← hstarted, List.drop_left, List.length_append, List.length_map, h.starts]
  · have hbegan := h.began
    simp only [Shift.act]
    -- The note on the launch is made once: a token that is there stays.
    cases htoken : s.crew.token with
    | some token =>
      rw [htoken] at hbegan
      obtain ⟨time, htime⟩ := Option.isSome_iff_exists.1 hbegan
      rw [hextends.token token htoken, htime]
      rfl
    | none =>
      rw [htoken] at hbegan
      rw [Option.isSome_eq_false_iff.1 hbegan |> Option.isNone_iff_eq_none.1]
      simp
  · simp only [Shift.act, ← hfinished, List.drop_left, List.map_append, List.map_map, h.counted,
      List.reverse_append]
    exact congrArg (· ++ _) (List.map_id _)
  · rcases List.mem_append.1 hmem with hnew | hold
    · obtain ⟨own, hown, heq⟩ := List.mem_map.1 hnew
      obtain ⟨rfl, rfl⟩ := Prod.mk.inj heq
      exact ⟨(hcounted own (List.mem_reverse.1 hown)).symm, Nat.le_refl _⟩
    · obtain ⟨htime, hpast⟩ := h.ends task time hold
      exact ⟨htime.trans (endOf_act (h.lt_of_ended hold)).symm, hpast⟩

/-- A step that starts no task notes no start. -/
theorem starts_act (hstarted : (s.crew.step e).started = s.crew.started) :
    (s.act e).starts = s.starts := by
  simp only [Shift.act, hstarted, List.drop_length, List.map_nil, List.append_nil]

/-- Where nothing starts, every end stays where it was. -/
theorem endOf_act_of_started (hstarted : (s.crew.step e).started = s.crew.started) (task : Nat) :
    (s.act e).endOf task = s.endOf task := by
  rw [endOf, starts_act hstarted]
  rfl

/-- A step that accepts no task leaves the list of tasks as it is. -/
theorem jobs_act (haccepted : (s.crew.step e).accepted = s.crew.accepted) :
    (s.act e).schedule.jobs = s.schedule.jobs := by
  simp only [Shift.act, schedule, haccepted]

/-- A step that accepts no task notes no arrival. -/
theorem accepted_act (haccepted : (s.crew.step e).accepted = s.crew.accepted) :
    (s.act e).accepted = s.accepted := by
  rw [Shift.accepted, jobs_act haccepted, Shift.accepted]
  simp only [Shift.act, haccepted, List.drop_length, List.map_nil, List.append_nil]

/-- A step that starts no workers leaves the note on when they started. -/
theorem OnTime.began_act (h : s.OnTime) (htoken : (s.crew.step e).token = s.crew.token) :
    (s.act e).began = s.began := by
  have hbegan := h.began
  simp only [Shift.act, htoken]
  cases hnote : s.began with
  | some time => rfl
  | none =>
    rw [hnote] at hbegan
    rw [Option.isSome_eq_false_iff.1 hbegan.symm |> Option.isNone_iff_eq_none.1]
    rfl

/-- A step that accepts nothing, starts nothing and launches no run. -/
theorem OnTime.act_quiet (h : s.OnTime) (hconsistent : (s.crew.step e).Consistent)
    (hextends : s.crew.Extends (s.crew.step e))
    (haccepted : (s.crew.step e).accepted = s.crew.accepted)
    (hstarted : (s.crew.step e).started = s.crew.started)
    (htoken : (s.crew.step e).token = s.crew.token)
    (hhands : ∀ work ∈ (s.crew.step e).hands,
      work ∈ s.crew.hands ∨ work.ending.isSome ∧ s.endOf work.task = s.now)
    (hcounted : ∀ task ∈ (s.crew.step e).finished.drop s.crew.finished.length,
      s.endOf task = s.now) : (s.act e).OnTime := by
  have hend := endOf_act_of_started hstarted
  refine h.act hconsistent hextends (fun task hmem => ?_) (fun task ending hmem => ?_)
    (fun task hmem => (hend task).trans (hcounted task hmem)) ?_
  · rw [hend]
    rcases hhands _ hmem with hold | ⟨hsome, -⟩
    · exact h.going task hold
    · cases hsome
  · rw [hend]
    rcases hhands _ hmem with hold | ⟨-, hnow⟩
    · exact h.ended task ending hold
    · exact hnow
  · have hconcurrency : (s.act e).crew.concurrency = s.crew.concurrency := hextends.concurrency
    rw [hconcurrency, h.began_act htoken, accepted_act haccepted]
    exact h.timely.frame (starts_act hstarted) (jobs_act haccepted) h.timely.past h.timely.waiting

/-- The task of a call is accepted. -/
theorem OnTime.act_count (h : s.OnTime) (new : Nat)
    (hconsistent : (s.crew.step e).Consistent) (hextends : s.crew.Extends (s.crew.step e))
    (haccepted : (s.crew.step e).accepted = s.crew.accepted ++ [new])
    (hstarted : (s.crew.step e).started = s.crew.started)
    (hfinished : (s.crew.step e).finished = s.crew.finished)
    (htoken : (s.crew.step e).token = s.crew.token)
    (hhands : (s.crew.step e).hands = s.crew.hands) : (s.act e).OnTime := by
  have hend := endOf_act_of_started hstarted
  have hjobs : (s.act e).schedule.jobs
      = s.schedule.jobs ++ [s.job s.crew.accepted.length] := by
    simp only [Shift.act, schedule, haccepted, List.length_append, List.length_singleton,
      List.range_succ, List.map_append, List.map_singleton]
  have harrivals : (s.act e).arrivals = s.arrivals ++ [s.now] := by
    simp only [Shift.act, haccepted, List.drop_left, List.map_singleton]
  -- As many arrivals are noted as there are tasks, so the new one is paired with its own arrival.
  have hlength : s.arrivals.length = s.schedule.jobs.length := by
    rw [h.arrivals, schedule, List.length_map, List.length_range]
  have hnew : (s.act e).accepted = s.accepted ++ [(s.now, s.job s.crew.accepted.length)] := by
    rw [Shift.accepted, harrivals, hjobs, List.zip_append hlength]
    rfl
  refine h.act hconsistent hextends (fun task hmem => ?_) (fun task ending hmem => ?_)
    (fun task hmem => ?_) ?_
  · rw [hend]
    exact h.going task (hhands ▸ hmem)
  · rw [hend]
    exact h.ended task ending (hhands ▸ hmem)
  · rw [hfinished, List.drop_length] at hmem
    cases hmem
  · have hconcurrency : (s.act e).crew.concurrency = s.crew.concurrency := hextends.concurrency
    rw [hconcurrency, h.began_act htoken, hnew]
    exact h.timely.accept (starts_act hstarted) hjobs rfl

/-- The workers are started. -/
theorem OnTime.act_launch (h : s.OnTime) (token : Nat)
    (hconsistent : (s.crew.step e).Consistent) (hextends : s.crew.Extends (s.crew.step e))
    (haccepted : (s.crew.step e).accepted = s.crew.accepted)
    (hstarted : (s.crew.step e).started = s.crew.started)
    (hfinished : (s.crew.step e).finished = s.crew.finished) (hfirst : s.crew.token = none)
    (htoken : (s.crew.step e).token = some token) (hhands : (s.crew.step e).hands = []) :
    (s.act e).OnTime := by
  have hnone : s.began = none := by
    rw [← Option.not_isSome_iff_eq_none, h.began, hfirst]
    exact Bool.false_ne_true
  have hbegan : (s.act e).began = some s.now := by
    simp only [Shift.act, htoken, hnone, Option.none_or, Option.map_some]
  -- Workers that have just been launched have nothing in their hands.
  refine h.act hconsistent hextends (fun task hmem => ?_) (fun task ending hmem => ?_)
    (fun task hmem => ?_) ?_
  · rw [hhands] at hmem
    cases hmem
  · rw [hhands] at hmem
    cases hmem
  · rw [hfinished, List.drop_length] at hmem
    cases hmem
  · have hconcurrency : (s.act e).crew.concurrency = s.crew.concurrency := hextends.concurrency
    have htimely := h.timely
    rw [hnone] at htimely
    rw [hconcurrency, hbegan, accepted_act haccepted]
    exact htimely.launch (starts_act hstarted) (jobs_act haccepted) rfl

/-- A worker receives the oldest task. -/
theorem OnTime.act_receive (h : s.OnTime) (new : Nat)
    (hconsistent : (s.crew.step e).Consistent) (hextends : s.crew.Extends (s.crew.step e))
    (haccepted : (s.crew.step e).accepted = s.crew.accepted)
    (hstarted : (s.crew.step e).started = s.crew.started ++ [new])
    (hfinished : (s.crew.step e).finished = s.crew.finished)
    (htoken : (s.crew.step e).token = s.crew.token) (hrun : s.crew.token.isSome)
    (hhands : ∀ work ∈ (s.crew.step e).hands, work = ⟨new, none⟩ ∨ work ∈ s.crew.hands)
    (hlength : (s.crew.step e).running.length = s.crew.running.length + 1) :
    (s.act e).OnTime := by
  have hstarts : (s.act e).starts = s.starts ++ [s.now] := by
    simp only [Shift.act, hstarted, List.drop_left, List.map_singleton]
  have hold : ∀ {work}, work ∈ s.crew.hands → (s.act e).endOf work.task = s.endOf work.task :=
    fun hwork => endOf_act (h.lt_of_hands hwork)
  -- the task is the next one in the order of acceptance
  have hqueued : s.starts.length < s.crew.accepted.length := by
    have hprefix := hconsistent.started_prefix.length_le
    rw [hstarted, haccepted, List.length_append, List.length_singleton, ← h.starts] at hprefix
    exact hprefix
  have hnext : new = s.starts.length := by
    obtain ⟨rest, horder⟩ := hconsistent.started_prefix
    rw [haccepted, hstarted, h.consistent.accepted_eq_range, h.started_eq, List.append_assoc]
      at horder
    have hget := congrArg (·[s.starts.length]?) horder
    rw [List.getElem?_append_right (Nat.le_of_eq List.length_range), List.length_range,
      Nat.sub_self, List.getElem?_range hqueued] at hget
    exact Option.some.inj hget
  refine h.act hconsistent hextends (fun task hmem => ?_) (fun task ending hmem => ?_)
    (fun task hmem => ?_) ?_
  · rcases hhands _ hmem with heq | hwork
    · obtain rfl : task = new := congrArg Work.task heq
      rw [endOf, hstarts, hnext, List.getD_append_right _ _ _ _ (Nat.le_refl _), Nat.sub_self]
      exact Nat.le_add_right _ _
    · exact (hold hwork) ▸ h.going task hwork
  · rcases hhands _ hmem with heq | hwork
    · cases congrArg Work.ending heq
    · exact (hold hwork).trans (h.ended task ending hwork)
  · rw [hfinished, List.drop_length] at hmem
    cases hmem
  · have hconcurrency : (s.act e).crew.concurrency = s.crew.concurrency := hextends.concurrency
    obtain ⟨began, hbegan⟩ : ∃ began, began ∈ s.began.toList := by
      rw [← h.began] at hrun
      obtain ⟨began, hbegan⟩ := Option.isSome_iff_exists.1 hrun
      exact ⟨began, Option.mem_toList.2 hbegan⟩
    -- the worker had nothing in its hands, so fewer tasks were in hand than there are workers
    have hfree : (s.schedule.unfinished s.now s.starts.length).card < s.crew.concurrency := by
      have hafter := hconsistent.length_running_le
      have hcard := h.card_unfinished_le
      rw [hextends.concurrency, hlength] at hafter
      omega
    have hlt : s.schedule.starts.length < s.accepted.length := by
      rw [h.length_accepted]
      exact hqueued
    rw [hconcurrency, h.began_act htoken, accepted_act haccepted]
    exact h.timely.start hstarts (jobs_act haccepted) rfl hbegan hlt hfree

/-- **Every step keeps a shift on time.** -/
theorem OnTime.moves (h : s.OnTime) (hallows : s.allows e = true) {q : Crew}
    (hq : s.crew.step e = q) (hmove : Crew.Moves s.crew e q) : (s.act e).OnTime := by
  have hconsistent : (s.crew.step e).Consistent := hq ▸ h.consistent.moves hmove
  have hextends : s.crew.Extends (s.crew.step e) := hq ▸ h.consistent.extends_of_moves hmove
  have hnothing : ∀ {finished : List Nat}, finished = s.crew.finished →
      ∀ task ∈ finished.drop s.crew.finished.length, s.endOf task = s.now := by
    rintro _ rfl task hmem
    rw [List.drop_length] at hmem
    cases hmem
  have hsame : ∀ {hands : List Work}, hands = s.crew.hands → ∀ work ∈ hands,
      work ∈ s.crew.hands ∨ work.ending.isSome ∧ s.endOf work.task = s.now :=
    fun heq work hwork => .inl (heq ▸ hwork)
  -- One case for each thing a crew can do. Most of them note nothing; the four that do are the
  -- counting of a call, the launch, the reception of a task and the end of a task.
  cases hmove with
  | enter _ | letIn _ _ _ _ | refuse _ _ _ | send _ _ _ | claim _ _ | cancel _ | close _ _ =>
    exact h.act_quiet hconsistent hextends (by rw [hq]) (by rw [hq]) (by rw [hq])
      (hsame (by rw [hq]; rfl)) (hnothing (by rw [hq]))
  | takeBack task hcall hgone =>
    rw [h.consistent.hasReceiver_of_counted hcall] at hgone
    cases hgone
  | count task hcall =>
    exact h.act_count task hconsistent hextends (by rw [hq]) (by rw [hq]) (by rw [hq])
      (by rw [hq]) (by rw [hq]; rfl)
  | launch token hclaimed hfirst =>
    have hhands : ∀ n, (List.replicate n Worker.idle).filterMap Worker.work? = [] := fun n =>
      List.filterMap_eq_nil_iff.2 fun w hw => by rw [List.eq_of_mem_replicate hw]; rfl
    exact h.act_launch token hconsistent hextends (by rw [hq]) (by rw [hq]) (by rw [hq])
      hfirst (by rw [hq]) (by rw [hq]; exact hhands _)
  | lock worker hidle hfree =>
    obtain ⟨before, after, hhands, hput⟩ := Crew.exists_hands_eq hidle
    exact h.act_quiet hconsistent hextends (by rw [hq]; rfl) (by rw [hq]; rfl) (by rw [hq]; rfl)
      (hsame (by rw [hq, hput, hhands]; rfl)) (hnothing (by rw [hq]; rfl))
  | stop worker hholds hchannel hgone =>
    obtain ⟨before, after, hhands, hput⟩ := Crew.exists_hands_eq hholds
    exact h.act_quiet hconsistent hextends (by rw [hq]; rfl) (by rw [hq]; rfl) (by rw [hq]; rfl)
      (hsame (by rw [hq, hput, hhands]; rfl)) (hnothing (by rw [hq]; rfl))
  | receive worker task rest hholds hchannel =>
    obtain ⟨before, after, hhands, hput⟩ := Crew.exists_hands_eq hholds
    have hnew : (s.crew.step (.receive worker)).hands = before ++ ⟨task, none⟩ :: after := by
      rw [hq]
      exact hput (.busy ⟨task, none⟩)
    have hold : s.crew.hands = before ++ after := hhands
    have hrun : s.crew.token.isSome := by
      by_contra hnone
      rw [h.consistent.workers_eq_nil (Option.not_isSome_iff_eq_none.1 hnone)] at hholds
      cases hholds
    refine h.act_receive task hconsistent hextends (by rw [hq]; rfl) (by rw [hq])
      (by rw [hq]; rfl) (by rw [hq]; rfl) hrun (fun work hwork => ?_) ?_
    · rw [hnew, List.perm_middle.mem_iff, List.mem_cons] at hwork
      rwa [hold]
    · simp only [Crew.running, hnew, hold, List.length_map, List.length_append, List.length_cons]
      omega
  | finish worker task ending hbusy =>
    obtain ⟨before, after, hhands, hput⟩ := Crew.exists_hands_eq hbusy
    have hold : s.crew.hands = before ++ ⟨task, none⟩ :: after := hhands
    have hnew : (s.crew.step (.finish worker ending)).hands
        = before ++ ⟨task, some ending⟩ :: after := by
      rw [hq]
      exact hput _
    have hnow : s.endOf task = s.now := by
      have hlate := h.going task (hold ▸ List.mem_append_right _ List.mem_cons_self)
      rw [allows, hbusy, Bool.and_eq_true, decide_eq_true_eq] at hallows
      exact Nat.le_antisymm hallows.1 hlate
    refine h.act_quiet hconsistent hextends (by rw [hq]; rfl) (by rw [hq]; rfl) (by rw [hq]; rfl)
      (fun work hwork => ?_) (hnothing (by rw [hq]; rfl))
    rw [hnew, List.perm_middle.mem_iff, List.mem_cons] at hwork
    rw [hold, List.perm_middle.mem_iff]
    rcases hwork with rfl | hkept
    · exact .inr ⟨rfl, hnow⟩
    · exact .inl (List.mem_cons_of_mem _ hkept)
  | countOff worker task ending hbusy =>
    obtain ⟨before, after, hhands, hput⟩ := Crew.exists_hands_eq hbusy
    have hold : s.crew.hands = before ++ ⟨task, some ending⟩ :: after := hhands
    have hnew : (s.crew.step (.countOff worker)).hands = before ++ after := by
      rw [hq]
      exact hput .idle
    refine h.act_quiet hconsistent hextends (by rw [hq]; rfl) (by rw [hq]; rfl) (by rw [hq]; rfl)
      (fun work hwork => .inl ?_) fun own hown => ?_
    · rw [hnew] at hwork
      rw [hold, List.perm_middle.mem_iff]
      exact List.mem_cons_of_mem _ hwork
    · rw [hq, List.drop_left] at hown
      rw [List.mem_singleton.1 hown]
      exact h.ended task ending (hold ▸ List.mem_append_right _ List.mem_cons_self)

/-- What holds of a shift at any moment is kept by every event, whether time passes or somebody
acts. -/
theorem OnTime.step (h : s.OnTime) (e : Event) : (s.step e).OnTime := by
  cases e with
  | tick =>
    rw [Shift.step]
    split
    · next hrests => exact h.tick hrests
    · exact h
  | act e =>
    rw [Shift.step]
    split
    · next hallows =>
      rcases s.crew.step_cases e with hmove | hsame
      · exact h.moves hallows rfl hmove
      · -- nothing has changed, and nothing is noted
        refine h.act_quiet (by rw [hsame]; exact h.consistent) (by rw [hsame]; exact .refl _)
          (by rw [hsame]) (by rw [hsame])
          (by rw [hsame]) (fun work hwork => .inl (hsame ▸ hwork)) fun task hmem => ?_
        rw [hsame, List.drop_length] at hmem
        cases hmem
    · exact h

/-- A fresh shift is on time. -/
theorem onTime_fresh {c : Nat} (hc : 0 < c) (job : Nat → Job) : (fresh c job).OnTime where
  consistent := Crew.consistent_fresh hc
  arrivals := rfl
  starts := rfl
  began := rfl
  going := nofun
  ended := nofun
  counted := rfl
  ends := nofun
  timely := ⟨rfl, .nil, nofun, Nat.le_refl _, nofun, nofun⟩

/-- A run keeps a shift on time. -/
theorem OnTime.play (h : s.OnTime) (events : List Event) : (s.play events).OnTime := by
  induction events generalizing s with
  | nil => exact h
  | cons e rest ih => exact ih (h.step e)

/-- **Every run of a shift is on time.** -/
theorem onTime_play {c : Nat} (hc : 0 < c) (job : Nat → Job) (events : List Event) :
    ((fresh c job).play events).OnTime := (onTime_fresh hc job).play events

/-! ## The starts of a shift -/

/-- No event changes the number of workers. -/
theorem OnTime.concurrency_step (h : s.OnTime) (e : Event) :
    (s.step e).crew.concurrency = s.crew.concurrency := by
  cases e with
  | tick =>
    rw [Shift.step]
    split <;> rfl
  | act e =>
    rw [Shift.step]
    split
    · exact (h.consistent.extends_play [e]).concurrency
    · rfl

/-- The number of workers is the one that the crew was made for. -/
theorem OnTime.concurrency_play (h : s.OnTime) (events : List Event) :
    (s.play events).crew.concurrency = s.crew.concurrency := by
  induction events generalizing s with
  | nil => rfl
  | cons e rest ih => exact (ih (h.step e)).trans (h.concurrency_step e)

/-- A shift at rest has worked off its tasks greedily. -/
theorem OnTime.isGreedy (h : s.OnTime) {began : Nat} (hbegan : s.began = some began)
    (hrests : s.rests = true) :
    Schedule.IsGreedy s.crew.concurrency began s.accepted s.schedule := by
  obtain ⟨-, -, -, hgoing⟩ := rests_iff.1 hrests
  have htimely := h.timely
  rw [hbegan] at htimely
  have hend : ∀ {task}, task < s.starts.length → s.schedule.endOf task = s.endOf task :=
    fun hlt => endOf_schedule (Nat.lt_of_lt_of_le hlt h.starts_le)
  refine ⟨fun _ hb hnow => htimely.card_running hb hnow, htimely.fits,
    fun _ htask => htimely.isLeast htask, htimely.waiting began (List.mem_singleton_self _),
    fun task => ⟨fun hmem => ?_, fun ⟨hlt, hlate⟩ => ?_⟩, fun task htask => ?_⟩
  · obtain ⟨work, hwork, rfl⟩ := List.mem_map.1 hmem
    have hlt := h.lt_of_hands hwork
    exact ⟨hlt, (hend hlt).symm ▸ hgoing _ hmem⟩
  · have hlt : task < s.starts.length := hlt
    have hlate : s.now < s.schedule.endOf task := hlate
    exact h.mem_running hlt (Nat.not_le_of_lt (hend hlt ▸ hlate))
  · have hlt : task < s.starts.length := htask
    rw [← htimely.endOf_eq]
    refine Schedule.span?_eq (fun own time hmem => ?_) (fun hpast => ?_) htask
    · obtain ⟨htime, hle⟩ := h.ends own time hmem
      exact ⟨htime.trans (hend (h.lt_of_ended hmem)).symm, hle⟩
    · -- what has come to its end is not in hand any more
      exact h.mem_ends hlt fun hmem => Nat.not_le_of_lt (hgoing task hmem) (hend hlt ▸ hpast)

/-- **Every timed run of a crew has the starts of a schedule.** In whatever order callers and workers
do their steps, a task starts at its first turn, and so it starts when it does under any script that
brings the same tasks at the same times; and whenever the crew rests it has been greedy. -/
theorem greedy_play {c began : Nat} (hc : 0 < c) (job : Nat → Job) (events : List Event)
    (hbegan : ((fresh c job).play events).began = some began) :
    (((fresh c job).play events).rests = true → Schedule.IsGreedy c began
      ((fresh c job).play events).accepted ((fresh c job).play events).schedule) ∧
    (∀ task < ((fresh c job).play events).starts.length,
      IsLeast {time | Schedule.HasTurn c began ((fresh c job).play events).accepted
        ((fresh c job).play events).schedule task time}
        (((fresh c job).play events).starts.getD task 0)) ∧
    ∀ start actions, Schedule.create c = .ok start →
      began ∈ start.notes Schedule.runAt? actions → ∀ task,
        (∀ j ≤ task, ((start.notes Schedule.taskAt? actions).getD j default).1
          = (((fresh c job).play events).accepted.getD j default).1) →
        (∀ j < task, ((start.notes Schedule.taskAt? actions).getD j default).2.length
          = (((fresh c job).play events).accepted.getD j default).2.length) →
        task < ((fresh c job).play events).starts.length →
        task < (start.play actions).starts.length →
        (start.play actions).starts.getD task 0
          = ((fresh c job).play events).starts.getD task 0 := by
  have h := onTime_play hc job events
  have hconcurrency : ((fresh c job).play events).crew.concurrency = c :=
    (onTime_fresh hc job).concurrency_play events
  have htimely := h.timely
  rw [hbegan, hconcurrency] at htimely
  refine ⟨fun hrests => ?_, fun task htask => htimely.isLeast htask, ?_⟩
  · have hgreedy := h.isGreedy hbegan hrests
    rwa [hconcurrency] at hgreedy
  · intro start actions hcreate hrun task htimes hlengths htask htask'
    exact htimely.starts_eq (Schedule.paced_play hcreate hrun).toTimely htimes hlengths htask htask'

example : ((fresh 1 fun _ => ⟨2, .done⟩).play ([.enter, .look, .count, .send, .enter, .look, .count,
    .send, .claim 0, .launch, .lock 0, .receive 0].map .act ++ [.tick, .tick, .tick] ++
    [.finish 0 .done, .countOff 0, .lock 0, .receive 0].map .act)).starts = [0, 2] := by decide

end Shift

end Telemetry

import Mathlib.Data.Finset.Card
import Mathlib.Data.Finset.Range
import Mathlib.Order.Bounds.Defs
import Telemetry.Proofs.Pool.Waiting

/-!
# Whose turn it is

A task has its turn from the moment on at which it is accepted, the pool runs and fewer tasks before
it are unfinished than there are workers (`HasTurn`). `Timely` says of a schedule that every task
that has started did so at its first turn, and that none has been passed over: a task that is still
queued has had no turn yet. Each way in which starts, tasks and the clock change keeps it so
(`Timely.start`, `Timely.accept`, `Timely.launch`, `Timely.frame`).

`InTurn` adds what holds of the pool. When a free worker receives a task, all the others before it
are in hand or have ended (`InTurn.take`); and while time passes every worker has a task in its
hands, or none is queued (`InTurn.noTurnBefore`). So every action keeps a schedule in turn
(`Paced.act`), and every script does (`Paced.play`).
-/

namespace Telemetry

namespace Schedule

open scoped List

variable {s t : Schedule} {c began time task : Nat} {runs : List Nat}
  {accepted accepted' : List (Nat × Job)}

/-! ## What is accepted when -/

/-- What is noted of the actions of a script, in their order. -/
def notes {α : Type} (note? : Schedule → Action → Option α) (s : Schedule) : List Action → List α
  | [] => []
  | action :: rest => (note? s action).toList ++ notes note? (s.act action) rest

/-- When the run of the workers is accepted. -/
def runAt? (s : Schedule) : Action → Option Nat
  | .run token => (s.run token).toOption.map fun _ => s.now
  | _ => none

/-- A task that is accepted, behind the time of that. -/
def taskAt? (s : Schedule) : Action → Option (Nat × Job)
  | .add job => (s.add job).toOption.map fun _ => (s.now, job)
  | _ => none

/-! ## Turns -/

/-- The task has started and has come to its end by a time. -/
def HasEnded (s : Schedule) (time task : Nat) : Prop :=
  task < s.starts.length ∧ s.endOf task ≤ time

instance (s : Schedule) (time task : Nat) : Decidable (s.HasEnded time task) :=
  inferInstanceAs (Decidable (_ ∧ _))

/-- The tasks among the first `count` that have not come to their end by a time. -/
def unfinished (s : Schedule) (time count : Nat) : Finset Nat :=
  (Finset.range count).filter fun task => ¬ s.HasEnded time task

/-- At this time it is the turn of the task. -/
structure HasTurn (c began : Nat) (accepted : List (Nat × Job)) (s : Schedule)
    (task time : Nat) : Prop where
  accepted : (accepted.getD task default).1 ≤ time
  running : began ≤ time
  free : (s.unfinished time task).card < c

/-- If more tasks before it have ended, it is still the turn of the task. -/
theorem HasTurn.of_ended (h : HasTurn c began accepted t task time)
    (haccepted : (accepted'.getD task default).1 = (accepted.getD task default).1)
    (hended : ∀ j < task, t.HasEnded time j → s.HasEnded time j) :
    HasTurn c began accepted' s task time := by
  have hsubset : s.unfinished time task ⊆ t.unfinished time task := by
    intro j hj
    obtain ⟨hrange, hopen⟩ := Finset.mem_filter.1 hj
    exact Finset.mem_filter.2 ⟨hrange, fun h => hopen (hended j (Finset.mem_range.1 hrange) h)⟩
  exact ⟨haccepted ▸ h.accepted, h.running,
    Nat.lt_of_le_of_lt (Finset.card_le_card hsubset) h.free⟩

/-- A started task ends when it did before, whatever tasks start or come later. -/
theorem hasEnded_iff (hle : s.starts.length ≤ s.jobs.length) (hstarts : s.starts <+: t.starts)
    (hjobs : s.jobs <+: t.jobs) {j : Nat} (hj : j < s.starts.length) :
    t.HasEnded time j ↔ s.HasEnded time j := by
  unfold HasEnded
  rw [endOf_eq hstarts hjobs hj (Nat.lt_of_lt_of_le hj hle)]
  exact and_congr_left' (iff_of_true (Nat.lt_of_lt_of_le hj hstarts.length_le) hj)

/-- A task has the same turns wherever the tasks before it have ended at the same times. -/
theorem setOf_hasTurn_congr
    (haccepted : (accepted'.getD task default).1 = (accepted.getD task default).1)
    (hended : ∀ time, ∀ j < task, (t.HasEnded time j ↔ s.HasEnded time j)) :
    {time | HasTurn c began accepted' t task time}
      = {time | HasTurn c began accepted s task time} := by
  ext time
  constructor
  · exact fun hturn => hturn.of_ended haccepted.symm fun j hj => (hended time j hj).1
  · exact fun hturn => hturn.of_ended haccepted fun j hj => (hended time j hj).2

/-- The turns of a task do not change once the tasks before it have started. -/
theorem setOf_hasTurn (hle : s.starts.length ≤ s.jobs.length) (hstarts : s.starts <+: t.starts)
    (hjobs : s.jobs <+: t.jobs)
    (haccepted : (accepted'.getD task default).1 = (accepted.getD task default).1)
    (htask : task ≤ s.starts.length) :
    {time | HasTurn c began accepted' t task time}
      = {time | HasTurn c began accepted s task time} :=
  setOf_hasTurn_congr haccepted fun _ _ hj =>
    hasEnded_iff hle hstarts hjobs (Nat.lt_of_lt_of_le hj htask)

/-- A task that starts now has not ended before. -/
theorem hasEnded_of_start (hle : s.starts.length ≤ s.jobs.length)
    (hstarts : t.starts = s.starts ++ [s.now]) (hjobs : t.jobs = s.jobs) (hearly : time < s.now)
    {j : Nat} (hended : t.HasEnded time j) : s.HasEnded time j := by
  have hearlier : s.starts <+: t.starts := hstarts ▸ List.prefix_append _ _
  have hj := hended.1
  rw [hstarts, List.length_append, List.length_singleton] at hj
  rcases Nat.lt_succ_iff_lt_or_eq.1 hj with hold | rfl
  · exact (hasEnded_iff hle hearlier (hjobs ▸ List.prefix_rfl) hold).1 hended
  · have hend := hended.2
    rw [endOf, hstarts, List.getD_append_right _ _ _ _ (Nat.le_refl _), Nat.sub_self] at hend
    exact absurd (Nat.le_trans (Nat.le_add_right _ _) hend) (Nat.not_le_of_lt hearly)

/-- No queued task has its turn before a time. -/
def NoTurnBefore (c : Nat) (runs : List Nat) (accepted : List (Nat × Job)) (s : Schedule)
    (now : Nat) : Prop :=
  ∀ run ∈ runs, ∀ task, s.starts.length ≤ task → task < accepted.length →
    ∀ time, HasTurn c run accepted s task time → now ≤ time

/-- The starts of a schedule fit the times at which its run and its tasks were accepted. -/
structure Timely (c : Nat) (runs : List Nat) (accepted : List (Nat × Job)) (s : Schedule) :
    Prop where
  jobs : accepted.map Prod.snd = s.jobs
  sorted : (accepted.map Prod.fst).Pairwise (· ≤ ·)
  past : ∀ time ∈ runs ++ accepted.map Prod.fst, time ≤ s.now
  fits : s.starts.length ≤ accepted.length
  /-- Every task that has started did so at its first turn. -/
  starts : ∀ task < s.starts.length, ∃ run ∈ runs,
    IsLeast {time | HasTurn c run accepted s task time} (s.starts.getD task 0)
  /-- No other task has been passed over. -/
  waiting : NoTurnBefore c runs accepted s s.now

/-- What holds of a schedule whose run and whose tasks were accepted at these times. -/
structure InTurn (c : Nat) (runs : List Nat) (accepted : List (Nat × Job)) (s : Schedule) : Prop
    extends Timely c runs accepted s where
  valid : s.Valid
  concurrency : s.pool.concurrency = c
  /-- Only one run is ever accepted. -/
  launched : s.pool.token = none ∧ runs = [] ∨ s.pool.token.isSome ∧ ∃ run, runs = [run]

/-- Moreover all tasks that have come to their end are counted off. -/
structure Paced (c : Nat) (runs : List Nat) (accepted : List (Nat × Job)) (s : Schedule) : Prop
    extends InTurn c runs accepted s where
  ahead : ∀ w ∈ s.pool.busy, s.now < s.endOf w.task

/-! ## What keeps the starts timely -/

/-- No more tasks have started than are listed. -/
theorem Timely.length_le (h : Timely c runs accepted s) : s.starts.length ≤ s.jobs.length := by
  rw [← h.jobs, List.length_map]
  exact h.fits

/-- The clock and the workers may change, as long as nobody calls and no task starts. -/
theorem Timely.frame (h : Timely c runs accepted s) (hstarts : t.starts = s.starts)
    (hjobs : t.jobs = s.jobs) (hpast : ∀ time ∈ runs ++ accepted.map Prod.fst, time ≤ t.now)
    (hwaiting : NoTurnBefore c runs accepted s t.now) : Timely c runs accepted t := by
  have hended : t.HasEnded = s.HasEnded := by
    unfold HasEnded endOf job
    rw [hstarts, hjobs]
  have hturns : ∀ {run task}, {time | HasTurn c run accepted t task time}
      = {time | HasTurn c run accepted s task time} :=
    setOf_hasTurn_congr rfl fun _ _ _ => by rw [hended]
  refine ⟨h.jobs.trans hjobs.symm, h.sorted, hpast, hstarts ▸ h.fits, fun task htask => ?_, ?_⟩
  · rw [hstarts] at htask ⊢
    obtain ⟨run, hrun, hleast⟩ := h.starts task htask
    exact ⟨run, hrun, hturns ▸ hleast⟩
  · intro run hrun task hle hlt time hturn
    rw [hstarts] at hle
    exact hwaiting run hrun task hle hlt time
      (hturn.of_ended rfl fun _ _ => by rw [hended]; exact id)

/-- While there is a free worker, the oldest queued task has its first turn. -/
theorem Timely.isLeast_now (h : Timely c runs accepted s) (hrun : began ∈ runs)
    (hlt : s.starts.length < accepted.length)
    (hfree : (s.unfinished s.now s.starts.length).card < c) :
    IsLeast {time | HasTurn c began accepted s s.starts.length time} s.now := by
  have haccepted : (accepted.getD s.starts.length default).1 ≤ s.now := by
    rw [List.getD_eq_getElem _ _ hlt]
    exact h.past _ (List.mem_append_right _ (List.mem_map_of_mem (List.getElem_mem hlt)))
  have hbegan : began ≤ s.now := h.past began (List.mem_append_left _ hrun)
  exact ⟨⟨haccepted, hbegan, hfree⟩,
    fun time hturn => h.waiting began hrun _ (Nat.le_refl _) hlt time hturn⟩

/-- The oldest queued task starts while there is a free worker. -/
theorem Timely.start (h : Timely c runs accepted s) (hstarts : t.starts = s.starts ++ [s.now])
    (hjobs : t.jobs = s.jobs) (hnow : t.now = s.now) (hrun : began ∈ runs)
    (hlt : s.starts.length < accepted.length)
    (hfree : (s.unfinished s.now s.starts.length).card < c) : Timely c runs accepted t := by
  have hearlier : s.starts <+: t.starts := hstarts ▸ List.prefix_append _ _
  have hturns : ∀ {run task}, task ≤ s.starts.length →
      {time | HasTurn c run accepted t task time} = {time | HasTurn c run accepted s task time} :=
    fun hle => setOf_hasTurn h.length_le hearlier (hjobs ▸ List.prefix_rfl) rfl hle
  refine ⟨h.jobs.trans hjobs.symm, h.sorted, hnow ▸ h.past, ?_, fun task htask => ?_, ?_⟩
  · rw [hstarts, List.length_append, List.length_singleton]
    exact hlt
  · rw [hstarts, List.length_append, List.length_singleton] at htask
    rw [hstarts]
    -- a task that had started before, or the one that starts now
    rcases Nat.lt_succ_iff_lt_or_eq.1 htask with hold | rfl
    · obtain ⟨run, hrun, hleast⟩ := h.starts task hold
      rw [List.getD_append _ _ _ _ hold]
      exact ⟨run, hrun, hturns (Nat.le_of_lt hold) ▸ hleast⟩
    · rw [List.getD_append_right _ _ _ _ (Nat.le_refl _), Nat.sub_self]
      exact ⟨began, hrun, hturns (Nat.le_refl _) ▸ h.isLeast_now hrun hlt hfree⟩
  · intro run hrun task hle hlt time hturn
    rw [hstarts, List.length_append, List.length_singleton] at hle
    rw [hnow]
    -- a turn before now would have been one before the start, because nothing has ended since
    refine Nat.le_of_not_lt fun hearly => Nat.not_le_of_lt hearly ?_
    exact h.waiting run hrun task (Nat.le_of_succ_le hle) hlt time
      (hturn.of_ended rfl fun _ _ => hasEnded_of_start h.length_le hstarts hjobs hearly)

/-- A task that is accepted has no turn before now, and changes nothing for the others. -/
theorem Timely.accept (h : Timely c runs accepted s) {new : Job} (hstarts : t.starts = s.starts)
    (hjobs : t.jobs = s.jobs ++ [new]) (hnow : t.now = s.now) :
    Timely c runs (accepted ++ [(s.now, new)]) t := by
  have hsame : s.starts <+: t.starts := hstarts ▸ List.prefix_rfl
  have hmore : s.jobs <+: t.jobs := hjobs ▸ List.prefix_append _ _
  have hended : ∀ {time j}, t.HasEnded time j → s.HasEnded time j := fun hended =>
    (hasEnded_iff h.length_le hsame hmore (hstarts ▸ hended.1)).1 hended
  have hkept : ∀ {task}, task < accepted.length →
      ((accepted ++ [(s.now, new)]).getD task default).1 = (accepted.getD task default).1 :=
    fun hlt => congrArg Prod.fst (List.getD_append _ _ _ _ hlt)
  have hturns : ∀ {run task}, task < s.starts.length →
      {time | HasTurn c run (accepted ++ [(s.now, new)]) t task time}
        = {time | HasTurn c run accepted s task time} := fun hlt =>
    setOf_hasTurn h.length_le hsame hmore (hkept (Nat.lt_of_lt_of_le hlt h.fits)) (Nat.le_of_lt hlt)
  refine ⟨?_, ?_, fun time htime => ?_, ?_, fun task htask => ?_, ?_⟩
  · rw [hjobs, List.map_append, h.jobs]
    rfl
  · rw [List.map_append]
    refine List.pairwise_append.2 ⟨h.sorted, List.pairwise_singleton _ _, fun a ha b hb => ?_⟩
    rw [List.mem_singleton.1 hb]
    exact h.past a (List.mem_append_right _ ha)
  · rw [hnow]
    rw [List.map_append, ← List.append_assoc] at htime
    rcases List.mem_append.1 htime with hold | hnew
    · exact h.past time hold
    · exact Nat.le_of_eq (List.mem_singleton.1 hnew)
  · rw [hstarts, List.length_append]
    exact Nat.le_trans h.fits (Nat.le_add_right _ _)
  · rw [hstarts] at htask ⊢
    obtain ⟨run, hrun, hleast⟩ := h.starts task htask
    exact ⟨run, hrun, hturns htask ▸ hleast⟩
  · intro run hrun task hle hlt time hturn
    rw [hstarts] at hle
    rw [hnow]
    rcases Nat.lt_or_ge task accepted.length with hold | hnew
    · exact h.waiting run hrun task hle hold time
        (hturn.of_ended (hkept hold).symm fun _ _ => hended)
    · -- the task itself has no turn before it is accepted
      have hlast := hturn.accepted
      rw [List.length_append, List.length_singleton] at hlt
      rwa [List.getD_append_right _ _ _ _ hnew, show task - accepted.length = 0 by omega] at hlast

/-- Until the run is accepted no task starts, and none has a turn. -/
theorem Timely.launch (h : Timely c [] accepted s) (hstarts : t.starts = s.starts)
    (hjobs : t.jobs = s.jobs) (hnow : t.now = s.now) : Timely c [s.now] accepted t := by
  have hnone : ∀ task, ¬ task < s.starts.length := by
    intro task htask
    obtain ⟨run, hrun, -⟩ := h.starts task htask
    cases hrun
  refine ⟨h.jobs.trans hjobs.symm, h.sorted, fun time htime => ?_, hstarts ▸ h.fits,
    fun task htask => absurd (hstarts ▸ htask) (hnone task), ?_⟩
  · rw [hnow]
    rcases List.mem_cons.1 htime with rfl | hold
    · exact Nat.le_refl _
    · exact h.past time hold
  · intro run hmem task hle hlt time hturn
    rw [hnow]
    exact List.mem_singleton.1 hmem ▸ hturn.running

/-- The clock and the workers may change, as long as nobody calls and no task starts. -/
theorem InTurn.frame (h : InTurn c runs accepted s) (hvalid : t.Valid)
    (hconcurrency : t.pool.concurrency = s.pool.concurrency)
    (htoken : t.pool.token = s.pool.token) (hstarts : t.starts = s.starts)
    (hjobs : t.jobs = s.jobs) (hpast : ∀ time ∈ runs ++ accepted.map Prod.fst, time ≤ t.now)
    (hwaiting : NoTurnBefore c runs accepted s t.now) : InTurn c runs accepted t :=
  ⟨h.toTimely.frame hstarts hjobs hpast hwaiting, hvalid, hconcurrency.trans h.concurrency,
    htoken ▸ h.launched⟩

/-! ## Tasks in hand -/

/-- A started task that has not come to its end is in hand. -/
theorem Valid.mem_busy (h : s.Valid) (hstarted : task < s.starts.length)
    (hopen : ¬ s.HasEnded s.now task) : task ∈ s.pool.busy.map Work.task := by
  have hmem := h.perm_started.mem_iff.2 (List.mem_range.2 hstarted)
  refine (List.mem_append.1 hmem).resolve_right fun hfinished => hopen ⟨hstarted, ?_⟩
  rw [← h.ends] at hfinished
  obtain ⟨⟨own, time⟩, hended, rfl⟩ := List.mem_map.1 hfinished
  obtain ⟨heq, hle⟩ := h.ended own time hended
  exact heq ▸ hle

/-- All the unfinished tasks that have started are in hand. -/
theorem Valid.card_unfinished_le (h : s.Valid) :
    (s.unfinished s.now s.starts.length).card ≤ s.pool.busy.length := by
  have hsubset : s.unfinished s.now s.starts.length ⊆ (s.pool.busy.map Work.task).toFinset := by
    intro j hj
    obtain ⟨hrange, hopen⟩ := Finset.mem_filter.1 hj
    exact List.mem_toFinset.2 (h.mem_busy (Finset.mem_range.1 hrange) hopen)
  have hlength := (s.pool.busy.map Work.task).toFinset_card_le
  rw [List.length_map] at hlength
  exact Nat.le_trans (Finset.card_le_card hsubset) hlength

/-- All the tasks in hand are unfinished before their ends. -/
theorem Valid.length_busy_le (h : s.Valid) (htask : s.starts.length ≤ task)
    (hbusy : ∀ w ∈ s.pool.busy, time < s.endOf w.task) :
    s.pool.busy.length ≤ (s.unfinished time task).card := by
  have hsubset : (s.pool.busy.map Work.task).toFinset ⊆ s.unfinished time task := by
    intro j hj
    obtain ⟨w, hw, rfl⟩ := List.mem_map.1 (List.mem_toFinset.1 hj)
    refine Finset.mem_filter.2 ⟨?_, fun hended => Nat.not_le_of_lt (hbusy w hw) hended.2⟩
    exact Finset.mem_range.2 (Nat.lt_of_lt_of_le (h.lt_of_busy hw) htask)
  have hlength := List.toFinset_card_of_nodup h.nodup_busy
  rw [List.length_map] at hlength
  exact hlength ▸ Finset.card_le_card hsubset

/-! ## A task starts -/

/-- Once a run is noted the pool has a token. -/
theorem InTurn.isSome_token (h : InTurn c runs accepted s) (hrun : began ∈ runs) :
    s.pool.token.isSome := by
  rcases h.launched with ⟨-, rfl⟩ | ⟨htoken, -⟩
  · cases hrun
  · exact htoken

/-- What is accepted has started or is queued. -/
theorem InTurn.length_eq (h : InTurn c runs accepted s) :
    accepted.length = s.starts.length + s.pool.queue.length := by
  have hlength := congrArg List.length h.jobs
  rw [List.length_map, h.valid.jobs] at hlength
  exact hlength.trans h.valid.starts.symm

/-- A free worker receives the task whose turn it is. -/
theorem InTurn.take (h : InTurn c runs accepted s) (htake : s.take? = some t) :
    InTurn c runs accepted t := by
  have hpasses := h.valid.passes_take htake
  obtain ⟨own, task, rest, htoken, hqueue, hfree, -, ht⟩ := take?_eq_some htake
  obtain ⟨run, hrun⟩ : ∃ run, run ∈ runs := by
    rcases h.launched with ⟨hnone, -⟩ | ⟨-, run, rfl⟩
    · rw [htoken] at hnone
      cases hnone
    · exact ⟨run, List.mem_singleton_self run⟩
  have hlt : s.starts.length < accepted.length := by
    rw [h.length_eq, hqueue, List.length_cons]
    omega
  have hcard : (s.unfinished s.now s.starts.length).card < c :=
    Nat.lt_of_le_of_lt h.valid.card_unfinished_le (h.concurrency ▸ hfree)
  exact ⟨h.toTimely.start (by rw [ht]) hpasses.jobs (by rw [ht]) hrun hlt hcard, hpasses.valid,
    hpasses.concurrency.trans h.concurrency, hpasses.token ▸ h.launched⟩

/-! ## Time passes -/

/-- While all workers have tasks in their hands, or no task is queued, no queued task has its
turn. -/
theorem InTurn.noTurnBefore (h : InTurn c runs accepted s) (htake : s.take? = none) {later : Nat}
    (hbusy : ∀ w ∈ s.pool.busy, later ≤ s.endOf w.task) :
    NoTurnBefore c runs accepted s later := by
  intro run hrun task hle hlt time hturn
  refine Nat.le_of_not_lt fun hearly => ?_
  have hall := h.valid.length_busy_le hle fun w hw => Nat.lt_of_lt_of_le hearly (hbusy w hw)
  have hfree : s.pool.busy.length < s.pool.concurrency := by
    rw [h.concurrency]
    exact Nat.lt_of_le_of_lt hall hturn.free
  have hqueue := queue_eq_nil_of_take? (h.isSome_token hrun) hfree htake
  rw [h.length_eq, hqueue, List.length_nil] at hlt
  omega

/-- The clock goes on and the tasks that have come to their end are counted off. -/
theorem InTurn.completeAt (h : InTurn c runs accepted s) {later : Nat} (hnow : s.now ≤ later)
    (hbusy : ∀ w ∈ s.pool.busy, later ≤ s.endOf w.task)
    (hwaiting : NoTurnBefore c runs accepted s later) :
    Paced c runs accepted (s.completeAt later) := by
  have hpasses := h.valid.passes_completeAt hnow hbusy
  have heq := h.valid.completeAt_eq later
  have hclock : (s.completeAt later).now = later := by rw [heq]
  have hstarts : (s.completeAt later).starts = s.starts := by rw [heq]
  have hpast : ∀ time ∈ runs ++ accepted.map Prod.fst, time ≤ (s.completeAt later).now :=
    fun time htime => Nat.le_trans (h.past time htime) hpasses.now
  have hinTurn := h.frame hpasses.valid hpasses.concurrency hpasses.token hstarts hpasses.jobs hpast
    (by rw [hclock]; exact hwaiting)
  refine ⟨hinTurn, fun w hw => ?_⟩
  rw [heq] at hw ⊢
  exact of_decide_eq_true (List.mem_filter.1 hw).2

/-- The clock goes on to a time before the next end. -/
theorem InTurn.later (h : InTurn c runs accepted s) {later : Nat} (hnow : s.now ≤ later)
    (hbusy : ∀ w ∈ s.pool.busy, later < s.endOf w.task)
    (hwaiting : NoTurnBefore c runs accepted s later) :
    Paced c runs accepted { s with now := later } := by
  have hpasses := h.valid.passes_later later hnow fun w hw => Nat.le_of_lt (hbusy w hw)
  exact ⟨h.frame hpasses.valid rfl rfl rfl rfl
    (fun time htime => Nat.le_trans (h.past time htime) hnow) hwaiting, hbusy⟩

/-- Receiving keeps the starts timely: a task is received at the first moment at which it has its
turn. -/
theorem Paced.takeUpTo (h : Paced c runs accepted s) (count : Nat) :
    Paced c runs accepted (s.takeUpTo count) := by
  induction count generalizing s with
  | zero => exact h
  | succ count ih =>
    rw [Schedule.takeUpTo]
    cases htake : s.take? with
    | none => exact h
    | some t =>
      have hreceived := h.toInTurn.take htake
      exact ih (hreceived.completeAt (Nat.le_refl _) hreceived.valid.busy hreceived.waiting)

/-- Time that passes keeps the starts timely. At the end of every round no free worker faces a
queued task, so no turn is missed before the next end. -/
theorem Paced.advance (h : Paced c runs accepted s) {deadline rounds : Nat}
    (hrounds : s.pool.pending < rounds) : Paced c runs accepted (s.advance deadline rounds) := by
  induction rounds generalizing s with
  | zero => exact absurd hrounds (Nat.not_lt_zero _)
  | succ rounds ih =>
    have htake : Paced c runs accepted s.takeAll := h.takeUpTo _
    have hidle : s.takeAll.take? = none := h.valid.take?_takeUpTo (Nat.le_refl _)
    have hclock : s.takeAll.now = s.now := h.valid.now_takeUpTo _
    -- The last stretch, to the deadline, ends nothing.
    have hlast : (∀ w ∈ s.takeAll.pool.busy, max s.now deadline < s.takeAll.endOf w.task) →
        Paced c runs accepted { s.takeAll with now := max s.now deadline } := fun hends =>
      htake.later (by omega) hends
        (htake.noTurnBefore hidle fun w hw => Nat.le_of_lt (hends w hw))
    rw [Schedule.advance]
    cases hnext : s.takeAll.nextEnd? with
    | none =>
      refine hlast fun w hw => ?_
      rw [nextEnd?_eq_none hnext] at hw
      cases hw
    | some next =>
      obtain ⟨⟨w, hw, hend⟩, hfirst⟩ := nextEnd?_eq_some hnext
      have hahead := htake.ahead w hw
      show Paced c runs accepted (ite _ _ _)
      split
      · have hround := htake.completeAt (by omega) hfirst (htake.noTurnBefore hidle hfirst)
        have hless := htake.valid.pending_completeAt_lt hnext
        have hle := (h.valid.passes_takeAll).pending_le h.valid
        exact ih hround (by omega)
      · refine hlast fun b hb => ?_
        have hb := hfirst b hb
        omega

/-- Time that passes to a deadline keeps the starts timely. -/
theorem Paced.advanceTo (h : Paced c runs accepted s) (deadline : Nat) :
    Paced c runs accepted (s.advanceTo deadline) :=
  h.advance (Nat.lt_succ_self _)

/-- A wait that is over goes back to the last end, and by then no task is queued or in hand. -/
theorem Paced.wait (h : Paced c runs accepted s) (limit : Nat) :
    Paced c runs accepted (s.wait limit).2 := by
  have hadvanced := h.advanceTo (s.now + limit)
  have hvalid := h.valid.wait limit
  rcases s.wait_cases limit with ⟨-, heq⟩ | ⟨-, ⟨hdrained, heq⟩ | ⟨-, heq⟩⟩
  · rw [heq]
    exact h
  · rw [heq] at hvalid ⊢
    have hpending := hadvanced.valid.sound.pending
    have hqueue : (s.advanceTo (s.now + limit)).pool.queue.length = 0 := by omega
    have hnobody : (s.advanceTo (s.now + limit)).pool.busy = [] :=
      List.length_eq_zero_iff.1 (by omega)
    obtain ⟨hlast, -, -⟩ := (s.advanceTo (s.now + limit)).lastEnd_eq s.now
    refine ⟨hadvanced.frame hvalid rfl rfl rfl rfl
      (fun time htime => Nat.le_trans (h.past time htime) hlast) ?_, ?_⟩
    · intro run hrun task hle hlt
      have hlength := hadvanced.length_eq
      omega
    · show ∀ w ∈ (s.advanceTo (s.now + limit)).pool.busy, _
      rw [hnobody]
      exact nofun
  · rw [heq]
    exact hadvanced

/-! ## Calls -/

/-- An accepted task arrives now, after all the others, and it has not had a turn. -/
theorem Paced.add (h : Paced c runs accepted s) {new : Job} (hadd : s.add new = .ok t) :
    Paced c runs (accepted ++ [(s.now, new)]) t := by
  have hvalid := h.valid.add hadd
  obtain ⟨-, ht⟩ := add_eq_ok hadd
  have hstarts : t.starts = s.starts := by rw [ht]
  have hjobs : t.jobs = s.jobs ++ [new] := by rw [ht]
  have hnow : t.now = s.now := by rw [ht]
  have hbusy : t.pool.busy = s.pool.busy := by rw [ht]
  refine ⟨⟨h.toTimely.accept hstarts hjobs hnow, hvalid, ?_, ?_⟩, fun w hw => ?_⟩
  · rw [ht]
    exact h.concurrency
  · rw [ht]
    exact h.launched
  · rw [hbusy] at hw
    rw [hnow, h.valid.endOf_eq (hstarts ▸ List.prefix_rfl) (hjobs ▸ List.prefix_append _ _)
      (h.valid.lt_of_busy hw)]
    exact h.ahead w hw

/-- A run that is accepted is the first one, and it sets the token and nothing else. -/
theorem run_eq_ok {token : Nat} (hrun : s.run token = .ok t) :
    s.pool.token = none ∧ t = s.act (.run token) ∧
      t = { s with pool := { s.pool with token := some token } } := by
  have hact : s.act (.run token) = t := by
    show (s.run token).toOption.getD s = t
    rw [hrun]
    rfl
  unfold Schedule.run at hrun
  cases hpool : s.pool.run token with
  | error _ =>
    rw [hpool] at hrun
    cases hrun
  | ok pool =>
    rw [hpool] at hrun
    cases Pool.moves_run hpool with
    | run _ hfirst => exact ⟨hfirst, hact.symm, (Except.ok.inj hrun).symm⟩

/-- The workers start now, so no turn has been missed before. -/
theorem Paced.run (h : Paced c runs accepted s) {token : Nat} (hrun : s.run token = .ok t) :
    Paced c (runs ++ [s.now]) accepted t := by
  obtain ⟨hfirst, hact, ht⟩ := run_eq_ok hrun
  have hvalid : t.Valid := hact ▸ h.valid.act (.run token)
  obtain rfl : runs = [] := by
    rcases h.launched with ⟨-, hruns⟩ | ⟨hsome, -⟩
    · exact hruns
    · rw [hfirst] at hsome
      cases hsome
  subst ht
  exact ⟨⟨h.toTimely.launch rfl rfl rfl, hvalid, h.concurrency, .inr ⟨rfl, s.now, rfl⟩⟩, h.ahead⟩

/-- Cancelling a token changes no start. -/
theorem Paced.cancel (h : Paced c runs accepted s) (token : Nat) :
    Paced c runs accepted (s.cancel token) :=
  ⟨h.frame (h.valid.act (.cancel token)) rfl rfl rfl rfl h.past h.waiting, h.ahead⟩

/-- **Every action keeps a schedule in turn.** -/
theorem Paced.act (h : Paced c runs accepted s) (action : Action) :
    Paced c (runs ++ (runAt? s action).toList) (accepted ++ (taskAt? s action).toList)
      (s.act action) := by
  cases action with
  | add new =>
    show Paced c (runs ++ []) (accepted ++ ((s.add new).toOption.map fun _ => (s.now, new)).toList)
      ((s.add new).toOption.getD s)
    rw [List.append_nil]
    cases hadd : s.add new with
    | error _ => exact (List.append_nil accepted).symm ▸ h
    | ok t => exact h.add hadd
  | run token =>
    show Paced c (runs ++ ((s.run token).toOption.map fun _ => s.now).toList) (accepted ++ [])
      ((s.run token).toOption.getD s)
    rw [List.append_nil]
    cases hrun : s.run token with
    | error _ => exact (List.append_nil runs).symm ▸ h
    | ok t => exact h.run hrun
  | cancel token =>
    show Paced c (runs ++ []) (accepted ++ []) (s.cancel token)
    rw [List.append_nil, List.append_nil]
    exact h.cancel token
  | sleep length =>
    show Paced c (runs ++ []) (accepted ++ []) (s.advanceTo (s.now + length))
    rw [List.append_nil, List.append_nil]
    exact h.advanceTo _
  | wait limit =>
    show Paced c (runs ++ []) (accepted ++ []) (s.wait limit).2
    rw [List.append_nil, List.append_nil]
    exact h.wait limit

/-- **Every script keeps a schedule in turn.** -/
theorem Paced.play (h : Paced c runs accepted s) (actions : List Action) :
    Paced c (runs ++ s.notes runAt? actions) (accepted ++ s.notes taskAt? actions)
      (s.play actions) := by
  induction actions generalizing s runs accepted with
  | nil =>
    rw [notes, notes, List.append_nil, List.append_nil]
    exact h
  | cons action rest ih =>
    rw [notes, notes, ← List.append_assoc, ← List.append_assoc]
    exact ih (h.act action)

/-- A fresh schedule has nothing to be late with. -/
theorem paced_create (hcreate : create c = .ok s) : Paced c [] [] s := by
  have hvalid := valid_create hcreate
  unfold create Pool.create at hcreate
  split at hcreate
  · cases hcreate
  · cases hcreate
    exact ⟨⟨⟨rfl, .nil, nofun, Nat.le_refl _, nofun, nofun⟩, hvalid, rfl, .inl ⟨rfl, rfl⟩⟩, nofun⟩

end Schedule

end Telemetry

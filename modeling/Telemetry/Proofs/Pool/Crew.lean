import Mathlib.Data.List.Basic
import Telemetry.Pool.Crew

/-!
# What holds of a pool at any moment

`Moves` lists what an event can do, with the conditions under which it does it, and `step_cases`
says that an event does one of these things or nothing. Everything below is a case analysis over
this list.

`Consistent` is the invariant. It ties the counter to the tasks, the tasks to the calls, the channel
and the hands of the workers, and the sender to the token.
-/

namespace Telemetry

namespace Crew

open scoped List

variable {p q : Crew} {e : Event}

/-! ## What an event can do -/

/-- An event takes place, and leads to another state. -/
inductive Moves (p : Crew) : Event → Crew → Prop
  | enter (hcall : p.call = none) :
    Moves p .enter { p with calls := p.calls + 1, call := some ⟨p.calls, .entered⟩ }
  | letIn (task : Nat) (hcall : p.call = some ⟨task, .entered⟩) (hsender : p.hasSender = true)
    (hopen : p.isClosed = false) :
    Moves p .look { p with call := some ⟨task, .admitted⟩ }
  | refuse (task : Nat) (hcall : p.call = some ⟨task, .entered⟩)
    (hshut : p.hasSender = false ∨ p.isClosed = true) :
    Moves p .look { p with hasSender := false, call := none, refused := p.refused ++ [task] }
  | count (task : Nat) (hcall : p.call = some ⟨task, .admitted⟩) :
    Moves p .count
      { p with
        call := some ⟨task, .counted⟩
        pending := p.pending + 1
        accepted := p.accepted ++ [task] }
  | send (task : Nat) (hcall : p.call = some ⟨task, .counted⟩) (hreceiver : p.hasReceiver = true) :
    Moves p .send { p with call := none, channel := p.channel ++ [task] }
  | takeBack (task : Nat) (hcall : p.call = some ⟨task, .counted⟩)
    (hgone : p.hasReceiver = false) :
    Moves p .send
      { p with
        call := none
        pending := p.pending - 1
        accepted := p.accepted.filter (· ≠ task)
        refused := p.refused ++ [task] }
  | claim (token : Nat) (hfirst : p.claimed = none) :
    Moves p (.claim token) { p with claimed := some token }
  | launch (token : Nat) (hclaimed : p.claimed = some token) (htoken : p.token = none) :
    Moves p .launch
      { p with token := some token, workers := List.replicate p.concurrency .idle }
  | cancel (token : Nat) : Moves p (.cancel token) { p with cancelled := token :: p.cancelled }
  | close (hclosed : p.isClosed = true) (hcall : p.call = none) :
    Moves p .close { p with hasSender := false }
  | lock (worker : Nat) (hidle : p.workers[worker]? = some .idle)
    (hfree : .receiving ∉ p.workers) :
    Moves p (.lock worker) (p.put worker .receiving)
  | receive (worker task : Nat) (rest : List Nat) (hholds : p.workers[worker]? = some .receiving)
    (hchannel : p.channel = task :: rest) :
    Moves p (.receive worker)
      { p.put worker (.busy ⟨task, none⟩) with channel := rest, started := p.started ++ [task] }
  | stop (worker : Nat) (hholds : p.workers[worker]? = some .receiving) (hchannel : p.channel = [])
    (hgone : p.hasSender = false) :
    Moves p (.receive worker) (p.put worker .stopped)
  | finish (worker task : Nat) (ending : Ending)
    (hbusy : p.workers[worker]? = some (.busy ⟨task, none⟩)) :
    Moves p (.finish worker ending) (p.put worker (.busy ⟨task, some ending⟩))
  | countOff (worker task : Nat) (ending : Ending)
    (hbusy : p.workers[worker]? = some (.busy ⟨task, some ending⟩)) :
    Moves p (.countOff worker)
      { p.put worker .idle with pending := p.pending - 1, finished := p.finished ++ [task] }

/-- An event takes place, or it changes nothing. -/
theorem step_cases (p : Crew) (e : Event) : Moves p e (p.step e) ∨ p.step e = p := by
  -- One case for each event: the guards of its step are the hypotheses of its moves.
  cases e with
  | enter =>
    simp only [step, enter]
    split
    · next hcall => exact .inl (.enter hcall)
    · exact .inr rfl
  | look =>
    simp only [step, look]
    split
    · next task hcall =>
      split
      · next hopen =>
        rw [Bool.and_eq_true, Bool.not_eq_true'] at hopen
        exact .inl (.letIn task hcall hopen.1 hopen.2)
      · next hshut =>
        refine .inl (.refuse task hcall ?_)
        cases hsender : p.hasSender <;> simp_all
    · exact .inr rfl
  | count =>
    simp only [step, count]
    split
    · next task hcall => exact .inl (.count task hcall)
    · exact .inr rfl
  | send =>
    simp only [step, send]
    split
    · next task hcall =>
      split
      · next hreceiver => exact .inl (.send task hcall hreceiver)
      · next hgone => exact .inl (.takeBack task hcall (Bool.eq_false_iff.2 hgone))
    · exact .inr rfl
  | claim token =>
    simp only [step, claim]
    split
    · exact .inr rfl
    · next hfirst => exact .inl (.claim token hfirst)
  | launch =>
    simp only [step, launch]
    split
    · next token hclaimed htoken => exact .inl (.launch token hclaimed htoken)
    · exact .inr rfl
  | cancel token => exact .inl (.cancel token)
  | close =>
    simp only [step, close]
    split
    · next hclose =>
      rw [Bool.and_eq_true, Option.isNone_iff_eq_none] at hclose
      exact .inl (.close hclose.1 hclose.2)
    · exact .inr rfl
  | lock worker =>
    simp only [step, lock]
    split
    · next hidle =>
      split
      · exact .inr rfl
      · next hfree => exact .inl (.lock worker hidle (by simpa using hfree))
    · exact .inr rfl
  | receive worker =>
    simp only [step, receive]
    split
    · next hholds =>
      split
      · next task rest hchannel => exact .inl (.receive worker task rest hholds hchannel)
      · next hchannel =>
        split
        · exact .inr rfl
        · next hgone =>
          exact .inl (.stop worker hholds hchannel (Bool.eq_false_iff.2 hgone))
    · exact .inr rfl
  | finish worker ending =>
    simp only [step, finish]
    split
    · next task hbusy => exact .inl (.finish worker task ending hbusy)
    · exact .inr rfl
  | countOff worker =>
    simp only [step, countOff]
    split
    · next task ending hbusy => exact .inl (.countOff worker task ending hbusy)
    · exact .inr rfl

/-- What every event keeps when it takes place, a run keeps. -/
theorem play_induction {motive : Crew → Prop} {events : List Event} (hstart : motive p)
    (hmoves : ∀ p e q, motive p → Moves p e q → motive q) : motive (p.play events) := by
  induction events generalizing p with
  | nil => exact hstart
  | cons e rest ih =>
    refine ih ?_
    rcases step_cases p e with hmove | hsame
    · exact hmoves p e _ hstart hmove
    · rw [hsame]
      exact hstart

theorem play_append (p : Crew) (before after : List Event) :
    p.play (before ++ after) = (p.play before).play after := List.foldl_append

/-! ## The hands of the workers -/

/-- The workers around the one of a number, which stay where they are when it goes on. -/
theorem exists_workers_eq {worker : Nat} {old : Worker} (h : p.workers[worker]? = some old) :
    ∃ before after, p.workers = before ++ old :: after ∧
      ∀ new, (p.put worker new).workers = before ++ new :: after := by
  obtain ⟨hlt, rfl⟩ := List.getElem?_eq_some_iff.1 h
  refine ⟨p.workers.take worker, p.workers.drop (worker + 1), ?_, fun new => ?_⟩
  · rw [List.getElem_cons_drop, List.take_append_drop]
  · exact List.set_eq_take_append_cons_drop.trans (if_pos hlt)

/-- The hands around those of a worker stay full when it goes on. -/
theorem exists_hands_eq {worker : Nat} {old : Worker} (h : p.workers[worker]? = some old) :
    ∃ before after, p.hands = before ++ (old.work?.toList ++ after) ∧
      ∀ new, (p.put worker new).hands = before ++ (new.work?.toList ++ after) := by
  obtain ⟨before, after, hworkers, hput⟩ := exists_workers_eq h
  have hsplit : ∀ w, (before ++ w :: after).filterMap Worker.work?
      = before.filterMap Worker.work? ++ (w.work?.toList ++ after.filterMap Worker.work?) := by
    intro w
    rw [List.filterMap_append, List.filterMap_cons]
    cases w.work? <;> rfl
  refine ⟨before.filterMap Worker.work?, after.filterMap Worker.work?, ?_, fun new => ?_⟩
  · rw [hands, hworkers, hsplit]
  · rw [hands, hput, hsplit]

/-- What a worker takes into its hands comes in place of what it had. -/
theorem perm_hands_put {worker : Nat} {old : Worker} (h : p.workers[worker]? = some old)
    (new : Worker) :
    (p.put worker new).hands ++ old.work?.toList ~ p.hands ++ new.work?.toList := by
  obtain ⟨before, after, hhands, hput⟩ := exists_hands_eq h
  rw [hput, hhands, List.perm_iff_count]
  intro work
  simp only [List.count_append]
  omega

/-- A worker that changes changes the running tasks by its own task only. -/
theorem perm_running_put {worker : Nat} {old : Worker} (h : p.workers[worker]? = some old)
    (new : Worker) :
    ((p.put worker new).running ++ old.work?.toList.map Work.task).Perm
      (p.running ++ new.work?.toList.map Work.task) := by
  simpa only [running, List.map_append] using (perm_hands_put h new).map Work.task

theorem getElem?_put {worker : Nat} {old : Worker} (h : p.workers[worker]? = some old)
    (new : Worker) : (p.put worker new).workers[worker]? = some new :=
  List.getElem?_set_self (List.getElem?_eq_some_iff.1 h).1

theorem put_put (p : Crew) (worker : Nat) (point new : Worker) :
    (p.put worker point).put worker new = p.put worker new := by
  rw [put, put, put, List.set_set]

theorem lock_eq {worker : Nat} (hidle : p.workers[worker]? = some .idle)
    (hfree : .receiving ∉ p.workers) : p.lock worker = p.put worker .receiving := by
  rw [lock, hidle]
  exact if_neg (by rwa [List.contains_iff_mem])

theorem receive_eq {worker task : Nat} {rest : List Nat}
    (hholds : p.workers[worker]? = some .receiving) (hchannel : p.channel = task :: rest) :
    p.receive worker =
      { p.put worker (.busy ⟨task, none⟩) with
        channel := rest, started := p.started ++ [task] } := by
  rw [receive, hholds, hchannel]

theorem finish_eq {worker task : Nat} (hbusy : p.workers[worker]? = some (.busy ⟨task, none⟩))
    (ending : Ending) : p.finish worker ending = p.put worker (.busy ⟨task, some ending⟩) := by
  rw [finish, hbusy]

theorem countOff_eq {worker task : Nat} {ending : Ending}
    (hbusy : p.workers[worker]? = some (.busy ⟨task, some ending⟩)) :
    p.countOff worker =
      { p.put worker .idle with
        pending := p.pending - 1, finished := p.finished ++ [task] } := by
  rw [countOff, hbusy]

/-- No more tasks run than there are workers. -/
theorem length_running_le (p : Crew) : p.running.length ≤ p.workers.length := by
  rw [running, List.length_map]
  exact List.length_filterMap_le Worker.work? p.workers

/-- A task in the hands of a worker runs. -/
theorem mem_running {worker : Nat} {work : Work} (h : p.workers[worker]? = some (.busy work)) :
    work.task ∈ p.running :=
  List.mem_map.2 ⟨work, List.mem_filterMap.2 ⟨_, List.mem_of_getElem? h, rfl⟩, rfl⟩

/-! ## The invariant -/

/-- What holds of a pool at any moment. -/
structure Consistent (p : Crew) : Prop where
  positive : 0 < p.concurrency
  crewed : p.workers.length = if p.token.isSome then p.concurrency else 0
  claimed : p.token.isSome → p.claimed = p.token
  /-- A task is queued as soon as it is counted, and starts when a worker receives it. -/
  inOrder : p.accepted = p.started ++ p.queued
  taken : (p.running ++ p.finished).Perm p.started
  /-- Calls are answered one after another, and none is accepted after one that is refused. -/
  numbered : p.accepted ++ p.refused ++ p.undecided = List.range p.calls
  /-- The sender stays as long as a call holds it that has found it. -/
  admitted : ∀ task point, p.call = some ⟨task, point⟩ → point ≠ .entered →
    p.hasSender = true ∧ p.refused = []
  /-- Nothing but the cancellation takes the sender away. -/
  shut : p.hasSender = false ∨ p.refused ≠ [] → p.isClosed = true
  pending : p.pending + p.finished.length = p.accepted.length
  /-- No worker stops before everything is received. -/
  stopped : .stopped ∈ p.workers → p.hasSender = false ∧ p.channel = []

/-- A fresh crew is consistent. -/
theorem consistent_fresh {concurrency : Nat} (h : 0 < concurrency) :
    (fresh concurrency).Consistent where
  positive := h
  crewed := rfl
  claimed := by simp [fresh]
  inOrder := rfl
  taken := .nil
  numbered := rfl
  admitted := by simp [fresh]
  shut := by simp [fresh]
  pending := rfl
  stopped := by simp [fresh]

/-- While a call that has found the sender holds it, a task can be received. -/
theorem Consistent.hasReceiver (h : p.Consistent) (hsender : p.hasSender = true) :
    p.hasReceiver = true := by
  unfold Crew.hasReceiver
  cases hworkers : p.workers with
  | nil => rfl
  | cons w rest =>
    refine Bool.or_eq_true_iff.2 (.inr (List.any_eq_true.2 ⟨w, List.mem_cons_self, ?_⟩))
    refine decide_eq_true fun hw => ?_
    have hstopped : .stopped ∈ p.workers := by
      rw [hworkers, hw]
      exact List.mem_cons_self
    rw [(h.stopped hstopped).1] at hsender
    cases hsender

/-- A call that has counted its task can send it, so no task is taken back. -/
theorem Consistent.hasReceiver_of_counted (h : p.Consistent) {task : Nat}
    (hcall : p.call = some ⟨task, .counted⟩) : p.hasReceiver = true :=
  h.hasReceiver (h.admitted task .counted hcall (by decide)).1

/-- No call is refused as long as the token is not cancelled. -/
theorem Consistent.refused_eq_nil (h : p.Consistent) (hopen : p.isClosed = false) :
    p.refused = [] := by
  refine Classical.byContradiction fun hne => ?_
  rw [h.shut (.inr hne)] at hopen
  cases hopen

/-- The closer takes the sender away from closed pools only. -/
theorem Consistent.hasSender (h : p.Consistent) (hopen : p.isClosed = false) :
    p.hasSender = true := by
  refine Bool.of_not_eq_false fun hgone => ?_
  rw [h.shut (.inl hgone)] at hopen
  cases hopen

/-- There are no workers before the run that starts them. -/
theorem Consistent.workers_eq_nil (h : p.Consistent) (htoken : p.token = none) :
    p.workers = [] := by
  have hcrewed := h.crewed
  rw [htoken] at hcrewed
  exact List.length_eq_zero_iff.1 hcrewed

/-- A task in the hands of a worker is counted. -/
theorem Consistent.pending_pos (h : p.Consistent) {worker : Nat} {work : Work}
    (hbusy : p.workers[worker]? = some (.busy work)) : 0 < p.pending := by
  have hlength := h.taken.length_eq
  have horder := congrArg List.length h.inOrder
  have hpos := List.length_pos_of_mem (mem_running hbusy)
  have hpending := h.pending
  simp only [List.length_append] at hlength horder
  omega

/-- What a worker has in its hands is counted off or taken over when it goes on. -/
theorem Consistent.put (h : p.Consistent) {worker : Nat} {old : Worker}
    (hold : p.workers[worker]? = some old) {new : Worker} (hnew : new ≠ .stopped)
    (hsame : old.work?.toList.map Work.task = new.work?.toList.map Work.task) :
    (p.put worker new).Consistent := by
  have hperm := perm_running_put hold new
  rw [hsame] at hperm
  have hrunning := (List.perm_append_right_iff _).1 hperm
  refine { h with crewed := ?_, taken := ?_, stopped := fun hmem => ?_ }
  · rw [Crew.put, List.length_set]
    exact h.crewed
  · exact (hrunning.append_right p.finished).trans h.taken
  · rcases List.mem_or_eq_of_mem_set hmem with hmem | heq
    · exact h.stopped hmem
    · exact absurd heq.symm hnew

/-- The task of a call is counted: it is the next number, and the last one in the queue. -/
theorem Consistent.count (h : p.Consistent) {task : Nat}
    (hcall : p.call = some ⟨task, .admitted⟩) :
    Consistent { p with
      call := some ⟨task, .counted⟩
      pending := p.pending + 1
      accepted := p.accepted ++ [task] } := by
  obtain ⟨hsender, hrefused⟩ := h.admitted task .admitted hcall (by decide)
  have hnumbered := h.numbered
  have horder := h.inOrder
  have hpending := h.pending
  simp only [undecided, queued, sending, hcall, hrefused, List.append_nil] at hnumbered horder
  -- The task goes from the undecided ones to the accepted ones, and is queued by this.
  refine { h with
    inOrder := ?_
    numbered := ?_
    admitted := fun _ _ _ _ => ⟨hsender, hrefused⟩
    pending := ?_ }
  · simp only [queued, sending, horder, List.append_assoc]
  · simpa only [undecided, hrefused, List.append_nil] using hnumbered
  · show p.pending + 1 + p.finished.length = (p.accepted ++ [task]).length
    rw [List.length_append, List.length_singleton]
    omega

/-- The workers start with empty hands. -/
theorem Consistent.launch (h : p.Consistent) {token : Nat} (hclaimed : p.claimed = some token)
    (htoken : p.token = none) :
    Consistent { p with
      token := some token
      workers := List.replicate p.concurrency .idle } := by
  have hopen : p.isClosed = false := by rw [isClosed, htoken]
  have hidle : (List.replicate p.concurrency Worker.idle).filterMap Worker.work? = [] := by
    rw [List.filterMap_replicate_of_none rfl]
  refine { h with
    crewed := List.length_replicate
    claimed := fun _ => hclaimed
    taken := ?_
    shut := ?_
    stopped := fun hstopped => ?_ }
  · have htaken := h.taken
    simp only [running, hands, h.workers_eq_nil htoken, List.filterMap_nil] at htaken
    simpa only [running, hands, hidle] using htaken
  -- The sender is taken away and calls are refused in closed pools only, and this one has no token
  -- yet.
  · rintro (hgone | hrefused)
    · rw [h.hasSender hopen] at hgone
      cases hgone
    · exact absurd (h.refused_eq_nil hopen) hrefused
  · cases (List.mem_replicate.1 hstopped).2

/-- A worker receives the task that has been in the queue longest. -/
theorem Consistent.receive (h : p.Consistent) {worker task : Nat} {rest : List Nat}
    (hholds : p.workers[worker]? = some .receiving) (hchannel : p.channel = task :: rest) :
    Consistent { p.put worker (.busy ⟨task, none⟩) with
      channel := rest
      started := p.started ++ [task] } := by
  have hrunning : (p.put worker (.busy ⟨task, none⟩)).running ~ p.running ++ [task] := by
    simpa [Worker.work?] using perm_running_put hholds (.busy ⟨task, none⟩)
  have horder := h.inOrder
  simp only [queued, hchannel] at horder
  refine { h with crewed := ?_, inOrder := ?_, taken := ?_, stopped := fun hstopped => ?_ }
  · exact List.length_set.trans h.crewed
  · show p.accepted = p.started ++ [task] ++ (rest ++ p.sending)
    rw [horder, List.append_assoc]
    rfl
  · calc
      (p.put worker (.busy ⟨task, none⟩)).running ++ p.finished
      _ ~ p.running ++ [task] ++ p.finished := hrunning.append_right p.finished
      _ = p.running ++ ([task] ++ p.finished) := List.append_assoc ..
      _ ~ p.running ++ (p.finished ++ [task]) := List.perm_append_comm.append_left p.running
      _ = p.running ++ p.finished ++ [task] := (List.append_assoc ..).symm
      _ ~ p.started ++ [task] := h.taken.append_right [task]
  · -- A worker that has stopped found the channel empty.
    rcases List.mem_or_eq_of_mem_set hstopped with hmem | heq
    · rw [(h.stopped hmem).2] at hchannel
      cases hchannel
    · cases heq

/-- A worker counts its task off, and the counter has counted it. -/
theorem Consistent.countOff (h : p.Consistent) {worker task : Nat} {ending : Ending}
    (hbusy : p.workers[worker]? = some (.busy ⟨task, some ending⟩)) :
    Consistent { p.put worker .idle with
      pending := p.pending - 1
      finished := p.finished ++ [task] } := by
  have hpos := h.pending_pos hbusy
  have hpending := h.pending
  have hrunning : (p.put worker .idle).running ++ [task] ~ p.running := by
    simpa [Worker.work?] using perm_running_put hbusy .idle
  -- The task goes from the hands of the worker to what is counted off, so no place loses it.
  refine { h with crewed := ?_, taken := ?_, pending := ?_, stopped := fun hstopped => ?_ }
  · exact List.length_set.trans h.crewed
  · calc
      (p.put worker .idle).running ++ (p.finished ++ [task])
      _ ~ (p.put worker .idle).running ++ ([task] ++ p.finished) :=
        List.perm_append_comm.append_left _
      _ = (p.put worker .idle).running ++ [task] ++ p.finished := (List.append_assoc ..).symm
      _ ~ p.running ++ p.finished := hrunning.append_right p.finished
      _ ~ p.started := h.taken
  · show p.pending - 1 + (p.finished ++ [task]).length = p.accepted.length
    rw [List.length_append, List.length_singleton]
    omega
  · rcases List.mem_or_eq_of_mem_set hstopped with hmem | heq
    · exact h.stopped hmem
    · cases heq

/-- Whatever takes place keeps the invariant. -/
theorem Consistent.moves (h : p.Consistent) (hmove : Moves p e q) : q.Consistent := by
  cases hmove with
  | enter hcall =>
    have hnumbered := h.numbered
    have horder := h.inOrder
    simp only [undecided, queued, sending, hcall, List.append_nil] at hnumbered horder
    refine { h with inOrder := ?_, numbered := ?_, admitted := ?_ }
    · simpa only [queued, sending, List.append_nil] using horder
    · rw [List.range_succ, ← hnumbered]
      rfl
    · rintro task point ⟨⟩ hpoint
      exact absurd rfl hpoint
  | letIn task hcall hsender hopen =>
    have hnumbered := h.numbered
    have horder := h.inOrder
    simp only [undecided, queued, sending, hcall] at hnumbered horder
    exact { h with
      inOrder := horder
      numbered := hnumbered
      admitted := fun _ _ _ _ => ⟨hsender, h.refused_eq_nil hopen⟩ }
  | refuse task hcall hshut =>
    -- also a call that finds the sender gone comes after the cancellation
    have hclosed : p.isClosed = true := hshut.elim (fun hgone => h.shut (.inl hgone)) id
    have hnumbered := h.numbered
    have horder := h.inOrder
    simp only [undecided, queued, sending, hcall] at hnumbered horder
    refine { h with
      inOrder := horder
      numbered := ?_
      admitted := nofun
      shut := fun _ => hclosed
      stopped := fun hstopped => ⟨rfl, (h.stopped hstopped).2⟩ }
    simpa only [undecided, List.append_nil, List.append_assoc] using hnumbered
  | count task hcall => exact h.count hcall
  | send task hcall hreceiver =>
    have hnumbered := h.numbered
    have horder := h.inOrder
    obtain ⟨hsender, -⟩ := h.admitted task .counted hcall (by decide)
    simp only [undecided, queued, sending, hcall, List.append_nil] at hnumbered horder
    refine { h with
      inOrder := ?_
      numbered := ?_
      admitted := nofun
      stopped := fun hstopped => ?_ }
    · simpa only [queued, sending, List.append_nil] using horder
    · simpa only [undecided, List.append_nil] using hnumbered
    · have hgone := (h.stopped hstopped).1
      rw [hsender] at hgone
      cases hgone
  | takeBack task hcall hgone =>
    -- this never takes place: while the call holds the sender no worker stops
    rw [h.hasReceiver_of_counted hcall] at hgone
    cases hgone
  | claim token hfirst =>
    refine { h with claimed := fun hsome => ?_ }
    have htoken := h.claimed hsome
    rw [hfirst] at htoken
    rw [← htoken] at hsome
    cases hsome
  | launch token hclaimed htoken => exact h.launch hclaimed htoken
  | cancel token =>
    refine { h with shut := fun hshut => ?_ }
    have hclosed := h.shut hshut
    unfold isClosed at hclosed ⊢
    cases htoken : p.token with
    | none => rw [htoken] at hclosed; cases hclosed
    | some own =>
      simp only [htoken, List.contains_cons] at hclosed ⊢
      rw [hclosed, Bool.or_true]
  | close hclosed hcall =>
    -- the closer waits for the call that holds the sender
    refine { h with
      admitted := fun task point hsome => ?_
      shut := fun _ => hclosed
      stopped := fun hstopped => ⟨rfl, (h.stopped hstopped).2⟩ }
    rw [show p.call = some ⟨task, point⟩ from hsome] at hcall
    cases hcall
  | lock worker hidle hfree => exact h.put hidle (by simp) rfl
  | receive worker task rest hholds hchannel => exact h.receive hholds hchannel
  | stop worker hholds hchannel hgone =>
    have hrunning : (p.put worker .stopped).running ~ p.running := by
      simpa [Worker.work?] using perm_running_put hholds .stopped
    exact { h with
      crewed := List.length_set.trans h.crewed
      taken := (hrunning.append_right p.finished).trans h.taken
      stopped := fun _ => ⟨hgone, hchannel⟩ }
  | finish worker task ending hbusy => exact h.put hbusy (by simp) rfl
  | countOff worker task ending hbusy => exact h.countOff hbusy

/-- A crew stays consistent, whatever is done in whatever order. -/
theorem Consistent.play (h : p.Consistent) (events : List Event) : (p.play events).Consistent :=
  play_induction h fun _ _ _ h hmove => h.moves hmove

/-- What every event keeps when it takes place in a consistent pool, a run of such a pool keeps. -/
theorem Consistent.play_induction {motive : Crew → Prop} {events : List Event} (h : p.Consistent)
    (hstart : motive p)
    (hmoves : ∀ p e q, p.Consistent → motive p → Moves p e q → motive q) :
    motive (p.play events) := by
  have hboth : (p.play events).Consistent ∧ motive (p.play events) :=
    Crew.play_induction (motive := fun q => q.Consistent ∧ motive q) ⟨h, hstart⟩
      fun p e q ⟨hp, hkept⟩ hmove => ⟨hp.moves hmove, hmoves p e q hp hkept hmove⟩
  exact hboth.2

/-! ## The tasks of a pool -/

/-- Accepted tasks are numbered in the order in which they are accepted: once a call is refused, no
other one is accepted. -/
theorem Consistent.accepted_eq_range (h : p.Consistent) :
    p.accepted = List.range p.accepted.length := by
  have hnumbered := h.numbered
  rw [List.append_assoc] at hnumbered
  have hlength : p.accepted.length ≤ p.calls := by
    have hlen := congrArg List.length hnumbered
    rw [List.length_append, List.length_range] at hlen
    omega
  calc
    p.accepted = (p.accepted ++ (p.refused ++ p.undecided)).take p.accepted.length :=
      List.take_left.symm
    _ = (List.range p.calls).take p.accepted.length := by rw [hnumbered]
    _ = List.range p.accepted.length := by rw [List.take_range, Nat.min_eq_left hlength]

/-- No task is accepted twice. -/
theorem Consistent.nodup_accepted (h : p.Consistent) : p.accepted.Nodup := by
  rw [h.accepted_eq_range]
  exact List.nodup_range

/-- Every accepted task is queued, in the hands of a worker, or counted off. -/
theorem Consistent.perm_accepted (h : p.Consistent) :
    p.queued ++ p.running ++ p.finished ~ p.accepted :=
  calc
    p.queued ++ p.running ++ p.finished
    _ = p.queued ++ (p.running ++ p.finished) := List.append_assoc ..
    _ ~ p.queued ++ p.started := h.taken.append_left p.queued
    _ ~ p.started ++ p.queued := List.perm_append_comm
    _ = p.accepted := h.inOrder.symm

/-- No task is in two places. -/
theorem Consistent.nodup_places (h : p.Consistent) :
    (p.queued ++ p.running ++ p.finished).Nodup :=
  h.perm_accepted.nodup_iff.2 h.nodup_accepted

/-- No more tasks are in hand than there are workers. -/
theorem Consistent.length_running_le (h : p.Consistent) : p.running.length ≤ p.concurrency := by
  have hle := p.length_running_le
  have hcrewed := h.crewed
  split at hcrewed <;> omega

/-- No two workers have one task. -/
theorem Consistent.nodup_running (h : p.Consistent) : p.running.Nodup :=
  (List.nodup_append.1 (List.nodup_append.1 h.nodup_places).1).2.1

end Crew

end Telemetry

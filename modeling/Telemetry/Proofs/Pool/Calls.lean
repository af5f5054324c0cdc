import Telemetry.Proofs.Pool.Crew

/-!
# A pool seen call by call

`Pool` takes a call for one step and does not say which worker acts. `Shows` says that it shows the
same tasks at the same places as a crew. Every event of a pool is a few events of the crew, one
after another with nothing between them, so a pool shows what some run of the crew leads to, and
whatever holds of every run of a crew holds of it.
-/

namespace Telemetry

/-- A task and whether it has ended, without the way it ended. -/
def Work.view (w : Work) : Nat × Bool := (w.task, w.ending.isSome)

namespace Pool

variable {p q : Pool}

/-- An event of a pool takes place, and leads to another state. -/
inductive Moves (p : Pool) : Event → Pool → Prop
  | add (hopen : p.isClosed = false) :
    Moves p .add
      { p with
        accepted := p.accepted + 1
        queue := p.queue ++ [p.accepted]
        pending := p.pending + 1 }
  | run (token : Nat) (hfirst : p.token = none) :
    Moves p (.run token) { p with token := some token }
  | cancel (token : Nat) : Moves p (.cancel token) (p.cancel token)
  | take (own task : Nat) (rest : List Nat) (htoken : p.token = some own)
    (hqueue : p.queue = task :: rest) (hfree : p.busy.length < p.concurrency) :
    Moves p .take { p with queue := rest, busy := p.busy ++ [⟨task, none⟩] }
  | finish (task : Nat) (ending : Ending) : Moves p (.finish task ending) (p.finish task ending)
  | release (task : Nat) (hended : (p.busy.any fun w => w.task = task && w.ending.isSome) = true) :
    Moves p (.release task)
      { p with
        busy := p.busy.filter fun w => w.task ≠ task
        finished := task :: p.finished
        pending := p.pending - 1 }

/-- A call that is accepted found the pool open. -/
theorem moves_add (h : p.add = .ok q) : Moves p .add q := by
  unfold add at h
  split at h
  · cases h
  · next hopen =>
    cases h
    exact .add (Bool.eq_false_iff.2 hopen)

/-- A run that is accepted is the first one. -/
theorem moves_run {token : Nat} (h : p.run token = .ok q) : Moves p (.run token) q := by
  unfold run at h
  split at h
  · cases h
  · next hfirst =>
    cases h
    exact .run token hfirst

/-- A task is received by a free worker of a pool that runs. -/
theorem moves_take (h : p.take? = some q) : Moves p .take q := by
  unfold take? at h
  split at h
  · next own task rest htoken hqueue =>
    split at h
    · next hfree =>
      cases h
      exact .take own task rest htoken hqueue hfree
    · cases h
  · cases h

/-- A task is counted off once it has an ending. -/
theorem moves_release {task : Nat} (h : p.release? task = some q) : Moves p (.release task) q := by
  unfold release? at h
  split at h
  · next hended =>
    cases h
    exact .release task hended
  · cases h

/-- An event of a pool takes place, or it changes nothing. -/
theorem step_cases (p : Pool) (e : Event) : Moves p e (p.step e) ∨ p.step e = p := by
  -- A guard that fails gives the pool back; where it holds, the event is one of the moves.
  cases e with
  | add =>
    simp only [step]
    cases hadd : p.add with
    | error _ => exact .inr rfl
    | ok q => exact .inl (moves_add hadd)
  | run token =>
    simp only [step]
    cases hrun : p.run token with
    | error _ => exact .inr rfl
    | ok q => exact .inl (moves_run hrun)
  | cancel token => exact .inl (.cancel token)
  | take =>
    simp only [step]
    cases htake : p.take? with
    | none => exact .inr rfl
    | some q => exact .inl (moves_take htake)
  | finish task ending => exact .inl (.finish task ending)
  | release task =>
    simp only [step]
    cases hrelease : p.release? task with
    | none => exact .inr rfl
    | some q => exact .inl (moves_release hrelease)

end Pool

namespace Crew

open scoped List

variable {p : Crew} {q : Pool}

/-- A pool that shows the tasks of a crew. It keeps the tasks in the hands of the workers in another
order, and how a task ended only as long as nobody else says so. -/
structure Shows (p : Crew) (q : Pool) : Prop where
  concurrency : q.concurrency = p.concurrency
  accepted : q.accepted = p.accepted.length
  queue : q.queue = p.queued
  busy : q.busy.map Work.view ~ p.hands.map Work.view
  finished : q.finished = p.finished.reverse
  pending : q.pending = p.pending
  token : q.token = p.token
  cancelled : q.cancelled = p.cancelled

/-- Nobody is in the middle of a call, and no worker holds the receiver or has stopped. -/
structure Quiet (p : Crew) : Prop where
  call : p.call = none
  claimed : p.claimed = p.token
  receiving : .receiving ∉ p.workers
  stopped : .stopped ∉ p.workers

/-- A pool is closed exactly if the crew it shows is. -/
theorem Shows.isClosed (h : Shows p q) : q.isClosed = p.isClosed := by
  cases htoken : p.token <;>
    simp only [Pool.isClosed, Crew.isClosed, h.token, h.cancelled, htoken]

/-- As many tasks are in hand in a pool as in the crew it shows. -/
theorem Shows.length_busy (h : Shows p q) : q.busy.length = p.running.length := by
  have hlength := h.busy.length_eq
  simpa only [running, List.length_map] using hlength

/-- Some worker waits for the receiver, if there are more workers than tasks in their hands. -/
theorem Quiet.exists_idle (h : p.Quiet) (hfree : p.hands.length < p.workers.length) :
    ∃ worker : Nat, p.workers[worker]? = some .idle := by
  refine Classical.byContradiction fun hnone => ?_
  have hbusy : ∀ w ∈ p.workers, w.work?.isSome := by
    intro w hw
    obtain ⟨worker, hworker⟩ := List.getElem?_of_mem hw
    cases w with
    | idle => exact absurd ⟨worker, hworker⟩ hnone
    | receiving => exact absurd hw h.receiving
    | busy work => rfl
    | stopped => exact absurd hw h.stopped
  have hlength : p.hands.length = p.workers.length := List.filterMap_length_eq_length.2 hbusy
  omega

/-- A worker goes on to a point at which it neither holds the receiver nor has stopped. -/
theorem Quiet.put (h : p.Quiet) {worker : Nat} {new : Worker} (hreceiving : new ≠ .receiving)
    (hstopped : new ≠ .stopped) : (p.put worker new).Quiet := by
  refine { h with receiving := fun hmem => ?_, stopped := fun hmem => ?_ }
  · rcases List.mem_or_eq_of_mem_set hmem with hmem | heq
    · exact h.receiving hmem
    · exact hreceiving heq.symm
  · rcases List.mem_or_eq_of_mem_set hmem with hmem | heq
    · exact h.stopped hmem
    · exact hstopped heq.symm

/-- The hands around those of a busy worker hold other tasks. -/
theorem Consistent.exists_hands_eq (h : p.Consistent) {worker : Nat} {work : Work}
    (hbusy : p.workers[worker]? = some (.busy work)) :
    ∃ before after, p.hands = before ++ work :: after ∧
      (∀ new, (p.put worker new).hands = before ++ (new.work?.toList ++ after)) ∧
      (∀ w ∈ before, w.task ≠ work.task) ∧ ∀ w ∈ after, w.task ≠ work.task := by
  obtain ⟨before, after, hhands, hput⟩ := Crew.exists_hands_eq hbusy
  have hnodup := h.nodup_running
  rw [running, hhands, List.map_append, List.map_append, List.nodup_append] at hnodup
  obtain ⟨-, hafter, hbefore⟩ := hnodup
  refine ⟨before, after, hhands, hput, fun w hw => ?_, fun w hw heq => ?_⟩
  · exact hbefore _ (List.mem_map_of_mem hw) _ List.mem_cons_self
  · exact (List.nodup_cons.1 hafter).1 (heq ▸ List.mem_map_of_mem hw)

/-- A task in hand is in the hands of some worker, at the point where that worker is. -/
theorem exists_worker_of_mem_view {task : Nat} {ended : Bool}
    (h : (task, ended) ∈ p.hands.map Work.view) :
    ∃ (worker : Nat) (ending : Option Ending), p.workers[worker]? = some (.busy ⟨task, ending⟩) ∧
      ending.isSome = ended := by
  obtain ⟨⟨own, ending⟩, hmem, hview⟩ := List.mem_map.1 h
  obtain ⟨rfl, rfl⟩ := Prod.mk.inj hview
  obtain ⟨w, hw, hwork⟩ := List.mem_filterMap.1 hmem
  obtain ⟨worker, hworker⟩ := List.getElem?_of_mem hw
  cases w with
  | busy work =>
    cases hwork
    exact ⟨worker, ending, hworker, rfl⟩
  | idle => cases hwork
  | receiving => cases hwork
  | stopped => cases hwork

/-! ## One event of the pool -/

/-- Four events in a row bring a task, if the token is not cancelled. -/
theorem play_bring (h : p.Consistent) (hcall : p.call = none) (hopen : p.isClosed = false) :
    p.play [.enter, .look, .count, .send] =
      { p with
        calls := p.calls + 1
        channel := p.channel ++ [p.calls]
        pending := p.pending + 1
        accepted := p.accepted ++ [p.calls] } := by
  have hsender := h.hasSender hopen
  have hreceiver := h.hasReceiver hsender
  unfold isClosed at hopen
  unfold hasReceiver at hreceiver
  simp only [play, List.foldl, step, enter, hcall, look, hsender, isClosed, hopen, Bool.not_false,
    Bool.and_self, if_true, count, send, hasReceiver, hreceiver]

/-- In a quiet crew that is open every call has been accepted. -/
theorem Consistent.length_accepted (h : p.Consistent) (hcall : p.call = none)
    (hopen : p.isClosed = false) : p.accepted.length = p.calls := by
  have hnumbered := congrArg List.length h.numbered
  rw [h.refused_eq_nil hopen, undecided, hcall] at hnumbered
  simpa only [List.append_nil, List.length_range] using hnumbered

/-- Without a call on its way the queued tasks are those in the channel. -/
theorem queued_eq_channel (hcall : p.call = none) : p.queued = p.channel := by
  rw [queued, sending, hcall, List.append_nil]

/-- The crew does an accepted call of a pool in four steps: it enters, looks at the token, counts
its task and sends it. -/
theorem exists_play_add (h : p.Consistent) (hquiet : p.Quiet) (hshows : Shows p q)
    (hopen : q.isClosed = false) :
    ∃ events, (p.play events).Quiet ∧ Shows (p.play events)
      { q with
        accepted := q.accepted + 1
        queue := q.queue ++ [q.accepted]
        pending := q.pending + 1 } := by
  rw [hshows.isClosed] at hopen
  -- The pool numbers a task by the tasks accepted, the crew by the calls: nothing was refused so
  -- far.
  have hname : q.accepted = p.calls :=
    hshows.accepted.trans (h.length_accepted hquiet.call hopen)
  have hqueue := hshows.queue
  rw [queued_eq_channel hquiet.call] at hqueue
  refine ⟨[.enter, .look, .count, .send], ?_⟩
  rw [play_bring h hquiet.call hopen]
  refine ⟨{ hquiet with }, { hshows with accepted := ?_, queue := ?_, pending := ?_ }⟩
  · show q.accepted + 1 = (p.accepted ++ [p.calls]).length
    rw [List.length_append, hshows.accepted]
    rfl
  · show q.queue ++ [q.accepted] = p.channel ++ [p.calls] ++ p.sending
    rw [hqueue, hname, sending, hquiet.call, List.append_nil]
  · exact congrArg (· + 1) hshows.pending

/-- The crew starts its workers in two steps: the run takes the receiver and launches them. -/
theorem exists_play_run (h : p.Consistent) (hquiet : p.Quiet) (hshows : Shows p q) (token : Nat)
    (hfirst : q.token = none) :
    ∃ events, (p.play events).Quiet ∧ Shows (p.play events) { q with token := some token } := by
  rw [hshows.token] at hfirst
  have hclaimed : p.claimed = none := hquiet.claimed.trans hfirst
  -- Workers that have just been launched have nothing in their hands, and there were none before.
  have hhands : (List.replicate p.concurrency Worker.idle).filterMap Worker.work? = p.hands := by
    rw [List.filterMap_replicate_of_none rfl, hands, h.workers_eq_nil hfirst]
    rfl
  have hplay : p.play [.claim token, .launch] =
      { p with
        claimed := some token
        token := some token
        workers := List.replicate p.concurrency .idle } := by
    simp only [play, List.foldl, step, claim, hclaimed, launch, hfirst, Except.toOption,
      Option.getD_some]
  refine ⟨[.claim token, .launch], ?_⟩
  rw [hplay]
  refine ⟨⟨hquiet.call, rfl, fun hmem => ?_, fun hmem => ?_⟩,
    { hshows with busy := ?_, token := rfl }⟩
  · cases (List.mem_replicate.1 hmem).2
  · cases (List.mem_replicate.1 hmem).2
  · show q.busy.map Work.view ~ ((List.replicate p.concurrency Worker.idle).filterMap _).map _
    rw [hhands]
    exact hshows.busy

/-- In a crew that shows a pool with a free worker, some idle worker may hold the receiver and
receive. -/
theorem exists_play_take (h : p.Consistent) (hquiet : p.Quiet) (hshows : Shows p q)
    {own task : Nat} {rest : List Nat} (htoken : q.token = some own)
    (hqueue : q.queue = task :: rest) (hfree : q.busy.length < q.concurrency) :
    ∃ events, (p.play events).Quiet ∧
      Shows (p.play events) { q with queue := rest, busy := q.busy ++ [⟨task, none⟩] } := by
  have hchannel : p.channel = task :: rest := by
    rw [← queued_eq_channel hquiet.call, ← hshows.queue, hqueue]
  have hlength : p.hands.length < p.workers.length := by
    have hbusy := hshows.length_busy
    have hcrewed := h.crewed
    have hconcurrency := hshows.concurrency
    rw [← hshows.token, htoken, if_pos Option.isSome_some] at hcrewed
    rw [running, List.length_map] at hbusy
    omega
  -- Which worker it is the pool does not say; any idle one will do.
  obtain ⟨worker, hidle⟩ := hquiet.exists_idle hlength
  have hhands := perm_hands_put hidle (.busy ⟨task, none⟩)
  have hplay : p.play [.lock worker, .receive worker] =
      { p.put worker (.busy ⟨task, none⟩) with
        channel := rest, started := p.started ++ [task] } := by
    show (p.lock worker).receive worker = _
    rw [lock_eq hidle hquiet.receiving, receive_eq (getElem?_put hidle _) hchannel, put_put]
    rfl
  have hput : (p.put worker (.busy ⟨task, none⟩)).Quiet := hquiet.put (by simp) (by simp)
  refine ⟨[.lock worker, .receive worker], ?_⟩
  rw [hplay]
  refine ⟨{ hput with }, { hshows with queue := ?_, busy := ?_ }⟩
  · show rest = rest ++ p.sending
    rw [sending, hquiet.call, List.append_nil]
  · calc
      (q.busy ++ [(⟨task, none⟩ : Work)]).map Work.view
      _ = q.busy.map Work.view ++ [(task, false)] := by
        rw [List.map_append]
        rfl
      _ ~ p.hands.map Work.view ++ [(task, false)] := hshows.busy.append_right _
      _ ~ (p.put worker (.busy ⟨task, none⟩)).hands.map Work.view := by
        simpa [Worker.work?, Work.view] using (hhands.map Work.view).symm

/-- What the end of a task does to the view of the tasks in hand. -/
def mark (task : Nat) (v : Nat × Bool) : Nat × Bool := (v.1, v.2 || v.1 == task)

/-- Writing an ending down for a task marks what is seen of it, and of no other. -/
theorem view_finish (task : Nat) (ending : Ending) (w : Work) :
    Work.view (if w.task = task then { w with ending := some ending } else w)
      = mark task w.view := by
  by_cases hw : w.task = task
  · simp [Work.view, mark, hw]
  · simp [Work.view, mark, hw]

/-- Marking a task as ended changes nothing where it has ended already. -/
theorem map_mark_of_ended {task : Nat} {works : List Work}
    (h : ∀ w ∈ works, w.task = task → w.ending.isSome) :
    (works.map Work.view).map (mark task) = works.map Work.view := by
  rw [List.map_map]
  refine List.map_congr_left fun w hw => ?_
  by_cases htask : w.task = task
  · simp [Work.view, mark, h w hw htask]
  · simp [Work.view, mark, htask]

/-- The crew ends a task in one step of the worker that has it, or in none where no worker runs it.
-/
theorem exists_play_finish (h : p.Consistent) (hquiet : p.Quiet) (hshows : Shows p q) (task : Nat)
    (ending : Ending) :
    ∃ events, (p.play events).Quiet ∧ Shows (p.play events) (q.finish task ending) := by
  have hbusy : (q.finish task ending).busy.map Work.view
      ~ (p.hands.map Work.view).map (mark task) := by
    have hview : (q.finish task ending).busy.map Work.view
        = (q.busy.map Work.view).map (mark task) := by
      rw [Pool.finish, List.map_map, List.map_map]
      exact List.map_congr_left fun w _ => view_finish task ending w
    rw [hview]
    exact hshows.busy.map (mark task)
  by_cases hmem : (task, false) ∈ p.hands.map Work.view
  · obtain ⟨worker, before, hworker, hbefore⟩ := exists_worker_of_mem_view hmem
    obtain rfl : before = none := Option.isNone_iff_eq_none.1 (by simpa using hbefore)
    -- The worker stands somewhere among the others, and none of these has the same task.
    obtain ⟨left, right, hhands, hput, hleft, hright⟩ := h.exists_hands_eq hworker
    have hplay : p.play [.finish worker ending] = p.put worker (.busy ⟨task, some ending⟩) :=
      finish_eq hworker ending
    have hkeep : ∀ works : List Work, (∀ w ∈ works, w.task ≠ task) →
        (works.map Work.view).map (mark task) = works.map Work.view :=
      fun works hworks => map_mark_of_ended fun w hw heq => absurd heq (hworks w hw)
    refine ⟨[.finish worker ending], ?_⟩
    rw [hplay]
    refine ⟨hquiet.put (by simp) (by simp),
      { hshows with busy := hbusy.trans (List.Perm.of_eq ?_) }⟩
    rw [hput, hhands, List.map_append, List.map_append, List.map_append, hkeep left hleft,
      List.map_cons, List.map_cons, hkeep right hright, List.map_append]
    simp [Worker.work?, Work.view, mark]
  · -- The task is in nobody's hands, or it has ended before.
    refine ⟨[], hquiet, { hshows with busy := hbusy.trans (List.Perm.of_eq ?_) }⟩
    refine map_mark_of_ended fun w hw htask => ?_
    refine Bool.of_not_eq_false fun hending => hmem ?_
    exact List.mem_map.2 ⟨w, hw, by rw [Work.view, htask, hending]⟩

/-- The crew counts a task off in one step of the worker that has it. -/
theorem exists_play_release (h : p.Consistent) (hquiet : p.Quiet) (hshows : Shows p q) {task : Nat}
    (hended : (q.busy.any fun w => w.task = task && w.ending.isSome) = true) :
    ∃ events, (p.play events).Quiet ∧ Shows (p.play events)
      { q with
        busy := q.busy.filter fun w => w.task ≠ task
        finished := task :: q.finished
        pending := q.pending - 1 } := by
  have hmem : (task, true) ∈ p.hands.map Work.view := by
    rw [← hshows.busy.mem_iff, List.mem_map]
    obtain ⟨w, hw, hcheck⟩ := List.any_eq_true.1 hended
    rw [Bool.and_eq_true, decide_eq_true_eq] at hcheck
    exact ⟨w, hw, by rw [Work.view, hcheck.1, hcheck.2]⟩
  obtain ⟨worker, ending, hworker, hsome⟩ := exists_worker_of_mem_view hmem
  obtain ⟨ending, rfl⟩ := Option.isSome_iff_exists.1 hsome
  obtain ⟨left, right, hhands, hput, hleft, hright⟩ := h.exists_hands_eq hworker
  have hplay : p.play [.countOff worker] =
      { p.put worker .idle with
        pending := p.pending - 1, finished := p.finished ++ [task] } :=
    countOff_eq hworker
  have hidle : (p.put worker .idle).Quiet := hquiet.put (by simp) (by simp)
  have hfilter : (q.busy.filter fun w => w.task ≠ task).map Work.view
      = (q.busy.map Work.view).filter fun v => v.1 ≠ task := by
    rw [List.filter_map]
    rfl
  -- The worker's task occurs nowhere else, so taking it out by its number takes out one entry.
  have hkeep : ∀ works : List Work, (∀ w ∈ works, w.task ≠ task) →
      (works.map Work.view).filter (fun v => v.1 ≠ task) = works.map Work.view := by
    intro works hworks
    refine List.filter_eq_self.2 fun v hv => ?_
    obtain ⟨w, hw, rfl⟩ := List.mem_map.1 hv
    exact decide_eq_true (hworks w hw)
  refine ⟨[.countOff worker], ?_⟩
  rw [hplay]
  refine ⟨{ hidle with }, { hshows with busy := ?_, finished := ?_, pending := ?_ }⟩
  · rw [hfilter]
    refine (hshows.busy.filter fun v => v.1 ≠ task).trans (List.Perm.of_eq ?_)
    show _ = (p.put worker .idle).hands.map Work.view
    rw [hput, hhands, List.map_append, List.filter_append, hkeep left hleft, List.map_cons,
      List.filter_cons_of_neg (by simp [Work.view]), hkeep right hright, List.map_append]
    rfl
  · show task :: q.finished = (p.finished ++ [task]).reverse
    rw [List.reverse_append, hshows.finished]
    rfl
  · exact congrArg (· - 1) hshows.pending

/-- Every event of a pool is a few events of the crew that it shows. -/
theorem exists_play_step (h : p.Consistent) (hquiet : p.Quiet) (hshows : Shows p q)
    (e : Pool.Event) :
    ∃ events, (p.play events).Quiet ∧ Shows (p.play events) (q.step e) := by
  rcases q.step_cases e with hmove | hsame
  · generalize q.step e = next at hmove
    cases hmove with
    | add hopen => exact exists_play_add h hquiet hshows hopen
    | run token hfirst => exact exists_play_run h hquiet hshows token hfirst
    | cancel token =>
      refine ⟨[.cancel token], { hquiet with }, { hshows with cancelled := ?_ }⟩
      exact congrArg (token :: ·) hshows.cancelled
    | take own task rest htoken hqueue hfree =>
      exact exists_play_take h hquiet hshows htoken hqueue hfree
    | finish task ending => exact exists_play_finish h hquiet hshows task ending
    | release task hended => exact exists_play_release h hquiet hshows hended
  · rw [hsame]
    exact ⟨[], hquiet, hshows⟩

/-! ## Runs of the pool -/

theorem shows_play (h : p.Consistent) (hquiet : p.Quiet) (hshows : Shows p q)
    (calls : List Pool.Event) : ∃ events, Shows (p.play events) (q.play calls) := by
  induction calls generalizing p q with
  | nil => exact ⟨[], hshows⟩
  | cons e rest ih =>
    obtain ⟨first, hquiet', hshows'⟩ := exists_play_step h hquiet hshows e
    obtain ⟨later, hlater⟩ := ih (h.play first) hquiet' hshows'
    refine ⟨first ++ later, ?_⟩
    rw [play_append]
    exact hlater

/-- A pool shows what some run of a crew with as many workers leads to. -/
theorem exists_shows {concurrency : Nat} {start : Pool} (h : Pool.create concurrency = .ok start)
    (calls : List Pool.Event) :
    0 < concurrency ∧ ∃ events, Shows ((fresh concurrency).play events) (start.play calls) := by
  unfold Pool.create at h
  split at h
  · cases h
  · next hpos =>
    cases h
    have hfresh := consistent_fresh (Nat.pos_of_ne_zero hpos)
    have hquiet : (fresh concurrency).Quiet := ⟨rfl, rfl, List.not_mem_nil, List.not_mem_nil⟩
    exact ⟨Nat.pos_of_ne_zero hpos,
      shows_play hfresh hquiet ⟨rfl, rfl, rfl, .refl _, rfl, rfl, rfl, rfl⟩ calls⟩

end Crew

namespace Pool

open scoped List

/-- What holds of a pool between its calls. -/
structure Sound (p : Pool) : Prop where
  positive : 0 < p.concurrency
  bounded : p.busy.length ≤ p.concurrency
  fits : p.queue.length ≤ p.accepted
  /-- The queued tasks are the last ones. -/
  queued : p.queue = (List.range p.accepted).drop (p.accepted - p.queue.length)
  /-- The ones before them are in the hands of workers or counted off. -/
  started : p.busy.map Work.task ++ p.finished ~ List.range (p.accepted - p.queue.length)
  pending : p.pending = p.queue.length + p.busy.length

theorem sound_of_shows {p : Crew} {q : Pool} (h : p.Consistent) (hshows : Crew.Shows p q) :
    q.Sound := by
  have hrange : p.started ++ q.queue = List.range q.accepted := by
    rw [hshows.queue, ← h.inOrder, hshows.accepted]
    exact h.accepted_eq_range
  have hlength := congrArg List.length hrange
  rw [List.length_append, List.length_range] at hlength
  -- What has started and what is queued make up all accepted tasks, so the queue is a tail of them.
  have hcut : q.accepted - q.queue.length = p.started.length := by omega
  have hbusy : q.busy.map Work.task ~ p.running := by
    -- Seen from outside a task in hand is its number and whether it has ended; the number is what
    -- counts.
    have hview : ∀ works : List Work, (works.map Work.view).map Prod.fst = works.map Work.task := by
      intro works
      rw [List.map_map]
      rfl
    have hperm := hshows.busy.map Prod.fst
    rw [hview, hview] at hperm
    exact hperm
  refine ⟨?_, ?_, by omega, ?_, ?_, ?_⟩
  · rw [hshows.concurrency]
    exact h.positive
  · rw [hshows.length_busy, hshows.concurrency]
    exact h.length_running_le
  · rw [hcut, ← hrange, List.drop_left]
  · have hstarted : p.started = List.range p.started.length := by
      have htake := congrArg (List.take p.started.length) hrange
      rwa [List.take_left, List.take_range, Nat.min_eq_left (by omega)] at htake
    rw [hcut, ← hstarted, hshows.finished]
    -- The pool lists what was counted off latest first, the crew in the order in which it happened.
    calc
      q.busy.map Work.task ++ p.finished.reverse
      _ ~ p.running ++ p.finished.reverse := hbusy.append_right _
      _ ~ p.running ++ p.finished := (List.reverse_perm p.finished).append_left _
      _ ~ p.started := h.taken
  · have hpending := h.pending
    have hplaces := h.perm_accepted.length_eq
    simp only [List.length_append] at hplaces
    rw [hshows.pending, hshows.queue, hshows.length_busy]
    omega

/-- A pool is sound after any calls and steps of its workers. -/
theorem sound_play {concurrency : Nat} {start : Pool} (h : create concurrency = .ok start)
    (calls : List Event) : (start.play calls).Sound := by
  obtain ⟨hpos, events, hshows⟩ := Crew.exists_shows h calls
  exact sound_of_shows ((Crew.consistent_fresh hpos).play events) hshows

end Pool

end Telemetry

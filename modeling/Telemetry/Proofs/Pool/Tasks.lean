import Telemetry.Proofs.Pool.Calls

/-!
# The way of a task through a pool

`Orderly` is what holds of the tasks at every moment: each accepted one is at exactly one place,
they leave the queue in the order in which they came into it, and the counter counts those that are
not counted off. `Extends` says that none of this is taken back later, and `play_blind` that the
way in which tasks end has no influence on the others.
-/

namespace Telemetry

/-- A task in the hands of a worker, without the way it ended. -/
def Work.blind (w : Work) : Work := { w with ending := w.ending.map fun _ => .done }

/-- A worker that does not see how its task ended. -/
def Worker.blind : Worker → Worker
  | busy work => busy work.blind
  | point => point

namespace Crew

open scoped List

variable {p q r : Crew} {e : Event}

/-- What holds of the tasks of a pool at any moment. -/
structure Orderly (p : Crew) (concurrency : Nat) : Prop where
  /-- No more tasks run than there are workers. -/
  bounded : p.running.length ≤ concurrency
  /-- The accepted tasks are those that are queued, in the hands of a worker or counted off. -/
  placed : p.queued ++ p.running ++ p.finished ~ p.accepted
  /-- No task is at two of these places, or twice at one. -/
  once : (p.queued ++ p.running ++ p.finished).Nodup
  /-- Tasks start in the order in which they are accepted, each of them once. -/
  inOrder : p.started <+: p.accepted
  startedOnce : p.started.Nodup
  /-- No refused task starts, and none counts as accepted. -/
  refused : ∀ task ∈ p.refused, task ∉ p.started ∧ task ∉ p.accepted
  /-- The counter is the number of accepted tasks that are not counted off. -/
  pending : p.pending = (p.accepted.filter (· ∉ p.finished)).length
  /-- A worker that is about to count its task off does not find the counter at zero. -/
  counted : ∀ (worker task : Nat) (ending : Ending),
    p.workers[worker]? = some (.busy ⟨task, some ending⟩) → 0 < p.pending

/-- Nothing that has happened is taken back: a run that has taken the receiver keeps it, and tasks
keep their places in the order of acceptance, refusal, start and end. -/
structure Extends (p q : Crew) : Prop where
  concurrency : q.concurrency = p.concurrency
  claimed : ∀ token, p.claimed = some token → q.claimed = some token
  token : ∀ token, p.token = some token → q.token = some token
  cancelled : p.cancelled <:+ q.cancelled
  accepted : p.accepted <+: q.accepted
  refused : p.refused <+: q.refused
  started : p.started <+: q.started
  finished : p.finished <+: q.finished

/-! ## At any moment -/

/-- Calls that are not answered yes have other tasks. -/
theorem Consistent.disjoint_refused (h : p.Consistent) {task : Nat} (hrefused : task ∈ p.refused) :
    task ∉ p.accepted := by
  intro haccepted
  have hnodup : (p.accepted ++ p.refused ++ p.undecided).Nodup := by
    rw [h.numbered]
    exact List.nodup_range
  have hdisjoint := (List.nodup_append.1 (List.nodup_append.1 hnodup).1).2.2
  exact hdisjoint task haccepted task hrefused rfl

/-- Tasks are started in the order in which they were accepted. -/
theorem Consistent.started_prefix (h : p.Consistent) : p.started <+: p.accepted :=
  ⟨p.queued, h.inOrder.symm⟩

/-- The accepted tasks that are not counted off are as many as the counter says. -/
theorem Consistent.pending_eq (h : p.Consistent) :
    p.pending = (p.accepted.filter (· ∉ p.finished)).length := by
  have hlength := h.perm_accepted.length_eq
  have hperm := h.perm_accepted.filter (· ∉ p.finished)
  have hnodup := (List.nodup_append.1 h.nodup_places).2.2
  have hopen : (p.queued ++ p.running).filter (· ∉ p.finished) = p.queued ++ p.running := by
    refine List.filter_eq_self.2 fun task htask => decide_eq_true fun hmem => ?_
    exact hnodup task htask task hmem rfl
  have hdone : p.finished.filter (· ∉ p.finished) = [] :=
    List.filter_eq_nil_iff.2 fun task htask => by simpa using htask
  have hpending := h.pending
  rw [List.filter_append, hopen, hdone, List.append_nil] at hperm
  rw [← hperm.length_eq]
  rw [List.length_append] at hlength
  omega

/-- A consistent crew is orderly, so what a caller may rely on follows from the invariant. -/
theorem Consistent.orderly (h : p.Consistent) : p.Orderly p.concurrency where
  bounded := h.length_running_le
  placed := h.perm_accepted
  once := h.nodup_places
  inOrder := h.started_prefix
  startedOnce := h.nodup_accepted.sublist h.started_prefix.sublist
  refused := fun _ hrefused =>
    ⟨fun hstarted => h.disjoint_refused hrefused (h.started_prefix.subset hstarted),
      h.disjoint_refused hrefused⟩
  pending := h.pending_eq
  counted := fun _ _ _ hbusy => h.pending_pos hbusy

/-! ## From one moment to a later one -/

theorem Extends.refl (p : Crew) : p.Extends p :=
  ⟨rfl, fun _ => id, fun _ => id, List.suffix_rfl, List.prefix_rfl, List.prefix_rfl,
    List.prefix_rfl, List.prefix_rfl⟩

/-- What a later moment keeps it keeps of every earlier one. -/
theorem Extends.trans (h : p.Extends q) (h' : q.Extends r) : p.Extends r :=
  ⟨h'.concurrency.trans h.concurrency, fun t ht => h'.claimed t (h.claimed t ht),
    fun t ht => h'.token t (h.token t ht), h.cancelled.trans h'.cancelled,
    h.accepted.trans h'.accepted, h.refused.trans h'.refused, h.started.trans h'.started,
    h.finished.trans h'.finished⟩

/-- One event takes nothing back: it adds to one of the histories at most. -/
theorem Consistent.extends_of_moves (h : p.Consistent) (hmove : Moves p e q) : p.Extends q := by
  have hrefl := Extends.refl p
  cases hmove with
  | claim token hfirst =>
    refine { hrefl with claimed := fun own hown => ?_ }
    rw [hfirst] at hown
    cases hown
  | launch token hclaimed htoken =>
    refine { hrefl with token := fun own hown => ?_ }
    rw [htoken] at hown
    cases hown
  | cancel token => exact { hrefl with cancelled := List.suffix_cons _ _ }
  | refuse task => exact { hrefl with refused := List.prefix_append _ _ }
  | count task => exact { hrefl with accepted := List.prefix_append _ _ }
  -- A task is taken back where no worker is left, and no worker stops while a call is on its way.
  | takeBack task hcall hgone =>
    rw [h.hasReceiver_of_counted hcall] at hgone
    cases hgone
  | receive worker task => exact { hrefl with started := List.prefix_append _ _ }
  | countOff worker task => exact { hrefl with finished := List.prefix_append _ _ }
  | _ => exact { hrefl with }

/-- Every moment extends every earlier one. -/
theorem Consistent.extends_play (h : p.Consistent) (events : List Event) :
    p.Extends (p.play events) :=
  h.play_induction (.refl p) fun _ _ _ hq hpq hmove => hpq.trans (hq.extends_of_moves hmove)

/-! ## The way tasks end -/

/-- The same event, with no other end than the good one. -/
def Event.blind : Event → Event
  | finish worker _ => finish worker .done
  | e => e

/-- The same pool, whose workers do not see how tasks ended. -/
def blind (p : Crew) : Crew := { p with workers := p.workers.map Worker.blind }

theorem getElem?_blind (p : Crew) (worker : Nat) :
    p.blind.workers[worker]? = p.workers[worker]?.map Worker.blind := List.getElem?_map ..

theorem put_blind (p : Crew) (worker : Nat) (point : Worker) :
    (p.put worker point).blind = p.blind.put worker point.blind := by
  simp only [put, blind, List.map_set]

theorem contains_blind (p : Crew) :
    p.blind.workers.contains .receiving = p.workers.contains .receiving := by
  rw [Bool.eq_iff_iff, List.contains_iff_mem, List.contains_iff_mem]
  constructor
  · intro hmem
    obtain ⟨w, hw, hblind⟩ := List.mem_map.1 hmem
    cases w with
    | receiving => exact hw
    | _ => cases hblind
  · intro hmem
    exact List.mem_map.2 ⟨_, hmem, rfl⟩

theorem hasReceiver_blind (p : Crew) : p.blind.hasReceiver = p.hasReceiver := by
  have hstopped : ∀ w : Worker, decide (w.blind ≠ .stopped) = decide (w ≠ .stopped) := by
    intro w
    cases w <;> rfl
  have hany : p.blind.workers.any (· ≠ .stopped) = p.workers.any (· ≠ .stopped) := by
    rw [blind, List.any_map]
    exact congrArg p.workers.any (funext hstopped)
  rw [hasReceiver, hasReceiver, hany, blind, List.isEmpty_map]

/-- A worker comes to hold the receiver whatever way tasks have ended. -/
theorem lock_blind (p : Crew) (worker : Nat) :
    (p.lock worker).blind = p.blind.lock worker := by
  unfold lock
  rw [getElem?_blind, contains_blind]
  cases hworker : p.workers[worker]? with
  | none => rfl
  | some w =>
    cases w with
    | idle =>
      show Crew.blind (ite _ _ _) = ite _ _ _
      split
      · rfl
      · exact put_blind ..
    | _ => rfl

/-- A worker receives the same task. -/
theorem receive_blind (p : Crew) (worker : Nat) :
    (p.receive worker).blind = p.blind.receive worker := by
  unfold receive
  rw [getElem?_blind, show p.blind.channel = p.channel from rfl,
    show p.blind.hasSender = p.hasSender from rfl]
  cases hworker : p.workers[worker]? with
  | none => rfl
  | some w =>
    cases w with
    | receiving =>
      cases hchannel : p.channel with
      | nil =>
        show Crew.blind (ite _ _ _) = ite _ _ _
        split
        · rfl
        · exact put_blind ..
      | cons task rest =>
        show { (p.put worker (.busy ⟨task, none⟩)).blind with
          channel := rest, started := p.started ++ [task] } = _
        rw [put_blind]
        rfl
    | _ => rfl

/-- A task ends, whatever its ending is. -/
theorem finish_blind (p : Crew) (worker : Nat) (ending : Ending) :
    (p.finish worker ending).blind = p.blind.finish worker .done := by
  unfold finish
  rw [getElem?_blind]
  cases hworker : p.workers[worker]? with
  | none => rfl
  | some w =>
    cases w with
    | busy work =>
      obtain ⟨task, _ | own⟩ := work
      · exact put_blind ..
      · rfl
    | _ => rfl

/-- A task that has ended is counted off, whatever its ending was. -/
theorem countOff_blind (p : Crew) (worker : Nat) :
    (p.countOff worker).blind = p.blind.countOff worker := by
  unfold countOff
  rw [getElem?_blind]
  cases hworker : p.workers[worker]? with
  | none => rfl
  | some w =>
    cases w with
    | busy work =>
      obtain ⟨task, _ | own⟩ := work
      · rfl
      · show { (p.put worker .idle).blind with
          pending := p.pending - 1, finished := p.finished ++ [task] } = _
        rw [put_blind]
        rfl
    | _ => rfl

/-- An event leads to the same, up to the way tasks ended. -/
theorem step_blind (p : Crew) (e : Event) : (p.step e).blind = p.blind.step e.blind := by
  -- A caller never looks at a worker, and a worker looks at what is blind in itself as well.
  cases e with
  | enter =>
    show p.enter.blind = p.blind.enter
    unfold enter
    rw [show p.blind.call = p.call from rfl]
    cases p.call <;> rfl
  | look =>
    show p.look.blind = p.blind.look
    unfold look
    rw [show p.blind.call = p.call from rfl, show p.blind.isClosed = p.isClosed from rfl]
    split
    · rw [show p.blind.hasSender = p.hasSender from rfl]
      split <;> rfl
    · rfl
  | count =>
    show p.count.blind = p.blind.count
    unfold count
    rw [show p.blind.call = p.call from rfl]
    split <;> rfl
  | send =>
    show p.send.blind = p.blind.send
    unfold send
    rw [show p.blind.call = p.call from rfl, hasReceiver_blind]
    split
    · split <;> rfl
    · rfl
  | claim token =>
    show ((p.claim token).toOption.getD p).blind = (p.blind.claim token).toOption.getD p.blind
    unfold claim
    rw [show p.blind.claimed = p.claimed from rfl]
    cases p.claimed <;> rfl
  | launch =>
    show p.launch.blind = p.blind.launch
    unfold launch
    rw [show p.blind.claimed = p.claimed from rfl, show p.blind.token = p.token from rfl]
    split
    · simp only [blind, List.map_replicate]
      rfl
    · rfl
  | cancel token => rfl
  | close =>
    show p.close.blind = p.blind.close
    unfold close
    rw [show p.blind.call = p.call from rfl, show p.blind.isClosed = p.isClosed from rfl]
    split <;> rfl
  | lock worker => exact p.lock_blind worker
  | receive worker => exact p.receive_blind worker
  | finish worker ending => exact p.finish_blind worker ending
  | countOff worker => exact p.countOff_blind worker

/-- Two runs that differ in how tasks end go the same way for everybody who does not look at
endings. -/
theorem play_blind (p : Crew) (events : List Event) :
    (p.play events).blind = p.blind.play (events.map Event.blind) := by
  induction events generalizing p with
  | nil => rfl
  | cons e rest ih =>
    show ((p.step e).play rest).blind = (p.blind.step e.blind).play (rest.map Event.blind)
    rw [ih, step_blind]

/-! ## Every run -/

/-- In every order in which callers and workers may act, the tasks of a pool are orderly at any
moment, nothing that has happened to them is taken back, and the way tasks end makes no difference
to the rest. The calls of `Pool` are among these orders. -/
theorem orderly_play {concurrency : Nat} (hpos : 1 ≤ concurrency) :
    create concurrency = .ok (fresh concurrency) ∧
      (∀ events, ((fresh concurrency).play events).Orderly concurrency) ∧
      (∀ before after,
        ((fresh concurrency).play before).Extends ((fresh concurrency).play (before ++ after))) ∧
      (∀ events others, events.map Event.blind = others.map Event.blind →
        ((fresh concurrency).play events).blind = ((fresh concurrency).play others).blind) ∧
      ∀ start calls, Pool.create concurrency = .ok start →
        ∃ events, Shows ((fresh concurrency).play events) (start.play calls) := by
  have hfresh : (fresh concurrency).Consistent := consistent_fresh hpos
  refine ⟨if_neg (by omega), fun events => ?_, fun before after => ?_,
    fun events others hsame => ?_, fun start calls hstart => ?_⟩
  · have horderly := (hfresh.play events).orderly
    rw [(hfresh.extends_play events).concurrency] at horderly
    exact horderly
  · rw [play_append]
    exact (hfresh.play before).extends_play after
  · rw [play_blind, play_blind, hsame]
  · exact (exists_shows hstart calls).2

/-- Two workers and four calls: the second task panics, the third one is queued when the token is
cancelled, and the fourth one comes too late. -/
def mixedRun : List Event :=
  [.enter, .look, .count, .send, .claim 7, .launch, .lock 0, .receive 0,
    .enter, .look, .count, .lock 1, .send, .receive 1, .finish 1 .panicked,
    .enter, .look, .count, .send, .cancel 7, .countOff 1, .enter, .look]

/-- A run in which two workers have taken two of three tasks, one has panicked, and a call after the
cancellation is refused. -/
theorem orderly_mixedRun :
    1 ≤ 2 ∧ ((fresh 2).play mixedRun).Orderly 2 ∧
      ((fresh 2).play mixedRun).accepted = [0, 1, 2] ∧
      ((fresh 2).play mixedRun).refused = [3] ∧
      ((fresh 2).play mixedRun).queued = [2] ∧
      ((fresh 2).play mixedRun).running = [0] ∧
      ((fresh 2).play mixedRun).finished = [1] ∧
      ((fresh 2).play mixedRun).pending = 2 :=
  ⟨by decide, (orderly_play (by decide)).2.1 mixedRun, by decide, by decide, by decide, by decide,
    by decide, by decide⟩

end Crew

end Telemetry

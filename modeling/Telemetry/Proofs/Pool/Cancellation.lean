import Telemetry.Proofs.Pool.Closing
import Telemetry.Proofs.Pool.Drain
import Telemetry.Proofs.Pool.Waiting

/-!
# Cancellation and drain

What a caller may rely on who runs a pool, cancels its token and waits: `ClosesAndDrains` says it
for every order in which callers and workers act, and `Schedule.WaitsExactly` says when a wait is
over under a clock.
-/

namespace Telemetry

namespace Crew

variable {p : Crew}

/-! ## A fair order -/

/-- Everybody's turn once. -/
def turns (concurrency : Nat) : List Event :=
  .launch :: .send :: (List.range concurrency).flatMap fun worker =>
    [.lock worker, .receive worker, .finish worker .done, .countOff worker]

/-- Everybody's turn again and again. -/
def roundRobin (concurrency n : Nat) : Event :=
  (turns concurrency).getD (n % (turns concurrency).length) .launch

/-- Every turn of the round comes again after any moment. -/
theorem exists_roundRobin {concurrency : Nat} {e : Event} (he : e ∈ turns concurrency) (n : Nat) :
    ∃ m, n ≤ m ∧ roundRobin concurrency m = e := by
  obtain ⟨i, hi, rfl⟩ := List.getElem_of_mem he
  refine ⟨(turns concurrency).length * n + i, ?_, ?_⟩
  · have hle := Nat.le_mul_of_pos_left n (Nat.zero_lt_of_lt hi)
    omega
  · rw [roundRobin, Nat.mul_add_mod, Nat.mod_eq_of_lt hi, List.getD_eq_getElem _ _ hi]

/-- Taking turns is fair, so the hypothesis about fair orders can be met for any number of workers.
-/
theorem fair_roundRobin (concurrency : Nat) : Fair concurrency (roundRobin concurrency) := by
  refine ⟨exists_roundRobin List.mem_cons_self,
    exists_roundRobin (List.mem_cons_of_mem _ List.mem_cons_self), ?_⟩
  intro worker hworker point hpoint n
  have hturn : ∀ e ∈ [Event.lock worker, .receive worker, .finish worker .done, .countOff worker],
      ∃ m, n ≤ m ∧ roundRobin concurrency m = e := by
    intro e he
    refine exists_roundRobin (List.mem_cons_of_mem _ (List.mem_cons_of_mem _ ?_)) n
    exact List.mem_flatMap.2 ⟨worker, List.mem_range.2 hworker, he⟩
  -- What a worker has to do depends on where it stands, and its round holds each of its steps.
  cases point with
  | idle => exact hturn (.lock worker) (by simp)
  | receiving => exact hturn (.receive worker) (by simp)
  | busy work =>
    obtain ⟨task, _ | own⟩ := work
    · obtain ⟨m, hle, heq⟩ := hturn (.finish worker .done) (by simp)
      exact ⟨m, hle, .done, heq⟩
    · exact hturn (.countOff worker) (by simp)
  | stopped => exact absurd rfl hpoint

/-! ## What a caller may rely on -/

/-- The runs, calls and waits of a pool, in every order in which callers and workers act. -/
structure ClosesAndDrains (start : Crew) : Prop where
  /-- The receiver belongs to the first run. -/
  firstRun : ∀ events, (start.play events).claimed = events.findSome? Event.claims?
  accepts : ∀ events token, events.findSome? Event.claims? = none →
    (start.play events).claim token = .ok { start.play events with claimed := some token }
  /-- Every other run is refused and changes nothing. -/
  refuses : ∀ events token, (events.findSome? Event.claims?).isSome →
    (start.play events).claim token = .error .alreadyRunning ∧
      (start.play events).step (.claim token) = start.play events
  /-- Calls look at the token of the first run, and cancelling another one has no effect. -/
  ownToken : ∀ events token, (start.play events).token = some token →
    events.findSome? Event.claims? = some token
  otherTokens : ∀ before after token,
    (before ++ after).findSome? Event.claims? ≠ some token →
      DifferIn token (start.play (before ++ after))
          (start.play (before ++ .cancel token :: after)) ∧
        (start.play (before ++ .cancel token :: after)).isClosed =
          (start.play (before ++ after)).isClosed
  /-- Once the token is cancelled that the launch has set, a later call is refused as soon as it
  looks. A run claims the receiver first and sets its token when it launches the workers; until then
  calls look at no token. -/
  closed : ∀ before after task, (start.play before).isClosed = true →
    (start.play before).calls ≤ task → task < (start.play (before ++ after)).calls →
      (start.play (before ++ after)).answer? task = some (.error .closed) ∨
        (start.play (before ++ after)).call = some ⟨task, .entered⟩ ∧
          ((start.play (before ++ after)).step .look).answer? task = some (.error .closed)
  /-- No call is refused before the token that the launch has set is cancelled. -/
  onlyThen : ∀ events task, (start.play events).answer? task = some (.error .closed) →
    (start.play events).isClosed = true
  /-- As long as that token is not cancelled, a call is accepted. -/
  brought : ∀ events, (start.play events).call = none → (start.play events).isClosed = false →
    (start.play (events ++ [.enter, .look, .count, .send])).answer? (start.play events).calls
      = some (.ok ())
  /-- So is one between the claim and the launch of a run, although the token of the run may be
  cancelled already; its task is accepted and will be executed like the others. -/
  early : ∀ events, (start.play events).call = none → (start.play events).token = none →
    (start.play (events ++ [.enter, .look, .count, .send])).answer? (start.play events).calls
      = some (.ok ()) ∧
    (start.play events).calls ∈ (start.play (events ++ [.enter, .look, .count, .send])).accepted
  /-- Every accepted task is executed, whether the token is cancelled or not. -/
  executed : ∀ events, (start.play events).claimed.isSome →
    ∀ later, Fair start.concurrency later → ∀ task ∈ (start.play events).accepted,
      ∃ n, ∀ m, n ≤ m → task ∈ ((start.play events).moment later m).finished
  /-- When a wait is over, every task accepted before it began is counted off. -/
  waited : ∀ before after, (start.play (before ++ after)).isDrained = true →
    ∀ task ∈ (start.play before).accepted, task ∈ (start.play (before ++ after)).finished

/-- What a caller may rely on, part by part, from the moment a pool is made. -/
theorem closesAndDrains_fresh {concurrency : Nat} (hpos : 0 < concurrency) :
    (fresh concurrency).ClosesAndDrains := by
  have hfresh : (fresh concurrency).Consistent := consistent_fresh hpos
  have hclaimed : ∀ events, ((fresh concurrency).play events).claimed
      = events.findSome? Event.claims? := fun events => claimed_play _ events
  refine ⟨hclaimed, fun events token hnone => ?_, fun events token hsome => ?_,
    fun events token htoken => ?_, fun before after token hother => ?_,
    fun before after task hclosed hle hlt => ?_, fun events task => ?_,
    fun events hcall hopen => ?_, fun events hcall hnone => ?_,
    fun events hrun later hfair task htask => ?_, fun before after hdrained task htask => ?_⟩
  · rw [claim, (hclaimed events).trans hnone]
  · obtain ⟨own, hown⟩ := Option.isSome_iff_exists.1 hsome
    have hrefused : ((fresh concurrency).play events).claim token = .error .alreadyRunning := by
      rw [claim, (hclaimed events).trans hown]
    refine ⟨hrefused, ?_⟩
    rw [step, hrefused]
    rfl
  -- A token that was launched was claimed before.
  · have hsame := (hfresh.play events).claimed (by rw [htoken]; rfl)
    rw [← hclaimed, hsame, htoken]
  -- The pool looks at its own token only.
  · rw [← hclaimed, play_append] at hother
    rw [play_append, play_append]
    exact (hfresh.play before).differIn_cancel hother
  · rw [play_append] at hlt ⊢
    exact (hfresh.play before).answer_of_closed hclosed after hle hlt
  · exact (hfresh.play events).isClosed_of_answer
  · rw [play_append]
    exact (hfresh.play events).answer_of_open hcall hopen
  -- Before a token is set there is none that could be cancelled.
  · have hopen : ((fresh concurrency).play events).isClosed = false := by rw [isClosed, hnone]
    rw [play_append]
    refine ⟨(hfresh.play events).answer_of_open hcall hopen, ?_⟩
    rw [play_bring (hfresh.play events) hcall hopen]
    exact List.mem_append_right _ (List.mem_singleton_self _)
  -- The order is fair to as many workers as the pool still has.
  · refine (hfresh.play events).exists_finished ?_ hrun htask
    rw [(hfresh.extends_play events).concurrency]
    exact hfair
  · have haccepted := ((hfresh.play before).extends_play after).accepted
    rw [← play_append] at haccepted
    exact (hfresh.play (before ++ after)).finished_of_isDrained hdrained (haccepted.subset htask)

/-- Exactly the first run is accepted, cancelling its token closes the pool and nothing else does,
every accepted task is executed, and a wait is over when nothing is pending; under a clock that is
the latest end of the tasks that were pending. -/
theorem pool_closes_and_drains {concurrency : Nat} (hpos : 1 ≤ concurrency) :
    create concurrency = .ok (fresh concurrency) ∧ (fresh concurrency).ClosesAndDrains ∧
      ∀ start actions, Schedule.create concurrency = .ok start →
        (start.play actions).pool.token.isSome → (start.play actions).WaitsExactly :=
  ⟨if_neg (by omega), closesAndDrains_fresh hpos, fun _ actions hcreate htoken =>
    ((Schedule.valid_create hcreate).play actions).waitsExactly htoken⟩

/-- A task comes before the run, whose token is already cancelled; another run follows. -/
def lateRun : List Event :=
  [.enter, .look, .count, .send, .cancel 7, .claim 7, .claim 8, .launch]

/-- Three tasks for two workers; the second one panics. -/
def threeTasks : List Schedule.Action :=
  [.add ⟨30, .done⟩, .add ⟨10, .panicked⟩, .run 7, .sleep 5, .add ⟨25, .failed⟩, .cancel 7]

/-- The queued task of the late run is executed, a call after it is refused, and a wait for the
three tasks is over when the third one ends, which starts after the second one. -/
theorem pool_closes_and_drains_lateRun :
    1 ≤ 1 ∧ 1 ≤ 2 ∧
      (∃ n, ∀ m, n ≤ m → 0 ∈ (((fresh 1).play lateRun).moment (roundRobin 1) m).finished) ∧
      ((fresh 1).play lateRun).claim 9 = .error .alreadyRunning ∧
      ((fresh 1).play (lateRun ++ [.enter, .look])).answer? 1 = some (.error .closed) ∧
      ∃ start, Schedule.create 2 = .ok start ∧ (start.play threeTasks).pool.token.isSome ∧
        (start.play threeTasks).WaitsExactly ∧ ((start.play threeTasks).wait 100).2.now = 35 :=
  ⟨by decide, by decide,
    (pool_closes_and_drains (by decide)).2.1.executed lateRun rfl (roundRobin 1)
      (fair_roundRobin 1) 0 (by decide),
    ((pool_closes_and_drains (by decide)).2.1.refuses lateRun 9 rfl).1, rfl, _, rfl, rfl,
    (pool_closes_and_drains (show 1 ≤ 2 by decide)).2.2 _ threeTasks rfl rfl, rfl⟩

end Crew

end Telemetry

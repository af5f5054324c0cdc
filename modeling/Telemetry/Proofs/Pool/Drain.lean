import Telemetry.Proofs.Pool.Tasks

/-!
# Every accepted task is executed

An endless order of events is `Fair` if whoever can go on does so at some time, and every task ends.
In such an order every accepted task is counted off at some moment, once a run has taken the
receiver. Whether the token is cancelled, before the run or after it, makes no difference.

A worker stays at its point until its turn comes (`exists_turn`), so a task in hand is counted off.
As long as the channel is not empty no worker stops, so some worker comes to hold the receiver and
receives (`exists_started`).
-/

namespace Telemetry

namespace Crew

variable {p q : Crew} {e : Event} {events : Nat → Event}

/-- The event by which a worker goes on from a point of its loop. -/
def Event.IsTurn (worker : Nat) : Worker → Event → Prop
  | .idle, e => e = .lock worker
  | .receiving, e => e = .receive worker
  | .busy ⟨_, none⟩, e => ∃ ending, e = .finish worker ending
  | .busy ⟨_, some _⟩, e => e = .countOff worker
  | .stopped, _ => False

/-- An order in which nobody waits for ever who can go on, and in which every task ends. -/
structure Fair (concurrency : Nat) (events : Nat → Event) : Prop where
  launch : ∀ n, ∃ m, n ≤ m ∧ events m = .launch
  send : ∀ n, ∃ m, n ≤ m ∧ events m = .send
  work : ∀ worker < concurrency, ∀ point ≠ Worker.stopped, ∀ n,
    ∃ m, n ≤ m ∧ (events m).IsTurn worker point

/-- The pool after the first `n` events. -/
def moment (p : Crew) (events : Nat → Event) (n : Nat) : Crew :=
  p.play ((List.range n).map events)

theorem moment_succ (p : Crew) (events : Nat → Event) (n : Nat) :
    p.moment events (n + 1) = (p.moment events n).step (events n) := by
  rw [moment, List.range_succ, List.map_append, play_append]
  rfl

theorem Consistent.moment (h : p.Consistent) (events : Nat → Event) (n : Nat) :
    (p.moment events n).Consistent := h.play _

theorem Consistent.extends_step (h : p.Consistent) (e : Event) : p.Extends (p.step e) :=
  h.extends_play [e]

/-- Later moments of an endless run extend earlier ones. -/
theorem Consistent.extends_moment (h : p.Consistent) (events : Nat → Event) {n m : Nat}
    (hle : n ≤ m) : (p.moment events n).Extends (p.moment events m) := by
  induction hle with
  | refl => exact .refl _
  | step hle ih =>
    rw [moment_succ]
    exact ih.trans ((h.moment events _).extends_step _)

/-- What stays true until an event comes that is owed is true when it comes. -/
theorem exists_first (P : Nat → Prop) (owed : Event → Prop) {n : Nat}
    (howed : ∃ m, n ≤ m ∧ owed (events m)) (hn : P n)
    (hkeep : ∀ m, P m → ¬ owed (events m) → P (m + 1)) :
    ∃ m, n ≤ m ∧ P m ∧ owed (events m) := by
  obtain ⟨m, hle, hm⟩ := howed
  -- On the way that is left.
  induction hleft : m - n generalizing n with
  | zero =>
    obtain rfl : n = m := by omega
    exact ⟨n, Nat.le_refl n, hn, hm⟩
  | succ left ih =>
    by_cases hnow : owed (events n)
    · exact ⟨n, Nat.le_refl n, hn, hnow⟩
    · obtain ⟨l, hl, hboth⟩ := ih (hkeep n hn hnow) (by omega) (by omega)
      exact ⟨l, by omega, hboth⟩

/-! ## The turns of a worker -/

/-- A worker stays where it is until its turn comes. -/
theorem Consistent.getElem?_step (h : p.Consistent) {worker : Nat} {point : Worker}
    (hpoint : p.workers[worker]? = some point) (hturn : ¬ e.IsTurn worker point) :
    (p.step e).workers[worker]? = some point := by
  rcases step_cases p e with hmove | hsame
  · -- Only a worker that acts goes on, and the one that acts has its turn.
    have hput : ∀ {other : Nat} {old : Worker} (new : Worker), p.workers[other]? = some old →
        (other = worker → e.IsTurn worker old) →
        (p.put other new).workers[worker]? = some point := by
      intro other old new hold hown
      by_cases hother : other = worker
      · subst hother
        rw [hold] at hpoint
        cases hpoint
        exact absurd (hown rfl) hturn
      · exact (List.getElem?_set_ne hother).trans hpoint
    generalize hq : p.step e = q at hmove
    cases hmove with
    | launch token hclaimed htoken =>
      rw [h.workers_eq_nil htoken] at hpoint
      cases hpoint
    | lock other hidle => exact hput _ hidle (by rintro rfl; rfl)
    | receive other task rest hholds => exact hput _ hholds (by rintro rfl; rfl)
    | stop other hholds => exact hput _ hholds (by rintro rfl; rfl)
    | finish other task ending hbusy => exact hput _ hbusy (by rintro rfl; exact ⟨ending, rfl⟩)
    | countOff other task ending hbusy => exact hput _ hbusy (by rintro rfl; rfl)
    | _ => exact hpoint
  · rw [hsame]
    exact hpoint

/-- The turn of a worker comes. -/
theorem Consistent.exists_turn (h : p.Consistent) (hfair : Fair p.concurrency events)
    {n worker : Nat} {point : Worker} (hpoint : (p.moment events n).workers[worker]? = some point)
    (hrunning : point ≠ .stopped) :
    ∃ m, n ≤ m ∧ (p.moment events m).workers[worker]? = some point ∧
      (events m).IsTurn worker point := by
  have hworker : worker < p.concurrency := by
    have hlt := (List.getElem?_eq_some_iff.1 hpoint).1
    have hcrewed := (h.moment events n).crewed
    have hconcurrency := (h.extends_moment events (Nat.zero_le n)).concurrency
    rw [show (p.moment events 0).concurrency = p.concurrency from rfl] at hconcurrency
    split at hcrewed <;> omega
  refine exists_first (fun m => (p.moment events m).workers[worker]? = some point)
    (·.IsTurn worker point) (hfair.work worker hworker point hrunning n) hpoint fun m hm hturn => ?_
  rw [moment_succ]
  exact (h.moment events m).getElem?_step hm hturn

/-- A worker counts the task in its hands off, and waits for the receiver again. -/
theorem Consistent.exists_countOff (h : p.Consistent) (hfair : Fair p.concurrency events)
    {n worker : Nat} {work : Work}
    (hbusy : (p.moment events n).workers[worker]? = some (.busy work)) :
    ∃ m, n ≤ m ∧ (p.moment events m).workers[worker]? = some .idle ∧
      work.task ∈ (p.moment events m).finished := by
  obtain ⟨task, ending⟩ := work
  -- First it ends, if it has not ended yet.
  obtain ⟨m, own, hle, hended⟩ : ∃ m own, n ≤ m ∧
      (p.moment events m).workers[worker]? = some (.busy ⟨task, some own⟩) := by
    cases ending with
    | some own => exact ⟨n, own, Nat.le_refl n, hbusy⟩
    | none =>
      obtain ⟨m, hle, hm, own, hturn⟩ := h.exists_turn hfair hbusy (by simp)
      refine ⟨m + 1, own, by omega, ?_⟩
      rw [moment_succ, hturn, step, finish_eq hm own]
      exact getElem?_put hm _
  obtain ⟨l, hle', hl, hturn⟩ := h.exists_turn hfair hended (by simp)
  have hstep : p.moment events (l + 1) = (p.moment events l).countOff worker := by
    rw [moment_succ, hturn]
    rfl
  refine ⟨l + 1, by omega, ?_, ?_⟩
  · rw [hstep, countOff_eq hl]
    exact getElem?_put hl _
  · rw [hstep, countOff_eq hl]
    exact List.mem_append_right _ List.mem_cons_self

/-! ## The next task starts -/

/-- A channel with a task in it keeps it until a worker receives. -/
theorem channel_step (hchannel : p.channel ≠ []) (e : Event) :
    (p.step e).channel ≠ [] ∨ p.started.length < (p.step e).started.length := by
  rcases step_cases p e with hmove | hsame
  · generalize p.step e = q at hmove
    cases hmove with
    | send => exact .inl (by simp)
    | receive => exact .inr (by simp)
    | _ => exact .inl hchannel
  · rw [hsame]
    exact .inl hchannel

/-- A worker that holds the receiver receives, unless another one has. -/
theorem Consistent.started_of_receiving (h : p.Consistent) (hfair : Fair p.concurrency events)
    {n worker : Nat} (hholds : (p.moment events n).workers[worker]? = some .receiving)
    (hchannel : ∀ m, n ≤ m → (p.moment events m).channel ≠ []) :
    ∃ m, n ≤ m ∧ (p.moment events n).started.length < (p.moment events m).started.length := by
  obtain ⟨m, hle, hm, hturn⟩ := h.exists_turn hfair hholds (by simp)
  obtain ⟨task, rest, htask⟩ := List.exists_cons_of_ne_nil (hchannel m hle)
  have hearly := (h.extends_moment events hle).started.length_le
  refine ⟨m + 1, by omega, ?_⟩
  rw [moment_succ, hturn, step, receive_eq hm htask]
  show _ < ((p.moment events m).started ++ [task]).length
  rw [List.length_append, List.length_singleton]
  omega

/-- A call that has counted its task stands there until it sends it. -/
theorem sending_step (hsending : p.sending ≠ []) (hother : e ≠ .send) :
    (p.step e).sending ≠ [] := by
  rcases step_cases p e with hmove | hsame
  · generalize p.step e = q at hmove
    cases hmove with
    | enter hcall => exact absurd (by rw [sending, hcall]) hsending
    | letIn task hcall => exact absurd (by rw [sending, hcall]) hsending
    | refuse task hcall => exact absurd (by rw [sending, hcall]) hsending
    | count task hcall => exact absurd (by rw [sending, hcall]) hsending
    | send => exact absurd rfl hother
    | takeBack => exact absurd rfl hother
    | _ => exact hsending
  · rw [hsame]
    exact hsending

/-- A task that is counted is sent some time, since the call has its turn again. -/
theorem Consistent.exists_send (h : p.Consistent) (hfair : Fair p.concurrency events) {n : Nat}
    (hsending : (p.moment events n).sending ≠ []) :
    ∃ m, n ≤ m ∧ (p.moment events m).channel ≠ [] := by
  obtain ⟨m, hle, hm, hsend⟩ := exists_first (fun m => (p.moment events m).sending ≠ [])
    (· = .send) (hfair.send n) hsending fun m hm hother => by
      rw [moment_succ]
      exact sending_step hm hother
  refine ⟨m + 1, by omega, ?_⟩
  rw [moment_succ, hsend]
  have hconsistent := h.moment events m
  generalize p.moment events m = q at hm hconsistent
  show q.send.channel ≠ []
  unfold sending at hm
  split at hm
  · next task hcall =>
    rw [send, hcall]
    simp only [hconsistent.hasReceiver_of_counted hcall, if_true]
    exact List.append_ne_nil_of_right_ne_nil _ (List.cons_ne_nil _ _)
  · exact absurd rfl hm

/-- As long as a task is queued, another one starts. -/
theorem Consistent.exists_started (h : p.Consistent) (hfair : Fair p.concurrency events) {n : Nat}
    (htoken : (p.moment events n).token.isSome) (hqueued : (p.moment events n).queued ≠ []) :
    ∃ m, n ≤ m ∧ (p.moment events n).started.length < (p.moment events m).started.length := by
  refine Classical.byContradiction fun hnone => ?_
  have hnever : ∀ m, n ≤ m →
      (p.moment events m).started.length = (p.moment events n).started.length := by
    intro m hle
    have hearly := (h.extends_moment events hle).started.length_le
    have hnot : ¬ (p.moment events n).started.length < (p.moment events m).started.length :=
      fun hlt => hnone ⟨m, hle, hlt⟩
    omega
  -- From some moment on the channel is never empty.
  obtain ⟨k, hk, hchannel⟩ : ∃ k, n ≤ k ∧ (p.moment events k).channel ≠ [] := by
    by_cases hempty : (p.moment events n).channel = []
    · refine h.exists_send hfair fun hsending => hqueued ?_
      rw [queued, hempty, hsending]
      rfl
    · exact ⟨n, Nat.le_refl n, hempty⟩
  have hfull : ∀ m, k ≤ m → (p.moment events m).channel ≠ [] := by
    intro m hle
    induction hle with
    | refl => exact hchannel
    | @step m hle ih =>
      have hkm : k ≤ m := hle
      rw [moment_succ]
      refine (channel_step ih (events m)).resolve_right fun hlt => ?_
      have hbefore := hnever m (by omega)
      have hafter := hnever (m + 1) (by omega)
      rw [moment_succ] at hafter
      omega
  have hholds : ∀ m (worker : Nat), k ≤ m →
      (p.moment events m).workers[worker]? ≠ some .receiving := by
    intro m worker hle hholds
    obtain ⟨l, hl, hlt⟩ := h.started_of_receiving hfair hholds fun l hl => hfull l (by omega)
    rw [hnever l (by omega), hnever m (by omega)] at hlt
    omega
  -- So the first worker comes to wait for the receiver.
  obtain ⟨m, hm, hidle⟩ : ∃ m, k ≤ m ∧ (p.moment events m).workers[0]? = some .idle := by
    have hconsistent := h.moment events k
    obtain ⟨token, htoken⟩ := Option.isSome_iff_exists.1 htoken
    have hsome := (h.extends_moment events hk).token token htoken
    have hlt : 0 < (p.moment events k).workers.length := by
      rw [hconsistent.crewed, hsome]
      exact hconsistent.positive
    have hfirst := List.getElem?_eq_getElem hlt
    cases hpoint : (p.moment events k).workers[0] with
    | idle => exact ⟨k, Nat.le_refl k, by rw [hfirst, hpoint]⟩
    | receiving => exact absurd (by rw [hfirst, hpoint]) (hholds k 0 (Nat.le_refl k))
    | busy work =>
      obtain ⟨m, hm, hidle, -⟩ := h.exists_countOff hfair (hfirst.trans (by rw [hpoint]))
      exact ⟨m, hm, hidle⟩
    | stopped =>
      have hmem : .stopped ∈ (p.moment events k).workers := hpoint ▸ List.getElem_mem hlt
      exact absurd (hconsistent.stopped hmem).2 hchannel
  -- When it comes to its turn it takes the receiver, since nobody holds it.
  obtain ⟨l, hl, hidle, hturn⟩ := h.exists_turn hfair hidle (by simp)
  have hfree : .receiving ∉ (p.moment events l).workers := by
    intro hmem
    obtain ⟨worker, hworker⟩ := List.getElem?_of_mem hmem
    exact hholds l worker (by omega) hworker
  refine hholds (l + 1) 0 (by omega) ?_
  rw [moment_succ, hturn, step, lock_eq hidle hfree]
  exact getElem?_put hidle _

/-! ## Every task is counted off -/

/-- As many tasks start as have been accepted. -/
theorem Consistent.exists_all_started (h : p.Consistent) (hfair : Fair p.concurrency events)
    {n : Nat} (htoken : (p.moment events n).token.isSome) {k : Nat}
    (hk : k ≤ (p.moment events n).accepted.length) :
    ∃ m, n ≤ m ∧ k ≤ (p.moment events m).started.length := by
  induction k with
  | zero => exact ⟨n, Nat.le_refl n, Nat.zero_le _⟩
  | succ k ih =>
    obtain ⟨m, hle, hm⟩ := ih (by omega)
    have haccepted := (h.extends_moment events hle).accepted.length_le
    have horder := congrArg List.length (h.moment events m).inOrder
    rw [List.length_append] at horder
    by_cases hqueued : (p.moment events m).queued = []
    · rw [hqueued, List.length_nil] at horder
      exact ⟨m, hle, by omega⟩
    · obtain ⟨token, htoken⟩ := Option.isSome_iff_exists.1 htoken
      have hsome := (h.extends_moment events hle).token token htoken
      obtain ⟨l, hl, hlt⟩ := h.exists_started hfair (by rw [hsome]; rfl) hqueued
      exact ⟨l, by omega, by omega⟩

/-- The run that has taken the receiver starts the workers. -/
theorem Consistent.exists_launch (h : p.Consistent) (hfair : Fair p.concurrency events)
    (hclaimed : p.claimed.isSome) : ∃ n, (p.moment events n).token.isSome := by
  obtain ⟨m, -, hlaunch⟩ := hfair.launch 0
  obtain ⟨token, hclaimed⟩ := Option.isSome_iff_exists.1 hclaimed
  have hsome := (h.extends_moment events (Nat.zero_le m)).claimed token hclaimed
  refine ⟨m + 1, ?_⟩
  rw [moment_succ, hlaunch, step, Crew.launch, hsome]
  cases htoken : (p.moment events m).token with
  | none => rfl
  | some own =>
    show (p.moment events m).token.isSome
    rw [htoken]
    rfl

/-- Every accepted task is counted off at some moment, once a run has taken the receiver. -/
theorem Consistent.exists_finished (h : p.Consistent) (hfair : Fair p.concurrency events)
    (hclaimed : p.claimed.isSome) {task : Nat} (htask : task ∈ p.accepted) :
    ∃ n, ∀ m, n ≤ m → task ∈ (p.moment events m).finished := by
  have hlater : ∀ {n}, task ∈ (p.moment events n).finished →
      ∃ n, ∀ m, n ≤ m → task ∈ (p.moment events m).finished :=
    fun {n} hn => ⟨n, fun m hm => (h.extends_moment events hm).finished.subset hn⟩
  obtain ⟨n, htoken⟩ := h.exists_launch hfair hclaimed
  have haccepted := (h.extends_moment events (Nat.zero_le n)).accepted
  obtain ⟨m, hle, hlength⟩ := h.exists_all_started hfair htoken haccepted.length_le
  have hconsistent := h.moment events m
  -- The tasks accepted at first are the first ones to start.
  have hearly : p.accepted <+: (p.moment events m).started :=
    List.prefix_of_prefix_length_le
      (haccepted.trans (h.extends_moment events hle).accepted) hconsistent.started_prefix hlength
  rcases List.mem_append.1 (hconsistent.taken.mem_iff.2 (hearly.subset htask)) with hrun | hdone
  · obtain ⟨work, hwork, rfl⟩ := List.mem_map.1 hrun
    obtain ⟨worker, ending, hworker, -⟩ :=
      exists_worker_of_mem_view (List.mem_map_of_mem hwork)
    obtain ⟨l, -, -, hdone⟩ := h.exists_countOff hfair hworker
    exact hlater hdone
  · exact hlater hdone

end Crew

end Telemetry

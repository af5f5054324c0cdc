import Telemetry.Proofs.Pool.Tasks

/-!
# Runs, tokens and the end of acceptance

The first run takes the receiver and every other one is refused. The token of a refused run is one
that nobody looks at (`differIn_cancel`). Once the token of the run is cancelled no call finds the
sender that has not found it before, so the tasks of later calls are refused (`answer_of_closed`),
and no task is refused before.
-/

namespace Telemetry

namespace Crew

variable {p q : Crew} {e : Event}

/-! ## The first run -/

/-- The token of a call of the run. -/
def Event.claims? : Event → Option Nat
  | claim token => some token
  | _ => none

/-- The first run claims the pool, and no later event changes that. -/
theorem claimed_step (p : Crew) (e : Event) : (p.step e).claimed = p.claimed.or e.claims? := by
  have hother : ∀ {e}, e.claims? = none → (p.step e).claimed = p.claimed.or e.claims? := by
    intro e he
    rw [he, Option.or_none]
    rcases step_cases p e with hmove | hsame
    · generalize p.step e = q at hmove
      cases hmove with
      | claim token => cases he
      | _ => rfl
    · rw [hsame]
  -- A claim is looked at by itself; every other event leaves what was claimed.
  cases e with
  | claim token =>
    show ((p.claim token).toOption.getD p).claimed = _
    unfold claim
    cases hclaimed : p.claimed with
    | none => rfl
    | some own => exact hclaimed
  | _ => exact hother rfl

/-- The receiver belongs to the first run. -/
theorem claimed_play (p : Crew) (events : List Event) :
    (p.play events).claimed = p.claimed.or (events.findSome? Event.claims?) := by
  induction events generalizing p with
  | nil => exact Option.or_none.symm
  | cons e rest ih =>
    show ((p.step e).play rest).claimed = _
    rw [ih, claimed_step, Option.or_assoc, List.findSome?_cons]
    cases e.claims? <;> rfl

/-! ## Tokens nobody looks at -/

/-- As long as the list of cancelled tokens gives the same answer, nothing else depends on it. -/
theorem step_with_cancelled {cancelled : List Nat} (e : Event) (hother : ∀ t, e ≠ .cancel t)
    (hsame : isClosed { p with cancelled } = p.isClosed) :
    step { p with cancelled } e = { p.step e with cancelled } := by
  -- `look` and `close` ask whether the pool is closed, and nothing else looks at the cancelled
  -- tokens.
  cases e with
  | enter =>
    simp only [step, enter]
    split <;> rfl
  | look =>
    simp only [step, look, hsame]
    split
    · split <;> rfl
    · rfl
  | count =>
    simp only [step, count]
    split <;> rfl
  | send =>
    simp only [step, send]
    split
    · rw [show hasReceiver { p with cancelled } = p.hasReceiver from rfl]
      split <;> rfl
    · rfl
  | claim token =>
    simp only [step, claim]
    split <;> rfl
  | launch =>
    simp only [step, launch]
    split <;> rfl
  | cancel token => exact absurd rfl (hother token)
  | close =>
    simp only [step, close, hsame]
    split <;> rfl
  | lock worker =>
    simp only [step, lock]
    split
    · split <;> rfl
    · rfl
  | receive worker =>
    simp only [step, receive]
    split
    · split
      · rfl
      · split <;> rfl
    · rfl
  | finish worker ending =>
    simp only [step, finish]
    split <;> rfl
  | countOff worker =>
    simp only [step, countOff]
    split <;> rfl

/-- Only a cancellation changes which tokens are cancelled. -/
theorem cancelled_step (hother : ∀ t, e ≠ .cancel t) : (p.step e).cancelled = p.cancelled := by
  rcases step_cases p e with hmove | hsame
  · generalize p.step e = q at hmove
    cases hmove with
    | cancel token => exact absurd rfl (hother token)
    | _ => rfl
  · rw [hsame]

/-- Two pools that differ in nothing but whether one token is cancelled. -/
structure DifferIn (token : Nat) (p q : Crew) : Prop where
  same : q = { p with cancelled := q.cancelled }
  others : ∀ other, other ≠ token → (other ∈ q.cancelled ↔ other ∈ p.cancelled)

/-- Nobody sees the difference if the token is not the one of the run. -/
theorem DifferIn.isClosed {token : Nat} (h : DifferIn token p q) (hother : p.token ≠ some token) :
    q.isClosed = p.isClosed := by
  rw [h.same]
  unfold Crew.isClosed
  cases htoken : p.token with
  | none => rfl
  | some own =>
    have hne : own ≠ token := fun heq => hother (by rw [htoken, heq])
    show q.cancelled.contains own = p.cancelled.contains own
    rw [Bool.eq_iff_iff, List.contains_iff_mem, List.contains_iff_mem]
    exact h.others own hne

/-- Two crews that differ in one cancelled token go on differing in that only, as long as it is not
the token of the pool. -/
theorem DifferIn.step {token : Nat} (h : DifferIn token p q) (hother : p.token ≠ some token)
    (e : Event) : DifferIn token (p.step e) (q.step e) := by
  -- A cancellation is the one event that looks at the list the two differ in.
  by_cases hcancel : ∃ t, e = .cancel t
  · obtain ⟨t, rfl⟩ := hcancel
    refine ⟨?_, fun other hne => ?_⟩
    · show q.cancel t = _
      rw [h.same]
      rfl
    · show other ∈ t :: q.cancelled ↔ other ∈ t :: p.cancelled
      rw [List.mem_cons, List.mem_cons, h.others other hne]
  · have hnone : ∀ t, e ≠ .cancel t := fun t ht => hcancel ⟨t, ht⟩
    have hclosed : Crew.isClosed { p with cancelled := q.cancelled } = p.isClosed := by
      rw [← h.same]
      exact h.isClosed hother
    have hstep := step_with_cancelled e hnone hclosed
    rw [← h.same] at hstep
    refine ⟨?_, fun other hne => ?_⟩
    · rw [cancelled_step hnone]
      exact hstep
    · rw [cancelled_step hnone, cancelled_step hnone]
      exact h.others other hne

/-- Calls look at the token of the run that has taken the receiver. -/
theorem Consistent.token_ne (h : p.Consistent) {token : Nat} (hother : p.claimed ≠ some token) :
    p.token ≠ some token := by
  intro htoken
  have hsame := h.claimed (by rw [htoken]; rfl)
  exact hother (hsame.trans htoken)

/-- Cancelling a token that is not the one of the run has no effect. -/
theorem Consistent.differIn_cancel (h : p.Consistent) {token : Nat} {after : List Event}
    (hother : (p.play after).claimed ≠ some token) :
    DifferIn token (p.play after) (p.play (.cancel token :: after)) ∧
      (p.play (.cancel token :: after)).isClosed = (p.play after).isClosed := by
  have hplay : ∀ {p q : Crew}, p.Consistent → (p.play after).claimed ≠ some token →
      DifferIn token p q → DifferIn token (p.play after) (q.play after) := by
    clear hother
    induction after with
    | nil => exact fun _ _ hdiffer => hdiffer
    | cons e rest ih =>
      intro p q h hother hdiffer
      -- A run that has taken the receiver keeps it, so none has taken it with this token so far.
      have hnow : p.claimed ≠ some token :=
        fun hclaimed => hother ((h.extends_play (e :: rest)).claimed token hclaimed)
      exact ih (h.play [e]) hother (hdiffer.step (h.token_ne hnow) e)
  have hstart : DifferIn token p (p.cancel token) := by
    refine ⟨rfl, fun other hne => ?_⟩
    show other ∈ token :: p.cancelled ↔ other ∈ p.cancelled
    rw [List.mem_cons, or_iff_right hne]
  have hdiffer := hplay h hother hstart
  exact ⟨hdiffer, hdiffer.isClosed ((h.play after).token_ne hother)⟩

/-! ## After the cancellation -/

/-- A closed pool stays closed. -/
theorem Extends.isClosed (h : p.Extends q) (hclosed : p.isClosed = true) : q.isClosed = true := by
  unfold Crew.isClosed at hclosed ⊢
  cases htoken : p.token with
  | none =>
    rw [htoken] at hclosed
    cases hclosed
  | some token =>
    simp only [htoken, List.contains_iff_mem] at hclosed
    simp only [h.token token htoken, List.contains_iff_mem]
    exact h.cancelled.subset hclosed

/-- The token is cancelled, and no call from a number on has found the sender. -/
structure Barred (number : Nat) (p : Crew) : Prop where
  closed : p.isClosed = true
  admitted : ∀ task, number ≤ task → p.call ≠ some ⟨task, .admitted⟩
  accepted : ∀ task, number ≤ task → task ∉ p.accepted

/-- At the moment a pool is closed no later call has come so far. -/
theorem Consistent.barred (h : p.Consistent) (hclosed : p.isClosed = true) :
    Barred p.calls p := by
  have hnumbered : ∀ task, task ∈ p.accepted ++ p.refused ++ p.undecided ↔ task < p.calls := by
    intro task
    rw [h.numbered, List.mem_range]
  refine ⟨hclosed, fun task hle hcall => ?_, fun task hle haccepted => ?_⟩
  · have hlt := (hnumbered task).1 (List.mem_append_right _ (by
      rw [undecided, hcall]
      exact List.mem_cons_self))
    omega
  · have hlt := (hnumbered task).1 (List.mem_append_left _ (List.mem_append_left _ haccepted))
    omega

/-- What a closed pool bars it goes on barring, event by event. -/
theorem Barred.moves {number : Nat} (h : Barred number p) (hp : p.Consistent)
    (hmove : Moves p e q) : Barred number q := by
  have hclosed : q.isClosed = true := (hp.extends_of_moves hmove).isClosed h.closed
  cases hmove with
  -- A closed pool lets nobody in, so only a call that was let in before can still be counted.
  | letIn task hcall hsender hopen =>
    rw [h.closed] at hopen
    cases hopen
  | count task hcall =>
    refine ⟨hclosed, nofun, fun other hle hmem => ?_⟩
    rcases List.mem_append.1 hmem with hmem | hmem
    · exact h.accepted other hle hmem
    · obtain rfl := List.mem_singleton.1 hmem
      exact h.admitted other hle hcall
  | takeBack task =>
    exact ⟨hclosed, nofun, fun other hle hmem => h.accepted other hle (List.mem_filter.1 hmem).1⟩
  | enter => exact ⟨hclosed, nofun, h.accepted⟩
  | refuse => exact ⟨hclosed, nofun, h.accepted⟩
  | send => exact ⟨hclosed, nofun, h.accepted⟩
  | _ => exact ⟨hclosed, h.admitted, h.accepted⟩

/-- Whatever is done after the closing, the calls that come later are barred. -/
theorem Consistent.barred_play (h : p.Consistent) (hclosed : p.isClosed = true)
    (after : List Event) : Barred p.calls (p.play after) :=
  h.play_induction (h.barred hclosed) fun _ _ _ hq hbarred hmove => hbarred.moves hq hmove

/-- A refused call is told that the pool is closed. -/
theorem answer_of_refused {task : Nat} (hrefused : task ∈ p.refused) :
    p.answer? task = some (.error .closed) := if_pos hrefused

/-- A call that begins after the cancellation is refused as soon as it looks. -/
theorem Consistent.answer_of_closed (h : p.Consistent) (hclosed : p.isClosed = true)
    (after : List Event) {task : Nat} (hle : p.calls ≤ task)
    (hlt : task < (p.play after).calls) :
    (p.play after).answer? task = some (.error .closed) ∨
      (p.play after).call = some ⟨task, .entered⟩ ∧
        ((p.play after).step .look).answer? task = some (.error .closed) := by
  have hbarred := h.barred_play hclosed after
  have hnumbered := (h.play after).numbered
  generalize p.play after = q at hlt hbarred hnumbered
  -- Every call so far is accepted, refused or undecided, and a later one is never accepted.
  have hmem : task ∈ q.accepted ++ q.refused ++ q.undecided := by
    rw [hnumbered]
    exact List.mem_range.2 hlt
  rcases List.mem_append.1 hmem with hmem | hundecided
  · rcases List.mem_append.1 hmem with haccepted | hrefused
    · exact absurd haccepted (hbarred.accepted task hle)
    · exact .inl (answer_of_refused hrefused)
  · right
    unfold undecided at hundecided
    split at hundecided
    -- The call has not looked at the token, and when it does it is refused.
    · next own hcall =>
      obtain rfl := List.mem_singleton.1 hundecided
      refine ⟨hcall, answer_of_refused ?_⟩
      rw [step, look, hcall]
      simp only [hbarred.closed, Bool.not_true, Bool.and_false]
      exact List.mem_append_right _ List.mem_cons_self
    · next own hcall =>
      obtain rfl := List.mem_singleton.1 hundecided
      exact absurd hcall (hbarred.admitted task hle)
    · cases hundecided

/-- Only the cancellation makes a call answer that the pool is closed. -/
theorem Consistent.isClosed_of_answer (h : p.Consistent) {task : Nat}
    (hanswer : p.answer? task = some (.error .closed)) : p.isClosed = true := by
  unfold answer? at hanswer
  split at hanswer
  · next hrefused => exact h.shut (.inr (List.ne_nil_of_mem hrefused))
  · split at hanswer <;> cases hanswer

/-- A call that nobody interrupts brings its task as long as the token is not cancelled. -/
theorem Consistent.answer_of_open (h : p.Consistent) (hcall : p.call = none)
    (hopen : p.isClosed = false) :
    (p.play [.enter, .look, .count, .send]).answer? p.calls = some (.ok ()) := by
  rw [play_bring h hcall hopen]
  have hrefused := h.refused_eq_nil hopen
  have hsending : p.sending = [] := by rw [sending, hcall]
  rw [answer?, if_neg (by rw [hrefused]; exact List.not_mem_nil), if_pos]
  refine ⟨List.mem_append_right _ List.mem_cons_self, ?_⟩
  show p.calls ∉ p.sending
  rw [hsending]
  exact List.not_mem_nil

/-! ## Waiting -/

/-- When a wait is over every accepted task is counted off. -/
theorem Consistent.finished_of_isDrained (h : p.Consistent) (hdrained : p.isDrained = true)
    {task : Nat} (htask : task ∈ p.accepted) : task ∈ p.finished := by
  have hzero : p.pending = 0 := of_decide_eq_true hdrained
  have hpending := h.pending
  have hlength := h.perm_accepted.length_eq
  have hnil : p.queued ++ p.running = [] := by
    refine List.length_eq_zero_iff.1 ?_
    rw [List.length_append] at hlength
    omega
  have hmem := h.perm_accepted.mem_iff.2 htask
  rw [hnil, List.nil_append] at hmem
  exact hmem

end Crew

end Telemetry

import Mathlib.Data.List.Chain
import Telemetry.Store.Retry

/-!
# When connections are attempted

An attempt ends by itself or is cut short at its limit (`Succeeds`, `Fails`), and its start follows
from the attempts before it and the pauses between them (`startOf`). A connection makes the attempts
in their order until one succeeds or all have failed: `Course` is what can be seen of the attempts
from some number on, and `exists_course` goes from one attempt to the next. `Retried` is the whole
connection.
-/

namespace Telemetry

namespace RetryPolicy

variable {α : Type} {p : RetryPolicy} {connect : Nat → Attempt α} {i : Nat}

/-! ## One attempt -/

/-- The limit of an attempt grows with its number. -/
def limitOf (p : RetryPolicy) (i : Nat) : Nat := p.baseTimeout * (i + 1)

/-- How long an attempt goes on: until it ends by itself, and not beyond its limit. -/
def occupies (p : RetryPolicy) (connect : Nat → Attempt α) (i : Nat) : Nat :=
  min (connect i).duration (p.limitOf i)

/-- An attempt succeeds if it does so by itself within its limit. -/
structure Succeeds (p : RetryPolicy) (connect : Nat → Attempt α) (i : Nat) (a : α) : Prop where
  inTime : (connect i).duration ≤ p.limitOf i
  outcome : (connect i).outcome = .ok a

/-- An attempt fails by itself within its limit, or is cut short. -/
inductive Fails (p : RetryPolicy) (connect : Nat → Attempt α) (i : Nat) : String → Prop
  | inTime {e : String} (h : (connect i).duration ≤ p.limitOf i)
      (outcome : (connect i).outcome = .error e) : Fails p connect i e
  | cutShort (h : p.limitOf i < (connect i).duration) :
    Fails p connect i ("connection attempt timed out after " ++ toString (p.limitOf i) ++ "ms")

/-- One attempt does not both fail and succeed. -/
theorem Fails.not_succeeds {e : String} (h : p.Fails connect i e) (a : α) :
    ¬ p.Succeeds connect i a := by
  rintro ⟨htime, hok⟩
  cases h with
  | inTime _ herror => exact nomatch hok.symm.trans herror
  | cutShort hlate => exact absurd htime (Nat.not_le_of_lt hlate)

/-- When an attempt starts: the first one at once, every other one after the pause behind the end of
the one before. -/
def startOf (p : RetryPolicy) (connect : Nat → Attempt α) : Nat → Nat
  | 0 => 0
  | i + 1 => startOf p connect i + p.occupies connect i + p.delays.getD i 0

/-- The attempt as it is started. -/
def callOf (p : RetryPolicy) (connect : Nat → Attempt α) (i : Nat) : RetryCall :=
  ⟨i, p.limitOf i, p.startOf connect i⟩

/-- The limit of an attempt is the one of its number, as long as numbers do not wrap around. -/
theorem timeoutFor_eq (h : i < UInt32.size) : p.timeoutFor i = p.limitOf i := by
  rw [timeoutFor, Nat.mod_eq_of_lt h, limitOf]

/-- An attempt succeeds or fails, and takes the time that it occupies. -/
theorem tryOnce_cases (h : i < UInt32.size) (connect : Nat → Attempt α) :
    (∃ a, p.Succeeds connect i a ∧ p.tryOnce connect i = ⟨p.occupies connect i, .ok a⟩) ∨
      ∃ e, p.Fails connect i e ∧ p.tryOnce connect i = ⟨p.occupies connect i, .error e⟩ := by
  rw [tryOnce, timeoutFor_eq h, limited]
  rcases Nat.lt_or_ge (p.limitOf i) (connect i).duration with hlate | hle
  · refine .inr ⟨_, .cutShort hlate, ?_⟩
    rw [if_neg (Nat.not_le_of_lt hlate), occupies, Nat.min_eq_right (Nat.le_of_lt hlate)]
    rfl
  · rw [if_pos hle, occupies, Nat.min_eq_left hle]
    cases houtcome : (connect i).outcome with
    | ok a => exact .inl ⟨a, ⟨hle, houtcome⟩, by rw [← houtcome]⟩
    | error e => exact .inr ⟨e, .inTime hle houtcome, by rw [← houtcome]⟩

/-! ## The states of a connection -/

/-- The changes of the state through attempts that fail: each of them leads from the disconnected
state through its own connecting state and back. -/
def failedAttempts (first count : Nat) : List (ConnectionState × ConnectionState) :=
  (List.range' first count).flatMap fun i =>
    [(.disconnected, .connecting i), (.connecting i, .disconnected)]

/-- The first of several failed attempts is made, and then the others. -/
theorem failedAttempts_succ (first count : Nat) :
    failedAttempts first (count + 1) =
      (.disconnected, .connecting first) :: (.connecting first, .disconnected) ::
        failedAttempts (first + 1) count := by
  rw [failedAttempts, List.range'_succ, List.flatMap_cons]
  rfl

/-- A transition starts from the state in which the one before has ended. -/
def Follows (t u : ConnectionState × ConnectionState) : Prop := t.2 = u.1

/-- Failed attempts lead from the disconnected state to itself, so whatever starts from there may
follow them. -/
theorem chain_failedAttempts (first count : Nat)
    {later : List (ConnectionState × ConnectionState)} (hchain : later.IsChain Follows)
    (hstart : ∀ t ∈ later.head?, t.1 = .disconnected) :
    (failedAttempts first count ++ later).IsChain Follows ∧
      ∀ t ∈ (failedAttempts first count ++ later).head?, t.1 = .disconnected := by
  induction count generalizing first with
  | zero => exact ⟨hchain, hstart⟩
  | succ count ih =>
    obtain ⟨hrest, hhead⟩ := ih (first + 1)
    rw [failedAttempts_succ, List.cons_append, List.cons_append]
    generalize failedAttempts (first + 1) count ++ later = rest at hrest hhead
    refine ⟨List.isChain_cons_cons.2 ⟨rfl, List.isChain_cons.2 ⟨fun t ht => ?_, hrest⟩⟩, ?_⟩
    · exact (hhead t ht).symm
    · rintro t ⟨⟩
      rfl

/-! ## One attempt after another -/

/-- What can be seen of the attempts from number `first` on, if `count` of them fail and one more is
made. The connection was disconnected before them, and `before` had been logged. -/
structure Course (p : RetryPolicy) (connect : Nat → Attempt α)
    (before : List (ConnectionState × ConnectionState)) (first count : Nat) (r : RetryRun α) :
    Prop where
  inPolicy : first + count ≤ p.delays.length
  calls : r.calls = (List.range' first (count + 1)).map (p.callOf connect)
  failed : ∀ i, first ≤ i → i < first + count → ∃ e, p.Fails connect i e
  elapsed : r.elapsed
    = p.startOf connect (first + count) + p.occupies connect (first + count)
  ending :
    (∃ a, p.Succeeds connect (first + count) a ∧ r.result = .ok a ∧
      r.transitions = before ++ (failedAttempts first count ++
        [(.disconnected, .connecting (first + count)),
          (.connecting (first + count), .connected)])) ∨
    first + count = p.delays.length ∧ ∃ e, p.Fails connect (first + count) e ∧
      r.result = .error (.connectFailed (p.delays.length + 1) ("Custom Error: " ++ e)) ∧
      r.transitions = before ++ (failedAttempts first (count + 1) ++ [(.disconnected, .failed)])

variable {before : List (ConnectionState × ConnectionState)}

/-- An attempt succeeds and none follows. -/
theorem course_of_succeeds (h : i < UInt32.size) (hpolicy : i ≤ p.delays.length) {a : α}
    (ha : p.Succeeds connect i a) (htry : p.tryOnce connect i = ⟨p.occupies connect i, .ok a⟩)
    (pauses : List Nat) :
    Course p connect before i 0
      (p.runFrom connect ⟨.disconnected, before⟩ i (p.startOf connect i) pauses) := by
  have hrun : p.runFrom connect ⟨.disconnected, before⟩ i (p.startOf connect i) pauses =
      ⟨[p.callOf connect i],
        before ++ [(.disconnected, .connecting i)] ++ [(.connecting i, .connected)],
        p.startOf connect i + p.occupies connect i, .ok a⟩ := by
    cases pauses <;> rw [runFrom, htry, timeoutFor_eq h] <;> rfl
  rw [hrun]
  exact ⟨hpolicy, rfl, by omega, rfl, .inl ⟨a, ha, rfl, List.append_assoc _ _ _⟩⟩

/-- The last attempt of the policy fails. -/
theorem course_of_exhausted (h : i < UInt32.size) (hpolicy : i = p.delays.length) {e : String}
    (he : p.Fails connect i e) (htry : p.tryOnce connect i = ⟨p.occupies connect i, .error e⟩) :
    Course p connect before i 0
      (p.runFrom connect ⟨.disconnected, before⟩ i (p.startOf connect i) []) := by
  have hrun : p.runFrom connect ⟨.disconnected, before⟩ i (p.startOf connect i) [] =
      ⟨[p.callOf connect i],
        before ++ [(.disconnected, .connecting i)] ++ [(.connecting i, .disconnected)]
          ++ [(.disconnected, .failed)],
        p.startOf connect i + p.occupies connect i,
        .error (.connectFailed (p.delays.length + 1) ("Custom Error: " ++ e))⟩ := by
    rw [runFrom, htry, timeoutFor_eq h]
    rfl
  rw [hrun]
  refine ⟨Nat.le_of_eq hpolicy, rfl, by omega, rfl, .inr ⟨hpolicy, e, he, rfl, ?_⟩⟩
  simp only [List.append_assoc]
  rfl

/-- One attempt fails and the others follow. -/
theorem Course.cons {first count : Nat} {r : RetryRun α} {e : String}
    (h : Course p connect
      (before ++ [(.disconnected, .connecting first), (.connecting first, .disconnected)])
      (first + 1) count r)
    (hfails : p.Fails connect first e) :
    Course p connect before first (count + 1)
      { r with calls := p.callOf connect first :: r.calls } := by
  have hnumber : first + 1 + count = first + (count + 1) := by omega
  obtain ⟨hpolicy, hcalls, hfailed, helapsed, hending⟩ := h
  rw [hnumber] at hpolicy hfailed helapsed hending
  refine ⟨hpolicy, ?_, fun i hle hlt => ?_, helapsed, ?_⟩
  · rw [List.range'_succ, List.map_cons, ← hcalls]
  · -- the first attempt is the one that has failed, the later ones are known
    rcases Nat.eq_or_lt_of_le hle with rfl | hlater
    · exact ⟨e, hfails⟩
    · exact hfailed i hlater hlt
  · rcases hending with ⟨a, ha, hresult, htrace⟩ | ⟨hlast, e, he, hresult, htrace⟩
    · refine .inl ⟨a, ha, hresult, ?_⟩
      rw [htrace, failedAttempts_succ, List.append_assoc]
      rfl
    · refine .inr ⟨hlast, e, he, hresult, ?_⟩
      rw [htrace, failedAttempts_succ first, List.append_assoc]
      rfl

/-- The next attempt starts after the pause, and finds the connection disconnected. -/
theorem runFrom_cons {now pause : Nat} {e : String} (h : i < UInt32.size)
    (htry : p.tryOnce connect i = ⟨p.occupies connect i, .error e⟩) (rest : List Nat) :
    p.runFrom connect ⟨.disconnected, before⟩ i now (pause :: rest) =
      let later := p.runFrom connect
        ⟨.disconnected,
          before ++ [(.disconnected, .connecting i), (.connecting i, .disconnected)]⟩
        (i + 1) (now + p.occupies connect i + pause) rest
      { later with calls := ⟨i, p.limitOf i, now⟩ :: later.calls } := by
  have hlog : ((ConnectionLog.mk .disconnected before).enter (.connecting i)).enter .disconnected =
      ⟨.disconnected,
        before ++ [(.disconnected, .connecting i), (.connecting i, .disconnected)]⟩ := by
    simp [ConnectionLog.enter]
  rw [runFrom, htry, timeoutFor_eq h]
  simp only [hlog]

/-- The attempts from any number on, by induction on the pauses that are still to come. -/
theorem exists_course (h : p.attempts < UInt32.size) (connect : Nat → Attempt α)
    (before : List (ConnectionState × ConnectionState)) {first : Nat} {pauses : List Nat}
    (hfirst : first ≤ p.delays.length) (hpauses : p.delays.drop first = pauses) :
    ∃ count, Course p connect before first count
      (p.runFrom connect ⟨.disconnected, before⟩ first (p.startOf connect first) pauses) := by
  have hattempts : p.attempts = p.delays.length + 1 := rfl
  have hword : first < UInt32.size := by omega
  induction pauses generalizing first before with
  | nil =>
    have hlast : first = p.delays.length := by
      have hle := List.drop_eq_nil_iff.1 hpauses
      omega
    refine ⟨0, ?_⟩
    rcases tryOnce_cases hword connect with ⟨a, ha, htry⟩ | ⟨e, he, htry⟩
    · exact course_of_succeeds hword hfirst ha htry _
    · exact course_of_exhausted hword hlast he htry
  | cons pause rest ih =>
    have hlt : first < p.delays.length := by
      refine Nat.lt_of_not_le fun hle => ?_
      rw [List.drop_eq_nil_of_le hle] at hpauses
      cases hpauses
    rw [List.drop_eq_getElem_cons hlt] at hpauses
    obtain ⟨hpause, hrest⟩ := List.cons.inj hpauses
    rcases tryOnce_cases hword connect with ⟨a, ha, htry⟩ | ⟨e, he, htry⟩
    · exact ⟨0, course_of_succeeds hword hfirst ha htry _⟩
    · obtain ⟨count, hcourse⟩ := ih
        (before ++ [(.disconnected, .connecting first), (.connecting first, .disconnected)])
        hlt hrest (by omega)
      -- the pause is the one that the policy has between the two attempts
      have hstart : p.startOf connect (first + 1)
          = p.startOf connect first + p.occupies connect first + pause := by
        rw [startOf, List.getD_eq_getElem?_getD, List.getElem?_eq_getElem hlt, hpause]
        rfl
      rw [hstart] at hcourse
      refine ⟨count + 1, ?_⟩
      rw [runFrom_cons hword htry]
      exact hcourse.cons he

/-! ## The whole connection -/

/-- What can be seen of a connection, the attempt `last` being its last one. -/
structure Retried (p : RetryPolicy) (connect : Nat → Attempt α) (last : Nat) (r : RetryRun α) :
    Prop where
  /-- The attempts are made in their order, each with its limit and at its time. -/
  calls : r.calls = (List.range (last + 1)).map (p.callOf connect)
  limited : ∀ i, p.occupies connect i ≤ p.limitOf i
  /-- No attempt before the last one succeeds within its limit. -/
  failed : ∀ i < last, (∃ e, p.Fails connect i e) ∧ ∀ a, ¬ p.Succeeds connect i a
  /-- Nothing comes after the last attempt. -/
  elapsed : r.elapsed = p.startOf connect last + p.occupies connect last
  /-- The last attempt succeeds, or fails as the last one of the policy. Behind the attempts that
  have failed the connection is made, or it is given up. -/
  ending :
    last < p.delays.length + 1 ∧ (∃ a, p.Succeeds connect last a ∧ r.result = .ok a ∧
      r.transitions = failedAttempts 0 last ++
        [(.disconnected, .connecting last), (.connecting last, .connected)]) ∨
    last + 1 = p.delays.length + 1 ∧ (∃ e, p.Fails connect last e ∧
      r.result = .error (.connectFailed (p.delays.length + 1) ("Custom Error: " ++ e)) ∧
      r.transitions = failedAttempts 0 (last + 1) ++ [(.disconnected, .failed)])
  /-- The first transition starts disconnected, every other one where the one before has ended. -/
  starts : ∀ t ∈ r.transitions.head?, t.1 = .disconnected
  chained : r.transitions.IsChain Follows

/-- **Every connection is made attempt by attempt**, until one succeeds within its limit or the
policy has no more. -/
theorem exists_retried_run (h : p.attempts < UInt32.size) (connect : Nat → Attempt α) :
    ∃ last, p.Retried connect last (p.run connect) := by
  obtain ⟨last, hrun⟩ := exists_course h connect [] (Nat.zero_le _) (rfl : p.delays.drop 0 = _)
  have hcourse : Course p connect [] 0 last (p.run connect) := hrun
  obtain ⟨hpolicy, hcalls, hfailed, helapsed, hending⟩ := hcourse
  rw [Nat.zero_add] at hpolicy hfailed helapsed hending
  -- Every attempt starts and ends disconnected, so the trace hangs together up to its last entries.
  have hchain : (p.run connect).transitions.IsChain Follows ∧
      ∀ t ∈ (p.run connect).transitions.head?, t.1 = .disconnected := by
    rcases hending with ⟨a, -, -, htrace⟩ | ⟨-, e, -, -, htrace⟩
    · rw [htrace]
      exact chain_failedAttempts 0 last (List.isChain_pair.2 rfl) (by rintro t ⟨⟩; rfl)
    · rw [htrace]
      exact chain_failedAttempts 0 (last + 1) (List.isChain_singleton _) (by rintro t ⟨⟩; rfl)
  rw [← List.range_eq_range'] at hcalls
  refine ⟨last, hcalls, fun i => Nat.min_le_right _ _, fun i hi => ?_, helapsed, ?_, hchain.2,
    hchain.1⟩
  · obtain ⟨e, he⟩ := hfailed i (Nat.zero_le i) hi
    exact ⟨⟨e, he⟩, he.not_succeeds⟩
  · exact hending.imp (fun hok => ⟨by omega, hok⟩) fun ⟨hlast, herror⟩ => ⟨by omega, herror⟩

/-- Two pauses, and a first limit of 100. -/
def twoPauses : RetryPolicy := ⟨[10, 20], 100⟩

/-- A first attempt that is too slow, one that is refused and one that is ready at its limit. -/
def slowThenRefused : Nat → Attempt String
  | 0 => ⟨150, .ok "late"⟩
  | 1 => ⟨5, .error "refused"⟩
  | _ => ⟨300, .ok "ready"⟩

/-- Two attempts that are refused, and a last one that is too slow. -/
def refusedThenSlow : Nat → Attempt String
  | 0 => ⟨5, .error "refused"⟩
  | 1 => ⟨7, .error "refused again"⟩
  | _ => ⟨301, .ok "late"⟩

/-- One policy, of which one connector needs the last attempt and another one has none left. -/
theorem retried_twoPauses :
    twoPauses.attempts < UInt32.size ∧
      (∃ last, twoPauses.Retried slowThenRefused last (twoPauses.run slowThenRefused)) ∧
      (twoPauses.run slowThenRefused).calls = [⟨0, 100, 0⟩, ⟨1, 200, 110⟩, ⟨2, 300, 135⟩] ∧
      (twoPauses.run slowThenRefused).elapsed = 435 ∧
      (twoPauses.run slowThenRefused).result = .ok "ready" ∧
      (twoPauses.run slowThenRefused).transitions =
        [(.disconnected, .connecting 0), (.connecting 0, .disconnected),
          (.disconnected, .connecting 1), (.connecting 1, .disconnected),
          (.disconnected, .connecting 2), (.connecting 2, .connected)] ∧
      (∃ last, twoPauses.Retried refusedThenSlow last (twoPauses.run refusedThenSlow)) ∧
      (twoPauses.run refusedThenSlow).result = .error (.connectFailed 3
        "Custom Error: connection attempt timed out after 300ms") ∧
      (twoPauses.run refusedThenSlow).transitions =
        [(.disconnected, .connecting 0), (.connecting 0, .disconnected),
          (.disconnected, .connecting 1), (.connecting 1, .disconnected),
          (.disconnected, .connecting 2), (.connecting 2, .disconnected),
          (.disconnected, .failed)] := by
  have hattempts : twoPauses.attempts < UInt32.size := by decide
  refine ⟨hattempts, exists_retried_run hattempts slowThenRefused, ?_, ?_, ?_, ?_,
    exists_retried_run hattempts refusedThenSlow, ?_, ?_⟩
  all_goals decide +kernel

end RetryPolicy

end Telemetry

import Telemetry.Proofs.Report.Overlap
import Telemetry.Proofs.Store.Memory
import Telemetry.Report.Fleet

/-!
# What a fleet counts

The `total` of a counter is what the server has stored of it and what the agents hold that the
server has not seen. A publication that the server stores moves a delta from one side to the other
at once, although the agent takes it off its collection only at the end of its task; one that fails
moves nothing. So `total_step`: only an increment changes the total, by its delta, whatever tasks
are under way. When no task is, the total is what is stored and what is gathered.
-/

namespace Telemetry

namespace Fleet

variable {f : Fleet}

/-! ## What a run adds -/

/-- The delta that an event adds to a counter of a fleet of a size. -/
def addedBy (size : Nat) (name : String) (e : Event) : Int :=
  if e.agent < size then Agent.addedBy name e.event else 0

/-- The sum of the deltas that are added to a counter on all agents. -/
def added (f : Fleet) (name : String) (events : List Event) : Int :=
  (events.map (addedBy f.agents.length name)).sum

/-- The event makes no counter of its agent leave the range. -/
def inRange (f : Fleet) (e : Event) : Bool := (f.agents[e.agent]?).all fun a => a.inRange e.event

/-- No event of a run makes a counter of an agent leave the range. -/
def runsInRange (f : Fleet) : List Event → Bool
  | [] => true
  | e :: rest => f.inRange e && (f.step e).runsInRange rest

/-- A task starts only when the earlier ones of its agent have ended. -/
def startsAlone (f : Fleet) (e : Event) : Bool :=
  (f.agents[e.agent]?).all fun a => a.startsAlone e.event

/-- No agent has two tasks under way at a time. -/
def isSequential (f : Fleet) : List Event → Bool
  | [] => true
  | e :: rest => f.startsAlone e && (f.step e).isSequential rest

/-! ## One event -/

/-- What an agent holds of a counter that the server has not seen. -/
def unseen (name : String) (a : Agent) : Int := a.collection.count name - a.unsettled name

/-- What is stored of a counter, and what the agents hold that the server has not seen. -/
def total (f : Fleet) (name : String) : Int :=
  (f.server.count? name).getD 0 + (f.agents.map (unseen name)).sum

/-- What the transport of an agent accepts when a publication succeeds. -/
theorem accepted_publish (a : Agent) (task : Nat) (accepted : Bool) :
    (a.step (.publish task accepted)).accepted
      = a.accepted ++ if accepted then (publishing? a task).toList else [] := by
  simp only [Agent.step, publishing?]
  cases a.running? task <;> cases accepted <;> simp

/-- A step of an agent goes without the server, or brings it a metric that it stores or refuses. -/
theorem serve_cases (server : Snapshot) (a : Agent) (e : Agent.Event) :
    (serve server a e = (e, server) ∧ (a.step e).accepted = a.accepted) ∨
      (∃ task m next, e = .publish task true ∧
        serve server a e = (.publish task true, next) ∧ server.Grows [m] next ∧
        (a.step (.publish task true)).accepted = a.accepted ++ [m]) ∨
      ∃ task, e = .publish task true ∧ serve server a e = (.publish task false, server) ∧
        (a.step (.publish task false)).accepted = a.accepted := by
  -- Only a publication that reaches the server concerns it, and only if there is something to
  -- publish.
  cases e with
  | add name delta => exact .inl ⟨rfl, rfl⟩
  | set name value => exact .inl ⟨rfl, rfl⟩
  | start address =>
    refine .inl ⟨rfl, ?_⟩
    simp only [Agent.step]
    split <;> rfl
  | publish task reaches =>
    have hfalse := accepted_publish a task false
    have htrue := accepted_publish a task true
    rw [if_neg Bool.false_ne_true, List.append_nil] at hfalse
    rw [if_pos rfl] at htrue
    cases reaches with
    | false => exact .inl ⟨rfl, hfalse⟩
    | true =>
      cases hm : publishing? a task with
      | none =>
        rw [hm, Option.toList_none, List.append_nil] at htrue
        exact .inl ⟨by simp only [serve, hm], htrue⟩
      | some m =>
        rw [hm] at htrue
        -- The agent is told what the server has done with the metric.
        rcases Memory.create_cases server m with ⟨stored, next, hcreate, -, happly⟩ | ⟨e, hcreate⟩
        · refine .inr (.inl ⟨task, m, next, rfl, ?_, Snapshot.grows_of_apply happly, htrue⟩)
          simp only [serve, hm, create_snapshot, hcreate]
          rfl
        · refine .inr (.inr ⟨task, rfl, ?_, hfalse⟩)
          simp only [serve, hm, create_snapshot, hcreate]
          rfl
  | settle task =>
    refine .inl ⟨rfl, ?_⟩
    simp only [Agent.step]
    split <;> rfl

/-- The server changes the answer to a publication, and nothing that an agent does by itself. -/
theorem serve_same (server : Snapshot) (a : Agent) (e : Agent.Event) :
    (∀ name, Agent.addedBy name (serve server a e).1 = Agent.addedBy name e) ∧
      a.inRange (serve server a e).1 = a.inRange e ∧
      a.startsAlone (serve server a e).1 = a.startsAlone e := by
  rcases serve_cases server a e with ⟨heq, -⟩ | ⟨task, m, next, rfl, heq, -⟩ | ⟨task, rfl, heq, -⟩
  · rw [heq]
    exact ⟨fun _ => rfl, rfl, rfl⟩
  · rw [heq]
    exact ⟨fun _ => rfl, rfl, rfl⟩
  · rw [heq]
    exact ⟨fun _ => rfl, rfl, rfl⟩

/-- What the server stores is what the transport of the agent accepts. -/
theorem count_serve (server : Snapshot) (a : Agent) (e : Agent.Event) (name : String) :
    ((serve server a e).2.count? name).getD 0 + deltaSum name a.accepted
      = (server.count? name).getD 0 + deltaSum name (a.step (serve server a e).1).accepted := by
  rcases serve_cases server a e with ⟨heq, haccepted⟩ | ⟨task, m, next, rfl, heq, hgrows, haccepted⟩
    | ⟨task, rfl, heq, haccepted⟩
  · rw [heq, haccepted]
  · rw [heq, haccepted, hgrows.count, getD_countAfter, deltaSum_append]
    omega
  · rw [heq, haccepted]

/-- What holds of every agent, whatever the others do. -/
def Sound (f : Fleet) : Prop := ∀ a ∈ f.agents, a.WellFormed ∧ a.Alone

/-- Every event keeps the agents well formed and their reports apart. -/
theorem Sound.step (h : f.Sound) {e : Event} (halone : f.startsAlone e = true) :
    (f.step e).Sound := by
  unfold Fleet.step
  cases ha : f.agents[e.agent]? with
  | none => exact h
  | some a =>
    obtain ⟨hform, hown⟩ := h a (List.mem_of_getElem? ha)
    have hstart : a.startsAlone (serve f.server a e.event).1 = true := by
      rw [(serve_same f.server a e.event).2.2]
      simpa [startsAlone, ha] using halone
    intro b hb
    rcases List.mem_or_eq_of_mem_set hb with hb | rfl
    · exact h b hb
    · exact ⟨hform.step _, hown.step hstart⟩

/-- **The law of one event.** Only an increment changes the total of a counter. -/
theorem total_step (h : f.Sound) {e : Event} (hrange : f.inRange e = true) (name : String) :
    (f.step e).total name = f.total name + addedBy f.agents.length name e := by
  unfold Fleet.step
  cases ha : f.agents[e.agent]? with
  | none =>
    have hle := List.getElem?_eq_none_iff.1 ha
    rw [addedBy, if_neg (by omega)]
    exact (Int.add_zero _).symm
  | some a =>
    obtain ⟨hform, hown⟩ := h a (List.mem_of_getElem? ha)
    obtain ⟨hadded, hsame, -⟩ := serve_same f.server a e.event
    have hlt := (List.getElem?_eq_some_iff.1 ha).1
    have hfits : a.inRange (serve f.server a e.event).1 = true := by
      rw [hsame]
      simpa [inRange, ha] using hrange
    -- the balance of the agent, and what the server stores of it
    have hbalance := Agent.balance_step hform hfits name
    have hserver := count_serve f.server a e.event name
    have hsum := Agent.sum_map_set (unseen name) ha (a.step (serve f.server a e.event).1)
    rw [Agent.passedOver_eq_zero hform hown, hadded] at hbalance
    rw [addedBy, if_pos hlt]
    simp only [total, hsum, unseen]
    simp only [Agent.balance] at hbalance
    omega

/-! ## Every run -/

/-- Agents neither come nor go. -/
theorem length_agents_step (f : Fleet) (e : Event) :
    (f.step e).agents.length = f.agents.length := by
  unfold Fleet.step
  split
  · exact List.length_set
  · rfl

/-- The law of a run, whatever tasks are under way at its ends. -/
theorem total_run (h : f.Sound) {events : List Event} (hrange : f.runsInRange events = true)
    (hsequential : f.isSequential events = true) (name : String) :
    (f.run events).total name = f.total name + f.added name events := by
  induction events generalizing f with
  | nil => exact (Int.add_zero _).symm
  | cons e rest ih =>
    rw [runsInRange, Bool.and_eq_true] at hrange
    rw [isSequential, Bool.and_eq_true] at hsequential
    have hstep := total_step h hrange.1 name
    have hrest := ih (h.step hsequential.1) hrange.2 hsequential.2
    rw [added, length_agents_step, hstep] at hrest
    rw [added, List.map_cons, List.sum_cons, ← Int.add_assoc]
    exact hrest

/-- When nobody reports any more, everything is on the server or still in the collections. -/
theorem total_of_isIdle (h : f.isIdle = true) (name : String) :
    f.total name = (f.server.count? name).getD 0
      + (f.agents.map fun a => a.collection.count name).sum := by
  have hunseen : f.agents.map (unseen name) = f.agents.map fun a => a.collection.count name := by
    refine List.map_congr_left fun a ha => ?_
    rw [unseen, Agent.unsettled_eq_zero (List.all_eq_true.1 h a ha), Int.sub_zero]
  rw [total, hunseen]

/-- Agents that have not begun are sound. -/
theorem sound_start (count : Nat) : (start count).Sound := by
  intro a ha
  obtain rfl := (List.mem_replicate.1 ha).2
  exact ⟨nofun, .of_isIdle rfl⟩

/-- At the start there is nothing anywhere. -/
theorem total_start (count : Nat) (name : String) : (start count).total name = 0 := by
  have hzero : ∀ n ∈ (start count).agents.map (unseen name), n = 0 := by
    intro n hn
    obtain ⟨a, ha, rfl⟩ := List.mem_map.1 hn
    obtain rfl := (List.mem_replicate.1 ha).2
    rfl
  rw [total, List.sum_eq_zero hzero]
  rfl

/-- **Counters are conserved from end to end.** Take any number of agents and a server that start
with nothing, in any order of increments, publications and ends of tasks, no agent with two tasks
under way at a time and no counter of an agent leaving the range. A publication may be stored,
refused by the server for any reason, or lost on the way. Whenever no task is under way, what the
server has stored of a counter and what the agents have gathered are together what was added. -/
theorem stored_add_gathered_eq_added (count : Nat) (events : List Event)
    (hrange : (start count).runsInRange events = true)
    (hsequential : (start count).isSequential events = true)
    (hidle : ((start count).run events).isIdle = true) (name : String) :
    let f := (start count).run events
    (f.server.count? name).getD 0 + (f.agents.map fun a => a.collection.count name).sum
      = (start count).added name events := by
  have htotal := total_run (sound_start count) hrange hsequential name
  rw [total_start, Int.zero_add, total_of_isIdle hidle] at htotal
  exact htotal

/-- Two agents. The server refuses what would overflow, a publication is lost on the way, an
increment comes while a task is under way, and a counter without a name is refused. -/
def mixedReports : List Event :=
  [⟨0, .add "PollCount" Int64.maxValue⟩, ⟨1, .add "PollCount" 5⟩, ⟨1, .add "" 7⟩,
    ⟨0, .start "server"⟩, ⟨1, .start "server"⟩, ⟨0, .publish 0 true⟩, ⟨1, .publish 0 true⟩,
    ⟨0, .settle 0⟩, ⟨1, .publish 0 true⟩, ⟨0, .add "PollCount" (-3)⟩, ⟨1, .settle 0⟩,
    ⟨0, .start "server"⟩, ⟨0, .add "PollCount" 1⟩, ⟨0, .publish 1 false⟩, ⟨0, .settle 1⟩,
    ⟨0, .start "server"⟩, ⟨0, .publish 2 true⟩, ⟨0, .settle 2⟩]

/-- The law at these reports: the second agent keeps its five. -/
theorem stored_add_gathered_mixedReports :
    (start 2).runsInRange mixedReports = true ∧
    (start 2).isSequential mixedReports = true ∧
    ((start 2).run mixedReports).isIdle = true ∧
    ((start 2).run mixedReports).server.count? "PollCount" = some (Int64.maxValue.toInt - 2) ∧
    ((start 2).run mixedReports).agents.map (fun a => a.collection.count "PollCount") = [0, 5] ∧
    (((start 2).run mixedReports).server.count? "PollCount").getD 0
        + (((start 2).run mixedReports).agents.map fun a => a.collection.count "PollCount").sum
      = (start 2).added "PollCount" mixedReports := by
  have hrange : (start 2).runsInRange mixedReports = true := by decide +kernel
  have hsequential : (start 2).isSequential mixedReports = true := by decide +kernel
  have hidle : ((start 2).run mixedReports).isIdle = true := by decide +kernel
  exact ⟨hrange, hsequential, hidle, by decide +kernel, by decide +kernel,
    stored_add_gathered_eq_added 2 mixedReports hrange hsequential hidle "PollCount"⟩

end Fleet

end Telemetry

import Mathlib.Algebra.BigOperators.Group.List.Basic
import Mathlib.Algebra.Ring.Int.Defs
import Telemetry.Proofs.Collection
import Telemetry.Report.Fleet

/-!
# What overlapping reports bring to the server

The `balance` of a counter is what a collection still holds of it and what has been taken off it
again. An increment raises the balance, and nothing lowers it: `balance_step` is the law of one
event, in any phase of any number of tasks. It has one more term, `passedOver`, the deltas that a
report has delivered and finds no counter for when it settles, because another report has settled
the same increments before and dropped the counter at zero.

`accepted_add_count_eq` is the law of a whole run, with the sum of these terms in it: what the
transport has accepted and what is left are together what was added and what was passed over.
Reports that do not overlap pass over nothing; `overlap_counts_twice` is a run of two that do.
-/

namespace Telemetry

namespace Agent

variable {a : Agent}

/-! ## What a run adds, and what it passes over -/

/-- The delta that an event adds to a counter. -/
def addedBy (name : String) : Event → Int
  | .add n delta => if n = name then delta.toInt else 0
  | _ => 0

/-- The sum of the deltas that are added to a counter. -/
def added (name : String) (events : List Event) : Int := (events.map (addedBy name)).sum

/-- The deltas for a counter that a settling report passes over. -/
def passedOver (a : Agent) (name : String) : Event → Int
  | .settle task => ((a.settling? task).map fun r => a.collection.unmet name r.delivered).getD 0
  | _ => 0

/-- The deltas for a counter that are passed over in a run. -/
def lost (a : Agent) (name : String) : List Event → Int
  | [] => 0
  | e :: rest => a.passedOver name e + (a.step e).lost name rest

/-- The event makes no counter of the collection leave the range. -/
def inRange (a : Agent) : Event → Bool
  | .add name delta => FitsInt64 (a.collection.count name + delta.toInt)
  | .settle task => (a.settling? task).all fun r => a.collection.settlesInRange r.delivered
  | _ => true

/-- No event of a run makes a counter of the collection leave the range. -/
def runsInRange (a : Agent) : List Event → Bool
  | [] => true
  | e :: rest => a.inRange e && (a.step e).runsInRange rest

/-- A report starts only when all earlier ones have ended. -/
def startsAlone (a : Agent) : Event → Bool
  | .start _ => a.isIdle
  | _ => true

/-- The reports of a run do not overlap. -/
def isSequential (a : Agent) : List Event → Bool
  | [] => true
  | e :: rest => a.startsAlone e && (a.step e).isSequential rest

/-! ## Tasks -/

/-- What a task has delivered for a counter and not yet taken off. -/
def unsettledBy (name : String) (t : ReportTask) : Int :=
  if t.ended then 0 else deltaSum name t.report.delivered

/-- What is delivered for a counter and not yet taken off. -/
def unsettled (a : Agent) (name : String) : Int := (a.tasks.map (unsettledBy name)).sum

/-- A task that runs is there with its report, and has not ended. -/
theorem getElem?_of_running? {task : Nat} {r : Report} (h : a.running? task = some r) :
    a.tasks[task]? = some ⟨r, false⟩ := by
  unfold running? at h
  split at h
  · next htask =>
    cases h
    exact htask
  · cases h

/-- A task settles once it has tried everything. -/
theorem settling?_eq_some {task : Nat} {r : Report} (h : a.settling? task = some r) :
    a.running? task = some r ∧ r.waiting = [] := by
  simpa [settling?, Option.filter_eq_some_iff] using h

/-- A sum over a list of which one entry changes. -/
theorem sum_map_set {α : Type} (f : α → Int) {xs : List α} {i : Nat} {x : α}
    (h : xs[i]? = some x) (y : α) :
    ((xs.set i y).map f).sum = (xs.map f).sum - f x + f y := by
  obtain ⟨hlt, hx⟩ := List.getElem?_eq_some_iff.1 h
  have hlen : i < (xs.map f).length := by simpa using hlt
  rw [List.map_set, List.sum_set', dif_pos hlen, List.getElem_map, hx]
  omega

/-- Every report is about the metrics of one collection, in their order. -/
def WellFormed (a : Agent) : Prop :=
  ∀ t ∈ a.tasks, ∃ c : Collection,
    (t.report.delivered ++ t.report.waiting).Sublist c.metrics

/-- Trying a metric moves it from what is left to what was delivered, or drops it. -/
theorem sublist_record (r : Report) (published : Bool) :
    ((r.record published).delivered ++ (r.record published).waiting).Sublist
      (r.delivered ++ r.waiting) := by
  obtain ⟨waiting, delivered, failed⟩ := r
  cases waiting with
  | nil => exact List.Sublist.refl _
  | cons m rest =>
    cases published with
    | true => simp [Report.record]
    | false => exact List.Sublist.append (List.Sublist.refl _) (List.sublist_cons_self m rest)

/-- Trying a metric adds its delta to what was delivered, if the transport has accepted it. -/
theorem deltaSum_record (name : String) (r : Report) (published : Bool) :
    deltaSum name (r.record published).delivered
      = deltaSum name r.delivered
        + deltaSum name (if published then r.waiting.head?.toList else []) := by
  obtain ⟨waiting, delivered, failed⟩ := r
  cases waiting <;> cases published <;> simp [Report.record, deltaSum, entriesOf]

/-- A task may be replaced by one whose report is a part of some collection. -/
theorem WellFormed.set (h : a.WellFormed) {task : Nat} {t : ReportTask}
    (ht : ∃ c : Collection, (t.report.delivered ++ t.report.waiting).Sublist c.metrics) :
    ∀ u ∈ a.tasks.set task t, ∃ c : Collection,
      (u.report.delivered ++ u.report.waiting).Sublist c.metrics := by
  intro u hu
  rcases List.mem_or_eq_of_mem_set hu with hu | rfl
  · exact h u hu
  · exact ht

/-- The report of a task that runs is a part of some collection. -/
theorem WellFormed.running (h : a.WellFormed) {task : Nat} {r : Report}
    (hr : a.running? task = some r) :
    ∃ c : Collection, (r.delivered ++ r.waiting).Sublist c.metrics :=
  h ⟨r, false⟩ (List.mem_of_getElem? (getElem?_of_running? hr))

/-- What reports carry was copied from the collection at some time, after any event. -/
theorem WellFormed.step (h : a.WellFormed) (e : Event) : (a.step e).WellFormed := by
  -- A report is a copy of the whole collection when it starts, and only loses metrics later.
  cases e with
  | add name delta => exact h
  | set name value => exact h
  | start address =>
    simp only [Agent.step]
    split
    · exact h
    · intro t ht
      rcases List.mem_append.1 ht with ht | ht
      · exact h t ht
      · rw [List.mem_singleton.1 ht]
        exact ⟨a.collection, List.Sublist.refl _⟩
  | publish task accepted =>
    simp only [Agent.step]
    split
    · next r hr =>
      obtain ⟨c, hc⟩ := h.running hr
      exact h.set ⟨c, (sublist_record r accepted).trans hc⟩
    · exact h
  | settle task =>
    simp only [Agent.step]
    split
    · next r hr => exact h.set (h.running (settling?_eq_some hr).1)
    · exact h

/-- What a report has delivered are metrics that carry their numbers. -/
theorem WellFormed.carriesItsNumber (h : a.WellFormed) {task : Nat} {r : Report}
    (hr : a.running? task = some r) : ∀ m ∈ r.delivered, m.carriesItsNumber = true := by
  intro m hm
  obtain ⟨c, hc⟩ := h.running hr
  exact Collection.carriesItsNumber_of_mem_metrics (hc.subset (List.mem_append_left _ hm))

/-! ## The balance -/

/-- What is left of a counter and what has been taken off it. -/
def balance (a : Agent) (name : String) : Int :=
  a.collection.count name + (deltaSum name a.accepted - a.unsettled name)

/-- **The law of one event.** The balance grows by what the event adds and by what it passes over.
-/
theorem balance_step (hform : a.WellFormed) {e : Event} (hrange : a.inRange e = true)
    (name : String) :
    (a.step e).balance name = a.balance name + addedBy name e + a.passedOver name e := by
  cases e with
  | add n delta =>
    have hcount := Collection.count_add (of_decide_eq_true hrange) name
    simp only [balance, Agent.step, unsettled, addedBy, passedOver, hcount]
    omega
  | set n value =>
    simp [balance, Agent.step, unsettled, addedBy, passedOver, Collection.count, Collection.set]
  | start address =>
    simp only [Agent.step, addedBy, passedOver]
    split
    · simp
    · -- a new report has delivered nothing
      simp [balance, unsettled, unsettledBy, Report.start, deltaSum, entriesOf]
  | publish task accepted =>
    simp only [Agent.step, addedBy, passedOver]
    split
    · next r hr =>
      -- an accepted metric is counted on both sides: as accepted, and as not yet taken off
      have hsum := sum_map_set (unsettledBy name) (getElem?_of_running? hr)
        ⟨r.record accepted, false⟩
      have hrecord := deltaSum_record name r accepted
      have haccepted : deltaSum name
            (if accepted then a.accepted ++ r.waiting.head?.toList else a.accepted)
          = deltaSum name a.accepted
            + deltaSum name (if accepted then r.waiting.head?.toList else []) := by
        cases accepted <;> simp [deltaSum, entriesOf]
      simp only [balance, unsettled, hsum, haccepted, unsettledBy]
      simp only [Bool.false_eq_true, if_false, hrecord]
      omega
    · simp
  | settle task =>
    simp only [Agent.step, addedBy, passedOver]
    split
    · next r hr =>
      -- what the report has delivered moves from one term to the other, except for what is unmet
      obtain ⟨hrunning, -⟩ := settling?_eq_some hr
      have hsum := sum_map_set (unsettledBy name) (getElem?_of_running? hrunning) ⟨r, true⟩
      have hsettles : a.collection.settlesInRange r.delivered = true := by
        simpa [inRange, hr] using hrange
      have hcount := Collection.count_settle (hform.carriesItsNumber hrunning) hsettles name
      simp only [balance, unsettled, hsum, unsettledBy, Report.settle, hcount, hr]
      simp only [Bool.false_eq_true, if_false, if_true, Option.map_some, Option.getD_some]
      omega
    · next hr => simp [hr]

/-- The law of a run, whatever tasks are under way at its ends. -/
theorem balance_run (hform : a.WellFormed) {events : List Event}
    (hrange : a.runsInRange events = true) (name : String) :
    (a.run events).balance name = a.balance name + added name events + a.lost name events := by
  induction events generalizing a with
  | nil => simp [run, added, lost]
  | cons e rest ih =>
    rw [runsInRange, Bool.and_eq_true] at hrange
    have hstep := balance_step hform hrange.1 name
    have hrest := ih (hform.step e) hrange.2
    simp only [run, List.foldl_cons, added, List.map_cons, List.sum_cons, lost] at hrest ⊢
    rw [hrest, hstep]
    omega

/-- An agent without tasks has nothing to settle. -/
theorem unsettled_eq_zero (h : a.isIdle = true) (name : String) : a.unsettled name = 0 := by
  refine List.sum_eq_zero fun n hn => ?_
  obtain ⟨t, ht, rfl⟩ := List.mem_map.1 hn
  have hended := List.all_eq_true.1 h t ht
  simp [unsettledBy, hended]

/-! ## Reports that do not overlap -/

/-- At most one task runs, and every counter of its report is still in the collection. -/
def Alone (a : Agent) : Prop :=
  ∀ task r, a.running? task = some r →
    (∀ other s, a.running? other = some s → other = task) ∧
      ∀ m ∈ r.delivered ++ r.waiting, m.kind = .counter →
        (a.collection.counters.get? m.id).isSome

/-- In an idle agent no task runs. -/
theorem running?_eq_none_of_isIdle (h : a.isIdle = true) (task : Nat) : a.running? task = none := by
  unfold running?
  split
  · next r htask => exact absurd (List.all_eq_true.1 h _ (List.mem_of_getElem? htask)) (by simp)
  · rfl

/-- In an idle agent no report overlaps another one. -/
theorem Alone.of_isIdle (h : a.isIdle = true) : a.Alone := by
  intro task r hr
  rw [running?_eq_none_of_isIdle h] at hr
  cases hr

/-- A change to one task is seen at its number only. -/
theorem running?_set {b : Agent} {task : Nat} {t : ReportTask}
    (hb : b.tasks = a.tasks.set task t) {other : Nat} (hne : other ≠ task) :
    b.running? other = a.running? other := by
  rw [running?, running?, hb, List.getElem?_set_ne (Ne.symm hne)]

/-- A running task that is changed runs on unless it has ended. -/
theorem running?_set_self {b : Agent} {task : Nat} {t : ReportTask} {r : Report}
    (hb : b.tasks = a.tasks.set task t) (hr : a.running? task = some r) :
    b.running? task = if t.ended then none else some t.report := by
  obtain ⟨hlt, -⟩ := List.getElem?_eq_some_iff.1 (getElem?_of_running? hr)
  obtain ⟨report, ended⟩ := t
  rw [running?, hb, List.getElem?_set_self hlt]
  cases ended <;> rfl

/-- A task that starts when all others have ended is the only one that runs. -/
theorem running?_append_of_isIdle (h : a.isIdle = true) {b : Agent} {started r : Report}
    (hb : b.tasks = a.tasks ++ [⟨started, false⟩]) {task : Nat} (hr : b.running? task = some r) :
    task = a.tasks.length ∧ r = started := by
  have htask := getElem?_of_running? hr
  rw [hb] at htask
  rcases Nat.lt_trichotomy task a.tasks.length with hlt | heq | hgt
  · rw [List.getElem?_append_left hlt] at htask
    have hnone := running?_eq_none_of_isIdle h task
    simp [running?, htask] at hnone
  · subst heq
    simp only [List.getElem?_concat_length, Option.some.injEq] at htask
    exact ⟨rfl, (congrArg ReportTask.report htask).symm⟩
  · rw [List.getElem?_eq_none (by simpa using Nat.succ_le_of_lt hgt)] at htask
    cases htask

/-- A run in which reports start one at a time keeps them apart. -/
theorem Alone.step (h : a.Alone) {e : Event} (hstart : a.startsAlone e = true) :
    (a.step e).Alone := by
  -- Only a start brings a task, and only the reports in hand are tried or settled.
  cases e with
  | add name delta =>
    intro task r hr
    obtain ⟨hone, hthere⟩ := h task r hr
    exact ⟨hone, fun m hm hkind => Collection.isSome_get?_add (hthere m hm hkind)⟩
  | set name value => exact h
  | start address =>
    simp only [Agent.step]
    split
    · exact h
    · -- the new task is the only one, and its report is a copy of the collection
      intro task r hr
      obtain ⟨rfl, rfl⟩ := running?_append_of_isIdle hstart rfl hr
      refine ⟨fun other s hs => (running?_append_of_isIdle hstart rfl hs).1, fun m hm hkind => ?_⟩
      have hmem : m ∈ a.collection.metrics := by simpa [Report.start] using hm
      obtain ⟨name, n, hget, rfl⟩ | ⟨name, x, -, rfl⟩ := Collection.mem_metrics.1 hmem
      · simp [Metric.counter, hget]
      · cases hkind
  | publish task accepted =>
    simp only [Agent.step]
    split
    · next r hr =>
      obtain ⟨hone, hthere⟩ := h task r hr
      intro other s hs
      by_cases hne : other = task
      · -- the same task goes on with what it has not tried yet
        subst hne
        rw [running?_set_self rfl hr] at hs
        cases hs
        refine ⟨fun third t ht => ?_, fun m hm => hthere m ((sublist_record r accepted).subset hm)⟩
        refine Classical.byContradiction fun hthird => hthird ?_
        exact hone third t ((running?_set rfl hthird).symm.trans ht)
      · exact absurd (hone other s ((running?_set rfl hne).symm.trans hs)) hne
    · exact h
  | settle task =>
    simp only [Agent.step]
    split
    · next r hr =>
      -- the only task has ended
      obtain ⟨hrunning, -⟩ := settling?_eq_some hr
      obtain ⟨hone, -⟩ := h task r hrunning
      intro other s hs
      by_cases hne : other = task
      · subst hne
        rw [running?_set_self rfl hrunning] at hs
        cases hs
      · exact absurd (hone other s ((running?_set rfl hne).symm.trans hs)) hne
    · exact h

/-- A report that runs alone finds every counter that it has delivered. -/
theorem passedOver_eq_zero (hform : a.WellFormed) (halone : a.Alone) (name : String) (e : Event) :
    a.passedOver name e = 0 := by
  -- Only settling passes anything over, and only where an entry is gone.
  cases e with
  | settle task =>
    simp only [passedOver]
    cases hr : a.settling? task with
    | none => rfl
    | some r =>
      obtain ⟨hrunning, -⟩ := settling?_eq_some hr
      obtain ⟨c, hc⟩ := hform.running hrunning
      have hdelivered := (List.sublist_append_left r.delivered r.waiting).trans hc
      exact Collection.unmet_eq_zero (c.pairwise_metrics.sublist hdelivered)
        (hform.carriesItsNumber hrunning)
        (fun m hm => (halone task r hrunning).2 m (List.mem_append_left _ hm)) name
  | add n delta => rfl
  | set n value => rfl
  | start address => rfl
  | publish task accepted => rfl

/-- Reports that do not overlap pass over nothing. -/
theorem lost_eq_zero (hform : a.WellFormed) (halone : a.Alone) {events : List Event}
    (hsequential : a.isSequential events = true) (name : String) : a.lost name events = 0 := by
  induction events generalizing a with
  | nil => rfl
  | cons e rest ih =>
    rw [isSequential, Bool.and_eq_true] at hsequential
    rw [lost, passedOver_eq_zero hform halone,
      ih (hform.step e) (halone.step hsequential.1) hsequential.2]
    rfl

/-! ## A whole report -/

/-- The event is an increment or a sample. -/
def Event.isPoll : Event → Bool
  | .add _ _ => true
  | .set _ _ => true
  | _ => false

/-- What publishing does to an agent when others poll in the meantime. -/
def publishing (polls : Metric → List Event) (outcome : Metric → Except ReportError Unit)
    (a : Agent) (m : Metric) : Except ReportError Unit × Agent :=
  let polled := a.run (polls m)
  (outcome m,
    { polled with
      accepted := if (outcome m).toBool then polled.accepted ++ [m] else polled.accepted })

/-- The events of a report as the task of a number. -/
def eventsOf (polls : Metric → List Event) (outcome : Metric → Except ReportError Unit)
    (task : Nat) (metrics : List Metric) : List Event :=
  metrics.flatMap fun m => polls m ++ [.publish task (outcome m).toBool]

/-- Polls act on the collection and on nothing else. -/
theorem run_polls {events : List Event} (hpolls : ∀ e ∈ events, e.isPoll = true) (a : Agent)
    (tasks : List ReportTask) :
    (a.run events).tasks = a.tasks ∧ (a.run events).accepted = a.accepted ∧
      ({ a with tasks } : Agent).run events = { a.run events with tasks } := by
  induction events generalizing a with
  | nil => exact ⟨rfl, rfl, rfl⟩
  | cons e rest ih =>
    obtain ⟨he, hrest⟩ := List.forall_mem_cons.1 hpolls
    cases e with
    | add name delta => exact ih hrest _
    | set name value => exact ih hrest _
    | start address => cases he
    | publish task accepted => cases he
    | settle task => cases he

/-- Trying a metric takes it off what is left, whatever the transport says. -/
theorem waiting_record {r : Report} {m : Metric} {rest : List Metric} (h : r.waiting = m :: rest)
    (published : Bool) : (r.record published).waiting = rest := by
  obtain ⟨waiting, delivered, failed⟩ := r
  cases h
  cases published <;> rfl

/-- The publications of a report, one after another, are steps of its task. -/
theorem run_eventsOf {polls : Metric → List Event}
    (hpolls : ∀ m, ∀ e ∈ polls m, e.isPoll = true) (outcome : Metric → Except ReportError Unit)
    (tasks : List ReportTask) (metrics : List Metric) (r : Report) (hwaiting : r.waiting = metrics)
    (a : Agent) :
    let published := Report.publishAll (publishing polls outcome) r a metrics
    ({ a with tasks := tasks ++ [⟨r, false⟩] } : Agent).run
        (eventsOf polls outcome tasks.length metrics)
      = { published.2 with tasks := tasks ++ [⟨published.1, false⟩] } ∧
    published.1.waiting = [] := by
  -- The task is the last one, so the polls and the other tasks leave it alone.
  induction metrics generalizing r a with
  | nil => exact ⟨rfl, hwaiting⟩
  | cons m rest ih =>
    have hrecord := waiting_record hwaiting (outcome m).toBool
    obtain ⟨-, -, hframe⟩ := run_polls (hpolls m) a (tasks ++ [⟨r, false⟩])
    have hrest := ih _ hrecord (publishing polls outcome a m).2
    simp only [eventsOf, List.flatMap_cons, run, List.foldl_append] at hframe hrest ⊢
    rw [hframe]
    simp only [List.foldl_cons, List.foldl_nil, Agent.step, running?, List.getElem?_concat_length,
      hwaiting, List.head?_cons, Option.toList_some, List.set_append_right _ _ (Nat.le_refl _),
      Nat.sub_self, List.set_cons_zero]
    exact hrest

/-- A whole report, while others poll, is a run of the steps of one task. -/
theorem process_eq_run {polls : Metric → List Event}
    (hpolls : ∀ m, ∀ e ∈ polls m, e.isPoll = true) (outcome : Metric → Except ReportError Unit)
    (a : Agent) {address : String} (haddress : Text.isAllBlank address = false) :
    let processed := Report.process collection
      (fun update a => { a with collection := update a.collection }) (publishing polls outcome)
      address a
    let ran := a.run (.start address :: (eventsOf polls outcome a.tasks.length a.collection.metrics
      ++ [.settle a.tasks.length]))
    processed.1 = .ok () ∧ processed.2.collection = ran.collection ∧
      processed.2.accepted = ran.accepted := by
  obtain ⟨hrun, hdone⟩ := run_eventsOf hpolls outcome a.tasks a.collection.metrics
    (.start a.collection) rfl a
  simp only [run, List.foldl_cons, List.foldl_append, List.foldl_nil, Report.process, Report.send,
    haddress, Agent.step, Bool.false_eq_true, if_false] at hrun ⊢
  rw [hrun]
  simp [settling?, running?, Option.filter_some, hdone]

/-! ## The law -/

/-- **What overlapping reports bring to the server.** Take any collection, any number of reports on
it in any order of their steps with increments, no counter leaving the range, and let all reports
come to their ends. Then for every counter, what the transport has accepted and what is left are
together what was there at first, what was added and what was passed over. So nothing is delivered
twice or lost exactly if what was passed over sums up to zero, and so it does if the reports do not
overlap. -/
theorem accepted_add_count_eq (c : Collection) (events : List Event)
    (hrange : (ofCollection c).runsInRange events = true)
    (hidle : ((ofCollection c).run events).isIdle = true) (name : String) :
    let a := (ofCollection c).run events
    let lost := (ofCollection c).lost name events
    deltaSum name a.accepted + a.collection.count name = c.count name + added name events + lost ∧
    (deltaSum name a.accepted + a.collection.count name = c.count name + added name events ↔
      lost = 0) ∧
    ((ofCollection c).isSequential events = true → lost = 0) := by
  have hform : (ofCollection c).WellFormed := fun t ht => nomatch ht
  -- The balance is what was accepted and what is in the collection, less what is not settled yet.
  have hbalance := balance_run hform hrange name
  have hstart : (ofCollection c).balance name = c.count name := by
    simp [balance, ofCollection, unsettled, deltaSum, entriesOf]
  have hlaw : deltaSum name ((ofCollection c).run events).accepted
        + ((ofCollection c).run events).collection.count name
      = c.count name + added name events + (ofCollection c).lost name events := by
    rw [← hstart, ← hbalance, balance, unsettled_eq_zero hidle]
    omega
  refine ⟨hlaw, ?_, fun hsequential => ?_⟩
  · rw [hlaw]
    omega
  · exact lost_eq_zero hform (.of_isIdle rfl) hsequential name

/-- Two reports on the same three increments, the second started before the first has settled. -/
def overlap : List Event :=
  [.add "PollCount" 3, .start "server", .start "server", .publish 0 true, .publish 1 true,
    .settle 0, .settle 1]

/-- The second report settles when the first has dropped the counter: six are accepted of three, and
nothing is left to make up for it. -/
theorem overlap_counts_twice :
    (ofCollection Collection.empty).runsInRange overlap = true ∧
    ((ofCollection Collection.empty).run overlap).isIdle = true ∧
    deltaSum "PollCount" ((ofCollection Collection.empty).run overlap).accepted = 6 ∧
    ((ofCollection Collection.empty).run overlap).collection.count "PollCount" = 0 ∧
    added "PollCount" overlap = 3 := by
  decide +kernel

/-- Two reports one after the other, with an increment while the first is under way. -/
def inTurn : List Event :=
  [.add "PollCount" 3, .start "server", .publish 0 true, .add "PollCount" 2, .settle 0,
    .start "server", .publish 1 true, .settle 1]

/-- The law at these two runs: overlapping reports count what was passed over, and reports that take
turns pass nothing over. -/
theorem lost_of_overlap :
    (ofCollection Collection.empty).runsInRange overlap = true ∧
    ((ofCollection Collection.empty).run overlap).isIdle = true ∧
    deltaSum "PollCount" ((ofCollection Collection.empty).run overlap).accepted
        + ((ofCollection Collection.empty).run overlap).collection.count "PollCount"
      = Collection.empty.count "PollCount" + added "PollCount" overlap
        + (ofCollection Collection.empty).lost "PollCount" overlap ∧
    (ofCollection Collection.empty).runsInRange inTurn = true ∧
    ((ofCollection Collection.empty).run inTurn).isIdle = true ∧
    (ofCollection Collection.empty).isSequential inTurn = true ∧
    (ofCollection Collection.empty).lost "PollCount" inTurn = 0 := by
  -- Two tasks report the same counter, first at the same time and then in turn.
  have hrange : (ofCollection Collection.empty).runsInRange overlap = true := by decide +kernel
  have hidle : ((ofCollection Collection.empty).run overlap).isIdle = true := by decide +kernel
  have hturns : (ofCollection Collection.empty).runsInRange inTurn = true := by decide +kernel
  have hdone : ((ofCollection Collection.empty).run inTurn).isIdle = true := by decide +kernel
  have hsequential : (ofCollection Collection.empty).isSequential inTurn = true := by
    decide +kernel
  exact ⟨hrange, hidle,
    (accepted_add_count_eq Collection.empty overlap hrange hidle "PollCount").1,
    hturns, hdone, hsequential,
    (accepted_add_count_eq Collection.empty inTurn hturns hdone "PollCount").2.2 hsequential⟩

end Agent

end Telemetry

import Mathlib.Data.List.TakeWhile
import Telemetry.Proofs.Collection
import Telemetry.Proofs.Snapshot.Listing
import Telemetry.Proofs.Text
import Telemetry.Report

/-!
# What a report leaves

A report publishes what was gathered when it started, whatever others add meanwhile and whatever
fails (`publishAll_publish`), and at its end takes off what was delivered. So of every counter there
remains what was not delivered and what was added meanwhile (`Settled`). A counter is there at the
end unless it never was or nothing remains of it: it is the settling that drops counters, and it
looks only at those that were delivered.
-/

namespace Telemetry

/-- A text is blank if nothing is left of it when it is trimmed. -/
theorem Text.isAllBlank_iff {s : String} : isAllBlank s = true ↔ trim s = "" := by
  have hstrip : trim s = "" ↔ stripBoth isBlank s.toList = [] := by
    rw [trim, ← String.toList_inj, String.toList_ofList]
    rfl
  rw [hstrip, isAllBlank, List.all_eq_true]
  constructor
  · intro h
    rw [stripBoth, (span_of_forall h).2]
    rfl
  · intro h
    rw [stripBoth, List.reverse_eq_nil_iff, List.dropWhile_eq_nil_iff] at h
    intro c hc
    rw [← List.takeWhile_append_dropWhile (p := isBlank) (l := s.toList)] at hc
    obtain hc | hc := List.mem_append.1 hc
    · exact List.mem_takeWhile_imp hc
    · exact h c (List.mem_reverse.2 hc)

namespace Collection

/-! ## Changes -/

/-- The delta that a change adds to a counter, if it does. -/
def Change.delta? (name : String) : Change → Option Int64
  | .add other delta => if other = name then some delta else none
  | .set _ _ => none

/-- The value that a change gives to a gauge, if it does. -/
def Change.value? (name : String) : Change → Option Binary64
  | .add _ _ => none
  | .set other value => if other = name then some value else none

/-- The deltas that changes add to a counter. -/
def deltas (name : String) (changes : List Change) : List Int64 :=
  changes.filterMap (Change.delta? name)

/-- The exact sum of what changes add to a counter. -/
def net (name : String) (changes : List Change) : Int :=
  ((deltas name changes).map Int64.toInt).sum

/-- The last value that changes give to a gauge. -/
def lastSet? (name : String) (changes : List Change) : Option Binary64 :=
  (changes.filterMap (Change.value? name)).getLast?

variable {c : Collection} {name : String} {changes : List Change}

theorem net_append (name : String) (xs ys : List Change) :
    net name (xs ++ ys) = net name xs + net name ys := by
  simp [net, deltas]

theorem net_cons (name : String) (x : Change) (rest : List Change) :
    net name (x :: rest) = net name [x] + net name rest :=
  net_append name [x] rest

/-- No change makes a counter leave the range. -/
def changesInRange (c : Collection) : List Change → Bool
  | [] => true
  | .add name delta :: rest =>
    FitsInt64 (c.count name + delta.toInt) && (c.add name delta).changesInRange rest
  | .set name value :: rest => (c.set name value).changesInRange rest

/-- Changes add to a counter what they amount to. -/
theorem count_changeAll (h : c.changesInRange changes = true) (name : String) :
    (c.changeAll changes).count name = c.count name + net name changes := by
  induction changes generalizing c with
  | nil => exact (Int.add_zero _).symm
  | cons x rest ih =>
    cases x with
    | add other delta =>
      rw [changesInRange, Bool.and_eq_true, decide_eq_true_eq] at h
      have hnet : net name [.add other delta] = if other = name then delta.toInt else 0 := by
        by_cases hname : other = name <;> simp [net, deltas, Change.delta?, hname]
      show ((c.add other delta).changeAll rest).count name = _
      rw [ih h.2, count_add h.1, net_cons, hnet, Int.add_assoc]
    | set other value => exact ih h

/-- A counter is absent after changes if it was absent and none of them adds to it. -/
theorem get?_changeAll_eq_none_iff :
    (c.changeAll changes).counters.get? name = none ↔
      c.counters.get? name = none ∧ deltas name changes = [] := by
  induction changes generalizing c with
  | nil => exact (and_iff_left rfl).symm
  | cons x rest ih =>
    have hcons : deltas name (x :: rest) = (x.delta? name).toList ++ deltas name rest := by
      cases h : x.delta? name <;> simp [deltas, h]
    have hstep : (c.change x).counters.get? name = none ↔
        c.counters.get? name = none ∧ x.delta? name = none := by
      cases x with
      | add other delta =>
        by_cases hname : other = name <;> simp [change, add, Change.delta?, hname]
      | set other value => exact (and_iff_left rfl).symm
    show ((c.change x).changeAll rest).counters.get? name = none ↔ _
    rw [ih, hstep, hcons, List.append_eq_nil_iff, Option.toList_eq_nil_iff, and_assoc]

/-- A gauge has the last value that it was given. -/
theorem get?_gauges_changeAll (c : Collection) (changes : List Change) (name : String) :
    (c.changeAll changes).gauges.get? name = (lastSet? name changes).or (c.gauges.get? name) := by
  induction changes generalizing c with
  | nil => rfl
  | cons x rest ih =>
    -- The last value that is set comes from the later changes, or else from the first one.
    have hcons : lastSet? name (x :: rest) = (lastSet? name rest).or (x.value? name) := by
      unfold lastSet?
      cases h : x.value? name with
      | none => simp [h]
      | some v => cases hlast : (rest.filterMap (Change.value? name)).getLast? <;>
          simp [h, List.getLast?_cons, hlast]
    have hstep : (c.change x).gauges.get? name = (x.value? name).or (c.gauges.get? name) := by
      cases x with
      | add other delta => rfl
      | set other value =>
        by_cases hname : other = name <;> simp [change, set, Change.value?, hname]
    show ((c.change x).changeAll rest).gauges.get? name = _
    rw [ih, hstep, hcons, Option.or_assoc]

/-! ## Settling -/

theorem settle_append (c : Collection) (xs ys : List Metric) :
    c.settle (xs ++ ys) = (c.settle xs).settle ys := List.foldl_append

/-- Settling leaves the gauges as they are. -/
theorem gauges_settleOne (c : Collection) (m : Metric) : (c.settleOne m).gauges = c.gauges := by
  unfold settleOne
  split
  · split <;> rfl
  · rfl

/-- Settling leaves the gauges alone. -/
theorem gauges_settle (c : Collection) (sent : List Metric) :
    (c.settle sent).gauges = c.gauges := by
  induction sent generalizing c with
  | nil => rfl
  | cons m rest ih => exact (ih (c.settleOne m)).trans (gauges_settleOne c m)

/-- Settling leaves the counters alone that were not delivered. -/
theorem get?_settle_of_forall_ne {sent : List Metric}
    (hcarries : ∀ m ∈ sent, m.carriesItsNumber = true)
    (hne : ∀ m ∈ sent, m.kind = .counter → m.id ≠ name) :
    (c.settle sent).counters.get? name = c.counters.get? name := by
  induction sent generalizing c with
  | nil => rfl
  | cons m rest ih =>
    obtain ⟨hm, hrest⟩ := List.forall_mem_cons.1 hcarries
    obtain ⟨hname, hnames⟩ := List.forall_mem_cons.1 hne
    refine (ih hrest hnames).trans ?_
    cases hkind : m.kind with
    | counter => exact get?_settleOne_of_ne (hname hkind)
    | gauge =>
      have hdelta : m.delta = none := by simp_all [Metric.carriesItsNumber]
      rw [settleOne_of_delta_none hdelta]

/-- If everything settles in range the later metrics do so behind the earlier ones. -/
theorem settlesInRange_append {xs ys : List Metric}
    (h : c.settlesInRange (xs ++ ys) = true) : (c.settle xs).settlesInRange ys = true := by
  induction xs generalizing c with
  | nil => exact h
  | cons m rest ih =>
    rw [List.cons_append, settlesInRange, Bool.and_eq_true] at h
    exact ih h.2

/-- A counter that was delivered keeps what has come since, and is dropped if that is nothing. -/
theorem get?_settle_of_mem {sent : List Metric} {n current : Int64}
    (hcarries : ∀ m ∈ sent, m.carriesItsNumber = true)
    (hdistinct : sent.Pairwise fun m k => m.kind = .counter → k.kind = .counter → m.id ≠ k.id)
    (hmem : Metric.counter name n ∈ sent) (hget : c.counters.get? name = some current)
    (hrange : c.settlesInRange sent = true) :
    FitsInt64 (current.toInt - n.toInt) ∧
      (c.settle sent).counters.get? name
        = if current - n = 0 then none else some (current - n) := by
  obtain ⟨before, after, rfl⟩ := List.append_of_mem hmem
  obtain ⟨-, hafter, hbefore⟩ := List.pairwise_append.1 hdistinct
  obtain ⟨hcarriesBefore, hcarriesAfter⟩ := List.forall_mem_append.1 hcarries
  -- nothing happens to the counter before its turn
  have hturn : (c.settle before).counters.get? name = some current := by
    rw [get?_settle_of_forall_ne hcarriesBefore, hget]
    exact fun m hm hkind => hbefore m hm _ List.mem_cons_self hkind rfl
  have hfits : FitsInt64 (current.toInt - n.toInt) := by
    have hrest := settlesInRange_append hrange
    rw [settlesInRange, Bool.and_eq_true] at hrest
    have hfirst := hrest.1
    rw [show (Metric.counter name n).id = name from rfl, hturn] at hfirst
    exact of_decide_eq_true hfirst
  have hsettled : ((c.settle before).settleOne (.counter name n)).counters.get? name
      = if current - n = 0 then none else some (current - n) := by
    simp only [settleOne, Metric.counter, hturn]
    split <;> simp
  refine ⟨hfits, ?_⟩
  rw [settle_append]
  refine (get?_settle_of_forall_ne (List.forall_mem_cons.1 hcarriesAfter).2 ?_).trans hsettled
  exact fun m hm hkind heq => (List.pairwise_cons.1 hafter).1 m hm rfl hkind heq.symm

/-! ## What remains -/

/-- A counter is among delivered metrics. -/
def Delivers (delivered : List Metric) (name : String) : Prop :=
  ∃ m ∈ delivered, m.kind = .counter ∧ m.id = name

instance (delivered : List Metric) (name : String) : Decidable (Delivers delivered name) :=
  inferInstanceAs (Decidable (∃ m ∈ delivered, m.kind = .counter ∧ m.id = name))

/-- What remains of a collection once others have changed it and what was delivered is taken off. -/
structure Settled (c : Collection) (changes : List Change) (delivered : List Metric)
    (last : Collection) : Prop where
  count : ∀ name, last.count name = c.count name + net name changes
    - if Delivers delivered name then c.count name else 0
  absent_iff : ∀ name, last.counters.get? name = none ↔
    c.counters.get? name = none ∧ deltas name changes = [] ∨
      Delivers delivered name ∧ net name changes = 0
  gauge : ∀ name, last.gauges.get? name = (lastSet? name changes).or (c.gauges.get? name)

variable {delivered : List Metric}

/-- A delivered counter of a collection. -/
theorem exists_of_delivers (hsub : delivered.Sublist c.metrics)
    (h : Delivers delivered name) :
    ∃ n, Metric.counter name n ∈ delivered ∧ c.counters.get? name = some n := by
  obtain ⟨m, hm, hkind, rfl⟩ := h
  obtain ⟨other, n, hn, rfl⟩ | ⟨other, x, -, rfl⟩ := mem_metrics.1 (hsub.subset hm)
  · exact ⟨n, hm, hn⟩
  · cases hkind

/-- A delivered counter keeps what others have added to it meanwhile. -/
theorem settle_of_delivers (hsub : delivered.Sublist c.metrics)
    (hchanges : c.changesInRange changes = true)
    (hsettles : (c.changeAll changes).settlesInRange delivered = true)
    (hname : Delivers delivered name) :
    (((c.changeAll changes).settle delivered).counters.get? name = none ↔ net name changes = 0) ∧
      ((c.changeAll changes).settle delivered).count name = net name changes := by
  obtain ⟨n, hmem, hn⟩ := exists_of_delivers hsub hname
  -- Changes take no counter away, so the delivered one is still there.
  obtain ⟨current, hcurrent⟩ : ∃ current,
      (c.changeAll changes).counters.get? name = some current := by
    refine Option.ne_none_iff_exists'.1 fun hnone => ?_
    rw [(get?_changeAll_eq_none_iff.1 hnone).1] at hn
    cases hn
  have hcarries : ∀ m ∈ delivered, m.carriesItsNumber = true := fun m hm =>
    carriesItsNumber_of_mem_metrics (hsub.subset hm)
  obtain ⟨hfits, hget⟩ :=
    get?_settle_of_mem hcarries ((pairwise_metrics c).sublist hsub) hmem hcurrent hsettles
  have hrest : (current - n).toInt = net name changes := by
    have hcount := count_changeAll hchanges name
    simp only [count, hcurrent, hn, Option.getD_some] at hcount
    rw [toInt_sub_of_fits hfits, hcount]
    omega
  -- The counter is dropped when nothing remains, and what remains is what the changes have added.
  have hzero : current - n = 0 ↔ net name changes = 0 := by
    rw [← hrest, ← Int64.toInt_inj]
    rfl
  rw [count, hget, ← hzero]
  by_cases h : current - n = 0
  · simp [h, ← hrest]
  · simp [h, hrest]

/-- A counter that was not delivered keeps all that it has. -/
theorem settle_of_not_delivers (hsub : delivered.Sublist c.metrics)
    (hname : ¬ Delivers delivered name) :
    ((c.changeAll changes).settle delivered).counters.get? name
      = (c.changeAll changes).counters.get? name :=
  get?_settle_of_forall_ne (fun _ hm => carriesItsNumber_of_mem_metrics (hsub.subset hm))
    fun m hm hkind heq => hname ⟨m, hm, hkind, heq⟩

/-- What is delivered of a collection is taken off it, whatever others have changed. -/
theorem settled_settle (hsub : delivered.Sublist c.metrics)
    (hchanges : c.changesInRange changes = true)
    (hsettles : (c.changeAll changes).settlesInRange delivered = true) :
    Settled c changes delivered ((c.changeAll changes).settle delivered) where
  count name := by
    -- A counter that was not delivered is not settled.
    by_cases hname : Delivers delivered name
    · rw [if_pos hname, (settle_of_delivers hsub hchanges hsettles hname).2]
      omega
    · rw [if_neg hname, Int.sub_zero, ← count_changeAll hchanges, Collection.count,
        settle_of_not_delivers hsub hname, Collection.count]
  absent_iff name := by
    by_cases hname : Delivers delivered name
    · obtain ⟨n, -, hn⟩ := exists_of_delivers hsub hname
      simp [(settle_of_delivers hsub hchanges hsettles hname).1, hname, hn]
    · rw [settle_of_not_delivers hsub hname, get?_changeAll_eq_none_iff]
      simp [hname]
  gauge name := by rw [gauges_settle, get?_gauges_changeAll]

end Collection

/-! ## A report -/

namespace Report

open Collection

variable {during : Metric → Publication} {after : List Change} {address : String} {c : Collection}

theorem changeAll_append (c : Collection) (xs ys : List Change) :
    c.changeAll (xs ++ ys) = (c.changeAll xs).changeAll ys := List.foldl_append

/-- Each waiting metric is published once, in its turn, whatever happens meanwhile. -/
theorem publishAll_publish (metrics delivered : List Metric) (failed : Nat) (w : World) :
    publishAll (World.publish during address) ⟨metrics, delivered, failed⟩ w metrics =
      (⟨[], delivered ++ succeeding during metrics, failed + (failing during metrics).length⟩,
        ⟨w.collection.changeAll (changesDuring during metrics),
          w.published ++ metrics.map (address, ·)⟩) := by
  -- Each metric is sent once; what changes meanwhile comes before the next one is sent.
  induction metrics generalizing delivered failed w with
  | nil => simp [publishAll, succeeding, failing, changesDuring, changeAll]
  | cons m rest ih =>
    have hstep : publishAll (World.publish during address) ⟨m :: rest, delivered, failed⟩ w
        (m :: rest) = publishAll (World.publish during address)
          (record ⟨m :: rest, delivered, failed⟩ (during m).outcome.toBool)
          ⟨w.collection.changeAll (during m).changes, w.published ++ [(address, m)]⟩ rest := rfl
    rw [hstep]
    cases houtcome : (during m).outcome.toBool with
    | true =>
      refine (ih (delivered ++ [m]) failed _).trans ?_
      simp [succeeding, failing, changesDuring, changeAll_append, houtcome]
    | false =>
      refine (ih delivered (failed + 1) _).trans ?_
      simp [succeeding, failing, changesDuring, changeAll_append, houtcome]
      omega

/-- To a blank address nothing is sent, so nothing changes meanwhile. -/
theorem sendAmid_of_blank (h : Text.trim address = "") :
    sendAmid during address c = (.error (.invalidAddress address), ⟨c, []⟩) :=
  if_pos (Text.isAllBlank_iff.2 h)

/-- To any other address every metric is tried once, and the collection takes every change
meanwhile. -/
theorem sendAmid_of_not_blank (h : Text.trim address ≠ "") :
    sendAmid during address c =
      (.ok ⟨[], succeeding during c.metrics, (failing during c.metrics).length⟩,
        ⟨c.changeAll (changesDuring during c.metrics), c.metrics.map (address, ·)⟩) := by
  have hblank : ¬ Text.isAllBlank address = true := mt Text.isAllBlank_iff.1 h
  rw [sendAmid, send, if_neg hblank]
  simp only [start, publishAll_publish, List.nil_append, Nat.zero_add]

/-- A report to a blank address fails before anything is copied. -/
theorem processAmid_of_blank (h : Text.trim address = "") :
    processAmid during after address c = (.error (.invalidAddress address), ⟨c, []⟩) := by
  have hsend : send World.collection (World.publish during address) address ⟨c, []⟩ = _ :=
    sendAmid_of_blank h
  rw [processAmid, process, hsend]

/-- A report to any other address settles what was delivered, on what the changes have made of the
collection by then. -/
theorem processAmid_of_not_blank (h : Text.trim address ≠ "") :
    processAmid during after address c =
      (.ok (), ⟨(c.changeAll (changesDuring during c.metrics ++ after)).settle
        (succeeding during c.metrics), c.metrics.map (address, ·)⟩) := by
  have hsend : send World.collection (World.publish during address) address ⟨c, []⟩ = _ :=
    sendAmid_of_not_blank h
  rw [processAmid, process, hsend]
  simp only [World.update, settle, changeAll_append]

/-- No change and no settling makes a counter leave the range. -/
def inRange (during : Metric → Publication) (after : List Change) (c : Collection) : Bool :=
  c.changesInRange (changesDuring during c.metrics ++ after) &&
    (c.changeAll (changesDuring during c.metrics ++ after)).settlesInRange
      (succeeding during c.metrics)

/-- What a report to a server does, whatever others change meanwhile and whatever fails. -/
structure Reported (during : Metric → Publication) (after : List Change) (address : String)
    (c : Collection) : Prop where
  /-- What is gathered at the start, each metric once. -/
  mem_iff : ∀ m, m ∈ c.metrics ↔ c.toSnapshot.get? m.id m.kind = some m
  /-- The counters in front of the gauges, and each kind by name. -/
  ordered : c.metrics.Pairwise Metric.Precedes
  /-- What succeeds is delivered, and the rest is counted. -/
  send : sendAmid during address c =
    (.ok ⟨[], succeeding during c.metrics, (failing during c.metrics).length⟩,
      ⟨c.changeAll (changesDuring during c.metrics), c.metrics.map (address, ·)⟩)
  /-- Everything is published once, in its order, and what was delivered is taken off. -/
  process : ∃ last, processAmid during after address c =
      (.ok (), ⟨last, c.metrics.map (address, ·)⟩) ∧
    (inRange during after c = true →
      Settled c (changesDuring during c.metrics ++ after) (succeeding during c.metrics) last)

/-- **What a report does.** To a blank address it fails, and nothing is published or changed. To any
other one it publishes once each metric that was gathered when it started, in their order. What
others change meanwhile, to whatever counters and gauges, is kept; of the counters that were
delivered, and only of those, the reported count is taken off, and they are dropped if nothing has
been added to them. -/
theorem report_postcondition (during : Metric → Publication) (after : List Change)
    (address : String) (c : Collection) :
    (Text.trim address = "" →
      processAmid during after address c = (.error (.invalidAddress address), ⟨c, []⟩)) ∧
    (Text.trim address ≠ "" → Reported during after address c) := by
  refine ⟨processAmid_of_blank, fun haddress => ?_⟩
  have hsub : (succeeding during c.metrics).Sublist c.metrics := List.filter_sublist
  refine ⟨fun m => Snapshot.mem_metrics_iff (s := c.toSnapshot),
    Snapshot.pairwise_metrics c.toSnapshot, sendAmid_of_not_blank haddress,
    ⟨_, processAmid_of_not_blank haddress, fun hrange => ?_⟩⟩
  obtain ⟨hchanges, hsettles⟩ := Bool.and_eq_true_iff.1 hrange
  exact settled_settle hsub hchanges hsettles

/-- Four counters and a gauge. -/
def gathered : Collection :=
  ⟨.ofList [("a", 4), ("b", 1), ("c", 0), ("d", 2)], .ofList [("g", Binary64.zero)]⟩

/-- While the counter `a` is delivered it grows, a new counter comes up and the gauge is set; `b`
and `c` cannot be delivered; and what is added to `d` meanwhile amounts to nothing. -/
def busily (m : Metric) : Publication :=
  if m.id = "a" then ⟨[.add "a" 2, .add "new" 1, .set "g" ⟨1⟩], .ok ()⟩
  else if m.id = "b" then ⟨[.add "b" 3], .error .http⟩
  else if m.id = "c" then ⟨[.add "d" 5, .add "new" (-1)], .error .http⟩
  else ⟨[], .ok ()⟩

/-- What remains of these counters. -/
theorem report_postcondition_busily :
    Text.trim " server" ≠ "" ∧ inRange busily [.add "d" (-5)] gathered = true ∧
      Reported busily [.add "d" (-5)] " server" gathered ∧
      (processAmid busily [.add "d" (-5)] " server" gathered).2.collection
        = ⟨.ofList [("a", 2), ("b", 4), ("c", 0), ("new", 0)], .ofList [("g", ⟨1⟩)]⟩ := by
  have haddress : Text.trim " server" ≠ "" := by decide
  exact ⟨haddress, by decide +kernel,
    (report_postcondition busily [.add "d" (-5)] " server" gathered).2 haddress, by decide +kernel⟩

end Report

end Telemetry

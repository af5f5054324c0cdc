import Mathlib.Data.List.DropRight
import Telemetry.Proofs.Wire.Message
import Telemetry.Report.Http
import Telemetry.Report.Session
import Telemetry.Store

/-!
# Where metrics are created

A link keeps its connection whatever address comes with the next metric. Which address a connection
was opened for can be read off the results of the publications so far: it is the address of the
first one since the last that left no connection behind (`openedFor?`, `Consistent.run`). What is
published successfully is created on that server and on no other.

So a metric is created on the server of its own address exactly if no connection is kept or the kept
one leads there (`created_where_connected`). This is so whenever all addresses name one server, and
behind every publication that found its server unavailable, since the next one asks for a connection
of its own.
-/

namespace Telemetry

open Address (base)

variable {σ : Type}

/-! ## One call -/

section Call

variable [Store σ]

/-- A metric has been created on a server, and on no other. -/
structure Servers.Created (before : Servers σ) (server : String) (m : Metric)
    (after : Servers σ) : Prop where
  created : after.created = before.created ++ [(server, WireMetric.ofMetric m)]
  stored : ∃ stored, Store.create (before.stores server) m = (.ok stored, after.stores server)
  others : ∀ other, other ≠ server → after.stores other = before.stores other

/-- A call that creates a metric stores it. -/
theorem Rpc.exists_stored_of_createMetric {s next : σ} {m : Metric} {text : String}
    (h : Rpc.createMetric s (WireMetric.ofMetric m) = (.ok text, next)) :
    ∃ stored, Store.create s m = (.ok stored, next) := by
  rw [createMetric, WireMetric.toMetric_ofMetric] at h
  -- A call that answers with a text has passed the check of the metric and the store.
  cases hvalid : m.validate with
  | error e =>
    rw [hvalid] at h
    cases h
  | ok _ =>
    rw [hvalid] at h
    cases hcreate : Store.create s m with
    | mk result after =>
      simp only [Except.map, hcreate, Prod.mk.injEq] at h
      obtain ⟨hresult, rfl⟩ := h
      cases result with
      | error e => cases hresult
      | ok stored => exact ⟨stored, rfl⟩

namespace Servers

variable {servers next : Servers σ} {server other : String} {m : Metric}

/-- A call that succeeds has created the metric on its server and touched no other. -/
theorem created_of_create {text : String}
    (h : servers.create server (WireMetric.ofMetric m) = (.ok text, next)) :
    servers.Created server m next := by
  obtain ⟨hresult, rfl⟩ := Prod.mk.inj h
  refine ⟨?_, ?_, fun other hother => if_neg hother⟩
  · simp only [hresult, Except.toBool, if_true]
  · simp only [if_true]
    exact Rpc.exists_stored_of_createMetric (Prod.ext hresult rfl)

/-- A metric is created on one server. -/
theorem Created.server_eq (h : servers.Created server m next)
    (hother : servers.Created other m next) : server = other := by
  have hsame := List.append_cancel_left (h.created.symm.trans hother.created)
  exact congrArg Prod.fst (List.cons.inj hsame).1

end Servers

/-- Only a call that is carried out and answered succeeds. -/
theorem CallFate.created_of_carryOut {fate : CallFate} {servers next : Servers σ} {server : String}
    {m : Metric} (h : fate.carryOut servers server (WireMetric.ofMetric m) = (.ok (), next)) :
    servers.Created server m next := by
  cases fate with
  | answered =>
    cases hcreate : servers.create server (WireMetric.ofMetric m) with
    | mk result after =>
      simp only [carryOut, hcreate, Prod.mk.injEq] at h
      obtain ⟨hresult, rfl⟩ := h
      cases result with
      | error e => cases hresult
      | ok text => exact Servers.created_of_create hcreate
  | unanswered code text => cases h
  | lost code text => cases h

end Call

/-! ## One publication -/

namespace ServiceLink

/-- The server that a publication to an address is sent to: that of the kept connection, if there is
one, or its own. -/
def server (link : ServiceLink) (address : String) : String :=
  link.connection.getD (base address)

/-- A connection is asked for if none is kept, and then for the address that is given. -/
theorem asked?_eq_some_iff {link : ServiceLink} {address a : String} :
    link.asked? address = some a ↔ link.connection = none ∧ base address = a := by
  unfold asked?
  cases link.connection with
  | none => simp
  | some kept => simp

/-- What becomes of a publication. -/
inductive Course (link : ServiceLink) (network : ServiceNetwork σ) (world : σ)
    (address : String) (m : Metric) : Except ReportError Unit × ServiceLink × σ → Prop
  | unconnected (hasked : link.asked? address = some (base address))
      (hconnects : network.connects world (base address) = false) :
      Course link network world address m (.error .connect, link, world)
  | succeeded {next : σ} (hasked : ∀ a ∈ link.asked? address, network.connects world a = true)
      (hcall : network.call world (link.server address) (.ofMetric m) = (.ok (), next)) :
      Course link network world address m (.ok (), ⟨some (link.server address)⟩, next)
  | failed {code : RpcCode} {text : String} {next : σ}
      (hasked : ∀ a ∈ link.asked? address, network.connects world a = true)
      (hcall : network.call world (link.server address) (.ofMetric m)
        = (.error (code, text), next)) :
      Course link network world address m (.error (.rpc code text),
        ⟨if code = .unavailable then none else some (link.server address)⟩, next)

/-- How one publication goes: nobody is connected, the call fails, or it succeeds. -/
theorem course_publish (link : ServiceLink) (network : ServiceNetwork σ) (world : σ)
    (address : String) (m : Metric) :
    Course link network world address m (link.publish network world address m) := by
  -- with a server to call, the call decides
  have hcalled (hconnect : link.connect network world address = some (link.server address))
      (hasked : ∀ a ∈ link.asked? address, network.connects world a = true) :
      Course link network world address m (link.publish network world address m) := by
    unfold publish
    rw [hconnect]
    cases hcall : network.call world (link.server address) (.ofMetric m) with
    | mk result next =>
      cases result with
      | ok _ =>
        simp only [hcall]
        exact .succeeded hasked hcall
      | error e =>
        simp only [hcall]
        exact .failed hasked hcall
  -- A connection that is kept is used as it is; otherwise the address is asked for one.
  cases hlink : link.connection with
  | some kept =>
    refine hcalled ?_ ?_
    · rw [connect, server, hlink]
      rfl
    · rw [asked?, hlink]
      exact nofun
  | none =>
    have hasked : link.asked? address = some (base address) := by rw [asked?, hlink]
    cases hconnects : network.connects world (base address) with
    | false =>
      have hconnect : link.connect network world address = none := by
        simp [connect, hlink, hconnects]
      rw [publish, hconnect]
      exact .unconnected hasked hconnects
    | true =>
      refine hcalled ?_ ?_
      · simp [connect, server, hlink, hconnects]
      · intro a ha
        rw [hasked, Option.mem_some_iff] at ha
        rwa [← ha]

/-- A publication ends without a connection if one was asked for and could not be opened, and only
then. -/
theorem publish_eq_connect_iff {link : ServiceLink} {network : ServiceNetwork σ} {world : σ}
    {address : String} {m : Metric} :
    (link.publish network world address m).1 = .error .connect ↔
      ∃ a ∈ link.asked? address, network.connects world a = false := by
  have hcourse := course_publish link network world address m
  generalize link.publish network world address m = outcome at hcourse
  have hopened (hasked : ∀ a ∈ link.asked? address, network.connects world a = true) :
      ¬ ∃ a ∈ link.asked? address, network.connects world a = false := by
    rintro ⟨a, ha, hconnects⟩
    exact Bool.false_ne_true (hconnects.symm.trans (hasked a ha))
  cases hcourse with
  | unconnected hasked hconnects => exact iff_of_true rfl ⟨_, hasked, hconnects⟩
  | succeeded hasked _ => exact iff_of_false nofun (hopened hasked)
  | failed hasked _ => exact iff_of_false nofun (hopened hasked)

end ServiceLink

/-! ## What is kept -/

namespace ServiceEntry

/-- No connection is left behind: none could be opened, or the server was unavailable. -/
def leavesNone (e : ServiceEntry) : Bool :=
  match e.result with
  | .error .connect => true
  | .error (.rpc code _) => code = .unavailable
  | _ => false

/-- The publication found its server unavailable. -/
def IsUnavailable (e : ServiceEntry) : Prop :=
  ∃ text, e.result = .error (.rpc .unavailable text)

/-- A publication that finds its server unavailable leaves no connection. -/
theorem IsUnavailable.leavesNone {e : ServiceEntry} (h : e.IsUnavailable) :
    e.leavesNone = true := by
  obtain ⟨text, hresult⟩ := h
  simp [ServiceEntry.leavesNone, hresult]

end ServiceEntry

namespace ServiceSession

/-- The address that the kept connection was opened for: that of the first publication since the
last one that left no connection behind. -/
def openedFor? (log : List ServiceEntry) : Option String :=
  (log.rtakeWhile fun e => !e.leavesNone).head?.map (·.address)

/-- The last publication drops the connection, keeps it, or opens it for its own address. -/
theorem openedFor?_concat (log : List ServiceEntry) (e : ServiceEntry) :
    openedFor? (log ++ [e]) =
      if e.leavesNone then none else some ((openedFor? log).getD e.address) := by
  unfold openedFor?
  rw [List.rtakeWhile_concat]
  cases e.leavesNone with
  | true => rfl
  | false =>
    simp only [Bool.not_false, if_true, Bool.false_eq_true, if_false]
    cases log.rtakeWhile fun e => !e.leavesNone with
    | nil => rfl
    | cons first rest => rfl

/-- A kept connection was opened for the address of some publication. -/
theorem mem_of_openedFor? {log : List ServiceEntry} {address : String}
    (h : openedFor? log = some address) : ∃ e ∈ log, e.address = address := by
  obtain ⟨e, hfirst, rfl⟩ := Option.map_eq_some_iff.1 h
  exact ⟨e, (List.rtakeWhile_suffix _ log).subset (List.mem_of_mem_head? hfirst), rfl⟩

/-- The server that the next publication is sent to. -/
def route (log : List ServiceEntry) (address : String) : String :=
  base ((openedFor? log).getD address)

/-- A publication is sent to the server of its own address exactly if a kept connection leads
there. -/
theorem route_eq_base_iff {log : List ServiceEntry} {address : String} :
    route log address = base address ↔
      ∀ opened ∈ openedFor? log, base opened = base address := by
  unfold route
  cases openedFor? log with
  | none => simp
  | some opened => simp

variable {s : ServiceSession σ}

/-- The kept connection is the one that the log tells of. -/
def Consistent (s : ServiceSession σ) : Prop := s.link.connection = (openedFor? s.log).map base

/-- A link that has not been used keeps no connection. -/
theorem consistent_start (stores : String → σ) : (start stores).Consistent := rfl

/-- The server that is called can be told from the log. -/
theorem Consistent.server_eq (h : s.Consistent) (address : String) :
    s.link.server address = route s.log address := by
  rw [ServiceLink.server, h, route, Option.getD_map]

/-- A connection is asked for if the last one is lost, and then for the address that is given. -/
theorem Consistent.asked_iff (h : s.Consistent) {address a : String} :
    s.link.asked? address = some a ↔ openedFor? s.log = none ∧ base address = a := by
  rw [ServiceLink.asked?_eq_some_iff, h, Option.map_eq_none_iff]

variable [Store σ]

/-- A publication leaves behind what its result tells. -/
theorem Consistent.publish (h : s.Consistent) (p : ServicePublication) :
    (s.publish p).2.Consistent := by
  have hserver := h.server_eq p.address
  have hcourse := ServiceLink.course_publish s.link p.network s.servers p.address p.metric
  unfold Consistent ServiceSession.publish
  generalize s.link.publish p.network s.servers p.address p.metric = outcome at hcourse
  simp only [openedFor?_concat]
  cases hcourse with
  | unconnected hasked _ => exact (ServiceLink.asked?_eq_some_iff.1 hasked).1
  | succeeded _ _ => exact congrArg some hserver
  | @failed code _ _ _ _ =>
    by_cases hcode : code = .unavailable
    · simp [hcode, ServiceEntry.leavesNone]
    · simp [hcode, ServiceEntry.leavesNone, hserver, route]

/-- After any publications the connection is the one that the log says. -/
theorem Consistent.run (h : s.Consistent) (history : List ServicePublication) :
    (s.run history).Consistent := by
  unfold ServiceSession.run
  induction history generalizing s with
  | nil => exact h
  | cons p history ih => exact ih (h.publish p)

/-- Every publication is logged, in the order in which they were made. -/
theorem log_run (s : ServiceSession σ) (history : List ServicePublication) :
    (s.run history).log.map (fun e => (e.address, e.metric)) =
      s.log.map (fun e => (e.address, e.metric)) ++ history.map fun p => (p.address, p.metric) := by
  unfold run
  induction history generalizing s with
  | nil => simp
  | cons p history ih =>
    rw [List.foldl_cons, ih]
    simp [publish]

/-! ## The next publication -/

variable {p : ServicePublication}

/-- What is published successfully is created on the server that it is sent to. -/
theorem Consistent.created (h : s.Consistent) (hok : (s.publish p).1 = .ok ()) :
    s.servers.Created (route s.log p.address) p.metric (s.publish p).2.servers := by
  have hcourse := ServiceLink.course_publish s.link p.network s.servers p.address p.metric
  unfold ServiceSession.publish at hok ⊢
  generalize s.link.publish p.network s.servers p.address p.metric = outcome at hcourse hok
  cases hcourse with
  | unconnected _ _ => cases hok
  | succeeded _ hcall =>
    rw [h.server_eq] at hcall
    exact CallFate.created_of_carryOut hcall
  | failed _ _ => cases hok

/-- While no connection can be opened, a publication fails at once exactly if it asks for one. -/
theorem Consistent.refused_iff (h : s.Consistent) (hconnects : p.connects = false) :
    (s.publish p).1 = .error .connect ↔ openedFor? s.log = none := by
  rw [ServiceSession.publish, ServiceLink.publish_eq_connect_iff]
  constructor
  · rintro ⟨a, ha, -⟩
    exact (h.asked_iff.1 ha).1
  · intro hopened
    exact ⟨base p.address, h.asked_iff.2 ⟨hopened, rfl⟩, hconnects⟩

/-- A metric is created on the server of its own address exactly if it is sent there. -/
theorem Consistent.created_own_iff (h : s.Consistent) (hok : (s.publish p).1 = .ok ()) :
    s.servers.Created (base p.address) p.metric (s.publish p).2.servers ↔
      ∀ opened ∈ openedFor? s.log, base opened = base p.address := by
  rw [← route_eq_base_iff]
  constructor
  · intro hown
    exact (h.created hok).server_eq hown
  · intro hroute
    rw [← hroute]
    exact h.created hok

/-- What a publication does behind the publications so far. -/
structure Routed (s : ServiceSession σ) (p : ServicePublication) : Prop where
  /-- If it succeeds, its metric is created on the server that it is sent to, and nowhere else. -/
  created : (s.publish p).1 = .ok () →
    s.servers.Created (route s.log p.address) p.metric (s.publish p).2.servers
  /-- That server is the one that its address names exactly if the kept connection leads there. -/
  own_iff : (s.publish p).1 = .ok () →
    (s.servers.Created (base p.address) p.metric (s.publish p).2.servers ↔
      ∀ opened ∈ openedFor? s.log, base opened = base p.address)
  /-- A connection is asked for exactly if none is kept, and then for its own address. -/
  asked_iff : ∀ a, s.link.asked? p.address = some a ↔ openedFor? s.log = none ∧ base p.address = a
  /-- So a publication that finds no server fails exactly if no connection is kept. -/
  refused_iff : p.connects = false →
    ((s.publish p).1 = .error .connect ↔ openedFor? s.log = none)
  /-- Behind a publication that found its server unavailable, the next one asks for a connection to
  the server of its own address, and its metric is created there or not at all. -/
  reconnects : ∀ earlier last, s.log = earlier ++ [last] → last.IsUnavailable →
    s.link.asked? p.address = some (base p.address) ∧
    (p.connects = false → (s.publish p).1 = .error .connect) ∧
    ((s.publish p).1 = .ok () →
      s.servers.Created (base p.address) p.metric (s.publish p).2.servers)
  /-- While all addresses name one server, every address is honoured. -/
  honoured : (∀ e ∈ s.log, base e.address = base p.address) → (s.publish p).1 = .ok () →
    s.servers.Created (base p.address) p.metric (s.publish p).2.servers

/-- Everything about the next publication can be told from the log. -/
theorem Consistent.routed (h : s.Consistent) (p : ServicePublication) : Routed s p where
  created := h.created
  own_iff := h.created_own_iff
  asked_iff _ := h.asked_iff
  refused_iff := h.refused_iff
  -- Behind an unavailable server the log names no connection, so the address is asked.
  reconnects earlier last hlog hlast := by
    have hopened : openedFor? s.log = none := by
      rw [hlog, openedFor?_concat, hlast.leavesNone, if_pos rfl]
    refine ⟨h.asked_iff.2 ⟨hopened, rfl⟩, fun hconnects => (h.refused_iff hconnects).2 hopened,
      fun hok => (h.created_own_iff hok).2 ?_⟩
    rw [hopened]
    exact nofun
  honoured hsame hok := by
    refine (h.created_own_iff hok).2 fun opened hopened => ?_
    obtain ⟨e, he, rfl⟩ := mem_of_openedFor? hopened
    exact hsame e he

/-- Behind every history a metric is created on the server that the kept connection leads to, or on
that of its own address if none is kept. -/
theorem created_where_connected (stores : String → σ) (history : List ServicePublication)
    (p : ServicePublication) :
    ((start stores).run history).log.map (fun e => (e.address, e.metric)) =
        history.map (fun q => (q.address, q.metric)) ∧
      Routed ((start stores).run history) p :=
  ⟨log_run (start stores) history, ((consistent_start stores).run history).routed p⟩

/-- A counter for one server, and one for another server that is unavailable. -/
def withLoss : List ServicePublication :=
  [⟨"a:1", .counter "x" 1, true, .answered⟩,
    ⟨"b:1", .counter "y" 2, true, .lost .unavailable "gone"⟩]

/-- The second counter once more. -/
def again : ServicePublication := ⟨"b:1", .counter "y" 2, true, .answered⟩

/-- The first counter opens a connection that the second one uses and loses; then the server of its
own address is asked for. -/
theorem created_behind_unavailable :
    ((start fun _ => Snapshot.empty).run withLoss).link.asked? "b:1" = some (base "b:1") ∧
      (((start fun _ => Snapshot.empty).run withLoss).publish again).1 = .ok () ∧
      ((start fun _ => Snapshot.empty).run withLoss).servers.Created (base "b:1") (.counter "y" 2)
        (((start fun _ => Snapshot.empty).run withLoss).publish again).2.servers := by
  obtain ⟨-, hrouted⟩ := created_where_connected (fun _ => Snapshot.empty) withLoss again
  have hresult : ((start fun _ => Snapshot.empty).run withLoss).log.getLast?.map (·.result)
      = some (.error (.rpc .unavailable "gone")) := by
    decide +kernel
  obtain ⟨last, hlast, hunavailable⟩ := Option.map_eq_some_iff.1 hresult
  obtain ⟨earlier, hends⟩ := List.getLast?_eq_some_iff.1 hlast
  obtain ⟨hasked, -, hcreated⟩ := hrouted.reconnects earlier last hends ⟨"gone", hunavailable⟩
  have hok : (((start fun _ => Snapshot.empty).run withLoss).publish again).1 = .ok () := by
    decide +kernel
  exact ⟨hasked, hok, hcreated hok⟩

/-- A second address is not honoured: with two servers that both answer, what is published to the
second one is created on the first one. Over HTTP it is sent to the second one. -/
theorem second_address_is_not_honoured :
    let first : ServicePublication := ⟨"a:1", .counter "x" 1, true, .answered⟩
    let second : ServicePublication := ⟨"b:1", .counter "y" 2, true, .answered⟩
    let s := (start fun _ => Snapshot.empty).run [first]
    (s.publish second).1 = .ok () ∧
      ¬ s.servers.Created (base second.address) second.metric (s.publish second).2.servers ∧
      s.servers.Created (base first.address) second.metric (s.publish second).2.servers ∧
      (s.publish second).2.servers.stores (base second.address) = Snapshot.empty ∧
      ∀ link : HttpLink,
        (link.request second.address second.metric).map (fun r => (r.url.host, r.url.port)) =
          .ok (some "b".toList, some 1) := by
  have hhttp (link : HttpLink) :
      (link.request "b:1" (.counter "y" 2)).map (fun r => (r.url.host, r.url.port)) =
        .ok (some "b".toList, some 1) := by
    obtain ⟨mode, key⟩ := link
    cases mode with
    | path => cases key <;> rfl
    | json => cases key <;> rfl
  intro first second s
  have hok : (s.publish second).1 = .ok () := by decide +kernel
  have hroute : route s.log second.address = base first.address := by decide +kernel
  have hdiffer : base first.address ≠ base second.address := by decide +kernel
  have hkept : s.Consistent := (consistent_start fun _ => Snapshot.empty).run [first]
  -- The log routes the second publication to the server of the first.
  have hcreated := hkept.created hok
  rw [hroute] at hcreated
  have hother := hcreated.others (base second.address) hdiffer.symm
  refine ⟨hok, fun hown => hdiffer (hcreated.server_eq hown), hcreated, hother.trans ?_, hhttp⟩
  decide +kernel

end ServiceSession

end Telemetry

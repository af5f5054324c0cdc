import Telemetry.Proofs.Metric.Text
import Telemetry.Proofs.Server.Ingestion
import Telemetry.Proofs.Server.Refusal
import Telemetry.Proofs.Server.Resource
import Telemetry.Proofs.Snapshot.Listing
import Telemetry.Proofs.Store.History
import Telemetry.Proofs.Text

/-!
# What the server shows of its store

A stored metric can be seen in many ways: as a record, in the contents, among the metrics of its
kind, over HTTP by a path or a body, and in calls for one metric or for all. `Snapshot.Shows` says
of all of them that they show one metric, or that there is none, and `Snapshot.Listed` says what the
views of everything show. `views_agree` puts them together, for whatever has been written, and adds
that an update that is accepted is reported with the number that all of them show afterwards.
-/

namespace Telemetry

namespace Http

/-- A request is answered with a status and the bytes of a text, and leaves the store as it is. -/
def Answers (key : Option String) (r : Request) (s : Snapshot) (status : Nat) (text : String) :
    Prop :=
  ∃ response, serve key r s = (response, s) ∧ response.status = status ∧
    response.body = text.toUTF8

variable {key : Option String} {r : Request} {s : Snapshot}

/-- A request that a resource answers without changing anything. -/
theorem exists_serve_of_reading {resource : Resource} {method : Method}
    {outcome : Except ApiError Content} (hpath : Resource.ofPath? r.path = some resource)
    (hmethod : r.method = method) (hallows : resource.allows method = true)
    (hhead : method ≠ .head) (hadmits : admits key r = true)
    (hanswer : Api.answer resource r.body s = (outcome, s)) :
    ∃ response, serve key r s = (response, s) ∧ response.status = (respond outcome).status ∧
      response.body = (respond outcome).content.bytes := by
  subst hmethod
  have hserve := serve_of_allows hpath hallows hadmits s
  rw [hanswer] at hserve
  refine ⟨_, hserve, status_signedBy key _, ?_⟩
  rw [body_signedBy, Response.body, if_neg (by simpa using hhead)]

end Http

open Http

/-! ## Asking for one metric -/

/-- A request asks for the metric of a name and a kind by its path, whose pieces are decoded to the
two. -/
structure AsksByPath (name : String) (kind : Kind) (r : Request) : Prop where
  method : r.method = .get
  path : ∃ kindText nameText : List Char,
    r.path = "/value/".toList ++ (kindText ++ '/' :: nameText) ∧
      '/' ∉ kindText ∧ '/' ∉ nameText ∧ Resource.parameter "kind" kindText = .ok kind.name ∧
      Resource.parameter "name" nameText = .ok name

/-- A request asks for the metric of a name and a kind by its body. -/
structure AsksByBody (name : String) (kind : Kind) (r : Request) : Prop where
  method : r.method = .post
  path : r.path = "/value/".toList
  size : r.body.size ≤ Api.bodyLimit
  query : Api.queryOfJsonBytes? r.body = some (name, kind)

/-- A path without marks is the whole target. -/
theorem Request.pathOf_ofList {rest : List Char} (hquery : '?' ∉ rest) (hfragment : '#' ∉ rest) :
    pathOf (String.ofList ('/' :: rest)) = '/' :: rest := by
  have hplain : ∀ c ∈ rest, (c ≠ '?' && c ≠ '#') = true := by
    intro c hc
    have hne : c ≠ '?' ∧ c ≠ '#' :=
      ⟨fun heq => hquery (heq ▸ hc), fun heq => hfragment (heq ▸ hc)⟩
    simp [hne]
  rw [pathOf, String.toList_ofList]
  exact congrArg ('/' :: ·) (Text.span_of_forall hplain).1

/-- Any name can be asked for by a path: with every byte of it escaped. -/
theorem exists_asksByPath (name : String) (kind : Kind) : ∃ r, AsksByPath name kind r := by
  have hreadable : Percent.IsReadable fun _ => true := ⟨rfl, fun _ _ => rfl⟩
  -- Everything is encoded, so that no name can be mistaken for a slash or a query.
  let nameText := Percent.encode (fun _ => true) name
  have habsent : ∀ c, c ≠ '%' → Hex.value? c = none → c ∉ nameText := fun c hpercent hdigit =>
    Percent.not_mem_encode hreadable rfl hpercent hdigit name
  have hletters : ∀ c ∈ kind.name.toList, c.isLower = true :=
    Text.forall_of_all (by cases kind <;> rfl)
  have hkind : ∀ c, c.isLower = false → c ∉ kind.name.toList := fun c hmark hc =>
    Bool.false_ne_true (hmark.symm.trans (hletters c hc))
  let rest := "value/".toList ++ (kind.name.toList ++ '/' :: nameText)
  have hquery : '?' ∉ rest := by
    simp [rest, hkind '?' rfl, habsent '?' (by decide) (by decide)]
  have hfragment : '#' ∉ rest := by
    simp [rest, hkind '#' rfl, habsent '#' (by decide) (by decide)]
  refine ⟨⟨.get, String.ofList ('/' :: rest), [], ByteArray.empty⟩, rfl, kind.name.toList,
    nameText, Request.pathOf_ofList hquery hfragment, hkind '/' rfl,
    habsent '/' (by decide) (by decide), ?_, Resource.parameter_encode hreadable "name" name⟩
  cases kind <;> decide

/-! ## One metric -/

/-- Kinds have different numbers. -/
theorem Kind.number_inj {kind other : Kind} : kind.number = other.number ↔ kind = other := by
  cases kind <;> cases other <;> decide

/-- The messages of a list of metrics, those of a name and a kind. -/
theorem WireMetric.filter_map_ofMetric (name : String) (kind : Kind) (metrics : List Metric) :
    ((metrics.map ofMetric).filter fun w => w.id = name && w.kind = kind.number)
      = (entriesOf name kind metrics).map ofMetric := by
  rw [List.filter_map, entriesOf]
  refine congrArg (List.map ofMetric) (List.filter_congr fun m _ => ?_)
  show (decide (m.id = name) && decide (m.kind.number = kind.number)) = _
  rw [decide_eq_decide.2 Kind.number_inj]

/-- The text that says that there is no metric of a name and a kind. -/
def notFoundText (name : String) (kind : Kind) : String := (StoreError.notFound kind name).message

/-- The status of an answer to the question for a metric. -/
def statusOf (m? : Option Metric) : Nat := m?.elim 404 fun _ => 200

/-- Every view of one metric shows the same for a name and a kind: a metric, or that there is
none. -/
structure Snapshot.Shows (s : Snapshot) (name : String) (kind : Kind) (m? : Option Metric) :
    Prop where
  record : Store.get s name kind = m?.elim (.error (.notFound kind name)) .ok
  contents : (Store.contents s).map (fun c => c.get? name kind) = .ok m?
  ofKind : (Store.ofKind s kind).map (fun ms => ms.filter fun m => m.id = name) = .ok m?.toList
  /-- Over HTTP by a path, and there is one for every name. -/
  path : (∃ r, AsksByPath name kind r) ∧
    ∀ (key : Option String) (r : Request), AsksByPath name kind r → admits key r = true →
      Answers key r s (statusOf m?) (m?.elim (notFoundText name kind) Metric.valueText)
  /-- Over HTTP by a body. -/
  body : ∀ (key : Option String) (r : Request), AsksByBody name kind r → admits key r = true →
    Answers key r s (statusOf m?) (m?.elim (notFoundText name kind) Metric.toJson)
  getMetric : Rpc.serve s (.getMetric ⟨name, kind.number⟩) =
    (m?.elim (.error ⟨.notFound, notFoundText name kind⟩) fun m => .ok (.metric (.ofMetric m)), s)
  getMetrics : ∃ messages, Rpc.serve s .getMetrics = (.ok (.metrics messages), s) ∧
    (messages.filter fun w => w.id = name && w.kind = kind.number)
      = (m?.map WireMetric.ofMetric).toList
  /-- The text, the JSON and the message of a metric each stand for it. -/
  readBack : ∀ m ∈ m?, Metric.ofTexts kind name m.valueText = .ok m ∧
    Metric.ofJsonBytes? m.toJson.toUTF8 = some m ∧ (WireMetric.ofMetric m).toMetric = .ok m

namespace Snapshot

/-- Everything that is stored is accepted. -/
def AllValid (s : Snapshot) : Prop := ∀ name kind m, s.get? name kind = some m → m.validate = .ok ()

variable {s : Snapshot} {name : String} {kind : Kind} {m : Metric}

/-- What is stored for a name and a kind has them. -/
theorem id_and_kind_of_get? (h : s.get? name kind = some m) : m.id = name ∧ m.kind = kind := by
  cases kind
  all_goals
    obtain ⟨n, -, rfl⟩ := Option.map_eq_some_iff.1 h
    exact ⟨rfl, rfl⟩

/-- A metric that is asked for is the stored one, or it is not found. -/
theorem get_eq (s : Snapshot) (name : String) (kind : Kind) :
    Store.get s name kind = (s.get? name kind).elim (.error (.notFound kind name)) .ok := by
  show Memory.get s name kind = _
  unfold Memory.get
  cases s.get? name kind <;> rfl

/-- What a query for a metric is answered with. -/
theorem answers_of_lookUp {key : Option String} {r : Request} {resource : Resource}
    {method : Method} {present : Metric → Content} {write : Metric → String}
    (hpath : Resource.ofPath? r.path = some resource) (hmethod : r.method = method)
    (hallows : resource.allows method = true) (hhead : method ≠ .head)
    (hadmits : admits key r = true)
    (hanswer : Api.answer resource r.body s = (Api.lookUp present s (.ok (name, kind)), s))
    (hpresent : ∀ m, (present m).bytes = (write m).toUTF8) :
    Answers key r s (statusOf (s.get? name kind))
      ((s.get? name kind).elim (notFoundText name kind) write) := by
  obtain ⟨response, hserve, hstatus, hbody⟩ :=
    exists_serve_of_reading hpath hmethod hallows hhead hadmits hanswer
  have hlookUp : Api.lookUp present s (.ok (name, kind))
      = ((Store.get s name kind).map present).mapError ApiError.ofStore := rfl
  rw [hlookUp, get_eq] at hstatus hbody
  refine ⟨response, hserve, ?_, ?_⟩
  -- Whether the metric is there decides status and text alike.
  · rw [hstatus]
    cases s.get? name kind <;> rfl
  · rw [hbody]
    cases s.get? name kind with
    | none => rfl
    | some m => exact hpresent m

/-- All views of a metric with a name show what is stored. -/
theorem shows_get? (hvalid : s.AllValid) (hname : name ≠ "") (kind : Kind) :
    s.Shows name kind (s.get? name kind) where
  record := get_eq s name kind
  contents := rfl
  ofKind := congrArg Except.ok (filter_ofKind s name kind)
  path := by
    refine ⟨exists_asksByPath name kind, fun key r hasks hadmits => ?_⟩
    obtain ⟨hmethod, kindText, nameText, hpath, hkindSlash, hnameSlash, hkind, hparameter⟩ := hasks
    have hne : nameText ≠ [] := by
      rintro rfl
      exact hname (Except.ok.inj hparameter).symm
    have hresource := (congrArg Resource.ofPath? hpath).trans
      (Resource.ofPath?_value hkindSlash hnameSlash hne)
    have hquery : Api.valueParameters kindText nameText = .ok (name, kind) := by
      simp only [Api.valueParameters, hkind, hparameter]
      show (Except.mapError ApiError.ofMetric (Kind.ofName kind.name)).bind _ = _
      rw [Kind.ofName_name]
      rfl
    have hanswer : Api.answer (.valuePath kindText nameText) r.body s
        = (Api.lookUp Api.asText s (.ok (name, kind)), s) := by rw [Api.answer, hquery]
    exact answers_of_lookUp hresource hmethod rfl (by decide) hadmits hanswer fun _ => rfl
  -- The body names what is asked for, so only the resource has to be found.
  body := by
    intro key r hasks hadmits
    have hresource : Resource.ofPath? r.path = some .value := by
      rw [hasks.path]
      rfl
    have hanswer : Api.answer .value r.body s
        = (Api.lookUp Api.asJson s (.ok (name, kind)), s) := by
      rw [Api.answer, Api.decoded_of_le hasks.size hasks.query]
    exact answers_of_lookUp hresource hasks.method rfl (by decide) hadmits hanswer fun _ => rfl
  getMetric := by
    simp only [Rpc.serve, Rpc.getMetric, if_neg hname, Kind.ofNumber_number, get_eq]
    cases s.get? name kind <;> rfl
  getMetrics := by
    refine ⟨s.metrics.map WireMetric.ofMetric, rfl, ?_⟩
    rw [WireMetric.filter_map_ofMetric, entriesOf_metrics, Option.toList_map]
  readBack := by
    intro m hm
    obtain ⟨rfl, rfl⟩ := id_and_kind_of_get? hm
    have haccepted := hvalid _ _ _ hm
    refine ⟨Metric.ofTexts_valueText haccepted hname,
      Metric.ofJsonBytes?_toJson (Metric.isFinite_of_validate haccepted), ?_⟩
    rw [WireMetric.toMetric_ofMetric, haccepted]
    rfl

end Snapshot

/-! ## Everything -/

/-- The page that lists everything: a line for each metric, with its name and its number. -/
def page (metrics : List Metric) : String :=
  String.join (metrics.map fun m => m.id ++ " " ++ m.valueText ++ "\n")

/-- The views of everything: each stored metric once, the counters in front of the gauges and each
kind by the bytes of the names. -/
structure Snapshot.Listed (s : Snapshot) : Prop where
  mem_iff : ∀ m, m ∈ s.metrics ↔ s.get? m.id m.kind = some m
  nodup : s.metrics.Nodup
  ordered : s.metrics.Pairwise Metric.Precedes
  /-- In whatever order the metrics of the two kinds are come by. -/
  sorted : ∀ counters gauges : List Metric, counters.Perm (s.ofKind .counter) →
    gauges.Perm (s.ofKind .gauge) →
    Metric.sortedByName counters ++ Metric.sortedByName gauges = s.metrics
  getMetrics : Rpc.serve s .getMetrics = (.ok (.metrics (s.metrics.map WireMetric.ofMetric)), s)
  page : ∀ (key : Option String) (r : Request), r.method = .get → r.path = ['/'] →
    admits key r = true → Answers key r s 200 (page s.metrics)

/-- Every snapshot is listed as it should be. -/
theorem Snapshot.listed (s : Snapshot) : s.Listed where
  mem_iff _ := mem_metrics_iff
  nodup := nodup_metrics s
  ordered := pairwise_metrics s
  sorted _ _ hcounters hgauges := by rw [sorted_eq_ofKind hcounters, sorted_eq_ofKind hgauges]; rfl
  getMetrics := rfl
  page key r hmethod hpath hadmits := by
    have hresource : Resource.ofPath? r.path = some .listing := by
      rw [hpath]
      rfl
    exact exists_serve_of_reading hresource hmethod rfl (by decide) hadmits rfl

/-! ## An update -/

/-- A metric is stored, and the views show it as it was reported: a counter with its exact sum, a
gauge with the new value. -/
structure Snapshot.Takes (s : Snapshot) (m stored : Metric) (next : Snapshot) : Prop where
  count : m.kind = .counter →
    stored.delta.map Int64.toInt = some ((s.count? m.id).getD 0 + (m.delta.getD 0).toInt)
  value : m.kind = .gauge → stored.value = m.value
  shows : next.Shows m.id m.kind (some stored)
  listed : next.Listed

/-- Every update of one metric that is accepted, by a path, in JSON or in a call, reports the metric
that is stored and shown afterwards. -/
structure Snapshot.Reports (s : Snapshot) : Prop where
  path : ∀ (key : Option String) (r : Request) (kind name value : List Char) (response : Response)
    (next : Snapshot), r.method = .post →
    Resource.ofPath? r.path = some (.updatePath kind name value) →
    Http.serve key r s = (response, next) → response.isSuccess = true →
    ∃ m stored, Api.updateParameters kind name value = .ok m ∧
      response.body = stored.valueText.toUTF8 ∧ s.Takes m stored next
  json : ∀ (key : Option String) (r : Request) (response : Response) (next : Snapshot),
    r.method = .post → Resource.ofPath? r.path = some .update →
    Http.serve key r s = (response, next) → response.isSuccess = true →
    ∃ m stored, Metric.ofJsonBytes? r.body = some m ∧
      response.body = stored.toJson.toUTF8 ∧ s.Takes m stored next
  call : ∀ (message : WireMetric) (text : String) (next : Snapshot),
    Rpc.createMetric s message = (.ok text, next) →
    ∃ m stored, message.toMetric = .ok m ∧ text = Rpc.storedText stored ∧ s.Takes m stored next

namespace Http

variable {key : Option String} {r : Request} {s next : Snapshot} {response : Response}
  {present : Metric → Content} {x : Except ApiError Metric}

/-- Only what is no error is answered with success. -/
theorem exists_of_respond {outcome : Except ApiError Content}
    (h : (respond outcome).status < 300) : ∃ content, outcome = .ok content := by
  cases outcome with
  | ok content => exact ⟨content, rfl⟩
  | error e =>
    have hstatus : 400 ≤ e.status := by cases e <;> simp [ApiError.status]
    have hlow : e.status < 300 := h
    omega

/-- A metric that is stored over the interface has been taken in, and the stored one is told. -/
theorem create_of_storeOne {content : Content}
    (h : Api.storeOne present s x = (.ok content, next)) :
    ∃ m stored, x = .ok m ∧ Memory.create s m = (.ok stored, next) ∧ content = present stored := by
  cases x with
  | error e => cases h
  | ok m =>
    rw [Api.storeOne_ok] at h
    obtain ⟨stored, last, hcreate, -⟩ | ⟨e, hcreate⟩ := Memory.create_cases s m
    all_goals
      rw [hcreate] at h
      cases h
    exact ⟨m, stored, rfl, hcreate, rfl⟩

/-- An update that succeeds was admitted. -/
theorem admits_of_isSuccess (hmethod : r.method = .post)
    (hserve : serve key r s = (response, next)) (hsuccess : response.isSuccess = true) :
    admits key r = true := by
  refine (refused_or_admits key r).resolve_left ?_
  rintro ⟨k, text, hkey, hrefusal⟩
  have hstatus : response.status = 400 := by
    rw [serve_of_refused hkey hrefusal] at hserve
    cases hserve
    refine status_refusedWith ?_
    rw [hmethod]
    decide
  have hlow := (isSuccess_iff.1 hsuccess).2
  omega

/-- A metric that is stored with success has been taken in, and what is sent is the stored one. -/
theorem create_of_isSuccess {resource : Resource} (hmethod : r.method = .post)
    (hpath : Resource.ofPath? r.path = some resource) (hupdate : resource.isUpdate = true)
    (hanswer : Api.answer resource r.body s = Api.storeOne present s x)
    (hserve : serve key r s = (response, next)) (hsuccess : response.isSuccess = true) :
    ∃ m stored, x = .ok m ∧ Memory.create s m = (.ok stored, next) ∧
      response.body = (present stored).bytes := by
  have hadmits := admits_of_isSuccess hmethod hserve hsuccess
  obtain ⟨answered, hanswered, hstatus, hbody⟩ := serve_update hmethod hpath hupdate hadmits s
  obtain ⟨rfl, rfl⟩ := Prod.mk.inj (hserve.symm.trans hanswered)
  rw [hanswer] at hstatus hbody ⊢
  obtain ⟨content, hcontent⟩ := exists_of_respond (hstatus ▸ (isSuccess_iff.1 hsuccess).2)
  obtain ⟨m, stored, hm, hcreate, rfl⟩ := create_of_storeOne (Prod.ext hcontent rfl)
  rw [hcontent] at hbody
  exact ⟨m, stored, hm, hcreate, hbody⟩

end Http

namespace History

variable {h : History Snapshot} {m stored : Metric} {next : Snapshot}

/-- Everything in a sound history is valid. -/
theorem Sound.allValid (hsound : h.Sound) : h.store.AllValid := hsound.reflects.valid

/-- A metric that is taken in is what the views show. -/
theorem Sound.takes (hsound : h.Sound) (hcreate : Memory.create h.store m = (.ok stored, next)) :
    h.store.Takes m stored next := by
  obtain ⟨hvalid, happly⟩ := Memory.create_eq_ok_iff.1 hcreate
  have hget := Snapshot.get?_of_apply happly
  have hnext : next.AllValid := by
    have hstore : (h.extend (.one m)).store = next := by
      rw [store_extend, Write.perform_one_of_ok hcreate]
    exact hstore ▸ (hsound.extend (.one m)).allValid
  have hshows := Snapshot.shows_get? hnext (Metric.id_ne_empty_of_validate hvalid) m.kind
  rw [hget] at hshows
  -- A counter is read with the delta added to it, a gauge with the value it was given.
  refine ⟨fun hkind => ?_, fun hkind => ?_, hshows, next.listed⟩
  · rw [Snapshot.apply_counter hkind] at happly
    split at happly
    · next total htotal =>
      cases happly
      have hsum := Snapshot.toInt_sum h.store m.id ▸ addChecked_eq_some_iff.1 htotal
      exact congrArg some hsum
    · cases happly
  · rw [Snapshot.apply_gauge hkind] at happly
    cases happly
    obtain ⟨-, ⟨n, hm⟩ | ⟨x, -, hm⟩⟩ := Metric.validate_eq_ok_iff.1 hvalid
    · rw [hm] at hkind
      cases hkind
    · rw [hm]
      rfl

/-- What an accepted update reports is what the views show. -/
theorem Sound.reports (hsound : h.Sound) : h.store.Reports where
  -- All three ways in come down to one `create`.
  path := by
    intro key r kind name value response next hmethod hpath hserve hsuccess
    obtain ⟨m, stored, hm, hcreate, hbody⟩ :=
      create_of_isSuccess hmethod hpath rfl rfl hserve hsuccess
    exact ⟨m, stored, hm, hbody, hsound.takes hcreate⟩
  json := by
    intro key r response next hmethod hpath hserve hsuccess
    obtain ⟨m, stored, hm, hcreate, hbody⟩ :=
      create_of_isSuccess hmethod hpath rfl rfl hserve hsuccess
    exact ⟨m, stored, (Api.read_of_decoded hm).2, hbody, hsound.takes hcreate⟩
  call := by
    intro message text next hcall
    unfold Rpc.createMetric at hcall
    split at hcall
    · cases hcall
    · next m hm =>
      simp only [create_snapshot] at hcall
      obtain ⟨stored, last, hcreate, -⟩ | ⟨e, hcreate⟩ := Memory.create_cases h.store m
      all_goals
        rw [hcreate] at hcall
        cases hcall
      exact ⟨m, stored, hm, rfl, hsound.takes hcreate⟩

end History

/-! ## The theorem -/

/-- **All views of a store agree**, whatever has been written to it: for every name and kind they
show the same metric, or all of them that there is none, everything is listed once and in order, and
an update that is accepted reports what all of them show afterwards. -/
theorem views_agree (writes : List Write) {name : String} (hname : name ≠ "") (kind : Kind) :
    (History.run Snapshot.empty writes).store.Shows name kind
        ((History.run Snapshot.empty writes).store.get? name kind) ∧
      (History.run Snapshot.empty writes).store.Listed ∧
      (History.run Snapshot.empty writes).store.Reports := by
  have hsound := History.sound_run writes
  exact ⟨Snapshot.shows_get? hsound.allValid hname kind, Snapshot.listed _, hsound.reports⟩

/-- A counter that was stored twice, beside a gauge of its name, is shown with its sum. -/
theorem views_agree_counter_beside_gauge :
    let s := (History.run Snapshot.empty [.one (.counter "a" 1), .one (.gauge "a" Binary64.zero),
      .batch [.counter "a" 2, .counter "b" 1]]).store
    "a" ≠ "" ∧ s.Shows "a" .counter (some (.counter "a" 3)) ∧ s.Listed ∧ s.Reports ∧
      Answers none ⟨.get, "/value/counter/a", [], ByteArray.empty⟩ s 200 "3" := by
  intro s
  have hname : "a" ≠ "" := by decide
  have hget : s.get? "a" .counter = some (.counter "a" 3) := by decide +kernel
  obtain ⟨hshows, hlisted, hreports⟩ := views_agree [.one (.counter "a" 1),
    .one (.gauge "a" Binary64.zero), .batch [.counter "a" 2, .counter "b" 1]] hname .counter
  have hshown : s.Shows "a" .counter (some (.counter "a" 3)) := hget ▸ hshows
  refine ⟨hname, hshown, hlisted, hreports, ?_⟩
  have hasks : AsksByPath "a" .counter ⟨.get, "/value/counter/a", [], ByteArray.empty⟩ :=
    ⟨rfl, "counter".toList, "a".toList, by decide, by decide, by decide, by decide, by decide⟩
  exact hshown.path.2 none _ hasks rfl

end Telemetry

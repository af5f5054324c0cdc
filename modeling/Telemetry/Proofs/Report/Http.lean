import Telemetry.Proofs.Metric.Json
import Telemetry.Proofs.Server.Api
import Telemetry.Proofs.Server.Http
import Telemetry.Proofs.Signature
import Telemetry.Proofs.Url.Segment
import Telemetry.Report.Http

/-!
# What a published metric arrives as

A metric is published to a server in one of two modes. As JSON in the body it is stored as it was
(`stores_json`). In the path of the address it arrives under what is left of its name
(`stores_path`), and a name of one or two dots leaves no path that is known (`unknown_path`).
`path_mode_delivers_iff` puts this together: the path carries the metric itself exactly if nothing
of its name is left out, and then both modes lead to the same.
-/

namespace Telemetry

namespace PublishRequest

/-- The path that the server sees. -/
theorem path_received {r : PublishRequest} {names : List (List Char)} (h : r.url.HasSegments names)
    (hne : names ≠ []) (hplain : ∀ name ∈ names, '?' ∉ name ∧ '#' ∉ name) :
    r.received.path = names.flatMap fun name => '/' :: name := by
  obtain ⟨first, rest, rfl⟩ := List.exists_cons_of_ne_nil hne
  have hpath : ∀ c ∈ (first :: rest).flatMap fun name => '/' :: name,
      (c ≠ '?' && c ≠ '#') = true := by
    intro c hc
    obtain ⟨name, hname, hc⟩ := List.mem_flatMap.1 hc
    obtain ⟨hquery, hfragment⟩ := hplain name hname
    have hne : ∀ d : Char, d ≠ '/' → d ∉ name → c ≠ d := by
      rintro d hslash hd rfl
      exact (List.mem_cons.1 hc).elim hslash hd
    simp [hne '?' (by decide) hquery, hne '#' (by decide) hfragment]
  have htarget : r.received.target.toList = (first :: rest).flatMap fun name => '/' :: name := by
    rw [received, h.target, String.toList_ofList]
  -- The path goes on to the first question or number sign, and there is none in the names.
  rw [Request.path, Request.pathOf, htarget]
  rw [List.flatMap_cons, List.cons_append] at hpath ⊢
  have hkept := (Text.span_of_forall (List.forall_mem_cons.1 hpath).2).1
  exact congrArg ('/' :: ·) hkept

/-- The signature that the server sees. -/
theorem header?_received (r : PublishRequest) :
    r.received.header? Signature.header = r.signature.map fun s => s.toUTF8.data.toList := by
  have hcontent : String.ofList ("content-type".toList.map Char.toLower) ≠ Signature.header := by
    decide
  have hsignature :
      String.ofList (Signature.header.toList.map Char.toLower) = Signature.header := by decide
  simp only [Request.header?, Request.headerValues, received, List.filter_cons, hcontent,
    decide_false, Bool.false_eq_true, if_false]
  cases r.signature with
  | none => rfl
  | some s => simp [hsignature]

end PublishRequest

namespace Http

/-- A request stores a metric: over every store, the answer and the store behind it are those of
the metric being stored. -/
def Stores (key : Option String) (r : Request) (m : Metric) (present : Metric → Content) : Prop :=
  ∀ (σ : Type) [Store σ] (s : σ), ∃ response, serve key r s = (response, (Store.create s m).2) ∧
    response.status =
      (respond (((Store.create s m).1.map present).mapError ApiError.ofStore)).status ∧
    response.body =
      (respond (((Store.create s m).1.map present).mapError ApiError.ofStore)).content.bytes

/-- A request that the update resource answers with one metric stores that metric. -/
theorem stores_of_answer {key : Option String} {r : Request} {resource : Resource} {m : Metric}
    {present : Metric → Content} (hmethod : r.method = .post)
    (hpath : Resource.ofPath? r.path = some resource) (hupdate : resource.isUpdate = true)
    (hadmits : admits key r = true)
    (hanswer : ∀ {σ : Type} [Store σ] (s : σ),
      Api.answer resource r.body s = Api.storeOne present s (.ok m)) : Stores key r m present := by
  intro σ _ s
  obtain ⟨response, hserve, hstatus, hbody⟩ := serve_update hmethod hpath hupdate hadmits s
  rw [hanswer] at hserve hstatus hbody
  exact ⟨response, hserve, hstatus, hbody⟩

end Http

namespace HttpLink

open Address Url

variable {key : Option String} {r : PublishRequest} {m : Metric} {host port : List Char}

/-- A server with the key of the link lets the requests of the link pass. -/
theorem admits_received (hsize : r.body.size ≤ Http.signedBodyLimit)
    (hsignature : r.signature = key.map fun k => Signature.sign k r.body) :
    Http.admits key r.received = true := by
  refine Http.admits_iff.2 fun k hk => Http.refusal?_eq_none_iff.2 ⟨hsize, fun value hvalue => ?_⟩
  have hkey : key = some k := (Option.filter_eq_some_iff.1 hk).1
  rw [PublishRequest.header?_received, hsignature, hkey] at hvalue
  obtain rfl := Option.some.inj hvalue
  exact Http.verifies_sign k r.body

/-! ## The metric in the body -/

/-- The request that carries a metric as JSON. -/
theorem exists_jsonRequest (h : NamesServer host port) (key : Option String) (m : Metric)
    (named : Bool) (slashes : Nat) :
    ∃ r, request ⟨.json, key⟩ (ofServer named host port slashes) m = .ok r ∧
      r.url.HasSegments ["update".toList, []] ∧ r.body = m.toJson.toUTF8 ∧
      r.signature = key.map fun k => Signature.sign k r.body := by
  have hplain : ∀ c ∈ "/update/".toList, 32 < c.toNat ∧ c ≠ '?' ∧ c ≠ '#' :=
    Text.forall_of_all (by decide)
  obtain ⟨u, hu, hsegments⟩ := exists_ofText?_server h hplain (by rintro _ ⟨⟩; rfl)
  have htext : String.ofList ("http://".toList ++ authority host port) ++ "/update/"
      = String.ofList ("http://".toList ++ (authority host port ++ "/update/".toList)) :=
    calc String.ofList ("http://".toList ++ authority host port) ++ "/update/"
        = String.ofList ("http://".toList ++ authority host port)
          ++ String.ofList "/update/".toList := by rw [String.ofList_toList]
      _ = String.ofList ("http://".toList ++ authority host port ++ "/update/".toList) :=
        String.ofList_append.symm
      _ = _ := by rw [List.append_assoc]
  have hurl : jsonUrl? (ofServer named host port slashes) = some u := by
    rw [jsonUrl?, base_ofServer h, htext, hu]
  have hnames : segmentsOf true "/update/".toList = ["update".toList, []] := by decide
  rw [hnames] at hsegments
  refine ⟨⟨u, "application/json", key.map fun k => Signature.sign k m.toJson.toUTF8,
    m.toJson.toUTF8⟩, ?_, hsegments, ?_, ?_⟩
  · simp only [request, hurl]
  -- by its fields only, so that the text is not computed
  all_goals dsimp only

/-- In the body, every metric that is accepted arrives as it is. -/
theorem stores_json (h : r.url.HasSegments ["update".toList, []]) (hvalid : m.validate = .ok ())
    (hbody : r.body = m.toJson.toUTF8)
    (hsignature : r.signature = key.map fun k => Signature.sign k r.body)
    (hsize : r.body.size ≤ Api.bodyLimit) : Http.Stores key r.received m Api.asJson := by
  have hpath : Resource.ofPath? r.received.path = some .update := by
    rw [PublishRequest.path_received h (List.cons_ne_nil _ _) (by decide)]
    rfl
  have hadmits : Http.admits key r.received = true :=
    admits_received (Nat.le_trans hsize (by decide)) hsignature
  refine Http.stores_of_answer rfl hpath rfl hadmits fun s => ?_
  have hread : Metric.ofJsonBytes? r.body = some m := by
    rw [hbody]
    exact Metric.ofJsonBytes?_toJson (Metric.isFinite_of_validate hvalid)
  show Api.storeOne Api.asJson s (Api.decoded Metric.ofJsonBytes? r.body) = _
  rw [Api.decoded_of_le hsize hread]

/-! ## The metric in the path -/

/-- The request that carries a metric in its path. -/
theorem exists_pathRequest (h : NamesServer host port) (key : Option String) (m : Metric)
    (named : Bool) (slashes : Nat) :
    ∃ r, request ⟨.path, key⟩ (ofServer named host port slashes) m = .ok r ∧
      r.url.HasSegments (append true [[]] ["update", m.kind.name, m.id, m.valueText]) ∧
      r.body = ByteArray.empty ∧ r.signature = key.map fun k => Signature.sign k r.body := by
  obtain ⟨u, hu, hsegments⟩ := exists_ofText?_server h (fun c (hc : c ∈ []) => nomatch hc) nofun
  rw [List.append_nil] at hu
  obtain ⟨v, hv, hpushed⟩ := HasSegments.push? hsegments ["update", m.kind.name, m.id, m.valueText]
  have hurl : updateUrl? (ofServer named host port slashes) m = some v := by
    rw [updateUrl?, base_ofServer h, hu, Option.bind_some, hv]
  refine ⟨⟨v, "text/plain", key.map fun k => Signature.sign k ByteArray.empty, ByteArray.empty⟩, ?_,
    hpushed, rfl, rfl⟩
  simp only [request, hurl]

variable (h : r.url.HasSegments (append true [[]] ["update", m.kind.name, m.id, m.valueText]))
  (hvalid : m.validate = .ok ())

include h hvalid

/-- The path that carries a metric. -/
theorem resource_received :
    Resource.ofPath? r.received.path =
      if LosesPiece m.id then none
      else some (.updatePath (segmentOf true m.kind.name) (segmentOf true (arrivingName m.id))
        (segmentOf true m.valueText)) := by
  have hplain : ∀ text, '?' ∉ segmentOf true text ∧ '#' ∉ segmentOf true text := fun text =>
    ⟨not_mem_segmentOf true text (by simp), not_mem_segmentOf true text (by simp)⟩
  rw [PublishRequest.path_received h ?_ ?_, ofPath?_append_update hvalid]
  · rw [append_update hvalid]
    repeat' split
    all_goals exact List.cons_ne_nil _ _
  · rw [append_update hvalid]
    repeat' split
    all_goals simp [hplain]

/-- The path carries the metric itself exactly if nothing of its name is left out. -/
theorem carried_iff_isSendable :
    (∃ kind name value, Resource.ofPath? r.received.path = some (.updatePath kind name value) ∧
      Api.updateParameters kind name value = .ok m) ↔ IsSendable m.id := by
  rw [resource_received h hvalid]
  constructor
  · rintro ⟨kind, name, value, hresource, hmetric⟩
    split at hresource
    · cases hresource
    · next hpieces =>
      cases hresource
      rw [updateParameters_segments hvalid] at hmetric
      split at hmetric
      · cases hmetric
      · next hname =>
        -- What is read back has the name that arrives, and it is the name of the metric only if
        -- nothing was dropped from it.
        have harriving : arrivingName m.id = m.id := congrArg Metric.id (Except.ok.inj hmetric)
        have hkept : keptName m.id = m.id := by
          rw [arrivingName] at harriving hname
          split at harriving
          · next hdot => exact absurd (if_pos hdot) hname
          · exact harriving
        exact ⟨fun hone => hpieces (.inl hone), fun htwo => hpieces (.inr (hkept.trans htwo)),
          keptName_eq_iff.1 hkept⟩
  · intro hsendable
    refine ⟨_, _, _, if_neg hsendable.not_losesPiece, ?_⟩
    rw [updateParameters_segments hvalid, hsendable.arriving,
      if_neg (Metric.id_ne_empty_of_validate hvalid)]

variable (hadmits : Http.admits key r.received = true)

include hadmits

/-- In the path, a metric arrives under what is left of its name. -/
theorem stores_path (hsendable : IsSendable (keptName m.id)) (hname : keptName m.id ≠ "") :
    Http.Stores key r.received { m with id := keptName m.id } Api.asText := by
  have hpieces : ¬ LosesPiece m.id := by
    rintro (hone | htwo)
    · exact hsendable.ne_dot (keptName_of_dot hone)
    · exact hsendable.ne_dots htwo
  have harriving : arrivingName m.id = keptName m.id := if_neg hsendable.ne_dot
  have hresource := (resource_received h hvalid).trans (if_neg hpieces)
  refine Http.stores_of_answer rfl hresource rfl hadmits fun s => ?_
  rw [Api.answer, updateParameters_segments hvalid, harriving, if_neg hname]

/-- If the path shows nothing of the name, the name is missing. -/
theorem nameless_path (hpieces : ¬ LosesPiece m.id) (hname : arrivingName m.id = "") {σ : Type}
    [Store σ] (s : σ) :
    ∃ response, Http.serve key r.received s = (response, s) ∧ response.status = 404 := by
  have hresource := (resource_received h hvalid).trans (if_neg hpieces)
  obtain ⟨response, hserve, hstatus, -⟩ := Http.serve_update rfl hresource rfl hadmits s
  rw [Api.answer, updateParameters_segments hvalid, if_pos hname] at hserve hstatus
  exact ⟨response, hserve, hstatus⟩

/-- A path that has lost a piece is not known. -/
theorem unknown_path (hpieces : LosesPiece m.id) {σ : Type} [Store σ] (s : σ) :
    Http.serve key r.received s = (.of 404 .nothing, s) :=
  have hmethod : Method.post ≠ .options := nofun
  Http.serve_of_unknown hmethod ((resource_received h hvalid).trans (if_pos hpieces)) hadmits s

/-- A name of which only dots are left is missing, or no path that is known is left. -/
theorem dotted_path (hkept : keptName m.id = "." ∨ keptName m.id = "..") {σ : Type} [Store σ]
    (s : σ) : ∃ response, Http.serve key r.received s = (response, s) ∧ response.status = 404 := by
  by_cases hpieces : LosesPiece m.id
  · exact ⟨_, unknown_path h hvalid hadmits hpieces s, rfl⟩
  · have hdot : keptName m.id = "." := hkept.resolve_right fun htwo => hpieces (.inr htwo)
    exact nameless_path h hvalid hadmits hpieces (if_pos hdot) s

end HttpLink

open HttpLink Address Url

/-- What a published metric arrives as: `path` and `json` are the requests of the two modes. -/
structure HttpDelivery (key : Option String) (m : Metric) (path json : PublishRequest) : Prop where
  /-- The path carries the metric itself if nothing of its name is left out, and only then. -/
  carried_iff : (∃ kind name value,
    Resource.ofPath? path.received.path = some (.updatePath kind name value) ∧
      Api.updateParameters kind name value = .ok m) ↔ IsSendable m.id
  sendable : IsSendable m.id → Http.Stores key path.received m Api.asText
  /-- Under a name of dots, nothing is asked for that is known. -/
  dots : m.id = "." ∨ m.id = ".." → ∀ (σ : Type) [Store σ] (s : σ),
    Http.serve key path.received s = (.of 404 .nothing, s)
  /-- A name loses its tabs and line breaks; if there was nothing else, the name is missing. -/
  nameless : keptName m.id = "" → ∀ (σ : Type) [Store σ] (s : σ),
    ∃ response, Http.serve key path.received s = (response, s) ∧ response.status = 404
  /-- If one dot or two are left of the name, they are a step in the path and no name. -/
  dotted : keptName m.id = "." ∨ keptName m.id = ".." → ∀ (σ : Type) [Store σ] (s : σ),
    ∃ response, Http.serve key path.received s = (response, s) ∧ response.status = 404
  renamed : IsSendable (keptName m.id) → keptName m.id ≠ "" →
    Http.Stores key path.received { m with id := keptName m.id } Api.asText
  /-- The body carries every metric, up to its limit. -/
  body : json.body.size ≤ Api.bodyLimit → Http.Stores key json.received m Api.asJson

/-- **A metric that is published in the path arrives as in the body exactly if nothing of its name
is left out of addresses.** -/
theorem path_mode_delivers_iff {host port : List Char} {m : Metric}
    (hserver : NamesServer host port) (hvalid : m.validate = .ok ()) (key : Option String)
    (named : Bool) (slashes : Nat) :
    ∃ path json : PublishRequest,
      HttpLink.request ⟨.path, key⟩ (ofServer named host port slashes) m = .ok path ∧
      HttpLink.request ⟨.json, key⟩ (ofServer named host port slashes) m = .ok json ∧
      HttpDelivery key m path json := by
  obtain ⟨path, hpath, hsegments, hempty, hsigned⟩ :=
    exists_pathRequest hserver key m named slashes
  obtain ⟨json, hjson, hsegments', hbody, hsigned'⟩ :=
    exists_jsonRequest hserver key m named slashes
  have hadmits : Http.admits key path.received = true :=
    admits_received (hempty ▸ by decide) hsigned
  exact ⟨path, json, hpath, hjson, {
    carried_iff := carried_iff_isSendable hsegments hvalid
    sendable := fun hsendable => by
      have hstores := stores_path hsegments hvalid hadmits
      rw [hsendable.kept] at hstores
      exact hstores hsendable (Metric.id_ne_empty_of_validate hvalid)
    dots := fun hdots σ _ s =>
      unknown_path hsegments hvalid hadmits (losesPiece_of_dots hdots) s
    -- A name that is left empty loses no segment: the two names that do are not empty.
    nameless := fun hname σ _ s => by
      have hdot : keptName m.id ≠ "." := hname ▸ by decide
      have hpieces : ¬ LosesPiece m.id := by
        rintro (hone | htwo)
        · exact hdot (keptName_of_dot hone)
        · exact absurd (hname.symm.trans htwo) (by decide)
      exact nameless_path hsegments hvalid hadmits hpieces ((if_neg hdot).trans hname) s
    dotted := fun hkept σ _ s => dotted_path hsegments hvalid hadmits hkept s
    renamed := stores_path hsegments hvalid hadmits
    body := stores_json hsegments' hvalid hbody hsigned' }⟩

theorem namesServer_localhost : NamesServer "localhost".toList "8080".toList where
  plain := Text.forall_of_all (by decide)
  colons := .inl ⟨by decide, by decide⟩
  isHost := by decide +kernel
  digits := Text.forall_of_all (by decide)
  ne_nil := by decide
  le := by decide

/-- A gauge with a slash and a blank in its name, sent to a server under its full address. -/
theorem path_mode_delivers_slashed :
    NamesServer "localhost".toList "8080".toList ∧
      (Metric.gauge "a/b c" Binary64.zero).validate = .ok () ∧
      ∃ path json : PublishRequest,
        HttpLink.request ⟨.path, some "k"⟩ (ofServer true "localhost".toList "8080".toList 2)
          (.gauge "a/b c" Binary64.zero) = .ok path ∧
        HttpLink.request ⟨.json, some "k"⟩ (ofServer true "localhost".toList "8080".toList 2)
          (.gauge "a/b c" Binary64.zero) = .ok json ∧
        HttpDelivery (some "k") (.gauge "a/b c" Binary64.zero) path json := by
  have hvalid : (Metric.gauge "a/b c" Binary64.zero).validate = .ok () := by decide
  exact ⟨namesServer_localhost, hvalid,
    path_mode_delivers_iff namesServer_localhost hvalid (some "k") true 2⟩

/-- A counter named by a dot is accepted and stored if it is sent in the body, but answered as an
unknown path and not stored if it is sent in the path; and one with a tab in its name is sent in the
path as the one without it. -/
theorem dots_and_tabs_are_lost :
    (Metric.counter "." 5).validate = .ok () ∧ (Metric.counter "a\tb" 1).validate = .ok () ∧
      (∃ path, HttpLink.request ⟨.path, none⟩ "localhost:8080" (.counter "." 5) = .ok path ∧
        Http.serve none path.received Snapshot.empty = (.of 404 .nothing, Snapshot.empty)) ∧
      (∃ json, HttpLink.request ⟨.json, none⟩ "localhost:8080" (.counter "." 5) = .ok json ∧
        (Http.serve none json.received Snapshot.empty).2.get? "." .counter
          = some (.counter "." 5)) ∧
      HttpLink.request ⟨.path, none⟩ "localhost:8080" (.counter "a\tb" 1)
        = HttpLink.request ⟨.path, none⟩ "localhost:8080" (.counter "ab" 1) := by
  -- The two requests are taken from the general lemmas about servers that an address names.
  have haddress : ofServer false "localhost".toList "8080".toList 0 = "localhost:8080" := by decide
  have hdot : (Metric.counter "." 5).validate = .ok () := by decide
  refine ⟨hdot, by decide, ?_, ?_, ?_⟩
  · obtain ⟨path, hpath, hsegments, hempty, hsigned⟩ :=
      exists_pathRequest namesServer_localhost none (.counter "." 5) false 0
    rw [haddress] at hpath
    exact ⟨path, hpath, unknown_path hsegments hdot (Http.admits_none _) (.inl rfl) Snapshot.empty⟩
  · obtain ⟨json, hjson, hsegments, hbody, hsigned⟩ :=
      exists_jsonRequest namesServer_localhost none (.counter "." 5) false 0
    rw [haddress] at hjson
    have hsize : json.body.size ≤ Api.bodyLimit := by
      rw [hbody]
      decide
    obtain ⟨response, hserve, -⟩ :=
      stores_json hsegments hdot hbody hsigned hsize Snapshot Snapshot.empty
    refine ⟨json, hjson, ?_⟩
    rw [hserve]
    rfl
  · have hurl : HttpLink.updateUrl? "localhost:8080" (.counter "a\tb" 1)
        = HttpLink.updateUrl? "localhost:8080" (.counter "ab" 1) := by decide +kernel
    simp only [HttpLink.request, hurl]

end Telemetry

import Telemetry.Proofs.Metric.Json
import Telemetry.Proofs.Server.Api
import Telemetry.Proofs.Server.Http
import Telemetry.Proofs.Wire.Message
import Telemetry.Server.Rpc

/-!
# Metrics taken in over HTTP and as calls

Metrics that are sent as JSON and metrics that are sent as messages come to the same
(`ingestion_agrees`), although they are validated at different places: JSON is decoded whatever it
says and validated by the store, while a list of messages is validated on the way to the store and
stops at the first metric that is refused. `createMetric_ofMetric` and `createMetrics_ofMetric`
therefore give the calls in terms of what the store in memory does with the metrics, as
`Api.storeOne_ok` and `Api.storeAll_ok` do for the resources; `Agreement` says what the two have in
common.
-/

namespace Telemetry

namespace Rpc

/-- A call with a metric is what the store in memory makes of the metric. -/
theorem createMetric_ofMetric (s : Snapshot) (m : Metric) :
    createMetric s (WireMetric.ofMetric m)
      = (((Memory.create s m).1.map storedText).mapError invalid, (Memory.create s m).2) := by
  unfold createMetric
  rw [WireMetric.toMetric_ofMetric]
  cases hvalid : m.validate with
  | error e =>
    have hcreate : Memory.create s m = (.error e, s) := by
      unfold Memory.create
      rw [hvalid]
    rw [hcreate]
    rfl
  | ok u =>
    simp only [Except.map, create_snapshot]
    cases (Memory.create s m).1 <;> rfl

/-- A call with a list is what the store in memory makes of the list. -/
theorem createMetrics_ofMetric (s : Snapshot) (metrics : List Metric) :
    createMetrics s (metrics.map WireMetric.ofMetric) =
      match Memory.createAll s metrics with
      | .ok next => (.ok (Api.storedText metrics.length), next)
      | .error e => (.error (invalid e), s) := by
  unfold createMetrics
  rw [WireMetric.mapM_toMetric_ofMetric]
  -- The call and the store check the metrics both; if one of them is invalid the call stops first,
  -- with the same error.
  cases hvalid : validateAll metrics with
  | error e =>
    have hcreate : Memory.createAll s metrics = .error e := by
      unfold Memory.createAll
      rw [hvalid]
      rfl
    rw [hcreate]
    rfl
  | ok u =>
    simp only [Except.map, createAll_snapshot]
    cases Memory.createAll s metrics <;> rfl

end Rpc

namespace ApiError

/-- A metric without a name is not found; any other fault of a metric makes a bad request. -/
theorem status_ofMetric (e : MetricError) :
    (ofMetric e).status = if e = .missingName then 404 else 400 := by
  cases e <;> rfl

/-- The answer to a faulty metric is the message of its error. -/
theorem text_ofMetric (e : MetricError) : (ofMetric e).text = e.message := by
  cases e <;> rfl

end ApiError

namespace Api

/-- A record with a message. -/
theorem messageOfJson?_object (text : String) :
    messageOfJson? (.object [(Json.rawText "message", .text (Json.rawText text))]) = some text := by
  have hmembers := Json.asMembers?_rawText [("message", .text (Json.rawText text))]
  have hrecord : Json.record? ["message"]
      (.object [(Json.rawText "message", .text (Json.rawText text))])
      = some [some (.text (Json.rawText text))] :=
    (congrArg (Option.bind · fun members => ["message"].mapM (Json.field? members)) hmembers).trans
      rfl
  rw [messageOfJson?, hrecord]
  exact Json.decodeText?_encode text

/-- The message of a confirmation is read back. -/
theorem messageOfJsonBytes?_confirmation (count : Nat) :
    messageOfJsonBytes? (confirmation count).toUTF8 = some (storedText count) := by
  have hname : "\x7b\"message\":".toList = '{' :: (Json.encodeText "message" ++ [':']) := rfl
  have htext : (confirmation count).toList = '{' :: ((Json.encodeText "message" ++ ':' ::
      Json.encodeText (storedText count)) ++ ['}']) := by
    refine String.toList_ofList.trans ?_
    simp only [hname, List.cons_append, List.append_assoc, List.nil_append]
  have hdenotes := Json.Denotes.object (.last (.text (storedText count)) "message")
  rw [messageOfJsonBytes?, Json.toList_toUTF8, htext, Json.ofBytes?_of_denotes hdenotes,
    Option.bind_some]
  exact messageOfJson?_object (storedText count)

end Api

namespace Snapshot

/-- What is stored of an accepted metric has no value or a finite one. -/
theorem isFinite_of_apply {s next : Snapshot} {m stored : Metric} (hvalid : m.validate = .ok ())
    (h : s.apply m = .ok (stored, next)) : ∀ x ∈ stored.value, x.isFinite = true := by
  cases hkind : m.kind with
  | counter =>
    rw [apply_counter hkind] at h
    split at h
    · cases h
      exact nofun
    · cases h
  | gauge =>
    rw [apply_gauge hkind] at h
    cases h
    rintro x ⟨⟩
    exact Metric.isFinite_valueOrZero_of_validate hvalid

end Snapshot

namespace Http

/-- A request and a call come to the same at a store in memory: both succeed, report the same in
their own forms and leave the same behind, or both are refused for the same reason and leave
everything as it was. -/
inductive Agreement (Reported : Response → String → Snapshot → Prop) (s : Snapshot) :
    Response × Snapshot → Except RpcError String × Snapshot → Prop
  | stored {response : Response} {text : String} {next : Snapshot}
      (hstatus : response.status = 200) (hreported : Reported response text next) :
      Agreement Reported s (response, next) (.ok text, next)
  | refused {response : Response} {e : MetricError}
      (hstatus : response.status = if e = .missingName then 404 else 400)
      (hbody : response.body = e.message.toUTF8) :
      Agreement Reported s (response, s) (.error ⟨.invalidArgument, e.message⟩, s)

/-- The message of an answer is the text that a call is answered with. -/
def ConfirmsBatch (response : Response) (text : String) (_ : Snapshot) : Prop :=
  Api.messageOfJsonBytes? response.body = some text

/-- The answer and the text show the metric as it is stored afterwards. -/
def ConfirmsMetric (m : Metric) (response : Response) (text : String) (next : Snapshot) : Prop :=
  ∃ stored, next.get? m.id m.kind = some stored ∧
    Metric.ofJsonBytes? response.body = some stored ∧ text = Rpc.storedText stored

variable {key : Option String} {r : Request}

/-- A batch has the same effect by either way in, and is confirmed or refused alike. -/
theorem agreement_batch (hmethod : r.method = .post) (hadmits : admits key r = true)
    (hsize : r.body.size ≤ Api.bodyLimit) {metrics : List Metric}
    (hfinite : ∀ m ∈ metrics, ∀ x ∈ m.value, x.isFinite = true)
    (hpath : r.path = "/updates/".toList) (hbody : r.body = (Metric.listToJson metrics).toUTF8)
    (s : Snapshot) :
    Agreement ConfirmsBatch s (serve key r s)
      (Rpc.createMetrics s (metrics.map WireMetric.ofMetric)) := by
  have hresource : Resource.ofPath? r.path = some .updates := by
    rw [hpath]
    rfl
  -- The body is read as the metrics that it was written from, so both ways store the same list.
  have hasked : Api.decoded Metric.listOfJsonBytes? r.body = .ok metrics :=
    Api.decoded_of_le hsize (hbody ▸ Metric.listOfJsonBytes?_listToJson hfinite)
  have hanswer : Api.answer .updates r.body s = Api.storeAll s (.ok metrics) := by
    rw [Api.answer, hasked]
  obtain ⟨response, hserve, hstatus, hsent⟩ := serve_update hmethod hresource rfl hadmits s
  rw [hserve, Rpc.createMetrics_ofMetric]
  rw [hanswer, Api.storeAll_ok] at hstatus hsent ⊢
  cases hcreate : Memory.createAll s metrics with
  | ok next =>
    rw [hcreate] at hstatus hsent
    refine .stored hstatus ?_
    rw [ConfirmsBatch, hsent]
    exact Api.messageOfJsonBytes?_confirmation metrics.length
  | error e =>
    rw [hcreate] at hstatus hsent
    exact .refused (hstatus.trans (ApiError.status_ofMetric e))
      (hsent.trans (congrArg String.toUTF8 (ApiError.text_ofMetric e)))

/-- A single metric has the same effect by either way in, and is confirmed or refused alike. -/
theorem agreement_single (hmethod : r.method = .post) (hadmits : admits key r = true)
    (hsize : r.body.size ≤ Api.bodyLimit) {m : Metric} (hfinite : ∀ x ∈ m.value, x.isFinite = true)
    (hpath : r.path = "/update/".toList) (hbody : r.body = m.toJson.toUTF8) (s : Snapshot) :
    Agreement (ConfirmsMetric m) s (serve key r s)
      (Rpc.createMetric s (WireMetric.ofMetric m)) := by
  have hresource : Resource.ofPath? r.path = some .update := by
    rw [hpath]
    rfl
  have hasked : Api.decoded Metric.ofJsonBytes? r.body = .ok m :=
    Api.decoded_of_le hsize (hbody ▸ Metric.ofJsonBytes?_toJson hfinite)
  have hanswer : Api.answer .update r.body s = Api.storeOne Api.asJson s (.ok m) := by
    rw [Api.answer, hasked]
  obtain ⟨response, hserve, hstatus, hsent⟩ := serve_update hmethod hresource rfl hadmits s
  rw [hserve, Rpc.createMetric_ofMetric]
  rw [hanswer, Api.storeOne_ok] at hstatus hsent ⊢
  rcases Memory.create_cases s m with ⟨stored, next, hcreate, hvalid, happly⟩ | ⟨e, hcreate⟩
  · rw [hcreate] at hstatus hsent ⊢
    -- What is confirmed is the metric as it is stored, which is finite since it is valid.
    refine .stored hstatus ⟨stored, Snapshot.get?_of_apply happly, ?_, rfl⟩
    rw [hsent]
    exact Metric.ofJsonBytes?_toJson (Snapshot.isFinite_of_apply hvalid happly)
  · rw [hcreate] at hstatus hsent ⊢
    exact .refused (hstatus.trans (ApiError.status_ofMetric e))
      (hsent.trans (congrArg String.toUTF8 (ApiError.text_ofMetric e)))

end Http

open Http

/-- **Metrics come to the same whether they are sent over HTTP or in a call**, one by one and as a
batch, whatever they are and whatever is stored. -/
theorem ingestion_agrees (key : Option String) (r : Request) (s : Snapshot)
    (hmethod : r.method = .post) (hadmits : admits key r = true)
    (hsize : r.body.size ≤ Api.bodyLimit) :
    (∀ metrics : List Metric, (∀ m ∈ metrics, ∀ x ∈ m.value, x.isFinite = true) →
      r.path = "/updates/".toList → r.body = (Metric.listToJson metrics).toUTF8 →
      Agreement ConfirmsBatch s (serve key r s)
        (Rpc.createMetrics s (metrics.map WireMetric.ofMetric))) ∧
    ∀ m : Metric, (∀ x ∈ m.value, x.isFinite = true) →
      r.path = "/update/".toList → r.body = m.toJson.toUTF8 →
      Agreement (ConfirmsMetric m) s (serve key r s)
        (Rpc.createMetric s (WireMetric.ofMetric m)) :=
  ⟨fun _ hfinite hpath hbody => agreement_batch hmethod hadmits hsize hfinite hpath hbody s,
    fun _ hfinite hpath hbody => agreement_single hmethod hadmits hsize hfinite hpath hbody s⟩

/-- A metric without a name among others, and a counter that is stored. -/
theorem nameless_batch_and_counter_agree :
    let batch : List Metric := [.counter "a" 1, ⟨"", .gauge, none, none⟩]
    let overHttp (target : String) (body : String) : Response × Snapshot :=
      serve none ⟨.post, target, [], body.toUTF8⟩ Snapshot.empty
    Agreement ConfirmsBatch Snapshot.empty (overHttp "/updates/" (Metric.listToJson batch))
        (Rpc.createMetrics Snapshot.empty (batch.map WireMetric.ofMetric)) ∧
      Agreement (ConfirmsMetric (.counter "a" 1)) Snapshot.empty
        (overHttp "/update/" (Metric.counter "a" 1).toJson)
        (Rpc.createMetric Snapshot.empty (WireMetric.ofMetric (.counter "a" 1))) := by
  intro batch overHttp
  constructor
  · have hsize : (Metric.listToJson batch).toUTF8.size ≤ Api.bodyLimit := by decide
    refine (ingestion_agrees none _ Snapshot.empty rfl rfl hsize).1 batch ?_ (by decide) rfl
    decide
  · have hsize : (Metric.counter "a" 1).toJson.toUTF8.size ≤ Api.bodyLimit := by decide
    exact (ingestion_agrees none _ Snapshot.empty rfl rfl hsize).2 (.counter "a" 1) nofun
      (by decide) rfl

end Telemetry

import Telemetry.Proofs.Config.Environment
import Telemetry.Proofs.Report.Http

/-!
# The key between agent and server

An agent and a server that are given the same key need not both have it afterwards: an empty text is
no key to a server, and a blank variable is none either, whereas an agent signs with every text that
its file gives. `agent_and_server_agree_on_key` says that this does no harm: whatever text is given,
and however it reaches the two, what the agent signs the server does not check or verifies.

Only the size of a body is left. A server with a key reads no body above a limit, and a metric with
a long name has one (`long_name_is_refused`).
-/

namespace Telemetry

/-! ## What is sent -/

/-- If nothing is left out, nothing gets shorter. -/
theorem Text.length_le_length_flatMap {α β : Type} {f : α → List β} (hf : ∀ a, f a ≠ [])
    (l : List α) : l.length ≤ (l.flatMap f).length := by
  induction l with
  | nil => exact Nat.le_refl 0
  | cons a l ih =>
    have hhead := List.length_pos_iff.2 (hf a)
    rw [List.flatMap_cons, List.length_append, List.length_cons]
    omega

/-- Every character is written by one character at least. -/
theorem Json.encodeChar_ne_nil (c : Char) : encodeChar c ≠ [] := by
  obtain ⟨e, h, -⟩ | ⟨h, -⟩ | ⟨h, -⟩ := encodeChar_cases c <;> rw [h] <;> exact List.cons_ne_nil _ _

/-- A text has a byte for each character. -/
theorem Text.length_le_size_toUTF8 (s : String) : s.toList.length ≤ s.toUTF8.size := by
  have hbytes : s.toUTF8.size = (Json.bytesOf s.toList).length :=
    congrArg List.length (Json.toList_toUTF8 s)
  rw [hbytes]
  exact length_le_length_flatMap Json.utf8EncodeChar_ne_nil s.toList

/-- The JSON of a metric has a byte for each character of its name. -/
theorem Metric.length_id_le_size_toJson (m : Metric) :
    m.id.toList.length ≤ m.toJson.toUTF8.size := by
  have hname : m.id.toList.length ≤ (Json.encodeText m.id).length := by
    have := Text.length_le_length_flatMap Json.encodeChar_ne_nil m.id.toList
    rw [Json.encodeText, List.length_cons, List.length_append]
    omega
  have hquoted : ∃ start rest, m.toJson.toList = start ++ (Json.encodeText m.id ++ rest) := by
    refine ⟨"\x7b\"id\":".toList, ?_, String.toList_ofList.trans ?_⟩
    rotate_left
    · simp only [List.append_assoc]
      rfl
  obtain ⟨start, rest, htext⟩ := hquoted
  have hlength := Text.length_le_size_toUTF8 m.toJson
  rw [htext, List.length_append, List.length_append] at hlength
  omega

namespace HttpLink

variable {link : HttpLink} {address : String} {m : Metric} {r : PublishRequest}

/-- The body of a request is signed as it is sent. -/
theorem request_eq_ok (h : link.request address m = .ok r) :
    r.signature = link.key.map (fun key => Signature.sign key r.body) ∧
      r.body = match link.mode with
        | .path => ByteArray.empty
        | .json => m.toJson.toUTF8 := by
  obtain ⟨mode, key⟩ := link
  cases mode
  all_goals
    simp only [request] at h
    split at h <;> cases h
    -- by its fields only, so that the text is not computed
    constructor <;> dsimp only

end HttpLink

/-! ## What is checked -/

/-- A server with or without a key makes no objection to the signature of a request. -/
structure PublishRequest.Trusted (r : PublishRequest) (key : Option String) : Prop where
  /-- The server sees no key, or the header of the request verifies against its body. -/
  verified : Http.effectiveKey key = none ∨ ∃ k value, Http.effectiveKey key = some k ∧
    r.received.header? Signature.header = some value ∧
      Http.verifies k r.received.body value = true
  /-- The check refuses nothing but a body that is too long for it. -/
  admits_iff : Http.admits key r.received = true ↔
    Http.effectiveKey key = none ∨ r.body.size ≤ Http.signedBodyLimit

namespace PublishRequest

variable {key : Option String} {k : String} {r : PublishRequest}

/-- A server without a key trusts everything. -/
theorem trusted_of_effectiveKey_eq_none (h : Http.effectiveKey key = none) : r.Trusted key where
  verified := .inl h
  admits_iff := by simp [Http.admits, h]

/-- A server trusts what is signed with its key, as long as it can be read whole. -/
theorem trusted_of_signature (hkey : Http.effectiveKey key = some k)
    (hsignature : r.signature = some (Signature.sign k r.body)) : r.Trusted key := by
  have hheader : r.received.header? Signature.header
      = some (Signature.sign k r.body).toUTF8.data.toList := by
    rw [header?_received, hsignature, Option.map_some]
  have hverifies := Http.verifies_sign k r.body
  refine ⟨.inr ⟨k, _, hkey, hheader, hverifies⟩, ?_⟩
  have hadmits : Http.admits key r.received = true ↔ Http.refusal? k r.received = none := by
    simp [Http.admits, hkey]
  -- The signature verifies, so the length of the body is the only thing that is left to refuse.
  rw [hadmits, Http.refusal?_eq_none_iff, hkey]
  constructor
  · exact fun h => .inr h.1
  · rintro (h | hsize)
    · cases h
    · refine ⟨hsize, fun value hvalue => ?_⟩
      obtain rfl := Option.some.inj (hheader.symm.trans hvalue)
      exact hverifies

end PublishRequest

/-- The key that a server sees is the one that it is given, or there is none. -/
theorem ServerSettings.effectiveKey_of_gather {key : String} {file : Option (Option ByteArray)}
    {env : Environment} {s : ServerSettings} (hgiven : KeyGiven key file env)
    (h : gather file env = .ok s) :
    Http.effectiveKey s.key = none ∨ key ≠ "" ∧ Http.effectiveKey s.key = some key := by
  obtain hkey | hkey := key_of_gather hgiven h
  · rw [hkey]
    by_cases hne : key = ""
    · rw [hne]
      exact .inl rfl
    · exact .inr ⟨hne, Http.effectiveKey_of_ne hne⟩
  · rw [hkey]
    exact .inl rfl

/-! ## The two together -/

/-- **A server trusts the agents that are given its key**: whatever the text is, and whichever way
it reaches either of the two. In the path no request is refused, in JSON only a body that is too
long for the check. -/
theorem agent_and_server_agree_on_key {key : String}
    {agentFile serverFile : Option (Option ByteArray)} {agentEnv serverEnv : Environment}
    {agent : AgentSettings} {server : ServerSettings} (hagent : KeyGiven key agentFile agentEnv)
    (hserver : KeyGiven key serverFile serverEnv)
    (hagentSettings : AgentSettings.gather agentFile agentEnv = .ok agent)
    (hserverSettings : ServerSettings.gather serverFile serverEnv = .ok server) {mode : HttpMode}
    {address : String} {m : Metric} {r : PublishRequest}
    (hrequest : HttpLink.request ⟨mode, agent.key⟩ address m = .ok r) :
    r.Trusted server.key ∧ (mode = .path → Http.admits server.key r.received = true) := by
  obtain ⟨hsignature, hbody⟩ := HttpLink.request_eq_ok hrequest
  have htrusted : r.Trusted server.key := by
    -- A blank key is none for the server, so it trusts everything; any other one is the agent's as
    -- well.
    obtain hnone | ⟨hne, hsome⟩ := ServerSettings.effectiveKey_of_gather hserver hserverSettings
    · exact PublishRequest.trusted_of_effectiveKey_eq_none hnone
    · have hkey : agent.key = some key := AgentSettings.key_of_gather hagent hne hagentSettings
      rw [hkey] at hsignature
      exact PublishRequest.trusted_of_signature hsome hsignature
  refine ⟨htrusted, ?_⟩
  rintro rfl
  -- In this mode the body is empty, and so it is short enough to be checked.
  refine htrusted.admits_iff.2 (.inr ?_)
  rw [hbody]
  exact Nat.zero_le _

/-- A file that gives a key. -/
def keyFile : ByteArray := "key = \"k\"".toUTF8

/-- An environment that sets the key and nothing else. -/
def keyOnly (key : String) : Environment := fun name =>
  if name = keyVariable then some key else none

/-- An agent has its key from its file, the server from a variable, and a counter is sent as
JSON. -/
theorem file_and_variable_agree_on_key :
    ∃ agent server r, KeyGiven "k" (some (some keyFile)) (fun _ => none) ∧
      KeyGiven "k" none (keyOnly "k") ∧
      AgentSettings.gather (some (some keyFile)) (fun _ => none) = .ok agent ∧
      ServerSettings.gather none (keyOnly "k") = .ok server ∧
      HttpLink.request ⟨.json, agent.key⟩ "localhost:8080" (.counter "a" 1) = .ok r ∧
      r.Trusted server.key ∧
      (HttpMode.json = .path → Http.admits server.key r.received = true) := by
  have hagentKey : KeyGiven "k" (some (some keyFile)) fun _ => none :=
    .byFile rfl (by decide +kernel)
  have hserverKey : KeyGiven "k" none (keyOnly "k") := .byVariable rfl
  have hsome : (AgentSettings.gather (some (some keyFile)) fun _ => none).toOption
      = some { AgentSettings.standard with key := some "k" } := by decide +kernel
  obtain ⟨agent, hagent⟩ : ∃ agent,
      AgentSettings.gather (some (some keyFile)) (fun _ => none) = .ok agent := by
    generalize AgentSettings.gather _ _ = settings at hsome ⊢
    cases settings with
    | error e => cases hsome
    | ok agent => exact ⟨agent, rfl⟩
  have hserver : ServerSettings.gather none (keyOnly "k")
      = .ok { ServerSettings.standard with key := some "k" } := rfl
  have haddress : Address.ofServer false "localhost".toList "8080".toList 0 = "localhost:8080" := by
    decide
  obtain ⟨r, hrequest, -⟩ :=
    HttpLink.exists_jsonRequest namesServer_localhost agent.key (.counter "a" 1) false 0
  rw [haddress] at hrequest
  exact ⟨agent, _, r, hagentKey, hserverKey, hagent, hserver, hrequest,
    agent_and_server_agree_on_key hagentKey hserverKey hagent hserver hrequest⟩

/-- A name of more than four mebibytes. -/
def longName : String := String.ofList (List.replicate (Http.signedBodyLimit + 1) 'a')

/-- A counter with a long name is accepted, and its request is refused by the server that has the
key of the agent. -/
theorem long_name_is_refused :
    ∃ agent server r, KeyGiven "k" none (keyOnly "k") ∧
      AgentSettings.gather none (keyOnly "k") = .ok agent ∧
      ServerSettings.gather none (keyOnly "k") = .ok server ∧
      (Metric.counter longName 1).validate = .ok () ∧
      HttpLink.request ⟨.json, agent.key⟩ "localhost:8080" (.counter longName 1) = .ok r ∧
      Http.effectiveKey server.key = some "k" ∧
      Http.refusal? "k" r.received = some "unreadable request body" := by
  have haddress : Address.ofServer false "localhost".toList "8080".toList 0 = "localhost:8080" := by
    decide
  obtain ⟨r, hrequest, -, hbody, -⟩ :=
    HttpLink.exists_jsonRequest namesServer_localhost (some "k") (.counter longName 1) false 0
  rw [haddress] at hrequest
  have hlong : longName.toList.length = Http.signedBodyLimit + 1 := by
    rw [longName, String.toList_ofList, List.length_replicate]
  have hvalid : (Metric.counter longName 1).validate = .ok () := by
    refine Metric.validate_counter (fun hempty => ?_) 1
    have hzero : longName.toList.length = 0 := congrArg (fun s => s.toList.length) hempty
    omega
  have hsize : Http.signedBodyLimit < r.received.body.size := by
    -- The name is in the body, so the body is at least as long as the name.
    have hlength : longName.toList.length ≤ _ :=
      (Metric.counter longName 1).length_id_le_size_toJson
    rw [hlong, ← hbody] at hlength
    exact hlength
  exact ⟨_, _, r, .byVariable rfl, rfl, rfl, hvalid, hrequest, by decide, if_pos hsize⟩

end Telemetry

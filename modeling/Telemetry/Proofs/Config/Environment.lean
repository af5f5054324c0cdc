import Telemetry.Config.Agent
import Telemetry.Config.Server

/-!
# Where a setting comes from

A setting that a variable of the environment overrides is what the variable says and, if the
variable is not set, what it was before; no other variable matters to it (`apply_setting`). The keys
of agents and servers are such settings (`key_of_override`), and the two differ in the texts that
they take for no key. `key_of_gather` follows a key from where it is given to where it is used.
-/

namespace Telemetry

/-- A computation that answers has answered in both of its steps. -/
theorem exists_of_bind_eq_ok {ε α β : Type} {x : Except ε α} {f : α → Except ε β} {b : β}
    (h : (x >>= f) = .ok b) : ∃ a, x = .ok a ∧ f a = .ok b := by
  cases x with
  | error e => cases h
  | ok a => exact ⟨a, rfl, h⟩

/-! ## Variables -/

namespace Override

variable {α β γ : Type}

/-- A setting that belongs to the variable of a name: this variable decides it, and every other one
leaves it alone. -/
def Respects (setting : α → β) (name : String) (read : String → β) (o : Override α) : Prop :=
  ∀ text a b, o.change text a = .ok b →
    setting b = if o.name = name then read text else setting a

/-- A variable whose text is taken as it is. -/
theorem respects_of_ok {setting : α → β} {name own : String} {read : String → β}
    {change : String → α → α}
    (h : ∀ text a, setting (change text a) = if own = name then read text else setting a) :
    Respects setting name read ⟨own, fun text a => .ok (change text a)⟩ := by
  rintro text a _ ⟨⟩
  exact h text a

/-- A variable that changes something else. -/
theorem respects_of_ne {setting : α → β} {name own : String} {read : String → β}
    {parse : String → Except ConfigError γ} {change : γ → α → α} (hname : own ≠ name)
    (hkeeps : ∀ c a, setting (change c a) = setting a) :
    Respects setting name read ⟨own, fun text a => (parse text).map fun c => change c a⟩ := by
  intro text a b h
  rw [if_neg hname]
  cases hparse : parse text with
  | error e =>
    simp only [hparse] at h
    cases h
  | ok c =>
    simp only [hparse] at h
    cases h
    exact hkeeps c a

end Override

namespace Environment

variable {α β : Type} {env : Environment} {name : String} {setting : α → β} {read : String → β}
  {overrides : List (Override α)} {a b : α}

/-- A variable that is not set changes nothing. -/
theorem apply_cons {o : Override α} (h : env.apply (o :: overrides) a = (.ok (), b)) :
    ∃ next, env.apply overrides next = (.ok (), b) ∧
      (env o.name = none ∧ next = a ∨
        ∃ text, env o.name = some text ∧ o.change text a = .ok next) := by
  unfold apply at h
  split at h
  · next hunset => exact ⟨a, h, .inl ⟨hunset, rfl⟩⟩
  · next text hset =>
    split at h
    · next next hchange => exact ⟨next, h, .inr ⟨text, hset, hchange⟩⟩
    · cases h

/-- Without its variable, a setting stays. -/
theorem apply_of_unset (hunset : env name = none)
    (hrespects : ∀ o ∈ overrides, o.Respects setting name read)
    (h : env.apply overrides a = (.ok (), b)) : setting b = setting a := by
  induction overrides generalizing a with
  | nil =>
    cases h
    rfl
  | cons o rest ih =>
    obtain ⟨hfirst, hrest⟩ := List.forall_mem_cons.1 hrespects
    obtain ⟨next, hnext, ⟨-, rfl⟩ | ⟨text, hset, hchange⟩⟩ := apply_cons h
    · exact ih hrest hnext
    · have hname : o.name ≠ name := by
        rintro rfl
        cases hset.symm.trans hunset
      rw [ih hrest hnext, hfirst _ _ _ hchange, if_neg hname]

/-- With its variable, a setting is what the variable says once its turn has come. -/
theorem apply_of_set {text : String} (hset : env name = some text)
    (hrespects : ∀ o ∈ overrides, o.Respects setting name read)
    (hturn : setting a = read text ∨ name ∈ overrides.map (·.name))
    (h : env.apply overrides a = (.ok (), b)) : setting b = read text := by
  -- The setting is right already, or the variable has its turn among the overrides that are left.
  induction overrides generalizing a with
  | nil =>
    cases h
    exact hturn.resolve_right List.not_mem_nil
  | cons o rest ih =>
    obtain ⟨hfirst, hrest⟩ := List.forall_mem_cons.1 hrespects
    obtain ⟨next, hnext, hstep⟩ := apply_cons h
    refine ih hrest ?_ hnext
    by_cases hname : o.name = name
    · obtain ⟨hunset, -⟩ | ⟨other, hother, hchange⟩ := hstep
      · rw [hname, hset] at hunset
        cases hunset
      · rw [hname, hset] at hother
        obtain rfl := Option.some.inj hother
        exact .inl ((hfirst _ _ _ hchange).trans (if_pos hname))
    · rw [List.map_cons, List.mem_cons] at hturn
      refine hturn.imp (fun hturn => ?_) fun hmem => hmem.resolve_left (Ne.symm hname)
      obtain ⟨-, rfl⟩ | ⟨other, -, hchange⟩ := hstep
      · exact hturn
      · rw [hfirst _ _ _ hchange, if_neg hname, hturn]

/-- **The setting of a variable** is what the variable says, or else what it was. -/
theorem apply_setting (hname : name ∈ overrides.map (·.name))
    (hrespects : ∀ o ∈ overrides, o.Respects setting name read)
    (h : env.apply overrides a = (.ok (), b)) :
    setting b = (env name).elim (setting a) read := by
  cases henv : env name with
  | none => exact apply_of_unset henv hrespects h
  | some text => exact apply_of_set henv hrespects (.inr hname) h

end Environment

/-! ## Keys -/

/-- The variable that holds a key. -/
def keyVariable : String := "PULSEMON_KEY"

/-- The text that a file gives for a name. -/
def Toml.textIn? (file : Option ByteArray) (name : String) : Option String :=
  ((file.bind String.fromUTF8?).bind Toml.ofText?).bind fun entries =>
    (entries.find? fun e => e.1 = name).bind fun e => e.2.asText?

/-- A program is given a text as its key: by its variable, or else by an entry of its file. -/
inductive KeyGiven (key : String) : Option (Option ByteArray) → Environment → Prop
  | byVariable {file : Option (Option ByteArray)} {env : Environment}
      (hset : env keyVariable = some key) : KeyGiven key file env
  | byFile {file : Option ByteArray} {env : Environment} (hunset : env keyVariable = none)
      (hentry : Toml.textIn? file "key" = some key) : KeyGiven key (some file) env

/-- The document in which a text was found. -/
theorem Toml.exists_of_textIn? {file : Option ByteArray} {name key : String}
    (h : textIn? file name = some key) :
    ∃ text entries, file.bind String.fromUTF8? = some text ∧ ofText? text = some entries ∧
      (entries.find? fun e => e.1 = name).map (·.2) = some (.text key) := by
  obtain ⟨entries, hfile, hentry⟩ := Option.bind_eq_some_iff.1 h
  obtain ⟨text, htext, hentries⟩ := Option.bind_eq_some_iff.1 hfile
  obtain ⟨⟨found, v⟩, hfound, hread⟩ := Option.bind_eq_some_iff.1 hentry
  refine ⟨text, entries, htext, hentries, ?_⟩
  cases v <;> cases hread
  rw [hfound]
  rfl

variable {env : Environment} {key : String}

/-! ## Settings -/

/-- Settings that are gathered are loaded or standard ones, overridden and checked. -/
theorem exists_of_gather {α : Type} (initial? : Except ConfigError α)
    (override : α → Except ConfigError Unit × α) (check : α → Except ConfigError Unit) {s : α}
    (h : (initial? >>= fun initial =>
      (override initial).1 >>= fun _ => check (override initial).2 >>= fun _ =>
        pure (override initial).2) = .ok s) :
    ∃ initial, initial? = .ok initial ∧ override initial = (.ok (), s) := by
  obtain ⟨initial, hinitial, h⟩ := exists_of_bind_eq_ok h
  obtain ⟨⟨⟩, hresult, h⟩ := exists_of_bind_eq_ok h
  obtain ⟨⟨⟩, -, h⟩ := exists_of_bind_eq_ok h
  cases h
  exact ⟨initial, hinitial, Prod.ext hresult rfl⟩

namespace AgentSettings

variable {s t : AgentSettings}

theorem key_of_load {file : Option ByteArray} (hentry : Toml.textIn? file "key" = some key)
    (h : load file = .ok s) : s.key = some key := by
  obtain ⟨text, entries, hfile, hentries, hfound⟩ := Toml.exists_of_textIn? hentry
  have hread : ofToml? (.table .header entries) = some s := by
    simp only [load, Environment.textOf, hfile, hentries, bind, Except.bind, Option.bind_some] at h
    split at h
    · next hread =>
      cases h
      exact hread
    · cases h
  simp only [ofToml?, Toml.record?, fieldNames, List.map_cons, List.map_nil, Option.bind_eq_bind,
    Option.bind_some, hfound, Option.bind_eq_some_iff] at hread
  obtain ⟨_, -, _, -, _, -, _, -, _, -, _, -, read, hkey, hs⟩ := hread
  cases hkey
  cases hs
  rfl

/-- The key of an agent is what its variable says, unless that is empty. -/
theorem key_of_override (h : s.override env = (.ok (), t)) :
    t.key = (env keyVariable).elim s.key fun v => if v = "" then none else some v := by
  refine Environment.apply_setting (by decide) ?_ h
  simp only [overrides, List.forall_mem_cons]
  refine ⟨?_, ?_, ?_, ?_, ?_, ?_, nofun⟩
  · exact Override.respects_of_ok fun _ _ => rfl
  · exact Override.respects_of_ne (by decide) fun _ _ => rfl
  · exact Override.respects_of_ne (by decide) fun _ _ => rfl
  · exact Override.respects_of_ne (by decide) fun _ _ => rfl
  · exact Override.respects_of_ne (by decide) fun _ _ => rfl
  · exact Override.respects_of_ok fun _ _ => rfl

/-- An agent signs with the key that it is given, unless that is empty. -/
theorem key_of_gather {file : Option (Option ByteArray)} (hgiven : KeyGiven key file env)
    (hne : key ≠ "") (h : gather file env = .ok s) : s.key = some key := by
  obtain ⟨initial, hinitial, hoverride⟩ := exists_of_gather _ (·.override env) validate h
  rw [key_of_override hoverride]
  cases hgiven with
  | byVariable hset => rw [hset, Option.elim_some, if_neg hne]
  | byFile hunset hentry =>
    rw [hunset, Option.elim_none]
    exact key_of_load hentry hinitial

end AgentSettings

namespace ServerSettings

variable {s t : ServerSettings}

theorem key_of_load {file : Option ByteArray} (hentry : Toml.textIn? file "key" = some key)
    (h : load file = .ok s) : s.key = some key := by
  obtain ⟨text, entries, hfile, hentries, hfound⟩ := Toml.exists_of_textIn? hentry
  have hread : ofToml? (.table .header entries) = some s := by
    simp only [load, Environment.textOf, hfile, hentries, bind, Except.bind, Option.bind_some] at h
    split at h
    · next hread =>
      cases h
      exact hread
    · cases h
  simp only [ofToml?, Toml.record?, fieldNames, List.map_cons, List.map_nil, Option.bind_eq_bind,
    Option.bind_some, hfound, Option.bind_eq_some_iff] at hread
  obtain ⟨_, -, _, -, read, hkey, _, -, hs⟩ := hread
  cases hkey
  cases hs
  rfl

/-- The key of a server is what its variable says, unless that is blank. -/
theorem key_of_override (h : s.override env = (.ok (), t)) :
    t.key = (env keyVariable).elim s.key Environment.nonBlank := by
  refine Environment.apply_setting (by decide) ?_ h
  simp only [overrides, List.forall_mem_cons]
  refine ⟨?_, ?_, ?_, ?_, ?_, ?_, ?_, nofun⟩
  · exact Override.respects_of_ok fun _ _ => rfl
  · exact Override.respects_of_ok fun _ _ => rfl
  · exact Override.respects_of_ok fun _ _ => rfl
  · exact Override.respects_of_ne (by decide) fun _ _ => rfl
  · exact Override.respects_of_ok fun _ _ => rfl
  · exact Override.respects_of_ne (by decide) fun _ _ => rfl
  · exact Override.respects_of_ok fun _ _ => rfl

/-- A server has the key that it is given, or a blank text was given to its variable. -/
theorem key_of_gather {file : Option (Option ByteArray)} (hgiven : KeyGiven key file env)
    (h : gather file env = .ok s) : s.key = some key ∨ s.key = none := by
  obtain ⟨initial, hinitial, hoverride⟩ :=
    exists_of_gather _ (ServerSettings.override · env) (fun _ => .ok ()) h
  rw [key_of_override hoverride]
  cases hgiven with
  | byVariable hset =>
    rw [hset, Option.elim_some, Environment.nonBlank]
    split
    · exact .inr rfl
    · exact .inl rfl
  | byFile hunset hentry =>
    rw [hunset, Option.elim_none]
    exact .inl (key_of_load hentry hinitial)

end ServerSettings

end Telemetry

import Telemetry.Json.Reader
import Telemetry.Proofs.Json.Token

/-!
# Texts and the values they stand for

`Denotes cs v` says that a text, wherever a value may stand, is taken for the value `v`. Strings and
numbers denote values, objects and arrays of texts that denote values do so themselves, and a text
that denotes a value is read as this value.
-/

namespace Telemetry

namespace Json

/-- The tokens make up a value, wherever it stands. -/
def Builds (tokens : List Token) (v : Json) : Prop :=
  ∀ outer, tokens.foldlM Builder.step (.value outer) = some (.after v outer)

/-- The text stands for the value, in front of what ends a number. -/
def Denotes (cs : List Char) (v : Json) : Prop :=
  ∃ tokens, (∀ rest, EndsNumber rest → ScansTo cs tokens rest) ∧ Builds tokens v

/-- A text is read as the value that it stands for. -/
theorem ofBytes?_of_denotes {cs : List Char} {v : Json} (h : Denotes cs v) :
    ofBytes? (bytesOf cs) = some v := by
  obtain ⟨tokens, hscan, hbuild⟩ := h
  rw [ofBytes?, tokens?_of_scansTo (hscan [] nofun), Option.bind_some, ofTokens?, hbuild []]
  rfl

/-- A number text stands for a number. -/
theorem Denotes.number {p : NumberParts} (h : p.WellFormed) (hlead : p.NoLeadingZero)
    (negative : Bool) :
    Denotes ((if negative then ['-'] else []) ++ p.text)
      (.number ((if negative then ['-'] else []) ++ p.text)) :=
  ⟨_, fun _ hrest => .number h hlead negative hrest, fun _ => rfl⟩

/-- What is written for a text stands for a string. -/
theorem Denotes.text (s : String) : Denotes (encodeText s) (.text (rawText s)) :=
  ⟨_, fun rest _ => .encodeText s rest, fun _ => rfl⟩

/-! ## Objects -/

/-- The text is that of some members of an object. Behind the first key it does not matter any more
whether an object has just been opened or goes on behind a comma. -/
def DenotesMembers (cs : List Char) (members : List (List UInt8 × Json)) : Prop :=
  ∃ key tokens, (∀ rest, EndsNumber rest → ScansTo cs (.text key :: tokens) rest) ∧
    ∀ before outer, (tokens ++ [Token.closeBrace]).foldlM Builder.step (.colon before key outer)
      = some (.after (.object (before.reverse ++ members)) outer)

namespace DenotesMembers

variable {cs : List Char} {v : Json}

/-- A member is scanned as its name, a colon and its value. -/
theorem scansTo_member {tokens : List Token} {rest : List UInt8} (h : ScansTo cs tokens rest)
    (name : String) :
    ScansTo (encodeText name ++ ':' :: cs) (.text (rawText name) :: .colon :: tokens) rest :=
  (ScansTo.encodeText name _).append ((ScansTo.colon _).append h)

/-- The tokens of a value behind a colon. -/
theorem foldlM_value {tokens : List Token} (h : Builds tokens v) (rest : List Token)
    (before : List (List UInt8 × Json)) (key : List UInt8) (outer : List Frame) :
    (.colon :: (tokens ++ rest)).foldlM Builder.step (.colon before key outer)
      = rest.foldlM Builder.step (.after v (.object before key :: outer)) := by
  rw [List.foldlM_cons, Builder.step, Option.bind_eq_bind, Option.bind_some, List.foldlM_append, h]
  rfl

/-- The last member. -/
theorem last (h : Denotes cs v) (name : String) :
    DenotesMembers (encodeText name ++ ':' :: cs) [(rawText name, v)] := by
  obtain ⟨tokens, hscan, hbuild⟩ := h
  refine ⟨_, _, fun rest hrest => scansTo_member (hscan rest hrest) name, fun before outer => ?_⟩
  rw [List.cons_append, foldlM_value hbuild, ← List.reverse_cons]
  rfl

/-- One member more in front. -/
theorem cons (h : Denotes cs v) (name : String) {text : List Char}
    {members : List (List UInt8 × Json)} (hmembers : DenotesMembers text members) :
    DenotesMembers (encodeText name ++ ':' :: (cs ++ ',' :: text))
      ((rawText name, v) :: members) := by
  obtain ⟨tokens, hscan, hbuild⟩ := h
  obtain ⟨key, tokens', hscan', hbuild'⟩ := hmembers
  have hcomma : ∀ rest, EndsNumber (bytesOf (',' :: text) ++ rest) := by
    rintro rest b ⟨⟩
    exact .inl rfl
  have hvalue : ∀ rest, EndsNumber rest →
      ScansTo (cs ++ ',' :: text) (tokens ++ .comma :: .text key :: tokens') rest :=
    fun rest hrest => (hscan _ (hcomma rest)).append ((ScansTo.comma _).append (hscan' rest hrest))
  refine ⟨_, _, fun rest hrest => scansTo_member (hvalue rest hrest) name, fun before outer => ?_⟩
  rw [List.cons_append, List.append_assoc, foldlM_value hbuild]
  have hnext := hbuild' ((rawText name, v) :: before) outer
  rw [List.reverse_cons, List.append_assoc] at hnext
  exact hnext

end DenotesMembers

theorem Denotes.emptyObject : Denotes ['{', '}'] (.object []) :=
  ⟨[.openBrace, .closeBrace], fun rest _ => (ScansTo.openBrace _).append (ScansTo.closeBrace rest),
    fun _ => rfl⟩

/-- Members between braces. -/
theorem Denotes.object {cs : List Char} {members : List (List UInt8 × Json)}
    (h : DenotesMembers cs members) : Denotes ('{' :: (cs ++ ['}'])) (.object members) := by
  obtain ⟨key, tokens, hscan, hbuild⟩ := h
  have hbrace : ∀ rest, EndsNumber (bytesOf ['}'] ++ rest) := by
    rintro rest b ⟨⟩
    exact .inr (.inl rfl)
  exact ⟨.openBrace :: .text key :: (tokens ++ [Token.closeBrace]), fun rest _ =>
    (ScansTo.openBrace _).append ((hscan _ (hbrace rest)).append (ScansTo.closeBrace rest)),
    fun outer => hbuild [] outer⟩

/-! ## Arrays -/

/-- The text is that of some items of an array. -/
def DenotesItems (cs : List Char) (items : List Json) : Prop :=
  ∃ tokens, (∀ rest, EndsNumber rest → ScansTo cs tokens rest) ∧
    ∀ before outer,
      (tokens ++ [Token.closeBracket]).foldlM Builder.step (.value (.array before :: outer))
        = some (.after (.array (before.reverse ++ items)) outer)

namespace DenotesItems

variable {cs : List Char} {v : Json}

/-- The last item. -/
theorem last (h : Denotes cs v) : DenotesItems cs [v] := by
  obtain ⟨tokens, hscan, hbuild⟩ := h
  refine ⟨tokens, hscan, fun before outer => ?_⟩
  rw [List.foldlM_append, hbuild, ← List.reverse_cons]
  rfl

/-- One item more in front. -/
theorem cons (h : Denotes cs v) {text : List Char} {items : List Json}
    (hitems : DenotesItems text items) : DenotesItems (cs ++ ',' :: text) (v :: items) := by
  obtain ⟨tokens, hscan, hbuild⟩ := h
  obtain ⟨tokens', hscan', hbuild'⟩ := hitems
  have hcomma : ∀ rest, EndsNumber (bytesOf (',' :: text) ++ rest) := by
    rintro rest b ⟨⟩
    exact .inl rfl
  refine ⟨tokens ++ .comma :: tokens', fun rest hrest =>
    (hscan _ (hcomma rest)).append ((ScansTo.comma _).append (hscan' rest hrest)),
    fun before outer => ?_⟩
  rw [List.append_assoc, List.foldlM_append, hbuild]
  have hnext := hbuild' (v :: before) outer
  rw [List.reverse_cons, List.append_assoc] at hnext
  exact hnext

end DenotesItems

/-- Behind the opening bracket the first item is read as one behind a comma. -/
theorem foldlM_item {tokens : List Token} (hne : tokens ≠ []) {outer : List Frame} {b : Builder}
    (h : tokens.foldlM Builder.step (.value (.array [] :: outer)) = some b) :
    tokens.foldlM Builder.step (.item outer) = some b := by
  obtain ⟨token, rest, rfl⟩ := List.exists_cons_of_ne_nil hne
  have hstep : token ≠ .closeBracket →
      Builder.step (.item outer) token = Builder.step (.value (.array [] :: outer)) token := by
    intro hclose
    cases token <;> first | rfl | exact absurd rfl hclose
  by_cases hclose : token = .closeBracket
  · subst hclose
    cases h
  · rw [List.foldlM_cons, hstep hclose, ← List.foldlM_cons, h]

theorem Denotes.emptyArray : Denotes ['[', ']'] (.array []) :=
  ⟨[.openBracket, .closeBracket],
    fun rest _ => (ScansTo.openBracket _).append (ScansTo.closeBracket rest), fun _ => rfl⟩

/-- Items between brackets. -/
theorem Denotes.array {cs : List Char} {items : List Json} (h : DenotesItems cs items) :
    Denotes ('[' :: (cs ++ [']'])) (.array items) := by
  obtain ⟨tokens, hscan, hbuild⟩ := h
  have hbracket : ∀ rest, EndsNumber (bytesOf [']'] ++ rest) := by
    rintro rest b ⟨⟩
    exact .inr (.inr rfl)
  exact ⟨.openBracket :: (tokens ++ [Token.closeBracket]), fun rest _ =>
    (ScansTo.openBracket _).append ((hscan _ (hbracket rest)).append (ScansTo.closeBracket rest)),
    fun outer => foldlM_item (by simp) (hbuild [] outer)⟩

end Json

end Telemetry

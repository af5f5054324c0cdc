import Telemetry.Proofs.Json.Token
import Telemetry.Proofs.Text
import Telemetry.Report.Transport
import Telemetry.Url

/-!
# Addresses of servers

A server is named by a host and a port. `Address.NamesServer` says which texts these are, and
`Url.ofText?_server` that the address made of them is understood, with an empty path or with one
that follows; whether the scheme was named and how many slashes ended the text does not matter
(`Address.base_ofServer`).
-/

namespace Telemetry

namespace Address

/-- A host and the port behind it. -/
def authority (host port : List Char) : List Char := host ++ ':' :: port

/-- The address of a server, with or without its scheme, and slashes at its end. -/
def ofServer (named : Bool) (host port : List Char) (slashes : Nat) : String :=
  String.ofList ((if named then "http://".toList else [])
    ++ (authority host port ++ List.replicate slashes '/'))

/-- The texts name a host and a port. -/
structure NamesServer (host port : List Char) : Prop where
  /-- No character of the host is blank or takes part in the form of an address. -/
  plain : ∀ c ∈ host, 32 < c.toNat ∧ isBlank c = false ∧ c ∉ ['/', '\\', '?', '#', '@']
  /-- A colon stands in a host only between brackets. -/
  colons : (':' ∉ host ∧ host.head? ≠ some '[')
    ∨ ∃ inner, ']' ∉ inner ∧ host = '[' :: (inner ++ [']'])
  isHost : (Host.normalize? true host).isSome = true
  digits : AllDigits port
  ne_nil : port ≠ []
  le : Nat.ofDigitChars 10 port 0 ≤ 65535

/-- An authority has a colon in it at least. -/
theorem authority_ne_nil (host port : List Char) : authority host port ≠ [] := by
  simp [authority]

variable {host port : List Char}

namespace NamesServer

/-- The characters of a host and a port. -/
theorem plain_authority (h : NamesServer host port) :
    ∀ c ∈ authority host port,
      32 < c.toNat ∧ isBlank c = false ∧ c ∉ ['/', '\\', '?', '#', '@'] := by
  have hdigit : ∀ n < 0x80, isDigit (Char.ofNat n) = true → 32 < (Char.ofNat n).toNat ∧
      isBlank (Char.ofNat n) = false ∧ Char.ofNat n ∉ ['/', '\\', '?', '#', '@'] := by decide
  intro c hc
  rcases List.mem_append.1 hc with hc | hc
  · exact h.plain c hc
  rcases List.mem_cons.1 hc with rfl | hc
  · decide
  · have hc := h.digits c hc
    have hback := hdigit c.toNat (Json.lt_of_isDigit hc)
    rw [Char.ofNat_toNat] at hback
    exact hback hc

/-- No character of a host and a port separates the parts of an address. -/
theorem notMark (h : NamesServer host port) :
    ∀ c ∈ authority host port, c ≠ '/' ∧ c ≠ '\\' ∧ c ≠ '?' ∧ c ≠ '#' := by
  intro c hc
  have hmark := (h.plain_authority c hc).2.2
  simp only [List.mem_cons, List.not_mem_nil, or_false, not_or] at hmark
  exact ⟨hmark.1, hmark.2.1, hmark.2.2.1, hmark.2.2.2.1⟩

/-- The authority ends at the first slash. -/
theorem slash_not_mem (h : NamesServer host port) : '/' ∉ authority host port :=
  fun hc => (h.plain_authority '/' hc).2.2 (by decide)

end NamesServer

/-- Slashes at the end are taken off a text that does not end in one. -/
theorem withoutSlashes_append {cs : List Char} (h : cs.getLast? ≠ some '/') (n : Nat) :
    withoutSlashes (cs ++ List.replicate n '/') = cs := by
  have hslashes : ∀ c ∈ List.replicate n '/', decide (c = '/') = true := by
    intro c hc
    exact decide_eq_true (List.mem_replicate.1 hc).2
  have hlast : ∀ c ∈ cs.reverse.head?, decide (c = '/') = false := by
    intro c hc
    refine decide_eq_false fun heq => h ?_
    rw [← List.head?_reverse, ← heq]
    exact hc
  rw [withoutSlashes, List.reverse_append, List.reverse_replicate,
    List.dropWhile_append_of_pos hslashes, Text.dropWhile_of_head hlast, List.reverse_reverse]

/-- However a server is named, its full address is the same. -/
theorem base_ofServer (h : NamesServer host port) (named : Bool) (slashes : Nat) :
    base (ofServer named host port slashes)
      = String.ofList ("http://".toList ++ authority host port) := by
  have hblank : ∀ c ∈ (ofServer named host port slashes).toList, isBlank c = false := by
    intro c hc
    have hscheme : ∀ c ∈ "http://".toList, isBlank c = false := Text.forall_of_all (by decide)
    rw [ofServer, String.toList_ofList] at hc
    rcases List.mem_append.1 hc with hc | hc
    · cases named with
      | true => exact hscheme c hc
      | false => cases hc
    rcases List.mem_append.1 hc with hc | hc
    · exact (h.plain_authority c hc).2.1
    · rw [(List.mem_replicate.1 hc).2]
      decide
  have hlast : ∀ before : List Char, (before ++ authority host port).getLast? ≠ some '/' := by
    intro before hslash
    have hport : (before ++ authority host port).getLast? = some (port.getLast h.ne_nil) := by
      simp [authority, List.getLast?_append, List.getLast?_cons,
        List.getLast?_eq_some_getLast h.ne_nil]
    have hdigit := h.digits _ (List.getLast_mem h.ne_nil)
    rw [Option.some.inj (hport.symm.trans hslash)] at hdigit
    exact absurd hdigit (by decide)
  -- No blanks are trimmed, and the slashes at the end are the ones that were added.
  rw [base, Text.trim_of_forall hblank, ofServer, String.toList_ofList, ← List.append_assoc,
    withoutSlashes_append (hlast _)]
  cases named with
  | true =>
    have hscheme : namesScheme ("http://".toList ++ authority host port) = true :=
      Text.isSome_cutAt_append schemeMark "http".toList (authority host port)
    exact congrArg String.ofList (if_pos hscheme)
  | false =>
    have hscheme : namesScheme (authority host port) = false := by
      rw [namesScheme, Text.cutAt_eq_none (by decide : '/' ∈ schemeMark) h.slash_not_mem]
      rfl
    simp only [Bool.false_eq_true, if_false, List.nil_append, hscheme]

end Address

namespace Url

open Address

/-- An address of a server with a path of segments and nothing behind it. -/
structure HasSegments (u : Url) (names : List (List Char)) : Prop where
  special : isSpecial u.scheme = true
  host : u.host.isSome = true
  path : u.path = .segments names
  query : u.query = none

variable {host port : List Char}

/-- A text cut in front of a character that it does not hold before. -/
theorem cut_before {c : Char} {before : List Char} (h : c ∉ before) (behind : List Char) :
    (before ++ c :: behind).takeWhile (fun d => decide (d ≠ c)) = before ∧
      (before ++ c :: behind).dropWhile (fun d => decide (d ≠ c)) = c :: behind := by
  have hbefore : ∀ d ∈ before, decide (d ≠ c) = true := by
    intro d hd
    refine decide_eq_true fun heq => h ?_
    rw [← heq]
    exact hd
  rw [List.takeWhile_append_of_pos hbefore, List.dropWhile_append_of_pos hbefore]
  simp

/-- The port is found behind the host. -/
theorem cutAtPort_authority (h : NamesServer host port) :
    cutAtPort (authority host port) = (host, some port) := by
  -- A plain name ends at its only colon; an address in brackets has colons of its own.
  rcases h.colons with ⟨hcolon, hbracket⟩ | ⟨inner, hinner, rfl⟩
  · have hhead : (authority host port).head? ≠ some '[' := by
      cases host with
      | nil => nofun
      | cons c rest => exact hbracket
    obtain ⟨htake, hdrop⟩ := cut_before hcolon port
    simp only [cutAtPort, if_neg hhead, List.length_nil, List.drop_zero, List.nil_append]
    simp only [authority, htake, hdrop]
  · have hauthority : authority ('[' :: (inner ++ [']'])) port
        = ('[' :: inner) ++ ']' :: ':' :: port := by
      simp only [authority, List.cons_append, List.append_assoc, List.nil_append]
    have hbracket : ']' ∉ '[' :: inner := by simp [hinner]
    obtain ⟨htake, -⟩ := cut_before hbracket (':' :: port)
    have hcolon : ':' ∉ [']'] := by decide
    obtain ⟨htake', hdrop'⟩ := cut_before hcolon port
    rw [hauthority]
    have hhead : (('[' :: inner) ++ ']' :: ':' :: port).head? = some '[' := rfl
    simp only [cutAtPort, if_pos hhead, htake, List.drop_left]
    simp only [List.singleton_append] at htake' hdrop'
    simp only [htake', hdrop', List.cons_append]

/-- The port of a server is a port. -/
theorem exists_port? (h : NamesServer host port) (scheme : List Char) :
    ∃ n, port? scheme port = some n := by
  rw [port?, List.isEmpty_eq_false_iff.2 h.ne_nil, if_neg Bool.false_ne_true,
    digitsValue?_of_allDigits h.digits]
  exact ⟨_, if_neg (Nat.not_lt.2 h.le)⟩

/-- The authority of a server is understood. -/
theorem exists_authority? (h : NamesServer host port) (isLast : Bool) :
    ∃ u, authority? "http".toList (authority host port) isLast = some u ∧
      u.scheme = "http".toList ∧ u.host.isSome = true := by
  obtain ⟨n, hn⟩ := exists_port? h "http".toList
  obtain ⟨name, hname⟩ := Option.isSome_iff_exists.1 h.isHost
  have huser : cutAtUser (authority host port) = none := by
    have hat : (authority host port).contains '@' = false := by
      rw [List.contains_eq_mem, decide_eq_false_iff_not]
      exact fun hc => (h.plain_authority '@' hc).2.2 (by decide)
    rw [cutAtUser, hat, if_neg Bool.false_ne_true]
  have hne : host.isEmpty = false := by
    cases host with
    | nil => cases hname
    | cons c rest => rfl
  have hspecial : isSpecial "http".toList = true := rfl
  rw [authority?, huser]
  dsimp only
  rw [cutAtPort_authority h]
  dsimp only
  rw [hne, Option.getD_some, hn, hspecial, hname]
  exact ⟨_, rfl, rfl, rfl⟩

/-- Nothing is cleaned out of visible characters. -/
theorem cleaned_of_visible {cs : List Char} (h : ∀ c ∈ cs, 32 < c.toNat) :
    cleaned (String.ofList cs) = cs := by
  have hstrip : Text.stripBoth (fun c : Char => decide (c.toNat ≤ 32)) cs = cs :=
    Text.stripBoth_of_forall fun c hc => decide_eq_false (Nat.not_le.2 (h c hc))
  have hkept : ∀ c ∈ cs, (c ≠ '\t' && c ≠ '\n' && c ≠ '\r') = true := by
    intro c hc
    have hne : ∀ d : Char, d.toNat ≤ 32 → c ≠ d := by
      rintro d hd rfl
      exact absurd (h c hc) (Nat.not_lt.2 hd)
    simp [hne '\t' (by decide), hne '\n' (by decide), hne '\r' (by decide)]
  rw [cleaned, String.toList_ofList]
  exact (congrArg (List.filter _) hstrip).trans (List.filter_eq_self.2 hkept)

/-- **The address of a server is understood**, with nothing or a path behind the port. -/
theorem exists_ofText?_server (h : NamesServer host port) {path : List Char}
    (hplain : ∀ c ∈ path, 32 < c.toNat ∧ c ≠ '?' ∧ c ≠ '#') (hhead : ∀ c ∈ path.head?, c = '/') :
    ∃ u, ofText? (String.ofList ("http://".toList ++ (authority host port ++ path))) = some u ∧
      u.HasSegments (segmentsOf true path) := by
  -- Nothing is stripped or dropped from the text.
  have hvisible : ∀ c ∈ "http://".toList ++ (authority host port ++ path), 32 < c.toNat := by
    have hscheme : ∀ c ∈ "http://".toList, 32 < c.toNat := Text.forall_of_all (by decide)
    simp only [List.forall_mem_append]
    exact ⟨hscheme, fun c hc => (h.plain_authority c hc).1, fun c hc => (hplain c hc).1⟩
  have hscheme : scheme? ("http://".toList ++ (authority host port ++ path))
      = some ("http".toList, '/' :: '/' :: (authority host port ++ path)) := rfl
  have hfirst : ∀ c ∈ (authority host port ++ path).head?, (c = '/' || c = '\\') = false := by
    obtain ⟨d, rest, hcons⟩ := List.exists_cons_of_ne_nil (authority_ne_nil host port)
    rw [hcons]
    rintro _ ⟨⟩
    obtain ⟨hslash, hbackslash, -⟩ := h.notMark d (hcons ▸ List.mem_cons_self)
    simp [hslash, hbackslash]
  have hslashes : ('/' :: '/' :: (authority host port ++ path)).dropWhile
      (fun c => c = '/' || c = '\\') = authority host port ++ path :=
    (Text.dropWhile_of_head hfirst :)
  -- The authority ends where the path begins, since it has no mark in it.
  have hinside : ∀ c ∈ authority host port, (!endsAuthority true c) = true := by
    intro c hc
    obtain ⟨hslash, hbackslash, hquery, hfragment⟩ := h.notMark c hc
    simp [endsAuthority, hslash, hbackslash, hquery, hfragment]
  have houtside : path.takeWhile (fun c => !endsAuthority true c) = [] ∧
      path.dropWhile (fun c => !endsAuthority true c) = path := by
    cases path with
    | nil => exact ⟨rfl, rfl⟩
    | cons c rest =>
      rw [hhead c rfl]
      exact ⟨rfl, rfl⟩
  have hkept : path.takeWhile (fun c => c ≠ '?' && c ≠ '#') = path ∧
      path.dropWhile (fun c => c ≠ '?' && c ≠ '#') = [] := by
    have hpath : ∀ c ∈ path, (decide (c ≠ '?') && decide (c ≠ '#')) = true := by
      intro c hc
      simpa using (hplain c hc).2
    exact Text.span_of_forall hpath
  obtain ⟨u, hu, hscheme', hhost⟩ := exists_authority? h path.isEmpty
  have hauthority : ofAuthority? "http".toList (authority host port ++ path)
      = some (u.withPath true path) := by
    have hspecial : isSpecial "http".toList = true := rfl
    simp only [ofAuthority?, hspecial, List.takeWhile_append_of_pos hinside,
      List.dropWhile_append_of_pos hinside, houtside.1, houtside.2, List.append_nil, hu,
      Option.map_some]
  refine ⟨u.withPath true path, ?_, ⟨?_, hhost, ?_, ?_⟩⟩
  · have hfile : isFile "http".toList = false := rfl
    have hspecial : isSpecial "http".toList = true := rfl
    rw [ofText?, cleaned_of_visible hvisible, hscheme]
    simp only [Option.bind_eq_bind, Option.bind_some, hfile, hspecial, Bool.false_eq_true, if_false,
      if_true]
    rw [hslashes, hauthority]
  · rw [withPath, hscheme']
    rfl
  · rw [withPath, hkept.1]
  · rw [withPath, hkept.2]
    rfl

/-- What is asked for at an address of segments. -/
theorem HasSegments.target {u : Url} {names : List (List Char)} (h : u.HasSegments names) :
    u.target = String.ofList (names.flatMap fun name => '/' :: name) := by
  have hhost : u.host.isNone = false := by
    rw [← Option.not_isSome, h.host]
    rfl
  rw [Url.target, pathText, h.path, h.query, hhost]
  simp only [Bool.false_and, Bool.false_eq_true, if_false, List.append_nil]

/-- Segments appended to an address without a path. -/
theorem HasSegments.push? {u : Url} (h : u.HasSegments [[]]) (names : List String) :
    ∃ v, u.push? names = some v ∧ v.HasSegments (append true [[]] names) := by
  refine ⟨{ u with path := .segments (append true [[]] names) }, ?_, h.special, h.host, rfl, h.query⟩
  rw [Url.push?, h.path, h.special]
  rfl

end Url

end Telemetry

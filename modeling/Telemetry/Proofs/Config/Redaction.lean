import Telemetry.Config.Server
import Telemetry.Proofs.Url

/-!
# Passwords in the log

The name of a database may hold a user and a password, and `ServerSettings.redactedDsn` is the form
of it that is logged. A reader of addresses takes the credentials up to the last `@` of the
authority, while the mask ends at the first one. So the log shows of a password what stands from its
first `@` on, and nothing else (`redact_nameOf`): two names that differ in their passwords only are
logged alike exactly if they agree on that part (`redactedDsn_eq_iff`).
-/

namespace Telemetry

namespace ServerSettings

variable {scheme user password host : String}

/-- The name of a database with credentials. -/
def nameOf (scheme user password host : String) : String :=
  scheme ++ "://" ++ user ++ ":" ++ password ++ "@" ++ host

/-- The parts are those that a reader of addresses takes the name apart into: the scheme ends at the
first mark, the user at the first colon, the credentials at the last `@` of the authority and the
authority at the first slash, question mark or number sign. -/
structure AreParts (scheme user password host : String) : Prop where
  scheme : ¬ "://".toList <:+: scheme.toList
  user : ∀ c ∈ user.toList, c ≠ ':' ∧ c ≠ '@' ∧ c ≠ '/'
  password : ∀ c ∈ password.toList, c ≠ '/' ∧ c ≠ '?' ∧ c ≠ '#'
  host : '@' ∉ host.toList

/-- What of a password is not masked: everything from its first `@` on. -/
def unmasked (password : String) : String := String.ofList (password.toList.dropWhile (· ≠ '@'))

/-- In a password without an at sign nothing is left unmasked. -/
theorem unmasked_of_not_mem (h : '@' ∉ password.toList) : unmasked password = "" := by
  have hall : ∀ c ∈ password.toList, decide (c ≠ '@') = true :=
    fun c hc => decide_eq_true fun heq => h (heq ▸ hc)
  rw [unmasked, (Text.span_of_forall hall).2, String.ofList_nil]

/-- The mask ends at the first `@` behind the user. -/
theorem cutAt_credentials {user : List Char} (huser : '@' ∉ user) (password host : List Char) :
    ∃ masked shown,
      Text.cutAt ['@'] (user ++ ':' :: (password ++ '@' :: host))
        = some (user ++ ':' :: masked, shown) ∧
      '@' :: shown = password.dropWhile (· ≠ '@') ++ '@' :: host := by
  have hcut : ∀ masked shown, '@' ∉ masked →
      Text.cutAt ['@'] (user ++ ':' :: (masked ++ '@' :: shown))
        = some (user ++ ':' :: masked, shown) := by
    intro masked shown hmasked
    have hbefore : '@' ∉ user ++ ':' :: masked := by simp [huser, hmasked]
    have hfound := Text.cutAt_singleton hbefore shown
    rwa [List.append_assoc, List.cons_append] at hfound
  -- The text is cut at its first at sign, which is the one behind the password or one inside it.
  by_cases hmem : '@' ∈ password
  · obtain ⟨masked, after, rfl, hmasked⟩ := List.eq_append_cons_of_mem hmem
    refine ⟨masked, after ++ '@' :: host, ?_, ?_⟩
    · rw [List.append_assoc, List.cons_append]
      exact hcut masked _ hmasked
    · rw [(Url.cut_before hmasked after).2]
      rfl
  · have hall : ∀ c ∈ password, decide (c ≠ '@') = true :=
      fun c hc => decide_eq_true fun heq => hmem (heq ▸ hc)
    refine ⟨password, host, hcut password host hmem, ?_⟩
    rw [(Text.span_of_forall hall).2]
    rfl

/-- **The masked name of a database** shows of the password what stands from its first `@` on. -/
theorem redact_nameOf (h : AreParts scheme user password host) :
    redact (nameOf scheme user password host)
      = scheme ++ "://" ++ user ++ ":***" ++ unmasked password ++ "@" ++ host := by
  have huser : '@' ∉ user.toList := fun hmem => (h.user '@' hmem).2.1 rfl
  have hcolon : ':' ∉ user.toList := fun hmem => (h.user ':' hmem).1 rfl
  obtain ⟨masked, shown, hcut, hshown⟩ :=
    cutAt_credentials huser password.toList host.toList
  have htext : (nameOf scheme user password host).toList
      = scheme.toList ++ ("://".toList ++ (user.toList ++ ':' ::
          (password.toList ++ '@' :: host.toList))) := by
    simp [nameOf, String.toList_append]
  unfold redact
  rw [htext, Text.cutAt_schemeMark h.scheme]
  simp only [hcut, (Url.cut_before hcolon masked).1]
  rw [← String.toList_inj]
  simp [unmasked, String.toList_append, hshown]

/-- **Two names that differ in their passwords only** are logged alike exactly if the passwords
agree from their first `@` on, in particular if they hold none. -/
theorem redactedDsn_eq_iff {other : String} {s t : ServerSettings}
    (h : AreParts scheme user password host) (hother : AreParts scheme user other host)
    (hs : s.store.dsn = some (nameOf scheme user password host))
    (ht : t.store.dsn = some (nameOf scheme user other host)) :
    (s.redactedDsn = t.redactedDsn ↔ unmasked password = unmasked other) ∧
      ('@' ∉ password.toList → '@' ∉ other.toList → s.redactedDsn = t.redactedDsn) := by
  have heq : s.redactedDsn = t.redactedDsn ↔ unmasked password = unmasked other := by
    rw [redactedDsn, redactedDsn, hs, ht, Option.map_some, Option.map_some, Option.some_inj,
      redact_nameOf h, redact_nameOf hother, ← String.toList_inj, ← String.toList_inj]
    simp [String.toList_append]
  refine ⟨heq, fun hpassword hplain => heq.2 ?_⟩
  rw [unmasked_of_not_mem hpassword, unmasked_of_not_mem hplain]

/-- The settings of a server that works with a database. -/
def withDatabase (name : String) : ServerSettings :=
  { standard with store := { StoreSettings.standard with dsn := some name } }

/-- A scheme without a colon holds no mark. -/
theorem no_schemeMark_of_not_mem {scheme : List Char} (h : ':' ∉ scheme) :
    ¬ "://".toList <:+: scheme :=
  fun hmark => h (hmark.subset List.mem_cons_self)

/-- Colons, percent signs and blanks in a password are masked with it, and so is its absence. -/
theorem redactedDsn_eq_of_colons :
    AreParts "postgres" "u" "a:%40: b" "db:5432/m" ∧ AreParts "postgres" "u" "" "db:5432/m" ∧
      (withDatabase (nameOf "postgres" "u" "a:%40: b" "db:5432/m")).redactedDsn
        = (withDatabase (nameOf "postgres" "u" "" "db:5432/m")).redactedDsn := by
  have hcolons : AreParts "postgres" "u" "a:%40: b" "db:5432/m" :=
    ⟨no_schemeMark_of_not_mem (by decide), Text.forall_of_all (by decide),
      Text.forall_of_all (by decide), by decide⟩
  have hempty : AreParts "postgres" "u" "" "db:5432/m" :=
    ⟨no_schemeMark_of_not_mem (by decide), Text.forall_of_all (by decide),
      Text.forall_of_all (by decide), by decide⟩
  exact ⟨hcolons, hempty, (redactedDsn_eq_iff hcolons hempty rfl rfl).2 (by decide) (by decide)⟩

/-- Two names that are read as addresses of the same user and host, with the passwords `a@b` and
`a@c`, and the end of the password is logged. -/
theorem end_of_password_is_logged :
    AreParts "postgres" "u" "a@b" "db/m" ∧ AreParts "postgres" "u" "a@c" "db/m" ∧
      Url.ofText? (nameOf "postgres" "u" "a@b" "db/m")
        = some ⟨"postgres".toList, ['u'], "a%40b".toList, some "db".toList, none,
            .segments [['m']], none⟩ ∧
      Url.ofText? (nameOf "postgres" "u" "a@c" "db/m")
        = some ⟨"postgres".toList, ['u'], "a%40c".toList, some "db".toList, none,
            .segments [['m']], none⟩ ∧
      (withDatabase (nameOf "postgres" "u" "a@b" "db/m")).redactedDsn
        = some "postgres://u:***@b@db/m" ∧
      (withDatabase (nameOf "postgres" "u" "a@c" "db/m")).redactedDsn
        = some "postgres://u:***@c@db/m" ∧
      (withDatabase (nameOf "postgres" "u" "a@b" "db/m")).redactedDsn
        ≠ (withDatabase (nameOf "postgres" "u" "a@c" "db/m")).redactedDsn := by
  have hb : AreParts "postgres" "u" "a@b" "db/m" :=
    ⟨no_schemeMark_of_not_mem (by decide), Text.forall_of_all (by decide),
      Text.forall_of_all (by decide), by decide⟩
  have hc : AreParts "postgres" "u" "a@c" "db/m" :=
    ⟨no_schemeMark_of_not_mem (by decide), Text.forall_of_all (by decide),
      Text.forall_of_all (by decide), by decide⟩
  exact ⟨hb, hc, by decide +kernel, by decide +kernel, by decide +kernel, by decide +kernel,
    by decide +kernel⟩

end ServerSettings

end Telemetry

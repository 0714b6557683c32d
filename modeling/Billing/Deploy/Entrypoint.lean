/-
  What a container does before the service runs (`scripts/docker/entrypoint.sh`).

  It checks the target of the database URL, in Python, and looks its host up; then it migrates the
  schema, attempt after attempt, unless `MIGRATE_ON_STARTUP` is `false`; then it starts the application.
  The tools that the script calls are given: the name service, `alembic upgrade head`, `sleep`, and how
  `[` reads a number.  Under `set -e` the script exits where a command fails, but not where a condition
  does, and `[` with something that is no number is a condition that fails.
-/
import Billing.Infrastructure.DatabaseUrl
import Billing.Lib.Dict

namespace Billing

open Py

/-- What `socket.getaddrinfo` does. -/
inductive Lookup where
  /-- It finds addresses. -/
  | resolved
  /-- It raises an `OSError`, which is printed. -/
  | osError
  /-- It raises something else, which nobody catches. -/
  | raised
  deriving DecidableEq, Repr

/-- What the script finds around it. -/
structure Tools where
  /-- `socket.getaddrinfo(host, port)`. -/
  lookup : String → Nat → Lookup
  /-- The number that `[` reads in a text. -/
  number : String → Option Int
  /-- `sleep` takes the text. -/
  sleeps : String → Bool
  /-- The `i`-th `alembic upgrade head` succeeds. -/
  upgrade : Nat → Bool

/-- How the script ends. -/
inductive Startup where
  /-- It exits with an error. -/
  | exits
  /-- It becomes the application, after that many runs of `alembic upgrade head`. -/
  | execs (upgrades : Nat)
  deriving DecidableEq, Repr

/-- `${key:-default}`. -/
def orDefault (environ : Dict String) (key default : String) : String :=
  let value := (environ.get? key).getD ""
  if value = "" then default else value

/-- The check of the URL. -/
def checkDatabaseTarget [UrlRules] (environ : Dict String) : Except Exc DatabaseTarget :=
  let databaseUrl := strip ((environ.get? "DATABASE_URL").getD "")
  let expectedDatabase := strip ((environ.get? "EXPECTED_DATABASE_NAME").getD "billing_service_db")
  let expectedUsername := strip ((environ.get? "EXPECTED_DATABASE_USERNAME").getD "billing_service_user")
  validateRuntimeDatabaseUrl databaseUrl (some expectedDatabase) (some expectedUsername)

/-- The attempts from the `i`-th on, of which `remaining` are left. -/
def attemptUpgrades (tools : Tools) (sleepSeconds : String) : (remaining i : Nat) → Startup
  | 0, _ => .exits
  | remaining + 1, i =>
    if tools.upgrade i then .execs i
    else if tools.sleeps sleepSeconds then attemptUpgrades tools sleepSeconds remaining (i + 1)
    else .exits

/-- The migrations. -/
def migrateOnStartup (tools : Tools) (environ : Dict String) : Startup :=
  let shouldMigrate := orDefault environ "MIGRATE_ON_STARTUP" "true"
  if shouldMigrate ≠ "false" then
    match tools.number (orDefault environ "MIGRATE_MAX_ATTEMPTS" "30") with
    | some attempts =>
      attemptUpgrades tools (orDefault environ "MIGRATE_RETRY_SLEEP_SECONDS" "2") attempts.toNat 1
    -- neither `$i -le $attempts` nor `$i -gt $attempts` holds
    | none => .execs 0
  else .execs 0

/-- **The script.** -/
def entrypoint [UrlRules] (tools : Tools) (environ : Dict String) : Startup :=
  match checkDatabaseTarget environ with
  | .error _ => .exits
  | .ok target =>
    match tools.lookup target.host target.port with
    | .raised => .exits
    | .resolved | .osError => migrateOnStartup tools environ

/-! ## The check -/

section Check

variable [UrlRules]

/-- A URL that names a target that a service can use. -/
structure Usable (databaseUrl : String) (target : DatabaseTarget) : Prop where
  nonblank : strip databaseUrl ≠ ""
  described : describeDatabaseTarget databaseUrl = .ok target
  host : target.host ≠ ""
  username : target.username ≠ ""
  database : target.database ∉ ["", "<unknown>"]
  real : lower (strip target.host) ∉ placeholderDatabaseHosts

/-- **What the check of a URL checks**, for expected names that may be blank. -/
theorem validateRuntimeDatabaseUrl_eq_ok {databaseUrl expectedDatabase expectedUsername : String}
    {target : DatabaseTarget} :
    validateRuntimeDatabaseUrl databaseUrl (some expectedDatabase) (some expectedUsername) = .ok target ↔
      Usable databaseUrl target ∧ (expectedDatabase ≠ "" → target.database = expectedDatabase) ∧
        (expectedUsername ≠ "" → target.username = expectedUsername) := by
  have refused : ∀ {c : Prop} [Decidable c] {e : Exc} {rest : Except Exc DatabaseTarget},
      (if c then .error e else rest) = .ok target ↔ ¬ c ∧ rest = .ok target := by
    intro c _ e rest
    by_cases hc : c
    · rw [if_pos hc]
      exact ⟨fun h => (by cases h), fun h => absurd hc h.1⟩
    · rw [if_neg hc]
      exact ⟨fun h => ⟨hc, h⟩, fun h => h.2⟩
  have checks : validateRuntimeDatabaseUrl databaseUrl (some expectedDatabase) (some expectedUsername) =
      if strip databaseUrl = "" then .error (.valueError "DATABASE_URL environment variable is required.")
      else describeDatabaseTarget databaseUrl >>= fun target =>
        if target.host = "" then .error (.valueError "DATABASE_URL must include a database host.")
        else if target.username = "" then .error (.valueError "DATABASE_URL must include a database username.")
        else if target.database ∈ ["", "<unknown>"] then
          .error (.valueError "DATABASE_URL must include a database name.")
        else if lower (strip target.host) ∈ placeholderDatabaseHosts then
          .error (.valueError ("DATABASE_URL host still uses a placeholder value. " ++
            "Replace it with the real RDS endpoint."))
        else if expectedDatabase ≠ "" ∧ target.database ≠ expectedDatabase then
          .error (.valueError ("DATABASE_URL points to the wrong database. Expected '" ++ expectedDatabase ++
            "', got '" ++ target.database ++ "'."))
        else if expectedUsername ≠ "" ∧ target.username ≠ expectedUsername then
          .error (.valueError ("DATABASE_URL uses the wrong database user. Expected '" ++ expectedUsername ++
            "', got '" ++ target.username ++ "'."))
        else .ok target := rfl
  rw [checks, refused, bind_eq_ok]
  simp only [refused]
  constructor
  · rintro ⟨hnonblank, found, hdescribed, hhost, husername, hdatabase, hreal, hexpected, hexpectedUser, hfound⟩
    obtain rfl := Except.ok.inj hfound
    refine ⟨⟨hnonblank, hdescribed, hhost, husername, hdatabase, hreal⟩, fun h => ?_, fun h => ?_⟩
    · exact not_not.mp fun hne => hexpected ⟨h, hne⟩
    · exact not_not.mp fun hne => hexpectedUser ⟨h, hne⟩
  · rintro ⟨husable, hexpected, hexpectedUser⟩
    exact ⟨husable.nonblank, target, husable.described, husable.host, husable.username, husable.database,
      husable.real, fun h => h.2 (hexpected h.1), fun h => h.2 (hexpectedUser h.1), rfl⟩

end Check

/-! ## The attempts -/

/-- **Attempts go on until one succeeds**: it is the first that does, one of those that are left, and
    before it the script slept. -/
theorem attemptUpgrades_eq_execs {tools : Tools} {sleepSeconds : String} {remaining i n : Nat} :
    attemptUpgrades tools sleepSeconds remaining i = .execs n ↔
      i ≤ n ∧ n < i + remaining ∧ tools.upgrade n = true ∧ (∀ j, i ≤ j → j < n → tools.upgrade j = false) ∧
        (i < n → tools.sleeps sleepSeconds = true) := by
  induction remaining generalizing i with
  | zero =>
    constructor
    · intro h
      cases h
    · rintro ⟨hle, hlt, -⟩
      omega
  | succ remaining ih =>
    unfold attemptUpgrades
    by_cases hupgrade : tools.upgrade i = true
    · rw [if_pos hupgrade]
      constructor
      · intro h
        obtain rfl := Startup.execs.inj h
        refine ⟨Nat.le_refl i, by omega, hupgrade, fun j hle hlt => ?_, fun hlt => ?_⟩
        · omega
        · omega
      · rintro ⟨hle, -, -, hfirst, -⟩
        rcases Nat.lt_or_eq_of_le hle with hlt | rfl
        · have hnot := hfirst i (Nat.le_refl i) hlt
          rw [hupgrade] at hnot
          cases hnot
        · rfl
    · rw [if_neg hupgrade]
      have hfails : tools.upgrade i = false := Bool.eq_false_iff.mpr hupgrade
      by_cases hsleeps : tools.sleeps sleepSeconds = true
      · rw [if_pos hsleeps, ih]
        constructor
        · rintro ⟨hle, hlt, hn, hfirst, -⟩
          refine ⟨by omega, by omega, hn, fun j hj hjn => ?_, fun _ => hsleeps⟩
          rcases Nat.lt_or_eq_of_le hj with hj | rfl
          · exact hfirst j hj hjn
          · exact hfails
        · rintro ⟨hle, hlt, hn, hfirst, -⟩
          have hne : i ≠ n := fun heq => hupgrade (heq ▸ hn)
          exact ⟨by omega, by omega, hn, fun j hj => hfirst j (by omega), fun _ => hsleeps⟩
      · rw [if_neg hsleeps]
        constructor
        · intro h
          cases h
        · rintro ⟨hle, -, hn, -, hslept⟩
          have hne : i ≠ n := fun heq => hupgrade (heq ▸ hn)
          exact absurd (hslept (by omega)) hsleeps

end Billing

/-
  The readiness of the service: `infrastructure/database/readiness.py`,
  `build_database_readiness_probe` of `infrastructure/runtime.py` and `GET /health/ready`.

  What the driver does is given: whether `create_engine` takes a URL, and what a connection of the engine
  answers to `SELECT current_database()` and `SELECT current_user`.
-/
import Billing.Infrastructure.Settings
import Billing.Infrastructure.DatabaseUrl
import Billing.Presentation.Http

namespace Billing

open Py

/-- `DatabaseReadinessProbe`. -/
structure DatabaseReadinessProbe where
  /-- The URL of `_engine`. -/
  engineUrl : String
  /-- `_expected_database`. -/
  expectedDatabase : String
  /-- `_expected_username`. -/
  expectedUsername : String
  deriving DecidableEq, Repr

/-- What a connection answers. -/
structure Connection where
  /-- `current_database`. -/
  currentDatabase : String
  /-- `current_user`. -/
  currentUser : String
  deriving DecidableEq, Repr

/-- `DatabaseReadinessProbe.check`, on a connection or on what connecting raised.  An exception is its
    text, since nobody looks at more. -/
def DatabaseReadinessProbe.check (self : DatabaseReadinessProbe) :
    Except String Connection → Except String (Dict Json)
  | .error text => .error text
  | .ok connection =>
    if connection.currentDatabase ≠ self.expectedDatabase then
      .error ("Database readiness failed because the connected database does not match the service " ++
        "boundary: expected '" ++ self.expectedDatabase ++ "', got '" ++ connection.currentDatabase ++
        "'.")
    else if connection.currentUser ≠ self.expectedUsername then
      .error ("Database readiness failed because the connected database user does not match the " ++
        "service boundary: expected '" ++ self.expectedUsername ++ "', got '" ++
        connection.currentUser ++ "'.")
    else .ok [("application", .str "ok"), ("database", .str "ok")]

/-- `DatabaseReadinessProbe.__init__`. -/
def DatabaseReadinessProbe.build (createEngine : String → Except Exc Unit) (databaseUrl : String)
    (expectedDatabase expectedUsername : String) : Except Exc DatabaseReadinessProbe := do
  createEngine (normalizePostgresqlUrlForAlembic databaseUrl)
  return ⟨normalizePostgresqlUrlForAlembic databaseUrl, expectedDatabase, expectedUsername⟩

/-- `build_database_readiness_probe`. -/
def buildDatabaseReadinessProbe [UrlRules] (createEngine : String → Except Exc Unit) (settings : Settings) :
    Except Exc (Option DatabaseReadinessProbe) :=
  match settings.appRuntimeMode with
  | .memory => .ok none
  | .real => do
    let _ ← validateRuntimeDatabaseUrl settings.databaseUrl (some settings.expectedDatabaseName)
      (some settings.expectedDatabaseUsername)
    let probe ← DatabaseReadinessProbe.build createEngine settings.databaseUrl
      settings.expectedDatabaseName settings.expectedDatabaseUsername
    return some probe

/-- `readiness_check`. -/
def readinessCheck (appName : String) (probe : Option DatabaseReadinessProbe)
    (connection : Except String Connection) : HttpResponse :=
  let ready (checks : Dict Json) : HttpResponse :=
    ⟨200, [("status", .str "ok"), ("service", .str appName), ("checks", .dict checks)], []⟩
  match probe with
  | none => ready [("application", .str "ok")]
  | some probe =>
    match probe.check connection with
    | .ok checks => ready checks
    | .error detail => ⟨503, [("status", .str "degraded"), ("service", .str appName),
        ("checks", .dict [("application", .str "ok"), ("database", .str "error")]),
        ("detail", .str detail)], []⟩

/-- **What a probe looks at.** -/
theorem DatabaseReadinessProbe.check_isOk {self : DatabaseReadinessProbe}
    {connection : Except String Connection} : (∃ checks, self.check connection = .ok checks) ↔
      connection = .ok ⟨self.expectedDatabase, self.expectedUsername⟩ := by
  cases connection with
  | error text => exact ⟨fun ⟨_, h⟩ => (by cases h), fun h => (by cases h)⟩
  | ok connection =>
    obtain ⟨database, user⟩ := connection
    by_cases hdatabase : database = self.expectedDatabase
    · by_cases huser : user = self.expectedUsername
      · subst hdatabase huser
        have hsame : self.check (.ok ⟨self.expectedDatabase, self.expectedUsername⟩) =
            .ok [("application", .str "ok"), ("database", .str "ok")] :=
          (if_neg (not_not.mpr rfl)).trans (if_neg (not_not.mpr rfl))
        exact ⟨fun _ => rfl, fun _ => ⟨_, hsame⟩⟩
      · have hother : ∃ text, self.check (.ok ⟨database, user⟩) = .error text :=
          ⟨_, (if_neg (not_not.mpr hdatabase)).trans (if_pos huser)⟩
        obtain ⟨text, hother⟩ := hother
        exact ⟨fun ⟨_, h⟩ => (by cases hother.symm.trans h),
          fun h => absurd (congrArg Connection.currentUser (Except.ok.inj h)) huser⟩
    · have hother : ∃ text, self.check (.ok ⟨database, user⟩) = .error text := ⟨_, if_pos hdatabase⟩
      obtain ⟨text, hother⟩ := hother
      exact ⟨fun ⟨_, h⟩ => (by cases hother.symm.trans h),
        fun h => absurd (congrArg Connection.currentDatabase (Except.ok.inj h)) hdatabase⟩

/-- **Ready** is who is connected to the right database as the right user. -/
theorem readinessCheck_ready {appName : String} {probe : DatabaseReadinessProbe}
    {connection : Except String Connection} :
    (readinessCheck appName (some probe) connection).statusCode = 200 ↔
      connection = .ok ⟨probe.expectedDatabase, probe.expectedUsername⟩ := by
  rw [← DatabaseReadinessProbe.check_isOk]
  unfold readinessCheck
  cases hcheck : probe.check connection with
  | error detail =>
    simp only [hcheck]
    exact ⟨fun h => absurd h (by decide), fun ⟨_, h⟩ => (by cases h)⟩
  | ok checks =>
    simp only [hcheck]
    exact ⟨fun _ => ⟨checks, rfl⟩, fun _ => trivial⟩

/-- A probe is built when the URL passes its check and the driver takes it. -/
theorem buildDatabaseReadinessProbe_real [UrlRules] {createEngine : String → Except Exc Unit}
    {settings : Settings} (hmode : settings.appRuntimeMode = .real) :
    buildDatabaseReadinessProbe createEngine settings =
      validateRuntimeDatabaseUrl settings.databaseUrl (some settings.expectedDatabaseName)
          (some settings.expectedDatabaseUsername) >>= fun _ =>
        createEngine (normalizePostgresqlUrlForAlembic settings.databaseUrl) >>= fun _ =>
          .ok (some ⟨normalizePostgresqlUrlForAlembic settings.databaseUrl, settings.expectedDatabaseName,
            settings.expectedDatabaseUsername⟩) := by
  unfold buildDatabaseReadinessProbe DatabaseReadinessProbe.build
  rw [hmode]
  cases createEngine (normalizePostgresqlUrlForAlembic settings.databaseUrl) with
  | ok u => rfl
  | error e => rfl

end Billing

/-
  The migrations (`alembic/env.py`): where they find the database URL, and what they hand to SQLAlchemy.

  The URL goes into the configuration of Alembic, a `ConfigParser`, and comes out of it again.
-/
import Billing.Deploy.PrepareEnv
import Billing.Infrastructure.Settings
import Billing.Lib.ConfigParser

namespace Billing

open Py

/-- `context.config`. -/
structure AlembicConfig where
  /-- The directory of `alembic.ini`, which is `/app/alembic` in the image. -/
  here : String
  /-- It needs no escape. -/
  here_plain : '%' ∉ here.toList

/-- The section `[alembic]` of `alembic.ini`. -/
def alembicIni : Dict String := [("script_location", "alembic"), ("prepend_sys_path", ".")]

/-- The main section: what the file says, with `here` as a default. -/
def AlembicConfig.mainSection (config : AlembicConfig) : ConfigParser.Section :=
  ⟨("here", config.here) :: alembicIni⟩

variable [Python]

/-- `ValueError`, or an error of `configparser`. -/
def ofConfigError : ConfigParser.Error → Exc
  | .invalidValue value position =>
    .valueError ("invalid interpolation syntax in " ++ String.ofList (strReprChars value) ++
      " at position " ++ toString position)
  | .syntaxError _ => .infrastructure "InterpolationSyntaxError"
  | .missingOption _ => .infrastructure "InterpolationMissingOptionError"
  | .depthError => .infrastructure "InterpolationDepthError"

/-- `_get_sqlalchemy_url`. -/
def getSqlalchemyUrl (environ : Dict String) (getSettings : Except Exc Settings) :
    Except Exc String := do
  let fromEnviron := strippedValue environ "DATABASE_URL"
  let databaseUrl ←
    if fromEnviron = "" then getSettings.map fun settings => strip settings.databaseUrl
    else .ok fromEnviron
  if databaseUrl = "" then
    .error (.infrastructure "DATABASE_URL is required for Alembic migrations.")
  else .ok (normalizeSyncDatabaseUrl databaseUrl)

/-- `run_migrations_online`, where `engineFromConfig` stands for all that is done with the engine. -/
def runMigrationsOnline {α : Type} (config : AlembicConfig) (environ : Dict String)
    (getSettings : Except Exc Settings) (engineFromConfig : Dict String → Except Exc α) :
    Except Exc α := do
  let url ← getSqlalchemyUrl environ getSettings
  let changed ← (config.mainSection.set "sqlalchemy.url" url).mapError ofConfigError
  let options ← changed.items.mapError ofConfigError
  engineFromConfig options

end Billing

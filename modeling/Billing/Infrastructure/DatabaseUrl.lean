/-
  The database URL: how it is checked and what is made of it (`infrastructure/database/url_utils.py`,
  and `normalize_sync_database_url` of the repositories).

  Two functions turn the URL of the settings into one for the synchronous driver.  The repositories and
  the migrations use `normalizeSyncDatabaseUrl`, the readiness probe uses
  `normalizePostgresqlUrlForAlembic`.
-/
import Billing.Domain.Events
import Billing.Lib.Replace
import Billing.Lib.Url

namespace Billing

open Py

/-! ## Texts -/

/-- `text.startswith(start)`. -/
def startsWith (text start : String) : Bool := start.toList.isPrefixOf text.toList

/-- `text.replace(old, new)`. -/
def replaceText (text old new : String) : String :=
  String.ofList (replaceAll old.toList new.toList text.toList)

/-- `text.replace(old, new, 1)`. -/
def replaceTextOnce (text old new : String) : String :=
  String.ofList (replaceFirst old.toList new.toList text.toList)

/-! ## The URL for the driver -/

/-- `normalize_sync_database_url`. -/
def normalizeSyncDatabaseUrl (databaseUrl : String) : String :=
  let databaseUrl := replaceText databaseUrl "postgresql+asyncpg://" "postgresql+psycopg://"
  let databaseUrl := replaceText databaseUrl "sqlite+aiosqlite://" "sqlite+pysqlite://"
  replaceText databaseUrl "?ssl=require" "?sslmode=require"

/-- `normalize_postgresql_url_for_alembic`. -/
def normalizePostgresqlUrlForAlembic (databaseUrl : String) : String :=
  if startsWith databaseUrl "postgresql+asyncpg://" then
    replaceTextOnce databaseUrl "postgresql+asyncpg://" "postgresql+psycopg://"
  else if startsWith databaseUrl "postgresql://" then
    replaceTextOnce databaseUrl "postgresql://" "postgresql+psycopg://"
  else if startsWith databaseUrl "postgres://" then
    replaceTextOnce databaseUrl "postgres://" "postgresql+psycopg://"
  else databaseUrl

/-! ## The checks -/

/-- `PLACEHOLDER_DATABASE_HOSTS`. -/
def placeholderDatabaseHosts : List String :=
  ["seu_host_postgres", "your-rds-endpoint", "endpoint-rds", "db-host"]

/-- What `describe_database_target` and `validate_runtime_database_url` say about a URL. -/
structure DatabaseTarget where
  /-- `username`. -/
  username : String
  /-- `host`. -/
  host : String
  /-- `port`. -/
  port : Nat
  /-- `database`. -/
  database : String
  deriving DecidableEq, Repr

variable [UrlRules]

/-- What `urllib` raises is a `ValueError`. -/
def raising {α : Type} : Except String α → Except Exc α
  | .ok a => .ok a
  | .error text => .error (.valueError text)

/-- `value or default`, for a port. -/
def portOr (port : Option Nat) (default : Nat) : Nat :=
  match port with
  | none => default
  | some port => if port = 0 then default else port

/-- `describe_database_target`. -/
def describeDatabaseTarget (databaseUrl : String) : Except Exc DatabaseTarget := do
  let parsed ← raising (urlsplit databaseUrl)
  let port ← raising parsed.port
  let database := String.ofList (parsed.path.dropWhile fun c => c == '/')
  return {
    username := String.ofList (parsed.username.getD [])
    host := String.ofList (parsed.hostname.getD [])
    port := portOr port 5432
    database := if database = "" then "<unknown>" else database }

/-- `validate_runtime_database_url`. -/
def validateRuntimeDatabaseUrl (databaseUrl : String)
    (expectedDatabase expectedUsername : Option String) : Except Exc DatabaseTarget := do
  if strip databaseUrl = "" then
    throw (.valueError "DATABASE_URL environment variable is required.")
  let target ← describeDatabaseTarget databaseUrl
  if target.host = "" then throw (.valueError "DATABASE_URL must include a database host.")
  if target.username = "" then throw (.valueError "DATABASE_URL must include a database username.")
  if target.database ∈ ["", "<unknown>"] then
    throw (.valueError "DATABASE_URL must include a database name.")
  if lower (strip target.host) ∈ placeholderDatabaseHosts then
    throw (.valueError ("DATABASE_URL host still uses a placeholder value. " ++
      "Replace it with the real RDS endpoint."))
  let expected := expectedDatabase.getD ""
  if expected ≠ "" ∧ target.database ≠ expected then
    throw (.valueError ("DATABASE_URL points to the wrong database. Expected '" ++ expected ++
      "', got '" ++ target.database ++ "'."))
  let expected := expectedUsername.getD ""
  if expected ≠ "" ∧ target.username ≠ expected then
    throw (.valueError ("DATABASE_URL uses the wrong database user. Expected '" ++ expected ++
      "', got '" ++ target.username ++ "'."))
  return target

end Billing

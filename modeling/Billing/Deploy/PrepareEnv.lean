/-
  `scripts/deploy/prepare_env.py`: the values of an env file are checked and normalised, and the file is
  written again with what came of it, before it is deployed.

  `EnvValidationError` is a `ValueError`.  The functions that change the mapping return it; what
  `normalize_boolean` and its like return beside that is not used.
-/
import Billing.Deploy.EnvFile
import Billing.Lib.JsonText
import Billing.Lib.PyInt

namespace Billing

open Py

/-- `values.get(key, "").strip()`. -/
def strippedValue (values : Dict String) (key : String) : String :=
  strip ((values.get? key).getD "")

/-- `require_non_empty`. -/
def requireNonEmpty (values : Dict String) (key : String) : Except Exc String :=
  let value := strippedValue values key
  if value = "" then .error (.valueError (key ++ " is required.")) else .ok value

/-- `require_any`. -/
def requireAny (values : Dict String) (keys : List String) (label : String) : Except Exc Unit :=
  if keys.any fun key => decide (strippedValue values key ≠ "") then .ok ()
  else .error (.valueError (label ++ " is required (" ++ " or ".intercalate keys ++ ")."))

/-! ## Fields -/

/-- `normalize_boolean`. -/
def normalizeBoolean (values : Dict String) (key : String) : Except Exc (Dict String) := do
  let rawValue := lower (← requireNonEmpty values key)
  if rawValue ∈ ["true", "false"] then .ok (values.set key rawValue)
  else .error (.valueError (key ++ " must be true or false."))

/-- `normalize_positive_integer`. -/
def normalizePositiveInteger (values : Dict String) (key : String) : Except Exc (Dict String) :=
  let rawValue := strippedValue values key
  if rawValue = "" then .ok values
  else
    match intOf rawValue with
    | none => .error (.valueError (key ++ " must be an integer."))
    | some number =>
      if number ≤ 0 then .error (.valueError (key ++ " must be greater than zero."))
      else .ok (values.set key (intText number))

/-- `values[key] = default`, for a key that is there. -/
def setDefault (values : Dict String) (key default : String) : Dict String :=
  if (values.get? key).isSome then values.set key default else values

/-- `normalize_optional_boolean`. -/
def normalizeOptionalBoolean (values : Dict String) (key default : String) :
    Except Exc (Dict String) :=
  let rawValue := lower (strippedValue values key)
  if rawValue = "" then .ok (setDefault values key default)
  else if rawValue ∈ ["true", "false"] then .ok (values.set key rawValue)
  else .error (.valueError (key ++ " must be true or false."))

/-- `normalize_optional_positive_integer`. -/
def normalizeOptionalPositiveInteger (values : Dict String) (key default : String) :
    Except Exc (Dict String) :=
  if strippedValue values key = "" then .ok (setDefault values key default)
  else normalizePositiveInteger values key

/-- `validate_app_base_url`. -/
def validateAppBaseUrl [UrlRules] (values : Dict String) : Except Exc Unit := do
  let appBaseUrl ← requireNonEmpty values "APP_BASE_URL"
  let parsedUrl ← raising (urlsplit appBaseUrl)
  if parsedUrl.scheme = [] ∨ parsedUrl.netloc = [] then
    .error (.valueError "APP_BASE_URL must be a valid absolute URL.")
  else .ok ()

/-- `VALID_ENVIRONMENTS`. -/
def validEnvironments : List String := ["development", "test", "staging", "production"]

/-- `validate_environment`. -/
def validateEnvironment (values : Dict String) : Except Exc (Dict String) := do
  let environment := lower (← requireNonEmpty values "ENVIRONMENT")
  if environment ∈ validEnvironments then .ok (values.set "ENVIRONMENT" environment)
  else .error (.valueError
    "ENVIRONMENT must be one of: development, test, staging, production.")

/-- `VALID_EMAIL_PROVIDERS`. -/
def validEmailProviders : List String := ["SMTP", "NOOP"]

/-- `normalize_email_provider`. -/
def normalizeEmailProvider [UpperCase] (values : Dict String) : Except Exc (Dict String) :=
  let provider := upper (strip ((values.get? "EMAIL_PROVIDER").getD "SMTP"))
  let provider := if provider = "" then "SMTP" else provider
  if provider ∈ validEmailProviders then .ok (values.set "EMAIL_PROVIDER" provider)
  else .error (.valueError "EMAIL_PROVIDER must be SMTP or NOOP.")

/-- `REQUIRED_TEXT_FIELDS`. -/
def requiredTextFields : List String :=
  ["APP_NAME", "APP_VERSION", "ENVIRONMENT", "LOG_LEVEL", "LOG_JSON", "DATABASE_URL", "APP_BASE_URL",
    "CORS_ALLOWED_ORIGINS", "TRUSTED_HOSTS", "JWT_ALGORITHM"]

/-- `validate_required_text_fields`. -/
def validateRequiredTextFields (values : Dict String) : Except Exc Unit :=
  requiredTextFields.forM fun key => do let _ ← requireNonEmpty values key

/-- `validate_secret_contract`. -/
def validateSecretContract (values : Dict String) : Except Exc Unit := do
  requireAny values ["APPROVAL_TOKEN_SECRET", "APPROVAL_TOKEN_SECRET_FILE"] "Approval token secret"
  requireAny values ["JWT_SECRET", "JWT_SECRET_FILE"] "JWT secret"
  requireAny values ["CUSTOMER_JWT_SECRET", "CUSTOMER_JWT_SECRET_FILE"] "Customer JWT secret"

/-- `validate_database_url`. -/
def validateDatabaseUrl [UrlRules] (values : Dict String) : Except Exc Unit := do
  let databaseUrl ← requireNonEmpty values "DATABASE_URL"
  if ¬ (startsWith databaseUrl "postgresql://" ∨ startsWith databaseUrl "postgresql+asyncpg://") then
    throw (.valueError "DATABASE_URL must start with postgresql:// or postgresql+asyncpg://.")
  let _ ← validateRuntimeDatabaseUrl databaseUrl
    (some ((values.get? "EXPECTED_DATABASE_NAME").getD "billing_service_db"))
    (some ((values.get? "EXPECTED_DATABASE_USERNAME").getD "billing_service_user"))
  return ()

/-- `normalize_list_field`. -/
def normalizeListField [Python] (values : Dict String) (key : String) : Except Exc (Dict String) := do
  let rawValue ← requireNonEmpty values key
  let items ←
    if rawValue.toList.head? = some '[' then
      match Json.loads rawValue with
      | none => throw (.valueError (key ++ " must be a valid JSON array."))
      | some (.list parsedValue) => pure (stripAll (parsedValue.map Json.text))
      | some _ => throw (.valueError (key ++ " must be a JSON array."))
    else pure (stripAll (splitOnChar ',' rawValue))
  if items = [] then .error (.valueError (key ++ " must contain at least one value."))
  else .ok (values.set key (Json.dumps (.list (items.map .str))))

/-! ## The whole file -/

/-- `REQUIRED_BOOLEAN_FIELDS`. -/
def requiredBooleanFields : List String := ["LOG_JSON"]

/-- `OPTIONAL_BOOLEAN_DEFAULTS`. -/
def optionalBooleanDefaults : List (String × String) :=
  [("SMTP_USE_TLS", "false"), ("SMTP_USE_AUTH", "false")]

/-- `REQUIRED_POSITIVE_INTEGER_FIELDS`. -/
def requiredPositiveIntegerFields : List String :=
  ["HEALTHCHECK_TIMEOUT_SECONDS", "APPROVAL_TOKEN_TTL_MINUTES", "JWT_EXPIRATION_MINUTES"]

/-- `OPTIONAL_POSITIVE_INTEGER_DEFAULTS`. -/
def optionalPositiveIntegerDefaults : List (String × String) :=
  [("SMTP_PORT", "587"), ("SMTP_TIMEOUT_SECONDS", "10")]

/-- `values["LOG_LEVEL"] = values["LOG_LEVEL"].upper()`. -/
def upperLogLevel [UpperCase] (values : Dict String) : Except Exc (Dict String) :=
  match values.get? "LOG_LEVEL" with
  | none => .error (.keyError "LOG_LEVEL")
  | some value => .ok (values.set "LOG_LEVEL" (upper value))

/-- `prepare_env` between reading the file and writing it. -/
def validateValues [Python] [UrlRules] [UpperCase] (values : Dict String) :
    Except Exc (Dict String) := do
  validateRequiredTextFields values
  let values ← validateEnvironment values
  let values ← normalizeEmailProvider values
  let values ← requiredBooleanFields.foldlM normalizeBoolean values
  let values ← optionalBooleanDefaults.foldlM
    (fun values (key, default) => normalizeOptionalBoolean values key default) values
  let values ← requiredPositiveIntegerFields.foldlM normalizePositiveInteger values
  let values ← optionalPositiveIntegerDefaults.foldlM
    (fun values (key, default) => normalizeOptionalPositiveInteger values key default) values
  validateDatabaseUrl values
  validateAppBaseUrl values
  let values ← normalizeListField values "CORS_ALLOWED_ORIGINS"
  let values ← normalizeListField values "TRUSTED_HOSTS"
  validateSecretContract values
  upperLogLevel values

/-- **`prepare_env`**: the text that the file has afterwards. -/
def prepareEnv [Python] [UrlRules] [UpperCase] (envPath : String) (file : Option String) :
    Except Exc String := do
  let (entries, values) ← loadEnvFile envPath file
  let values ← validateValues values
  return rewriteEnvFile entries values

/-! ## What passed the checks -/

theorem requireAny_eq_ok {values : Dict String} {keys : List String} {label : String} :
    requireAny values keys label = .ok () ↔ ∃ key ∈ keys, strippedValue values key ≠ "" := by
  unfold requireAny
  by_cases h : keys.any fun key => decide (strippedValue values key ≠ "")
  · rw [if_pos h]
    obtain ⟨key, hkey, hvalue⟩ := List.any_eq_true.mp h
    exact ⟨fun _ => ⟨key, hkey, of_decide_eq_true hvalue⟩, fun _ => rfl⟩
  · rw [if_neg h]
    refine ⟨fun h' => (by cases h'), ?_⟩
    rintro ⟨key, hkey, hvalue⟩
    have hdecided : decide (strippedValue values key ≠ "") = true := decide_eq_true hvalue
    have hany : (keys.any fun key => decide (strippedValue values key ≠ "")) = true :=
      List.any_eq_true.mpr ⟨key, hkey, hdecided⟩
    exact absurd hany h

/-- **The contract**: each of the three secrets is given, or a file for it is. -/
theorem validateSecretContract_eq_ok {values : Dict String} :
    validateSecretContract values = .ok () ↔
      ∀ key ∈ ["APPROVAL_TOKEN_SECRET", "JWT_SECRET", "CUSTOMER_JWT_SECRET"],
        strippedValue values key ≠ "" ∨ strippedValue values (key ++ "_FILE") ≠ "" := by
  have hany : ∀ key file label, requireAny values [key, file] label = .ok () ↔
      strippedValue values key ≠ "" ∨ strippedValue values file ≠ "" := by
    intro key file label
    rw [requireAny_eq_ok]
    simp
  have hthen : ∀ x y : Except Exc Unit, (x >>= fun _ => y) = .ok () ↔ x = .ok () ∧ y = .ok () := by
    intro x y
    cases x with
    | error e => exact ⟨fun h => (by cases h), fun h => (by cases h.1)⟩
    | ok u => exact ⟨fun h => ⟨rfl, h⟩, fun h => h.2⟩
  unfold validateSecretContract
  rw [hthen, hthen, hany, hany, hany]
  simp only [List.forall_mem_cons, List.not_mem_nil, false_implies, implies_true, and_true]
  exact Iff.rfl

/-- An accepted database URL is one of PostgreSQL. -/
theorem validateDatabaseUrl_scheme [UrlRules] {values : Dict String}
    (h : validateDatabaseUrl values = .ok ()) :
    startsWith (strippedValue values "DATABASE_URL") "postgresql://" = true ∨
      startsWith (strippedValue values "DATABASE_URL") "postgresql+asyncpg://" = true := by
  unfold validateDatabaseUrl requireNonEmpty at h
  by_cases hblank : strippedValue values "DATABASE_URL" = ""
  · simp only [if_pos hblank] at h
    cases h
  · simp only [if_neg hblank, ok_bind] at h
    by_cases hscheme : startsWith (strippedValue values "DATABASE_URL") "postgresql://" = true ∨
        startsWith (strippedValue values "DATABASE_URL") "postgresql+asyncpg://" = true
    · exact hscheme
    · simp only [if_pos hscheme] at h
      cases h

end Billing

/-
  What does a container run with, when its env file was prepared and rendered?

  An env file goes through `prepare_env`, which rewrites it, and `render_k8s_manifests`, which splits it
  over a ConfigMap and a Secret; the container gets both as its environment, runs `entrypoint.sh` on it
  and builds the settings from it.  Three readers of the same names, with defaults of their own.

  The keys that the API verifies tokens with are those of the file, and never the default of the class:
  the renderer asks for what the contract of `prepare_env` leaves open.  The one gap is a name that the
  file gives a blank value: `prepare_env` then checks nothing, the renderer drops the name, and the
  container checks the URL against its own default (`BlankNamesFit`).
-/
import Billing.Infrastructure.Readiness
import Billing.Deploy.Entrypoint
import Billing.Proofs.Manifests
import Billing.Proofs.Secrets

namespace Billing

open Py Py.Passes Py.Passes.Field

/-! ## What validation leaves -/

section Validated

variable [Python] [UrlRules] [UpperCase] {values values' : Dict String}

/-- What no pass writes is as it was. -/
theorem get?_validated (h : validateValues values = .ok values') {key : String}
    (hkey : ∀ keys ∈ envKeys, key ∉ keys.2) (hne : key ≠ "LOG_LEVEL") :
    values'.get? key = values.get? key := by
  rw [validateValues_eq, bind_eq_ok] at h
  obtain ⟨found, hrun, hlog⟩ := h
  obtain ⟨level, -, rfl⟩ := upperLogLevel_eq_ok.mp hlog
  have hwrites : ∀ field ∈ envFields, key ∉ field.writes := by
    intro field hmem
    have hkeys : (field.needs, field.writes) ∈ envKeys := envFields_keys ▸ List.mem_map_of_mem hmem
    exact hkey _ hkeys
  rw [Dict.get?_set, if_neg (Ne.symm hne), get?_runAll hwrites hrun]

/-- What one pass writes, it makes of what there was. -/
theorem validated_at (h : validateValues values = .ok values') {n : Nat}
    {field : Field String Exc NormalValue} {key : String} (hfield : envFields[n]? = some field)
    (hkey : ∀ keys ∈ envKeys.eraseIdx n, key ∉ keys.2) (hne : key ≠ "LOG_LEVEL") :
    ∃ d d', field.run d = .ok d' ∧ d.get? key = values.get? key ∧ values'.get? key = d'.get? key := by
  rw [validateValues_eq, bind_eq_ok] at h
  obtain ⟨found, hrun, hlog⟩ := h
  obtain ⟨level, -, rfl⟩ := upperLogLevel_eq_ok.mp hlog
  have hothers : ∀ other ∈ envFields.eraseIdx n, key ∉ other.writes := by
    intro other hmem
    have hkeys : (other.needs, other.writes) ∈ envKeys.eraseIdx n := by
      rw [← envFields_keys, List.eraseIdx_map]
      exact List.mem_map_of_mem hmem
    exact hkey _ hkeys
  obtain ⟨d, d', hd, hget, hstays⟩ := exists_run_at hfield hothers hrun
  refine ⟨d, d', hd, hget, ?_⟩
  rw [Dict.get?_set, if_neg (Ne.symm hne), hstays]

/-- The environment is written in lower case. -/
theorem validated_environment (h : validateValues values = .ok values') :
    values'.get? "ENVIRONMENT" = some (lower (strippedValue values "ENVIRONMENT")) ∧
      lower (strippedValue values "ENVIRONMENT") ∈ validEnvironments := by
  have hfield : envFields[1]? = some environmentField := rfl
  have hkey : ∀ keys ∈ envKeys.eraseIdx 1, "ENVIRONMENT" ∉ keys.2 := by decide +kernel
  obtain ⟨d, d', hrun, hget, hstays⟩ := validated_at h hfield hkey (by decide)
  have hrun : validateEnvironment d = .ok d' := hrun
  rw [← strippedValue_congr hget, hstays]
  unfold validateEnvironment requireNonEmpty at hrun
  by_cases hblank : strippedValue d "ENVIRONMENT" = ""
  · simp only [if_pos hblank] at hrun
    cases hrun
  · simp only [if_neg hblank, ok_bind] at hrun
    split at hrun
    · rename_i hmem
      obtain rfl := Except.ok.inj hrun
      rw [Dict.get?_set, if_pos rfl]
      exact ⟨rfl, hmem⟩
    · cases hrun

/-- A list is written as JSON, and read as it was. -/
theorem validated_list (h : validateValues values = .ok values') {n : Nat} {key : String}
    (hfield : envFields[n]? = some (listField key)) (hkey : ∀ keys ∈ envKeys.eraseIdx n, key ∉ keys.2)
    (hne : key ≠ "LOG_LEVEL") :
    ∃ items, parseCsvOrJsonList (.inl (strippedValue values key)) = .ok items ∧ items ≠ [] ∧
      values'.get? key = some (listText items) ∧ parseCsvOrJsonList (.inl (listText items)) = .ok items := by
  obtain ⟨d, d', hrun, hget, hstays⟩ := validated_at h hfield hkey hne
  obtain ⟨items, hitems, hnonempty, rfl⟩ := normalizeListField_eq_ok.mp hrun
  rw [strippedValue_congr hget] at hitems
  refine ⟨items, hitems, hnonempty, ?_, ?_⟩
  · rw [hstays, Dict.get?_set, if_pos rfl]
  · rw [parseCsvOrJsonList_listText, parseCsvOrJsonList_stripped hitems]

/-- A name that the URL was checked against, if it is not blank. -/
def expectedName (values : Dict String) (key default : String) : String := (values.get? key).getD default

/-- The URL passed its check against the names that the values give. -/
theorem validated_target (h : Prepared values values') : ∃ target,
    Usable (strippedValue values' "DATABASE_URL") target ∧
      (expectedName values' "EXPECTED_DATABASE_NAME" "billing_service_db" ≠ "" →
        target.database = expectedName values' "EXPECTED_DATABASE_NAME" "billing_service_db") ∧
      (expectedName values' "EXPECTED_DATABASE_USERNAME" "billing_service_user" ≠ "" →
        target.username = expectedName values' "EXPECTED_DATABASE_USERNAME" "billing_service_user") := by
  have hfixed : checkPass validateDatabaseUrl values' = .ok values' :=
    h.fixed databaseField (by simp [envFields, fieldsAfter])
  have hcheck : validateDatabaseUrl values' = .ok () := (checkPass_eq_ok.mp hfixed).1
  unfold validateDatabaseUrl requireNonEmpty at hcheck
  by_cases hblank : strippedValue values' "DATABASE_URL" = ""
  · simp only [if_pos hblank] at hcheck
    cases hcheck
  · simp only [if_neg hblank, ok_bind] at hcheck
    split at hcheck
    · cases hcheck
    · obtain ⟨target, htarget, -⟩ := bind_eq_ok.mp hcheck
      exact ⟨target, validateRuntimeDatabaseUrl_eq_ok.mp htarget⟩

end Validated

/-! ## What the settings have -/

section Settings

variable {host : Host} {values : Dict String} {s : Settings}

theorem Environment.text_of_ofText {value : String} {environment : Environment}
    (h : Environment.ofText value = .ok environment) : environment.text = value := by
  unfold ofText at h
  split at h
  · rename_i hvalue
    obtain rfl := Except.ok.inj h
    exact hvalue.symm
  split at h
  · rename_i hvalue
    obtain rfl := Except.ok.inj h
    exact hvalue.symm
  split at h
  · rename_i hvalue
    obtain rfl := Except.ok.inj h
    exact hvalue.symm
  split at h
  · rename_i hvalue
    obtain rfl := Except.ok.inj h
    exact hvalue.symm
  · cases h

/-- The fields that `model_post_init` leaves alone. -/
theorem Settings.load_fields (h : Settings.load host values = .ok s) :
    s.environment.text = (values.get? "ENVIRONMENT").getD "development" ∧
      s.databaseUrl = (values.get? "DATABASE_URL").getD defaultDatabaseUrl ∧
      s.expectedDatabaseName = expectedName values "EXPECTED_DATABASE_NAME" "billing_service_db" ∧
      s.expectedDatabaseUsername =
        expectedName values "EXPECTED_DATABASE_USERNAME" "billing_service_user" := by
  obtain ⟨-, self, hself, hinit⟩ := load_eq_ok.mp h
  obtain ⟨jwtSecret, customerJwtSecret, token, -, -, -, -, rfl⟩ := modelPostInit_eq_ok.mp hinit
  unfold ofValues at hself
  obtain ⟨environment, henvironment, hself⟩ := bind_eq_ok.mp hself
  obtain ⟨runtime, -, hself⟩ := bind_eq_ok.mp hself
  obtain ⟨mode, -, hself⟩ := bind_eq_ok.mp hself
  obtain rfl := Except.ok.inj hself
  exact ⟨Environment.text_of_ofText henvironment, rfl, rfl, rfl⟩

/-- A secret with a value of its own is that value. -/
theorem resolveSecret_value {rawValue fieldName secret : String} {filePath : Option String}
    (hstripped : strip rawValue = rawValue) (hne : rawValue ≠ "")
    (h : resolveSecret host rawValue filePath fieldName = .ok secret) : secret = rawValue := by
  unfold resolveSecret at h
  rw [hstripped, if_pos hne] at h
  exact (Except.ok.inj h).symm

end Settings

/-! ## The environment of a container -/

section Deployed

variable [Python] [UrlRules] [UpperCase] {sourceDir files files' : Dict String}
  {envPath text out ns image : String}

/-- The environment that a container gets of the manifests in a directory. -/
def deployedEnvironment (files : Dict String) : Option (Dict String) := do
  let config ← sectionOf "data" (← files.get? "configmap.rendered.yaml")
  let secret ← sectionOf "stringData" (← files.get? "secret.rendered.yaml")
  return containerEnvironment config secret

/-- **The one gap**: where the file gives a name a blank value, the URL must name the default. -/
structure BlankNamesFit (given : Dict String) (target : DatabaseTarget) : Prop where
  database : given.get? "EXPECTED_DATABASE_NAME" = some "" → target.database = "billing_service_db"
  username : given.get? "EXPECTED_DATABASE_USERNAME" = some "" → target.username = "billing_service_user"

omit [UrlRules] [UpperCase] in
theorem deployedEnvironment_eq {configFile secretFile : String} {config secret : Dict String}
    (hconfigFile : files.get? "configmap.rendered.yaml" = some configFile)
    (hsecretFile : files.get? "secret.rendered.yaml" = some secretFile)
    (hconfig : sectionOf "data" configFile = some config)
    (hsecret : sectionOf "stringData" secretFile = some secret) :
    deployedEnvironment files = some (containerEnvironment config secret) := by
  unfold deployedEnvironment
  rw [hconfigFile, hsecretFile]
  simp only [Option.bind_eq_bind, Option.bind_some, hconfig, hsecret]
  rfl

omit [UrlRules] in
/-- **What a container gets** is what the deployment of the file gives each name. -/
theorem deployedEnvironment_rendered (hns : OneLine ns.toList)
    (hkeys : ∀ key ∈ (pairsOf out).map Prod.fst, ':' ∉ key.toList)
    (h : (renderManifests sourceDir (some out) ns image).runOn files = (.ok (), files')) :
    ∃ env, deployedEnvironment files' = some env ∧ (∀ key, env.get? key = deployedValue out key) ∧
      ∀ key ∈ requiredSecretKeys, (deployedValue out key).isSome = true := by
  obtain ⟨ref, text, mid, -, htext, hmissing, -, rfl⟩ := renderManifests_eq_ok.mp h
  cases htext
  obtain ⟨hconfig, hsecret⟩ := sectionOf_rendered hns hkeys
  have hconfigFile : ∀ a b : String, ((mid.set "configmap.rendered.yaml" a).set "secret.rendered.yaml" b).get?
      "configmap.rendered.yaml" = some a := by
    intro a b
    rw [Dict.get?_set, if_neg (by decide), Dict.get?_set, if_pos rfl]
  have hsecretFile : ∀ a b : String, ((mid.set "configmap.rendered.yaml" a).set "secret.rendered.yaml" b).get?
      "secret.rendered.yaml" = some b := by
    intro a b
    rw [Dict.get?_set, if_pos rfl]
  refine ⟨_, ?_, get?_containerEnvironment out, isSome_required hmissing⟩
  exact deployedEnvironment_eq (hconfigFile _ _) (hsecretFile _ _) hconfig hsecret

omit [Python] [UrlRules] [UpperCase] in
/-- **A blank name**: `prepare_env` took it for no name, and the container takes its default for it. -/
theorem expectedName_fits {given env : Dict String} {key default found : String} (hdefault : default ≠ "")
    (henv : env.get? key = (given.get? key).filter fun value => decide (value ≠ ""))
    (hprepared : expectedName given key default ≠ "" → found = expectedName given key default) :
    expectedName env key default ≠ "" ∧
      (found = expectedName env key default ↔ (given.get? key = some "" → found = default)) := by
  unfold expectedName at *
  rw [henv]
  cases hget : given.get? key with
  | none =>
    rw [hget] at hprepared
    exact ⟨hdefault, fun _ h => (by cases h), fun _ => hprepared hdefault⟩
  | some value =>
    rw [hget] at hprepared
    by_cases hblank : value = ""
    · subst hblank
      exact ⟨hdefault, fun h _ => h, fun h => h rfl⟩
    · rw [Option.filter_some, if_pos (decide_eq_true hblank)]
      exact ⟨hblank, fun _ h => absurd (Option.some.inj h) hblank, fun _ => hprepared hblank⟩

/-- **What an environment has of an env file.** -/
structure DeployedAs (given env : Dict String) (target : DatabaseTarget) : Prop where
  /-- The URL, which names the target. -/
  url : env.get? "DATABASE_URL" = some (strippedValue given "DATABASE_URL")
  usable : Usable (strippedValue given "DATABASE_URL") target
  /-- The names, stripped, and never blank. -/
  database : strip (expectedName env "EXPECTED_DATABASE_NAME" "billing_service_db") =
      expectedName env "EXPECTED_DATABASE_NAME" "billing_service_db" ∧
    expectedName env "EXPECTED_DATABASE_NAME" "billing_service_db" ≠ ""
  username : strip (expectedName env "EXPECTED_DATABASE_USERNAME" "billing_service_user") =
      expectedName env "EXPECTED_DATABASE_USERNAME" "billing_service_user" ∧
    expectedName env "EXPECTED_DATABASE_USERNAME" "billing_service_user" ≠ ""
  /-- They are the target's, but for the gap. -/
  names : target.database = expectedName env "EXPECTED_DATABASE_NAME" "billing_service_db" ∧
    target.username = expectedName env "EXPECTED_DATABASE_USERNAME" "billing_service_user" ↔
      BlankNamesFit given target
  /-- The secrets of the tokens. -/
  secret : ∀ key ∈ ["JWT_SECRET", "CUSTOMER_JWT_SECRET"], ∃ value, env.get? key = some value ∧
    given.get? key = some value ∧ strip value = value ∧ value ≠ ""
  environment : env.get? "ENVIRONMENT" = some (lower (strippedValue given "ENVIRONMENT"))
  list : ∀ key ∈ ["CORS_ALLOWED_ORIGINS", "TRUSTED_HOSTS"], ∃ items value,
    parseCsvOrJsonList (.inl (strippedValue given key)) = .ok items ∧ items ≠ [] ∧
      env.get? key = some value ∧ parseCsvOrJsonList (.inl value) = .ok items
  migrate : env.get? "MIGRATE_ON_STARTUP" = some "false"

/-- **From the file to the environment.** -/
theorem deployedAs (hprepare : prepareEnv envPath (some text) = .ok out) (hns : OneLine ns.toList)
    (hkeys : ∀ key ∈ (pairsOf text).map Prod.fst, ':' ∉ key.toList)
    (hrender : (renderManifests sourceDir (some out) ns image).runOn files = (.ok (), files')) :
    ∃ env target, deployedEnvironment files' = some env ∧ DeployedAs (parseEnvFile text) env target := by
  obtain ⟨values', hprepared, hvalidate, hget, hsame⟩ := parseEnvFile_prepared hprepare
  obtain ⟨env, henv, hdeployed, hrequired⟩ :=
    deployedEnvironment_rendered hns (hsame ▸ hkeys) hrender
  obtain ⟨target, husable, hdatabase, husername⟩ := validated_target hprepared
  have hvalue : ∀ key ∉ ["EMAIL_PROVIDER", "MIGRATE_ON_STARTUP"],
      env.get? key = (values'.get? key).filter fun value => decide (value ≠ "") := by
    intro key hkey
    rw [hdeployed, deployedValue_eq hkey (hget key fun heq => hkey (heq ▸ List.mem_cons_self))]
  have hgiven : ∀ key ∈ ["DATABASE_URL", "EXPECTED_DATABASE_NAME", "EXPECTED_DATABASE_USERNAME",
      "JWT_SECRET", "CUSTOMER_JWT_SECRET"], values'.get? key = (parseEnvFile text).get? key := by
    have hkept : ∀ key ∈ ["DATABASE_URL", "EXPECTED_DATABASE_NAME", "EXPECTED_DATABASE_USERNAME",
        "JWT_SECRET", "CUSTOMER_JWT_SECRET"], (∀ keys ∈ envKeys, key ∉ keys.2) ∧ key ≠ "LOG_LEVEL" := by
      decide +kernel
    exact fun key hkey => get?_validated hvalidate (hkept key hkey).1 (hkept key hkey).2
  have hstripped : ∀ key value, values'.get? key = some value → strip value = value :=
    fun key value h => (hprepared.readable _ (Dict.mem_of_get? h)).stripped
  have hnonblank : ∀ key ∉ ["EMAIL_PROVIDER", "MIGRATE_ON_STARTUP"], strippedValue values' key ≠ "" →
      env.get? key = some (strippedValue values' key) := by
    intro key hkey hne
    rw [hvalue key hkey]
    unfold strippedValue at *
    cases hfound : values'.get? key with
    | none => exact absurd (by rw [hfound]; rfl) hne
    | some value =>
      rw [hfound, Option.getD_some, hstripped key value hfound] at hne
      rw [Option.filter_some, if_pos (decide_eq_true hne), Option.getD_some, hstripped key value hfound]
  have hname : ∀ {key default}, key ∉ ["EMAIL_PROVIDER", "MIGRATE_ON_STARTUP"] → strip default = default →
      strip (expectedName env key default) = expectedName env key default := by
    intro key default hkey hdefault
    unfold expectedName
    rw [hvalue key hkey]
    cases hfound : (values'.get? key).filter fun value => decide (value ≠ "") with
    | none => exact hdefault
    | some value => exact hstripped key value (Option.eq_some_of_filter_eq_some hfound)
  obtain ⟨hdatabaseNe, hdatabaseFits⟩ :=
    expectedName_fits (by decide) (hvalue "EXPECTED_DATABASE_NAME" (by decide)) hdatabase
  obtain ⟨husernameNe, husernameFits⟩ :=
    expectedName_fits (by decide) (hvalue "EXPECTED_DATABASE_USERNAME" (by decide)) husername
  rw [hgiven _ (by decide)] at hdatabaseFits husernameFits
  have hurl : strippedValue values' "DATABASE_URL" = strippedValue (parseEnvFile text) "DATABASE_URL" :=
    strippedValue_congr (hgiven _ (by decide))
  rw [hurl] at husable
  obtain ⟨hlower, henvironment⟩ := validated_environment hvalidate
  refine ⟨env, target, henv, ?_, husable, ⟨hname (by decide) (by decide), hdatabaseNe⟩,
    ⟨hname (by decide) (by decide), husernameNe⟩, ?_, fun key hkey => ?_, ?_, ?_, ?_⟩
  · have hne : strippedValue values' "DATABASE_URL" ≠ "" := by
      intro hblank
      rw [← hurl, hblank] at husable
      exact husable.nonblank (by decide)
    rw [hnonblank _ (by decide) hne, hurl]
  · exact ⟨fun h => ⟨hdatabaseFits.mp h.1, husernameFits.mp h.2⟩,
      fun h => ⟨hdatabaseFits.mpr h.database, husernameFits.mpr h.username⟩⟩
  · have hkeys : ∀ key ∈ ["JWT_SECRET", "CUSTOMER_JWT_SECRET"], key ∈ requiredSecretKeys ∧
        key ∉ ["EMAIL_PROVIDER", "MIGRATE_ON_STARTUP"] ∧ key ∈ ["DATABASE_URL", "EXPECTED_DATABASE_NAME",
          "EXPECTED_DATABASE_USERNAME", "JWT_SECRET", "CUSTOMER_JWT_SECRET"] := by decide
    obtain ⟨hsecret, hother, hplain⟩ := hkeys key hkey
    obtain ⟨value, hfound⟩ := Option.isSome_iff_exists.mp (hrequired key hsecret)
    rw [← hdeployed, hvalue key hother] at hfound
    obtain ⟨hthere, hne⟩ := Option.filter_eq_some_iff.mp hfound
    refine ⟨value, ?_, ?_, hstripped key value hthere, of_decide_eq_true hne⟩
    · rw [hvalue key hother, hfound]
    · rw [← hgiven key hplain, hthere]
  · have hne : ∀ word ∈ validEnvironments, word ≠ "" := by decide
    rw [hvalue _ (by decide), hlower, Option.filter_some, if_pos (decide_eq_true (hne _ henvironment))]
  · intro key hkey
    have hlist : ∃ items, parseCsvOrJsonList (.inl (strippedValue (parseEnvFile text) key)) = .ok items ∧
        items ≠ [] ∧ values'.get? key = some (listText items) ∧
          parseCsvOrJsonList (.inl (listText items)) = .ok items := by
      rw [List.mem_cons, List.mem_singleton] at hkey
      rcases hkey with rfl | rfl
      · have hfield : envFields[13]? = some (listField "CORS_ALLOWED_ORIGINS") := rfl
        exact validated_list hvalidate hfield (by decide +kernel) (by decide)
      · have hfield : envFields[14]? = some (listField "TRUSTED_HOSTS") := rfl
        exact validated_list hvalidate hfield (by decide +kernel) (by decide)
    obtain ⟨items, hread, hne, hwritten, hback⟩ := hlist
    have hother : ∀ key ∈ ["CORS_ALLOWED_ORIGINS", "TRUSTED_HOSTS"],
        key ∉ ["EMAIL_PROVIDER", "MIGRATE_ON_STARTUP"] := by decide
    refine ⟨items, listText items, hread, hne, ?_, hback⟩
    rw [hvalue key (hother key hkey), hwritten, Option.filter_some,
      if_pos (decide_eq_true (listText_ne_empty items))]
  · rw [hdeployed]
    unfold deployedValue
    rfl

end Deployed

/-! ## What the container does with it -/

/-- The script, up to the migrations. -/
theorem entrypoint_eq_execs [UrlRules] {tools : Tools} {environ : Dict String} {n : Nat} :
    entrypoint tools environ = .execs n ↔ ∃ target, checkDatabaseTarget environ = .ok target ∧
      tools.lookup target.host target.port ≠ .raised ∧ migrateOnStartup tools environ = .execs n := by
  unfold entrypoint
  cases hcheck : checkDatabaseTarget environ with
  | error e => exact ⟨fun h => (by cases h), fun ⟨_, h, _⟩ => (by cases h)⟩
  | ok target =>
    have htarget : ∀ {found : DatabaseTarget}, Except.ok target = (Except.ok found : Except Exc _) →
        target = found := fun h => Except.ok.inj h
    cases hlookup : tools.lookup target.host target.port with
    | raised =>
      simp only [hlookup]
      refine ⟨fun h => (by cases h), fun ⟨found, h, hraised, _⟩ => ?_⟩
      exact absurd (htarget h ▸ hlookup) hraised
    | resolved =>
      simp only [hlookup]
      refine ⟨fun h => ⟨target, rfl, ?_, h⟩, fun ⟨_, _, _, h⟩ => h⟩
      rw [hlookup]
      decide
    | osError =>
      simp only [hlookup]
      refine ⟨fun h => ⟨target, rfl, ?_, h⟩, fun ⟨_, _, _, h⟩ => h⟩
      rw [hlookup]
      decide

section Container

variable [Python] [UrlRules] {given env : Dict String} {target : DatabaseTarget} {host : Host} {s : Settings}

/-- The check of the container passes, but for the gap. -/
theorem DeployedAs.check_eq_ok (h : DeployedAs given env target) {found : DatabaseTarget} :
    checkDatabaseTarget env = .ok found ↔ BlankNamesFit given target ∧ found = target := by
  have hcheck : checkDatabaseTarget env = validateRuntimeDatabaseUrl (strippedValue given "DATABASE_URL")
      (some (expectedName env "EXPECTED_DATABASE_NAME" "billing_service_db"))
      (some (expectedName env "EXPECTED_DATABASE_USERNAME" "billing_service_user")) := by
    unfold checkDatabaseTarget
    rw [h.url, Option.getD_some, show strip (strippedValue given "DATABASE_URL") = _ from strip_strip _]
    show validateRuntimeDatabaseUrl _ (some (strip (expectedName env _ _)))
      (some (strip (expectedName env _ _))) = _
    rw [h.database.1, h.username.1]
    rfl
  rw [hcheck, validateRuntimeDatabaseUrl_eq_ok, ← h.names]
  constructor
  · rintro ⟨husable, hdatabase, husername⟩
    obtain rfl : found = target := Except.ok.inj (husable.described.symm.trans h.usable.described)
    exact ⟨⟨hdatabase h.database.2, husername h.username.2⟩, rfl⟩
  · rintro ⟨⟨hdatabase, husername⟩, rfl⟩
    exact ⟨h.usable, fun _ => hdatabase, fun _ => husername⟩

/-- **The application is started**, without a migration, exactly where the names fit. -/
theorem DeployedAs.starts (h : DeployedAs given env target) (tools : Tools) (n : Nat) :
    entrypoint tools env = .execs n ↔
      n = 0 ∧ BlankNamesFit given target ∧ tools.lookup target.host target.port ≠ .raised := by
  have hmigrate : migrateOnStartup tools env = .execs 0 := by
    unfold migrateOnStartup orDefault
    rw [h.migrate]
    rfl
  rw [entrypoint_eq_execs]
  constructor
  · rintro ⟨found, hcheck, hlookup, hexecs⟩
    obtain ⟨hfit, rfl⟩ := h.check_eq_ok.mp hcheck
    rw [hmigrate] at hexecs
    exact ⟨(Startup.execs.inj hexecs).symm, hfit, hlookup⟩
  · rintro ⟨rfl, hfit, hlookup⟩
    exact ⟨target, h.check_eq_ok.mpr ⟨hfit, rfl⟩, hlookup, hmigrate⟩

/-- **The settings that a service runs with.** -/
structure Configured (given : Dict String) (s : Settings) : Prop where
  jwtSecret : given.get? "JWT_SECRET" = some s.jwtSecret ∧ s.jwtSecret ≠ ""
  customerJwtSecret : given.get? "CUSTOMER_JWT_SECRET" = some s.customerJwtSecret ∧ s.customerJwtSecret ≠ ""
  environment : s.environment.text = lower (strippedValue given "ENVIRONMENT")
  databaseUrl : s.databaseUrl = strippedValue given "DATABASE_URL"

theorem DeployedAs.configured (h : DeployedAs given env target) (hload : Settings.load host env = .ok s) :
    Configured given s := by
  obtain ⟨hjwt, hcustomer⟩ := Settings.load_secrets hload
  obtain ⟨henvironment, hurl, -, -⟩ := Settings.load_fields hload
  obtain ⟨jwtSecret, hjwtEnv, hjwtGiven, hjwtStripped, hjwtNe⟩ := h.secret "JWT_SECRET" (by decide)
  obtain ⟨customerJwtSecret, hcustomerEnv, hcustomerGiven, hcustomerStripped, hcustomerNe⟩ :=
    h.secret "CUSTOMER_JWT_SECRET" (by decide)
  rw [hjwtEnv, Option.getD_some] at hjwt
  rw [hcustomerEnv, Option.getD_some] at hcustomer
  have hjwtIs := resolveSecret_value hjwtStripped hjwtNe hjwt
  have hcustomerIs := resolveSecret_value hcustomerStripped hcustomerNe hcustomer
  refine ⟨⟨hjwtIs ▸ hjwtGiven, hjwtIs ▸ hjwtNe⟩, ⟨hcustomerIs ▸ hcustomerGiven, hcustomerIs ▸ hcustomerNe⟩,
    ?_, ?_⟩
  · rw [henvironment, h.environment, Option.getD_some]
  · rw [hurl, h.url, Option.getD_some]

/-- **The probe** of a service on the real store, which asks for the target of the URL. -/
theorem DeployedAs.probe (h : DeployedAs given env target) (hload : Settings.load host env = .ok s)
    (hmode : s.appRuntimeMode = .real) {createEngine : String → Except Exc Unit}
    {probe : DatabaseReadinessProbe} : buildDatabaseReadinessProbe createEngine s = .ok (some probe) ↔
      BlankNamesFit given target ∧
      createEngine (normalizePostgresqlUrlForAlembic s.databaseUrl) = .ok () ∧
      probe = ⟨normalizePostgresqlUrlForAlembic s.databaseUrl, target.database, target.username⟩ := by
  obtain ⟨-, hurl, hdatabase, husername⟩ := Settings.load_fields hload
  have hgiven : s.databaseUrl = strippedValue given "DATABASE_URL" := by
    rw [hurl, h.url, Option.getD_some]
  rw [buildDatabaseReadinessProbe_real hmode, bind_eq_ok, ← h.names, ← hdatabase, ← husername]
  constructor
  · rintro ⟨found, hfound, hbuilt⟩
    obtain ⟨⟨⟩, hengine, hprobe⟩ := bind_eq_ok.mp hbuilt
    obtain ⟨husable, hdatabaseIs, husernameIs⟩ := validateRuntimeDatabaseUrl_eq_ok.mp hfound
    rw [hgiven] at husable
    obtain rfl : found = target := Except.ok.inj (husable.described.symm.trans h.usable.described)
    have hnames := And.intro (hdatabaseIs (hdatabase ▸ h.database.2)) (husernameIs (husername ▸ h.username.2))
    refine ⟨hnames, hengine, ?_⟩
    rw [hnames.1, hnames.2]
    exact (Option.some.inj (Except.ok.inj hprobe)).symm
  · rintro ⟨⟨hdatabaseIs, husernameIs⟩, hengine, rfl⟩
    refine ⟨target, validateRuntimeDatabaseUrl_eq_ok.mpr
      ⟨hgiven ▸ h.usable, fun _ => hdatabaseIs, fun _ => husernameIs⟩, ?_⟩
    rw [hengine, hdatabaseIs, husernameIs]
    rfl

end Container

/-- How the schema was migrated before the application, by `n` runs of `alembic`. -/
inductive MigratedBy (tools : Tools) (environ : Dict String) : Nat → Prop where
  /-- Migrations are off. -/
  | off (hoff : orDefault environ "MIGRATE_ON_STARTUP" "true" = "false") : MigratedBy tools environ 0
  /-- The limit is no number, so not even the first attempt is made. -/
  | unlimited (hon : orDefault environ "MIGRATE_ON_STARTUP" "true" ≠ "false")
      (hnumber : tools.number (orDefault environ "MIGRATE_MAX_ATTEMPTS" "30") = none) :
    MigratedBy tools environ 0
  /-- The last attempt is the first that succeeded, within the limit. -/
  | upgraded {n : Nat} {attempts : Int} (hon : orDefault environ "MIGRATE_ON_STARTUP" "true" ≠ "false")
      (hnumber : tools.number (orDefault environ "MIGRATE_MAX_ATTEMPTS" "30") = some attempts)
      (hfirst : 1 ≤ n) (hlimit : (n : Int) ≤ attempts) (hupgrade : tools.upgrade n = true)
      (hbefore : ∀ i, 1 ≤ i → i < n → tools.upgrade i = false)
      (hslept : 1 < n → tools.sleeps (orDefault environ "MIGRATE_RETRY_SLEEP_SECONDS" "2") = true) :
    MigratedBy tools environ n

theorem migrateOnStartup_eq_execs {tools : Tools} {environ : Dict String} {n : Nat} :
    migrateOnStartup tools environ = .execs n ↔ MigratedBy tools environ n := by
  unfold migrateOnStartup
  by_cases hoff : orDefault environ "MIGRATE_ON_STARTUP" "true" = "false"
  · rw [if_neg (not_not.mpr hoff)]
    constructor
    · intro h
      obtain rfl := Startup.execs.inj h
      exact .off hoff
    · intro h
      cases h with
      | off => rfl
      | unlimited hon => exact absurd hoff hon
      | upgraded hon => exact absurd hoff hon
  · rw [if_pos hoff]
    cases hnumber : tools.number (orDefault environ "MIGRATE_MAX_ATTEMPTS" "30") with
    | none =>
      constructor
      · intro h
        obtain rfl := Startup.execs.inj h
        exact .unlimited hoff hnumber
      · intro h
        cases h with
        | off => rfl
        | unlimited => rfl
        | upgraded _ hnumber' => cases hnumber.symm.trans hnumber'
    | some attempts =>
      refine attemptUpgrades_eq_execs.trans ⟨?_, fun h => ?_⟩
      · rintro ⟨hfirst, hlimit, hupgrade, hbefore, hslept⟩
        exact .upgraded hoff hnumber hfirst (by omega) hupgrade hbefore hslept
      · cases h with
        | off hoff' => exact absurd hoff' hoff
        | unlimited _ hnumber' => cases hnumber.symm.trans hnumber'
        | upgraded _ hnumber' hfirst hlimit hupgrade hbefore hslept =>
          obtain rfl := Option.some.inj (hnumber.symm.trans hnumber')
          exact ⟨hfirst, by omega, hupgrade, hbefore, hslept⟩

/-- **When a container starts the application**: the URL passed its check, the look-up of its host did
    not break, and the schema was migrated. -/
theorem entrypoint_starts_iff [UrlRules] (tools : Tools) (environ : Dict String) (n : Nat) :
    entrypoint tools environ = .execs n ↔ ∃ target, checkDatabaseTarget environ = .ok target ∧
      tools.lookup target.host target.port ≠ .raised ∧ MigratedBy tools environ n := by
  simp only [entrypoint_eq_execs, migrateOnStartup_eq_execs]

/-! ## From the env file to the service -/

/-- **What a prepared and rendered env file runs.**  The container starts the application, without a
    migration, exactly where the blank names fit and the look-up of the host does not break; it reads the
    lists as they were in the file; its settings have the secrets, the environment and the URL of the file;
    and on the real store it has a readiness probe exactly where the blank names fit and the driver takes
    the URL, which is ready on a connection to the database and the user that the URL names and on no
    other. -/
theorem deployed_service [Python] [UrlRules] [UpperCase] {sourceDir files files' : Dict String}
    {envPath text out ns image : String} (hprepare : prepareEnv envPath (some text) = .ok out)
    (hns : OneLine ns.toList) (hkeys : ∀ key ∈ (pairsOf text).map Prod.fst, ':' ∉ key.toList)
    (hrender : (renderManifests sourceDir (some out) ns image).runOn files = (.ok (), files')) :
    ∃ env target, deployedEnvironment files' = some env ∧
      Usable (strippedValue (parseEnvFile text) "DATABASE_URL") target ∧
      (∀ tools n, entrypoint tools env = .execs n ↔ n = 0 ∧ BlankNamesFit (parseEnvFile text) target ∧
        tools.lookup target.host target.port ≠ .raised) ∧
      (∀ key ∈ ["CORS_ALLOWED_ORIGINS", "TRUSTED_HOSTS"], ∃ items value,
        parseCsvOrJsonList (.inl (strippedValue (parseEnvFile text) key)) = .ok items ∧ items ≠ [] ∧
          env.get? key = some value ∧ parseCsvOrJsonList (.inl value) = .ok items) ∧
      ∀ host s, Settings.load host env = .ok s → Configured (parseEnvFile text) s ∧
        (s.appRuntimeMode = .real → ∀ createEngine,
          ((∃ probe, buildDatabaseReadinessProbe createEngine s = .ok (some probe)) ↔
            BlankNamesFit (parseEnvFile text) target ∧
              createEngine (normalizePostgresqlUrlForAlembic s.databaseUrl) = .ok ()) ∧
          ∀ probe appName connection, buildDatabaseReadinessProbe createEngine s = .ok (some probe) →
            ((readinessCheck appName (some probe) connection).statusCode = 200 ↔
              connection = .ok ⟨target.database, target.username⟩)) := by
  obtain ⟨env, target, henv, hdeployed⟩ := deployedAs hprepare hns hkeys hrender
  refine ⟨env, target, henv, hdeployed.usable, hdeployed.starts, hdeployed.list,
    fun host s hload => ⟨hdeployed.configured hload, fun hmode createEngine => ⟨?_, ?_⟩⟩⟩
  · constructor
    · rintro ⟨probe, hprobe⟩
      obtain ⟨hfit, hengine, -⟩ := (hdeployed.probe hload hmode).mp hprobe
      exact ⟨hfit, hengine⟩
    · rintro ⟨hfit, hengine⟩
      exact ⟨_, (hdeployed.probe hload hmode).mpr ⟨hfit, hengine, rfl⟩⟩
  · intro probe appName connection hprobe
    obtain ⟨-, -, rfl⟩ := (hdeployed.probe hload hmode).mp hprobe
    exact readinessCheck_ready

section Samples

open Sample

/-- A file that gives the expected database a blank name. -/
def Sample.blankNameLines : List String :=
  ["APP_NAME=b", "APP_VERSION=1", "ENVIRONMENT=Test", "LOG_LEVEL=INFO", "LOG_JSON=true",
    "DATABASE_URL=postgresql://u:b@db/d", "EXPECTED_DATABASE_NAME=", "EXPECTED_DATABASE_USERNAME=u",
    "APP_BASE_URL=https://b", "CORS_ALLOWED_ORIGINS=a, b", "TRUSTED_HOSTS=[\"b\"]",
    "JWT_ALGORITHM=HS256", "JWT_SECRET=s", "APPROVAL_TOKEN_SECRET=f", "CUSTOMER_JWT_SECRET=g"]

/-- What is read of it. -/
def Sample.blankNamePairs : Dict String :=
  [("APP_NAME", "b"), ("APP_VERSION", "1"), ("ENVIRONMENT", "Test"), ("LOG_LEVEL", "INFO"),
    ("LOG_JSON", "true"), ("DATABASE_URL", "postgresql://u:b@db/d"), ("EXPECTED_DATABASE_NAME", ""),
    ("EXPECTED_DATABASE_USERNAME", "u"), ("APP_BASE_URL", "https://b"),
    ("CORS_ALLOWED_ORIGINS", "a, b"), ("TRUSTED_HOSTS", "[\"b\"]"), ("JWT_ALGORITHM", "HS256"),
    ("JWT_SECRET", "s"), ("APPROVAL_TOKEN_SECRET", "f"), ("CUSTOMER_JWT_SECRET", "g")]

/-- What `prepare_env` makes of the values. -/
def Sample.blankNamePrepared : Dict String :=
  [("APP_NAME", "b"), ("APP_VERSION", "1"), ("ENVIRONMENT", "test"), ("LOG_LEVEL", "INFO"),
    ("LOG_JSON", "true"), ("DATABASE_URL", "postgresql://u:b@db/d"), ("EXPECTED_DATABASE_NAME", ""),
    ("EXPECTED_DATABASE_USERNAME", "u"), ("APP_BASE_URL", "https://b"),
    ("CORS_ALLOWED_ORIGINS", "[\"a\",\"b\"]"), ("TRUSTED_HOSTS", "[\"b\"]"), ("JWT_ALGORITHM", "HS256"),
    ("JWT_SECRET", "s"), ("APPROVAL_TOKEN_SECRET", "f"), ("CUSTOMER_JWT_SECRET", "g"),
    ("EMAIL_PROVIDER", "SMTP")]

/-- And what it writes. -/
def Sample.blankNameOut : List String :=
  ["APP_NAME=b", "APP_VERSION=1", "ENVIRONMENT=test", "LOG_LEVEL=INFO", "LOG_JSON=true",
    "DATABASE_URL=postgresql://u:b@db/d", "EXPECTED_DATABASE_NAME=", "EXPECTED_DATABASE_USERNAME=u",
    "APP_BASE_URL=https://b", "CORS_ALLOWED_ORIGINS=[\"a\",\"b\"]", "TRUSTED_HOSTS=[\"b\"]",
    "JWT_ALGORITHM=HS256", "JWT_SECRET=s", "APPROVAL_TOKEN_SECRET=f", "CUSTOMER_JWT_SECRET=g"]

theorem deployed_service_blankName : ∃ files env,
    (renderManifests templates (some (joinLines blankNameOut)) "prod" "billing:1").runOn [] =
        (.ok (), files) ∧ deployedEnvironment files = some env ∧
      ∀ tools n, entrypoint tools env ≠ .execs n := by
  have hlines : linesOf (joinLines blankNameLines) = blankNameLines :=
    linesOf_joinLines (by decide) (by decide +kernel)
  have hpairs : blankNameLines.filterMap keyValueOf = blankNamePairs := by decide +kernel
  have hread : pairsOf (joinLines blankNameLines) = blankNamePairs := by rw [pairsOf, hlines, hpairs]
  have hvalidate : validateValues (Dict.update [] blankNamePairs) = .ok blankNamePrepared := by
    decide +kernel
  have hwritten : (blankNameLines.map entryOf).map (entryLine blankNamePrepared) = blankNameOut := by
    decide +kernel
  have hprepare : prepareEnv ".env" (some (joinLines blankNameLines)) = .ok (joinLines blankNameOut) := by
    unfold prepareEnv
    rw [loadEnvFile_eq, ok_bind, hread]
    show (validateValues _ >>= fun values => pure (rewriteEnvFile _ values)) = _
    rw [hvalidate, ok_bind, hlines, rewriteEnvFile, hwritten]
    rfl
  have hkeys : ∀ key ∈ (pairsOf (joinLines blankNameLines)).map Prod.fst, ':' ∉ key.toList := by
    rw [hread]
    decide +kernel
  have hmissing : missingSecretKeys (deployedValues (parseEnvFile (joinLines blankNameOut))) = [] := by
    have hout : linesOf (joinLines blankNameOut) = blankNameOut :=
      linesOf_joinLines (by decide) (by decide +kernel)
    have hpairsOut : blankNameOut.filterMap keyValueOf = blankNamePrepared.dropLast := by decide +kernel
    rw [parseEnvFile_eq, pairsOf, hout, hpairsOut]
    decide +kernel
  have himage : normalizeImageRef "billing:1" = .ok "billing:1" := by decide +kernel
  have hstatic : ((renderStaticManifests templates "prod" "billing:1").runOn []).1 = .ok () := by
    decide +kernel
  obtain ⟨mid, hmid⟩ := Script.exists_files hstatic
  have hrun := renderManifests_eq_ok.mpr ⟨_, _, mid, himage, rfl, hmissing, hmid, rfl⟩
  obtain ⟨env, target, henv, husable, hstarts, -⟩ := deployed_service hprepare (by decide) hkeys hrun
  have hgiven : parseEnvFile (joinLines blankNameLines) = Dict.update [] blankNamePairs := by
    rw [parseEnvFile_eq, hread]
  refine ⟨_, env, hrun, henv, fun tools n hexecs => ?_⟩
  obtain ⟨-, hfit, -⟩ := (hstarts tools n).mp hexecs
  rw [hgiven] at husable hfit
  have hdescribed : describeDatabaseTarget (strippedValue (Dict.update [] blankNamePairs) "DATABASE_URL") =
      .ok ⟨"u", "db", 5432, "d"⟩ := by decide +kernel
  obtain rfl := Except.ok.inj (hdescribed.symm.trans husable.described)
  exact absurd (hfit.database (by decide +kernel)) (by decide)

end Samples

end Billing

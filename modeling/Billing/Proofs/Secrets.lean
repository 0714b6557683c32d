/-
  Which secret is in force after the settings were built?

  The operator gives a secret as a value or, when that is blank, as a file (`Supplied`), and the
  contract of `prepare_env` asks for one or the other.  The settings resolve their own value first, and
  a name that the mapping lacks has the default of its class as its value.  The two agree wherever that
  default is blank, as it is for the customers' secret; the default of `JWT_SECRET` is not, so it hides
  the file as soon as the name itself is missing.

  `secrets_in_force_iff` is that condition, `dev_secret_in_force` the bad case.
-/
import Billing.Infrastructure.Settings
import Billing.Deploy.PrepareEnv

namespace Billing

open Py

variable {host : Host} {values : Dict String} {s : Settings}

/-! ## What the operator supplies -/

/-- The secret that the operator supplies under a name: a value that is not blank, or else what the
    file says. -/
inductive Supplied (host : Host) (values : Dict String) (key : String) : String → Prop where
  /-- The value. -/
  | value {value : String} (hget : values.get? key = some value) (hvalue : strip value ≠ "") :
    Supplied host values key (strip value)
  /-- The content of the file. -/
  | file {path content : String} (hblank : strippedValue values key = "")
      (hpath : values.get? (key ++ "_FILE") = some path) (hread : host.readText path = .ok content) :
    Supplied host values key (strip content)

/-- Every file that a `*_FILE` names can be read, and it is not blank. -/
def FilesReadable (host : Host) (values : Dict String) : Prop :=
  ∀ key ∈ ["JWT_SECRET_FILE", "CUSTOMER_JWT_SECRET_FILE", "MERCADO_PAGO_ACCESS_TOKEN_FILE"],
    ∀ path, values.get? key = some path → path ≠ "" →
      ∃ content, host.readText path = .ok content ∧ strip content ≠ ""

/-- The secrets in force are the operator's, and no default is. -/
structure SecretsInForce (host : Host) (values : Dict String) (s : Settings) : Prop where
  jwtSecret : Supplied host values "JWT_SECRET" s.jwtSecret
  customerJwtSecret : Supplied host values "CUSTOMER_JWT_SECRET" s.customerJwtSecret
  notJwtDefault : ¬ (values.get? "JWT_SECRET" = none ∧ s.jwtSecret = Settings.defaultJwtSecret)
  notCustomerDefault : ¬ (values.get? "CUSTOMER_JWT_SECRET" = none ∧
    s.customerJwtSecret = Settings.defaultCustomerJwtSecret)

/-- Nothing but a secret could keep the settings from being built: pydantic accepts the fields, and a
    service that is to use Mercado Pago has a token. -/
structure Buildable (host : Host) (values : Dict String) : Prop where
  rest : host.validateRest values = .ok ()
  fields : ∃ self, Settings.ofValues values = .ok self
  token : ∀ token, resolveSecret host ((values.get? "MERCADO_PAGO_ACCESS_TOKEN").getD "")
    (values.get? "MERCADO_PAGO_ACCESS_TOKEN_FILE") "MERCADO_PAGO_ACCESS_TOKEN" = .ok token →
      values.get? "PAYMENT_PROVIDER_MODE" = some "mercado_pago" → token ∉ demoTokens

/-! ## What the settings have -/

/-- The fields as they are before the secrets are resolved. -/
theorem Settings.ofValues_eq_ok {self : Settings} (h : Settings.ofValues values = .ok self) :
    self.jwtSecret = (values.get? "JWT_SECRET").getD defaultJwtSecret ∧
      self.jwtSecretFile = values.get? "JWT_SECRET_FILE" ∧
      self.customerJwtSecret = (values.get? "CUSTOMER_JWT_SECRET").getD defaultCustomerJwtSecret ∧
      self.customerJwtSecretFile = values.get? "CUSTOMER_JWT_SECRET_FILE" ∧
      self.mercadoPagoAccessToken = (values.get? "MERCADO_PAGO_ACCESS_TOKEN").getD "" ∧
      self.mercadoPagoAccessTokenFile = values.get? "MERCADO_PAGO_ACCESS_TOKEN_FILE" ∧
      optionalField values "PAYMENT_PROVIDER_MODE" PaymentProviderMode.ofText =
        .ok self.paymentProviderMode := by
  unfold ofValues at h
  obtain ⟨environment, -, h⟩ := bind_eq_ok.mp h
  obtain ⟨runtime, -, h⟩ := bind_eq_ok.mp h
  obtain ⟨mode, hmode, h⟩ := bind_eq_ok.mp h
  obtain rfl := Except.ok.inj h
  exact ⟨rfl, rfl, rfl, rfl, rfl, rfl, hmode⟩

/-- **The secrets of settings that were built** are resolved from the mapping. -/
theorem Settings.load_secrets (h : Settings.load host values = .ok s) :
    resolveSecret host ((values.get? "JWT_SECRET").getD defaultJwtSecret)
        (values.get? "JWT_SECRET_FILE") "JWT_SECRET" = .ok s.jwtSecret ∧
      resolveSecret host ((values.get? "CUSTOMER_JWT_SECRET").getD defaultCustomerJwtSecret)
        (values.get? "CUSTOMER_JWT_SECRET_FILE") "CUSTOMER_JWT_SECRET" = .ok s.customerJwtSecret := by
  obtain ⟨-, self, hself, hinit⟩ := load_eq_ok.mp h
  obtain ⟨hjwt, hjwtFile, hcustomer, hcustomerFile, -⟩ := ofValues_eq_ok hself
  obtain ⟨jwtSecret, customerJwtSecret, token, hjwtSecret, hcustomerSecret, -, -, rfl⟩ :=
    modelPostInit_eq_ok.mp hinit
  rw [← hjwt, ← hjwtFile, ← hcustomer, ← hcustomerFile]
  exact ⟨hjwtSecret, hcustomerSecret⟩

/-- The mode is that of Mercado Pago only if the mapping says so. -/
theorem optionalField_mercadoPago
    (h : optionalField values "PAYMENT_PROVIDER_MODE" PaymentProviderMode.ofText =
      .ok (some .mercadoPago)) : values.get? "PAYMENT_PROVIDER_MODE" = some "mercado_pago" := by
  unfold optionalField at h
  split at h
  · cases h
  · rename_i value hvalue
    unfold PaymentProviderMode.ofText at h
    split at h
    · cases h
    · split at h
      · rename_i hmercadoPago
        rw [hvalue, hmercadoPago]
      · cases h

/-- With readable files, nothing but the other fields keeps the settings from being built. -/
theorem Buildable.load (h : Buildable host values) (hfiles : FilesReadable host values) :
    ∃ s, Settings.load host values = .ok s := by
  obtain ⟨self, hself⟩ := h.fields
  obtain ⟨hjwt, hjwtFile, hcustomer, hcustomerFile, htoken, htokenFile, hmode⟩ :=
    Settings.ofValues_eq_ok hself
  obtain ⟨jwtSecret, hjwtSecret⟩ : ∃ secret,
      resolveSecret host self.jwtSecret self.jwtSecretFile "JWT_SECRET" = .ok secret :=
    resolveSecret_isOk (fun path hpath =>
      hfiles "JWT_SECRET_FILE" (by simp) path (hjwtFile ▸ hpath)) _ _
  obtain ⟨customerJwtSecret, hcustomerSecret⟩ : ∃ secret,
      resolveSecret host self.customerJwtSecret self.customerJwtSecretFile "CUSTOMER_JWT_SECRET" =
        .ok secret :=
    resolveSecret_isOk (fun path hpath =>
      hfiles "CUSTOMER_JWT_SECRET_FILE" (by simp) path (hcustomerFile ▸ hpath)) _ _
  obtain ⟨token, htokenIs⟩ : ∃ secret, resolveSecret host self.mercadoPagoAccessToken
      self.mercadoPagoAccessTokenFile "MERCADO_PAGO_ACCESS_TOKEN" = .ok secret :=
    resolveSecret_isOk (fun path hpath =>
      hfiles "MERCADO_PAGO_ACCESS_TOKEN_FILE" (by simp) path (htokenFile ▸ hpath)) _ _
  refine ⟨_, Settings.load_eq_ok.mpr ⟨h.rest, self, hself, Settings.modelPostInit_eq_ok.mpr
    ⟨jwtSecret, customerJwtSecret, token, hjwtSecret, hcustomerSecret, htokenIs, ?_, rfl⟩⟩⟩
  rintro ⟨hmercadoPago, hdemo⟩
  have hreal := h.token token (htoken ▸ htokenFile ▸ htokenIs)
  unfold Settings.providerMode at hmercadoPago
  cases hmodeIs : self.paymentProviderMode with
  | none =>
    -- the mode follows the token, so a demo token makes it the mock
    rw [hmodeIs] at hmercadoPago
    cases hruntime : self.appRuntimeMode with
    | real =>
      rw [hruntime] at hmercadoPago
      simp only [if_pos hdemo] at hmercadoPago
      cases hmercadoPago
    | memory => rw [hruntime] at hmercadoPago; cases hmercadoPago
  | some mode =>
    rw [hmodeIs] at hmercadoPago hmode
    obtain rfl : mode = .mercadoPago := hmercadoPago
    refine hreal (optionalField_mercadoPago hmode) hdemo

/-! ## Which secret is in force -/

/-- **A resolved secret is the operator's**, and not blank, when its name is in the mapping or its
    default is blank. -/
theorem supplied_of_resolved {key default fieldName secret : String}
    (hgiven : strippedValue values key ≠ "" ∨ strippedValue values (key ++ "_FILE") ≠ "")
    (hname : values.get? key ≠ none ∨ strip default = "")
    (h : resolveSecret host ((values.get? key).getD default) (values.get? (key ++ "_FILE")) fieldName =
      .ok secret) : Supplied host values key secret ∧ secret ≠ "" := by
  have hblankValue : strip ((values.get? key).getD default) = "" → strippedValue values key = "" := by
    intro hblank
    unfold strippedValue
    cases hget : values.get? key with
    | none => rfl
    | some value => rw [hget] at hblank; exact hblank
  rcases resolveSecret_eq_ok h with ⟨hvalue, rfl⟩ | ⟨hblank, -, hnone⟩ |
    ⟨hblank, hsecret, path, content, hpath, -, hread, rfl⟩
  · refine ⟨?_, hvalue⟩
    cases hget : values.get? key with
    | none =>
      rw [hget] at hvalue hname
      exact absurd (hname.resolve_left fun hne => hne rfl) hvalue
    | some value =>
      rw [hget] at hvalue
      exact .value hget hvalue
  · -- neither a value nor a file
    have hfile : strippedValue values (key ++ "_FILE") = "" := by
      unfold strippedValue
      rw [hnone]
      rfl
    rcases hgiven with hgiven | hgiven
    · exact absurd (hblankValue hblank) hgiven
    · exact absurd hfile hgiven
  · exact ⟨.file (hblankValue hblank) hpath hread, hsecret⟩

/-- **The default of `JWT_SECRET` is in force** when the mapping lacks the name, whatever the file
    says. -/
theorem default_in_force (habsent : values.get? "JWT_SECRET" = none)
    (h : Settings.load host values = .ok s) : s.jwtSecret = Settings.defaultJwtSecret := by
  have hresolved := (Settings.load_secrets h).1
  rw [habsent] at hresolved
  have hdefault : strip Settings.defaultJwtSecret = Settings.defaultJwtSecret := by decide
  have hne : Settings.defaultJwtSecret ≠ "" := by decide
  rcases resolveSecret_eq_ok hresolved with ⟨-, hsecret⟩ | ⟨hblank, -⟩ | ⟨hblank, -⟩
  · rw [hsecret]
    exact hdefault
  · exact absurd (hdefault.symm.trans hblank) hne
  · exact absurd (hdefault.symm.trans hblank) hne

/-- **The operator's secrets are in force exactly when the mapping has the name `JWT_SECRET`**, be it
    with a blank value; and with readable files the secrets never keep the settings from being
    built. -/
theorem secrets_in_force_iff (host : Host) (values : Dict String)
    (hcontract : validateSecretContract values = .ok ()) (hfiles : FilesReadable host values) :
    (∀ s, Settings.load host values = .ok s →
      (SecretsInForce host values s ↔ values.get? "JWT_SECRET" ≠ none)) ∧
      (Buildable host values → ∃ s, Settings.load host values = .ok s) := by
  refine ⟨fun s h => ⟨fun hforce habsent => ?_, fun hname => ?_⟩, fun h => h.load hfiles⟩
  · exact hforce.notJwtDefault ⟨habsent, default_in_force habsent h⟩
  · have hgiven := validateSecretContract_eq_ok.mp hcontract
    obtain ⟨hjwt, hcustomer⟩ := Settings.load_secrets h
    obtain ⟨hjwtSupplied, -⟩ := supplied_of_resolved
      (hgiven "JWT_SECRET" (by simp)) (Or.inl hname) hjwt
    obtain ⟨hcustomerSupplied, hcustomerNe⟩ := supplied_of_resolved
      (hgiven "CUSTOMER_JWT_SECRET" (by simp)) (Or.inr (by decide)) hcustomer
    exact ⟨hjwtSupplied, hcustomerSupplied, fun habsent => hname habsent.1,
      fun hdefault => hcustomerNe hdefault.2⟩

/-! ## Two mappings -/

namespace Sample

/-- A machine on which every file says the same. -/
def machine : Host := ⟨fun _ => .ok "s3cret-from-the-operator\n", fun _ => .ok ()⟩

/-- The secrets, with the JWT secret in a file and its name left out. -/
def fileOnly : Dict String :=
  [("APPROVAL_TOKEN_SECRET", "approval"), ("JWT_SECRET_FILE", "/run/secrets/jwt_secret"),
    ("CUSTOMER_JWT_SECRET_FILE", "/run/secrets/customer_jwt_secret")]

/-- The same with a blank value for the name. -/
def blankAndFile : Dict String := ("JWT_SECRET", "") :: fileOnly

theorem filesReadable_machine (values : Dict String) : FilesReadable machine values := by
  intro key _ path _ _
  exact ⟨_, rfl, by decide⟩

end Sample

open Sample

theorem secrets_in_force_blankAndFile :
    ∃ s, Settings.load machine blankAndFile = .ok s ∧ SecretsInForce machine blankAndFile s := by
  obtain ⟨hforce, hload⟩ := secrets_in_force_iff machine blankAndFile rfl
    (filesReadable_machine blankAndFile)
  have hbuildable : Buildable machine blankAndFile :=
    ⟨rfl, ⟨_, rfl⟩, fun _ _ hmode => by cases hmode⟩
  obtain ⟨s, hs⟩ := hload hbuildable
  exact ⟨s, hs, (hforce s hs).mpr fun h => by cases h⟩

/-- **The file is not read**: the contract is kept, the file is there, and the secret of the class is
    in force. -/
theorem dev_secret_in_force :
    ¬ ∀ host values s, validateSecretContract values = .ok () → FilesReadable host values →
      Settings.load host values = .ok s → SecretsInForce host values s := by
  intro h
  have hload : ∃ s, Settings.load machine fileOnly = .ok s := ⟨_, rfl⟩
  obtain ⟨s, hs⟩ := hload
  have hsupplied := (h machine fileOnly s rfl (filesReadable_machine fileOnly) hs).jwtSecret
  rw [default_in_force rfl hs] at hsupplied
  generalize hsecret : Settings.defaultJwtSecret = secret at hsupplied
  cases hsupplied with
  | value hget _ => cases hget
  | file _ _ hread =>
    obtain rfl := Except.ok.inj hread
    exact absurd hsecret (by decide)

end Billing

/-
  The admin gate.

  Two verifiers are tried on a token and then the role of the principal is tested.  Since the claims are
  those of the token, whichever secret it was accepted under, at most one of them makes a principal
  (`verifiers_exclusive`); so their order does not matter and `require_admin_principal` is the admin
  verifier (`requireAdminPrincipal_eq_ok`).

  What is left is the secret.  The customer verifier refuses to work with an empty one, the admin
  verifier does not, and the settings accept one: a `JWT_SECRET` that is given as blank, without a file
  (`SecretLeftBlank`).  `admin_gate_iff` says that this is the only gap.
-/
import Billing.Presentation.Auth
import Billing.Proofs.Secrets

namespace Billing

open Py

theorem isText_iff {value : Json} {text : String} : isText value text = true ↔ value = .str text := by
  unfold isText
  cases value with
  | str s => exact ⟨fun h => congrArg _ (eq_of_beq h), fun h => beq_iff_eq.mpr (Json.str.inj h)⟩
  | _ => exact ⟨fun h => (by cases h), fun h => (by cases h)⟩

theorem JwtOracle.decode_eq_some {jwt : JwtOracle} {token secret algorithm issuer : String}
    {payload : Dict Json} : jwt.decode token secret algorithm issuer = some payload ↔
      jwt.verifies token secret algorithm issuer = true ∧ payload = jwt.claims token := by
  unfold decode
  split
  · rename_i h
    exact ⟨fun hs => ⟨h, (Option.some.inj hs).symm⟩, fun hs => congrArg some hs.2.symm⟩
  · rename_i h
    exact ⟨fun hs => (by cases hs), fun hs => absurd hs.1 h⟩

section Gate

variable [Python] {jwt : JwtOracle} {s : Settings} {token : String} {p : AuthenticatedPrincipal}
  {credentials : Option HttpAuthorizationCredentials}

/-! ## The verifiers -/

/-- The claims name an admin: the role, and a user or a subject. -/
structure NamesAdmin (payload : Dict Json) : Prop where
  role : getOrNone payload "role" = .str "admin"
  subject : (getOrNone payload "user_id").truthy = true ∨ (getOrNone payload "sub").truthy = true

omit [Python] in
theorem adminSubject_truthy {payload : Dict Json} : (adminSubject payload).truthy = true ↔
    (getOrNone payload "user_id").truthy = true ∨ (getOrNone payload "sub").truthy = true := by
  unfold adminSubject
  by_cases huser : (getOrNone payload "user_id").truthy = true
  · rw [if_pos huser]
    exact ⟨Or.inl, fun _ => huser⟩
  · rw [if_neg huser]
    exact ⟨Or.inr, fun h => h.resolve_left huser⟩

/-- The principal that the admin verifier makes. -/
def adminPrincipal (payload : Dict Json) : AuthenticatedPrincipal where
  subject := (adminSubject payload).text
  role := "admin"
  customerId := none
  issuer := getOrNone payload "iss"
  claims := payload

/-- **The admin verifier** accepts what verifies under its secret and names an admin. -/
theorem verifyAdminToken_eq_some : verifyAdminToken jwt token s = some p ↔
    jwt.verifies token s.jwtSecret s.jwtAlgorithm s.jwtIssuer = true ∧
      NamesAdmin (jwt.claims token) ∧ p = adminPrincipal (jwt.claims token) := by
  unfold verifyAdminToken
  by_cases hverifies : jwt.verifies token s.jwtSecret s.jwtAlgorithm s.jwtIssuer = true
  · have hdecode := JwtOracle.decode_eq_some.mpr ⟨hverifies, rfl⟩
    rw [hdecode]
    have hnames : NamesAdmin (jwt.claims token) ↔
        isText (getOrNone (jwt.claims token) "role") "admin" = true ∧
          (adminSubject (jwt.claims token)).truthy = true := by
      rw [isText_iff, adminSubject_truthy]
      exact ⟨fun h => ⟨h.role, h.subject⟩, fun h => ⟨h.1, h.2⟩⟩
    rw [hnames]
    by_cases hrole : isText (getOrNone (jwt.claims token) "role") "admin" = true
    · by_cases hsubject : (adminSubject (jwt.claims token)).truthy = true
      · simp only [hrole, hsubject, Bool.not_true, Bool.false_eq_true, if_false, Option.some.injEq,
          true_and, and_self]
        exact ⟨fun h => ⟨hverifies, h.symm⟩, fun h => h.2.symm⟩
      · simp [hrole, hsubject]
    · simp [hrole]
  · have hdecode : jwt.decode token s.jwtSecret s.jwtAlgorithm s.jwtIssuer = none := if_neg hverifies
    rw [hdecode]
    exact ⟨fun h => (by cases h), fun h => absurd h.1 hverifies⟩

/-- What the customer verifier makes a principal of names a customer. -/
theorem verifyCustomerToken_eq_some (h : verifyCustomerToken jwt token s = some p) :
    getOrNone (jwt.claims token) "role" = .str "customer" ∧ p.role = "customer" := by
  unfold verifyCustomerToken at h
  split at h
  · cases h
  · cases hdecode : jwt.decode token s.customerJwtSecret s.customerJwtAlgorithm
        s.customerJwtIssuer with
    | none => rw [hdecode] at h; cases h
    | some payload =>
      obtain ⟨-, rfl⟩ := JwtOracle.decode_eq_some.mp hdecode
      simp only [hdecode] at h
      split at h
      · cases h
      · rename_i hrole
        split at h
        · cases h
        · rw [Bool.not_eq_true, Bool.not_eq_false'] at hrole
          obtain rfl := Option.some.inj h
          exact ⟨isText_iff.mp hrole, rfl⟩

/-- **At most one of the verifiers makes a principal.** -/
theorem verifiers_exclusive (hadmin : verifyAdminToken jwt token s = some p) :
    verifyCustomerToken jwt token s = none := by
  cases hcustomer : verifyCustomerToken jwt token s with
  | none => rfl
  | some p' =>
    have hrole := (verifyAdminToken_eq_some.mp hadmin).2.1.role
    rw [(verifyCustomerToken_eq_some hcustomer).1] at hrole
    exact absurd (Json.str.inj hrole) (by decide)

theorem verifiers_commute : (verifyCustomerToken jwt token s).or (verifyAdminToken jwt token s) =
    (verifyAdminToken jwt token s).or (verifyCustomerToken jwt token s) := by
  cases hadmin : verifyAdminToken jwt token s with
  | none => rw [Option.or_none, Option.none_or]
  | some p => rw [verifiers_exclusive hadmin, Option.none_or, Option.or_none]

/-! ## The gate -/

/-- **The gate is the admin verifier**, for a bearer token. -/
theorem requireAdminPrincipal_eq_ok : requireAdminPrincipal jwt s credentials = .ok p ↔
    ∃ c, credentials = some c ∧ casefold c.scheme = "bearer" ∧
      verifyAdminToken jwt c.credentials s = some p := by
  unfold requireAdminPrincipal requireAdmin getCurrentPrincipal currentPrincipalBy
  cases credentials with
  | none => exact ⟨fun h => (by cases h), fun ⟨_, h, _⟩ => (by cases h)⟩
  | some c =>
    by_cases hscheme : casefold c.scheme = "bearer"
    · simp only [ne_eq, hscheme, not_true_eq_false, if_false]
      cases hcustomer : verifyCustomerToken jwt c.credentials s with
      | some p' =>
        -- a customer is no admin, and no admin verifier accepts the token
        have hrole : p'.isAdmin = false := by
          unfold AuthenticatedPrincipal.isAdmin
          rw [(verifyCustomerToken_eq_some hcustomer).2]
          rfl
        simp only [Option.some_or, hrole]
        refine ⟨fun h => (by cases h), ?_⟩
        rintro ⟨c', hc, -, hadmin⟩
        obtain rfl := Option.some.inj hc
        rw [verifiers_exclusive hadmin] at hcustomer
        cases hcustomer
      | none =>
        rw [Option.none_or]
        cases hadmin : verifyAdminToken jwt c.credentials s with
        | none =>
          refine ⟨fun h => (by cases h), ?_⟩
          rintro ⟨c', hc, -, hadmin'⟩
          obtain rfl := Option.some.inj hc
          rw [hadmin] at hadmin'
          cases hadmin'
        | some p' =>
          obtain ⟨-, -, rfl⟩ := verifyAdminToken_eq_some.mp hadmin
          constructor
          · intro h
            exact ⟨c, rfl, hscheme, hadmin.trans (congrArg some (Except.ok.inj h))⟩
          · rintro ⟨c', hc, -, hadmin'⟩
            obtain rfl := Option.some.inj hc
            rw [hadmin] at hadmin'
            exact congrArg Except.ok (Option.some.inj hadmin')
    · simp only [ne_eq, hscheme, not_false_eq_true, if_true]
      refine ⟨fun h => (by cases h), ?_⟩
      rintro ⟨c', hc, hscheme', -⟩
      obtain rfl := Option.some.inj hc
      exact absurd hscheme' hscheme

/-- Only a token that verifies under the admin secret, which is not empty, and that names an admin
    passes. -/
def OnlyAdminsPass (jwt : JwtOracle) (s : Settings)
    (credentials : Option HttpAuthorizationCredentials) : Prop :=
  ∀ p, requireAdminPrincipal jwt s credentials = .ok p → ∃ c, credentials = some c ∧
    jwt.verifies c.credentials s.jwtSecret s.jwtAlgorithm s.jwtIssuer = true ∧ s.jwtSecret ≠ "" ∧
      NamesAdmin (jwt.claims c.credentials)

/-- What verifies under the customer secret only does not pass. -/
def CustomersStayOut (jwt : JwtOracle) (s : Settings)
    (credentials : Option HttpAuthorizationCredentials) : Prop :=
  ∀ c p, credentials = some c →
    jwt.verifies c.credentials s.customerJwtSecret s.customerJwtAlgorithm s.customerJwtIssuer = true →
      jwt.verifies c.credentials s.jwtSecret s.jwtAlgorithm s.jwtIssuer = false →
        requireAdminPrincipal jwt s credentials ≠ .ok p

/-- The verifiers could be tried in the other order. -/
def OrderFree (jwt : JwtOracle) (s : Settings) (credentials : Option HttpAuthorizationCredentials) :
    Prop :=
  requireAdminPrincipal jwt s credentials =
    requireAdmin (currentPrincipalBy verifyAdminToken verifyCustomerToken jwt s credentials)

/-- The gate fails closed for this token. -/
structure FailsClosed (jwt : JwtOracle) (s : Settings)
    (credentials : Option HttpAuthorizationCredentials) : Prop where
  admins : OnlyAdminsPass jwt s credentials
  customers : CustomersStayOut jwt s credentials
  order : OrderFree jwt s credentials

theorem onlyAdminsPass_of_secret (h : s.jwtSecret ≠ "") : OnlyAdminsPass jwt s credentials := by
  intro p hp
  obtain ⟨c, hc, -, hadmin⟩ := requireAdminPrincipal_eq_ok.mp hp
  obtain ⟨hverifies, hnames, -⟩ := verifyAdminToken_eq_some.mp hadmin
  exact ⟨c, hc, hverifies, h, hnames⟩

theorem customersStayOut : CustomersStayOut jwt s credentials := by
  intro c p hc _ hnot hp
  obtain ⟨c', hc', -, hadmin⟩ := requireAdminPrincipal_eq_ok.mp hp
  obtain rfl := Option.some.inj (hc.symm.trans hc')
  rw [(verifyAdminToken_eq_some.mp hadmin).1] at hnot
  cases hnot

theorem orderFree : OrderFree jwt s credentials := by
  unfold OrderFree requireAdminPrincipal getCurrentPrincipal currentPrincipalBy
  cases credentials with
  | none => rfl
  | some c =>
    simp only
    rw [verifiers_commute]

/-! ## The gap -/

/-- The mapping gives a blank `JWT_SECRET`, and no file for it. -/
def SecretLeftBlank (values : Dict String) : Prop :=
  (∃ value, values.get? "JWT_SECRET" = some value ∧ strip value = "") ∧
    (values.get? "JWT_SECRET_FILE").getD "" = ""

omit [Python] in
/-- **The secret is empty only when it was left blank.** -/
theorem jwtSecret_eq_empty_iff {host : Host} {values : Dict String}
    (h : Settings.load host values = .ok s) : s.jwtSecret = "" ↔ SecretLeftBlank values := by
  rcases resolveSecret_eq_ok (Settings.load_secrets h).1 with ⟨hvalue, hsecret⟩ |
    ⟨hblank, hsecret, hfile⟩ | ⟨-, hsecret, path, content, hpath, hne, -, -⟩
  · rw [hsecret]
    refine ⟨fun hempty => absurd hempty hvalue, ?_⟩
    rintro ⟨⟨value, hget, hblank⟩, -⟩
    rw [hget] at hvalue
    exact absurd hblank hvalue
  · refine ⟨fun _ => ⟨?_, hfile⟩, fun _ => hsecret⟩
    cases hget : values.get? "JWT_SECRET" with
    | none =>
      rw [hget] at hblank
      exact absurd hblank (by decide)
    | some value =>
      rw [hget] at hblank
      exact ⟨value, rfl, hblank⟩
  · refine ⟨fun hempty => absurd hempty hsecret, ?_⟩
    rintro ⟨-, hnone⟩
    rw [hpath] at hnone
    exact absurd hnone hne

/-- An oracle for tokens that begin with the secret they were signed with, and that all name an
    admin. -/
def adminTokens : JwtOracle where
  verifies := fun token secret _ _ => token == secret ++ ".admin"
  claims := fun _ => [("role", .str "admin"), ("sub", .str "somebody")]

/-- The token that anybody can make. -/
def unsigned : Option HttpAuthorizationCredentials := some ⟨"Bearer", ".admin"⟩

/-- With an empty secret, a token that was signed with nothing passes. -/
theorem unsigned_passes (h : s.jwtSecret = "") : ¬ OnlyAdminsPass adminTokens s unsigned := by
  intro honly
  have hverifies : adminTokens.verifies ".admin" s.jwtSecret s.jwtAlgorithm s.jwtIssuer = true := by
    rw [h]
    rfl
  have hnames : NamesAdmin (adminTokens.claims ".admin") := ⟨rfl, Or.inr rfl⟩
  have hscheme : casefold "Bearer" = "bearer" := by decide
  have hpass : requireAdminPrincipal adminTokens s unsigned =
      .ok (adminPrincipal (adminTokens.claims ".admin")) :=
    requireAdminPrincipal_eq_ok.mpr ⟨⟨"Bearer", ".admin"⟩, rfl, hscheme,
      verifyAdminToken_eq_some.mpr ⟨hverifies, hnames, rfl⟩⟩
  obtain ⟨c, -, -, hne, -⟩ := honly _ hpass
  exact hne h

/-- **The gate fails closed exactly for the settings whose secret was not left blank**; that customers
    stay out and that the order of the verifiers does not matter is true of all settings. -/
theorem admin_gate_iff {host : Host} {values : Dict String} (h : Settings.load host values = .ok s) :
    ((∀ jwt credentials, FailsClosed jwt s credentials) ↔ ¬ SecretLeftBlank values) ∧
      ∀ jwt credentials, CustomersStayOut jwt s credentials ∧ OrderFree jwt s credentials := by
  refine ⟨⟨fun hclosed hblank => ?_, fun hblank jwt credentials => ?_⟩, fun jwt credentials =>
    ⟨customersStayOut, orderFree⟩⟩
  · exact unsigned_passes ((jwtSecret_eq_empty_iff h).mpr hblank) (hclosed adminTokens unsigned).admins
  · have hne : s.jwtSecret ≠ "" := fun hempty => hblank ((jwtSecret_eq_empty_iff h).mp hempty)
    exact ⟨onlyAdminsPass_of_secret hne, customersStayOut, orderFree⟩

end Gate

section Samples

open Sample

theorem admin_gate_blankAndFile : ∃ s, Settings.load machine blankAndFile = .ok s ∧
    ∀ jwt credentials, FailsClosed jwt s credentials := by
  have hload : ∃ s, Settings.load machine blankAndFile = .ok s := ⟨_, rfl⟩
  obtain ⟨s, hs⟩ := hload
  refine ⟨s, hs, (admin_gate_iff hs).1.mpr ?_⟩
  rintro ⟨-, hfile⟩
  exact absurd hfile (by decide)

/-- **The gate is open**: the settings accept a blank secret, and then anybody is an admin. -/
theorem blank_secret_opens : ¬ ∀ host values s, Settings.load host values = .ok s →
    ∀ jwt credentials, FailsClosed jwt s credentials := by
  intro h
  have hload : ∃ s, Settings.load machine [("JWT_SECRET", "")] = .ok s := ⟨_, rfl⟩
  obtain ⟨s, hs⟩ := hload
  have hempty : s.jwtSecret = "" := (jwtSecret_eq_empty_iff hs).mpr ⟨⟨"", rfl, rfl⟩, rfl⟩
  exact unsigned_passes hempty (h _ _ s hs adminTokens unsigned).admins

end Samples

end Billing

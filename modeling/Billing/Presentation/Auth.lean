/-
  Who may call an admin route (`presentation/dependencies/auth.py`).

  `jwt.decode` is an oracle: it accepts a token under some secrets, algorithms and issuers, and the
  claims of an accepted token are those of the token, whichever secret it was accepted under.
-/
import Billing.Infrastructure.Settings

namespace Billing

open Py

/-- `jwt.decode`. -/
structure JwtOracle where
  /-- Does the token verify under this secret, algorithm and issuer? -/
  verifies : (token secret algorithm issuer : String) → Bool
  /-- The claims of a token. -/
  claims : String → Dict Json

/-- `jwt.decode(token, secret, algorithms=[algorithm], issuer=issuer)` (`none`: a `JWTError`). -/
def JwtOracle.decode (jwt : JwtOracle) (token secret algorithm issuer : String) : Option (Dict Json) :=
  if jwt.verifies token secret algorithm issuer then some (jwt.claims token) else none

/-- `AuthenticatedPrincipal`. -/
structure AuthenticatedPrincipal where
  /-- `subject`. -/
  subject : String
  /-- `role`. -/
  role : String
  /-- `customer_id`. -/
  customerId : Option String
  /-- `issuer`: whatever the claim is. -/
  issuer : Json
  /-- `claims`. -/
  claims : Dict Json

/-- `AuthenticatedPrincipal.is_admin`. -/
def AuthenticatedPrincipal.isAdmin (self : AuthenticatedPrincipal) : Bool := self.role == "admin"

/-- `HTTPAuthorizationCredentials`. -/
structure HttpAuthorizationCredentials where
  /-- `scheme`. -/
  scheme : String
  /-- `credentials`. -/
  credentials : String

/-- `HTTPException`. -/
structure HttpException where
  /-- `status_code`. -/
  statusCode : Nat
  /-- `detail`. -/
  detail : String
  /-- `headers`. -/
  headers : Dict String
  deriving DecidableEq, Repr

/-- `value == text`. -/
def isText (value : Json) (text : String) : Bool :=
  match value with
  | .str s => s == text
  | _ => false

/-- `text.casefold()`, as far as a comparison with `bearer` goes: no character outside ASCII is folded
    to letters of that word alone. -/
def casefold (text : String) : String := String.ofList (text.toList.map Char.toLower)

section Verifiers

variable [Python]

/-- `_verify_customer_token`. -/
def verifyCustomerToken (jwt : JwtOracle) (token : String) (settings : Settings) :
    Option AuthenticatedPrincipal :=
  if settings.customerJwtSecret = "" then none
  else
    match jwt.decode token settings.customerJwtSecret settings.customerJwtAlgorithm
        settings.customerJwtIssuer with
    | none => none
    | some payload =>
      if !isText (getOrNone payload "role") "customer" then none
      else
        let subject := getOrNone payload "sub"
        let customerId := getOrNone payload "customer_id"
        if !subject.truthy || !customerId.truthy then none
        else some {
          subject := subject.text
          role := "customer"
          customerId := some customerId.text
          issuer := getOrNone payload "iss"
          claims := payload }

/-- `payload.get("user_id") or payload.get("sub")`. -/
def adminSubject (payload : Dict Json) : Json :=
  let userId := getOrNone payload "user_id"
  if userId.truthy then userId else getOrNone payload "sub"

/-- `_verify_admin_token`. -/
def verifyAdminToken (jwt : JwtOracle) (token : String) (settings : Settings) :
    Option AuthenticatedPrincipal :=
  match jwt.decode token settings.jwtSecret settings.jwtAlgorithm settings.jwtIssuer with
  | none => none
  | some payload =>
    if !isText (getOrNone payload "role") "admin" then none
    else
      let subject := adminSubject payload
      if !subject.truthy then none
      else some {
        subject := subject.text
        role := "admin"
        customerId := none
        issuer := getOrNone payload "iss"
        claims := payload }

/-- A way to make a principal of a token. -/
abbrev Verifier : Type := JwtOracle → String → Settings → Option AuthenticatedPrincipal

/-- `get_current_principal`, with the two verifiers in the order in which they are tried. -/
def currentPrincipalBy (first second : Verifier) (jwt : JwtOracle) (settings : Settings)
    (credentials : Option HttpAuthorizationCredentials) :
    Except HttpException AuthenticatedPrincipal :=
  match credentials with
  | none => .error ⟨401, "Authentication token is required", [("WWW-Authenticate", "Bearer")]⟩
  | some credentials =>
    if casefold credentials.scheme ≠ "bearer" then
      .error ⟨401, "Authentication token is required", [("WWW-Authenticate", "Bearer")]⟩
    else
      match (first jwt credentials.credentials settings).or
          (second jwt credentials.credentials settings) with
      | none => .error ⟨403, "Invalid or expired token", []⟩
      | some principal => .ok principal

/-- `get_current_principal`. -/
def getCurrentPrincipal : JwtOracle → Settings → Option HttpAuthorizationCredentials →
    Except HttpException AuthenticatedPrincipal :=
  currentPrincipalBy verifyCustomerToken verifyAdminToken

/-- `require_admin_principal`, of the principal that `get_current_principal` came to. -/
def requireAdmin (principal : Except HttpException AuthenticatedPrincipal) :
    Except HttpException AuthenticatedPrincipal :=
  match principal with
  | .error e => .error e
  | .ok principal =>
    if !principal.isAdmin then .error ⟨403, "Admin access required", []⟩ else .ok principal

/-- `require_admin_principal`. -/
def requireAdminPrincipal (jwt : JwtOracle) (settings : Settings)
    (credentials : Option HttpAuthorizationCredentials) :
    Except HttpException AuthenticatedPrincipal :=
  requireAdmin (getCurrentPrincipal jwt settings credentials)

end Verifiers

end Billing

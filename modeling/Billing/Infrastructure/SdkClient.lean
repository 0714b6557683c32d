/-
  The SDK client (`mercado_pago_sdk_client.py`): what its `_execute` makes of a call's outcome.

  The SDK itself is not part of the service.  A call of it returns some value or raises an exception
  of which only two attributes are read, so its outcome is an `SdkResult`; a value that `json` does not
  know can only be told from the others in that it is neither a dictionary nor an integer, and stands
  here as `None`.
-/
import Billing.Infrastructure.Gateways

namespace Billing

open Py

/-- The attributes of an SDK exception that are read; `None` where it does not have one. -/
structure SdkException where
  /-- `status_code`. -/
  statusCode : Json
  /-- `status`. -/
  status : Json

/-- What a call of the SDK comes to. -/
inductive SdkResult where
  /-- It returns a value. -/
  | returns (result : Json)
  /-- It raises an exception. -/
  | raises (exc : SdkException)

/-- The integer that a value is: `isinstance(value, int)`, which the two truth values are as well. -/
def asInt : Json → Option Int
  | .int n => some n
  | .bool b => some (if b then 1 else 0)
  | _ => none

namespace MercadoPagoSdkClient

variable [Python]

/-- `_status_message`. -/
def statusMessage (statusCode : Json) : String :=
  if asInt statusCode = some 401 ∨ asInt statusCode = some 403 then
    "Mercado Pago request was rejected. Check whether " ++
      "MERCADO_PAGO_ACCESS_TOKEN is valid for the configured environment."
  else "Mercado Pago request failed with status " ++ statusCode.text ++ "."

/-- `_translate_error`. -/
def translateError (exc : SdkException) : Exc :=
  let statusCode := exc.statusCode
  let statusCode := if (asInt statusCode).isSome then statusCode else exc.status
  let statusCode := if (asInt statusCode).isSome then statusCode else .int 502
  .paymentGatewayError (statusMessage statusCode) (asInt statusCode)

/-- `_execute`. -/
def execute : SdkResult → Except Exc (Dict Json)
  | .raises exc => .error (translateError exc)
  | .returns (.dict result) =>
    let statusCode := getOrNone result "status"
    if (asInt statusCode).any fun n => decide (400 ≤ n) then
      .error (.paymentGatewayError (statusMessage statusCode) (asInt statusCode))
    else
      match getOrNone result "response" with
      | .dict response => .ok response
      | _ => .error (.paymentGatewayError "Mercado Pago SDK returned an invalid response." (some 502))
  | .returns _ =>
    .error (.paymentGatewayError "Mercado Pago SDK returned an invalid response." (some 502))

end MercadoPagoSdkClient

/-- `MercadoPagoSdkClient`, over the SDK whose calls come to `sdk`. -/
def mercadoPagoSdkClient [Python] (sdk : SdkCall → SdkResult) (call : SdkCall) : Except Exc (Dict Json) :=
  MercadoPagoSdkClient.execute (sdk call)

/-! ## What it answers -/

/-- The call returned this response, and no error status. -/
def SdkResult.AnsweredWith (outcome : SdkResult) (response : Dict Json) : Prop :=
  ∃ result, outcome = .returns (.dict result) ∧ getOrNone result "response" = .dict response ∧
    ∀ n, asInt (getOrNone result "status") = some n → n < 400

namespace MercadoPagoSdkClient

variable [Python]

/-- **A response is handed on exactly when there is one.** -/
theorem execute_eq_ok {outcome : SdkResult} {response : Dict Json} :
    execute outcome = .ok response ↔ outcome.AnsweredWith response := by
  constructor
  · intro h
    unfold execute at h
    split at h
    · cases h
    · rename_i result
      simp only at h
      split at h
      · cases h
      · rename_i hstatus
        split at h
        · rename_i response' hresponse
          obtain rfl := Except.ok.inj h
          refine ⟨result, rfl, hresponse, fun n hn => ?_⟩
          rw [hn, Option.any_some, decide_eq_true_eq] at hstatus
          omega
        · cases h
    · cases h
  · rintro ⟨result, rfl, hresponse, hstatus⟩
    have hfine : ¬ (asInt (getOrNone result "status")).any (fun n => decide (400 ≤ n)) = true := by
      intro hany
      cases hn : asInt (getOrNone result "status") with
      | none => rw [hn] at hany; cases hany
      | some n =>
        rw [hn, Option.any_some, decide_eq_true_eq] at hany
        have hlt := hstatus n hn
        omega
    unfold execute
    simp only
    rw [if_neg hfine, hresponse]

/-- **Whatever the SDK does otherwise is an error of the gateway.** -/
theorem execute_error {outcome : SdkResult} {e : Exc} (h : execute outcome = .error e) :
    ∃ message code, e = .paymentGatewayError message code := by
  unfold execute at h
  split at h
  · exact ⟨_, _, (Except.error.inj h).symm⟩
  · simp only at h
    split at h
    · exact ⟨_, _, (Except.error.inj h).symm⟩
    · split at h
      · cases h
      · exact ⟨_, _, (Except.error.inj h).symm⟩
  · exact ⟨_, _, (Except.error.inj h).symm⟩

end MercadoPagoSdkClient

end Billing

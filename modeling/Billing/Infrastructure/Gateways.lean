/-
  The payment gateways (`fake_payment_gateway.py` and `mercado_pago_checkout_adapter.py`).

  `MercadoPagoCheckoutAdapter.get_payment_status` makes one call and then only looks at the answer;
  that part is the function `readSearch`, and `readSearch_eq_ok` says what an answer must have looked
  like for it to return: the one place where later proofs learn anything about the provider.
-/
import Billing.Application.Ports

namespace Billing

open Py Atomic Program

/-! ## FakePaymentGateway -/

/-- `FakePaymentGateway`. -/
def fakePaymentGateway : PaymentGateway where
  createCheckoutPreference _ quoteId serviceOrderId _ :=
    return ⟨"fake-" ++ quoteId, "https://checkout.local/" ++ serviceOrderId, some serviceOrderId⟩
  getPaymentStatus _ := raise (.paymentGatewayError
    "Payment status synchronization is available only in Mercado Pago mode." (some 501))

/-! ## MercadoPagoCheckoutAdapter -/

/-- `MercadoPagoCheckoutSettings`, as far as the adapter reads them, with the check of its
    constructor. -/
structure MercadoPagoCheckoutSettings where
  /-- `access_token`. -/
  accessToken : String
  /-- `success_url`. -/
  successUrl : String
  /-- `failure_url`. -/
  failureUrl : String
  /-- `pending_url`. -/
  pendingUrl : String
  /-- The access token is not blank. -/
  token : strip accessToken ≠ ""

/-- `d.get(key)`, which is `None` for a key that is not there. -/
def getOrNone (d : Dict Json) (key : String) : Json := (d.get? key).getD .null

/-- `str(d.get(key, ""))`. -/
def getText [Python] (d : Dict Json) (key : String) : String := ((d.get? key).getD (.str "")).text

namespace MercadoPagoCheckoutAdapter

variable [Python]

/-- The payload of a preference. -/
def preferencePayload (settings : MercadoPagoCheckoutSettings) (quoteId serviceOrderId : String)
    (total : Money) : Dict Json :=
  [("external_reference", .str serviceOrderId),
    ("items", .list [.dict
      [("id", .str quoteId),
        ("title", .str ("Service order " ++ serviceOrderId)),
        ("quantity", .int 1),
        ("currency_id", .str total.currency),
        ("unit_price", .float (Python.float total.amount))]]),
    ("back_urls", .dict
      [("success", .str settings.successUrl),
        ("failure", .str settings.failureUrl),
        ("pending", .str settings.pendingUrl)])]

/-- `response.get("init_point") or response.get("sandbox_init_point")`. -/
def checkoutUrlOf (response : Dict Json) : Json :=
  let initPoint := getOrNone response "init_point"
  if initPoint.truthy then initPoint else getOrNone response "sandbox_init_point"

/-- The rest of `create_checkout_preference`, after the call. -/
def readPreference (serviceOrderId : String) (response : Dict Json) : Except Exc PaymentPreference :=
  let preferenceId := strip (getText response "id")
  let checkoutUrl := checkoutUrlOf response
  if preferenceId = "" then
    .error (.valueError "Mercado Pago preference response did not include an id")
  else if !checkoutUrl.truthy then
    .error (.valueError "Mercado Pago preference response did not include checkout URL")
  else .ok ⟨preferenceId, checkoutUrl.text, some serviceOrderId⟩

/-- `create_checkout_preference`. -/
def createCheckoutPreference (settings : MercadoPagoCheckoutSettings)
    (newIdempotencyKey quoteId serviceOrderId : String) (total : Money) :
    Program sdk Exc PaymentPreference := do
  let response ← perform (σ := sdk)
    (.createPreference (preferencePayload settings quoteId serviceOrderId total) newIdempotencyKey)
  ofExcept (readPreference serviceOrderId response)

/-- The dictionary entries of a result list whose external reference is the given one. -/
def matching (externalReference : String) (results : List Json) : List (Dict Json) :=
  results.filterMap fun
    | .dict item => if getText item "external_reference" = externalReference then some item else none
    | _ => none

/-- `provider_amount is None or Decimal(str(provider_amount)) != total.amount`. -/
def amountDiffers (providerAmount : Json) (total : Money) : Except Exc Bool :=
  match providerAmount with
  | .null => .ok true
  | j =>
    match Decimal.ofText j.text with
    | none => .error .invalidOperation
    | some d =>
      match d.eq total.amount with
      | none => .error .invalidOperation
      | some same => .ok !same

/-- `response.get("results")`, which must be a list. -/
def resultsOf (response : Dict Json) : Except Exc (List Json) :=
  match getOrNone response "results" with
  | .list results => .ok results
  | _ => .error (.paymentGatewayError
      "Mercado Pago payment search returned an invalid response." (some 502))

/-- The one entry that carries the reference. -/
def onlyMatch (externalReference : String) (results : List Json) : Except Exc (Dict Json) :=
  match matching externalReference results with
  | [] => .error (.paymentGatewayError
      "No Mercado Pago payment was found for this payment." (some 404))
  | [item] => .ok item
  | _ => .error (.paymentGatewayError
      "More than one Mercado Pago payment matches this external reference." (some 409))

/-- The checks of the entry, and the status that is read off it. -/
def statusOf (total : Money) (providerPayment : Dict Json) : Except Exc PaymentProviderStatus :=
  match amountDiffers (getOrNone providerPayment "transaction_amount") total with
  | .error e => .error e
  | .ok true => .error (.paymentGatewayError
      "Mercado Pago payment amount does not match the billing amount." (some 409))
  | .ok false =>
    if getText providerPayment "currency_id" ≠ total.currency then
      .error (.paymentGatewayError
        "Mercado Pago payment currency does not match the billing currency." (some 409))
    else
      let providerPaymentId := strip (getText providerPayment "id")
      let providerStatus := strip (getText providerPayment "status")
      if providerPaymentId = "" ∨ providerStatus = "" then
        .error (.paymentGatewayError
          "Mercado Pago payment response is missing id or status." (some 502))
      else
        .ok ⟨providerPaymentId, providerStatus,
          match getOrNone providerPayment "status_detail" with
          | .null => none
          | detail => some detail.text⟩

/-- The rest of `get_payment_status`, after the call. -/
def readSearch (total : Money) (externalReference : String) (response : Dict Json) :
    Except Exc PaymentProviderStatus := do
  let results ← resultsOf response
  let providerPayment ← onlyMatch externalReference results
  statusOf total providerPayment

/-- The check at the beginning of `get_payment_status`. -/
def externalReferenceOf (payment : Payment) : Except Exc String :=
  match payment.preference.bind PaymentPreference.externalReference with
  | none => .error (.paymentGatewayError "Payment has no Mercado Pago external reference." (some 422))
  | some externalReference =>
    if externalReference = "" then
      .error (.paymentGatewayError "Payment has no Mercado Pago external reference." (some 422))
    else .ok externalReference

/-- The filters of the search. -/
def searchFilters (externalReference : String) : Dict String :=
  [("external_reference", externalReference), ("sort", "date_created"), ("criteria", "desc")]

/-- `get_payment_status`. -/
def getPaymentStatus (payment : Payment) : Program sdk Exc PaymentProviderStatus := do
  let externalReference ← ofExcept (externalReferenceOf payment)
  let response ← perform (σ := sdk) (.searchPayments (searchFilters externalReference))
  ofExcept (readSearch payment.total externalReference response)

end MercadoPagoCheckoutAdapter

/-- `MercadoPagoCheckoutAdapter`. -/
def mercadoPagoCheckoutAdapter [Python] (settings : MercadoPagoCheckoutSettings) : PaymentGateway where
  createCheckoutPreference := MercadoPagoCheckoutAdapter.createCheckoutPreference settings
  getPaymentStatus := MercadoPagoCheckoutAdapter.getPaymentStatus

/-- `build_payment_gateway`: `PAYMENT_PROVIDER_MODE == "mercado_pago"`, with these settings, or not. -/
def buildPaymentGateway [Python] : Option MercadoPagoCheckoutSettings → PaymentGateway
  | some settings => mercadoPagoCheckoutAdapter settings
  | none => fakePaymentGateway

/-! ## What the answers must have looked like -/

namespace MercadoPagoCheckoutAdapter

variable [Python]

theorem readPreference_eq_ok {serviceOrderId : String} {response : Dict Json}
    {pref : PaymentPreference} (h : readPreference serviceOrderId response = .ok pref) :
    pref.externalReference = some serviceOrderId := by
  unfold readPreference at h
  simp only at h
  split at h
  · cases h
  · split at h
    · cases h
    · cases h; rfl

omit [Python] in
theorem externalReferenceOf_eq_ok {payment : Payment} {r : String}
    (h : externalReferenceOf payment = .ok r) :
    ∃ pref, payment.preference = some pref ∧ pref.externalReference = some r := by
  unfold externalReferenceOf at h
  split at h
  · cases h
  · rename_i r' hr
    split at h
    · cases h
    · cases h
      exact Option.bind_eq_some_iff.mp hr

theorem amountDiffers_eq_false {providerAmount : Json} {total : Money}
    (h : amountDiffers providerAmount total = .ok false) :
    providerAmount ≠ .null ∧
      ∃ d, Decimal.ofText providerAmount.text = some d ∧ d.SameNumber total.amount := by
  unfold amountDiffers at h
  split at h
  · cases h
  · rename_i hne
    split at h
    · cases h
    · rename_i d hd
      split at h
      · cases h
      · rename_i same hs
        have hsame : same = true := by
          cases same with
          | false => cases h
          | true => rfl
        subst hsame
        exact ⟨hne, d, hd, Decimal.eq_true_iff.mp hs⟩

omit [Python] in
theorem resultsOf_eq_ok {response : Dict Json} {results : List Json}
    (h : resultsOf response = .ok results) : getOrNone response "results" = .list results := by
  unfold resultsOf at h
  split at h
  · rename_i rs hrs
    cases h
    exact hrs
  · cases h

theorem mem_matching {r : String} {results : List Json} {item : Dict Json} :
    item ∈ matching r results ↔ .dict item ∈ results ∧ getText item "external_reference" = r := by
  unfold matching
  rw [List.mem_filterMap]
  constructor
  · rintro ⟨j, hj, h⟩
    split at h
    · split at h
      · rename_i hr
        cases h
        exact ⟨hj, hr⟩
      · cases h
    · cases h
  · rintro ⟨hmem, hr⟩
    exact ⟨_, hmem, if_pos hr⟩

theorem onlyMatch_eq_ok {r : String} {results : List Json} {item : Dict Json}
    (h : onlyMatch r results = .ok item) : matching r results = [item] := by
  unfold onlyMatch at h
  split at h
  · cases h
  · rename_i it hit
    cases h
    exact hit
  · cases h

theorem statusOf_eq_ok {total : Money} {item : Dict Json} {st : PaymentProviderStatus}
    (h : statusOf total item = .ok st) :
    (∃ d, Decimal.ofText (getOrNone item "transaction_amount").text = some d ∧
      d.SameNumber total.amount) ∧ getText item "currency_id" = total.currency ∧
      st.providerPaymentId = strip (getText item "id") ∧
      st.status = strip (getText item "status") := by
  unfold statusOf at h
  split at h
  · cases h
  · cases h
  · rename_i hamount
    split at h
    · cases h
    · rename_i hcur
      simp only at h
      split at h
      · cases h
      · cases h
        exact ⟨(amountDiffers_eq_false hamount).2, not_not.mp hcur, rfl, rfl⟩

/-- **What an accepted search looked like**: one entry carries the reference, and its amount, its
    currency and its status are what the check let through. -/
theorem readSearch_eq_ok {total : Money} {r : String} {response : Dict Json}
    {st : PaymentProviderStatus} (h : readSearch total r response = .ok st) :
    ∃ results item, getOrNone response "results" = .list results ∧ matching r results = [item] ∧
      statusOf total item = .ok st := by
  unfold readSearch at h
  cases hres : resultsOf response with
  | error e => rw [hres] at h; cases h
  | ok results =>
    rw [hres, ok_bind] at h
    cases hm : onlyMatch r results with
    | error e => rw [hm] at h; cases h
    | ok item =>
      rw [hm, ok_bind] at h
      exact ⟨results, item, resultsOf_eq_ok hres, onlyMatch_eq_ok hm, h⟩

end MercadoPagoCheckoutAdapter

end Billing

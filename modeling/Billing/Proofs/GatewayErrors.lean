/-
  What becomes of the provider's faults.

  An answer of the SDK is looked at in three places: in the SDK client, in the adapter, and in the
  route that turns exceptions into statuses.  A fault should come out as a `PaymentGatewayError`
  (`FromGateway`).  It does not in two cases: an amount that `Decimal` cannot read
  (`status_from_gateway_iff`), and a preference without an id or a checkout URL
  (`approve_blames_provider_iff`).
-/
import Billing.Infrastructure.SdkClient
import Billing.Presentation.Routes
import Billing.Proofs.Alone
import Billing.Proofs.Searches

namespace Billing

open Py Atomic Program MercadoPagoCheckoutAdapter MercadoPagoSdkClient

section Search

variable [Python] {payment : Payment} {total : Money} {item : Dict Json} {e : Exc}

/-- The payment has this external reference at the provider. -/
def Payment.HasReference (payment : Payment) (r : String) : Prop :=
  ∃ pref, payment.preference = some pref ∧ pref.externalReference = some r ∧ r ≠ ""

omit [Python] in
theorem externalReferenceOf_iff {r : String} :
    externalReferenceOf payment = .ok r ↔ payment.HasReference r := by
  constructor
  · intro h
    obtain ⟨pref, hpref, href⟩ := externalReferenceOf_eq_ok h
    refine ⟨pref, hpref, href, ?_⟩
    rintro rfl
    unfold externalReferenceOf at h
    rw [hpref, show (some pref).bind PaymentPreference.externalReference = some "" from href] at h
    cases h
  · rintro ⟨pref, hpref, href, hr⟩
    unfold externalReferenceOf
    rw [hpref, show (some pref).bind PaymentPreference.externalReference = some r from href]
    exact if_neg hr

variable {sdk : SdkCall → SdkResult}

end Search

section SearchSamples

open Sample

end SearchSamples

/-! ## Preferences -/

section Preference

variable [Python] {serviceOrderId : String} {response : Dict Json}

/-- The response has no id, or a blank one. -/
def Nameless (response : Dict Json) : Prop := strip (getText response "id") = ""

/-- The response has no checkout URL: neither of the two fields counts as true. -/
def Unlinked (response : Dict Json) : Prop :=
  (getOrNone response "init_point").truthy = false ∧
    (getOrNone response "sandbox_init_point").truthy = false

omit [Python] in
theorem checkoutUrlOf_truthy :
    (checkoutUrlOf response).truthy = false ↔ Unlinked response := by
  unfold checkoutUrlOf Unlinked
  cases hinit : (getOrNone response "init_point").truthy with
  | true =>
    simp only [hinit, if_true, Bool.true_eq_false, false_and]
  | false =>
    simp only [hinit, Bool.false_eq_true, if_false, true_and]

/-- **A preference is read off every response that has an id and a checkout URL**, and the others are
    refused with a `ValueError`. -/
theorem readPreference_cases (serviceOrderId : String) (response : Dict Json) :
    ((Nameless response ∨ Unlinked response) ∧
        ∃ text, readPreference serviceOrderId response = .error (.valueError text)) ∨
      (¬ (Nameless response ∨ Unlinked response) ∧
        readPreference serviceOrderId response = .ok ⟨strip (getText response "id"),
          (checkoutUrlOf response).text, some serviceOrderId⟩) := by
  unfold readPreference
  by_cases hid : Nameless response
  · exact Or.inl ⟨Or.inl hid, _, if_pos hid⟩
  · by_cases hurl : Unlinked response
    · refine Or.inl ⟨Or.inr hurl, "Mercado Pago preference response did not include checkout URL", ?_⟩
      have hurl' : (!(checkoutUrlOf response).truthy) = true := by
        rw [checkoutUrlOf_truthy.mpr hurl]
        rfl
      exact (if_neg hid).trans (if_pos hurl')
    · refine Or.inr ⟨not_or.mpr ⟨hid, hurl⟩, ?_⟩
      have hurl' : ¬ (!(checkoutUrlOf response).truthy) = true := by
        intro h
        exact hurl (checkoutUrlOf_truthy.mp (Bool.not_eq_true' _ ▸ h))
      exact (if_neg hid).trans (if_neg hurl')

variable {b : Backend} {w : World b} {q : Quote} {quoteId : String}

/-- The call that asks for a preference of the quote. -/
def preferenceCall (settings : MercadoPagoCheckoutSettings) (q : Quote) (supply : Supply) : SdkCall :=
  .createPreference (preferencePayload settings q.quoteId q.serviceOrderId q.total)
    supply.idempotencyKey

/-- The client hands on a response, but one without an id or without a checkout URL. -/
def RefusedPreference (outcome : SdkResult) : Prop :=
  ∃ response, outcome.AnsweredWith response ∧ (Nameless response ∨ Unlinked response)

/-- The answer is `200` with a payment that waits for its money, or `502`. -/
def Answer.BlamesProvider (answer : Answer) : Prop :=
  (∃ p : Payment, p.status = .pending ∧ answer = .ok (paymentToResponse p)) ∨
    ∃ detail, answer = .failed 502 detail

/-- The answer of an approval is that of its preference. -/
theorem approve_answer (settings : MercadoPagoCheckoutSettings) (sdk : SdkCall → SdkResult)
    (supply : Supply) (hstored : b.quoteGet w.store quoteId = .ok q) (hcreated : q.status = .created) :
    (w.approveQuote (mercadoPagoCheckoutAdapter settings) (mercadoPagoSdkClient sdk) quoteId supply).1 =
      approveQuoteAnswer (((execute (sdk (preferenceCall settings q supply))) >>=
        readPreference q.serviceOrderId).map (q.opened supply.paymentId)) := by
  unfold World.approveQuote
  rw [run_approve]
  unfold ApproveQuoteUseCase.outcome
  rw [hstored]
  simp only [if_neg (not_not.mpr hcreated)]
  rw [given_createCheckoutPreference]
  rw [show mercadoPagoSdkClient sdk (.createPreference
    (preferencePayload settings q.quoteId q.serviceOrderId q.total) supply.idempotencyKey) =
      execute (sdk (preferenceCall settings q supply)) from rfl]
  cases (execute (sdk (preferenceCall settings q supply)) >>= readPreference q.serviceOrderId :
    Except Exc PaymentPreference) with
  | error e => rfl
  | ok preference => rfl

/-- **An approval answers `200` or `502` exactly when the response, if there is one, has an id and a
    checkout URL.** -/
theorem approve_blames_provider_iff (settings : MercadoPagoCheckoutSettings)
    (sdk : SdkCall → SdkResult) (supply : Supply) (hstored : b.quoteGet w.store quoteId = .ok q)
    (hcreated : q.status = .created) :
    (w.approveQuote (mercadoPagoCheckoutAdapter settings) (mercadoPagoSdkClient sdk) quoteId
        supply).1.BlamesProvider ↔ ¬ RefusedPreference (sdk (preferenceCall settings q supply)) := by
  rw [approve_answer settings sdk supply hstored hcreated]
  cases hanswer : execute (sdk (preferenceCall settings q supply)) with
  | error e =>
    have hnone : ¬ RefusedPreference (sdk (preferenceCall settings q supply)) := by
      rintro ⟨response, hanswered, -⟩
      rw [execute_eq_ok.mpr hanswered] at hanswer
      cases hanswer
    obtain ⟨message, code, rfl⟩ := execute_error hanswer
    exact ⟨fun _ => hnone, fun _ => Or.inr ⟨message, rfl⟩⟩
  | ok response =>
    have hanswered := execute_eq_ok.mp hanswer
    rw [ok_bind]
    rcases readPreference_cases q.serviceOrderId response with ⟨hbad, text, hread⟩ | ⟨hgood, hread⟩
    · rw [hread]
      constructor
      · rintro (⟨p, -, h⟩ | ⟨detail, h⟩)
        · cases h
        · cases h
      · intro h
        exact absurd ⟨response, hanswered, hbad⟩ h
    · rw [hread]
      constructor
      · rintro - ⟨response', hanswered', hbad⟩
        have hresponse := execute_eq_ok.mpr hanswered'
        obtain rfl := Except.ok.inj (hanswer.symm.trans hresponse)
        exact hgood hbad
      · intro _
        exact Or.inl ⟨_, rfl, rfl⟩

end Preference

section PreferenceSamples

open Sample

/-- A created quote is stored. -/
def Sample.quotedWorld : World memory :=
  ⟨InMemoryQuoteRepository.save .empty
    ⟨"os-1", ["oil"], price, "quote-1", .created⟩, [], [], []⟩

/-- The SDK answers with this. -/
def Sample.sdkAnswers (response : Dict Json) : SdkCall → SdkResult := fun _ =>
  .returns (.dict [("status", .int 201), ("response", .dict response)])

theorem approve_blames_client :
    ¬ (quotedWorld.approveQuote (mercadoPagoCheckoutAdapter settings)
      (mercadoPagoSdkClient (sdkAnswers [])) "quote-1" (supply "1")).1.BlamesProvider ∧
    (quotedWorld.approveQuote (mercadoPagoCheckoutAdapter settings)
      (mercadoPagoSdkClient (sdkAnswers [])) "quote-1" (supply "1")).1.statusCode = 400 := by
  refine ⟨?_, rfl⟩
  rintro (⟨p, -, h⟩ | ⟨detail, h⟩)
  · cases h
  · cases h

theorem approve_blames_provider_linked :
    (quotedWorld.approveQuote (mercadoPagoCheckoutAdapter settings) (mercadoPagoSdkClient
      (sdkAnswers [("id", .str "pref-1"), ("init_point", .str "/pay")])) "quote-1"
        (supply "1")).1.BlamesProvider := by
  refine (approve_blames_provider_iff settings _ (supply "1")
    (show memory.quoteGet quotedWorld.store "quote-1" = .ok _ from rfl) rfl).mpr ?_
  rintro ⟨response, ⟨result, hresult, hresponse, -⟩, hbad⟩
  cases hresult
  cases hresponse
  rcases hbad with hid | ⟨hurl, -⟩
  · have hblank : strip "pref-1" = "" := hid
    exact absurd hblank (by decide)
  · cases hurl

end PreferenceSamples

/-! ## Identities -/

section Identity

variable [Python] {d : Dict Json} {key : String} {total : Money} {item : Dict Json}

/-- The field is there, is not null, and is not blank. -/
def Identified (d : Dict Json) (key : String) : Prop :=
  ∃ value, d.get? key = some value ∧ value ≠ .null ∧ strip value.text ≠ ""

/-- **A null passes for a text**, namely for `None`. -/
theorem getText_not_blank :
    strip (getText d key) ≠ "" ↔ Identified d key ∨ d.get? key = some .null := by
  unfold getText Identified
  cases hget : d.get? key with
  | none =>
    have hblank : strip "" = "" := by decide
    constructor
    · intro h
      exact absurd hblank h
    · rintro (⟨value, hvalue, -⟩ | hnull)
      · cases hvalue
      · cases hnull
  | some value =>
    by_cases hnull : value = .null
    · have hnone : strip "None" ≠ "" := by decide
      rw [hnull]
      exact ⟨fun _ => Or.inr rfl, fun _ => hnone⟩
    · constructor
      · intro h
        exact Or.inl ⟨value, rfl, hnull, h⟩
      · rintro (⟨value', hvalue, -, h⟩ | h)
        · obtain rfl := Option.some.inj hvalue
          exact h
        · exact absurd (Option.some.inj h) hnull

/-- The amount of the entry is the payment's, and so is its currency. -/
structure Billed (total : Money) (item : Dict Json) : Prop where
  given : getOrNone item "transaction_amount" ≠ .null
  amount : ∃ d, Decimal.ofText (getOrNone item "transaction_amount").text = some d ∧
    d.SameNumber total.amount
  currency : getText item "currency_id" = total.currency

/-- An entry's status can be read exactly when it is billed, and neither its id nor its status is
    blank. -/
theorem statusOf_isOk : (∃ st, statusOf total item = .ok st) ↔
    Billed total item ∧ strip (getText item "id") ≠ "" ∧ strip (getText item "status") ≠ "" := by
  constructor
  · rintro ⟨st, h⟩
    unfold statusOf at h
    split at h
    · cases h
    · cases h
    · rename_i hamount
      obtain ⟨hnull, hsame⟩ := amountDiffers_eq_false hamount
      simp only at h
      split_ifs at h with hcurrency hblank
      exact ⟨⟨hnull, hsame, not_not.mp hcurrency⟩, not_or.mp hblank⟩
  · rintro ⟨⟨hnull, ⟨d, hread, hsame⟩, hcurrency⟩, hid, hstatus⟩
    have hamount : amountDiffers (getOrNone item "transaction_amount") total = .ok false := by
      unfold amountDiffers
      split
      · rename_i heq
        exact absurd heq hnull
      · rw [hread]
        simp only [Decimal.eq_true_iff.mpr hsame, Bool.not_true]
    unfold statusOf
    rw [hamount]
    simp only
    rw [if_neg (not_not.mpr hcurrency), if_neg (not_or.mpr ⟨hid, hstatus⟩)]
    exact ⟨_, rfl⟩

variable {payment : Payment} {response : Dict Json}

/-- The entry of the response that carries the payment's reference, if it is the only one. -/
def MatchedEntry (payment : Payment) (response item : Dict Json) : Prop :=
  ∃ r results, payment.HasReference r ∧ getOrNone response "results" = .list results ∧
    results.filter (carries r) = [.dict item]

/-- There is one such entry at most. -/
theorem MatchedEntry.unique {item' : Dict Json} (h : MatchedEntry payment response item)
    (h' : MatchedEntry payment response item') : item = item' := by
  obtain ⟨r, results, ⟨pref, hpref, href, -⟩, hresults, hitem⟩ := h
  obtain ⟨r', results', ⟨pref', hpref', href', -⟩, hresults', hitem'⟩ := h'
  obtain rfl := Option.some.inj (hpref.symm.trans hpref')
  obtain rfl := Option.some.inj (href.symm.trans href')
  obtain rfl := Json.list.inj (hresults.symm.trans hresults')
  have hlist := hitem.symm.trans hitem'
  exact Json.dict.inj (List.singleton_injective hlist)

/-- A search that is answered with a status was answered with the status of the matched entry. -/
theorem given_matched {st : PaymentProviderStatus} :
    SdkAnswers.given (fun _ => .ok response) (getPaymentStatus payment) = .ok st ↔
      ∃ item, MatchedEntry payment response item ∧ statusOf payment.total item = .ok st := by
  constructor
  · intro h
    rw [given_getPaymentStatus] at h
    cases href : externalReferenceOf payment with
    | error e => rw [href] at h; cases h
    | ok r =>
      rw [href, ok_bind, ok_bind] at h
      obtain ⟨results, item, hresults, hitem, hst⟩ := readSearch_eq_ok h
      have honly : onlyMatch r results = .ok item := by
        unfold onlyMatch
        rw [hitem]
      exact ⟨item, ⟨r, results, externalReferenceOf_iff.mp href, hresults, onlyMatch_iff.mp honly⟩, hst⟩
  · rintro ⟨item, ⟨r, results, ⟨pref, hpref, href, hr⟩, hresults, hitem⟩, hst⟩
    rw [given_search hpref href hr rfl hresults, onlyMatch_iff.mpr hitem, ok_bind, hst]

/-- The response is one of a preference with a checkout URL, and its id is null. -/
def NullPreference (response : Dict Json) : Prop :=
  response.get? "id" = some .null ∧ ¬ Unlinked response

/-- The matched entry is billed, and its id or its status is null. -/
def NullStatus (payment : Payment) (response : Dict Json) : Prop :=
  ∃ item, MatchedEntry payment response item ∧ Billed payment.total item ∧
    strip (getText item "id") ≠ "" ∧ strip (getText item "status") ≠ "" ∧
    (item.get? "id" = some .null ∨ item.get? "status" = some .null)

/-- **A preference has an identity exactly when the id is not null.** -/
theorem preference_identified_iff (settings : MercadoPagoCheckoutSettings)
    (newIdempotencyKey quoteId serviceOrderId : String) (total : Money) (response : Dict Json) :
    (∀ pref, SdkAnswers.given (fun _ => .ok response) ((mercadoPagoCheckoutAdapter
        settings).createCheckoutPreference newIdempotencyKey quoteId serviceOrderId total) = .ok pref →
      Identified response "id") ↔ ¬ NullPreference response := by
  rw [given_createCheckoutPreference, ok_bind]
  rcases readPreference_cases serviceOrderId response with ⟨hbad, text, hread⟩ | ⟨hgood, hread⟩
  · have hnot : ¬ NullPreference response := by
      rintro ⟨hnull, hlinked⟩
      rcases hbad with hid | hurl
      · exact getText_not_blank.mpr (Or.inr hnull) hid
      · exact hlinked hurl
    refine ⟨fun _ => hnot, fun _ pref hpref => ?_⟩
    rw [hread] at hpref
    cases hpref
  · obtain ⟨hid, hlinked⟩ := not_or.mp hgood
    constructor
    · rintro h ⟨hnull, -⟩
      obtain ⟨value, hvalue, hne, -⟩ := h _ hread
      rw [hnull] at hvalue
      exact hne (Option.some.inj hvalue).symm
    · intro h pref _
      rcases getText_not_blank.mp hid with hidentified | hnull
      · exact hidentified
      · exact absurd ⟨hnull, hlinked⟩ h

/-- **A status has an identity exactly when neither the entry's id nor its status is null.** -/
theorem status_identified_iff (payment : Payment) (response : Dict Json) :
    (∀ st, SdkAnswers.given (fun _ => .ok response) (getPaymentStatus payment) = .ok st →
      ∃ item, MatchedEntry payment response item ∧ Identified item "id" ∧ Identified item "status") ↔
    ¬ NullStatus payment response := by
  constructor
  · rintro h ⟨item, hmatched, hbilled, hid, hstatus, hnull⟩
    obtain ⟨st, hst⟩ := statusOf_isOk.mpr ⟨hbilled, hid, hstatus⟩
    obtain ⟨item', hmatched', ⟨id, hitemId, hidNull, -⟩, ⟨status, hitemStatus, hstatusNull, -⟩⟩ :=
      h st (given_matched.mpr ⟨item, hmatched, hst⟩)
    obtain rfl := hmatched.unique hmatched'
    rcases hnull with hnull | hnull
    · rw [hnull] at hitemId
      exact hidNull (Option.some.inj hitemId).symm
    · rw [hnull] at hitemStatus
      exact hstatusNull (Option.some.inj hitemStatus).symm
  · intro h st hgiven
    obtain ⟨item, hmatched, hst⟩ := given_matched.mp hgiven
    obtain ⟨hbilled, hid, hstatus⟩ := statusOf_isOk.mp ⟨st, hst⟩
    refine ⟨item, hmatched, ?_, ?_⟩
    · rcases getText_not_blank.mp hid with hidentified | hnull
      · exact hidentified
      · exact absurd ⟨item, hmatched, hbilled, hid, hstatus, Or.inl hnull⟩ h
    · rcases getText_not_blank.mp hstatus with hidentified | hnull
      · exact hidentified
      · exact absurd ⟨item, hmatched, hbilled, hid, hstatus, Or.inr hnull⟩ h

/-- **Both operations refuse what has no identity, except where it is null.** -/
theorem identities_iff (settings : MercadoPagoCheckoutSettings)
    (newIdempotencyKey quoteId serviceOrderId : String) (total : Money) (payment : Payment)
    (response : Dict Json) :
    ((∀ pref, SdkAnswers.given (fun _ => .ok response) ((mercadoPagoCheckoutAdapter
        settings).createCheckoutPreference newIdempotencyKey quoteId serviceOrderId total) = .ok pref →
      Identified response "id") ↔ ¬ NullPreference response) ∧
    ((∀ st, SdkAnswers.given (fun _ => .ok response) (getPaymentStatus payment) = .ok st →
      ∃ item, MatchedEntry payment response item ∧ Identified item "id" ∧ Identified item "status") ↔
    ¬ NullStatus payment response) :=
  ⟨preference_identified_iff settings newIdempotencyKey quoteId serviceOrderId total response,
    status_identified_iff payment response⟩

end Identity

section IdentitySamples

open Sample

/-- A preference without an id. -/
def Sample.nullPreference : Dict Json := [("id", .null), ("init_point", .str "/pay")]

theorem null_id_passes : SdkAnswers.given (fun _ => .ok nullPreference) ((mercadoPagoCheckoutAdapter
      settings).createCheckoutPreference "key-1" "quote-1" "os-1" searchedPayment.total) =
        .ok ⟨"None", "/pay", some "os-1"⟩ ∧ ¬ Identified nullPreference "id" := by
  refine ⟨rfl, ?_⟩
  rintro ⟨value, hvalue, hnull, -⟩
  exact hnull (Option.some.inj hvalue).symm

end IdentitySamples

end Billing

/-
  Which searches at the provider are accepted.

  Of a search's answer only the entries count that carry the payment's reference (`carries`); there
  must be one, and it must match (`Matches`).  `status_of_iff` is that for the entry,
  `search_accepted_iff` for the whole of `get_payment_status`; and since nothing but those entries is
  looked at, neither their order nor anything between them matters (`onlyMatch_perm`).
-/
import Billing.Lib.JsonNumber
import Billing.Session
import Billing.Infrastructure.Gateways

namespace Billing

open Py Atomic Program MercadoPagoCheckoutAdapter

section Search

variable [Python] {total : Money} {r : String} {item : Dict Json} {results : List Json}
  {st : PaymentProviderStatus}

/-! ## The entries that count -/

/-- A dictionary whose external reference is the given one. -/
def carries (externalReference : String) : Json → Bool
  | .dict item => decide (getText item "external_reference" = externalReference)
  | _ => false

/-- The entries that carry the reference are the ones that are looked at. -/
theorem filter_carries (r : String) (results : List Json) :
    results.filter (carries r) = (matching r results).map .dict := by
  induction results with
  | nil => rfl
  | cons j results ih =>
    unfold matching at ih ⊢
    cases j with
    | dict item =>
      by_cases hr : getText item "external_reference" = r
      · have hcarries : carries r (.dict item) = true := decide_eq_true hr
        rw [List.filter_cons_of_pos hcarries, List.filterMap_cons, ih]
        simp only [if_pos hr, List.map_cons]
      · have hcarries : ¬ carries r (.dict item) = true := by
          rw [show carries r (.dict item) = false from decide_eq_false hr]
          exact Bool.false_ne_true
        rw [List.filter_cons_of_neg hcarries, List.filterMap_cons, ih]
        simp only [if_neg hr]
    | _ => exact ih

theorem onlyMatch_iff : onlyMatch r results = .ok item ↔ results.filter (carries r) = [.dict item] := by
  rw [filter_carries]
  constructor
  · intro h
    rw [onlyMatch_eq_ok h]
    rfl
  · intro h
    obtain ⟨item', hitem, hdict⟩ := List.map_eq_singleton_iff.mp h
    obtain rfl := Json.dict.inj hdict
    unfold onlyMatch
    rw [hitem]

/-- Anything else is an error of the gateway. -/
theorem onlyMatch_error {e : Exc} (h : onlyMatch r results = .error e) :
    ∃ message code, e = .paymentGatewayError message code := by
  unfold onlyMatch at h
  split at h
  · exact ⟨_, _, (Except.error.inj h).symm⟩
  · cases h
  · exact ⟨_, _, (Except.error.inj h).symm⟩

/-- The lists have the same entries that carry the reference, in some order: one becomes the other by
    reordering, and by putting in and taking out entries that do not carry it. -/
def SameEntries (r : String) (results results' : List Json) : Prop :=
  (results.filter (carries r)).Perm (results'.filter (carries r))

/-- **Neither the order of the entries nor what is between them matters.** -/
theorem onlyMatch_perm {results' : List Json} (h : SameEntries r results results') :
    onlyMatch r results = onlyMatch r results' := by
  unfold SameEntries at h
  have hperm : (matching r results).Perm (matching r results') := by
    rw [filter_carries, filter_carries] at h
    exact (List.map_perm_map_iff fun _ _ hdict => Json.dict.inj hdict).mp h
  unfold onlyMatch
  cases hl : matching r results with
  | nil =>
    rw [hl] at hperm
    rw [List.nil_perm.mp hperm]
  | cons first rest =>
    rw [hl] at hperm
    cases rest with
    | nil => rw [List.singleton_perm.mp hperm]
    | cons second rest =>
      have hlength := hperm.length_eq
      rw [List.length_cons, List.length_cons] at hlength
      cases hl' : matching r results' with
      | nil => rw [hl'] at hlength; cases hlength
      | cons first' rest' =>
        cases rest' with
        | nil => rw [hl', List.length_singleton] at hlength; omega
        | cons second' rest' => rfl

/-! ## The one that is read -/

/-- The value is null or a number. -/
def NullOrNumber (j : Json) : Prop := j = .null ∨ j.number?.isSome = true

/-- What the entry must say for the status to be read off it. -/
structure Matches (total : Money) (item : Dict Json) (st : PaymentProviderStatus) : Prop where
  /-- Its amount is the payment's, as a number. -/
  amount : ∃ d, (getOrNone item "transaction_amount").number? = some d ∧ d.SameNumber total.amount
  /-- Its currency is the payment's. -/
  currency : getText item "currency_id" = total.currency
  /-- It has an id. -/
  id : strip (getText item "id") ≠ ""
  /-- It has a status. -/
  status : strip (getText item "status") ≠ ""
  /-- They are what is returned, with the detail. -/
  returned : st = ⟨strip (getText item "id"), strip (getText item "status"),
    match getOrNone item "status_detail" with
    | .null => none
    | detail => some detail.text⟩

omit [Python] in
/-- The amount of money can be compared with every number. -/
theorem eq_isSome {d : Decimal} (h : d ≠ .nan true) (total : Money) :
    ∃ same, d.eq total.amount = some same := by
  have hpositive := total.positive
  cases hamount : total.amount with
  | finite neg coeff exp => cases d <;> simp_all [Decimal.eq]
  | infinity neg => cases d <;> simp_all [Decimal.eq]
  | nan signaling => rw [hamount] at hpositive; cases hpositive

/-- A number differs from the amount or does not; it is never refused. -/
theorem amountDiffers_number {j : Json} {d : Decimal} (h : j.number? = some d) (total : Money) :
    ∃ differs, amountDiffers j total = .ok differs ∧ (differs = false ↔ d.SameNumber total.amount) := by
  obtain ⟨d', hread, halike, hquiet⟩ := Json.ofText_text_number h
  obtain ⟨same, hsame⟩ := eq_isSome hquiet total
  have hdiffers : amountDiffers j total = .ok !same := by
    cases j with
    | null => cases h
    | _ => simp only [amountDiffers, hread, hsame]
  refine ⟨!same, hdiffers, ?_⟩
  rw [← halike, ← Decimal.eq_true_iff, hsame]
  cases same <;> simp

theorem amountDiffers_nullOrNumber {j : Json} (h : NullOrNumber j) (total : Money) :
    ∃ differs, amountDiffers j total = .ok differs ∧
      (differs = false ↔ ∃ d, j.number? = some d ∧ d.SameNumber total.amount) := by
  rcases h with rfl | h
  · refine ⟨true, rfl, ⟨fun h => (by cases h), ?_⟩⟩
    rintro ⟨d, hd, -⟩
    cases hd
  · obtain ⟨d, hd⟩ := Option.isSome_iff_exists.mp h
    obtain ⟨differs, hdiffers, hiff⟩ := amountDiffers_number hd total
    refine ⟨differs, hdiffers, hiff.trans ⟨fun h => ⟨d, hd, h⟩, ?_⟩⟩
    rintro ⟨d', hd', h⟩
    obtain rfl := Option.some.inj (hd.symm.trans hd')
    exact h

/-- **The entry's status is read exactly when it matches**, and is an error of the gateway when not. -/
theorem status_of_iff (h : NullOrNumber (getOrNone item "transaction_amount")) :
    (∀ st, statusOf total item = .ok st ↔ Matches total item st) ∧
      ∀ e, statusOf total item = .error e → ∃ message code, e = .paymentGatewayError message code := by
  obtain ⟨differs, hdiffers, hiff⟩ := amountDiffers_nullOrNumber h total
  unfold statusOf
  rw [hdiffers]
  cases differs with
  | true =>
    refine ⟨fun st => ⟨fun h => (by cases h), fun hm => ?_⟩, fun e he => ⟨_, _, (Except.error.inj he).symm⟩⟩
    cases hiff.mpr hm.amount
  | false =>
    simp only
    by_cases hcurrency : getText item "currency_id" = total.currency
    · rw [if_neg (not_not.mpr hcurrency)]
      by_cases hblank : strip (getText item "id") = "" ∨ strip (getText item "status") = ""
      · rw [if_pos hblank]
        refine ⟨fun st => ⟨fun h => (by cases h), fun hm => ?_⟩,
          fun e he => ⟨_, _, (Except.error.inj he).symm⟩⟩
        exact (hblank.elim hm.id hm.status).elim
      · rw [if_neg hblank]
        refine ⟨fun st => ⟨fun h => ?_, fun hm => ?_⟩, fun e he => (by cases he)⟩
        · exact ⟨hiff.mp rfl, hcurrency, fun hid => hblank (Or.inl hid),
            fun hst => hblank (Or.inr hst), (Except.ok.inj h).symm⟩
        · exact congrArg _ hm.returned.symm
    · rw [if_pos hcurrency]
      refine ⟨fun st => ⟨fun h => (by cases h), fun hm => absurd hm.currency hcurrency⟩,
        fun e he => ⟨_, _, (Except.error.inj he).symm⟩⟩

/-! ## The whole search -/

/-- `get_payment_status` on the answer of its search. -/
theorem given_search {answers : SdkAnswers} {payment : Payment} {pref : PaymentPreference}
    {response : Dict Json} (hpref : payment.preference = some pref)
    (href : pref.externalReference = some r) (hr : r ≠ "")
    (hanswer : answers (.searchPayments (searchFilters r)) = .ok response)
    (hresults : getOrNone response "results" = .list results) :
    answers.given (getPaymentStatus payment) = onlyMatch r results >>= statusOf payment.total := by
  have hreference : externalReferenceOf payment = .ok r := by
    unfold externalReferenceOf
    rw [hpref, show (some pref).bind PaymentPreference.externalReference = some r from href]
    exact if_neg hr
  have hlist : resultsOf response = .ok results := by
    unfold resultsOf
    rw [hresults]
  rw [given_getPaymentStatus, hreference, ok_bind, hanswer, ok_bind]
  unfold readSearch
  rw [hlist, ok_bind]

/-- **A search is accepted exactly when one entry carries the reference and that entry matches; it is
    an error of the gateway otherwise; and neither the order of the entries nor one that does not
    carry the reference has an influence.** -/
theorem search_accepted_iff {payment : Payment} {pref : PaymentPreference}
    (hpref : payment.preference = some pref) (href : pref.externalReference = some r) (hr : r ≠ "")
    {answers : SdkAnswers} {response : Dict Json}
    (hanswer : answers (.searchPayments (searchFilters r)) = .ok response)
    (hresults : getOrNone response "results" = .list results)
    (hamounts : ∀ item, .dict item ∈ results → NullOrNumber (getOrNone item "transaction_amount")) :
    (∀ st, answers.given (getPaymentStatus payment) = .ok st ↔
      ∃ item, results.filter (carries r) = [.dict item] ∧ Matches payment.total item st) ∧
    (∀ e, answers.given (getPaymentStatus payment) = .error e →
      ∃ message code, e = .paymentGatewayError message code) ∧
    ∀ (answers' : SdkAnswers) (response' : Dict Json) (results' : List Json),
      answers' (.searchPayments (searchFilters r)) = .ok response' →
      getOrNone response' "results" = .list results' →
      SameEntries r results results' →
      answers'.given (getPaymentStatus payment) = answers.given (getPaymentStatus payment) := by
  rw [given_search hpref href hr hanswer hresults]
  have hread : ∀ item, onlyMatch r results = .ok item →
      NullOrNumber (getOrNone item "transaction_amount") := by
    intro item honly
    have hmem : Json.dict item ∈ results.filter (carries r) := by
      rw [onlyMatch_iff.mp honly]
      exact List.mem_singleton_self _
    exact hamounts item (List.mem_of_mem_filter hmem)
  refine ⟨fun st => ⟨fun h => ?_, ?_⟩, fun e he => ?_,
    fun answers' response' results' hanswer' hresults' hperm => ?_⟩
  · cases honly : onlyMatch r results with
    | error e => rw [honly] at h; cases h
    | ok item =>
      rw [honly, ok_bind] at h
      exact ⟨item, onlyMatch_iff.mp honly, ((status_of_iff (hread item honly)).1 st).mp h⟩
  · rintro ⟨item, hitem, hmatches⟩
    have honly := onlyMatch_iff.mpr hitem
    rw [honly, ok_bind]
    exact ((status_of_iff (hread item honly)).1 st).mpr hmatches
  · cases honly : onlyMatch r results with
    | error e' =>
      rw [honly] at he
      obtain rfl := Except.error.inj he
      exact onlyMatch_error honly
    | ok item =>
      rw [honly, ok_bind] at he
      exact (status_of_iff (hread item honly)).2 e he
  · rw [given_search hpref href hr hanswer' hresults', onlyMatch_perm hperm]

end Search

section Samples

open Sample

/-- A payment with a preference. -/
def Sample.searchedPayment : Payment :=
  ⟨"quote-1", "os-1", price, "payment-1", .pending,
    some ⟨"pref-1", "/pay", some "os-1"⟩⟩

/-- The entry of a payment of 120. -/
def Sample.entry (externalReference : String) : Dict Json :=
  [("id", .int 7), ("status", .str " approved "), ("external_reference", .str externalReference),
    ("currency_id", .str "BRL"), ("transaction_amount", .float (.finite false 12 1))]

/-- The provider finds this. -/
def Sample.finds (results : List Json) : SdkAnswers := fun _ => .ok [("results", .list results)]

theorem search_accepted_found :
    (finds [.null, .dict (entry "os-2"), .dict (entry "os-1")]).given (getPaymentStatus searchedPayment) =
        .ok ⟨"7", "approved", none⟩ ∧
      (finds [.dict (entry "os-1"), .str "os-1", .bool true]).given (getPaymentStatus searchedPayment) =
        .ok ⟨"7", "approved", none⟩ := by
  have hamounts : ∀ item, Json.dict item ∈ [.null, .dict (entry "os-2"), .dict (entry "os-1")] →
      NullOrNumber (getOrNone item "transaction_amount") := by
    intro item hmem
    simp only [List.mem_cons, List.not_mem_nil, or_false, reduceCtorEq, false_or, Json.dict.injEq] at hmem
    rcases hmem with rfl | rfl
    · exact Or.inr rfl
    · exact Or.inr rfl
  have hanswer : finds [.null, .dict (entry "os-2"), .dict (entry "os-1")]
      (.searchPayments (searchFilters "os-1")) = .ok _ := rfl
  obtain ⟨hiff, -, hsame⟩ := search_accepted_iff (show searchedPayment.preference = some _ from rfl) rfl
    (by decide) hanswer rfl hamounts
  have hmatches : Matches searchedPayment.total (entry "os-1") ⟨"7", "approved", none⟩ :=
    ⟨⟨.finite false 12 1, rfl, Decimal.eq_true_iff.mp (by decide)⟩, by decide +kernel,
      by decide +kernel, by decide +kernel, by decide +kernel⟩
  have hfound := (hiff ⟨"7", "approved", none⟩).mpr ⟨entry "os-1", rfl, hmatches⟩
  refine ⟨hfound, ?_⟩
  have hentries : SameEntries "os-1" [.null, .dict (entry "os-2"), .dict (entry "os-1")]
      [.dict (entry "os-1"), .str "os-1", .bool true] := List.Perm.refl _
  rw [hsame (finds [.dict (entry "os-1"), .str "os-1", .bool true]) _ _ rfl rfl hentries]
  exact hfound

end Samples

end Billing

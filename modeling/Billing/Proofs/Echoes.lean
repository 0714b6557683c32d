/-
  Is the provider's own echo of a payment recognised?

  The price of a preference is sent as `float(amount)`, and what the search finds is compared with the
  amount itself, as `Decimal(str(value))`.  The two conversions are the identity on the decimals that
  `str` prints for a double (`Printed`), and on no others: an amount with more digits than a double prints
  is never recognised, however honest the provider is (`passesChecks_iff`).

  Of the interpreter this takes that `float` is the nearest double, and that the shortest digits which are
  read back are printed (`CPython`).  How many digits that is for an amount is a matter of the format: 17
  at most, and 15 always survive.
-/
import Billing.Lib.BinaryFloat
import Billing.Proofs.Searches

namespace Billing

open Py Atomic Program MercadoPagoCheckoutAdapter BinaryFloat

/-! ## The floats of the interpreter -/

/-- The float for a double that is not negative, where `repr` says how doubles are printed. -/
def floatOf (repr : ℚ → Nat × Int) (x : ℚ) : PyFloat :=
  if x = 0 then .finite false 0 0
  else if x < 2 ^ binary64.limit then .finite false (repr x).1 (repr x).2
  else .inf false

/-- **The floats of CPython**, for positive numbers. -/
structure CPython [Python] (repr : ℚ → Nat × Int) : Prop where
  /-- `float(Decimal)` is the nearest double. -/
  float_eq : ∀ coeff exp, 0 < coeff →
    Python.float (.finite false coeff exp) = floatOf repr (nearest binary64 (coeff * 10 ^ exp))
  /-- `str(float)` are the shortest digits that are read back. -/
  shortest : ∀ x, IsFloat binary64 x → 0 < x → Shortest binary64 x (repr x)

/-- The number is the one that is printed for some double. -/
def Printed (repr : ℚ → Nat × Int) (v : ℚ) : Prop :=
  ∃ x, IsFloat binary64 x ∧ 0 < x ∧ decimal (repr x) = v

section Floats

variable [Python] {repr : ℚ → Nat × Int} {coeff : Nat} {exp : Int}

omit [Python] in
theorem value_positive (coeff : Nat) (exp : Int) : Decimal.value false coeff exp = coeff * 10 ^ exp := rfl

/-- **`Decimal(str(float(amount)))` is the amount exactly for what is printed for a double.** -/
theorem float_same_iff (hpython : CPython repr) (hcoeff : 0 < coeff) :
    (Python.float (.finite false coeff exp)).toDecimal.SameNumber (.finite false coeff exp) ↔
      Printed repr (coeff * 10 ^ exp) := by
  have hpos : (0 : ℚ) < coeff * 10 ^ exp := mul_pos (Nat.cast_pos.mpr hcoeff) (zpow_ten_pos exp)
  have hread : ∀ {x}, IsFloat binary64 x → 0 < x → decimal (repr x) = coeff * 10 ^ exp →
      nearest binary64 (coeff * 10 ^ exp) = x := by
    intro x hx hxpos heq
    rw [← heq]
    exact (hpython.shortest x hx hxpos).reads
  rw [hpython.float_eq coeff exp hcoeff]
  generalize hq : (coeff : ℚ) * 10 ^ exp = q at hpos hread
  unfold floatOf
  by_cases hzero : nearest binary64 q = 0
  · -- the amount is too small for any double
    rw [if_pos hzero]
    constructor
    · intro hsame
      have hvalue : Decimal.value false 0 0 = Decimal.value false coeff exp := hsame
      rw [value_positive, value_positive, hq, Nat.cast_zero, zero_mul] at hvalue
      exact absurd hvalue hpos.ne
    · rintro ⟨x, hx, hxpos, heq⟩
      rw [← hread hx hxpos heq, hzero] at hxpos
      exact absurd hxpos (lt_irrefl _)
  · rw [if_neg hzero]
    by_cases hlimit : nearest binary64 q < 2 ^ binary64.limit
    · rw [if_pos hlimit]
      have hsame : (PyFloat.finite false (repr (nearest binary64 q)).1
          (repr (nearest binary64 q)).2).toDecimal.SameNumber (.finite false coeff exp) ↔
          decimal (repr (nearest binary64 q)) = q := by
        rw [← hq]
        exact Iff.rfl
      rw [hsame]
      constructor
      · intro heq
        have hxpos := lt_of_le_of_ne (nearest_nonneg hpos.le) (Ne.symm hzero)
        exact ⟨_, isFloat_nearest hpos hlimit, hxpos, heq⟩
      · rintro ⟨x, hx, hxpos, heq⟩
        rw [hread hx hxpos heq, heq]
    · -- the amount is too large
      rw [if_neg hlimit]
      constructor
      · exact fun hsame => hsame.elim
      · rintro ⟨x, hx, hxpos, heq⟩
        rw [hread hx hxpos heq] at hlimit
        exact absurd hx.bounded hlimit

/-- What is printed for a double has 17 digits at most. -/
theorem fits_of_printed (hpython : CPython repr) {v : ℚ} (h : Printed repr v) : Fits 17 v := by
  obtain ⟨x, hx, hxpos, rfl⟩ := h
  have hdigits : 2 ^ binary64.precision < 10 ^ (17 - 1) := by decide
  exact (hpython.shortest x hx hxpos).fits hdigits hx hxpos

/-- **What has 15 digits at most is printed for a double**, in the range of the normal ones. -/
theorem printed_of_fits (hpython : CPython repr) {v : ℚ} (hfits : Fits 15 v) (hnormal : Normal binary64 v)
    (hlimit : v < 2 ^ binary64.limit - 2 ^ (binary64.limit - binary64.precision - 1)) : Printed repr v := by
  have hdigits : 10 ^ 15 < 2 ^ (binary64.precision - 1) := by decide
  have hx := isFloat_nearest hnormal.pos (nearest_lt_limit hnormal.pos hlimit)
  have hxpos : 0 < nearest binary64 v := hnormal.nearest_pos
  have hshortest := hpython.shortest _ hx hxpos
  have hfew := hshortest.fewest 15 v hnormal.pos hfits rfl
  have hread : nearest binary64 v = nearest binary64 (decimal (repr (nearest binary64 v))) :=
    hshortest.reads.symm
  exact ⟨_, hx, hxpos, (eq_of_nearest_eq hdigits hfits hfew hnormal (hshortest.pos hxpos) hread).symm⟩

end Floats

/-! ## The echo -/

section Echo

variable [Python] {repr : ℚ → Nat × Int} {settings : MercadoPagoCheckoutSettings}
  {quoteId serviceOrderId : String} {total : Money} {item : Dict Json}

/-- The entry has the price and the currency that `create_checkout_preference` sends. -/
def Echoes (settings : MercadoPagoCheckoutSettings) (quoteId serviceOrderId : String) (total : Money)
    (item : Dict Json) : Prop :=
  ∃ line, getOrNone (preferencePayload settings quoteId serviceOrderId total) "items" =
      .list [.dict line] ∧
    getOrNone item "transaction_amount" = getOrNone line "unit_price" ∧
    getOrNone item "currency_id" = getOrNone line "currency_id"

theorem Echoes.fields (h : Echoes settings quoteId serviceOrderId total item) :
    getOrNone item "transaction_amount" = .float (Python.float total.amount) ∧
      getText item "currency_id" = total.currency := by
  obtain ⟨line, hline, hamount, hcurrency⟩ := h
  obtain rfl := Json.dict.inj (List.cons.inj (Json.list.inj hline)).1
  refine ⟨hamount, ?_⟩
  have hstr : getOrNone item "currency_id" = .str total.currency := hcurrency
  unfold getOrNone at hstr
  unfold getText
  cases hget : item.get? "currency_id" with
  | none => rw [hget] at hstr; cases hstr
  | some value =>
    rw [hget, Option.getD_some] at hstr
    rw [hstr]
    rfl

/-- The answer was not refused for its amount or its currency. -/
def PassesChecks (answer : Except Exc PaymentProviderStatus) : Prop :=
  (∃ st, answer = .ok st) ∨ answer = .error (.paymentGatewayError
    "Mercado Pago payment response is missing id or status." (some 502))

/-- An echo passes when its float is the amount. -/
theorem statusOf_echo_iff (h : Echoes settings quoteId serviceOrderId total item) :
    PassesChecks (statusOf total item) ↔
      (Python.float total.amount).toDecimal.SameNumber total.amount := by
  obtain ⟨hamount, hcurrency⟩ := h.fields
  have hnumber : (getOrNone item "transaction_amount").number? =
      some (Python.float total.amount).toDecimal := by
    rw [hamount]
    rfl
  obtain ⟨differs, hdiffers, hiff⟩ := amountDiffers_number hnumber total
  rw [← hiff]
  unfold PassesChecks statusOf
  rw [hdiffers]
  cases differs with
  | true =>
    refine ⟨?_, fun h => (by cases h)⟩
    rintro (⟨st, h⟩ | h)
    · cases h
    · exact absurd h (by simp)
  | false =>
    simp only [hcurrency, ne_eq, not_true_eq_false, if_false, iff_true]
    split
    · exact Or.inr rfl
    · exact Or.inl ⟨_, rfl⟩

/-! ## The search -/

variable {payment : Payment} {pref : PaymentPreference} {r : String} {answers : SdkAnswers}
  {response : Dict Json} {results : List Json} {neg : Bool} {coeff : Nat} {exp : Int}

omit [Python] in
/-- A finite amount is a positive number. -/
theorem Money.finite_pos (h : total.amount = .finite neg coeff exp) : neg = false ∧ 0 < coeff := by
  have hpositive := total.positive
  have hten : (0 : Int) < 10 ^ (exp - min exp 0).toNat := by positivity
  rw [h] at hpositive
  have hnot : ¬ Decimal.scaled neg coeff exp (min exp 0) ≤ 0 := by
    simpa [Decimal.le, Decimal.zero, Decimal.scaled] using hpositive
  unfold Decimal.scaled at hnot
  cases neg with
  | true =>
    refine absurd ?_ hnot
    rw [if_pos rfl]
    exact mul_nonpos_of_nonpos_of_nonneg (by omega) hten.le
  | false =>
    refine ⟨rfl, Nat.pos_of_ne_zero ?_⟩
    rintro rfl
    refine hnot ?_
    rw [if_neg Bool.false_ne_true]
    exact (zero_mul _).le

theorem search_echo_iff (hpython : CPython repr) (hpref : payment.preference = some pref)
    (href : pref.externalReference = some r) (hr : r ≠ "")
    (hanswer : answers (.searchPayments (searchFilters r)) = .ok response)
    (hresults : getOrNone response "results" = .list results)
    (honly : results.filter (carries r) = [.dict item])
    (hecho : Echoes settings quoteId serviceOrderId payment.total item)
    (hamount : payment.total.amount = .finite neg coeff exp) :
    PassesChecks (answers.given (getPaymentStatus payment)) ↔
      Printed repr (Decimal.value neg coeff exp) := by
  obtain ⟨rfl, hcoeff⟩ := Money.finite_pos hamount
  rw [given_search hpref href hr hanswer hresults, onlyMatch_iff.mpr honly, ok_bind,
    statusOf_echo_iff hecho, hamount]
  exact float_same_iff hpython hcoeff

/-- **An honest echo is recognised exactly for the amounts that are printed for a double**: those have 17
    digits at most, and an amount of 15 digits in the normal range is one of them. -/
theorem echo_recognised_iff (hpython : CPython repr) (hpref : payment.preference = some pref)
    (href : pref.externalReference = some r) (hr : r ≠ "")
    (hanswer : answers (.searchPayments (searchFilters r)) = .ok response)
    (hresults : getOrNone response "results" = .list results)
    (honly : results.filter (carries r) = [.dict item])
    (hecho : Echoes settings quoteId serviceOrderId payment.total item)
    (hamount : payment.total.amount = .finite neg coeff exp) :
    (PassesChecks (answers.given (getPaymentStatus payment)) ↔
      Printed repr (Decimal.value neg coeff exp)) ∧
    (PassesChecks (answers.given (getPaymentStatus payment)) → Fits 17 (Decimal.value neg coeff exp)) ∧
    (Fits 15 (Decimal.value neg coeff exp) → Normal binary64 (Decimal.value neg coeff exp) →
      Decimal.value neg coeff exp < 2 ^ binary64.limit - 2 ^ (binary64.limit - binary64.precision - 1) →
        PassesChecks (answers.given (getPaymentStatus payment))) := by
  have hiff := search_echo_iff hpython hpref href hr hanswer hresults honly hecho hamount
  refine ⟨hiff, fun hpasses => ?_, fun hfits hnormal hlimit => ?_⟩
  · exact fits_of_printed hpython (hiff.mp hpasses)
  · exact hiff.mpr (printed_of_fits hpython hfits hnormal hlimit)

end Echo

/-! ## Two amounts -/

namespace Sample.Doubles

open Sample (price settings searchedPayment finds)

/-- The floats of CPython. -/
scoped instance python : Python where
  isPrintable := fun _ => true
  float := fun
    | .finite false coeff exp => floatOf (print binary64 17) (nearest binary64 (coeff * 10 ^ exp))
    | .finite true coeff exp =>
      match floatOf (print binary64 17) (nearest binary64 (coeff * 10 ^ exp)) with
      | .finite _ digits exp => .finite true digits exp
      | _ => .inf true
    | .infinity neg => .inf neg
    | .nan _ => .nan

theorem cpython : CPython (print binary64 17) where
  float_eq _ _ _ := rfl
  shortest _ hx hxpos := shortest_print (by decide) hx hxpos

/-- The entry of an honest provider. -/
def echo (total : Money) : Dict Json :=
  [("id", .int 7), ("status", .str "approved"), ("external_reference", .str "os-1"),
    ("currency_id", .str total.currency), ("transaction_amount", .float (Python.float total.amount))]

/-- An amount of `120.000000000000000001`. -/
def longPrice : Money := ⟨.finite false 120000000000000000001 (-18), price.currency, rfl, price.named⟩

/-- A payment with a preference, for this amount. -/
def longPayment : Payment := { searchedPayment with total := longPrice }

theorem echoes_echo (total : Money) : Echoes settings "quote-1" "os-1" total (echo total) :=
  ⟨_, rfl, rfl, rfl⟩

end Sample.Doubles

open Sample.Doubles
open Sample (price settings searchedPayment finds)

theorem echo_recognised_price :
    PassesChecks ((finds [.dict (echo price)]).given (getPaymentStatus searchedPayment)) := by
  have hvalue : Decimal.value false 12000 (-2) = 120 := by
    rw [value_positive]
    norm_num
  have hrecognised := (echo_recognised_iff cpython (show searchedPayment.preference = some _ from rfl) rfl
    (by decide) (show finds [.dict (echo price)] (.searchPayments (searchFilters "os-1")) = .ok _ from rfl)
    rfl rfl (echoes_echo price) rfl).2.2
  rw [hvalue] at hrecognised
  refine hrecognised ⟨120, 0, by decide, by norm_num⟩ ?_ ?_
  · have hsmall : (2 : ℚ) ^ (binary64.minUnit + binary64.precision - 1) ≤ 2 ^ (0 : Int) :=
      zpow_two_le (by decide)
    exact hsmall.trans (by norm_num)
  · -- half of the bound is more than enough
    have hlast : (2 : ℚ) ^ (7 : Int) ≤ 2 ^ (970 : Int) := zpow_two_le (by decide)
    have hlimit : (2 : ℚ) ^ (970 + 1 : Int) ≤ 2 ^ binary64.limit := zpow_two_le (by decide)
    have hhalf : binary64.limit - binary64.precision - 1 = 970 := rfl
    have hseven : (2 : ℚ) ^ (7 : Int) = 128 := by norm_num
    rw [zpow_add_one₀ (by norm_num)] at hlimit
    rw [hhalf]
    rw [hseven] at hlast
    generalize (2 : ℚ) ^ (970 : Int) = half at hlast hlimit ⊢
    linarith

/-- **A paid amount that is not recognised**: of its 21 digits a double keeps 17 at most. -/
theorem long_echo_is_refused :
    ¬ ∀ [Python] (repr : ℚ → Nat × Int), CPython repr →
      ∀ (payment : Payment) (pref : PaymentPreference) (r : String) (answers : SdkAnswers)
        (response : Dict Json) (results : List Json) (item : Dict Json)
        (settings : MercadoPagoCheckoutSettings) (quoteId serviceOrderId : String) (neg : Bool)
        (coeff : Nat) (exp : Int),
        payment.preference = some pref → pref.externalReference = some r → r ≠ "" →
        answers (.searchPayments (searchFilters r)) = .ok response →
        getOrNone response "results" = .list results →
        results.filter (carries r) = [.dict item] →
        Echoes settings quoteId serviceOrderId payment.total item →
        payment.total.amount = .finite neg coeff exp →
          PassesChecks (answers.given (getPaymentStatus payment)) := by
  intro h
  have hpasses := h _ cpython longPayment _ "os-1" (finds [.dict (echo longPrice)]) _ _ _ settings
    "quote-1" "os-1" _ _ _ rfl rfl (by decide) rfl rfl rfl (echoes_echo longPrice) rfl
  have hprinted := (search_echo_iff cpython (show longPayment.preference = some _ from rfl) rfl (by decide)
    (show finds [.dict (echo longPrice)] (.searchPayments (searchFilters "os-1")) = .ok _ from rfl)
    rfl rfl (echoes_echo longPrice) rfl).mp hpasses
  rw [value_positive] at hprinted
  exact not_fits (by decide) (by decide) (fits_of_printed cpython hprinted)

end Billing

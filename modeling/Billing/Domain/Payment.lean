/-
  Quotes, payments and money (`src/domain/payment.py`).

  The methods that change an object return the changed object next to their event; who else can see
  the change is a matter of the repository (`Billing.Infrastructure.Repositories`).  `Money` carries
  what `__post_init__` checks, so money that is not positive or has no currency cannot be built.

  The last section says what each method can do, once for all later proofs: `Quote.approve_eq_ok`,
  `Payment.confirm_eq_ok` and so on are the inversions of a call that did not raise.
-/
import Billing.Domain.Events

namespace Billing

open Py

/-! ## The data -/

/-- `QuoteStatus`. -/
inductive QuoteStatus where
  | created
  | approved
  | cancelled
  deriving DecidableEq, Repr

/-- `QuoteStatus.value`. -/
def QuoteStatus.value : QuoteStatus → String
  | created => "CREATED"
  | approved => "APPROVED"
  | cancelled => "CANCELLED"

/-- `QuoteStatus(value)`. -/
def QuoteStatus.ofValue (value : String) : Except Exc QuoteStatus :=
  if value = "CREATED" then .ok created
  else if value = "APPROVED" then .ok approved
  else if value = "CANCELLED" then .ok cancelled
  else .error (.valueError ("'" ++ value ++ "' is not a valid QuoteStatus"))

/-- `PaymentStatus`. -/
inductive PaymentStatus where
  | waitingPreference
  | pending
  | confirmed
  | failed
  deriving DecidableEq, Repr

/-- `PaymentStatus.value`. -/
def PaymentStatus.value : PaymentStatus → String
  | waitingPreference => "WAITING_PREFERENCE"
  | pending => "PENDING"
  | confirmed => "CONFIRMED"
  | failed => "FAILED"

/-- `PaymentStatus(value)`. -/
def PaymentStatus.ofValue (value : String) : Except Exc PaymentStatus :=
  if value = "WAITING_PREFERENCE" then .ok waitingPreference
  else if value = "PENDING" then .ok pending
  else if value = "CONFIRMED" then .ok confirmed
  else if value = "FAILED" then .ok failed
  else .error (.valueError ("'" ++ value ++ "' is not a valid PaymentStatus"))

@[simp] theorem QuoteStatus.ofValue_value (s : QuoteStatus) : ofValue s.value = .ok s := by
  cases s <;> rfl

@[simp] theorem PaymentStatus.ofValue_value (s : PaymentStatus) : ofValue s.value = .ok s := by
  cases s <;> rfl

theorem QuoteStatus.value_injective {s s' : QuoteStatus} (h : s.value = s'.value) : s = s' := by
  cases s <;> cases s' <;> first | rfl | exact absurd h (by decide)

theorem PaymentStatus.value_injective {s s' : PaymentStatus} (h : s.value = s'.value) : s = s' := by
  cases s <;> cases s' <;> first | rfl | exact absurd h (by decide)

/-- `Money`: a positive amount in some currency. -/
structure Money where
  /-- `amount`. -/
  amount : Decimal
  /-- `currency`. -/
  currency : String
  /-- `amount <= Decimal("0")` answered no. -/
  positive : amount.le Decimal.zero = some false
  /-- The currency is not blank. -/
  named : strip currency ≠ ""
  deriving DecidableEq

/-- `Money(amount, currency)`. -/
def Money.make (amount : Decimal) (currency : String) : Except Exc Money :=
  match hle : amount.le Decimal.zero with
  | none => .error .invalidOperation
  | some true => .error (.valueError "Money amount must be positive")
  | some false =>
    if hc : strip currency = "" then .error (.valueError "Currency is required")
    else .ok ⟨amount, currency, hle, hc⟩

/-- The default of `Money.currency`. -/
def Money.defaultCurrency : String := "BRL"

/-- `PaymentPreference`. -/
structure PaymentPreference where
  /-- `preference_id`. -/
  preferenceId : String
  /-- `checkout_url`. -/
  checkoutUrl : String
  /-- `external_reference`. -/
  externalReference : Option String
  deriving DecidableEq, Repr

/-- `PaymentProviderStatus`. -/
structure PaymentProviderStatus where
  /-- `provider_payment_id`. -/
  providerPaymentId : String
  /-- `status`. -/
  status : String
  /-- `status_detail`. -/
  statusDetail : Option String
  deriving DecidableEq, Repr

/-- `Quote`. -/
structure Quote where
  /-- `service_order_id`. -/
  serviceOrderId : String
  /-- `items`. -/
  items : List String
  /-- `total`. -/
  total : Money
  /-- `quote_id`. -/
  quoteId : String
  /-- `status`. -/
  status : QuoteStatus
  deriving DecidableEq

/-- `Payment`. -/
structure Payment where
  /-- `quote_id`. -/
  quoteId : String
  /-- `service_order_id`. -/
  serviceOrderId : String
  /-- `total`. -/
  total : Money
  /-- `payment_id`. -/
  paymentId : String
  /-- `status`. -/
  status : PaymentStatus
  /-- `preference`. -/
  preference : Option PaymentPreference
  deriving DecidableEq

/-! ## Quote -/

/-- `Quote._event`. -/
def Quote.event (self : Quote) (eventType : EventType) (payload : Dict String) (stamp : Stamp) :
    DomainEvent :=
  let basePayload : Dict String := [("service_order_id", self.serviceOrderId)]
  { eventType := eventType
    correlationId := self.serviceOrderId
    payload := basePayload.update payload
    eventId := stamp.eventId
    occurredAt := stamp.occurredAt }

/-- `Quote.create`. -/
def Quote.create (serviceOrderId : String) (items : List String) (total : Money) (quoteId : String)
    (stamp : Stamp) : Except Exc (Quote × DomainEvent) :=
  if strip serviceOrderId = "" then .error (.valueError "Service order id is required")
  else if items = [] then .error (.valueError "At least one quote item is required")
  else
    let quote : Quote := ⟨serviceOrderId, items, total, quoteId, .created⟩
    .ok (quote, quote.event .quoteCreated [("quote_id", quote.quoteId)] stamp)

/-- `Quote.approve`. -/
def Quote.approve (self : Quote) (stamp : Stamp) : Except Exc (Quote × DomainEvent) :=
  if self.status ≠ .created then .error (.valueError "Only created quotes can be approved")
  else
    let self := { self with status := .approved }
    .ok (self, self.event .quoteApproved [("quote_id", self.quoteId)] stamp)

/-- `Quote.cancel`. -/
def Quote.cancel (self : Quote) (reason : String) (stamp : Stamp) : Except Exc (Quote × DomainEvent) :=
  if self.status = .cancelled then .error (.valueError "Quote is already cancelled")
  else
    let self := { self with status := .cancelled }
    .ok (self, self.event .quoteCancelled [("quote_id", self.quoteId), ("reason", reason)] stamp)

/-! ## Payment -/

/-- `Payment._event`. -/
def Payment.event (self : Payment) (eventType : EventType) (payload : Dict String) (stamp : Stamp) :
    DomainEvent :=
  let basePayload : Dict String :=
    [("service_order_id", self.serviceOrderId), ("quote_id", self.quoteId)]
  { eventType := eventType
    correlationId := self.serviceOrderId
    payload := basePayload.update payload
    eventId := stamp.eventId
    occurredAt := stamp.occurredAt }

/-- `Payment.from_quote`. -/
def Payment.fromQuote (quote : Quote) (paymentId : String) : Except Exc Payment :=
  if quote.status ≠ .approved then
    .error (.valueError "Payment can only be created for approved quotes")
  else
    .ok ⟨quote.quoteId, quote.serviceOrderId, quote.total, paymentId, .waitingPreference, none⟩

/-- `Payment.create_preference`, up to the call of the gateway: the check that comes before it. -/
def Payment.checkPreference (self : Payment) : Except Exc Unit :=
  if self.status ≠ .waitingPreference then
    .error (.valueError "Payment preference was already requested")
  else .ok ()

/-- `Payment.create_preference`, from the answer of the gateway on. -/
def Payment.attachPreference (self : Payment) (preference : PaymentPreference) (stamp : Stamp) :
    Payment × DomainEvent :=
  let self := { self with preference := some preference, status := .pending }
  (self, self.event .paymentPreferenceCreated
    [("payment_id", self.paymentId), ("preference_id", preference.preferenceId)] stamp)

/-- `Payment.confirm`. -/
def Payment.confirm (self : Payment) (stamp : Stamp) : Except Exc (Payment × DomainEvent) :=
  if self.status ≠ .pending then .error (.valueError "Only pending payments can be confirmed")
  else
    let self := { self with status := .confirmed }
    .ok (self, self.event .paymentConfirmed [("payment_id", self.paymentId)] stamp)

/-- `Payment.fail`. -/
def Payment.fail (self : Payment) (reason : String) (stamp : Stamp) :
    Except Exc (Payment × DomainEvent) :=
  if self.status = .confirmed then .error (.valueError "Confirmed payments cannot fail")
  else
    let self := { self with status := .failed }
    .ok (self, self.event .paymentFailed
      [("payment_id", self.paymentId), ("reason", reason)] stamp)

/-! ## What the methods can do -/

theorem Money.make_eq_ok {amount : Decimal} {currency : String} {m : Money}
    (h : Money.make amount currency = .ok m) : m.amount = amount ∧ m.currency = currency := by
  unfold Money.make at h
  split at h
  · cases h
  · cases h
  · split at h
    · cases h
    · cases h; exact ⟨rfl, rfl⟩

/-- Money that exists is made again from its parts. -/
@[simp] theorem Money.make_self (m : Money) : Money.make m.amount m.currency = .ok m := by
  unfold Money.make
  split
  · rename_i h; rw [m.positive] at h; cases h
  · rename_i h; rw [m.positive] at h; cases h
  · rw [dif_neg m.named]

theorem Quote.create_eq_ok {serviceOrderId : String} {items : List String} {total : Money}
    {quoteId : String} {stamp : Stamp} {q : Quote} {e : DomainEvent}
    (h : Quote.create serviceOrderId items total quoteId stamp = .ok (q, e)) :
    q = ⟨serviceOrderId, items, total, quoteId, .created⟩ ∧
      e = q.event .quoteCreated [("quote_id", q.quoteId)] stamp := by
  unfold Quote.create at h
  split at h
  · cases h
  · split at h
    · cases h
    · cases h; exact ⟨rfl, rfl⟩

theorem Quote.approve_eq_ok {self q : Quote} {stamp : Stamp} {e : DomainEvent}
    (h : self.approve stamp = .ok (q, e)) :
    self.status = .created ∧ q = { self with status := .approved } ∧
      e = q.event .quoteApproved [("quote_id", q.quoteId)] stamp := by
  unfold Quote.approve at h
  split at h
  · cases h
  · rename_i hs
    cases h
    exact ⟨not_not.mp hs, rfl, rfl⟩

theorem Payment.fromQuote_eq_ok {quote : Quote} {paymentId : String} {p : Payment}
    (h : Payment.fromQuote quote paymentId = .ok p) :
    quote.status = .approved ∧ p = ⟨quote.quoteId, quote.serviceOrderId, quote.total, paymentId,
      .waitingPreference, none⟩ := by
  unfold Payment.fromQuote at h
  split at h
  · cases h
  · rename_i hs
    cases h
    exact ⟨not_not.mp hs, rfl⟩

theorem Payment.confirm_eq_ok {self p : Payment} {stamp : Stamp} {e : DomainEvent}
    (h : self.confirm stamp = .ok (p, e)) :
    self.status = .pending ∧ p = { self with status := .confirmed } ∧
      e = p.event .paymentConfirmed [("payment_id", p.paymentId)] stamp := by
  unfold Payment.confirm at h
  split at h
  · cases h
  · rename_i hs
    cases h
    exact ⟨not_not.mp hs, rfl, rfl⟩

theorem Payment.fail_eq_ok {self p : Payment} {reason : String} {stamp : Stamp} {e : DomainEvent}
    (h : self.fail reason stamp = .ok (p, e)) :
    self.status ≠ .confirmed ∧ p = { self with status := .failed } ∧
      e = p.event .paymentFailed [("payment_id", p.paymentId), ("reason", reason)] stamp := by
  unfold Payment.fail at h
  split at h
  · cases h
  · rename_i hs
    cases h
    exact ⟨hs, rfl, rfl⟩

/-! ## What the events say -/

@[simp] theorem Quote.event_eventType (q : Quote) (t : EventType) (d : Dict String) (stamp : Stamp) :
    (q.event t d stamp).eventType = t := rfl

@[simp] theorem Payment.event_eventType (p : Payment) (t : EventType) (d : Dict String)
    (stamp : Stamp) : (p.event t d stamp).eventType = t := rfl

@[simp] theorem Quote.event_correlationId (q : Quote) (t : EventType) (d : Dict String)
    (stamp : Stamp) : (q.event t d stamp).correlationId = q.serviceOrderId := rfl

@[simp] theorem Payment.event_correlationId (p : Payment) (t : EventType) (d : Dict String)
    (stamp : Stamp) : (p.event t d stamp).correlationId = p.serviceOrderId := rfl

end Billing

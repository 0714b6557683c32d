/-
  The use cases (`src/application/use_cases.py`).

  Each `execute` is a program over `ports`, step by step in the order of the source.  The values
  that the source draws while it runs (`uuid4` ids, an idempotency key, event stamps) come with the
  request as its `Supply`.
-/
import Billing.Application.Ports

namespace Billing

open Py Atomic Program

/-- The fresh values a request may draw. -/
structure Supply where
  /-- The id of a quote that is created. -/
  quoteId : String
  /-- The id of a payment that is created. -/
  paymentId : String
  /-- The key of a call that creates a preference. -/
  idempotencyKey : String
  /-- The stamp of the first event. -/
  first : Stamp
  /-- The stamp of the second event. -/
  second : Stamp
  deriving DecidableEq, Repr

/-! ## Creating and approving a quote -/

/-- `CreateQuoteCommand`. -/
structure CreateQuoteCommand where
  /-- `service_order_id`. -/
  serviceOrderId : String
  /-- `items`. -/
  items : List String
  /-- `amount`. -/
  amount : Decimal
  deriving DecidableEq, Repr

/-- `CreateQuoteUseCase.execute`. -/
def CreateQuoteUseCase.execute (command : CreateQuoteCommand) (supply : Supply) : Service Quote := do
  let total ← ofExcept (Money.make command.amount Money.defaultCurrency)
  let (quote, event) ← ofExcept
    (Quote.create command.serviceOrderId command.items total supply.quoteId supply.first)
  QuoteRepository.save quote
  EventPublisher.publish event
  return quote

/-- `Payment.create_preference`. -/
def Payment.createPreference (self : Payment) (gateway : PaymentGateway)
    (newIdempotencyKey : String) (stamp : Stamp) : Service (Payment × DomainEvent) := do
  ofExcept self.checkPreference
  let preference ← PaymentGateway.call
    (gateway.createCheckoutPreference newIdempotencyKey self.quoteId self.serviceOrderId self.total)
  let (self, event) := self.attachPreference preference stamp
  self.assign
  return (self, event)

/-- `ApproveQuoteUseCase.execute`. -/
def ApproveQuoteUseCase.execute (gateway : PaymentGateway) (quoteId : String) (supply : Supply) :
    Service Payment := do
  let quote ← QuoteRepository.get quoteId
  let (quote, approvedEvent) ← ofExcept (quote.approve supply.first)
  quote.assign
  let payment ← ofExcept (Payment.fromQuote quote supply.paymentId)
  let (payment, preferenceEvent) ←
    payment.createPreference gateway supply.idempotencyKey supply.second
  QuoteRepository.save quote
  PaymentRepository.save payment
  EventPublisher.publish approvedEvent
  EventPublisher.publish preferenceEvent
  return payment

/-! ## Settling a payment by hand -/

/-- `ConfirmPaymentUseCase.execute`. -/
def ConfirmPaymentUseCase.execute (paymentId : String) (supply : Supply) : Service Payment := do
  let payment ← PaymentRepository.get paymentId
  let (payment, event) ← ofExcept (payment.confirm supply.first)
  payment.assign
  PaymentRepository.save payment
  EventPublisher.publish event
  return payment

/-- `FailPaymentUseCase.execute`. -/
def FailPaymentUseCase.execute (paymentId reason : String) (supply : Supply) : Service Payment := do
  let payment ← PaymentRepository.get paymentId
  let (payment, event) ← ofExcept (payment.fail reason supply.first)
  payment.assign
  PaymentRepository.save payment
  EventPublisher.publish event
  return payment

/-! ## Settling a payment by the provider's status -/

/-- `ApplyPaymentStatusCommand`. -/
structure ApplyPaymentStatusCommand where
  /-- `payment_id`. -/
  paymentId : String
  /-- `provider_status`. -/
  providerStatus : String
  /-- `provider_status_detail`. -/
  providerStatusDetail : Option String
  deriving DecidableEq, Repr

/-- The `action` of a result. -/
inductive StatusAction where
  | confirmed
  | failed
  | ignored
  | duplicate
  deriving DecidableEq, Repr

/-- `ApplyPaymentStatusResult`. -/
structure ApplyPaymentStatusResult where
  /-- `payment`. -/
  payment : Payment
  /-- `action`. -/
  action : StatusAction
  /-- `published_event_type`. -/
  publishedEventType : Option EventType
  deriving DecidableEq

/-- The statuses that mean the money was paid. -/
def approvingStatuses : List String := ["approved", "accredited"]

/-- The statuses that mean it will not be. -/
def failingStatuses : List String :=
  ["rejected", "cancelled", "refunded", "charged_back", "expired", "failure"]

/-- The statuses that mean it is not known yet. -/
def openStatuses : List String := ["pending", "in_process"]

/-- `provider_status.strip().lower()`. -/
def normalizedStatus (providerStatus : String) : String := lower (strip providerStatus)

/-- `provider_status_detail or f"Mercado Pago status: …"`. -/
def ApplyPaymentStatusCommand.reason (command : ApplyPaymentStatusCommand) : String :=
  match command.providerStatusDetail with
  | none => "Mercado Pago status: " ++ command.providerStatus
  | some detail =>
    if detail = "" then "Mercado Pago status: " ++ command.providerStatus else detail

/-- The decision of `ApplyPaymentStatusUseCase.execute`: the payment after it, the event, the
    action. -/
def ApplyPaymentStatusUseCase.decide (payment : Payment) (command : ApplyPaymentStatusCommand)
    (stamp : Stamp) : Except Exc (Payment × Option DomainEvent × StatusAction) :=
  let normalized := normalizedStatus command.providerStatus
  if normalized ∈ approvingStatuses then
    if payment.status = .confirmed then .ok (payment, none, .duplicate)
    else if payment.status = .failed then .ok (payment, none, .ignored)
    else (payment.confirm stamp).map fun (payment, event) => (payment, some event, .confirmed)
  else if normalized ∈ failingStatuses then
    if payment.status = .confirmed then .ok (payment, none, .ignored)
    else if payment.status = .failed then .ok (payment, none, .duplicate)
    else
      (payment.fail command.reason stamp).map fun (payment, event) => (payment, some event, .failed)
  else if normalized ∈ openStatuses then .ok (payment, none, .ignored)
  else .error (.valueError ("Unsupported Mercado Pago status: " ++ command.providerStatus))

/-- `ApplyPaymentStatusUseCase.execute`. -/
def ApplyPaymentStatusUseCase.execute (command : ApplyPaymentStatusCommand) (supply : Supply) :
    Service ApplyPaymentStatusResult := do
  let payment ← PaymentRepository.get command.paymentId
  let (payment, event, action) ← ofExcept (decide payment command supply.first)
  if event.isSome then payment.assign
  PaymentRepository.save payment
  if let some event := event then EventPublisher.publish event
  return ⟨payment, action, event.map DomainEvent.eventType⟩

/-- `SyncPaymentStatusResult`. -/
structure SyncPaymentStatusResult where
  /-- `payment`. -/
  payment : Payment
  /-- `provider_payment_id`. -/
  providerPaymentId : String
  /-- `provider_status`. -/
  providerStatus : String
  /-- `provider_status_detail`. -/
  providerStatusDetail : Option String
  /-- `action`. -/
  action : StatusAction
  /-- `published_event_type`. -/
  publishedEventType : Option EventType
  deriving DecidableEq

/-- `SyncPaymentStatusUseCase.execute`. -/
def SyncPaymentStatusUseCase.execute (gateway : PaymentGateway) (paymentId : String)
    (supply : Supply) : Service SyncPaymentStatusResult := do
  let payment ← PaymentRepository.get paymentId
  let providerStatus ← PaymentGateway.call (gateway.getPaymentStatus payment)
  let result ← ApplyPaymentStatusUseCase.execute
    ⟨paymentId, providerStatus.status, providerStatus.statusDetail⟩ supply
  return ⟨result.payment, providerStatus.providerPaymentId, providerStatus.status,
    providerStatus.statusDetail, result.action, result.publishedEventType⟩

/-! ## What a decision can be -/

/-- **A decision either settles a payment and has its event, or leaves the payment as it is.** -/
theorem ApplyPaymentStatusUseCase.decide_eq_ok {payment p : Payment}
    {command : ApplyPaymentStatusCommand} {stamp : Stamp} {event : Option DomainEvent}
    {action : StatusAction} (h : decide payment command stamp = .ok (p, event, action)) :
    (normalizedStatus command.providerStatus ∈ approvingStatuses ∧ action = .confirmed ∧
        ∃ e, event = some e ∧ payment.confirm stamp = .ok (p, e)) ∨
      (action = .failed ∧ ∃ e, event = some e ∧ payment.fail command.reason stamp = .ok (p, e)) ∨
      (action = .duplicate ∧ event = none ∧ p = payment ∧
        (p.status = .confirmed ∨ p.status = .failed)) ∨
      (action = .ignored ∧ event = none ∧ p = payment) := by
  unfold decide at h
  simp only at h
  split at h
  · rename_i happ
    split at h
    · rename_i hs
      cases h
      exact Or.inr (Or.inr (Or.inl ⟨rfl, rfl, rfl, Or.inl hs⟩))
    · split at h
      · cases h
        exact Or.inr (Or.inr (Or.inr ⟨rfl, rfl, rfl⟩))
      · cases hc : payment.confirm stamp with
        | error e => rw [hc] at h; cases h
        | ok pe =>
          rw [hc] at h
          cases h
          exact Or.inl ⟨happ, rfl, _, rfl, rfl⟩
  · split at h
    · split at h
      · cases h
        exact Or.inr (Or.inr (Or.inr ⟨rfl, rfl, rfl⟩))
      · split at h
        · rename_i hs
          cases h
          exact Or.inr (Or.inr (Or.inl ⟨rfl, rfl, rfl, Or.inr hs⟩))
        · cases hf : payment.fail command.reason stamp with
          | error e => rw [hf] at h; cases h
          | ok pe =>
            rw [hf] at h
            cases h
            exact Or.inr (Or.inl ⟨rfl, _, rfl, rfl⟩)
    · split at h
      · cases h
        exact Or.inr (Or.inr (Or.inr ⟨rfl, rfl, rfl⟩))
      · cases h

/-- **A status settles open payments only.** -/
theorem ApplyPaymentStatusUseCase.decide_settles {payment p : Payment}
    {command : ApplyPaymentStatusCommand} {stamp : Stamp} {e : DomainEvent} {action : StatusAction}
    (h : decide payment command stamp = .ok (p, some e, action)) : payment.status ≠ .failed := by
  intro hfailed
  unfold decide at h
  have hne : ¬ payment.status = .confirmed := by rw [hfailed]; exact fun h => by cases h
  simp only [if_neg hne, if_pos hfailed] at h
  split at h
  · cases h
  · split at h
    · cases h
    · split at h
      · cases h
      · cases h

/-- What is done with a decision: write, and announce what was settled. -/
def ApplyPaymentStatusUseCase.applying :
    Payment × Option DomainEvent × StatusAction → Service ApplyPaymentStatusResult
  | (payment, none, action) => do
    PaymentRepository.save payment
    return ⟨payment, action, none⟩
  | (payment, some event, action) => do
    payment.assign
    PaymentRepository.save payment
    EventPublisher.publish event
    return ⟨payment, action, some event.eventType⟩

theorem ApplyPaymentStatusUseCase.execute_eq (command : ApplyPaymentStatusCommand) (supply : Supply) :
    execute command supply = PaymentRepository.get command.paymentId >>= fun payment =>
      ofExcept (decide payment command supply.first) >>= applying := by
  unfold execute
  refine congrArg _ (funext fun payment => congrArg _ (funext fun decision => ?_))
  obtain ⟨payment, event, action⟩ := decision
  cases event with
  | none => rfl
  | some event => rfl

end Billing

/-
  The ports (`src/application/ports.py` and the protocols of the payment gateway and its SDK client).

  Each port method is one atomic step of the signature `ports`.  Besides the methods there are two
  steps that the source does not write down as calls: `assign` of a quote and of a payment, for the
  attribute writes `self.status = …` and `self.preference = …` on an object that a repository may
  have handed out and still holds.

  A payment gateway is a program over the two calls of the SDK client; it takes the idempotency key
  that `new_idempotency_key` would make as an argument.
-/
import Billing.Lib.Program
import Billing.Domain.Payment

namespace Billing

open Py Atomic

/-! ## The SDK client and the gateway -/

/-- The calls of `MercadoPagoSdkClientPort`. -/
inductive SdkCall where
  /-- `create_preference(payload, idempotency_key)`. -/
  | createPreference (payload : Dict Json) (idempotencyKey : String)
  /-- `search_payments(filters)`. -/
  | searchPayments (filters : Dict String)

/-- Both calls answer with a dictionary. -/
abbrev sdk : Sig := ⟨SdkCall, fun _ => Dict Json⟩

/-- `PaymentGatewayPort`. -/
structure PaymentGateway where
  /-- `create_checkout_preference`. -/
  createCheckoutPreference (newIdempotencyKey quoteId serviceOrderId : String) (total : Money) :
    Program sdk Exc PaymentPreference
  /-- `get_payment_status`. -/
  getPaymentStatus (payment : Payment) : Program sdk Exc PaymentProviderStatus

/-! ## The steps -/

/-- The atomic steps of a request. -/
inductive Port where
  /-- `QuoteRepositoryPort.get`. -/
  | quoteGet (quoteId : String)
  /-- `QuoteRepositoryPort.save`. -/
  | quoteSave (quote : Quote)
  /-- The attributes of the quote object are now these. -/
  | quoteAssign (quote : Quote)
  /-- `PaymentRepositoryPort.get`. -/
  | paymentGet (paymentId : String)
  /-- `PaymentRepositoryPort.save`. -/
  | paymentSave (payment : Payment)
  /-- The attributes of the payment object are now these. -/
  | paymentAssign (payment : Payment)
  /-- `EventPublisherPort.publish`. -/
  | publish (event : DomainEvent)
  /-- `ProcessedEventRepositoryPort.is_processed`. -/
  | isProcessed (eventId : String)
  /-- `ProcessedEventRepositoryPort.mark_processed`. -/
  | markProcessed (eventId eventType correlationId : String)
  /-- A call of the SDK client. -/
  | sdk (call : SdkCall)

/-- What each step answers with. -/
abbrev Port.Res : Port → Type
  | quoteGet _ => Quote
  | paymentGet _ => Payment
  | isProcessed _ => Bool
  | sdk _ => Dict Json
  | _ => Unit

/-- The signature of the service. -/
abbrev ports : Sig := ⟨Port, Port.Res⟩

/-- A computation of the service. -/
abbrev Service (α : Type) : Type := Program ports Exc α

/-- A step that has been done for a request. -/
abbrev Event : Type := Done ports Exc

/-- Ask for one step. -/
abbrev Service.ask (o : Port) : Service o.Res := Program.perform (σ := ports) o

abbrev QuoteRepository.get (quoteId : String) : Service Quote := Service.ask (.quoteGet quoteId)

abbrev QuoteRepository.save (quote : Quote) : Service Unit := Service.ask (.quoteSave quote)

abbrev Quote.assign (self : Quote) : Service Unit := Service.ask (.quoteAssign self)

abbrev PaymentRepository.get (paymentId : String) : Service Payment := Service.ask (.paymentGet paymentId)

abbrev PaymentRepository.save (payment : Payment) : Service Unit := Service.ask (.paymentSave payment)

abbrev Payment.assign (self : Payment) : Service Unit := Service.ask (.paymentAssign self)

abbrev EventPublisher.publish (event : DomainEvent) : Service Unit := Service.ask (.publish event)

abbrev ProcessedEventRepository.isProcessed (eventId : String) : Service Bool :=
  Service.ask (.isProcessed eventId)

abbrev ProcessedEventRepository.markProcessed (eventId eventType correlationId : String) :
    Service Unit := Service.ask (.markProcessed eventId eventType correlationId)

/-- Run a gateway call as part of a request. -/
abbrev PaymentGateway.call {α : Type} (p : Program sdk Exc α) : Service α :=
  p.embed Port.sdk fun _ r => r

end Billing

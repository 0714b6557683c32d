/-
  The in-memory repositories (`in_memory_billing_repositories.py` and
  `InMemoryProcessedEventRepository`).

  They hold the objects themselves, so `get` hands out the stored object and a later write to its
  attributes is a write to the store.  `assignQuote` and `assignPayment` are that write: they change
  the entry of the object's id when there is one, and nothing when the object was never saved.
-/
import Billing.Domain.Payment
import Billing.Lib.Table

namespace Billing

open Keyed

/-- The three dictionaries. -/
structure Memory where
  /-- `InMemoryQuoteRepository._items`. -/
  quotes : Table String Quote Quote.quoteId
  /-- `InMemoryPaymentRepository._items`. -/
  payments : Table String Payment Payment.paymentId
  /-- `InMemoryProcessedEventRepository.events`. -/
  processedEvents : List String

/-- The empty dictionaries. -/
def Memory.empty : Memory := ⟨.empty, .empty, []⟩

/-- `InMemoryQuoteRepository.get`. -/
def InMemoryQuoteRepository.get (m : Memory) (quoteId : String) : Except Exc Quote :=
  match m.quotes.find? quoteId with
  | none => .error (.keyError ("Quote not found: " ++ quoteId))
  | some quote => .ok quote

/-- `InMemoryQuoteRepository.save`. -/
def InMemoryQuoteRepository.save (m : Memory) (quote : Quote) : Memory :=
  { m with quotes := m.quotes.upsert quote }

/-- A write to the attributes of a quote object. -/
def Memory.assignQuote (m : Memory) (quote : Quote) : Memory :=
  match m.quotes.find? quote.quoteId with
  | none => m
  | some _ => { m with quotes := m.quotes.upsert quote }

/-- `InMemoryPaymentRepository.get`. -/
def InMemoryPaymentRepository.get (m : Memory) (paymentId : String) : Except Exc Payment :=
  match m.payments.find? paymentId with
  | none => .error (.keyError ("Payment not found: " ++ paymentId))
  | some payment => .ok payment

/-- `InMemoryPaymentRepository.save`. -/
def InMemoryPaymentRepository.save (m : Memory) (payment : Payment) : Memory :=
  { m with payments := m.payments.upsert payment }

/-- A write to the attributes of a payment object. -/
def Memory.assignPayment (m : Memory) (payment : Payment) : Memory :=
  match m.payments.find? payment.paymentId with
  | none => m
  | some _ => { m with payments := m.payments.upsert payment }

/-- `InMemoryQuoteRepository.get_by_service_order_id`. -/
def InMemoryQuoteRepository.getByServiceOrderId (m : Memory) (serviceOrderId : String) :
    Except Exc Quote :=
  match m.quotes.rows.find? fun quote => decide (quote.serviceOrderId = serviceOrderId) with
  | none => .error (.keyError ("Quote not found for service order: " ++ serviceOrderId))
  | some quote => .ok quote

/-- `InMemoryPaymentRepository.get_by_service_order_id`. -/
def InMemoryPaymentRepository.getByServiceOrderId (m : Memory) (serviceOrderId : String) :
    Except Exc Payment :=
  match m.payments.rows.find? fun payment => decide (payment.serviceOrderId = serviceOrderId) with
  | none => .error (.keyError ("Payment not found for service order: " ++ serviceOrderId))
  | some payment => .ok payment

/-- `InMemoryProcessedEventRepository.is_processed`. -/
def InMemoryProcessedEventRepository.isProcessed (m : Memory) (eventId : String) : Bool :=
  decide (eventId ∈ m.processedEvents)

/-- `InMemoryProcessedEventRepository.mark_processed`. -/
def InMemoryProcessedEventRepository.markProcessed (m : Memory) (eventId : String) : Memory :=
  { m with processedEvents := m.processedEvents.insert eventId }

end Billing

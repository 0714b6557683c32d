/-
  Exceptions and domain events (`src/domain/events.py`).

  A `DomainEvent` gets its `event_id` and `occurred_at` from `uuid4` and the clock; here they come
  from outside as a `Stamp`, so that creating an event is a pure function.
-/
import Billing.Lib.Json

namespace Billing

open Py

/-! ## Exceptions -/

/-- The exceptions that the service raises or lets through. -/
inductive Exc where
  /-- `KeyError`. -/
  | keyError (text : String)
  /-- `ValueError`. -/
  | valueError (text : String)
  /-- `TypeError`. -/
  | typeError (text : String)
  /-- `decimal.InvalidOperation`. -/
  | invalidOperation
  /-- `PaymentGatewayError`. -/
  | paymentGatewayError (message : String) (statusCode : Option Int)
  /-- Whatever else a driver, a broker or the operating system raises. -/
  | infrastructure (text : String)
  deriving DecidableEq, Repr

/-- `d[key]`. -/
def getItem (d : Dict Json) (key : String) : Except Exc Json :=
  match d.get? key with
  | some value => .ok value
  | none => .error (.keyError key)

@[simp] theorem ok_bind {α β : Type} (a : α) (f : α → Except Exc β) :
    (Except.ok a >>= f) = f a := rfl

@[simp] theorem error_bind {α β : Type} (e : Exc) (f : α → Except Exc β) :
    (Except.error e >>= f) = Except.error e := rfl

/-- A sequence that ended well went through its first part. -/
theorem bind_eq_ok {α β : Type} {x : Except Exc α} {f : α → Except Exc β} {b : β} :
    (x >>= f) = .ok b ↔ ∃ a, x = .ok a ∧ f a = .ok b := by
  cases x with
  | error e => exact ⟨fun h => (by cases h), fun ⟨_, h, _⟩ => (by cases h)⟩
  | ok a => exact ⟨fun h => ⟨a, rfl, h⟩, fun ⟨_, h, hf⟩ => Except.ok.inj h ▸ hf⟩

/-! ## Events -/

/-- The event types that the domain announces. -/
inductive EventType where
  | quoteCreated
  | quoteApproved
  | quoteCancelled
  | paymentPreferenceCreated
  | paymentConfirmed
  | paymentFailed
  deriving DecidableEq, Repr

/-- The `event_type` string. -/
def EventType.text : EventType → String
  | quoteCreated => "QUOTE_CREATED"
  | quoteApproved => "QUOTE_APPROVED"
  | quoteCancelled => "QUOTE_CANCELLED"
  | paymentPreferenceCreated => "PAYMENT_PREFERENCE_CREATED"
  | paymentConfirmed => "PAYMENT_CONFIRMED"
  | paymentFailed => "PAYMENT_FAILED"

/-- A fresh event id and the time of the event, in ISO format. -/
structure Stamp where
  /-- `str(uuid4())`. -/
  eventId : String
  /-- `datetime.now(UTC).isoformat()`. -/
  occurredAt : String
  deriving DecidableEq, Repr

/-- `DomainEvent`. -/
structure DomainEvent where
  /-- `event_type`. -/
  eventType : EventType
  /-- `correlation_id`. -/
  correlationId : String
  /-- `payload`. -/
  payload : Dict String
  /-- `event_id`. -/
  eventId : String
  /-- `occurred_at`. -/
  occurredAt : String
  deriving DecidableEq, Repr

/-- `DomainEvent.to_message`. -/
def DomainEvent.toMessage (self : DomainEvent) : Dict Json :=
  [("event_id", .str self.eventId),
    ("event_type", .str self.eventType.text),
    ("correlation_id", .str self.correlationId),
    ("occurred_at", .str self.occurredAt),
    ("payload", .dict (self.payload.map fun kv => (kv.1, .str kv.2)))]

end Billing

/-
  The envelope of integration events (`src/infrastructure/messaging/event_contracts.py`).

  `EventMessage` is a message that passed the check; the worker hands nothing else to its handler,
  so what the handler relies on (the envelope fields are there, the payload is an object) are facts
  about the type.
-/
import Billing.Domain.Events

namespace Billing

open Py

variable [Python]

/-- `INTEGRATION_EVENT_TYPES`. -/
def integrationEventTypes : List String :=
  ["OS_OPENED", "QUOTE_CREATED", "QUOTE_APPROVED", "QUOTE_CANCELLED", "PAYMENT_PREFERENCE_CREATED",
    "PAYMENT_CONFIRMED", "PAYMENT_FAILED"]

/-- The required fields of a message, sorted. -/
def requiredFields : List String :=
  ["correlation_id", "event_id", "event_type", "occurred_at", "payload"]

/-- `value in INTEGRATION_EVENT_TYPES`: a value that has no hash is not compared. -/
def isIntegrationEventType : Json → Except Exc Bool
  | .str s => .ok (decide (s ∈ integrationEventTypes))
  | .list _ => .error (.typeError "unhashable type: 'list'")
  | .dict _ => .error (.typeError "unhashable type: 'dict'")
  | _ => .ok false

/-- `isinstance(value, dict)`. -/
def isDict : Json → Bool
  | .dict _ => true
  | _ => false

/-- `validate_event_message`. -/
def validateEventMessage (message : Dict Json) : Except Exc Unit := do
  let missingFields := requiredFields.filter fun field => (message.get? field).isNone
  if missingFields ≠ [] then
    throw (.valueError ("Event message is missing fields: " ++
      (Json.list (missingFields.map .str)).text))
  let eventType ← getItem message "event_type"
  let supported ← isIntegrationEventType eventType
  if !supported then throw (.valueError ("Unsupported event type: " ++ eventType.text))
  let payload ← getItem message "payload"
  if !isDict payload then throw (.valueError "Event payload must be an object")

/-- `event_to_message`. -/
def eventToMessage (event : DomainEvent) : Except Exc (Dict Json) := do
  let message := event.toMessage
  validateEventMessage message
  return message

/-- A message that passed `validate_event_message`. -/
structure EventMessage where
  /-- The message. -/
  message : Dict Json
  /-- It passed the check. -/
  valid : validateEventMessage message = .ok ()

omit [Python] in
/-- No field is missing exactly when all are there. -/
theorem missing_eq_nil_iff {message : Dict Json} :
    (requiredFields.filter fun field => (message.get? field).isNone) = [] ↔
      ∀ field ∈ requiredFields, (message.get? field).isSome = true := by
  rw [List.filter_eq_nil_iff]
  refine forall₂_congr fun field _ => ?_
  rw [Bool.not_eq_true, Option.isNone_eq_false_iff]

omit [Python] in
theorem EventType.text_supported (t : EventType) : t.text ∈ integrationEventTypes := by
  cases t <;> decide

/-- **Every event of the domain is a valid message**, so a publisher never refuses one. -/
theorem validateEventMessage_toMessage (event : DomainEvent) :
    validateEventMessage event.toMessage = .ok () := by
  have hmissing : (requiredFields.filter fun field => (event.toMessage.get? field).isNone) = [] := rfl
  have htype : getItem event.toMessage "event_type" = .ok (.str event.eventType.text) := rfl
  have hpayload : getItem event.toMessage "payload" =
      .ok (.dict (event.payload.map fun kv => (kv.1, .str kv.2))) := rfl
  have hsupported : isIntegrationEventType (.str event.eventType.text) = .ok true := by
    rw [isIntegrationEventType, decide_eq_true event.eventType.text_supported]
  unfold validateEventMessage
  simp only [hmissing, htype, hpayload]
  show (do
    let supported ← isIntegrationEventType (.str event.eventType.text)
    if !supported then throw _
    _) = _
  rw [hsupported]
  rfl

theorem eventToMessage_eq (event : DomainEvent) : eventToMessage event = .ok event.toMessage := by
  unfold eventToMessage
  simp only [validateEventMessage_toMessage event]
  rfl

end Billing

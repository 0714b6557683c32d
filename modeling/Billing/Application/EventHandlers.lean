/-
  The worker's handler (`src/application/event_handlers.py`).

  It is handed messages that passed `validate_event_message` only, and creates a quote for each
  `OS_OPENED` event that it has not seen.
-/
import Billing.Application.UseCases
import Billing.Infrastructure.EventContracts

namespace Billing

open Py Atomic Program

variable [Python]

/-- What the handler was configured with. -/
structure BillingIntegrationEventHandler where
  /-- `default_items`. -/
  defaultItems : List String
  /-- `default_amount`. -/
  defaultAmount : Decimal

/-- `dict(payload)`; the payload of a message that passed the check is a dictionary. -/
def asDict : Json → Except Exc (Dict Json)
  | .dict kvs => .ok kvs
  | _ => .error (.typeError "cannot convert dictionary update sequence")

/-- `BillingIntegrationEventHandler.handle`. -/
def BillingIntegrationEventHandler.handle (self : BillingIntegrationEventHandler)
    (message : EventMessage) (supply : Supply) : Service String := do
  let eventId ← ofExcept (getItem message.message "event_id")
  let eventType ← ofExcept (getItem message.message "event_type")
  let correlationId ← ofExcept (getItem message.message "correlation_id")
  let processed ← ProcessedEventRepository.isProcessed eventId.text
  if processed then return "skipped"
  if eventType.text ≠ "OS_OPENED" then return "ignored"
  let payload ← ofExcept (getItem message.message "payload" >>= asDict)
  let serviceOrderId ← ofExcept (getItem payload "service_order_id")
  let _ ← CreateQuoteUseCase.execute
    ⟨serviceOrderId.text, self.defaultItems, self.defaultAmount⟩ supply
  ProcessedEventRepository.markProcessed eventId.text eventType.text correlationId.text
  return "processed"

end Billing

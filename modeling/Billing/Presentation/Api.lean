/-
  The routes of the API (`presentation/api/routes/billing_routes.py`), and the counter that they keep
  (`observability/metrics.py`).

  A route runs its use case, counts a payment that was settled, and answers.  `answerOf` and
  `transitionOf` say what it answers and counts when the use case came to this end, and `api` is the
  service behind them: any number of requests in any interleaving, each with its route's last steps.
  The worker's deliveries are requests of the service too; nobody gets an answer for those.
-/
import Billing.Lib.FrontEnd
import Billing.Presentation.Routes

namespace Billing

open Py Atomic Program

/-! ## Bodies -/

/-- `quote_to_response`. -/
def quoteToResponse (quote : Quote) : Dict Json :=
  [("quote_id", .str quote.quoteId),
    ("service_order_id", .str quote.serviceOrderId),
    ("items", .list (quote.items.map .str)),
    ("amount", .str quote.total.amount.toText),
    ("currency", .str quote.total.currency),
    ("status", .str quote.status.value)]

/-- `_apply_payment_status`, of the result of its use case. -/
def applyToResponse (result : ApplyPaymentStatusResult) : Dict Json :=
  paymentToResponse result.payment ++
    [("action", .str result.action.text),
      ("published_event_type", jsonOfOption (result.publishedEventType.map EventType.text))]

/-! ## Answers -/

variable [Python]

/-- `create_quote`, after the use case. -/
def createQuoteAnswer : Except Exc Quote → Answer
  | .ok quote => .ok (quoteToResponse quote)
  | .error (.valueError text) => .failed 400 text
  | .error e => .unhandled e

/-- What a route that reads answers: it only catches `KeyError`. -/
def readAnswer {α : Type} (toResponse : α → Dict Json) : Except Exc α → Answer
  | .ok a => .ok (toResponse a)
  | .error (.keyError text) => .failed 404 (keyErrorText text)
  | .error e => .unhandled e

/-- `get_quote` and `get_quote_by_service_order`, after the repository. -/
def getQuoteAnswer : Except Exc Quote → Answer := readAnswer quoteToResponse

/-- `get_payment` and `get_payment_by_service_order`, after the repository. -/
def getPaymentAnswer : Except Exc Payment → Answer := readAnswer paymentToResponse

/-- What a route that settles a payment answers: it catches `KeyError` and `ValueError`. -/
def settleAnswer {α : Type} (toResponse : α → Dict Json) : Except Exc α → Answer
  | .ok a => .ok (toResponse a)
  | .error (.keyError text) => .failed 404 (keyErrorText text)
  | .error (.valueError text) => .failed 400 text
  | .error e => .unhandled e

/-- `confirm_payment`, after the use case. -/
def confirmPaymentAnswer : Except Exc Payment → Answer := settleAnswer paymentToResponse

/-- `fail_payment`, after the use case. -/
def failPaymentAnswer : Except Exc Payment → Answer := settleAnswer paymentToResponse

/-- `simulate_payment_update`, after the use case. -/
def simulatePaymentUpdateAnswer : Except Exc ApplyPaymentStatusResult → Answer :=
  settleAnswer applyToResponse

/-! ## Counting -/

/-- The `result` label of `PAYMENT_TRANSITION_COUNTER`. -/
inductive TransitionResult where
  | confirmed
  | failed
  deriving DecidableEq, Repr

/-- The event that announces such a transition. -/
def TransitionResult.eventType : TransitionResult → EventType
  | confirmed => .paymentConfirmed
  | failed => .paymentFailed

/-- `if result.action == "confirmed": … elif result.action == "failed": …`. -/
def StatusAction.transition : StatusAction → Option TransitionResult
  | confirmed => some .confirmed
  | failed => some .failed
  | ignored => none
  | duplicate => none

/-- The steps of the counter: `PAYMENT_TRANSITION_COUNTER.labels(result=…).inc()`. -/
abbrev metrics : Sig := ⟨TransitionResult, fun _ => Unit⟩

/-- What a route counts when its use case came to this end. -/
def transitionOf : Command → Except Exc Response → Option TransitionResult
  | .confirmPayment _, .ok _ => some .confirmed
  | .failPayment _ _, .ok _ => some .failed
  | .applyPaymentStatus _, .ok (.applied result) => result.action.transition
  | .syncPaymentStatus _, .ok (.synced result) => result.action.transition
  | _, _ => none

/-- What a route answers when its use case came to this end.  The last two lines are for messages of the
    worker, and for responses that the command does not return. -/
def answerOf : Command → Except Exc Response → Option Answer
  | .createQuote _, .ok (.quote quote) => some (createQuoteAnswer (.ok quote))
  | .createQuote _, .error e => some (createQuoteAnswer (.error e))
  | .approveQuote _, .ok (.payment payment) => some (approveQuoteAnswer (.ok payment))
  | .approveQuote _, .error e => some (approveQuoteAnswer (.error e))
  | .confirmPayment _, .ok (.payment payment) => some (confirmPaymentAnswer (.ok payment))
  | .confirmPayment _, .error e => some (confirmPaymentAnswer (.error e))
  | .failPayment _ _, .ok (.payment payment) => some (failPaymentAnswer (.ok payment))
  | .failPayment _ _, .error e => some (failPaymentAnswer (.error e))
  | .applyPaymentStatus _, .ok (.applied result) => some (simulatePaymentUpdateAnswer (.ok result))
  | .applyPaymentStatus _, .error e => some (simulatePaymentUpdateAnswer (.error e))
  | .syncPaymentStatus _, .ok (.synced result) => some (syncPaymentStatusAnswer (.ok result))
  | .syncPaymentStatus _, .error e => some (syncPaymentStatusAnswer (.error e))
  | .handle _, _ => none
  | _, .ok _ => none

/-- The last steps of a route: it counts, and answers. -/
def finishRoute (command : Command) (r : Except Exc Response) : Program metrics Exc (Option Answer) :=
  match transitionOf command r with
  | none => .ret (answerOf command r)
  | some result => do
    perform (σ := metrics) result
    return answerOf command r

/-- `PAYMENT_TRANSITION_COUNTER`. -/
abbrev TransitionCounter : Type := TransitionResult → Nat

variable {b : Backend} {d : Deployment}

/-- The routes of the API. -/
abbrev routes (b : Backend) (d : Deployment) : FrontEnd (system b d) metrics (Option Answer) where
  State := TransitionCounter
  finish := fun req r => finishRoute (Request.command req) r
  exec := fun result counter => (.ok (), Function.update counter result (counter result + 1))

/-- **The service behind its routes.** -/
abbrev api (b : Backend) (d : Deployment) : System (ports.sum metrics) Exc (Option Answer) :=
  (system b d).behind (routes b d)

/-- Nothing stored, nothing published, nothing counted. -/
def apiStart (b : Backend) (d : Deployment) : Config (api b d) := ⟨(World.empty b, fun _ => 0), []⟩

/-! ## Reading -/

/-- `get_quote`. -/
def World.getQuote (w : World b) (quoteId : String) : Answer :=
  getQuoteAnswer (b.quoteGet w.store quoteId)

/-- `get_payment`. -/
def World.getPayment (w : World b) (paymentId : String) : Answer :=
  getPaymentAnswer (b.paymentGet w.store paymentId)

end Billing

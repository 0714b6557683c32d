/-
  The routes of the two use cases that ask the payment provider
  (`presentation/api/routes/billing_routes.py`).

  A route runs its use case and turns what comes back into an answer: a body, an `HTTPException` for
  the exceptions that it catches, and nothing at all for the others.
-/
import Billing.Session

namespace Billing

open Py

/-- What a request gets from its route. -/
inductive Answer where
  /-- `200`, with this body. -/
  | ok (body : Dict Json)
  /-- An `HTTPException`. -/
  | failed (statusCode : Int) (detail : String)
  /-- The exception is caught by nobody; the server answers with an error of its own. -/
  | unhandled (exc : Exc)

/-- The status of an answer. -/
def Answer.statusCode : Answer → Int
  | ok _ => 200
  | failed statusCode _ => statusCode
  | unhandled _ => 500

/-- `preference.external_reference` and other texts that may be `None`. -/
def jsonOfOption : Option String → Json
  | none => .null
  | some s => .str s

/-- `payment_to_response`. -/
def paymentToResponse (payment : Payment) : Dict Json :=
  [("payment_id", .str payment.paymentId),
    ("quote_id", .str payment.quoteId),
    ("service_order_id", .str payment.serviceOrderId),
    ("amount", .str payment.total.amount.toText),
    ("currency", .str payment.total.currency),
    ("status", .str payment.status.value),
    ("preference",
      match payment.preference with
      | none => .null
      | some preference => .dict
        [("preference_id", .str preference.preferenceId),
          ("checkout_url", .str preference.checkoutUrl),
          ("external_reference", jsonOfOption preference.externalReference)])]

variable [Python]

/-- `str(KeyError(text))`. -/
def keyErrorText (text : String) : String := String.ofList (strReprChars text)

/-- `approve_quote`, after the use case. -/
def approveQuoteAnswer : Except Exc Payment → Answer
  | .ok payment => .ok (paymentToResponse payment)
  | .error (.keyError text) => .failed 404 (keyErrorText text)
  | .error (.paymentGatewayError message _) => .failed 502 message
  | .error (.valueError text) => .failed 400 text
  | .error e => .unhandled e

/-- The `action` text of a result. -/
def StatusAction.text : StatusAction → String
  | confirmed => "confirmed"
  | failed => "failed"
  | ignored => "ignored"
  | duplicate => "duplicate"

/-- The response of `sync_payment_status`. -/
def syncToResponse (result : SyncPaymentStatusResult) : Dict Json :=
  paymentToResponse result.payment ++
    [("provider_payment_id", .str result.providerPaymentId),
      ("provider_status", .str result.providerStatus),
      ("provider_status_detail", jsonOfOption result.providerStatusDetail),
      ("action", .str result.action.text),
      ("published_event_type", jsonOfOption (result.publishedEventType.map EventType.text))]

/-- `exc.status_code or status.HTTP_502_BAD_GATEWAY`. -/
def orBadGateway : Option Int → Int
  | none => 502
  | some statusCode => if statusCode = 0 then 502 else statusCode

/-- `sync_payment_status`, after the use case. -/
def syncPaymentStatusAnswer : Except Exc SyncPaymentStatusResult → Answer
  | .ok result => .ok (syncToResponse result)
  | .error (.keyError text) => .failed 404 (keyErrorText text)
  | .error (.paymentGatewayError message statusCode) => .failed (orBadGateway statusCode) message
  | .error (.valueError text) => .failed 400 text
  | .error e => .unhandled e

variable {b : Backend}

/-- `POST /quotes/{quote_id}/approve`, while store and broker work. -/
def World.approveQuote (w : World b) (gateway : PaymentGateway) (answers : SdkAnswers)
    (quoteId : String) (supply : Supply) : Answer × World b :=
  let (result, w) := w.run answers (ApproveQuoteUseCase.execute gateway quoteId supply)
  (approveQuoteAnswer result, w)

/-- `POST /payments/{payment_id}/sync`, while store and broker work. -/
def World.syncPaymentStatus (w : World b) (gateway : PaymentGateway) (answers : SdkAnswers)
    (paymentId : String) (supply : Supply) : Answer × World b :=
  let (result, w) := w.run answers (SyncPaymentStatusUseCase.execute gateway paymentId supply)
  (syncPaymentStatusAnswer result, w)

end Billing

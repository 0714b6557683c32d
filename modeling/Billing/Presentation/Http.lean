/-
  The API as a client sees it (`presentation/api/routes/billing_routes.py`), while store and broker work.

  Every endpoint asks `require_admin_principal` first, and the test endpoint whether it is enabled.  What
  passes is served by its use case, against whatever the provider answers, and turned into a status and a
  body.  `Api.serve` answers requests one after the other.
-/
import Billing.Presentation.Api
import Billing.Presentation.Auth

namespace Billing

open Py

/-! ## Requests and responses -/

/-- An endpoint with its parameters and its payload. -/
inductive Endpoint where
  /-- `POST /quotes`. -/
  | createQuote (payload : CreateQuoteCommand)
  /-- `GET /quotes/{quote_id}`. -/
  | getQuote (quoteId : String)
  /-- `POST /quotes/{quote_id}/approve`. -/
  | approveQuote (quoteId : String)
  /-- `GET /payments/{payment_id}`. -/
  | getPayment (paymentId : String)
  /-- `POST /payments/{payment_id}/confirm`. -/
  | confirmPayment (paymentId : String)
  /-- `POST /payments/{payment_id}/fail`. -/
  | failPayment (paymentId reason : String)
  /-- `POST /payments/{payment_id}/sync`. -/
  | syncPaymentStatus (paymentId : String)
  /-- `POST /internal/test/payments/{payment_id}/simulate`. -/
  | simulatePaymentUpdate (paymentId status : String) (statusDetail : Option String)

/-- A request, with the fresh values that serving it may draw. -/
structure HttpRequest where
  /-- The endpoint. -/
  endpoint : Endpoint
  /-- What `HTTPBearer` read from the request. -/
  credentials : Option HttpAuthorizationCredentials
  /-- The fresh values. -/
  supply : Supply

/-- A response. -/
structure HttpResponse where
  /-- The status. -/
  statusCode : Int
  /-- The body (`[]`: the server's own text for an exception that nobody catches). -/
  body : Dict Json
  /-- The headers that the application sets. -/
  headers : Dict String

/-- `{"detail": …}`. -/
def detailOf (text : String) : Dict Json := [("detail", .str text)]

/-- The response to an `HTTPException`. -/
def HttpException.response (e : HttpException) : HttpResponse :=
  ⟨e.statusCode, detailOf e.detail, e.headers⟩

/-- The status of a route that returns: its decorator's, or `200`. -/
def Endpoint.successStatus : Endpoint → Int
  | createQuote _ => 201
  | _ => 200

/-- The response to an answer. -/
def Endpoint.response (endpoint : Endpoint) : Answer → HttpResponse
  | .ok body => ⟨endpoint.successStatus, body, []⟩
  | .failed statusCode detail => ⟨statusCode, detailOf detail, []⟩
  | .unhandled _ => ⟨500, [], []⟩

/-- What the API was built with, and what the provider answers. -/
structure Api where
  /-- The tokens. -/
  jwt : JwtOracle
  /-- The settings of the gate. -/
  settings : Settings
  /-- `ENABLE_INTERNAL_TEST_ENDPOINTS`. -/
  internalTestEndpoints : Bool
  /-- The payment gateway. -/
  gateway : PaymentGateway
  /-- What the SDK client answers. -/
  answers : SdkAnswers

variable [Python] {b : Backend}

/-- A route that runs a use case and answers. -/
def World.through {α : Type} (w : World b) (answers : SdkAnswers) (useCase : Service α)
    (answer : Except Exc α → Answer) : Answer × World b :=
  let (result, w) := w.run answers useCase
  (answer result, w)

/-- The route of an endpoint, for an admin. -/
def Api.route (self : Api) (w : World b) (supply : Supply) : Endpoint → Answer × World b
  | .createQuote payload =>
    w.through self.answers (CreateQuoteUseCase.execute payload supply) createQuoteAnswer
  | .getQuote quoteId => (w.getQuote quoteId, w)
  | .approveQuote quoteId =>
    w.through self.answers (ApproveQuoteUseCase.execute self.gateway quoteId supply) approveQuoteAnswer
  | .getPayment paymentId => (w.getPayment paymentId, w)
  | .confirmPayment paymentId =>
    w.through self.answers (ConfirmPaymentUseCase.execute paymentId supply) confirmPaymentAnswer
  | .failPayment paymentId reason =>
    w.through self.answers (FailPaymentUseCase.execute paymentId reason supply) failPaymentAnswer
  | .syncPaymentStatus paymentId =>
    w.through self.answers (SyncPaymentStatusUseCase.execute self.gateway paymentId supply)
      syncPaymentStatusAnswer
  | .simulatePaymentUpdate paymentId status statusDetail =>
    if !self.internalTestEndpoints then (.failed 404 "Internal test endpoints are disabled.", w)
    else
      w.through self.answers
        (ApplyPaymentStatusUseCase.execute ⟨paymentId, status, statusDetail⟩ supply)
        simulatePaymentUpdateAnswer

/-- `Depends(require_admin_principal)`. -/
def Api.admits (self : Api) (req : HttpRequest) : Except HttpException AuthenticatedPrincipal :=
  requireAdminPrincipal self.jwt self.settings req.credentials

/-- A request is answered. -/
def Api.respond (self : Api) (w : World b) (req : HttpRequest) : HttpResponse × World b :=
  match self.admits req with
  | .error e => (e.response, w)
  | .ok _ =>
    let (answer, w) := self.route w req.supply req.endpoint
    (req.endpoint.response answer, w)

/-- Requests one after the other: the responses, and the world after them. -/
def Api.serve (self : Api) : World b → List HttpRequest → List HttpResponse × World b
  | w, [] => ([], w)
  | w, req :: reqs =>
    let (response, w) := self.respond w req
    let (responses, w) := self.serve w reqs
    (response :: responses, w)

end Billing

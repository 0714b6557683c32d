/-
  The middleware of `main.py`: every response gets the operational headers, is counted and is logged.

  What it does after the response has no `await` in it, so the responses go through it one after the
  other, in the order in which they complete.  Between them, other loggers write their records to the
  same stream.  The time that a request took is left out, and how often it is observed is kept.
-/
import Billing.Infrastructure.Logging
import Billing.Presentation.Http

namespace Billing

open Py

/-- The settings that the middleware logs. -/
structure AppInfo where
  /-- `APP_NAME`. -/
  appName : String
  /-- `ENVIRONMENT`. -/
  environment : String
  /-- `APP_VERSION`. -/
  appVersion : String

/-- What the middleware reads of a request. -/
structure IncomingRequest where
  /-- `request.method`. -/
  method : String
  /-- `request.url.path`. -/
  path : String
  /-- `request.headers.get`. -/
  header : String → Option String

/-- `correlation_id`, for a fresh id. -/
def IncomingRequest.correlationId (request : IncomingRequest) (fresh : String) : String :=
  (request.header "X-Correlation-ID").getD fresh

/-- `request_id`. -/
def IncomingRequest.requestId (request : IncomingRequest) (fresh : String) : String :=
  (request.header "X-Request-ID").getD (request.correlationId fresh)

/-- The labels of `REQUEST_COUNTER`. -/
structure RequestLabels where
  /-- `method`. -/
  method : String
  /-- `path`. -/
  path : String
  /-- `status_code`. -/
  statusCode : Int
  deriving DecidableEq, Repr

/-- What the middleware writes to. -/
structure Operations where
  /-- The stream of the log. -/
  stream : String
  /-- `REQUEST_COUNTER`. -/
  requestCounter : RequestLabels → Nat
  /-- How many times `REQUEST_DURATION` was observed. -/
  requestDuration : String × String → Nat

/-- Nothing is logged and counted yet. -/
def Operations.start : Operations := ⟨"", fun _ => 0, fun _ => 0⟩

/-- The headers that the middleware sets. -/
def operationalHeaders (correlationId requestId : String) (headers : Dict String) : Dict String :=
  ((((headers.set "X-Correlation-ID" correlationId).set "X-Request-ID" requestId).set
    "X-Content-Type-Options" "nosniff").set "X-Frame-Options" "DENY").set
    "Referrer-Policy" "strict-origin-when-cross-origin"

/-- A response with these headers. -/
def HttpResponse.withOperationalHeaders (response : HttpResponse) (correlationId requestId : String) :
    HttpResponse := { response with headers := operationalHeaders correlationId requestId response.headers }

/-- The record of a request. -/
def requestCompleted (app : AppInfo) (correlationId requestId : String) : LogRecord where
  level := .info
  name := "src.main"
  message := "Request completed"
  extra := [("correlation_id", correlationId), ("request_id", requestId), ("service", app.appName),
    ("env", app.environment), ("version", app.appVersion)]

/-- **`add_operational_headers_and_logs`**, of a request, of the fresh id that it draws and of what
    `call_next` returns (`none`: it raises). -/
def addOperationalHeadersAndLogs (app : AppInfo) (root : RootLogger) (request : IncomingRequest)
    (fresh : String) (called : Option HttpResponse) (ops : Operations) :
    Option HttpResponse × Operations :=
  let correlationId := request.correlationId fresh
  let requestId := request.requestId fresh
  match called with
  | none => (none, ops)
  | some response =>
    let labels : RequestLabels := ⟨request.method, request.path, response.statusCode⟩
    let duration := (request.method, request.path)
    (some (response.withOperationalHeaders correlationId requestId),
      { stream := root.handle (requestCompleted app correlationId requestId) ops.stream
        requestCounter := Function.update ops.requestCounter labels (ops.requestCounter labels + 1)
        requestDuration := Function.update ops.requestDuration duration (ops.requestDuration duration + 1) })

/-! ## A run -/

/-- What happens to the middleware and to the log. -/
inductive Occurrence where
  /-- A request completes. -/
  | completed (request : IncomingRequest) (fresh : String) (called : Option HttpResponse)
  /-- Another logger has a record. -/
  | logged (record : LogRecord)

/-- The responses that were sent, with their requests, and the state. -/
structure Traffic where
  /-- The responses. -/
  responses : List (IncomingRequest × HttpResponse)
  /-- The state. -/
  ops : Operations

/-- One occurrence. -/
def Traffic.next (app : AppInfo) (root : RootLogger) (traffic : Traffic) : Occurrence → Traffic
  | .completed request fresh called =>
    let (response, ops) := addOperationalHeadersAndLogs app root request fresh called traffic.ops
    ⟨traffic.responses ++ (response.map fun response => (request, response)).toList, ops⟩
  | .logged record =>
    ⟨traffic.responses, { traffic.ops with stream := root.handle record traffic.ops.stream }⟩

/-- **A run**, from the start of the service. -/
def serveAll (app : AppInfo) (root : RootLogger) (occurrences : List Occurrence) : Traffic :=
  occurrences.foldl (Traffic.next app root) ⟨[], .start⟩

end Billing

/-
  The service as a system: requests served over one of the two stores
  (`billing_routes.py`, `runtime.py` and the worker put these together).

  A `Backend` says what each repository method does to a store; `sql` and `memory` are the two the
  source has.  `exec` adds what the environment decides about a step, its `Fate`: the step goes
  through, or it raises (a write may then have been committed or not), or the provider answers.
  A publisher keeps the events it was handed and those it accepted.

  Ids are fresh: a request only arrives with a supply of ids that nobody was issued before.
-/
import Billing.Lib.Pool
import Billing.Application.EventHandlers
import Billing.Infrastructure.SqlRepositories
import Billing.Infrastructure.MemoryRepositories
import Billing.Infrastructure.Gateways

namespace Billing

open Py Atomic Program

variable [Python]

/-! ## Requests -/

/-- What can be asked of the service. -/
inductive Command where
  /-- `POST /quotes`. -/
  | createQuote (command : CreateQuoteCommand)
  /-- `POST /quotes/{quote_id}/approve`. -/
  | approveQuote (quoteId : String)
  /-- `POST /payments/{payment_id}/confirm`. -/
  | confirmPayment (paymentId : String)
  /-- `POST /payments/{payment_id}/fail`. -/
  | failPayment (paymentId reason : String)
  /-- `POST /internal/test/payments/{payment_id}/simulate`. -/
  | applyPaymentStatus (command : ApplyPaymentStatusCommand)
  /-- `POST /payments/{payment_id}/sync`. -/
  | syncPaymentStatus (paymentId : String)
  /-- A message for the worker. -/
  | handle (message : EventMessage)

/-- A command with the fresh values it may draw. -/
structure Request where
  /-- The command. -/
  command : Command
  /-- The fresh values. -/
  supply : Supply

/-- What a request returns. -/
inductive Response where
  | quote (quote : Quote)
  | payment (payment : Payment)
  | applied (result : ApplyPaymentStatusResult)
  | synced (result : SyncPaymentStatusResult)
  | handled (text : String)
  deriving DecidableEq

/-- What the service was built with. -/
structure Deployment where
  /-- The payment gateway. -/
  gateway : PaymentGateway
  /-- The worker's handler. -/
  handler : BillingIntegrationEventHandler

/-- The program that serves a request. -/
def Deployment.serve (d : Deployment) (req : Request) : Service Response :=
  match req.command with
  | .createQuote command => do return .quote (← CreateQuoteUseCase.execute command req.supply)
  | .approveQuote quoteId =>
    do return .payment (← ApproveQuoteUseCase.execute d.gateway quoteId req.supply)
  | .confirmPayment paymentId =>
    do return .payment (← ConfirmPaymentUseCase.execute paymentId req.supply)
  | .failPayment paymentId reason =>
    do return .payment (← FailPaymentUseCase.execute paymentId reason req.supply)
  | .applyPaymentStatus command =>
    do return .applied (← ApplyPaymentStatusUseCase.execute command req.supply)
  | .syncPaymentStatus paymentId =>
    do return .synced (← SyncPaymentStatusUseCase.execute d.gateway paymentId req.supply)
  | .handle message => do return .handled (← d.handler.handle message req.supply)

/-! ## Stores -/

/-- What the repository methods do to a store. -/
structure Backend where
  /-- The store. -/
  Store : Type
  /-- The store at first. -/
  empty : Store
  quoteGet : Store → String → Except Exc Quote
  quoteSave : Store → Quote → Store
  quoteAssign : Store → Quote → Store
  paymentGet : Store → String → Except Exc Payment
  paymentSave : Store → Payment → Store
  paymentAssign : Store → Payment → Store
  isProcessed : Store → String → Bool
  markProcessed : Store → String → String → String → Store

/-- `APP_RUNTIME_MODE == "real"`: objects are rebuilt from rows, so nobody else sees a write to
    their attributes. -/
def sql : Backend where
  Store := Database
  empty := .empty
  quoteGet := SqlAlchemyQuoteRepository.get
  quoteSave := SqlAlchemyQuoteRepository.save
  quoteAssign := fun db _ => db
  paymentGet := SqlAlchemyPaymentRepository.get
  paymentSave := SqlAlchemyPaymentRepository.save
  paymentAssign := fun db _ => db
  isProcessed := SqlAlchemyProcessedEventRepository.isProcessed
  markProcessed := SqlAlchemyProcessedEventRepository.markProcessed

/-- Any other runtime mode: the stored objects themselves are handed out. -/
def memory : Backend where
  Store := Memory
  empty := .empty
  quoteGet := InMemoryQuoteRepository.get
  quoteSave := InMemoryQuoteRepository.save
  quoteAssign := Memory.assignQuote
  paymentGet := InMemoryPaymentRepository.get
  paymentSave := InMemoryPaymentRepository.save
  paymentAssign := Memory.assignPayment
  isProcessed := InMemoryProcessedEventRepository.isProcessed
  markProcessed := fun m eventId _ _ => InMemoryProcessedEventRepository.markProcessed m eventId

/-- `APP_RUNTIME_MODE`: `"real"`, or anything else. -/
inductive RuntimeMode where
  | real
  | memory

/-- The repositories of a runtime mode. -/
def RuntimeMode.backend : RuntimeMode → Backend
  | real => sql
  | memory => Billing.memory

/-! ## Steps -/

/-- What the environment decides about a step. -/
inductive Fate where
  /-- It goes through. -/
  | proceeds
  /-- The provider's SDK answers so. -/
  | answers (response : Dict Json)
  /-- It raises; a write was committed before or not. -/
  | raises (e : Exc) (committed : Bool)

/-- The step goes through. -/
def Fate.isProceeds : Fate → Bool
  | proceeds => true
  | _ => false

/-- The step raises, after or before its write was committed. -/
def Fate.raised (committed : Bool) : Fate → Bool
  | raises _ committed' => committed == committed'
  | _ => false

/-- The store, the publisher, and the ids that were issued. -/
structure World (b : Backend) where
  /-- The store. -/
  store : b.Store
  /-- The events that were handed to the publisher. -/
  handed : List DomainEvent
  /-- The events that the publisher accepted. -/
  accepted : List DomainEvent
  /-- The ids that were issued. -/
  issued : List String

/-- Nothing stored, nothing published. -/
def World.empty (b : Backend) : World b := ⟨b.empty, [], [], []⟩

/-- The ids of a supply. -/
def Supply.ids (supply : Supply) : List String :=
  [supply.quoteId, supply.paymentId, supply.idempotencyKey, supply.first.eventId,
    supply.second.eventId]

/-- A supply is fresh if its ids differ from each other and from all that were issued. -/
def Supply.Fresh (supply : Supply) (issued : List String) : Prop :=
  supply.ids.Nodup ∧ ∀ id ∈ supply.ids, id ∉ issued

instance (supply : Supply) (issued : List String) : Decidable (supply.Fresh issued) :=
  inferInstanceAs (Decidable (_ ∧ _))

variable {b : Backend}

/-- A request arrives. -/
def World.arrive (w : World b) (req : Request) : Option (World b) :=
  if req.supply.Fresh w.issued then some { w with issued := req.supply.ids ++ w.issued } else none

/-- A read of the store. -/
def World.read {α : Type} (w : World b) (r : Except Exc α) : Fate → Option (Except Exc α × World b)
  | .proceeds => some (r, w)
  | .raises e _ => some (.error e, w)
  | .answers _ => none

/-- A write to the store, which then is `store`. -/
def World.write (w : World b) (store : b.Store) : Fate → Option (Except Exc Unit × World b)
  | .proceeds => some (.ok (), { w with store := store })
  | .raises e committed => some (.error e, if committed then { w with store := store } else w)
  | .answers _ => none

/-- A write to the attributes of an object. -/
def World.assign (w : World b) (store : b.Store) : Fate → Option (Except Exc Unit × World b)
  | .proceeds => some (.ok (), { w with store := store })
  | _ => none

/-- `publish`: the event is checked, then sent. -/
def World.publish (w : World b) (event : DomainEvent) : Fate → Option (Except Exc Unit × World b)
  | .proceeds =>
    match eventToMessage event with
    | .error e => some (.error e, { w with handed := w.handed ++ [event] })
    | .ok _ => some (.ok (), { w with
        handed := w.handed ++ [event]
        accepted := w.accepted ++ [event] })
  | .raises e committed => some (.error e, { w with
      handed := w.handed ++ [event]
      accepted := if committed then w.accepted ++ [event] else w.accepted })
  | .answers _ => none

/-- A call of the SDK client. -/
def World.call (w : World b) : Fate → Option (Except Exc (Dict Json) × World b)
  | .answers response => some (.ok response, w)
  | .raises e _ => some (.error e, w)
  | .proceeds => none

/-- One atomic step. -/
def World.exec (w : World b) (o : Port) (fate : Fate) : Option (Except Exc o.Res × World b) :=
  match o with
  | .quoteGet quoteId => w.read (b.quoteGet w.store quoteId) fate
  | .quoteSave quote => w.write (b.quoteSave w.store quote) fate
  | .quoteAssign quote => w.assign (b.quoteAssign w.store quote) fate
  | .paymentGet paymentId => w.read (b.paymentGet w.store paymentId) fate
  | .paymentSave payment => w.write (b.paymentSave w.store payment) fate
  | .paymentAssign payment => w.assign (b.paymentAssign w.store payment) fate
  | .publish event => w.publish event fate
  | .isProcessed eventId => w.read (.ok (b.isProcessed w.store eventId)) fate
  | .markProcessed eventId eventType correlationId =>
    w.write (b.markProcessed w.store eventId eventType correlationId) fate
  | .sdk _ => w.call fate

/-- **The service over a backend.** -/
def system (b : Backend) (d : Deployment) : System ports Exc Response where
  State := World b
  Req := Request
  Choice := Fate
  program := d.serve
  arrive := World.arrive
  exec := fun o fate w => w.exec o fate

/-- The configuration in which everything begins. -/
def start (b : Backend) (d : Deployment) : Config (system b d) := ⟨World.empty b, []⟩

/-! ## A deployment to run

  `open Sample` makes an interpreter available that is right for short amounts and ASCII texts. -/

namespace Sample

scoped instance python : Python where
  isPrintable := fun _ => true
  float := fun
    | .finite neg coeff exp => .finite neg coeff exp
    | .infinity neg => .inf neg
    | .nan _ => .nan

/-- The worker's handler. -/
def handler : BillingIntegrationEventHandler := ⟨["inspection"], .finite false 10000 (-2)⟩

/-- `PAYMENT_PROVIDER_MODE != "mercado_pago"`. -/
def mock : Deployment := ⟨fakePaymentGateway, handler⟩

/-- The settings of the provider. -/
def settings : MercadoPagoCheckoutSettings :=
  ⟨"token", "/success", "/failure", "/pending", by decide⟩

/-- `PAYMENT_PROVIDER_MODE == "mercado_pago"`. -/
def mercadoPago : Deployment := ⟨mercadoPagoCheckoutAdapter settings, handler⟩

/-- An amount of `120.00`. -/
def price : Money := ⟨.finite false 12000 (-2), "BRL", rfl, by decide⟩

/-- The `n`-th supply. -/
def supply (n : String) : Supply :=
  ⟨"quote-" ++ n, "payment-" ++ n, "key-" ++ n, ⟨"event-" ++ n, "2024-05-01T12:00:00+00:00"⟩,
    ⟨"event-" ++ n ++ "b", "2024-05-01T12:00:00+00:00"⟩⟩

variable {b : Backend} {d : Deployment}

/-- A request with the `n`-th supply arrives. -/
def ask (n : String) (command : Command) : Action (system b d) := .start ⟨command, supply n⟩

/-- `POST /quotes` for an amount of `120.00`. -/
def create (n serviceOrderId : String) : Action (system b d) :=
  ask n (.createQuote ⟨serviceOrderId, ["oil"], .finite false 12000 (-2)⟩)

/-- Thread `i` does its next `n` steps, and they go through. -/
def go (i n : Nat) : List (Action (system b d)) := List.replicate n (.step i .proceeds)

end Sample

end Billing

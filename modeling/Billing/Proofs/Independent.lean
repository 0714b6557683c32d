/-
  Requests about different quotes and payments do not get in each other's way.

  The places of the service over the SQL repositories are its entities: a quote with its row and its
  events, a payment with its row and its events, and a message with its mark.  Every step concerns one
  entity at most (`Port.entity`), so the service is local (`entities`), and each use case stays with the
  entities that its request names or draws (`serve_confined`).  The rest is the general argument of
  `Billing.Lib.Footprint`.
-/
import Billing.Lib.Footprint
import Billing.Proofs.Effects
import Billing.Proofs.Integrity

namespace Billing

open Py Atomic Program System Keyed

/-! ## Entities -/

/-- What a step can concern. -/
inductive Entity where
  /-- A quote. -/
  | quote (quoteId : String)
  /-- A payment. -/
  | payment (paymentId : String)
  /-- A message that may have been processed. -/
  | message (eventId : String)
  deriving DecidableEq

/-- The entity that an event is about. -/
def DomainEvent.entity (e : DomainEvent) : Entity :=
  match e.payload.get? "payment_id" with
  | some paymentId => .payment paymentId
  | none => .quote ((e.payload.get? "quote_id").getD "")

/-- The entity that a step concerns. -/
def Port.entity : Port → Option Entity
  | .quoteGet quoteId => some (.quote quoteId)
  | .quoteSave quote => some (.quote quote.quoteId)
  | .paymentGet paymentId => some (.payment paymentId)
  | .paymentSave payment => some (.payment payment.paymentId)
  | .publish event => some event.entity
  | .isProcessed eventId => some (.message eventId)
  | .markProcessed eventId _ _ => some (.message eventId)
  | .quoteAssign _ | .paymentAssign _ | .sdk _ => none

/-- The events of a log that are about an entity, in their order. -/
def eventsOf (log : List DomainEvent) (entity : Entity) : List DomainEvent :=
  log.filter fun e => decide (e.entity = entity)

/-- What there is to know of an entity. -/
abbrev Entity.Known : Entity → Type
  | .quote _ => Option QuoteRow × List DomainEvent
  | .payment _ => Option PaymentRow × List DomainEvent
  | .message _ => Bool

/-- The tables, and the events that the publisher accepted. -/
abbrev View : Type := Database × List DomainEvent

/-- What is known of an entity: its row and its events, or its mark. -/
def View.known (v : View) : (entity : Entity) → entity.Known
  | .quote quoteId => (v.1.quotes.find? quoteId, eventsOf v.2 (.quote quoteId))
  | .payment paymentId => (v.1.payments.find? paymentId, eventsOf v.2 (.payment paymentId))
  | .message eventId => SqlAlchemyProcessedEventRepository.isProcessed v.1 eventId

/-- What is seen of a world. -/
def World.view [Python] (w : World sql) : View := (w.store, w.accepted)

/-- What a step does when it takes effect. -/
def Port.effect (v : View) : Port → View
  | .quoteSave quote => (SqlAlchemyQuoteRepository.save v.1 quote, v.2)
  | .paymentSave payment => (SqlAlchemyPaymentRepository.save v.1 payment, v.2)
  | .publish event => (v.1, v.2 ++ [event])
  | .markProcessed eventId eventType correlationId =>
    (SqlAlchemyProcessedEventRepository.markProcessed v.1 eventId eventType correlationId, v.2)
  | _ => v

theorem eventsOf_append (log : List DomainEvent) (e : DomainEvent) (entity : Entity) :
    eventsOf (log ++ [e]) entity = eventsOf log entity ++ if e.entity = entity then [e] else [] := by
  unfold eventsOf
  rw [List.filter_append]
  simp only [List.filter_cons, List.filter_nil, decide_eq_true_eq]

/-- **A step leaves all other entities alone.** -/
theorem Port.effect_other (v : View) {o : Port} {entity : Entity} (h : o.entity ≠ some entity) :
    (o.effect v).known entity = v.known entity := by
  cases o with
  | quoteSave q =>
    cases entity with
    | quote id =>
      have hne : q.quoteId ≠ id := fun hid => h (by rw [Port.entity, hid])
      have hfind := Table.find?_upsert_of_ne v.1.quotes (r := .ofQuote q) hne
      exact congrArg (·, eventsOf v.2 (.quote id)) hfind
    | payment id => rfl
    | message id => rfl
  | paymentSave p =>
    cases entity with
    | quote id => rfl
    | payment id =>
      have hne : p.paymentId ≠ id := fun hid => h (by rw [Port.entity, hid])
      have hfind := Table.find?_upsert_of_ne v.1.payments (r := .ofPayment p) hne
      exact congrArg (·, eventsOf v.2 (.payment id)) hfind
    | message id => rfl
  | publish e =>
    have hne : e.entity ≠ entity := fun he => h (by rw [Port.entity, he])
    have hevents : eventsOf (v.2 ++ [e]) entity = eventsOf v.2 entity := by
      rw [eventsOf_append, if_neg hne, List.append_nil]
    cases entity with
    | quote id => exact congrArg (v.1.quotes.find? id, ·) hevents
    | payment id => exact congrArg (v.1.payments.find? id, ·) hevents
    | message id => rfl
  | markProcessed i t c =>
    obtain ⟨hquotes, hpayments⟩ := Database.same_markProcessed v.1 i t c
    cases entity with
    | quote id => exact congrArg (fun table => (table.find? id, _)) hquotes
    | payment id => exact congrArg (fun table => (table.find? id, _)) hpayments
    | message id =>
      have hne : i ≠ id := fun hid => h (by rw [Port.entity, hid])
      exact Bool.eq_iff_iff.mpr (isProcessed_markProcessed.trans (or_iff_right hne))
  | _ => rfl

/-- **What a step makes of its entity depends on nothing else.** -/
theorem Port.effect_own {v v' : View} {o : Port} {entity : Entity} (h : o.entity = some entity)
    (hv : v'.known entity = v.known entity) :
    (o.effect v').known entity = (o.effect v).known entity := by
  cases o with
  | quoteSave q =>
    obtain rfl := Option.some.inj h
    have hown : ∀ db : Database, (SqlAlchemyQuoteRepository.save db q).quotes.find? q.quoteId =
        some (.ofQuote q) := fun db => Table.find?_upsert_self db.quotes (.ofQuote q)
    exact Prod.ext ((hown v'.1).trans (hown v.1).symm) (Prod.mk.inj hv).2
  | paymentSave p =>
    obtain rfl := Option.some.inj h
    have hown : ∀ db : Database, (SqlAlchemyPaymentRepository.save db p).payments.find? p.paymentId =
        some (.ofPayment p) := fun db => Table.find?_upsert_self db.payments (.ofPayment p)
    exact Prod.ext ((hown v'.1).trans (hown v.1).symm) (Prod.mk.inj hv).2
  | publish e =>
    have hevents : eventsOf v'.2 entity = eventsOf v.2 entity →
        eventsOf (v'.2 ++ [e]) entity = eventsOf (v.2 ++ [e]) entity := fun heq => by
      rw [eventsOf_append, eventsOf_append, heq]
    cases entity with
    | quote id =>
      obtain ⟨hrow, heq⟩ := Prod.mk.inj hv
      exact Prod.ext hrow (hevents heq)
    | payment id =>
      obtain ⟨hrow, heq⟩ := Prod.mk.inj hv
      exact Prod.ext hrow (hevents heq)
    | message id => exact hv
  | markProcessed i t c =>
    obtain rfl := Option.some.inj h
    have hown : ∀ db : Database, SqlAlchemyProcessedEventRepository.isProcessed
        (SqlAlchemyProcessedEventRepository.markProcessed db i t c) i = true := fun db =>
      isProcessed_markProcessed.mpr (Or.inl rfl)
    exact (hown v'.1).trans (hown v.1).symm
  | _ => exact hv

/-! ## The service is local -/

section Local

variable [Python] {s s' : World sql} {fate : Fate}

/-- A quote is read from its own row. -/
theorem quote_get_congr {db db' : Database} {id : String}
    (h : db'.quotes.find? id = db.quotes.find? id) :
    SqlAlchemyQuoteRepository.get db' id = SqlAlchemyQuoteRepository.get db id := by
  unfold SqlAlchemyQuoteRepository.get
  rw [h]

/-- A payment is read from its own row. -/
theorem payment_get_congr {db db' : Database} {id : String}
    (h : db'.payments.find? id = db.payments.find? id) :
    SqlAlchemyPaymentRepository.get db' id = SqlAlchemyPaymentRepository.get db id := by
  unfold SqlAlchemyPaymentRepository.get
  rw [h]

/-- A read that is answered from the same row. -/
theorem read_depends {α : Type} {x y r : Except Exc α} (t : World sql) (hxy : y = x)
    (h : s.read x fate = some (r, s')) : s' = s ∧ t.read y fate = some (r, t) := by
  subst hxy
  refine ⟨read_eq h, ?_⟩
  cases fate with
  | proceeds => cases h; rfl
  | answers response => cases h
  | raises e committed => cases h; rfl

/-- A write is committed, or not, whatever the store is. -/
theorem write_depends {store : Database} (t : World sql) (store' : Database) {r : Except Exc Unit}
    (h : s.write store fate = some (r, s')) : ∃ t' : World sql, t.write store' fate = some (r, t') ∧
      ((s' = s ∧ t' = t) ∨ (s' = { s with store := store } ∧ t' = { t with store := store' })) := by
  cases fate with
  | proceeds => cases h; exact ⟨_, rfl, Or.inr ⟨rfl, rfl⟩⟩
  | answers response => cases h
  | raises e committed =>
    cases h
    cases committed with
    | false => exact ⟨t, rfl, Or.inl ⟨rfl, rfl⟩⟩
    | true => exact ⟨_, rfl, Or.inr ⟨rfl, rfl⟩⟩

/-- An event is accepted, or not, whatever was published before. -/
theorem publish_depends {e : DomainEvent} (t : World sql) {r : Except Exc Unit}
    (h : s.publish e fate = some (r, s')) : ∃ t' : World sql, t.publish e fate = some (r, t') ∧
      ((s'.view = s.view ∧ t'.view = t.view) ∨
        (s'.view = (Port.publish e).effect s.view ∧ t'.view = (Port.publish e).effect t.view)) := by
  cases fate with
  | proceeds =>
    simp only [World.publish, eventToMessage_eq] at h ⊢
    cases h
    exact ⟨_, rfl, Or.inr ⟨rfl, rfl⟩⟩
  | answers response => cases h
  | raises x committed =>
    cases h
    cases committed with
    | false => exact ⟨_, rfl, Or.inl ⟨rfl, rfl⟩⟩
    | true => exact ⟨_, rfl, Or.inr ⟨rfl, rfl⟩⟩

/-- **What a step answers, and whether it takes effect, depends on its entity alone.** -/
theorem exec_depends {o : Port} (t : World sql) {r : Except Exc o.Res}
    (hv : ∀ entity, o.entity = some entity → t.view.known entity = s.view.known entity)
    (h : s.exec o fate = some (r, s')) : ∃ t', t.exec o fate = some (r, t') ∧
      ((s'.view = s.view ∧ t'.view = t.view) ∨
        (s'.view = o.effect s.view ∧ t'.view = o.effect t.view)) := by
  cases o with
  | quoteGet id =>
    have hrow := (Prod.mk.inj (hv _ rfl)).1
    have hget : SqlAlchemyQuoteRepository.get t.store id = SqlAlchemyQuoteRepository.get s.store id :=
      quote_get_congr hrow
    obtain ⟨rfl, ht⟩ := read_depends t hget h
    exact ⟨t, ht, Or.inl ⟨rfl, rfl⟩⟩
  | paymentGet id =>
    have hrow := (Prod.mk.inj (hv _ rfl)).1
    have hget : SqlAlchemyPaymentRepository.get t.store id =
        SqlAlchemyPaymentRepository.get s.store id := payment_get_congr hrow
    obtain ⟨rfl, ht⟩ := read_depends t hget h
    exact ⟨t, ht, Or.inl ⟨rfl, rfl⟩⟩
  | isProcessed id =>
    obtain ⟨rfl, ht⟩ := read_depends t (congrArg Except.ok (hv _ rfl)) h
    exact ⟨t, ht, Or.inl ⟨rfl, rfl⟩⟩
  | quoteSave q =>
    obtain ⟨t', ht, hboth⟩ := write_depends t
      (SqlAlchemyQuoteRepository.save t.store q) h
    refine ⟨t', ht, ?_⟩
    rcases hboth with ⟨rfl, rfl⟩ | ⟨rfl, rfl⟩
    · exact Or.inl ⟨rfl, rfl⟩
    · exact Or.inr ⟨rfl, rfl⟩
  | paymentSave p =>
    obtain ⟨t', ht, hboth⟩ := write_depends t
      (SqlAlchemyPaymentRepository.save t.store p) h
    refine ⟨t', ht, ?_⟩
    rcases hboth with ⟨rfl, rfl⟩ | ⟨rfl, rfl⟩
    · exact Or.inl ⟨rfl, rfl⟩
    · exact Or.inr ⟨rfl, rfl⟩
  | markProcessed i e c =>
    obtain ⟨t', ht, hboth⟩ := write_depends t
      (SqlAlchemyProcessedEventRepository.markProcessed t.store i e c) h
    refine ⟨t', ht, ?_⟩
    rcases hboth with ⟨rfl, rfl⟩ | ⟨rfl, rfl⟩
    · exact Or.inl ⟨rfl, rfl⟩
    · exact Or.inr ⟨rfl, rfl⟩
  | publish e => exact publish_depends t h
  | quoteAssign q => cases fate <;> cases h; exact ⟨t, rfl, Or.inl ⟨rfl, rfl⟩⟩
  | paymentAssign p => cases fate <;> cases h; exact ⟨t, rfl, Or.inl ⟨rfl, rfl⟩⟩
  | sdk call => cases fate <;> cases h <;> exact ⟨t, rfl, Or.inl ⟨rfl, rfl⟩⟩

/-- A step takes effect, or nothing is seen of it. -/
theorem exec_view {o : Port} {r : Except Exc o.Res} (h : s.exec o fate = some (r, s')) :
    s'.view = s.view ∨ s'.view = o.effect s.view := by
  obtain ⟨t', -, hboth⟩ := exec_depends s (fun _ _ => rfl) h
  rcases hboth with ⟨hs, -⟩ | ⟨hs, -⟩
  · exact Or.inl hs
  · exact Or.inr hs

variable {d : Deployment}

/-- **The service over the SQL repositories, entity by entity.** -/
def entities (d : Deployment) : Places (system sql d) where
  Place := Entity
  Val := Entity.Known
  look := fun w entity => w.view.known entity
  place := Port.entity
  frame := by
    intro o fate w r w' entity h hne
    rcases exec_view h with hw | hw
    · rw [hw]
    · rw [hw, Port.effect_other w.view hne]
  depends := by
    intro o fate w v r w' hv h
    obtain ⟨v', hx, hboth⟩ := exec_depends v hv h
    refine ⟨v', hx, fun entity he => ?_⟩
    rcases hboth with ⟨hw, hv'⟩ | ⟨hw, hv'⟩
    · rw [hw, hv', hv entity he]
    · rw [hw, hv', Port.effect_own he (hv entity he)]
  arrives := by
    intro w req w' entity h
    obtain ⟨hstore, -, haccepted⟩ := arrive_world h
    have hview : World.view w' = World.view w := Prod.ext hstore haccepted
    rw [hview]

end Local

/-! ## Use cases stay with their entities -/

section Confined

variable [Python] {d : Deployment} {ch : Port → Fate} {F : List Entity} {α β : Type}

/-- The program asks for steps at these entities only, wherever it begins. -/
abbrev StaysWith (d : Deployment) (ch : Port → Fate) (F : List Entity) (p : Service α) : Prop :=
  ∀ w, (entities d).Confined ch F p w

theorem staysWith_map {p : Service α} {f : α → β} (h : StaysWith d ch F p) :
    StaysWith d ch F (p >>= fun a => pure (f a)) := fun w =>
  confined_bind (h w) fun _ _ => trivial

theorem staysWith_ofExcept {x : Except Exc α} {f : α → Service β}
    (hf : ∀ a, x = .ok a → StaysWith d ch F (f a)) : StaysWith d ch F (ofExcept x >>= f) := fun w =>
  confined_ofExcept_bind fun a ha => hf a ha w

/-- The rule of one step. -/
theorem staysWith_ask {o : Port} {f : o.Res → Service β} (ho : ∀ entity, o.entity = some entity → entity ∈ F)
    (hf : ∀ a, StaysWith d ch F (f a)) : StaysWith d ch F (Service.ask o >>= f) := fun _ =>
  confined_perform_bind ho fun a w' _ => hf a w'

/-- What is read has the id that was asked for. -/
theorem staysWith_quoteGet {quoteId : String} {f : Quote → Service β} (hF : .quote quoteId ∈ F)
    (hf : ∀ q, q.quoteId = quoteId → StaysWith d ch F (f q)) :
    StaysWith d ch F (QuoteRepository.get quoteId >>= f) := fun _ =>
  confined_perform_bind (fun _ he => Option.some.inj he ▸ hF) fun q w' hx =>
    hf q (exec_quoteGet hx).2.1 w'

theorem staysWith_paymentGet {paymentId : String} {f : Payment → Service β}
    (hF : .payment paymentId ∈ F) (hf : ∀ p, p.paymentId = paymentId → StaysWith d ch F (f p)) :
    StaysWith d ch F (PaymentRepository.get paymentId >>= f) := fun _ =>
  confined_perform_bind (fun _ he => Option.some.inj he ▸ hF) fun p w' hx =>
    hf p (exec_paymentGet hx).2.1 w'

/-- A step that concerns one of the entities. -/
theorem staysWith_at {o : Port} {entity : Entity} {f : o.Res → Service β} (ho : o.entity = some entity)
    (hF : entity ∈ F) (hf : ∀ a, StaysWith d ch F (f a)) : StaysWith d ch F (Service.ask o >>= f) :=
  staysWith_ask (fun entity' he => by rw [ho] at he; exact Option.some.inj he ▸ hF) hf

/-- A step that concerns none. -/
theorem staysWith_nowhere {o : Port} {f : o.Res → Service β} (ho : o.entity = none)
    (hf : ∀ a, StaysWith d ch F (f a)) : StaysWith d ch F (Service.ask o >>= f) :=
  staysWith_ask (fun entity' he => by rw [ho] at he; cases he) hf

/-- The gateway concerns none. -/
theorem staysWith_call {p : Program sdk Exc α} {f : α → Service β}
    (hf : ∀ a, StaysWith d ch F (f a)) : StaysWith d ch F (PaymentGateway.call p >>= f) := fun w =>
  confined_bind (confined_embed (fun _ => rfl) p w) fun a w' => hf a w'

theorem create_staysWith {command : CreateQuoteCommand} {supply : Supply}
    (hF : .quote supply.quoteId ∈ F) :
    StaysWith d ch F (CreateQuoteUseCase.execute command supply) := by
  rw [CreateQuoteUseCase.execute_eq]
  refine staysWith_ofExcept fun opened hopening => ?_
  obtain ⟨q, e⟩ := opened
  obtain ⟨hid, -, -, -, -, rfl⟩ := CreateQuoteUseCase.opening_eq_ok hopening
  rw [← hid] at hF
  refine staysWith_at rfl hF fun _ => ?_
  refine staysWith_at rfl hF fun _ => ?_
  exact fun _ => trivial

theorem handle_staysWith {self : BillingIntegrationEventHandler} {m : EventMessage} {supply : Supply}
    (hmessage : .message m.eventId ∈ F) (hquote : .quote supply.quoteId ∈ F) :
    StaysWith d ch F (self.handle m supply) := by
  rw [BillingIntegrationEventHandler.handle_eq]
  refine staysWith_at rfl hmessage fun processed => ?_
  unfold BillingIntegrationEventHandler.answering
  split
  · exact fun _ => trivial
  · split
    · exact fun _ => trivial
    · refine staysWith_ofExcept fun opened hopening => ?_
      obtain ⟨q, e⟩ := opened
      obtain ⟨command, -, hopen⟩ := BillingIntegrationEventHandler.opening_eq_ok hopening
      obtain ⟨hid, -, -, -, -, rfl⟩ := CreateQuoteUseCase.opening_eq_ok hopen
      rw [← hid] at hquote
      unfold BillingIntegrationEventHandler.settling
      refine staysWith_at rfl hquote fun _ => ?_
      refine staysWith_at rfl hquote fun _ => ?_
      refine staysWith_at rfl hmessage fun _ => ?_
      exact fun _ => trivial

theorem approve_staysWith {gateway : PaymentGateway} {quoteId : String} {supply : Supply}
    (hquote : .quote quoteId ∈ F) (hpayment : .payment supply.paymentId ∈ F) :
    StaysWith d ch F (ApproveQuoteUseCase.execute gateway quoteId supply) := by
  unfold ApproveQuoteUseCase.execute
  refine staysWith_quoteGet hquote fun q₀ hid => ?_
  refine staysWith_ofExcept fun approved happrove => ?_
  obtain ⟨q, e⟩ := approved
  obtain ⟨-, rfl, rfl⟩ := Quote.approve_eq_ok happrove
  subst hid
  refine staysWith_nowhere rfl fun _ => ?_
  refine staysWith_ofExcept fun p hp => ?_
  obtain ⟨-, rfl⟩ := Payment.fromQuote_eq_ok hp
  unfold Payment.createPreference
  rw [bind_assoc]
  refine staysWith_ofExcept fun _ _ => ?_
  rw [bind_assoc]
  refine staysWith_call fun preference => ?_
  rw [bind_assoc]
  refine staysWith_nowhere rfl fun _ => ?_
  rw [pure_eq, ret_bind]
  refine staysWith_at rfl hquote fun _ => ?_
  refine staysWith_at rfl hpayment fun _ => ?_
  refine staysWith_at rfl hquote fun _ => ?_
  refine staysWith_at rfl hpayment fun _ => ?_
  exact fun _ => trivial

omit [Python] in
/-- What is settled is the payment that was read. -/
theorem settling_entity {p₀ p : Payment} {e : DomainEvent} (h : Settling p₀ p e) :
    p.paymentId = p₀.paymentId ∧ e.entity = .payment p₀.paymentId := by
  rcases h with ⟨stamp, hconfirm⟩ | ⟨reason, stamp, hfail⟩
  · obtain ⟨-, rfl, rfl⟩ := Payment.confirm_eq_ok hconfirm
    exact ⟨rfl, rfl⟩
  · obtain ⟨-, rfl, rfl⟩ := Payment.fail_eq_ok hfail
    exact ⟨rfl, rfl⟩

/-- Write, save, announce. -/
theorem settled_staysWith {p₀ p : Payment} {e : DomainEvent} {f : Service β}
    (h : Settling p₀ p e) (hF : .payment p₀.paymentId ∈ F) (hf : StaysWith d ch F f) :
    StaysWith d ch F (do
      p.assign
      PaymentRepository.save p
      EventPublisher.publish e
      f) := by
  obtain ⟨hid, he⟩ := settling_entity h
  refine staysWith_nowhere rfl fun _ => ?_
  refine staysWith_at (congrArg (fun id => some (Entity.payment id)) hid) hF fun _ => ?_
  refine staysWith_at (congrArg some he) hF fun _ => ?_
  exact hf

theorem settle_staysWith {paymentId : String}
    {settle : Payment → Except Exc (Payment × DomainEvent)}
    (hsettle : ∀ p₀ p e, settle p₀ = .ok (p, e) → Settling p₀ p e) (hF : .payment paymentId ∈ F) :
    StaysWith d ch F (do
      let payment ← PaymentRepository.get paymentId
      let (payment, event) ← ofExcept (settle payment)
      payment.assign
      PaymentRepository.save payment
      EventPublisher.publish event
      return payment) := by
  refine staysWith_paymentGet hF fun p₀ hid => ?_
  refine staysWith_ofExcept fun settled hx => ?_
  obtain ⟨p, e⟩ := settled
  subst hid
  exact settled_staysWith (hsettle p₀ p e hx) hF fun _ => trivial

/-- What is done with a decision about the payment that was read. -/
theorem applying_staysWith {p₀ p : Payment} {event : Option DomainEvent} {action : StatusAction}
    (hsettles : ∀ e, event = some e → Settling p₀ p e) (hsame : event = none → p = p₀)
    (hF : .payment p₀.paymentId ∈ F) :
    StaysWith d ch F (ApplyPaymentStatusUseCase.applying (p, event, action)) := by
  cases event with
  | none =>
    obtain rfl := hsame rfl
    show StaysWith d ch F (PaymentRepository.save p >>= _)
    exact staysWith_at rfl hF fun _ _ => trivial
  | some e => exact settled_staysWith (hsettles e rfl) hF fun _ => trivial

theorem apply_staysWith {command : ApplyPaymentStatusCommand} {supply : Supply}
    (hF : .payment command.paymentId ∈ F) :
    StaysWith d ch F (ApplyPaymentStatusUseCase.execute command supply) := by
  rw [ApplyPaymentStatusUseCase.execute_eq]
  refine staysWith_paymentGet hF fun p₀ hid => ?_
  rw [← hid] at hF
  have hsettling : ∀ {p event action},
      ApplyPaymentStatusUseCase.decide p₀ command supply.first = .ok (p, event, action) → _ :=
    fun h => ApplyPaymentStatusUseCase.decide_settling h
  generalize ApplyPaymentStatusUseCase.decide p₀ command supply.first = decided at hsettling ⊢
  refine staysWith_ofExcept fun decision hdecided => ?_
  obtain ⟨p, event, action⟩ := decision
  obtain ⟨hsettles, hsame⟩ := hsettling hdecided
  exact applying_staysWith hsettles hsame hF

theorem sync_staysWith {gateway : PaymentGateway} {paymentId : String} {supply : Supply}
    (hF : .payment paymentId ∈ F) :
    StaysWith d ch F (SyncPaymentStatusUseCase.execute gateway paymentId supply) := by
  unfold SyncPaymentStatusUseCase.execute
  refine staysWith_paymentGet hF fun p _ => ?_
  refine staysWith_call fun status => ?_
  exact staysWith_map (apply_staysWith hF)

end Confined

/-! ## Requests -/

/-- The entities that a request addresses: an approval its quote, whatever settles a payment its
    payment, a creation its new quote. -/
def Request.addresses [Python] (req : Request) : List Entity :=
  match req.command with
  | .createQuote _ => [.quote req.supply.quoteId]
  | .approveQuote quoteId => [.quote quoteId]
  | .confirmPayment paymentId => [.payment paymentId]
  | .failPayment paymentId _ => [.payment paymentId]
  | .applyPaymentStatus command => [.payment command.paymentId]
  | .syncPaymentStatus paymentId => [.payment paymentId]
  | .handle message => [.message message.eventId, .quote req.supply.quoteId]

/-- The payments that a request opens: an approval its new payment. -/
def Request.opens [Python] (req : Request) : List Entity :=
  match req.command with
  | .approveQuote _ => [.payment req.supply.paymentId]
  | _ => []

section Serve

variable [Python] {d : Deployment}

/-- **Every request stays with the entities that it addresses or opens.** -/
theorem serve_staysWith (d : Deployment) (ch : Port → Fate) (req : Request) :
    StaysWith d ch (req.addresses ++ req.opens) (d.serve req) := by
  obtain ⟨command, supply⟩ := req
  cases command with
  | createQuote command => exact staysWith_map (create_staysWith List.mem_cons_self)
  | approveQuote quoteId =>
    exact staysWith_map
      (approve_staysWith List.mem_cons_self (List.mem_append_right _ List.mem_cons_self))
  | confirmPayment paymentId =>
    refine staysWith_map (settle_staysWith (fun _ _ _ h => Or.inl ⟨_, h⟩) List.mem_cons_self)
  | failPayment paymentId reason =>
    refine staysWith_map (settle_staysWith (fun _ _ _ h => Or.inr ⟨_, _, h⟩) List.mem_cons_self)
  | applyPaymentStatus command => exact staysWith_map (apply_staysWith List.mem_cons_self)
  | syncPaymentStatus paymentId => exact staysWith_map (sync_staysWith List.mem_cons_self)
  | handle m =>
    exact staysWith_map (handle_staysWith List.mem_cons_self
      (List.mem_append_left _ (List.mem_cons_of_mem _ List.mem_cons_self)))

/-! ## Fresh ids -/

/-- The requests draw ids that were not issued, and no two draw the same. -/
def DrawFresh (issued : List String) (reqs : List Request) : Prop :=
  (∀ req ∈ reqs, req.supply.Fresh issued) ∧
    reqs.Pairwise fun req req' => ∀ id ∈ req.supply.ids, id ∉ req'.supply.ids

theorem DrawFresh.perm {issued : List String} {reqs reqs' : List Request} (h : DrawFresh issued reqs)
    (hperm : reqs'.Perm reqs) : DrawFresh issued reqs' := by
  refine ⟨fun req hreq => h.1 req (hperm.mem_iff.mp hreq), hperm.symm.pairwise h.2 ?_⟩
  intro req req' hne id hid hid'
  exact hne id hid' hid

/-- **Whatever arrives in a run draws fresh ids.** -/
theorem runs_drawFresh {ok : Config (system sql d) → Action (system sql d) → Prop} {w : World sql}
    {c : Config (system sql d)} (H : Runs ok ⟨w, []⟩ c) : DrawFresh w.issued c.reqs := by
  refine (H.invariant (I := fun c : Config (system sql d) => DrawFresh w.issued c.reqs ∧
    (∀ id ∈ w.issued, id ∈ c.state.issued) ∧
    ∀ req ∈ c.reqs, ∀ id ∈ req.supply.ids, id ∈ c.state.issued) ?_ ?_).1
  · exact ⟨⟨fun req hreq => absurd hreq List.not_mem_nil, List.Pairwise.nil⟩, fun id hid => hid,
      fun req hreq => absurd hreq List.not_mem_nil⟩
  · rintro c a c' ⟨hdraw, hissued, hsup⟩ - hn
    have hsup' := supplied_next hsup hn
    rcases issued_next hn with ⟨hreqs, hiss⟩ | ⟨req, rfl⟩
    · rw [hreqs, hiss]
      exact ⟨hdraw, hissued, hsup⟩
    · obtain ⟨hreqs, hfresh, hiss⟩ := arrive_next hn
      refine ⟨?_, fun id hid => ?_, hsup'⟩
      · rw [hreqs]
        refine ⟨fun req' hreq' => ?_, List.pairwise_append.mpr ⟨hdraw.2, List.pairwise_singleton _ _,
          fun req' hreq' req'' hreq'' id hid hid' => ?_⟩⟩
        · rcases List.mem_append.mp hreq' with hreq' | hreq'
          · exact hdraw.1 req' hreq'
          · rw [List.mem_singleton.mp hreq']
            exact ⟨hfresh.1, fun id hid hold => hfresh.2 id hid (hissued id hold)⟩
        · rw [List.mem_singleton.mp hreq''] at hid'
          exact hfresh.2 id hid' (hsup req' hreq' id hid)
      · rw [hiss]
        exact List.mem_append_right _ (hissued id hid)

/-- Requests that draw fresh ids can arrive one after the other. -/
theorem DrawFresh.welcome {fates : Request → Port → Fate} {reqs : List Request} {w : World sql}
    (h : DrawFresh w.issued reqs) : (system sql d).Welcomes fates reqs w := by
  induction reqs generalizing w with
  | nil => trivial
  | cons req reqs ih =>
    obtain ⟨hfresh, hpair⟩ := h
    obtain ⟨hfirst, hpair⟩ := List.pairwise_cons.mp hpair
    have harrive : w.arrive req = some { w with issued := req.supply.ids ++ w.issued } :=
      if_pos (hfresh req List.mem_cons_self)
    refine ⟨_, harrive, fun res w' halone => ih ⟨fun req' hreq' => ?_, hpair⟩⟩
    rw [yields_issued halone]
    obtain ⟨hnodup, hnew⟩ := hfresh req' (List.mem_cons_of_mem _ hreq')
    refine ⟨hnodup, fun id hid hold => ?_⟩
    rcases List.mem_append.mp hold with hold | hold
    · exact hfirst req' hreq' id hold hid
    · exact hnew id hid hold

/-! ## Independent requests -/

/-- The requests address no entity in common, and neither addresses the payment that the other is
    about to open. -/
def Independent (req req' : Request) : Prop :=
  (∀ entity ∈ req.addresses, entity ∉ req'.addresses) ∧
    (∀ entity ∈ req.opens, entity ∉ req'.addresses) ∧ ∀ entity ∈ req'.opens, entity ∉ req.addresses

instance (req req' : Request) : Decidable (Independent req req') := inferInstanceAs (Decidable (_ ∧ _))

/-- What a request opens, has an id that it drew. -/
theorem Request.mem_opens {req : Request} {entity : Entity} (h : entity ∈ req.opens) :
    ∃ id ∈ req.supply.ids, entity = .payment id := by
  obtain ⟨command, supply⟩ := req
  cases command with
  | approveQuote quoteId =>
    refine ⟨supply.paymentId, ?_, List.mem_singleton.mp h⟩
    exact List.mem_cons_of_mem _ List.mem_cons_self
  | _ => exact absurd h List.not_mem_nil

/-- Independent requests with ids of their own have no place in common. -/
theorem Independent.separate {req req' : Request} (h : Independent req req')
    (hdraw : ∀ id ∈ req.supply.ids, id ∉ req'.supply.ids) :
    (entities d).Separate (fun req : Request => req.addresses ++ req.opens) req req' := by
  intro entity hentity hentity'
  obtain ⟨haddress, hopens, hopens'⟩ := h
  rcases List.mem_append.mp hentity with hown | hown
  · rcases List.mem_append.mp hentity' with hown' | hown'
    · exact haddress entity hown hown'
    · exact hopens' entity hown' hown
  · rcases List.mem_append.mp hentity' with hown' | hown'
    · exact hopens entity hown hown'
    · obtain ⟨id, hid, rfl⟩ := Request.mem_opens hown
      obtain ⟨id', hid', heq⟩ := Request.mem_opens hown'
      cases heq
      exact hdraw id hid hid'

/-- **Independent requests are serialisable.**  From any state, when what the environment decides
    about a request's steps is fixed for each request: every interleaving ends with the same rows, the
    same events of every quote and every payment, and the same result or exception for every request
    as serving the requests one after the other, in any order. -/
theorem independent_serialisable {fates : Request → Port → Fate} {w : World sql}
    {c : Config (system sql d)} (H : Runs (fixed fates) ⟨w, []⟩ c) (hrest : c.atRest = true)
    (hindependent : c.reqs.Pairwise Independent) {order : List Request} (horder : order.Perm c.reqs) :
    (∃ rs u, (system sql d).Serially fates order w rs u) ∧
    ∀ rs u, (system sql d).Serially fates order w rs u →
      (∀ quoteId, u.store.quotes.find? quoteId = c.state.store.quotes.find? quoteId) ∧
      (∀ paymentId, u.store.payments.find? paymentId = c.state.store.payments.find? paymentId) ∧
      (∀ quoteId, eventsOf u.accepted (.quote quoteId) = eventsOf c.state.accepted (.quote quoteId)) ∧
      (∀ paymentId, eventsOf u.accepted (.payment paymentId) =
        eventsOf c.state.accepted (.payment paymentId)) ∧
      ∀ t ∈ c.threads, ∃ res, t.rest = ended res ∧ (t.req, res) ∈ order.zip rs := by
  have hdraw := runs_drawFresh H
  have hsep : c.reqs.Pairwise ((entities d).Separate fun req : Request => req.addresses ++ req.opens) :=
    (hindependent.and hdraw.2).imp fun ⟨hind, hids⟩ => hind.separate hids
  have hconf : ∀ req w, (entities d).Confined (fates req) (req.addresses ++ req.opens)
      (d.serve req) w := fun req => serve_staysWith d (fates req) req
  constructor
  · refine Serially.exists hconf (hdraw.perm horder).welcome (horder.symm.pairwise hsep ?_) ?_
    · exact fun hs entity he he' => hs entity he' he
    · intro req hreq
      obtain ⟨t, ht, rfl⟩ := List.mem_map.mp (horder.mem_iff.mp hreq)
      obtain ⟨res, w', -, halone, -⟩ := H.apart_at_rest (fun req => hconf req w) hsep hrest ht
      exact ⟨res, w', halone⟩
  · intro rs u hserial
    obtain ⟨hlook, hresults⟩ := interleaving_eq_serial hconf H hrest hsep horder hserial
    have hquote : ∀ quoteId, u.view.known (.quote quoteId) = c.state.view.known (.quote quoteId) :=
      fun quoteId => hlook (.quote quoteId)
    have hpayment : ∀ paymentId,
        u.view.known (.payment paymentId) = c.state.view.known (.payment paymentId) :=
      fun paymentId => hlook (.payment paymentId)
    refine ⟨fun quoteId => ?_, fun paymentId => ?_, fun quoteId => ?_, fun paymentId => ?_, hresults⟩
    · exact (Prod.mk.inj (hquote quoteId)).1
    · exact (Prod.mk.inj (hpayment paymentId)).1
    · exact (Prod.mk.inj (hquote quoteId)).2
    · exact (Prod.mk.inj (hpayment paymentId)).2

end Serve

section Samples

open Sample

/-- Two quotes, the first of them approved. -/
def Sample.twoQuotes : List (Action (system sql mock)) :=
  [create "1" "os-1"] ++ go 0 2 ++ [create "2" "os-2"] ++ go 1 2 ++
    [ask "3" (.approveQuote "quote-1")] ++ go 2 7

/-- The second is approved while the payment of the first is confirmed. -/
def Sample.approvedMeanwhile : List (Action (system sql mock)) :=
  [ask "4" (.approveQuote "quote-2"), ask "5" (.confirmPayment "payment-3")] ++ go 0 2 ++ go 1 2 ++
    go 0 2 ++ go 1 1 ++ go 0 2 ++ go 1 1 ++ go 0 1

/-- Every step goes through. -/
def Sample.proceeding : Action (system sql mock) → Bool
  | .start _ => true
  | .step _ fate => Fate.isProceeds fate
  | .abort _ _ => false

theorem fixed_of_proceeding {c : Config (system sql mock)} {a : Action (system sql mock)}
    (h : proceeding a = true) : fixed (fun _ _ => Fate.proceeds) c a := by
  cases a with
  | start req => trivial
  | abort i e => cases h
  | step i fate =>
    have hfate : fate = Fate.proceeds := by
      cases fate with
      | proceeds => rfl
      | answers response => cases h
      | raises e committed => cases h
    show Thread.takes _ fate c.threads[i]?
    unfold Thread.takes
    split
    · exact hfate
    · trivial

theorem independent_serialisable_approved_meanwhile :
    ∃ (c₀ c : Config (system sql mock)), Runs anyOrder (start sql mock) c₀ ∧
      Runs (fixed fun _ _ => Fate.proceeds) ⟨c₀.state, []⟩ c ∧ c.threads.length = 2 ∧
      ∃ rs u, (system sql mock).Serially (fun _ _ => Fate.proceeds) c.reqs.reverse c₀.state rs u ∧
        (∀ quoteId, u.store.quotes.find? quoteId = c.state.store.quotes.find? quoteId) ∧
        ∀ paymentId, u.store.payments.find? paymentId = c.state.store.payments.find? paymentId := by
  have hplay : (((start sql mock).play anyOrder twoQuotes).bind fun c₀ =>
      ((⟨c₀.state, []⟩ : Config (system sql mock)).play (fun _ a => proceeding a = true)
        approvedMeanwhile).map fun c =>
          (c.atRest, c.threads.length, decide (@List.Pairwise Request Independent c.reqs))) =
      some (true, 2, true) := by decide +kernel
  obtain ⟨c₀, hc₀, hplay⟩ := Option.bind_eq_some_iff.mp hplay
  obtain ⟨c, hc, hstate⟩ := Option.map_eq_some_iff.mp hplay
  obtain ⟨hrest, hstate⟩ := Prod.mk.inj hstate
  obtain ⟨hlength, hindependent⟩ := Prod.mk.inj hstate
  have hrun : Runs (fixed fun _ _ => Fate.proceeds) ⟨c₀.state, []⟩ c :=
    (Config.play_runs hc).mono fun _ _ => fixed_of_proceeding
  have hpairwise : ∀ reqs : List Request,
      decide (reqs.Pairwise Independent) = true → reqs.Pairwise Independent :=
    fun _ => of_decide_eq_true
  obtain ⟨⟨rs, u, hserial⟩, hsame⟩ := independent_serialisable hrun hrest
    (hpairwise c.reqs hindependent) (List.reverse_perm c.reqs)
  obtain ⟨hquotes, hpayments, -⟩ := hsame rs u hserial
  exact ⟨c₀, c, Config.play_runs hc₀, hrun, hlength, rs, u, hserial, hquotes, hpayments⟩

end Samples

end Billing

/-
  What the worker's handler does with a message.

  A message that passed `validate_event_message` has all its fields, so what is left of
  `BillingIntegrationEventHandler.handle` is `handle_eq`: look the event up, decide what to open
  (`opening`, which is pure), save, publish, mark.  `Handles` is the script of that as a property of
  every point of the program: at each step, exactly which steps were done before it.

  `serve_script` says the same of all requests: no other one marks an event as processed, and only a
  request that creates a quote announces one.
-/
import Billing.Proofs.Duties
import Billing.Infrastructure.Messaging

namespace Billing

open Py Atomic Program

variable [Python]

/-! ## The fields of a message -/

/-- What a message that passed the check looks like. -/
theorem validateEventMessage_eq_ok {message : Dict Json} (h : validateEventMessage message = .ok ()) :
    (∀ field ∈ requiredFields, (message.get? field).isSome = true) ∧
      (∃ s ∈ integrationEventTypes, message.get? "event_type" = some (.str s)) ∧
      ∃ kvs, message.get? "payload" = some (.dict kvs) := by
  unfold validateEventMessage at h
  simp only at h
  by_cases hmissing : (requiredFields.filter fun field => (message.get? field).isNone) = []
  · have hfields := missing_eq_nil_iff.mp hmissing
    rw [hmissing] at h
    obtain ⟨eventType, htype⟩ := Option.isSome_iff_exists.mp (hfields "event_type" (by decide))
    obtain ⟨payload, hpayload⟩ := Option.isSome_iff_exists.mp (hfields "payload" (by decide))
    have hgetType : getItem message "event_type" = .ok eventType := by rw [getItem, htype]
    have hgetPayload : getItem message "payload" = .ok payload := by rw [getItem, hpayload]
    simp only [hgetType, hgetPayload, ne_eq, not_true_eq_false, if_false, ok_bind] at h
    refine ⟨hfields, ?_, ?_⟩
    · cases eventType with
      | str s =>
        by_cases hs : s ∈ integrationEventTypes
        · exact ⟨s, hs, htype⟩
        · simp only [isIntegrationEventType, decide_eq_false hs] at h
          cases h
      | _ => cases h
    · cases hsupported : isIntegrationEventType eventType with
      | error e => rw [hsupported] at h; cases h
      | ok supported =>
        rw [hsupported] at h
        cases supported with
        | false => cases h
        | true =>
          cases payload with
          | dict kvs => exact ⟨kvs, hpayload⟩
          | _ => cases h
  · rw [if_pos hmissing] at h
    cases h

namespace EventMessage

/-- `message[key]` of a field that every message has. -/
def field (m : EventMessage) (key : String) : Json := (m.message.get? key).getD .null

/-- `str(message["event_id"])`. -/
def eventId (m : EventMessage) : String := (m.field "event_id").text

/-- `str(message["event_type"])`. -/
def eventType (m : EventMessage) : String := (m.field "event_type").text

/-- `str(message["correlation_id"])`. -/
def correlationId (m : EventMessage) : String := (m.field "correlation_id").text

/-- `message["payload"]`. -/
def payload (m : EventMessage) : Dict Json :=
  match m.field "payload" with
  | .dict kvs => kvs
  | _ => []

/-- `str(payload["service_order_id"])`. -/
def serviceOrderId (m : EventMessage) : Option String :=
  (m.payload.get? "service_order_id").map Json.text

theorem getItem_eq (m : EventMessage) {key : String} (hkey : key ∈ requiredFields) :
    getItem m.message key = .ok (m.field key) := by
  obtain ⟨value, hvalue⟩ :=
    Option.isSome_iff_exists.mp ((validateEventMessage_eq_ok m.valid).1 key hkey)
  rw [getItem, field, hvalue]
  rfl

theorem asDict_payload (m : EventMessage) : asDict (m.field "payload") = .ok m.payload := by
  obtain ⟨kvs, hkvs⟩ := (validateEventMessage_eq_ok m.valid).2.2
  have hfield : m.field "payload" = .dict kvs := by rw [field, hkvs]; rfl
  rw [payload, hfield]
  rfl

end EventMessage

/-! ## Creating a quote -/

namespace CreateQuoteUseCase

/-- The quote that a command opens, and its event. -/
def opening (command : CreateQuoteCommand) (supply : Supply) : Except Exc (Quote × DomainEvent) := do
  let total ← Money.make command.amount Money.defaultCurrency
  Quote.create command.serviceOrderId command.items total supply.quoteId supply.first

omit [Python] in
theorem opening_eq_ok {command : CreateQuoteCommand} {supply : Supply} {q : Quote} {e : DomainEvent}
    (h : opening command supply = .ok (q, e)) :
    q.quoteId = supply.quoteId ∧ q.serviceOrderId = command.serviceOrderId ∧
      q.items = command.items ∧ Money.make command.amount Money.defaultCurrency = .ok q.total ∧
      q.status = .created ∧
      e = q.event .quoteCreated [("quote_id", q.quoteId)] supply.first := by
  unfold opening at h
  cases htotal : Money.make command.amount Money.defaultCurrency with
  | error x => rw [htotal] at h; cases h
  | ok total =>
    rw [htotal, ok_bind] at h
    obtain ⟨rfl, he⟩ := Quote.create_eq_ok h
    exact ⟨rfl, rfl, rfl, rfl, rfl, he⟩

omit [Python] in
theorem execute_eq (command : CreateQuoteCommand) (supply : Supply) :
    execute command supply = ofExcept (opening command supply) >>= fun opened => do
      QuoteRepository.save opened.1
      EventPublisher.publish opened.2
      return opened.1 := by
  unfold execute opening
  cases Money.make command.amount Money.defaultCurrency with
  | error x => rfl
  | ok total => rfl

/-- The script of a creation: before each step, exactly these steps were done. -/
def Creates (command : CreateQuoteCommand) (supply : Supply) (h : List Event) : Port → Prop
  | .quoteSave q => h = [] ∧ ∃ e, opening command supply = .ok (q, e)
  | .publish e => ∃ q, opening command supply = .ok (q, e) ∧ h = [⟨.quoteSave q, .ok ()⟩]
  | _ => False

omit [Python] in
/-- **A creation keeps to its script.** -/
theorem create_script (command : CreateQuoteCommand) (supply : Supply) :
    Always (Creates command supply) (fun _ _ => True) [] (execute command supply) := by
  rw [execute_eq, always_ofExcept_bind]
  refine ⟨?_, fun _ _ => trivial⟩
  rintro ⟨q, e⟩ hopening
  rw [always_perform_bind]
  refine ⟨⟨rfl, e, hopening⟩, fun _ => ?_, fun _ => trivial⟩
  rw [always_perform_bind]
  exact ⟨⟨q, hopening, rfl⟩, fun _ => trivial, fun _ => trivial⟩

end CreateQuoteUseCase

/-! ## The handler -/

namespace BillingIntegrationEventHandler

/-- The command that the handler makes of an `OS_OPENED` message. -/
def commanding (self : BillingIntegrationEventHandler) (m : EventMessage) :
    Except Exc CreateQuoteCommand := do
  let serviceOrderId ← getItem m.payload "service_order_id"
  return ⟨serviceOrderId.text, self.defaultItems, self.defaultAmount⟩

/-- The quote that the handler opens for an `OS_OPENED` message, and its event. -/
def opening (self : BillingIntegrationEventHandler) (m : EventMessage) (supply : Supply) :
    Except Exc (Quote × DomainEvent) := do
  let command ← self.commanding m
  CreateQuoteUseCase.opening command supply

/-- Save, publish, mark. -/
def settling (m : EventMessage) (opened : Quote × DomainEvent) : Service String := do
  QuoteRepository.save opened.1
  EventPublisher.publish opened.2
  ProcessedEventRepository.markProcessed m.eventId m.eventType m.correlationId
  return "processed"

/-- What the handler does when it knows whether the event was processed. -/
def answering (self : BillingIntegrationEventHandler) (m : EventMessage) (supply : Supply)
    (processed : Bool) : Service String :=
  if processed then return "skipped"
  else if m.eventType ≠ "OS_OPENED" then return "ignored"
  else ofExcept (self.opening m supply) >>= settling m

/-- **The handler, for a message that has all its fields.** -/
theorem handle_eq (self : BillingIntegrationEventHandler) (m : EventMessage) (supply : Supply) :
    self.handle m supply = ProcessedEventRepository.isProcessed m.eventId >>= self.answering m supply := by
  have hid := m.getItem_eq (show "event_id" ∈ requiredFields by decide)
  have htype := m.getItem_eq (show "event_type" ∈ requiredFields by decide)
  have hcorrelation := m.getItem_eq (show "correlation_id" ∈ requiredFields by decide)
  have hpayload := m.getItem_eq (show "payload" ∈ requiredFields by decide)
  unfold handle
  rw [hid, htype, hcorrelation, hpayload, ok_bind, m.asDict_payload]
  simp only [ofExcept_ok, ret_bind]
  refine congrArg _ (funext fun processed => ?_)
  unfold answering
  cases processed with
  | true => rfl
  | false =>
    by_cases htypeIs : m.eventType ≠ "OS_OPENED"
    · exact (if_pos htypeIs).trans (if_pos htypeIs).symm
    · refine (if_neg htypeIs).trans (Eq.trans ?_ (if_neg htypeIs).symm)
      unfold opening commanding
      cases getItem m.payload "service_order_id" with
      | error e => rfl
      | ok serviceOrderId =>
        simp only [ok_bind, ofExcept_ok, ret_bind]
        rw [CreateQuoteUseCase.execute_eq]
        show _ = ofExcept (CreateQuoteUseCase.opening
          ⟨serviceOrderId.text, self.defaultItems, self.defaultAmount⟩ supply) >>= settling m
        cases CreateQuoteUseCase.opening
            ⟨serviceOrderId.text, self.defaultItems, self.defaultAmount⟩ supply with
        | error e => rfl
        | ok opened =>
          simp only [ofExcept_ok, ret_bind, bind_assoc, pure_eq]
          rfl

theorem opening_eq_ok {self : BillingIntegrationEventHandler} {m : EventMessage} {supply : Supply}
    {q : Quote} {e : DomainEvent} (h : self.opening m supply = .ok (q, e)) :
    ∃ command, self.commanding m = .ok command ∧
      CreateQuoteUseCase.opening command supply = .ok (q, e) := by
  unfold opening at h
  cases hcommand : self.commanding m with
  | error x => rw [hcommand] at h; cases h
  | ok command => rw [hcommand] at h; exact ⟨command, rfl, h⟩

/-- The script of the handler: before each step, exactly these steps were done. -/
def Handles (self : BillingIntegrationEventHandler) (m : EventMessage) (supply : Supply)
    (h : List Event) : Port → Prop
  | .isProcessed eventId => h = [] ∧ eventId = m.eventId
  | .quoteSave q => m.eventType = "OS_OPENED" ∧ h = [⟨.isProcessed m.eventId, .ok false⟩] ∧
      ∃ e, self.opening m supply = .ok (q, e)
  | .publish e => m.eventType = "OS_OPENED" ∧ ∃ q, self.opening m supply = .ok (q, e) ∧
      h = [⟨.isProcessed m.eventId, .ok false⟩, ⟨.quoteSave q, .ok ()⟩]
  | .markProcessed eventId eventType correlationId => m.eventType = "OS_OPENED" ∧
      eventId = m.eventId ∧ eventType = m.eventType ∧ correlationId = m.correlationId ∧
      ∃ q e, self.opening m supply = .ok (q, e) ∧
        h = [⟨.isProcessed m.eventId, .ok false⟩, ⟨.quoteSave q, .ok ()⟩, ⟨.publish e, .ok ()⟩]
  | _ => False

/-- How the handler can end, after which steps. -/
def Handled (self : BillingIntegrationEventHandler) (m : EventMessage) (supply : Supply)
    (h : List Event) : Except Exc String → Prop
  | .ok text =>
    (text = "skipped" ∧ h = [⟨.isProcessed m.eventId, .ok true⟩]) ∨
      (text = "ignored" ∧ m.eventType ≠ "OS_OPENED" ∧ h = [⟨.isProcessed m.eventId, .ok false⟩]) ∨
      (text = "processed" ∧ m.eventType = "OS_OPENED" ∧ ∃ q e, self.opening m supply = .ok (q, e) ∧
        h = [⟨.isProcessed m.eventId, .ok false⟩, ⟨.quoteSave q, .ok ()⟩, ⟨.publish e, .ok ()⟩,
          ⟨.markProcessed m.eventId m.eventType m.correlationId, .ok ()⟩])
  | .error e =>
    (∃ h' o, h = h' ++ [⟨o, .error e⟩] ∧ self.Handles m supply h' o) ∨
      (m.eventType = "OS_OPENED" ∧ h = [⟨.isProcessed m.eventId, .ok false⟩] ∧
        self.opening m supply = .error e)

/-- **The handler keeps to its script.** -/
theorem handle_script (self : BillingIntegrationEventHandler) (m : EventMessage) (supply : Supply) :
    Always (self.Handles m supply) (self.Handled m supply) [] (self.handle m supply) := by
  rw [handle_eq, always_perform_bind]
  refine ⟨⟨rfl, rfl⟩, fun processed => ?_, fun e => Or.inl ⟨[], _, rfl, rfl, rfl⟩⟩
  unfold answering
  cases processed with
  | true => exact Or.inl ⟨rfl, rfl⟩
  | false =>
    rw [if_neg Bool.false_ne_true]
    by_cases htype : m.eventType = "OS_OPENED"
    · rw [if_neg (not_not.mpr htype), always_ofExcept_bind]
      refine ⟨?_, fun e he => Or.inr ⟨htype, rfl, he⟩⟩
      rintro ⟨q, e⟩ hopening
      unfold settling
      rw [always_perform_bind]
      refine ⟨⟨htype, rfl, e, hopening⟩, fun _ => ?_,
        fun x => Or.inl ⟨_, _, rfl, htype, rfl, e, hopening⟩⟩
      rw [always_perform_bind]
      refine ⟨⟨htype, q, hopening, rfl⟩, fun _ => ?_,
        fun x => Or.inl ⟨_, _, rfl, htype, q, hopening, rfl⟩⟩
      rw [always_perform_bind]
      refine ⟨⟨htype, rfl, rfl, rfl, q, e, hopening, rfl⟩, fun _ => ?_,
        fun x => Or.inl ⟨_, _, rfl, htype, rfl, rfl, rfl, q, e, hopening, rfl⟩⟩
      exact Or.inr (Or.inr ⟨rfl, htype, q, e, hopening, rfl⟩)
    · rw [if_pos htype]
      exact Or.inr (Or.inl ⟨rfl, htype, rfl⟩)

end BillingIntegrationEventHandler

/-! ## Well-formed messages -/

/-- An `OS_OPENED` message of which the handler can make a quote: its service order is named and not
    blank, and the default items and the default amount are valid. -/
structure WellFormed (handler : BillingIntegrationEventHandler) (m : EventMessage) : Prop where
  osOpened : m.eventType = "OS_OPENED"
  serviceOrder : ∃ serviceOrderId, m.serviceOrderId = some serviceOrderId ∧ strip serviceOrderId ≠ ""
  items : handler.defaultItems ≠ []
  amount : ∃ total, Money.make handler.defaultAmount Money.defaultCurrency = .ok total

/-- The command for a message names its service order and has the defaults. -/
theorem BillingIntegrationEventHandler.commanding_eq_ok {handler : BillingIntegrationEventHandler}
    {m : EventMessage} {command : CreateQuoteCommand} (h : handler.commanding m = .ok command) :
    m.serviceOrderId = some command.serviceOrderId ∧ command.items = handler.defaultItems ∧
      command.amount = handler.defaultAmount := by
  unfold BillingIntegrationEventHandler.commanding getItem at h
  unfold EventMessage.serviceOrderId
  cases hfield : m.payload.get? "service_order_id" with
  | none => rw [hfield] at h; cases h
  | some value => rw [hfield] at h; cases h; exact ⟨rfl, rfl, rfl⟩

/-- **A quote can be made of a well-formed message.** -/
theorem WellFormed.opening {handler : BillingIntegrationEventHandler} {m : EventMessage}
    (h : WellFormed handler m) (supply : Supply) : ∃ q e, handler.opening m supply = .ok (q, e) := by
  obtain ⟨-, ⟨serviceOrderId, hso, hblank⟩, hitems, total, htotal⟩ := h
  obtain ⟨value, hvalue, rfl⟩ := Option.map_eq_some_iff.mp hso
  have hcommand : handler.commanding m =
      .ok ⟨value.text, handler.defaultItems, handler.defaultAmount⟩ := by
    unfold BillingIntegrationEventHandler.commanding getItem
    rw [hvalue]
    rfl
  unfold BillingIntegrationEventHandler.opening CreateQuoteUseCase.opening
  rw [hcommand, ok_bind, htotal, ok_bind]
  unfold Quote.create
  rw [if_neg hblank, if_neg hitems]
  exact ⟨_, _, rfl⟩

/-- A message of which the handler made a quote was well-formed. -/
theorem WellFormed.of_opening {handler : BillingIntegrationEventHandler} {m : EventMessage}
    {supply : Supply} {opened : Quote × DomainEvent} (htype : m.eventType = "OS_OPENED")
    (h : handler.opening m supply = .ok opened) : WellFormed handler m := by
  obtain ⟨q, e⟩ := opened
  obtain ⟨command, hcommand, hopening⟩ := BillingIntegrationEventHandler.opening_eq_ok h
  obtain ⟨hso, hitems, hamount⟩ := BillingIntegrationEventHandler.commanding_eq_ok hcommand
  unfold CreateQuoteUseCase.opening at hopening
  rw [hamount] at hopening
  cases htotal : Money.make handler.defaultAmount Money.defaultCurrency with
  | error x => rw [htotal] at hopening; cases hopening
  | ok total =>
    rw [htotal, ok_bind] at hopening
    unfold Quote.create at hopening
    split at hopening
    · cases hopening
    · rename_i hblank
      split at hopening
      · cases hopening
      · rename_i hnone
        exact ⟨htype, ⟨_, hso, hblank⟩, hitems ▸ hnone, total, htotal⟩

/-! ## All requests -/

/-- The step marks no event as processed and announces no new quote. -/
def Port.plain : Port → Bool
  | markProcessed _ _ _ => false
  | publish e => decide (e.eventType ≠ .quoteCreated)
  | _ => true

/-- A program of plain steps. -/
abbrev Plain {α : Type} (p : Service α) : Prop := Only (fun o : Port => o.plain = true) p

omit [Python] in
theorem Port.plain_publish {e : DomainEvent} {t : EventType} (he : e.eventType = t)
    (ht : t ≠ .quoteCreated) : (Port.publish e).plain = true := decide_eq_true (he ▸ ht)

omit [Python] in
theorem plain_call {α : Type} (p : Program sdk Exc α) : Plain (PaymentGateway.call p) :=
  Only.embed p fun _ => rfl

omit [Python] in
theorem approveQuote_plain (gateway : PaymentGateway) (quoteId : String) (supply : Supply) :
    Plain (ApproveQuoteUseCase.execute gateway quoteId supply) := by
  unfold ApproveQuoteUseCase.execute Payment.createPreference
  refine .perform_bind rfl fun q₀ => .ofExcept_bind ?_
  rintro ⟨q, approvedEvent⟩ happrove
  have hevent := congrArg DomainEvent.eventType (Quote.approve_eq_ok happrove).2.2
  rw [Quote.event_eventType] at hevent
  refine .perform_bind rfl fun _ => .ofExcept_bind fun p₀ _ => ?_
  rw [bind_assoc]
  refine .ofExcept_bind fun _ _ => ?_
  rw [bind_assoc]
  refine .bind (plain_call _) fun pref => ?_
  show Plain (((p₀.attachPreference pref supply.second).1.assign >>= _) >>= _)
  rw [bind_assoc]
  refine .perform_bind rfl fun _ => .perform_bind rfl fun _ => .perform_bind rfl fun _ => ?_
  refine .perform_bind (Port.plain_publish hevent fun h => by cases h) fun _ => ?_
  exact .perform_bind rfl fun _ => .ret _

omit [Python] in
theorem confirmPayment_plain (paymentId : String) (supply : Supply) :
    Plain (ConfirmPaymentUseCase.execute paymentId supply) := by
  refine .perform_bind rfl fun p₀ => .ofExcept_bind ?_
  rintro ⟨p, event⟩ hconfirm
  have hevent := congrArg DomainEvent.eventType (Payment.confirm_eq_ok hconfirm).2.2
  refine .perform_bind rfl fun _ => .perform_bind rfl fun _ => ?_
  exact .perform_bind (Port.plain_publish hevent fun h => by cases h) fun _ => .ret _

omit [Python] in
theorem failPayment_plain (paymentId reason : String) (supply : Supply) :
    Plain (FailPaymentUseCase.execute paymentId reason supply) := by
  refine .perform_bind rfl fun p₀ => .ofExcept_bind ?_
  rintro ⟨p, event⟩ hfail
  have hevent := congrArg DomainEvent.eventType (Payment.fail_eq_ok hfail).2.2
  refine .perform_bind rfl fun _ => .perform_bind rfl fun _ => ?_
  exact .perform_bind (Port.plain_publish hevent fun h => by cases h) fun _ => .ret _

omit [Python] in
theorem applyPaymentStatus_plain (command : ApplyPaymentStatusCommand) (supply : Supply) :
    Plain (ApplyPaymentStatusUseCase.execute command supply) := by
  rw [ApplyPaymentStatusUseCase.execute_eq]
  refine .perform_bind rfl fun p₀ => ?_
  generalize hx : ApplyPaymentStatusUseCase.decide p₀ command supply.first = x
  refine .ofExcept_bind ?_
  rintro ⟨p, event, action⟩ rfl
  cases event with
  | none => exact .perform_bind rfl fun _ => .ret _
  | some event =>
    have hplain : (Port.publish event).plain = true := by
      rcases ApplyPaymentStatusUseCase.decide_eq_ok hx with ⟨-, -, e, he, hconfirm⟩ |
        ⟨-, e, he, hfail⟩ | ⟨-, he, -⟩ | ⟨-, he, -⟩
      · obtain rfl := Option.some.inj he
        exact Port.plain_publish (congrArg _ (Payment.confirm_eq_ok hconfirm).2.2) fun h => by cases h
      · obtain rfl := Option.some.inj he
        exact Port.plain_publish (congrArg _ (Payment.fail_eq_ok hfail).2.2) fun h => by cases h
      · cases he
      · cases he
    exact .perform_bind rfl fun _ => .perform_bind rfl fun _ => .perform_bind hplain fun _ => .ret _

omit [Python] in
theorem syncPaymentStatus_plain (gateway : PaymentGateway) (paymentId : String)
    (supply : Supply) : Plain (SyncPaymentStatusUseCase.execute gateway paymentId supply) := by
  unfold SyncPaymentStatusUseCase.execute
  refine .perform_bind rfl fun payment => .bind (plain_call _) fun status => ?_
  exact .bind (applyPaymentStatus_plain _ _) fun _ => .ret _

/-- **The script of a request.**  The handler and a creation keep to their own; no other request marks
    an event or announces a new quote. -/
def Serves (d : Deployment) (req : Request) (h : List Event) (o : Port) : Prop :=
  match req.command with
  | .handle m => d.handler.Handles m req.supply h o
  | .createQuote command => CreateQuoteUseCase.Creates command req.supply h o
  | _ => o.plain = true

/-- How a request that handles a message can end. -/
def Served (d : Deployment) (req : Request) (h : List Event) (r : Except Exc Response) : Prop :=
  ∀ m, req.command = .handle m → match r with
    | .ok (.handled text) => d.handler.Handled m req.supply h (.ok text)
    | .ok _ => False
    | .error e => d.handler.Handled m req.supply h (.error e)

/-- The rule of a request that handles no message. -/
theorem always_serves {α : Type} {d : Deployment} {req : Request} {p : Service α} {f : α → Response}
    (hcmd : ∀ m, req.command ≠ .handle m) (hp : Always (Serves d req) (fun _ _ => True) [] p) :
    Always (Serves d req) (Served d req) [] (p >>= fun a => pure (f a)) := by
  rw [always_bind]
  refine hp.mono (fun _ _ ho => ho) fun h r _ => ?_
  cases r with
  | error e => exact fun m hm => absurd hm (hcmd m)
  | ok a => exact fun m hm => absurd hm (hcmd m)

/-- **Every request keeps to its script.** -/
theorem serve_script (d : Deployment) (req : Request) :
    Always (Serves d req) (Served d req) [] (d.serve req) := by
  obtain ⟨command, supply⟩ := req
  cases command with
  | createQuote command =>
    exact always_serves (fun m hm => by cases hm) (CreateQuoteUseCase.create_script command supply)
  | approveQuote quoteId =>
    exact always_serves (fun m hm => by cases hm) (approveQuote_plain d.gateway quoteId supply [])
  | confirmPayment paymentId =>
    exact always_serves (fun m hm => by cases hm) (confirmPayment_plain paymentId supply [])
  | failPayment paymentId reason =>
    exact always_serves (fun m hm => by cases hm) (failPayment_plain paymentId reason supply [])
  | applyPaymentStatus command =>
    exact always_serves (fun m hm => by cases hm) (applyPaymentStatus_plain command supply [])
  | syncPaymentStatus paymentId =>
    exact always_serves (fun m hm => by cases hm) (syncPaymentStatus_plain d.gateway paymentId supply [])
  | handle message =>
    show Always _ _ [] (d.handler.handle message supply >>= fun text => pure (Response.handled text))
    rw [always_bind]
    refine (d.handler.handle_script message supply).mono (fun _ _ ho => ho) fun h r hr => ?_
    cases r with
    | error e => rintro m ⟨⟩; exact hr
    | ok text => rintro m ⟨⟩; exact hr

section Samples

open Sample

theorem Sample.wellFormed_osOpened (eventId : String) {serviceOrderId : String}
    (h : strip serviceOrderId ≠ "") : WellFormed mock.handler (osOpenedMessage eventId serviceOrderId) where
  osOpened := rfl
  serviceOrder := ⟨serviceOrderId, rfl, h⟩
  items := by decide
  amount := ⟨⟨.finite false 10000 (-2), "BRL", by decide, by decide⟩, rfl⟩

end Samples

end Billing

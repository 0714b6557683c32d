/-
  What a delivery does.

  `delivery_cases` sums up `_handle_delivery`: the body is refused, or it is passed over, or a quote is
  opened for it.  Which of them it is can be told from the body and the processed events alone; the
  one case in which it is not what it should be is a service order that is null (`taken_in_iff`).
-/
import Billing.Infrastructure.Messaging
import Billing.Ledger
import Billing.Proofs.Alone

namespace Billing

open Py Atomic Program

section Intake

variable [Python]

/-! ## The envelope -/

/-- The body is the UTF-8 text of this JSON object. -/
def Describes (body : ByteArray) (message : Dict Json) : Prop :=
  ∃ text, String.fromUTF8? body = some text ∧ Json.loads text = some (.dict message)

theorem decodeBody_iff {body : ByteArray} {message : Dict Json} :
    decodeBody body = .ok message ↔ Describes body message := by
  unfold decodeBody Describes
  cases String.fromUTF8? body with
  | none =>
    constructor
    · intro h
      cases h
    · rintro ⟨text, htext, -⟩
      cases htext
  | some text =>
    simp only [Option.some.injEq, exists_eq_left']
    cases Json.loads text with
    | none =>
      constructor
      · intro h
        cases h
      · intro h
        cases h
    | some j =>
      cases j with
      | dict kvs =>
        constructor
        · intro h
          rw [Except.ok.inj h]
        · intro h
          rw [Json.dict.inj (Option.some.inj h)]
      | _ =>
        constructor
        · intro h
          cases h
        · intro h
          cases h

/-- The five fields are there, the type is a supported one and the payload is an object. -/
structure Envelope (message : Dict Json) : Prop where
  fields : ∀ field ∈ requiredFields, (message.get? field).isSome = true
  eventType : ∃ s ∈ integrationEventTypes, message.get? "event_type" = some (.str s)
  payload : ∃ kvs, message.get? "payload" = some (.dict kvs)

/-- **The check lets exactly the envelopes through.** -/
theorem validateEventMessage_iff {message : Dict Json} :
    validateEventMessage message = .ok () ↔ Envelope message := by
  constructor
  · intro h
    obtain ⟨hfields, htype, hpayload⟩ := validateEventMessage_eq_ok h
    exact ⟨hfields, htype, hpayload⟩
  · rintro ⟨hfields, ⟨s, hs, htype⟩, kvs, hpayload⟩
    have hmissing := missing_eq_nil_iff.mpr hfields
    have hgetType : getItem message "event_type" = .ok (.str s) := by rw [getItem, htype]
    have hgetPayload : getItem message "payload" = .ok (.dict kvs) := by rw [getItem, hpayload]
    have hsupported : isIntegrationEventType (.str s) = .ok true := by
      rw [isIntegrationEventType, decide_eq_true hs]
    unfold validateEventMessage
    simp only [hmissing, hgetType, hgetPayload, hsupported, ne_eq, not_true_eq_false, if_false, ok_bind]
    rfl

theorem readDelivery_iff {body : ByteArray} {m : EventMessage} :
    readDelivery body = .ok m ↔ Describes body m.message := by
  unfold readDelivery
  constructor
  · intro h
    cases hdecode : decodeBody body with
    | error e => rw [hdecode] at h; cases h
    | ok message =>
      rw [hdecode] at h
      simp only at h
      split at h
      · cases h
      · rw [← Except.ok.inj h]
        exact decodeBody_iff.mp hdecode
  · intro h
    rw [decodeBody_iff.mpr h]
    simp only
    split
    · rename_i e hinvalid
      rw [m.valid] at hinvalid
      cases hinvalid
    · rfl

/-- What is read is an envelope, and every envelope is read. -/
theorem readDelivery_isOk {body : ByteArray} :
    (∃ m, readDelivery body = .ok m) ↔ ∃ message, Describes body message ∧ Envelope message := by
  constructor
  · rintro ⟨m, hm⟩
    exact ⟨m.message, readDelivery_iff.mp hm, validateEventMessage_iff.mp m.valid⟩
  · rintro ⟨message, hdescribes, henvelope⟩
    exact ⟨⟨message, validateEventMessage_iff.mpr henvelope⟩, readDelivery_iff.mpr hdescribes⟩

/-- A body is the text of one object at most. -/
theorem Describes.unique {body : ByteArray} {message message' : Dict Json}
    (h : Describes body message) (h' : Describes body message') : message = message' := by
  obtain ⟨text, htext, hloads⟩ := h
  obtain ⟨text', htext', hloads'⟩ := h'
  obtain rfl := Option.some.inj (htext.symm.trans htext')
  exact Json.dict.inj (Option.some.inj (hloads.symm.trans hloads'))

/-! ## The three things a delivery can do -/

variable {b : Backend} {handler : BillingIntegrationEventHandler}

/-- `str(message[key])`. -/
def fieldText (message : Dict Json) (key : String) : String := ((message.get? key).getD .null).text

/-- It is an `OS_OPENED` message that was not processed yet. -/
structure Due (s : b.Store) (message : Dict Json) : Prop where
  opened : fieldText message "event_type" = "OS_OPENED"
  unprocessed : b.isProcessed s (fieldText message "event_id") = false

/-- The payload says that this is the service order. -/
def ServiceOrder (message : Dict Json) (value : Json) : Prop :=
  ∃ payload : Dict Json, message.get? "payload" = some (.dict payload) ∧
    payload.get? "service_order_id" = some value

/-- The default items and the default amount can be made a quote of. -/
structure BillingIntegrationEventHandler.Valid (handler : BillingIntegrationEventHandler) : Prop where
  items : handler.defaultItems ≠ []
  amount : ∃ total, Money.make handler.defaultAmount Money.defaultCurrency = .ok total

/-- A quote was stored and announced, and an event is processed; that is all. -/
structure Stores (w w' : World b) (eventId : String) (q : Quote) : Prop where
  ledger : b.ledger w'.store = ((b.ledger w.store).withQuote q).withProcessed eventId
  announced : ∃ e : DomainEvent, w'.accepted = w.accepted ++ [e] ∧ e.eventType = .quoteCreated ∧
    e.payload.get? "quote_id" = some q.quoteId

/-- What a delivery does. -/
inductive Delivers (w : World b) (body : ByteArray) : List Settlement × World b → Prop where
  /-- It is refused, and nothing happens. -/
  | refused (h : ∀ message, Describes body message → Envelope message → Due w.store message ∧
      ∀ value, ServiceOrder message value → strip value.text = "") : Delivers w body ([.nack], w)
  /-- It is passed over. -/
  | passed {message : Dict Json} (hbody : Describes body message) (henvelope : Envelope message)
      (hdue : ¬ Due w.store message) : Delivers w body ([.ack], w)
  /-- A quote is opened for the service order. -/
  | opened {message : Dict Json} {value : Json} {q : Quote} {w' : World b}
      (hbody : Describes body message) (henvelope : Envelope message) (hdue : Due w.store message)
      (hvalue : ServiceOrder message value) (hblank : strip value.text ≠ "")
      (hquote : q.serviceOrderId = value.text)
      (hstores : Stores w w' (fieldText message "event_id") q) :
      Delivers w body ([.ack], w')

theorem serviceOrder_iff {m : EventMessage} {value : Json} :
    ServiceOrder m.message value ↔ m.payload.get? "service_order_id" = some value := by
  obtain ⟨kvs, hkvs⟩ := (validateEventMessage_iff.mp m.valid).payload
  have hpayload : m.payload = kvs := by
    unfold EventMessage.payload EventMessage.field
    rw [hkvs]
    rfl
  rw [hpayload]
  constructor
  · rintro ⟨payload, hmessage, hvalue⟩
    obtain rfl := Json.dict.inj (Option.some.inj (hmessage.symm.trans hkvs))
    exact hvalue
  · intro hvalue
    exact ⟨kvs, hkvs, hvalue⟩

/-- With valid defaults, a message is well-formed exactly when its service order is not blank. -/
theorem opening_iff (hvalid : handler.Valid) {m : EventMessage} (supply : Supply)
    (htype : m.eventType = "OS_OPENED") :
    (∃ opened, handler.opening m supply = .ok opened) ↔
      ∃ value, ServiceOrder m.message value ∧ strip value.text ≠ "" := by
  constructor
  · rintro ⟨opened, hopening⟩
    obtain ⟨-, ⟨text, htext, hblank⟩, -, -⟩ := WellFormed.of_opening htype hopening
    obtain ⟨value, hvalue, rfl⟩ := Option.map_eq_some_iff.mp htext
    exact ⟨value, serviceOrder_iff.mpr hvalue, hblank⟩
  · rintro ⟨value, hvalue, hblank⟩
    have hso : m.serviceOrderId = some value.text := by
      unfold EventMessage.serviceOrderId
      rw [serviceOrder_iff.mp hvalue]
      rfl
    have hwf : WellFormed handler m := ⟨htype, ⟨_, hso, hblank⟩, hvalid.items, hvalid.amount⟩
    obtain ⟨q, e, hopening⟩ := hwf.opening supply
    exact ⟨_, hopening⟩

/-- **Every delivery does one of the three.** -/
theorem delivery_cases (hb : b.Lawful) (hvalid : handler.Valid) (w : World b) (body : ByteArray)
    (supply : Supply) : Delivers w body (w.handleDelivery handler body supply) := by
  unfold World.handleDelivery
  cases hread : readDelivery body with
  | error e =>
    refine .refused fun message hbody henvelope => ?_
    obtain ⟨m, hm⟩ := readDelivery_isOk.mpr ⟨message, hbody, henvelope⟩
    rw [hread] at hm
    cases hm
  | ok m =>
    have hbody := readDelivery_iff.mp hread
    have henvelope := validateEventMessage_iff.mp m.valid
    simp only
    rw [run_handle]
    unfold BillingIntegrationEventHandler.outcome
    cases hprocessed : b.isProcessed w.store m.eventId with
    | true =>
      refine .passed hbody henvelope fun hdue => ?_
      have hnot : b.isProcessed w.store m.eventId = false := hdue.unprocessed
      rw [hprocessed] at hnot
      cases hnot
    | false =>
      simp only [Bool.false_eq_true, if_false]
      by_cases htype : m.eventType ≠ "OS_OPENED"
      · rw [if_pos htype]
        exact .passed hbody henvelope fun hdue => htype hdue.opened
      · have hopened : m.eventType = "OS_OPENED" := not_not.mp htype
        have hdue : Due w.store m.message := ⟨hopened, hprocessed⟩
        rw [if_neg htype]
        cases hopening : handler.opening m supply with
        | error e =>
          refine .refused fun message hmessage _ => ?_
          obtain rfl := hbody.unique hmessage
          refine ⟨hdue, fun value hvalue => ?_⟩
          by_contra hblank
          obtain ⟨opened, hok⟩ := (opening_iff hvalid supply hopened).mpr ⟨value, hvalue, hblank⟩
          rw [hopening] at hok
          cases hok
        | ok opened =>
          obtain ⟨q, e⟩ := opened
          obtain ⟨value, hvalue, hblank⟩ := (opening_iff hvalid supply hopened).mp ⟨_, hopening⟩
          obtain ⟨command, hcommand, hcreate⟩ := BillingIntegrationEventHandler.opening_eq_ok hopening
          obtain ⟨hso, -, -⟩ := BillingIntegrationEventHandler.commanding_eq_ok hcommand
          obtain ⟨-, hquote, -, -, -, he⟩ := CreateQuoteUseCase.opening_eq_ok hcreate
          have hname : q.serviceOrderId = value.text := by
            unfold EventMessage.serviceOrderId at hso
            rw [serviceOrder_iff.mp hvalue] at hso
            rw [hquote, ← Option.some.inj hso]
          refine .opened hbody henvelope hdue hvalue hblank hname ⟨?_, e, rfl, ?_, ?_⟩
          · show b.ledger (b.markProcessed (b.quoteSave w.store q) _ _ _) = _
            rw [hb.markProcessed, hb.quoteSave]
            rfl
          · rw [he, Quote.event_eventType]
          · rw [he]
            rfl

/-! ### In the machine -/

section Machine

open Machine

variable {d : Deployment}

/-- The thread that has the delivery runs to its end, and nothing else happens. -/
theorem thread_runs {p : Service Response} {res : Except Exc Response} {w w' : World sql}
    {ts : List (Thread (system sql d))} {req : Request} {hist : List Event} {s : Worker d}
    (h : (system sql d).Yields calm p w res w') (hconfig : s.config = ⟨w, ts ++ [⟨req, hist, p⟩]⟩) :
    ∃ ls s' hist', (worker d).Path anyLabel s ls s' ∧ s'.delivery = s.delivery ∧
      s'.forgotten = s.forgotten ∧ s'.config = ⟨w', ts ++ [⟨req, hist', System.ended res⟩]⟩ := by
  induction p generalizing s hist w with
  | ret a =>
    obtain ⟨rfl, rfl⟩ := h
    exact ⟨[], s, hist, .nil, rfl, rfl, hconfig⟩
  | raise e =>
    obtain ⟨rfl, rfl⟩ := h
    exact ⟨[], s, hist, .nil, rfl, rfl, hconfig⟩
  | step o k ih =>
    obtain ⟨fate, r, w₁, -, hexec, hrest⟩ := h
    have hget : s.config.threads[ts.length]? = some ⟨req, hist, .step o k⟩ := by
      rw [hconfig]
      simp
    have hexec' : (system sql d).exec o fate s.config.state = some (r, w₁) := by
      rw [hconfig]
      exact hexec
    have hstep := Config.next_step_of hget hexec'
    have hthreads : s.config.threads.set ts.length ⟨req, hist ++ [⟨o, r⟩], k r⟩ =
        ts ++ [⟨req, hist ++ [⟨o, r⟩], k r⟩] := by
      rw [hconfig]
      simp
    rw [hthreads] at hstep
    have hnext : (worker d).next s (.act (.step ts.length fate)) =
        some (s.acts ⟨w₁, ts ++ [⟨req, hist ++ [⟨o, r⟩], k r⟩]⟩) := by
      show ((s.config.next (.step ts.length fate)).map s.acts) = _
      rw [hstep]
      rfl
    obtain ⟨ls, s', hist', hpath, hdelivery, hforgotten, hconfig'⟩ :=
      ih r (s := s.acts ⟨w₁, ts ++ [⟨req, hist ++ [⟨o, r⟩], k r⟩]⟩) hrest rfl
    exact ⟨_, s', hist', .cons trivial hnext hpath, hdelivery, hforgotten, hconfig'⟩

/-- How a delivery is settled whose handler ended so. -/
def settlementOf {α : Type} : Except Exc α → Settlement
  | .ok _ => .ack
  | .error _ => .nack

theorem handleDelivery_read {w : World b} {body : ByteArray} {m : EventMessage} {supply : Supply}
    (h : readDelivery body = .ok m) : w.handleDelivery handler body supply =
      ([settlementOf (w.run noAnswers (handler.handle m supply)).1],
        (w.run noAnswers (handler.handle m supply)).2) := by
  unfold World.handleDelivery
  rw [h]
  simp only
  generalize w.run noAnswers (handler.handle m supply) = x
  obtain ⟨r, w'⟩ := x
  cases r with
  | ok text => rfl
  | error e => rfl

/-- A message that can be read is handed to a thread of its own. -/
theorem deliver_starts {s : Worker d} {place : Nat} {body : ByteArray} {m : EventMessage}
    {supply : Supply} {w : World sql} (hidle : s.delivery = none) (hbody : s.queue[place]? = some body)
    (hread : readDelivery body = .ok m)
    (harrive : World.arrive s.config.state ⟨.handle m, supply⟩ = some w) :
    ∃ s₁, (worker d).next s (.deliver place supply) = some s₁ ∧
      s₁.delivery = some ⟨body, s.config.threads.length⟩ ∧ s₁.forgotten = s.forgotten ∧
      s₁.config = ⟨w, s.config.threads ++ [⟨⟨.handle m, supply⟩, [], d.serve ⟨.handle m, supply⟩⟩]⟩ := by
  have hstart := Config.next_start_of (c := s.config) harrive
  show ∃ s₁, s.deliver place supply = some s₁ ∧ _
  unfold Worker.deliver
  rw [hidle, hbody]
  simp only [hread]
  rw [hstart]
  exact ⟨_, rfl, rfl, rfl, rfl⟩

/-- A delivery is settled when its thread has ended. -/
theorem settle_ended {s : Worker d} {delivery : Delivery} {req : Request} {hist : List Event}
    {res : Except Exc Response} (hdelivery : s.delivery = some delivery)
    (hthread : s.config.threads[delivery.thread]? = some ⟨req, hist, System.ended res⟩) :
    (worker d).next s .settle = some { s with
      delivery := none
      forgotten := s.forgotten ++ [⟨delivery.body, settlementOf res, some delivery.thread⟩] } := by
  show s.settle = _
  unfold Worker.settle
  rw [hdelivery]
  simp only
  rw [hthread]
  cases res with
  | ok response => rfl
  | error e => rfl

/-- **What the worker does with a delivery is what `handleDelivery` says**, when it has the world to
    itself. -/
theorem worker_takes_in {s : Worker d} {place : Nat} {body : ByteArray} {m : EventMessage}
    {supply : Supply} {w : World sql} (hidle : s.delivery = none) (hbody : s.queue[place]? = some body)
    (hread : readDelivery body = .ok m)
    (harrive : World.arrive s.config.state ⟨.handle m, supply⟩ = some w) :
    ∃ ls s' settlement, (worker d).Path anyLabel s ls s' ∧ s'.delivery = none ∧
      s'.forgotten = s.forgotten ++ [⟨body, settlement, some s.config.threads.length⟩] ∧
      w.handleDelivery d.handler body supply = ([settlement], s'.config.state) := by
  obtain ⟨s₁, hdeliver, hdelivery₁, hforgotten₁, hconfig₁⟩ := deliver_starts hidle hbody hread harrive
  have hyields := run_calm (d := d) noAnswers (d.serve ⟨.handle m, supply⟩) w
  have hserve : w.run noAnswers (d.serve ⟨.handle m, supply⟩) =
      ((w.run noAnswers (d.handler.handle m supply)).1.map .handled,
        (w.run noAnswers (d.handler.handle m supply)).2) := run_map noAnswers _ _ _
  rw [hserve] at hyields
  obtain ⟨ls, s₂, hist, hpath, hdelivery₂, hforgotten₂, hconfig₂⟩ := thread_runs hyields hconfig₁
  have hthread : s₂.config.threads[s.config.threads.length]? = some ⟨⟨.handle m, supply⟩, hist,
      System.ended ((w.run noAnswers (d.handler.handle m supply)).1.map .handled)⟩ := by
    rw [hconfig₂]
    simp
  have hsettle := settle_ended (hdelivery₂.trans hdelivery₁) hthread
  refine ⟨_, _, settlementOf (w.run noAnswers (d.handler.handle m supply)).1,
    .cons trivial hdeliver (.snoc hpath trivial hsettle), rfl, ?_, ?_⟩
  · show s₂.forgotten ++ _ = _
    rw [hforgotten₂, hforgotten₁]
    cases (w.run noAnswers (d.handler.handle m supply)).1 with
    | ok text => rfl
    | error e => rfl
  · rw [handleDelivery_read hread]
    show (_, _) = (_, s₂.config.state)
    rw [hconfig₂]

end Machine

/-! ## Taking in a delivery -/

/-- What should be acknowledged. -/
def Acceptable (s : b.Store) (body : ByteArray) : Prop :=
  ∃ message, Describes body message ∧ Envelope message ∧
    (Due s message → ∃ value, ServiceOrder message value ∧ value ≠ .null ∧ strip value.text ≠ "")

/-- **What a delivery should do.** -/
structure TakesIn (w : World b) (body : ByteArray) (settlements : List Settlement) (w' : World b) :
    Prop where
  /-- It is settled once. -/
  once : ∃ s, settlements = [s]
  /-- It is acknowledged exactly when it is acceptable. -/
  acked : settlements = [.ack] ↔ Acceptable w.store body
  /-- A quote is stored exactly for an acknowledged message that was due. -/
  stored : (∃ eventId q, Stores w w' eventId q) ↔
    settlements = [.ack] ∧ ∃ message, Describes body message ∧ Due w.store message
  /-- The quote is for the service order of the message. -/
  order : ∀ eventId q, Stores w w' eventId q →
    ∃ message value, Describes body message ∧ ServiceOrder message value ∧ q.serviceOrderId = value.text
  /-- Otherwise nothing changes. -/
  otherwise : (∀ eventId q, ¬ Stores w w' eventId q) → w' = w

/-- An acceptable message but for its service order, which is null. -/
def NullOrder (s : b.Store) (body : ByteArray) : Prop :=
  ∃ message, Describes body message ∧ Envelope message ∧ Due s message ∧ ServiceOrder message .null

omit [Python] in
theorem Stores.ne {w w' : World b} {eventId : String} {q : Quote} (h : Stores w w' eventId q) :
    w' ≠ w := by
  rintro rfl
  obtain ⟨e, he, -⟩ := h.announced
  have hlength := congrArg List.length he
  rw [List.length_append, List.length_singleton] at hlength
  omega

omit [Python] in
/-- One quote is stored at most. -/
theorem Stores.unique {w w' : World b} {eventId eventId' : String} {q q' : Quote}
    (h : Stores w w' eventId q) (h' : Stores w w' eventId' q') : q = q' := by
  obtain ⟨e, he, -, hid⟩ := h.announced
  obtain ⟨e', he', -, hid'⟩ := h'.announced
  have hevent : e = e' := List.singleton_injective (List.append_cancel_left (he.symm.trans he'))
  have hids : q.quoteId = q'.quoteId := by
    rw [hevent, hid'] at hid
    exact (Option.some.inj hid).symm
  have hread : ∀ (q : Quote) (eventId : String), b.ledger w'.store =
      ((b.ledger w.store).withQuote q).withProcessed eventId → b.quoteGet w'.store q.quoteId = .ok q := by
    intro q eventId hledger
    show (b.ledger w'.store).quote q.quoteId = _
    rw [hledger]
    exact Function.update_self _ _ _
  have hq := hread q eventId h.ledger
  rw [hids, hread q' eventId' h'.ledger] at hq
  exact (Except.ok.inj hq).symm

omit [Python] in
theorem ServiceOrder.unique {message : Dict Json} {value value' : Json}
    (h : ServiceOrder message value) (h' : ServiceOrder message value') : value = value' := by
  obtain ⟨payload, hpayload, hvalue⟩ := h
  obtain ⟨payload', hpayload', hvalue'⟩ := h'
  obtain rfl := Json.dict.inj (Option.some.inj (hpayload.symm.trans hpayload'))
  exact Option.some.inj (hvalue.symm.trans hvalue')

/-- A delivery that changes nothing stores nothing. -/
theorem TakesIn.unchanged {w : World b} {body : ByteArray} {s : Settlement}
    (hacked : s = .ack ↔ Acceptable w.store body)
    (hdue : s = .ack → ∀ message, Describes body message → ¬ Due w.store message) :
    TakesIn w body [s] w where
  once := ⟨s, rfl⟩
  acked := ⟨fun h => hacked.mp (List.singleton_injective h), fun h => by rw [hacked.mpr h]⟩
  stored := by
    constructor
    · rintro ⟨eventId, q, h⟩
      exact absurd rfl h.ne
    · rintro ⟨hs, message, hbody, hmessage⟩
      exact absurd hmessage (hdue (List.singleton_injective hs) message hbody)
  order := by
    intro eventId q h
    exact absurd rfl h.ne
  otherwise := fun _ => rfl

/-- A null is taken for the name of a service order. -/
theorem null_taken_in (hb : b.Lawful) (hvalid : handler.Valid) {w : World b} {body : ByteArray}
    (h : NullOrder w.store body) (supply : Supply) :
    ¬ TakesIn w body (w.handleDelivery handler body supply).1
      (w.handleDelivery handler body supply).2 := by
  obtain ⟨message, hbody, henvelope, hdue, hnull⟩ := h
  have hnone : strip "None" ≠ "" := by decide
  have hcases := delivery_cases hb hvalid w body supply
  generalize w.handleDelivery handler body supply = outcome at hcases
  intro htakes
  cases hcases with
  | refused hrefused =>
    have hblank : strip (Json.text .null) = "" := (hrefused message hbody henvelope).2 .null hnull
    exact hnone hblank
  | passed hbody' _ hdue' =>
    obtain rfl := hbody.unique hbody'
    exact hdue' hdue
  | opened =>
    obtain ⟨message', hbody', -, hservice⟩ := htakes.acked.mp rfl
    obtain rfl := hbody.unique hbody'
    obtain ⟨value, hvalue, hne, -⟩ := hservice hdue
    exact hne (hvalue.unique hnull)

/-- **A delivery does what it should exactly when its service order is not null.** -/
theorem takes_in_iff (mode : RuntimeMode) (hvalid : handler.Valid) (w : World mode.backend)
    (body : ByteArray) (supply : Supply) :
    TakesIn w body (w.handleDelivery handler body supply).1 (w.handleDelivery handler body supply).2 ↔
      ¬ NullOrder w.store body := by
  refine ⟨fun h hnull => null_taken_in mode.lawful hvalid hnull supply h, fun hnull => ?_⟩
  have hcases := delivery_cases mode.lawful hvalid w body supply
  generalize w.handleDelivery handler body supply = outcome at hcases
  cases hcases with
  | refused h =>
    have hrefused : ¬ Acceptable w.store body := by
      rintro ⟨message, hbody, henvelope, hvalue⟩
      obtain ⟨hdue, hblank⟩ := h message hbody henvelope
      obtain ⟨value, hservice, -, hnot⟩ := hvalue hdue
      exact hnot (hblank value hservice)
    refine .unchanged ⟨fun h => (by cases h), fun h => absurd h hrefused⟩ ?_
    intro hs
    cases hs
  | @passed message hbody henvelope hdue =>
    have hnot : ∀ message', Describes body message' → ¬ Due w.store message' := by
      intro message' hbody'
      rw [hbody'.unique hbody]
      exact hdue
    have hacceptable : Acceptable w.store body :=
      ⟨message, hbody, henvelope, fun h => absurd h hdue⟩
    exact .unchanged ⟨fun _ => hacceptable, fun _ => rfl⟩ fun _ => hnot
  | @opened message value q w' hbody henvelope hdue hvalue hblank hquote hstores =>
    have hne : value ≠ .null := by
      rintro rfl
      exact hnull ⟨message, hbody, henvelope, hdue, hvalue⟩
    refine ⟨⟨_, rfl⟩, ⟨fun _ => ?_, fun _ => rfl⟩, ⟨fun _ => ?_, fun _ => ?_⟩, ?_, ?_⟩
    · exact ⟨message, hbody, henvelope, fun _ => ⟨value, hvalue, hne, hblank⟩⟩
    · exact ⟨rfl, message, hbody, hdue⟩
    · exact ⟨_, q, hstores⟩
    · intro eventId q' hstores'
      rw [hstores'.unique hstores]
      exact ⟨message, value, hbody, hvalue, hquote⟩
    · intro hno
      exact absurd hstores (hno _ q)

end Intake

section Samples

open Sample

/-- The defaults of the worker's handler are valid. -/
theorem Sample.handler_valid : handler.Valid := ⟨by decide, _, rfl⟩

/-- Is this an `OS_OPENED` message whose service order is null? -/
def Sample.opensNull : Option Json → Bool
  | some (.dict message) =>
    (validateEventMessage message).toBool && decide (fieldText message "event_type" = "OS_OPENED") &&
      match getOrNone message "payload" with
      | .dict payload =>
        match Dict.get? payload "service_order_id" with
        | some .null => true
        | _ => false
      | _ => false
  | _ => false

/-- The text of one. -/
def Sample.nullOrderText : String :=
  "\x7b\"event_id\":\"event-1\",\"event_type\":\"OS_OPENED\",\"correlation_id\":\"os-1\"," ++
    "\"occurred_at\":\"\",\"payload\":\x7b\"service_order_id\":null\x7d\x7d"

theorem nullOrder_taken_in :
    ¬ TakesIn (World.empty memory) nullOrderText.toUTF8
      ((World.empty memory).handleDelivery handler nullOrderText.toUTF8 (supply "1")).1
      ((World.empty memory).handleDelivery handler nullOrderText.toUTF8 (supply "1")).2 := by
  refine null_taken_in memory_lawful handler_valid ?_ (supply "1")
  have hopens : opensNull (Json.loads nullOrderText) = true := by decide +kernel
  unfold opensNull at hopens
  split at hopens
  · rename_i message hloads
    rw [Bool.and_eq_true, Bool.and_eq_true, decide_eq_true_eq] at hopens
    obtain ⟨⟨hvalid, htype⟩, hnull⟩ := hopens
    split at hnull
    · rename_i payload hpayload
      split at hnull
      · rename_i horder
        have hok : validateEventMessage message = .ok () := by
          cases hresult : validateEventMessage message with
          | error e => rw [hresult] at hvalid; cases hvalid
          | ok u => rfl
        have hget : Dict.get? message "payload" = some (.dict payload) := by
          unfold getOrNone at hpayload
          cases hvalue : Dict.get? message "payload" with
          | none => rw [hvalue] at hpayload; cases hpayload
          | some value => rw [hvalue] at hpayload; exact congrArg some hpayload
        have hdescribes : Describes nullOrderText.toUTF8 message :=
          ⟨nullOrderText, fromUTF8_toUTF8 nullOrderText, hloads⟩
        have hdue : Due (World.empty memory).store message := ⟨htype, rfl⟩
        exact ⟨message, hdescribes, validateEventMessage_iff.mp hok, hdue, payload, hget, horder⟩
      · cases hnull
    · cases hnull
  · cases hopens

theorem osOpened_taken_in : TakesIn (World.empty memory) (osOpened "event-1" "os-1")
    ((World.empty memory).handleDelivery handler (osOpened "event-1" "os-1") (supply "1")).1
    ((World.empty memory).handleDelivery handler (osOpened "event-1" "os-1") (supply "1")).2 := by
  refine (takes_in_iff .memory handler_valid (World.empty memory) _ (supply "1")).mpr ?_
  rintro ⟨message, hbody, -, -, payload, hpayload, hnull⟩
  have hread := readDelivery_iff.mp (readDelivery_osOpened "event-1" "os-1")
  obtain rfl := hbody.unique hread
  obtain rfl := Json.dict.inj (Option.some.inj hpayload)
  cases hnull

end Samples

end Billing

/-
  Does what the domain accepts fit in the tables?

  A text column refuses what is longer than it was declared; the domain asks for nothing but texts
  that are not blank and an amount that is positive.

  1. **One request** (`create_fits_iff`, `handle_fits_iff`): the rows that an accepted command, or a
     message that opens a quote, makes the service write all fit exactly when the texts that were
     taken from it do (`CreateQuoteCommand.Holdable`, `EventMessage.Holdable`).
  2. **Runs** (`fits_of_holdable`): a row that is written later is made of a row that was read, so it
     is enough that the requests which arrive are like that.  This is assume–guarantee
     (`Runs.relies`): a request relies on the rows that it reads to fit, and writes rows that fit.

  An event with a long id is the bad case (`long_event_id_unmarked`): the quote is stored and
  announced, and only then the event cannot be marked as processed.
-/
import Billing.Proofs.Handling
import Billing.Proofs.Steps
import Billing.Infrastructure.Schema

namespace Billing

open Py Atomic Program

section Columns

variable [Python]

/-! ## What is asked of a request -/

/-- The ids of the supply are as `str(uuid4())` makes them. -/
def Supply.Uuids (supply : Supply) : Prop := ∀ id ∈ supply.ids, id.length = 36

instance (supply : Supply) : Decidable supply.Uuids := inferInstanceAs (Decidable (∀ _ ∈ _, _))

/-- The texts taken from a command are no longer than their columns. -/
structure CreateQuoteCommand.Holdable (command : CreateQuoteCommand) : Prop where
  serviceOrderId : command.serviceOrderId.length ≤ 64
  amount : command.amount.width ≤ 32

/-- The texts taken from a message, and the default amount, are no longer than their columns. -/
structure EventMessage.Holdable (handler : BillingIntegrationEventHandler) (m : EventMessage) :
    Prop where
  serviceOrderId : ∀ serviceOrderId, m.serviceOrderId = some serviceOrderId →
    serviceOrderId.length ≤ 64
  amount : handler.defaultAmount.width ≤ 32
  eventId : m.eventId.length ≤ 64
  correlationId : m.correlationId.length ≤ 128

/-- What a request takes from its input can be held, if it is accepted. -/
def Request.Holdable (d : Deployment) (req : Request) : Prop :=
  match req.command with
  | .createQuote command =>
    (∃ opened, CreateQuoteUseCase.opening command req.supply = .ok opened) → command.Holdable
  | .handle m => WellFormed d.handler m → m.Holdable d.handler
  | _ => True

/-- Only such requests arrive. -/
def holdable {b : Backend} {d : Deployment} (_ : Config (system b d)) : Action (system b d) → Prop
  | .start req => req.supply.Uuids ∧ Request.Holdable d req
  | _ => True

omit [Python] in
theorem Supply.Uuids.quoteId {supply : Supply} (h : supply.Uuids) : supply.quoteId.length ≤ 64 := by
  have := h supply.quoteId (by simp [ids])
  omega

omit [Python] in
theorem Supply.Uuids.paymentId {supply : Supply} (h : supply.Uuids) :
    supply.paymentId.length ≤ 64 := by
  have := h supply.paymentId (by simp [ids])
  omega

/-! ## One request -/

omit [Python] in
/-- **The row of an accepted command.** -/
theorem opening_fits_iff {command : CreateQuoteCommand} {supply : Supply} {q : Quote}
    {e : DomainEvent} (hids : supply.Uuids)
    (h : CreateQuoteUseCase.opening command supply = .ok (q, e)) :
    (QuoteRow.ofQuote q).Fits ↔ command.Holdable := by
  obtain ⟨hid, hso, -, htotal, -, -⟩ := CreateQuoteUseCase.opening_eq_ok h
  obtain ⟨hamount, hcurrency⟩ := Money.make_eq_ok htotal
  have hbrl : Money.defaultCurrency.length ≤ 8 := by decide
  rw [QuoteRow.fits_ofQuote, hid, hso, hamount, hcurrency]
  constructor
  · rintro ⟨-, hserviceOrderId, hwidth, -⟩
    exact ⟨hserviceOrderId, hwidth⟩
  · rintro ⟨hserviceOrderId, hwidth⟩
    exact ⟨hids.quoteId, hserviceOrderId, hwidth, hbrl⟩

omit [Python] in
/-- The row of a quote that was opened for a message. -/
theorem opening_message_fits_iff [Python] {handler : BillingIntegrationEventHandler}
    {m : EventMessage} {supply : Supply} {q : Quote} {e : DomainEvent} (hids : supply.Uuids)
    (h : handler.opening m supply = .ok (q, e)) :
    (QuoteRow.ofQuote q).Fits ↔
      (∀ serviceOrderId, m.serviceOrderId = some serviceOrderId → serviceOrderId.length ≤ 64) ∧
        handler.defaultAmount.width ≤ 32 := by
  obtain ⟨command, hcommand, hopening⟩ := BillingIntegrationEventHandler.opening_eq_ok h
  obtain ⟨hso, -, hamount⟩ := BillingIntegrationEventHandler.commanding_eq_ok hcommand
  rw [opening_fits_iff hids hopening, hso, ← hamount]
  constructor
  · rintro ⟨hserviceOrderId, hwidth⟩
    refine ⟨?_, hwidth⟩
    rintro serviceOrderId ⟨⟩
    exact hserviceOrderId
  · rintro ⟨hserviceOrderId, hwidth⟩
    exact ⟨hserviceOrderId _ rfl, hwidth⟩

/-- The row that marks an event of this type. -/
theorem mark_fits_iff {m : EventMessage} (htype : m.eventType = "OS_OPENED") :
    (Port.markProcessed m.eventId m.eventType m.correlationId).Fits ↔
      m.eventId.length ≤ 64 ∧ m.correlationId.length ≤ 128 := by
  have hlen : "OS_OPENED".length ≤ 128 := by decide
  show ProcessedEventRow.Fits ⟨m.eventId, m.eventType, m.correlationId⟩ ↔ _
  rw [ProcessedEventRow.fits_iff, htype]
  exact and_congr_right fun _ => and_iff_right hlen

omit [Python] in
/-- **A creation writes rows that fit exactly when its command can be held.** -/
theorem create_fits_iff {command : CreateQuoteCommand} {supply : Supply}
    {opened : Quote × DomainEvent} (hids : supply.Uuids)
    (h : CreateQuoteUseCase.opening command supply = .ok opened) :
    Only Port.Fits (CreateQuoteUseCase.execute command supply) ↔ command.Holdable := by
  obtain ⟨q, e⟩ := opened
  rw [CreateQuoteUseCase.execute_eq, h, ← opening_fits_iff hids h]
  constructor
  · intro honly
    exact (always_perform_bind.mp (honly [])).1
  · intro hfits
    exact .perform_bind hfits fun _ => .perform_bind trivial fun _ => .ret _

/-- **So does the handling of a message that opens a quote.** -/
theorem handle_fits_iff {handler : BillingIntegrationEventHandler} {m : EventMessage}
    {supply : Supply} (hids : supply.Uuids) (h : WellFormed handler m) :
    Only Port.Fits (handler.handle m supply) ↔ m.Holdable handler := by
  obtain ⟨q, e, hopening⟩ := h.opening supply
  have hquote := opening_message_fits_iff hids hopening
  have hmark := mark_fits_iff h.osOpened
  have hanswering : handler.answering m supply false =
      BillingIntegrationEventHandler.settling m (q, e) := by
    unfold BillingIntegrationEventHandler.answering
    rw [if_neg Bool.false_ne_true, if_neg (not_not.mpr h.osOpened), hopening]
    rfl
  rw [BillingIntegrationEventHandler.handle_eq]
  constructor
  · intro honly
    -- an event that is new is settled in three steps
    have hsettling := (always_perform_bind.mp (honly [])).2.1 false
    rw [hanswering] at hsettling
    obtain ⟨hq, hpublish, -⟩ := always_perform_bind.mp hsettling
    obtain ⟨-, hmarking, -⟩ := always_perform_bind.mp (hpublish ())
    obtain ⟨hserviceOrderId, hamount⟩ := hquote.mp hq
    obtain ⟨heventId, hcorrelationId⟩ := hmark.mp (always_perform_bind.mp (hmarking ())).1
    exact ⟨hserviceOrderId, hamount, heventId, hcorrelationId⟩
  · rintro ⟨hserviceOrderId, hamount, heventId, hcorrelationId⟩
    refine .perform_bind trivial fun processed => ?_
    cases processed with
    | true => exact .ret _
    | false =>
      rw [hanswering]
      refine .perform_bind (hquote.mpr ⟨hserviceOrderId, hamount⟩) fun _ => ?_
      refine .perform_bind trivial fun _ => ?_
      exact .perform_bind (hmark.mpr ⟨heventId, hcorrelationId⟩) fun _ => .ret _

/-! ## What a request relies on -/

/-- What is read fits. -/
def Port.ReadsFit : (o : Port) → o.Res → Prop
  | quoteGet _, quote => (QuoteRow.ofQuote quote).Fits
  | paymentGet _, payment => (PaymentRow.ofPayment payment).Fits
  | _, _ => True

/-- As long as the rows it reads fit, the program only writes rows that fit. -/
abbrev KeepsToColumns {α : Type} (p : Service α) : Prop := Relies Port.ReadsFit Port.Fits p

omit [Python] in
theorem keeps_create (command : CreateQuoteCommand) {supply : Supply} (hids : supply.Uuids)
    (h : (∃ opened, CreateQuoteUseCase.opening command supply = .ok opened) → command.Holdable) :
    KeepsToColumns (CreateQuoteUseCase.execute command supply) := by
  cases hopening : CreateQuoteUseCase.opening command supply with
  | ok opened => exact .of_always ((create_fits_iff hids hopening).mpr (h ⟨opened, hopening⟩) [])
  | error e =>
    rw [CreateQuoteUseCase.execute_eq, hopening]
    exact trivial

theorem keeps_handle (handler : BillingIntegrationEventHandler) {m : EventMessage} {supply : Supply}
    (hids : supply.Uuids) (h : WellFormed handler m → m.Holdable handler) :
    KeepsToColumns (handler.handle m supply) := by
  by_cases hwell : WellFormed handler m
  · exact .of_always ((handle_fits_iff hids hwell).mpr (h hwell) [])
  · -- nothing is written for a message that opens no quote
    rw [BillingIntegrationEventHandler.handle_eq]
    refine .perform_bind trivial fun processed _ => ?_
    unfold BillingIntegrationEventHandler.answering
    cases processed with
    | true => exact trivial
    | false =>
      rw [if_neg Bool.false_ne_true]
      by_cases htype : m.eventType = "OS_OPENED"
      · rw [if_neg (not_not.mpr htype)]
        exact .ofExcept_bind fun opened hopening => absurd (.of_opening htype hopening) hwell
      · rw [if_pos htype]
        exact trivial

omit [Python] in
theorem keeps_call {α : Type} (p : Program sdk Exc α) : KeepsToColumns (PaymentGateway.call p) :=
  .embed p fun _ => trivial

omit [Python] in
theorem keeps_approve (gateway : PaymentGateway) (quoteId : String) {supply : Supply}
    (hids : supply.Uuids) : KeepsToColumns (ApproveQuoteUseCase.execute gateway quoteId supply) := by
  unfold ApproveQuoteUseCase.execute Payment.createPreference
  refine .perform_bind trivial fun q₀ hread => .ofExcept_bind ?_
  rintro ⟨q, approvedEvent⟩ happrove
  obtain ⟨-, rfl, -⟩ := Quote.approve_eq_ok happrove
  have hquote := QuoteRow.fits_withStatus .approved hread
  refine .perform_bind trivial fun _ _ => .ofExcept_bind fun p₀ hopen => ?_
  have hpayment := PaymentRow.fits_fromQuote hopen hids.paymentId hquote
  rw [bind_assoc]
  refine .ofExcept_bind fun _ _ => ?_
  rw [bind_assoc]
  refine .bind (keeps_call _) fun preference => ?_
  show KeepsToColumns (((p₀.attachPreference preference supply.second).1.assign >>= _) >>= _)
  rw [bind_assoc]
  refine .perform_bind trivial fun _ _ => .perform_bind hquote fun _ _ => ?_
  refine .perform_bind (PaymentRow.fits_with _ _ hpayment) fun _ _ => .perform_bind trivial fun _ _ => ?_
  exact .perform_bind trivial fun _ _ => .ret _

omit [Python] in
theorem keeps_confirm (paymentId : String) (supply : Supply) :
    KeepsToColumns (ConfirmPaymentUseCase.execute paymentId supply) := by
  refine .perform_bind trivial fun p₀ hread => .ofExcept_bind ?_
  rintro ⟨p, event⟩ hconfirm
  obtain ⟨-, rfl, -⟩ := Payment.confirm_eq_ok hconfirm
  refine .perform_bind trivial fun _ _ => .perform_bind (PaymentRow.fits_with _ _ hread) fun _ _ => ?_
  exact .perform_bind trivial fun _ _ => .ret _

omit [Python] in
theorem keeps_fail (paymentId reason : String) (supply : Supply) :
    KeepsToColumns (FailPaymentUseCase.execute paymentId reason supply) := by
  refine .perform_bind trivial fun p₀ hread => .ofExcept_bind ?_
  rintro ⟨p, event⟩ hfail
  obtain ⟨-, rfl, -⟩ := Payment.fail_eq_ok hfail
  refine .perform_bind trivial fun _ _ => .perform_bind (PaymentRow.fits_with _ _ hread) fun _ _ => ?_
  exact .perform_bind trivial fun _ _ => .ret _

omit [Python] in
theorem keeps_apply (command : ApplyPaymentStatusCommand) (supply : Supply) :
    KeepsToColumns (ApplyPaymentStatusUseCase.execute command supply) := by
  rw [ApplyPaymentStatusUseCase.execute_eq]
  refine .perform_bind trivial fun p₀ hread => ?_
  generalize hdecide : ApplyPaymentStatusUseCase.decide p₀ command supply.first = x
  refine .ofExcept_bind ?_
  rintro ⟨p, event, action⟩ rfl
  have hfits : (PaymentRow.ofPayment p).Fits := by
    rcases ApplyPaymentStatusUseCase.decide_eq_ok hdecide with ⟨-, -, e, -, hconfirm⟩ |
      ⟨-, e, -, hfail⟩ | ⟨-, -, rfl, -⟩ | ⟨-, -, rfl⟩
    · obtain ⟨-, rfl, -⟩ := Payment.confirm_eq_ok hconfirm
      exact PaymentRow.fits_with _ _ hread
    · obtain ⟨-, rfl, -⟩ := Payment.fail_eq_ok hfail
      exact PaymentRow.fits_with _ _ hread
    · exact hread
    · exact hread
  cases event with
  | none => exact .perform_bind hfits fun _ _ => .ret _
  | some event =>
    refine .perform_bind trivial fun _ _ => .perform_bind hfits fun _ _ => ?_
    exact .perform_bind trivial fun _ _ => .ret _

omit [Python] in
theorem keeps_sync (gateway : PaymentGateway) (paymentId : String) (supply : Supply) :
    KeepsToColumns (SyncPaymentStatusUseCase.execute gateway paymentId supply) := by
  unfold SyncPaymentStatusUseCase.execute
  refine .perform_bind trivial fun payment _ => .bind (keeps_call _) fun status => ?_
  exact .bind (keeps_apply _ _) fun _ => .ret _

/-- **A request that can be held writes rows that fit**, as long as it reads rows that fit. -/
theorem serve_keeps (d : Deployment) {req : Request} (hids : req.supply.Uuids)
    (h : Request.Holdable d req) : KeepsToColumns (d.serve req) := by
  obtain ⟨command, supply⟩ := req
  cases command with
  | createQuote command => exact .bind (keeps_create command hids h) fun _ => .ret _
  | approveQuote quoteId => exact .bind (keeps_approve d.gateway quoteId hids) fun _ => .ret _
  | confirmPayment paymentId => exact .bind (keeps_confirm paymentId supply) fun _ => .ret _
  | failPayment paymentId reason => exact .bind (keeps_fail paymentId reason supply) fun _ => .ret _
  | applyPaymentStatus command => exact .bind (keeps_apply command supply) fun _ => .ret _
  | syncPaymentStatus paymentId =>
    exact .bind (keeps_sync d.gateway paymentId supply) fun _ => .ret _
  | handle m => exact .bind (keeps_handle d.handler hids h) fun _ => .ret _

/-! ## Runs -/

/-- **A step that writes a row that fits** keeps a database of rows that fit, and what it reads there
    fits. -/
theorem exec_fits {w w' : World sql} {o : Port} {fate : Fate} {r : Except Exc o.Res}
    (hw : Database.Fits w.store) (ho : o.Fits) (h : w.exec o fate = some (r, w')) :
    Database.Fits w'.store ∧ ∀ a, r = .ok a → o.ReadsFit a := by
  cases o with
  | quoteGet id =>
    refine ⟨by rw [read_eq h]; exact hw, ?_⟩
    rintro q rfl
    obtain ⟨-, -, hq⟩ := exec_quoteGet h
    exact hw.quotes _ hq.mem
  | paymentGet id =>
    refine ⟨by rw [read_eq h]; exact hw, ?_⟩
    rintro p rfl
    obtain ⟨-, -, hp⟩ := exec_paymentGet h
    exact hw.payments _ hp.mem
  | isProcessed id => exact ⟨by rw [read_eq h]; exact hw, fun _ _ => trivial⟩
  | sdk call => exact ⟨by rw [call_eq h]; exact hw, fun _ _ => trivial⟩
  | publish e => exact ⟨by rw [(publish_eq h).1]; exact hw, fun _ _ => trivial⟩
  | quoteAssign q => cases fate <;> cases h; exact ⟨hw, fun _ _ => trivial⟩
  | paymentAssign p => cases fate <;> cases h; exact ⟨hw, fun _ _ => trivial⟩
  | quoteSave q =>
    refine ⟨?_, fun _ _ => trivial⟩
    rcases write_eq h with rfl | rfl
    · exact hw
    · exact hw.saveQuote ho
  | paymentSave p =>
    refine ⟨?_, fun _ _ => trivial⟩
    rcases write_eq h with rfl | rfl
    · exact hw
    · exact hw.savePayment ho
  | markProcessed i t c =>
    refine ⟨?_, fun _ _ => trivial⟩
    rcases write_eq h with rfl | rfl
    · exact hw
    · exact hw.markProcessed ho

/-- **In a run of requests that can be held, every row fits** that is stored, or that a request asks
    to store. -/
theorem fits_of_holdable {d : Deployment} {c : Config (system sql d)}
    (H : Runs holdable (start sql d) c) :
    Database.Fits c.state.store ∧ ∀ i t o, c.Asks i t o → o.Fits := by
  have hstart : ∀ (c : Config (system sql d)) req s, holdable c (.start req) →
      (system sql d).arrive c.state req = some s → Database.Fits c.state.store →
        Database.Fits s.store ∧ KeepsToColumns (d.serve req) := by
    rintro c req s ⟨hids, hreq⟩ harrive hfits
    refine ⟨?_, serve_keeps d hids hreq⟩
    rw [(arrive_world harrive).1]
    exact hfits
  have hempty : ∀ t ∈ (start sql d).threads, KeepsToColumns t.rest :=
    fun _ ht => absurd ht List.not_mem_nil
  obtain ⟨hstore, hthreads⟩ := H.relies (I := fun w : World sql => Database.Fits w.store) hstart
    (fun _ _ _ _ _ hw ho hx => exec_fits hw ho hx) Database.Fits.empty hempty
  refine ⟨hstore, fun i t o hasks => ?_⟩
  obtain ⟨ht, k, hk⟩ := hasks
  have hrest := hthreads t (List.mem_of_getElem? ht)
  rw [hk] at hrest
  exact hrest.1

/-- **Accepted input fits in the tables exactly when the texts taken from it do**, in one request and
    in every run. -/
theorem columns_hold_iff (d : Deployment) :
    (∀ command supply opened, supply.Uuids →
      CreateQuoteUseCase.opening command supply = .ok opened →
        (Only Port.Fits (CreateQuoteUseCase.execute command supply) ↔ command.Holdable)) ∧
      (∀ m supply, supply.Uuids → WellFormed d.handler m →
        (Only Port.Fits (d.handler.handle m supply) ↔ m.Holdable d.handler)) ∧
      ∀ c, Runs holdable (start sql d) c →
        Database.Fits c.state.store ∧ ∀ i t o, c.Asks i t o → o.Fits :=
  ⟨fun _ _ _ hids h => create_fits_iff hids h, fun _ _ hids h => handle_fits_iff hids h,
    fun _ H => fits_of_holdable H⟩

end Columns

section Samples

open Sample

/-- A supply of `uuid4` ids. -/
def Sample.uuids : Supply :=
  ⟨"5d1c0e52-8f6a-4c1b-9a57-0a4f3f3e9c01", "5d1c0e52-8f6a-4c1b-9a57-0a4f3f3e9c02",
    "5d1c0e52-8f6a-4c1b-9a57-0a4f3f3e9c03",
    ⟨"5d1c0e52-8f6a-4c1b-9a57-0a4f3f3e9c04", "2024-05-01T12:00:00+00:00"⟩,
    ⟨"5d1c0e52-8f6a-4c1b-9a57-0a4f3f3e9c05", "2024-05-01T12:00:00+00:00"⟩⟩

/-- An event id of 65 characters. -/
def Sample.longId : String := String.ofList (List.replicate 65 'e')

/-- A command of short texts. -/
def Sample.shortCommand : CreateQuoteCommand := ⟨"os-1", ["oil"], .finite false 12000 (-2)⟩

/-- Nothing but the short command arrives, with good ids. -/
def Sample.onlyShort : Action (system sql mock) → Bool
  | .start ⟨.createQuote command, supply⟩ => decide (command = shortCommand ∧ supply.Uuids)
  | .start _ => false
  | _ => true

/-- The short command is served. -/
def Sample.shortServed : List (Action (system sql mock)) :=
  .start ⟨.createQuote shortCommand, uuids⟩ :: go 0 2

/-- The message with the long id is handled up to its mark. -/
def Sample.longHandled : List (Action (system sql mock)) :=
  .start ⟨.handle (osOpenedMessage longId "os-1"), uuids⟩ :: go 0 3

theorem columns_hold_short :
    Only Port.Fits (CreateQuoteUseCase.execute shortCommand uuids) ∧
      Only Port.Fits (handler.handle (osOpenedMessage "event-1" "os-1") uuids) ∧
      Database.Fits ((start sql mock).played (fun _ a => onlyShort a = true) shortServed
        (by decide)).state.store := by
  have hids : uuids.Uuids := by decide
  obtain ⟨hcreate, hhandle, hruns⟩ := columns_hold_iff mock
  have hshort : shortCommand.Holdable := ⟨by decide, by decide⟩
  refine ⟨(hcreate shortCommand uuids _ hids rfl).mpr hshort, ?_, (hruns _ ?_).1⟩
  · refine (hhandle _ uuids hids (wellFormed_osOpened "event-1" (by decide))).mpr ?_
    refine ⟨?_, by decide, by decide, by decide⟩
    rintro serviceOrderId ⟨⟩
    decide
  · refine (Config.played_runs _ _ _).mono fun c a ha => ?_
    cases a with
    | step i fate => exact trivial
    | abort i e => exact trivial
    | start req =>
      obtain ⟨command, supply⟩ := req
      cases command with
      | createQuote command =>
        obtain ⟨rfl, hsupply⟩ := of_decide_eq_true ha
        exact ⟨hsupply, fun _ => hshort⟩
      | _ => cases ha

/-- **A message with a long id is accepted, and its quote is stored and announced**, but the event
    cannot be marked. -/
theorem long_event_id_unmarked :
    WellFormed handler (osOpenedMessage longId "os-1") ∧ uuids.Uuids ∧
      ¬ Only Port.Fits (handler.handle (osOpenedMessage longId "os-1") uuids) ∧
      ∃ c t o, Runs anyOrder (start sql mock) c ∧ c.Asks 0 t o ∧ ¬ o.Fits ∧
        c.state.store.quotes.rows.length = 1 ∧ c.state.accepted.length = 1 := by
  have hwell : WellFormed handler (osOpenedMessage longId "os-1") := wellFormed_osOpened _ (by decide)
  have hids : uuids.Uuids := by decide
  refine ⟨hwell, hids, fun honly => ?_, ?_⟩
  · have heventId := ((handle_fits_iff hids hwell).mp honly).eventId
    exact absurd heventId (by decide)
  · have hasks : ((start sql mock).played anyOrder longHandled (by decide)).asking 0
        (fun _ o => match o with
          | .markProcessed eventId _ _ => decide (64 < eventId.length)
          | _ => false) = true := by decide
    obtain ⟨t, o, hask, htest⟩ := Config.asks_of_asking hasks
    refine ⟨_, t, o, Config.played_runs _ longHandled (by decide), hask, ?_, by decide, by decide⟩
    cases o with
    | markProcessed eventId eventType correlationId =>
      intro hfits
      have hshort : eventId.length ≤ 64 := (ProcessedEventRow.fits_iff.mp hfits).1
      have hlong : 64 < eventId.length := of_decide_eq_true htest
      omega
    | _ => cases htest

end Samples

end Billing

/-
  The SQLAlchemy repositories (`sqlalchemy_billing_repositories.py` and
  `processed_event_repositories.py`).

  A row keeps its columns as the tables declare them: texts, and JSON for the items and the
  preference.  `save` is one transaction, a select by the primary key and an insert or an update,
  which is `Keyed.Table.upsert`; `get` reads the row back with `fromRow`.

  **Round trip** (`QuoteRow.toQuote_ofQuote`, `PaymentRow.toPayment_ofPayment`): what was saved is
  what is read, in every field.  It is what lets every later proof forget about rows.
-/
import Billing.Domain.Payment
import Billing.Lib.Table
import Billing.Lib.JsonText

namespace Billing

open Py Keyed

variable [Python]

/-! ## Quotes -/

/-- A row of `quotes`. -/
structure QuoteRow where
  /-- `quote_id`, the primary key. -/
  quoteId : String
  /-- `service_order_id`. -/
  serviceOrderId : String
  /-- `items`. -/
  items : Json
  /-- `amount`. -/
  amount : String
  /-- `currency`. -/
  currency : String
  /-- `status`. -/
  status : String

/-- The values that `SqlAlchemyQuoteRepository.save` writes. -/
def QuoteRow.ofQuote (quote : Quote) : QuoteRow where
  quoteId := quote.quoteId
  serviceOrderId := quote.serviceOrderId
  items := .list (quote.items.map .str)
  amount := quote.total.amount.toText
  currency := quote.total.currency
  status := quote.status.value

/-- `json.loads(value) if isinstance(value, str) else value`. -/
def loadsIfText : Json → Except Exc Json
  | .str s =>
    match Json.loads s with
    | some j => .ok j
    | none => .error (.valueError "Expecting value")
  | j => .ok j

/-- `[str(item) for item in items]`. -/
def textsOf : Json → Except Exc (List String)
  | .list xs => .ok (xs.map Json.text)
  | .dict kvs => .ok (kvs.map Prod.fst)
  | .str s => .ok (s.toList.map fun c => String.ofList [c])
  | _ => .error (.typeError "object is not iterable")

/-- `Decimal(text)`. -/
def decimalOf (text : String) : Except Exc Decimal :=
  match Decimal.ofText text with
  | some d => .ok d
  | none => .error .invalidOperation

/-- `SqlAlchemyQuoteRepository._from_row`. -/
def QuoteRow.toQuote (row : QuoteRow) : Except Exc Quote := do
  let items ← loadsIfText row.items
  let items ← textsOf items
  let amount ← decimalOf row.amount
  let total ← Money.make amount row.currency
  let status ← QuoteStatus.ofValue row.status
  return ⟨row.serviceOrderId, items, total, row.quoteId, status⟩

/-! ## Payments -/

/-- A row of `payments`. -/
structure PaymentRow where
  /-- `payment_id`, the primary key. -/
  paymentId : String
  /-- `quote_id`. -/
  quoteId : String
  /-- `service_order_id`. -/
  serviceOrderId : String
  /-- `amount`. -/
  amount : String
  /-- `currency`. -/
  currency : String
  /-- `status`. -/
  status : String
  /-- `preference`. -/
  preference : Json

/-- A text or `None` as a JSON value. -/
def jsonOfText : Option String → Json
  | some s => .str s
  | none => .null

/-- The JSON of a preference. -/
def PaymentPreference.toJson (preference : PaymentPreference) : Json :=
  .dict [("preference_id", .str preference.preferenceId),
    ("checkout_url", .str preference.checkoutUrl),
    ("external_reference", jsonOfText preference.externalReference)]

/-- The `preference` column. -/
def preferenceJson : Option PaymentPreference → Json
  | some preference => preference.toJson
  | none => .null

/-- The values that `SqlAlchemyPaymentRepository.save` writes. -/
def PaymentRow.ofPayment (payment : Payment) : PaymentRow where
  paymentId := payment.paymentId
  quoteId := payment.quoteId
  serviceOrderId := payment.serviceOrderId
  amount := payment.total.amount.toText
  currency := payment.total.currency
  status := payment.status.value
  preference := preferenceJson payment.preference

/-- `preference["…"]` and `preference.get("external_reference")`.  The source keeps whatever value
    `external_reference` has; here one that is neither a text nor null is no preference. -/
def PaymentPreference.ofJson : Json → Except Exc PaymentPreference
  | .dict kvs => do
    let preferenceId ← getItem kvs "preference_id"
    let checkoutUrl ← getItem kvs "checkout_url"
    let externalReference ← match Dict.get? kvs "external_reference" with
      | some (.str s) => .ok (some s)
      | some .null | none => .ok none
      | _ => .error (.typeError "external_reference")
    return ⟨preferenceId.text, checkoutUrl.text, externalReference⟩
  | _ => .error (.typeError "object is not subscriptable")

/-- `None if preference is None else PaymentPreference(…)`. -/
def preferenceOf : Json → Except Exc (Option PaymentPreference)
  | .null => .ok none
  | j => (PaymentPreference.ofJson j).map some

/-- `SqlAlchemyPaymentRepository._from_row`. -/
def PaymentRow.toPayment (row : PaymentRow) : Except Exc Payment := do
  let preference ← loadsIfText row.preference
  let amount ← decimalOf row.amount
  let total ← Money.make amount row.currency
  let status ← PaymentStatus.ofValue row.status
  let preference ← preferenceOf preference
  return ⟨row.quoteId, row.serviceOrderId, total, row.paymentId, status, preference⟩

omit [Python] in
@[simp] theorem QuoteRow.ofQuote_quoteId (q : Quote) : (ofQuote q).quoteId = q.quoteId := rfl

omit [Python] in
@[simp] theorem PaymentRow.ofPayment_paymentId (p : Payment) :
    (ofPayment p).paymentId = p.paymentId := rfl

/-! ## The round trips -/

omit [Python] in
theorem decimalOf_toText (d : Decimal) : decimalOf d.toText = .ok d := by
  rw [decimalOf, Decimal.ofText_toText]

theorem textsOf_map_str (items : List String) : textsOf (.list (items.map .str)) = .ok items := by
  rw [textsOf, List.map_map]
  exact congrArg Except.ok items.map_id

theorem QuoteRow.toQuote_ofQuote (q : Quote) : (QuoteRow.ofQuote q).toQuote = .ok q := by
  unfold QuoteRow.toQuote QuoteRow.ofQuote
  simp only [loadsIfText, ok_bind, textsOf_map_str, decimalOf_toText, Money.make_self,
    QuoteStatus.ofValue_value]
  rfl

theorem PaymentPreference.ofJson_toJson (pref : PaymentPreference) :
    PaymentPreference.ofJson pref.toJson = .ok pref := by
  obtain ⟨preferenceId, checkoutUrl, externalReference⟩ := pref
  cases externalReference with
  | none => rfl
  | some s => rfl

theorem loadsIfText_preferenceJson (o : Option PaymentPreference) :
    loadsIfText (preferenceJson o) = .ok (preferenceJson o) := by
  cases o with
  | none => rfl
  | some pref => rfl

theorem preferenceOf_preferenceJson (o : Option PaymentPreference) :
    preferenceOf (preferenceJson o) = .ok o := by
  cases o with
  | none => rfl
  | some pref =>
    have hjson := pref.ofJson_toJson
    show (PaymentPreference.ofJson pref.toJson).map some = _
    rw [hjson]
    rfl

theorem PaymentRow.toPayment_ofPayment (p : Payment) : (PaymentRow.ofPayment p).toPayment = .ok p := by
  unfold PaymentRow.toPayment PaymentRow.ofPayment
  simp only [loadsIfText_preferenceJson, ok_bind, decimalOf_toText, Money.make_self,
    PaymentStatus.ofValue_value, preferenceOf_preferenceJson]
  rfl

theorem QuoteRow.ofQuote_injective {q q' : Quote} (h : QuoteRow.ofQuote q = QuoteRow.ofQuote q') :
    q = q' := by
  have := congrArg QuoteRow.toQuote h
  rw [toQuote_ofQuote, toQuote_ofQuote] at this
  exact Except.ok.inj this

theorem PaymentRow.ofPayment_injective {p p' : Payment}
    (h : PaymentRow.ofPayment p = PaymentRow.ofPayment p') : p = p' := by
  have := congrArg PaymentRow.toPayment h
  rw [toPayment_ofPayment, toPayment_ofPayment] at this
  exact Except.ok.inj this

/-! ## The database -/

/-- A row of `processed_events`. -/
structure ProcessedEventRow where
  /-- `event_id`, the primary key. -/
  eventId : String
  /-- `event_type`. -/
  eventType : String
  /-- `correlation_id`. -/
  correlationId : String

/-- The three tables.  Nobody writes to them but the repositories, so every row of `quotes` and
    `payments` is the row of some object. -/
structure Database where
  /-- `quotes`. -/
  quotes : Table String QuoteRow QuoteRow.quoteId
  /-- `payments`. -/
  payments : Table String PaymentRow PaymentRow.paymentId
  /-- `processed_events`. -/
  processedEvents : Table String ProcessedEventRow ProcessedEventRow.eventId
  /-- Every quote row was written by `save`. -/
  quotesWritten : ∀ row ∈ quotes.rows, ∃ q, row = .ofQuote q
  /-- Every payment row was written by `save`. -/
  paymentsWritten : ∀ row ∈ payments.rows, ∃ p, row = .ofPayment p

/-- The empty database. -/
def Database.empty : Database where
  quotes := .empty
  payments := .empty
  processedEvents := .empty
  quotesWritten := fun _ h => absurd h List.not_mem_nil
  paymentsWritten := fun _ h => absurd h List.not_mem_nil

/-- `SqlAlchemyQuoteRepository.get`. -/
def SqlAlchemyQuoteRepository.get (db : Database) (quoteId : String) : Except Exc Quote :=
  match db.quotes.find? quoteId with
  | none => .error (.keyError ("Quote not found: " ++ quoteId))
  | some row => row.toQuote

/-- `SqlAlchemyQuoteRepository.save`. -/
def SqlAlchemyQuoteRepository.save (db : Database) (quote : Quote) : Database :=
  { db with
    quotes := db.quotes.upsert (.ofQuote quote)
    quotesWritten := fun row h => by
      rcases Table.mem_rows_upsert h with rfl | h
      · exact ⟨quote, rfl⟩
      · exact db.quotesWritten row h }

/-- `SqlAlchemyPaymentRepository.get`. -/
def SqlAlchemyPaymentRepository.get (db : Database) (paymentId : String) : Except Exc Payment :=
  match db.payments.find? paymentId with
  | none => .error (.keyError ("Payment not found: " ++ paymentId))
  | some row => row.toPayment

/-- `SqlAlchemyPaymentRepository.save`. -/
def SqlAlchemyPaymentRepository.save (db : Database) (payment : Payment) : Database :=
  { db with
    payments := db.payments.upsert (.ofPayment payment)
    paymentsWritten := fun row h => by
      rcases Table.mem_rows_upsert h with rfl | h
      · exact ⟨payment, rfl⟩
      · exact db.paymentsWritten row h }

/-- The rows that `select(quotes).where(service_order_id == …)` may return: without an `ORDER BY`,
    those of the service order in any order. -/
def Database.SelectsQuotes (db : Database) (serviceOrderId : String) (selected : List QuoteRow) : Prop :=
  selected.Perm (db.quotes.rows.filter fun row => decide (row.serviceOrderId = serviceOrderId))

/-- The same for payments. -/
def Database.SelectsPayments (db : Database) (serviceOrderId : String) (selected : List PaymentRow) :
    Prop :=
  selected.Perm (db.payments.rows.filter fun row => decide (row.serviceOrderId = serviceOrderId))

/-- `SqlAlchemyQuoteRepository.get_by_service_order_id`, from the rows that were selected on. -/
def SqlAlchemyQuoteRepository.getByServiceOrderId (selected : List QuoteRow)
    (serviceOrderId : String) : Except Exc Quote :=
  match selected.head? with
  | none => .error (.keyError ("Quote not found for service order: " ++ serviceOrderId))
  | some row => row.toQuote

/-- `SqlAlchemyPaymentRepository.get_by_service_order_id`, from the rows that were selected on. -/
def SqlAlchemyPaymentRepository.getByServiceOrderId (selected : List PaymentRow)
    (serviceOrderId : String) : Except Exc Payment :=
  match selected.head? with
  | none => .error (.keyError ("Payment not found for service order: " ++ serviceOrderId))
  | some row => row.toPayment

/-- `SqlAlchemyProcessedEventRepository.is_processed`. -/
def SqlAlchemyProcessedEventRepository.isProcessed (db : Database) (eventId : String) : Bool :=
  (db.processedEvents.find? eventId).isSome

/-- `SqlAlchemyProcessedEventRepository.mark_processed`. -/
def SqlAlchemyProcessedEventRepository.markProcessed (db : Database)
    (eventId eventType correlationId : String) : Database :=
  if isProcessed db eventId then db
  else { db with processedEvents := db.processedEvents.upsert ⟨eventId, eventType, correlationId⟩ }

/-! ## What is stored -/

omit [Python] in
/-- A mark is of its own event. -/
theorem isProcessed_markProcessed {db : Database} {i t c eventId : String} :
    SqlAlchemyProcessedEventRepository.isProcessed
        (SqlAlchemyProcessedEventRepository.markProcessed db i t c) eventId = true ↔
      i = eventId ∨ SqlAlchemyProcessedEventRepository.isProcessed db eventId = true := by
  unfold SqlAlchemyProcessedEventRepository.markProcessed
  split
  · rename_i hdone
    constructor
    · exact Or.inr
    · rintro (rfl | h)
      · exact hdone
      · exact h
  · unfold SqlAlchemyProcessedEventRepository.isProcessed
    rw [Table.find?_upsert]
    by_cases hid : i = eventId
    · rw [if_pos hid]
      exact ⟨fun _ => Or.inl hid, fun _ => rfl⟩
    · rw [if_neg hid]
      exact ⟨Or.inr, fun h => h.resolve_left hid⟩

namespace Database

/-- The row of this quote is stored. -/
def HasQuote (db : Database) (q : Quote) : Prop := db.quotes.find? q.quoteId = some (.ofQuote q)

/-- The row of this payment is stored. -/
def HasPayment (db : Database) (p : Payment) : Prop :=
  db.payments.find? p.paymentId = some (.ofPayment p)

theorem HasQuote.unique {db : Database} {q q' : Quote} (h : db.HasQuote q) (h' : db.HasQuote q')
    (hid : q.quoteId = q'.quoteId) : q = q' := by
  rw [HasQuote, hid] at h
  exact QuoteRow.ofQuote_injective (Option.some.inj (h.symm.trans h'))

theorem HasPayment.unique {db : Database} {p p' : Payment} (h : db.HasPayment p)
    (h' : db.HasPayment p') (hid : p.paymentId = p'.paymentId) : p = p' := by
  rw [HasPayment, hid] at h
  exact PaymentRow.ofPayment_injective (Option.some.inj (h.symm.trans h'))

omit [Python] in
theorem hasQuote_of_mem {db : Database} {row : QuoteRow} (h : row ∈ db.quotes.rows) :
    ∃ q, row = .ofQuote q ∧ db.HasQuote q := by
  obtain ⟨q, rfl⟩ := db.quotesWritten row h
  exact ⟨q, rfl, Table.find?_of_mem h⟩

omit [Python] in
theorem hasPayment_of_mem {db : Database} {row : PaymentRow} (h : row ∈ db.payments.rows) :
    ∃ p, row = .ofPayment p ∧ db.HasPayment p := by
  obtain ⟨p, rfl⟩ := db.paymentsWritten row h
  exact ⟨p, rfl, Table.find?_of_mem h⟩

omit [Python] in
theorem HasQuote.mem {db : Database} {q : Quote} (h : db.HasQuote q) :
    QuoteRow.ofQuote q ∈ db.quotes.rows := Table.mem_of_find? h

omit [Python] in
theorem HasPayment.mem {db : Database} {p : Payment} (h : db.HasPayment p) :
    PaymentRow.ofPayment p ∈ db.payments.rows := Table.mem_of_find? h

/-- **A read answers with what is stored.** -/
theorem quote_get_eq_ok {db : Database} {id : String} {q : Quote} :
    SqlAlchemyQuoteRepository.get db id = .ok q ↔ q.quoteId = id ∧ db.HasQuote q := by
  unfold SqlAlchemyQuoteRepository.get
  constructor
  · intro h
    split at h
    · cases h
    · rename_i row hrow
      obtain ⟨q', rfl⟩ := db.quotesWritten row (Table.mem_of_find? hrow)
      rw [QuoteRow.toQuote_ofQuote] at h
      cases h
      have hid : (QuoteRow.ofQuote q).quoteId = id := Table.key_of_find? hrow
      subst hid
      exact ⟨rfl, hrow⟩
  · rintro ⟨rfl, h⟩
    rw [h]
    exact QuoteRow.toQuote_ofQuote q

theorem payment_get_eq_ok {db : Database} {id : String} {p : Payment} :
    SqlAlchemyPaymentRepository.get db id = .ok p ↔ p.paymentId = id ∧ db.HasPayment p := by
  unfold SqlAlchemyPaymentRepository.get
  constructor
  · intro h
    split at h
    · cases h
    · rename_i row hrow
      obtain ⟨p', rfl⟩ := db.paymentsWritten row (Table.mem_of_find? hrow)
      rw [PaymentRow.toPayment_ofPayment] at h
      cases h
      have hid : (PaymentRow.ofPayment p).paymentId = id := Table.key_of_find? hrow
      subst hid
      exact ⟨rfl, hrow⟩
  · rintro ⟨rfl, h⟩
    rw [h]
    exact PaymentRow.toPayment_ofPayment p

/-- What a read would find. -/
theorem quote_get_map_eq_ok {β : Type} {db : Database} {id : String} {f : Quote → β} {x : β} :
    (SqlAlchemyQuoteRepository.get db id).map f = .ok x ↔
      ∃ q, db.HasQuote q ∧ q.quoteId = id ∧ f q = x := by
  constructor
  · intro h
    cases hget : SqlAlchemyQuoteRepository.get db id with
    | error e => rw [hget] at h; cases h
    | ok q =>
      rw [hget] at h
      obtain ⟨hid, hq⟩ := quote_get_eq_ok.mp hget
      exact ⟨q, hq, hid, Except.ok.inj h⟩
  · rintro ⟨q, hq, hid, rfl⟩
    rw [quote_get_eq_ok.mpr ⟨hid, hq⟩]
    rfl

theorem payment_get_map_eq_ok {β : Type} {db : Database} {id : String} {f : Payment → β} {x : β} :
    (SqlAlchemyPaymentRepository.get db id).map f = .ok x ↔
      ∃ p, db.HasPayment p ∧ p.paymentId = id ∧ f p = x := by
  constructor
  · intro h
    cases hget : SqlAlchemyPaymentRepository.get db id with
    | error e => rw [hget] at h; cases h
    | ok p =>
      rw [hget] at h
      obtain ⟨hid, hp⟩ := payment_get_eq_ok.mp hget
      exact ⟨p, hp, hid, Except.ok.inj h⟩
  · rintro ⟨p, hp, hid, rfl⟩
    rw [payment_get_eq_ok.mpr ⟨hid, hp⟩]
    rfl

/-- **A save writes its own row and no other.** -/
theorem hasQuote_save {db : Database} {q q' : Quote} :
    (SqlAlchemyQuoteRepository.save db q).HasQuote q' ↔
      q' = q ∨ (q'.quoteId ≠ q.quoteId ∧ db.HasQuote q') := by
  show (db.quotes.upsert (.ofQuote q)).find? q'.quoteId = _ ↔ _
  rw [Table.find?_upsert_eq_some, QuoteRow.ofQuote_quoteId]
  refine or_congr ⟨fun h => QuoteRow.ofQuote_injective h.2, ?_⟩ (and_congr_left' ne_comm)
  rintro rfl
  exact ⟨rfl, rfl⟩

theorem hasPayment_save {db : Database} {p p' : Payment} :
    (SqlAlchemyPaymentRepository.save db p).HasPayment p' ↔
      p' = p ∨ (p'.paymentId ≠ p.paymentId ∧ db.HasPayment p') := by
  show (db.payments.upsert (.ofPayment p)).find? p'.paymentId = _ ↔ _
  rw [Table.find?_upsert_eq_some, PaymentRow.ofPayment_paymentId]
  refine or_congr ⟨fun h => PaymentRow.ofPayment_injective h.2, ?_⟩ (and_congr_left' ne_comm)
  rintro rfl
  exact ⟨rfl, rfl⟩

/-- **What is read after a save.** -/
theorem quote_get_save (db : Database) (q : Quote) (id : String) :
    SqlAlchemyQuoteRepository.get (SqlAlchemyQuoteRepository.save db q) id =
      if q.quoteId = id then .ok q else SqlAlchemyQuoteRepository.get db id := by
  unfold SqlAlchemyQuoteRepository.get
  show (match (db.quotes.upsert (.ofQuote q)).find? id with | none => _ | some row => row.toQuote) = _
  rw [Table.find?_upsert, QuoteRow.ofQuote_quoteId]
  by_cases hid : q.quoteId = id
  · rw [if_pos hid, if_pos hid]
    exact QuoteRow.toQuote_ofQuote q
  · rw [if_neg hid, if_neg hid]

theorem payment_get_save (db : Database) (p : Payment) (id : String) :
    SqlAlchemyPaymentRepository.get (SqlAlchemyPaymentRepository.save db p) id =
      if p.paymentId = id then .ok p else SqlAlchemyPaymentRepository.get db id := by
  unfold SqlAlchemyPaymentRepository.get
  show (match (db.payments.upsert (.ofPayment p)).find? id with
    | none => _ | some row => row.toPayment) = _
  rw [Table.find?_upsert, PaymentRow.ofPayment_paymentId]
  by_cases hid : p.paymentId = id
  · rw [if_pos hid, if_pos hid]
    exact PaymentRow.toPayment_ofPayment p
  · rw [if_neg hid, if_neg hid]

omit [Python] in
/-- Saving a payment that is stored like this changes nothing. -/
theorem HasPayment.save_payments {db : Database} {p : Payment} (h : db.HasPayment p) :
    (SqlAlchemyPaymentRepository.save db p).payments = db.payments := Table.upsert_of_find? h

end Database

end Billing

/-
  The columns of the tables (`quotes`, `payments` and `processed_events`).

  A text column is declared `String(n)`, which is PostgreSQL's `varchar(n)`: a longer text is refused.
  The JSON columns and the date have no length.

  **What fits** (`QuoteRow.fits_ofQuote`, `PaymentRow.fits_ofPayment`): the row of a quote fits if its
  ids, its amount and its currency do; a status always does.
-/
import Billing.Infrastructure.SqlRepositories
import Billing.Application.Ports

namespace Billing

open Py

/-- `Column(name, String(length))`, and what a row has there. -/
structure StringColumn (Row : Type) where
  /-- The name of the column. -/
  name : String
  /-- The number of characters it can hold. -/
  length : Nat
  /-- The text that a row has there. -/
  value : Row → String

/-- The row is no longer than any of its columns. -/
def Holds {Row : Type} (columns : List (StringColumn Row)) (row : Row) : Prop :=
  ∀ column ∈ columns, (column.value row).length ≤ column.length

/-- The text columns of `quotes`. -/
def QuoteRow.columns : List (StringColumn QuoteRow) :=
  [⟨"quote_id", 64, quoteId⟩, ⟨"service_order_id", 64, serviceOrderId⟩, ⟨"amount", 32, amount⟩,
    ⟨"currency", 8, currency⟩, ⟨"status", 64, status⟩]

/-- The text columns of `payments`. -/
def PaymentRow.columns : List (StringColumn PaymentRow) :=
  [⟨"payment_id", 64, paymentId⟩, ⟨"quote_id", 64, quoteId⟩,
    ⟨"service_order_id", 64, serviceOrderId⟩, ⟨"amount", 32, amount⟩, ⟨"currency", 8, currency⟩,
    ⟨"status", 64, status⟩]

/-- The text columns of `processed_events`. -/
def ProcessedEventRow.columns : List (StringColumn ProcessedEventRow) :=
  [⟨"event_id", 64, eventId⟩, ⟨"event_type", 128, eventType⟩, ⟨"correlation_id", 128, correlationId⟩]

/-- The row fits in `quotes`. -/
abbrev QuoteRow.Fits (row : QuoteRow) : Prop := Holds columns row

/-- The row fits in `payments`. -/
abbrev PaymentRow.Fits (row : PaymentRow) : Prop := Holds columns row

/-- The row fits in `processed_events`. -/
abbrev ProcessedEventRow.Fits (row : ProcessedEventRow) : Prop := Holds columns row

/-- The row that the step writes fits. -/
def Port.Fits : Port → Prop
  | quoteSave quote => (QuoteRow.ofQuote quote).Fits
  | paymentSave payment => (PaymentRow.ofPayment payment).Fits
  | markProcessed eventId eventType correlationId =>
    ProcessedEventRow.Fits ⟨eventId, eventType, correlationId⟩
  | _ => True

/-- All rows fit. -/
structure Database.Fits (db : Database) : Prop where
  quotes : ∀ row ∈ db.quotes.rows, row.Fits
  payments : ∀ row ∈ db.payments.rows, row.Fits
  processedEvents : ∀ row ∈ db.processedEvents.rows, row.Fits

/-! ## What fits -/

theorem QuoteStatus.length_value (s : QuoteStatus) : s.value.length ≤ 64 := by
  cases s <;> decide

theorem PaymentStatus.length_value (s : PaymentStatus) : s.value.length ≤ 64 := by
  cases s <;> decide

theorem QuoteRow.fits_ofQuote {q : Quote} : (ofQuote q).Fits ↔ q.quoteId.length ≤ 64 ∧
    q.serviceOrderId.length ≤ 64 ∧ q.total.amount.width ≤ 32 ∧ q.total.currency.length ≤ 8 := by
  have hamount := q.total.amount.length_toText
  have hstatus := q.status.length_value
  simp only [Holds, columns, ofQuote, List.forall_mem_cons, hamount, hstatus]
  simp

theorem PaymentRow.fits_ofPayment {p : Payment} : (ofPayment p).Fits ↔ p.paymentId.length ≤ 64 ∧
    p.quoteId.length ≤ 64 ∧ p.serviceOrderId.length ≤ 64 ∧ p.total.amount.width ≤ 32 ∧
    p.total.currency.length ≤ 8 := by
  have hamount := p.total.amount.length_toText
  have hstatus := p.status.length_value
  simp only [Holds, columns, ofPayment, List.forall_mem_cons, hamount, hstatus]
  simp

theorem ProcessedEventRow.fits_iff {row : ProcessedEventRow} : row.Fits ↔
    row.eventId.length ≤ 64 ∧ row.eventType.length ≤ 128 ∧ row.correlationId.length ≤ 128 := by
  simp [Holds, columns]

/-- A change of its status leaves a quote as long as it was. -/
theorem QuoteRow.fits_withStatus {q : Quote} (status : QuoteStatus) (h : (ofQuote q).Fits) :
    (ofQuote { q with status := status }).Fits := by
  rw [fits_ofQuote] at h ⊢
  exact h

/-- So does a change of its status and its preference with a payment. -/
theorem PaymentRow.fits_with {p : Payment} (status : PaymentStatus)
    (preference : Option PaymentPreference) (h : (ofPayment p).Fits) :
    (ofPayment { p with status := status, preference := preference }).Fits := by
  rw [fits_ofPayment] at h ⊢
  exact h

/-- A payment fits if the quote it was made of does. -/
theorem PaymentRow.fits_fromQuote {q : Quote} {paymentId : String} {p : Payment}
    (h : Payment.fromQuote q paymentId = .ok p) (hid : paymentId.length ≤ 64)
    (hq : (QuoteRow.ofQuote q).Fits) : (ofPayment p).Fits := by
  obtain ⟨-, rfl⟩ := Payment.fromQuote_eq_ok h
  exact fits_ofPayment.mpr ⟨hid, QuoteRow.fits_ofQuote.mp hq⟩

/-! ## What a write leaves -/

theorem Database.Fits.empty : Database.empty.Fits :=
  ⟨fun _ h => absurd h List.not_mem_nil, fun _ h => absurd h List.not_mem_nil,
    fun _ h => absurd h List.not_mem_nil⟩

theorem Database.Fits.saveQuote {db : Database} (h : db.Fits) {q : Quote}
    (hq : (QuoteRow.ofQuote q).Fits) : (SqlAlchemyQuoteRepository.save db q).Fits := by
  refine ⟨fun row hrow => ?_, h.payments, h.processedEvents⟩
  rcases Keyed.Table.mem_rows_upsert hrow with rfl | hrow
  · exact hq
  · exact h.quotes row hrow

theorem Database.Fits.savePayment {db : Database} (h : db.Fits) {p : Payment}
    (hp : (PaymentRow.ofPayment p).Fits) : (SqlAlchemyPaymentRepository.save db p).Fits := by
  refine ⟨h.quotes, fun row hrow => ?_, h.processedEvents⟩
  rcases Keyed.Table.mem_rows_upsert hrow with rfl | hrow
  · exact hp
  · exact h.payments row hrow

theorem Database.Fits.markProcessed {db : Database} (h : db.Fits) {i t c : String}
    (hrow : ProcessedEventRow.Fits ⟨i, t, c⟩) :
    (SqlAlchemyProcessedEventRepository.markProcessed db i t c).Fits := by
  unfold SqlAlchemyProcessedEventRepository.markProcessed
  split
  · exact h
  · refine ⟨h.quotes, h.payments, fun row hmem => ?_⟩
    rcases Keyed.Table.mem_rows_upsert hmem with rfl | hmem
    · exact hrow
    · exact h.processedEvents row hmem

end Billing

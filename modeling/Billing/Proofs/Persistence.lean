/-
  Persisting loses nothing.

  A run of saves on the two repositories is a run of upserts on their tables, so a key answers with the
  row that was written last (`Table.find?_upserts`); and a row is read as the object that it was written
  for, in every field (`QuoteRow.toQuote_ofQuote`, `PaymentRow.toPayment_ofPayment`).
-/
import Billing.Infrastructure.SqlRepositories

namespace Billing

open Py Keyed

/-! ## Runs of saves -/

/-- A save on one of the repositories. -/
inductive Save where
  /-- `SqlAlchemyQuoteRepository.save(quote)`. -/
  | quote (quote : Quote)
  /-- `SqlAlchemyPaymentRepository.save(payment)`. -/
  | payment (payment : Payment)

namespace Save

/-- The quote that is saved. -/
def quote? : Save → Option Quote
  | .quote q => some q
  | .payment _ => none

/-- The payment that is saved. -/
def payment? : Save → Option Payment
  | .quote _ => none
  | .payment p => some p

end Save

/-- The database after a save. -/
def Database.save (db : Database) : Save → Database
  | .quote q => SqlAlchemyQuoteRepository.save db q
  | .payment p => SqlAlchemyPaymentRepository.save db p

/-- The quote of this id that was saved last. -/
def lastQuote (saves : List Save) (quoteId : String) : Option Quote :=
  Table.lastOf Quote.quoteId (saves.filterMap Save.quote?) quoteId

/-- The payment of this id that was saved last. -/
def lastPayment (saves : List Save) (paymentId : String) : Option Payment :=
  Table.lastOf Payment.paymentId (saves.filterMap Save.payment?) paymentId

/-! ## What a run writes -/

theorem quotes_saves (saves : List Save) (db : Database) : (saves.foldl Database.save db).quotes =
    ((saves.filterMap Save.quote?).map QuoteRow.ofQuote).foldl Table.upsert db.quotes := by
  induction saves generalizing db with
  | nil => rfl
  | cons s saves ih =>
    rw [List.foldl_cons, ih]
    cases s with
    | quote q => rfl
    | payment p => rfl

theorem payments_saves (saves : List Save) (db : Database) : (saves.foldl Database.save db).payments =
    ((saves.filterMap Save.payment?).map PaymentRow.ofPayment).foldl Table.upsert db.payments := by
  induction saves generalizing db with
  | nil => rfl
  | cons s saves ih =>
    rw [List.foldl_cons, ih]
    cases s with
    | quote q => rfl
    | payment p => rfl

theorem lastQuote_eq_none_iff {saves : List Save} {id : String} :
    lastQuote saves id = none ↔ ∀ q, Save.quote q ∈ saves → q.quoteId ≠ id := by
  unfold lastQuote
  rw [Table.lastOf_eq_none_iff]
  constructor
  · intro h q hq
    exact h q (List.mem_filterMap.mpr ⟨.quote q, hq, rfl⟩)
  · intro h q hq
    obtain ⟨s, hs, hsaved⟩ := List.mem_filterMap.mp hq
    cases s with
    | quote q' => exact h q (Option.some.inj hsaved ▸ hs)
    | payment p => cases hsaved

theorem lastPayment_eq_none_iff {saves : List Save} {id : String} :
    lastPayment saves id = none ↔ ∀ p, Save.payment p ∈ saves → p.paymentId ≠ id := by
  unfold lastPayment
  rw [Table.lastOf_eq_none_iff]
  constructor
  · intro h p hp
    exact h p (List.mem_filterMap.mpr ⟨.payment p, hp, rfl⟩)
  · intro h p hp
    obtain ⟨s, hs, hsaved⟩ := List.mem_filterMap.mp hp
    cases s with
    | quote q => cases hsaved
    | payment p' => exact h p (Option.some.inj hsaved ▸ hs)

/-! ## What is read -/

/-- What `get(id)` answers, when this is the object that was saved last, if any was. -/
def AnswersWith {α : Type} (answer : Except Exc α) (last : Option α) : Prop :=
  (∀ a, answer = .ok a ↔ last = some a) ∧ ((∃ text, answer = .error (.keyError text)) ↔ last = none)

theorem answersWith_last {α : Type} (last : Option α) (text : String) :
    AnswersWith ((last.map Except.ok).getD (.error (.keyError text))) last := by
  cases last with
  | none => exact ⟨fun a => ⟨fun h => (by cases h), fun h => (by cases h)⟩, fun _ => rfl, fun _ => ⟨text, rfl⟩⟩
  | some x =>
    refine ⟨fun a => ⟨fun h => ?_, fun h => ?_⟩, fun ⟨text, h⟩ => (by cases h), fun h => (by cases h)⟩
    · rw [Except.ok.inj h]
    · rw [Option.some.inj h]
      rfl

section Reads

variable [Python]

/-- A read after a run of saves. -/
theorem quote_get_saves (saves : List Save) (db : Database) (id : String) :
    SqlAlchemyQuoteRepository.get (saves.foldl Database.save db) id =
      ((lastQuote saves id).map Except.ok).getD (SqlAlchemyQuoteRepository.get db id) := by
  have hfind : (saves.foldl Database.save db).quotes.find? id =
      ((lastQuote saves id).map QuoteRow.ofQuote).or (db.quotes.find? id) := by
    rw [quotes_saves, Table.find?_upserts, Table.lastOf_map]
    rfl
  unfold SqlAlchemyQuoteRepository.get
  rw [hfind]
  cases lastQuote saves id with
  | none => rfl
  | some q => exact QuoteRow.toQuote_ofQuote q

theorem payment_get_saves (saves : List Save) (db : Database) (id : String) :
    SqlAlchemyPaymentRepository.get (saves.foldl Database.save db) id =
      ((lastPayment saves id).map Except.ok).getD (SqlAlchemyPaymentRepository.get db id) := by
  have hfind : (saves.foldl Database.save db).payments.find? id =
      ((lastPayment saves id).map PaymentRow.ofPayment).or (db.payments.find? id) := by
    rw [payments_saves, Table.find?_upserts, Table.lastOf_map]
    rfl
  unfold SqlAlchemyPaymentRepository.get
  rw [hfind]
  cases lastPayment saves id with
  | none => rfl
  | some p => exact PaymentRow.toPayment_ofPayment p

/-- **Persisting loses nothing.** -/
theorem persisting_loses_nothing (saves : List Save) (id : String) :
    let db := saves.foldl Database.save .empty
    -- one row at most
    (db.quotes.rows.filter fun row => decide (row.quoteId = id)).length ≤ 1 ∧
    (db.payments.rows.filter fun row => decide (row.paymentId = id)).length ≤ 1 ∧
    -- what was saved last is read
    (∀ q, SqlAlchemyQuoteRepository.get db id = .ok q ↔ lastQuote saves id = some q) ∧
    (∀ p, SqlAlchemyPaymentRepository.get db id = .ok p ↔ lastPayment saves id = some p) ∧
    -- `KeyError` says that nothing was saved
    ((∃ text, SqlAlchemyQuoteRepository.get db id = .error (.keyError text)) ↔
      ∀ q, Save.quote q ∈ saves → q.quoteId ≠ id) ∧
    ((∃ text, SqlAlchemyPaymentRepository.get db id = .error (.keyError text)) ↔
      ∀ p, Save.payment p ∈ saves → p.paymentId ≠ id) ∧
    -- a save of another object changes nothing
    (∀ s : Save, (∀ q, s = .quote q → q.quoteId ≠ id) →
      SqlAlchemyQuoteRepository.get (db.save s) id = SqlAlchemyQuoteRepository.get db id) ∧
    (∀ s : Save, (∀ p, s = .payment p → p.paymentId ≠ id) →
      SqlAlchemyPaymentRepository.get (db.save s) id = SqlAlchemyPaymentRepository.get db id) := by
  intro db
  obtain ⟨hquote, hnoQuote⟩ :=
    answersWith_last (lastQuote saves id) ("Quote not found: " ++ id)
  obtain ⟨hpayment, hnoPayment⟩ :=
    answersWith_last (lastPayment saves id) ("Payment not found: " ++ id)
  have hgetQuote := quote_get_saves saves .empty id
  have hgetPayment := payment_get_saves saves .empty id
  refine ⟨Table.length_rows_of_key_le _ id, Table.length_rows_of_key_le _ id, ?_, ?_, ?_, ?_, ?_, ?_⟩
  · intro q
    rw [hgetQuote]
    exact hquote q
  · intro p
    rw [hgetPayment]
    exact hpayment p
  · rw [hgetQuote, ← lastQuote_eq_none_iff]
    exact hnoQuote
  · rw [hgetPayment, ← lastPayment_eq_none_iff]
    exact hnoPayment
  · intro s hs
    cases s with
    | quote q => exact (Database.quote_get_save db q id).trans (if_neg (hs q rfl))
    | payment p => rfl
  · intro s hs
    cases s with
    | quote q => rfl
    | payment p => exact (Database.payment_get_save db p id).trans (if_neg (hs p rfl))

end Reads

end Billing

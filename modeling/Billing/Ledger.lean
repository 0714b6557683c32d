/-
  THE LEDGER: what a store is for.

  Seen from the use cases, a store is three maps: a quote for each id, a payment for each id, and the
  events that were processed.  `Ledger` is that and nothing else: no rows, no texts, no objects that
  somebody else holds.  `Backend.ledger` is what a store looks like through its reads, and `Lawful`
  says that its writes do to the ledger what they should.  A write to the attributes of an object may
  or may not be a write to the store; a save of the same object makes up for it either way
  (`Lawful.ledger_saved`, `Lawful.ledger_approved`), so no more needs to be said about it.

  Both backends of the service are lawful.
-/
import Billing.Runtime

namespace Billing

open Py Keyed

/-- What is stored under each id. -/
@[ext] structure Ledger where
  /-- The answer of `QuoteRepositoryPort.get`. -/
  quote : String → Except Exc Quote
  /-- The answer of `PaymentRepositoryPort.get`. -/
  payment : String → Except Exc Payment
  /-- The answer of `ProcessedEventRepositoryPort.is_processed`. -/
  processed : String → Bool

namespace Ledger

/-- The quote is stored. -/
def withQuote (l : Ledger) (q : Quote) : Ledger :=
  { l with quote := Function.update l.quote q.quoteId (.ok q) }

/-- The payment is stored. -/
def withPayment (l : Ledger) (p : Payment) : Ledger :=
  { l with payment := Function.update l.payment p.paymentId (.ok p) }

/-- The event is processed. -/
def withProcessed (l : Ledger) (eventId : String) : Ledger :=
  { l with processed := Function.update l.processed eventId true }

@[simp] theorem withQuote_withQuote (l : Ledger) (q : Quote) :
    (l.withQuote q).withQuote q = l.withQuote q :=
  Ledger.ext (Function.update_idem _ _ _) rfl rfl

@[simp] theorem withPayment_withPayment (l : Ledger) (p : Payment) :
    (l.withPayment p).withPayment p = l.withPayment p :=
  Ledger.ext rfl (Function.update_idem _ _ _) rfl

/-- Quotes and payments are kept apart. -/
theorem withPayment_withQuote (l : Ledger) (p : Payment) (q : Quote) :
    (l.withPayment p).withQuote q = (l.withQuote q).withPayment p := rfl

end Ledger

/-- What a store looks like through its reads. -/
def Backend.ledger (b : Backend) (s : b.Store) : Ledger := ⟨b.quoteGet s, b.paymentGet s, b.isProcessed s⟩

/-- The writes of a backend do to the ledger what they should. -/
structure Backend.Lawful (b : Backend) : Prop where
  quoteSave : ∀ s q, b.ledger (b.quoteSave s q) = (b.ledger s).withQuote q
  quoteAssign : ∀ s q, b.ledger (b.quoteAssign s q) = b.ledger s ∨
    b.ledger (b.quoteAssign s q) = (b.ledger s).withQuote q
  paymentSave : ∀ s p, b.ledger (b.paymentSave s p) = (b.ledger s).withPayment p
  paymentAssign : ∀ s p, b.ledger (b.paymentAssign s p) = b.ledger s ∨
    b.ledger (b.paymentAssign s p) = (b.ledger s).withPayment p
  markProcessed : ∀ s eventId eventType correlationId,
    b.ledger (b.markProcessed s eventId eventType correlationId) = (b.ledger s).withProcessed eventId

namespace Backend.Lawful

variable {b : Backend}

/-- A payment whose attributes were written is saved. -/
theorem ledger_saved (hb : b.Lawful) (s : b.Store) (p : Payment) :
    b.ledger (b.paymentSave (b.paymentAssign s p) p) = (b.ledger s).withPayment p := by
  rw [hb.paymentSave]
  rcases hb.paymentAssign s p with h | h
  · rw [h]
  · rw [h, Ledger.withPayment_withPayment]

/-- A quote and a payment whose attributes were written are saved. -/
theorem ledger_approved (hb : b.Lawful) (s : b.Store) (q : Quote) (p : Payment) :
    b.ledger (b.paymentSave (b.quoteSave (b.paymentAssign (b.quoteAssign s q) p) q) p) =
      ((b.ledger s).withQuote q).withPayment p := by
  have hquote : (b.ledger (b.quoteAssign s q)).withQuote q = (b.ledger s).withQuote q := by
    rcases hb.quoteAssign s q with h | h
    · rw [h]
    · rw [h, Ledger.withQuote_withQuote]
  rw [hb.paymentSave, hb.quoteSave]
  rcases hb.paymentAssign (b.quoteAssign s q) p with h | h
  · rw [h, hquote]
  · rw [h, Ledger.withPayment_withQuote, hquote, Ledger.withPayment_withPayment]

end Backend.Lawful

/-! ## The two backends -/

section Backends

variable [Python]

theorem sql_quote_save (db : Database) (q : Quote) (id : String) :
    SqlAlchemyQuoteRepository.get (SqlAlchemyQuoteRepository.save db q) id =
      Function.update (SqlAlchemyQuoteRepository.get db) q.quoteId (.ok q) id := by
  rw [Function.update_apply, Database.quote_get_save]
  by_cases hid : q.quoteId = id
  · rw [if_pos hid, if_pos hid.symm]
  · rw [if_neg hid, if_neg (Ne.symm hid)]

theorem sql_payment_save (db : Database) (p : Payment) (id : String) :
    SqlAlchemyPaymentRepository.get (SqlAlchemyPaymentRepository.save db p) id =
      Function.update (SqlAlchemyPaymentRepository.get db) p.paymentId (.ok p) id := by
  rw [Function.update_apply, Database.payment_get_save]
  by_cases hid : p.paymentId = id
  · rw [if_pos hid, if_pos hid.symm]
  · rw [if_neg hid, if_neg (Ne.symm hid)]

/-- A mark leaves the two other tables alone. -/
theorem sql_mark_gets (db : Database) (i t c : String) :
    SqlAlchemyQuoteRepository.get (SqlAlchemyProcessedEventRepository.markProcessed db i t c) =
        SqlAlchemyQuoteRepository.get db ∧
      SqlAlchemyPaymentRepository.get (SqlAlchemyProcessedEventRepository.markProcessed db i t c) =
        SqlAlchemyPaymentRepository.get db := by
  unfold SqlAlchemyProcessedEventRepository.markProcessed
  split
  · exact ⟨rfl, rfl⟩
  · exact ⟨rfl, rfl⟩

omit [Python] in
theorem sql_mark_processed (db : Database) (i t c id : String) :
    SqlAlchemyProcessedEventRepository.isProcessed
        (SqlAlchemyProcessedEventRepository.markProcessed db i t c) id =
      Function.update (SqlAlchemyProcessedEventRepository.isProcessed db) i true id := by
  rw [Function.update_apply, Bool.eq_iff_iff, isProcessed_markProcessed]
  by_cases hid : i = id
  · rw [if_pos hid.symm]
    exact ⟨fun _ => rfl, fun _ => Or.inl hid⟩
  · rw [if_neg (Ne.symm hid)]
    exact ⟨fun h => h.resolve_left hid, Or.inr⟩

theorem sql_lawful : sql.Lawful where
  quoteSave := fun db q => Ledger.ext (funext (sql_quote_save db q)) rfl rfl
  quoteAssign := fun _ _ => Or.inl rfl
  paymentSave := fun db p => Ledger.ext rfl (funext (sql_payment_save db p)) rfl
  paymentAssign := fun _ _ => Or.inl rfl
  markProcessed := fun db i t c => Ledger.ext (sql_mark_gets db i t c).1 (sql_mark_gets db i t c).2
    (funext (sql_mark_processed db i t c))

omit [Python] in
theorem memory_quote_save (m : Memory) (q : Quote) (id : String) :
    InMemoryQuoteRepository.get (InMemoryQuoteRepository.save m q) id =
      Function.update (InMemoryQuoteRepository.get m) q.quoteId (.ok q) id := by
  rw [Function.update_apply]
  unfold InMemoryQuoteRepository.get InMemoryQuoteRepository.save
  simp only [Table.find?_upsert]
  by_cases hid : q.quoteId = id
  · rw [if_pos hid, if_pos hid.symm]
  · rw [if_neg hid, if_neg (Ne.symm hid)]

omit [Python] in
theorem memory_payment_save (m : Memory) (p : Payment) (id : String) :
    InMemoryPaymentRepository.get (InMemoryPaymentRepository.save m p) id =
      Function.update (InMemoryPaymentRepository.get m) p.paymentId (.ok p) id := by
  rw [Function.update_apply]
  unfold InMemoryPaymentRepository.get InMemoryPaymentRepository.save
  simp only [Table.find?_upsert]
  by_cases hid : p.paymentId = id
  · rw [if_pos hid, if_pos hid.symm]
  · rw [if_neg hid, if_neg (Ne.symm hid)]

omit [Python] in
theorem memory_mark_processed (m : Memory) (eventId id : String) :
    InMemoryProcessedEventRepository.isProcessed
        (InMemoryProcessedEventRepository.markProcessed m eventId) id =
      Function.update (InMemoryProcessedEventRepository.isProcessed m) eventId true id := by
  unfold InMemoryProcessedEventRepository.isProcessed InMemoryProcessedEventRepository.markProcessed
  rw [Function.update_apply, Bool.eq_iff_iff, decide_eq_true_iff, List.mem_insert_iff]
  by_cases hid : id = eventId
  · rw [if_pos hid]
    exact ⟨fun _ => rfl, fun _ => Or.inl hid⟩
  · rw [if_neg hid]
    exact ⟨fun h => decide_eq_true (h.resolve_left hid), fun h => Or.inr (of_decide_eq_true h)⟩

omit [Python] in
theorem memory_lawful : memory.Lawful where
  quoteSave := fun m q => Ledger.ext (funext (memory_quote_save m q)) rfl rfl
  quoteAssign := fun m q => by
    show memory.ledger (Memory.assignQuote m q) = _ ∨ memory.ledger (Memory.assignQuote m q) = _
    unfold Memory.assignQuote
    split
    · exact Or.inl rfl
    · exact Or.inr (Ledger.ext (funext (memory_quote_save m q)) rfl rfl)
  paymentSave := fun m p => Ledger.ext rfl (funext (memory_payment_save m p)) rfl
  paymentAssign := fun m p => by
    show memory.ledger (Memory.assignPayment m p) = _ ∨ memory.ledger (Memory.assignPayment m p) = _
    unfold Memory.assignPayment
    split
    · exact Or.inl rfl
    · exact Or.inr (Ledger.ext rfl (funext (memory_payment_save m p)) rfl)
  markProcessed := fun m eventId _ _ => Ledger.ext rfl rfl (funext (memory_mark_processed m eventId))

theorem RuntimeMode.lawful (m : RuntimeMode) : m.backend.Lawful := by
  cases m with
  | real => exact sql_lawful
  | memory => exact memory_lawful

end Backends

end Billing

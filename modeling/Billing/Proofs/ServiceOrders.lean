/-
  Reads by service order.

  `get_by_service_order_id` takes the first of the matching rows, and the two implementations have them
  in different orders: insertion order in memory, whatever order the database likes over SQL.  Both
  answers are right in the sense of `Reads`: a stored object of the service order, or that there is
  none.  So they are the same answer as long as no two stored objects share a service order
  (`Reads.unique`).

  That uniqueness, `OneEach`, is a property of the ledger.  It is kept by every operation that fits:
  a quote is created for a service order that has none, and the gateway answers when a created quote is
  approved (`OneEach.operation`, `Twin.operation`).  After an operation that does not fit, the reads are
  not well defined any more (`Operation.fits_of_wellRead`).
-/
import Billing.Proofs.MockMode
import Billing.Proofs.Effects

namespace Billing

open Py Atomic Program System Keyed

/-! ## What a read should answer -/

section Reads

variable {α ρ : Type}

/-- A right answer of a read by service order, where `stored` reads by id: an object of the service
    order that is stored under its id, or, if there is none, the exception. -/
def Reads (stored : String → Except Exc α) (idOf serviceOrderOf : α → String) (missing : Exc)
    (serviceOrderId : String) : Except Exc α → Prop
  | .ok a => stored (idOf a) = .ok a ∧ serviceOrderOf a = serviceOrderId
  | .error e => e = missing ∧ ∀ id a, stored id = .ok a → serviceOrderOf a ≠ serviceOrderId

variable {stored : String → Except Exc α} {idOf serviceOrderOf : α → String} {missing : Exc}
  {serviceOrderId : String}

/-- **Where no two stored objects share a service order, there is one right answer.** -/
theorem Reads.unique (hone : ∀ id id' a a', stored id = .ok a → stored id' = .ok a' →
      serviceOrderOf a = serviceOrderOf a' → id = id') {x x' : Except Exc α}
    (h : Reads stored idOf serviceOrderOf missing serviceOrderId x)
    (h' : Reads stored idOf serviceOrderOf missing serviceOrderId x') : x = x' := by
  cases x with
  | error e =>
    cases x' with
    | error e' => rw [h.1, h'.1]
    | ok a' => exact absurd h'.2 (h.2 _ a' h'.1)
  | ok a =>
    cases x' with
    | error e' => exact absurd h.2 (h'.2 _ a h.1)
    | ok a' =>
      have hid : idOf a = idOf a' := hone _ _ a a' h.1 h'.1 (h.2.trans h'.2.symm)
      have hstored : stored (idOf a) = .ok a' := hid ▸ h'.1
      exact h.1.symm.trans hstored

/-- What is read from the first row, if there is one. -/
def firstOf (missing : Exc) (read : ρ → Except Exc α) : Option ρ → Except Exc α
  | none => .error missing
  | some row => read row

/-- The first of the matching rows is a right answer, in whatever order they come. -/
theorem reads_first {rows selected : List ρ} {serviceOrderAt : ρ → String} {read : ρ → Except Exc α}
    (hrow : ∀ row ∈ rows, ∃ a, read row = .ok a ∧ stored (idOf a) = .ok a ∧
      serviceOrderOf a = serviceOrderAt row)
    (hstored : ∀ id a, stored id = .ok a → ∃ row ∈ rows, serviceOrderAt row = serviceOrderOf a)
    (hselected : selected.Perm
      (rows.filter fun row => decide (serviceOrderAt row = serviceOrderId))) :
    Reads stored idOf serviceOrderOf missing serviceOrderId (firstOf missing read selected.head?) := by
  cases selected with
  | nil =>
    refine ⟨rfl, fun id a ha hs => ?_⟩
    obtain ⟨row, hmem, hso⟩ := hstored id a ha
    have hmatch : row ∈ rows.filter fun row => decide (serviceOrderAt row = serviceOrderId) :=
      List.mem_filter.mpr ⟨hmem, decide_eq_true (hso.trans hs)⟩
    exact List.not_mem_nil (hselected.mem_iff.mpr hmatch)
  | cons row rest =>
    have hmatch := hselected.mem_iff.mp List.mem_cons_self
    obtain ⟨hmem, hso⟩ := List.mem_filter.mp hmatch
    obtain ⟨a, hread, ha, hs⟩ := hrow row hmem
    show Reads _ _ _ _ _ (read row)
    rw [hread]
    exact ⟨ha, hs.trans (of_decide_eq_true hso)⟩

end Reads

/-! ## What the repositories answer -/

section Repositories

/-- The exception of `get_by_service_order_id` for quotes. -/
def noQuoteFor (serviceOrderId : String) : Exc :=
  .keyError ("Quote not found for service order: " ++ serviceOrderId)

/-- The exception of `get_by_service_order_id` for payments. -/
def noPaymentFor (serviceOrderId : String) : Exc :=
  .keyError ("Payment not found for service order: " ++ serviceOrderId)

/-- A right answer to a read of a quote by service order. -/
abbrev Ledger.ReadsQuote (l : Ledger) (serviceOrderId : String) : Except Exc Quote → Prop :=
  Reads l.quote Quote.quoteId Quote.serviceOrderId (noQuoteFor serviceOrderId) serviceOrderId

/-- A right answer to a read of a payment by service order. -/
abbrev Ledger.ReadsPayment (l : Ledger) (serviceOrderId : String) : Except Exc Payment → Prop :=
  Reads l.payment Payment.paymentId Payment.serviceOrderId (noPaymentFor serviceOrderId) serviceOrderId

variable [Python] {db : Database} {serviceOrderId : String}

theorem sql_readsQuote {selected : List QuoteRow} (h : db.SelectsQuotes serviceOrderId selected) :
    (sql.ledger db).ReadsQuote serviceOrderId
      (SqlAlchemyQuoteRepository.getByServiceOrderId selected serviceOrderId) := by
  have hrow : ∀ row ∈ db.quotes.rows, ∃ q, row.toQuote = .ok q ∧
      SqlAlchemyQuoteRepository.get db q.quoteId = .ok q ∧
      q.serviceOrderId = row.serviceOrderId := by
    intro row hrow
    obtain ⟨q, rfl, hq⟩ := Database.hasQuote_of_mem hrow
    exact ⟨q, QuoteRow.toQuote_ofQuote q, Database.quote_get_eq_ok.mpr ⟨rfl, hq⟩, rfl⟩
  have hstored : ∀ id q, SqlAlchemyQuoteRepository.get db id = .ok q →
      ∃ row ∈ db.quotes.rows, row.serviceOrderId = q.serviceOrderId := by
    intro id q hq
    exact ⟨.ofQuote q, (Database.quote_get_eq_ok.mp hq).2.mem, rfl⟩
  have hanswer : SqlAlchemyQuoteRepository.getByServiceOrderId selected serviceOrderId =
      firstOf (noQuoteFor serviceOrderId) QuoteRow.toQuote selected.head? := by
    unfold SqlAlchemyQuoteRepository.getByServiceOrderId
    cases selected.head? <;> rfl
  rw [hanswer]
  exact reads_first hrow hstored h

theorem sql_readsPayment {selected : List PaymentRow}
    (h : db.SelectsPayments serviceOrderId selected) :
    (sql.ledger db).ReadsPayment serviceOrderId
      (SqlAlchemyPaymentRepository.getByServiceOrderId selected serviceOrderId) := by
  have hrow : ∀ row ∈ db.payments.rows, ∃ p, row.toPayment = .ok p ∧
      SqlAlchemyPaymentRepository.get db p.paymentId = .ok p ∧
      p.serviceOrderId = row.serviceOrderId := by
    intro row hrow
    obtain ⟨p, rfl, hp⟩ := Database.hasPayment_of_mem hrow
    exact ⟨p, PaymentRow.toPayment_ofPayment p, Database.payment_get_eq_ok.mpr ⟨rfl, hp⟩, rfl⟩
  have hstored : ∀ id p, SqlAlchemyPaymentRepository.get db id = .ok p →
      ∃ row ∈ db.payments.rows, row.serviceOrderId = p.serviceOrderId := by
    intro id p hp
    exact ⟨.ofPayment p, (Database.payment_get_eq_ok.mp hp).2.mem, rfl⟩
  have hanswer : SqlAlchemyPaymentRepository.getByServiceOrderId selected serviceOrderId =
      firstOf (noPaymentFor serviceOrderId) PaymentRow.toPayment selected.head? := by
    unfold SqlAlchemyPaymentRepository.getByServiceOrderId
    cases selected.head? <;> rfl
  rw [hanswer]
  exact reads_first hrow hstored h

omit [Python] in
theorem memory_quoteGet_eq_ok {m : Memory} {id : String} {q : Quote} :
    InMemoryQuoteRepository.get m id = .ok q ↔ m.quotes.find? id = some q := by
  unfold InMemoryQuoteRepository.get
  cases m.quotes.find? id with
  | none => simp
  | some q' => simp

omit [Python] in
theorem memory_paymentGet_eq_ok {m : Memory} {id : String} {p : Payment} :
    InMemoryPaymentRepository.get m id = .ok p ↔ m.payments.find? id = some p := by
  unfold InMemoryPaymentRepository.get
  cases m.payments.find? id with
  | none => simp
  | some p' => simp

omit [Python] in
theorem memory_readsQuote (m : Memory) (serviceOrderId : String) :
    (memory.ledger m).ReadsQuote serviceOrderId
      (InMemoryQuoteRepository.getByServiceOrderId m serviceOrderId) := by
  have hrow : ∀ q ∈ m.quotes.rows, ∃ q', (Except.ok q : Except Exc Quote) = .ok q' ∧
      InMemoryQuoteRepository.get m q'.quoteId = .ok q' ∧ q'.serviceOrderId = q.serviceOrderId := by
    intro q hq
    exact ⟨q, rfl, memory_quoteGet_eq_ok.mpr (Table.find?_of_mem hq), rfl⟩
  have hstored : ∀ id q, InMemoryQuoteRepository.get m id = .ok q →
      ∃ q' ∈ m.quotes.rows, q'.serviceOrderId = q.serviceOrderId := by
    intro id q hq
    exact ⟨q, Table.mem_of_find? (memory_quoteGet_eq_ok.mp hq), rfl⟩
  have hanswer : InMemoryQuoteRepository.getByServiceOrderId m serviceOrderId =
      firstOf (noQuoteFor serviceOrderId) Except.ok
        (m.quotes.rows.filter fun q => decide (q.serviceOrderId = serviceOrderId)).head? := by
    unfold InMemoryQuoteRepository.getByServiceOrderId
    rw [List.head?_filter]
    cases m.quotes.rows.find? fun q => decide (q.serviceOrderId = serviceOrderId) <;> rfl
  rw [hanswer]
  exact reads_first hrow hstored (List.Perm.refl _)

omit [Python] in
theorem memory_readsPayment (m : Memory) (serviceOrderId : String) :
    (memory.ledger m).ReadsPayment serviceOrderId
      (InMemoryPaymentRepository.getByServiceOrderId m serviceOrderId) := by
  have hrow : ∀ p ∈ m.payments.rows, ∃ p', (Except.ok p : Except Exc Payment) = .ok p' ∧
      InMemoryPaymentRepository.get m p'.paymentId = .ok p' ∧
      p'.serviceOrderId = p.serviceOrderId := by
    intro p hp
    exact ⟨p, rfl, memory_paymentGet_eq_ok.mpr (Table.find?_of_mem hp), rfl⟩
  have hstored : ∀ id p, InMemoryPaymentRepository.get m id = .ok p →
      ∃ p' ∈ m.payments.rows, p'.serviceOrderId = p.serviceOrderId := by
    intro id p hp
    exact ⟨p, Table.mem_of_find? (memory_paymentGet_eq_ok.mp hp), rfl⟩
  have hanswer : InMemoryPaymentRepository.getByServiceOrderId m serviceOrderId =
      firstOf (noPaymentFor serviceOrderId) Except.ok
        (m.payments.rows.filter fun p => decide (p.serviceOrderId = serviceOrderId)).head? := by
    unfold InMemoryPaymentRepository.getByServiceOrderId
    rw [List.head?_filter]
    cases m.payments.rows.find? fun p => decide (p.serviceOrderId = serviceOrderId) <;> rfl
  rw [hanswer]
  exact reads_first hrow hstored (List.Perm.refl _)

end Repositories

/-! ## One quote and one payment of each service order -/

section Ledgers

variable {l : Ledger} {id : String}

/-- What a cell was set to is found there, and in the others what was there before. -/
theorem update_eq_ok {α : Type} {f : String → Except Exc α} {key : String} {a x : α} :
    Function.update f key (.ok a) id = .ok x ↔ (id = key ∧ x = a) ∨ (id ≠ key ∧ f id = .ok x) := by
  rw [Function.update_apply]
  by_cases hid : id = key
  · rw [if_pos hid]
    constructor
    · intro h
      exact Or.inl ⟨hid, (Except.ok.inj h).symm⟩
    · rintro (⟨-, rfl⟩ | ⟨hne, -⟩)
      · rfl
      · exact absurd hid hne
  · rw [if_neg hid]
    exact ⟨fun h => Or.inr ⟨hid, h⟩, fun h => (h.resolve_left fun h => hid h.1).2⟩

theorem Ledger.withQuote_eq_ok {q x : Quote} : (l.withQuote q).quote id = .ok x ↔
    (id = q.quoteId ∧ x = q) ∨ (id ≠ q.quoteId ∧ l.quote id = .ok x) := update_eq_ok

theorem Ledger.withPayment_eq_ok {p x : Payment} : (l.withPayment p).payment id = .ok x ↔
    (id = p.paymentId ∧ x = p) ∨ (id ≠ p.paymentId ∧ l.payment id = .ok x) := update_eq_ok

/-- **No two quotes and no two payments of one service order**, when the first `n` supplies of ids were
    drawn from; and what makes it stay so: a payment is of an approved quote with its service order. -/
structure Ledger.OneEach (l : Ledger) (ids : IdStream) (n : Nat) : Prop where
  drawn : ∀ id q, l.quote id = .ok q → q.quoteId = id ∧ ∃ k, k < n ∧ id = (ids.supply k).quoteId
  quotes : ∀ id id' q q', l.quote id = .ok q → l.quote id' = .ok q' →
    q.serviceOrderId = q'.serviceOrderId → id = id'
  approved : ∀ id p, l.payment id = .ok p → ∃ q, l.quote p.quoteId = .ok q ∧ q.status = .approved ∧
    q.serviceOrderId = p.serviceOrderId
  payments : ∀ id id' p p', l.payment id = .ok p → l.payment id' = .ok p' →
    p.serviceOrderId = p'.serviceOrderId → id = id'

variable {ids : IdStream} {n : Nat}

theorem Ledger.OneEach.mono (h : l.OneEach ids n) : l.OneEach ids (n + 1) where
  drawn := by
    intro id q hq
    obtain ⟨hid, k, hk, hdrawn⟩ := h.drawn id q hq
    exact ⟨hid, k, by omega, hdrawn⟩
  quotes := h.quotes
  approved := h.approved
  payments := h.payments

/-- The next quote has an id of its own. -/
theorem Ledger.OneEach.new (h : l.OneEach ids n) {q : Quote} (hq : l.quote id = .ok q) :
    id ≠ (ids.supply n).quoteId := by
  obtain ⟨-, k, hk, rfl⟩ := h.drawn id q hq
  intro heq
  have hk' : k = n := ids.disjoint k n _ List.mem_cons_self (heq ▸ List.mem_cons_self)
  omega

/-- **A new quote of a service order that has none.** -/
theorem Ledger.OneEach.creates (h : l.OneEach ids n) {q : Quote}
    (hid : q.quoteId = (ids.supply n).quoteId)
    (hnone : ∀ id q', l.quote id = .ok q' → q'.serviceOrderId ≠ q.serviceOrderId) :
    (l.withQuote q).OneEach ids (n + 1) where
  drawn := by
    intro id x hx
    rcases withQuote_eq_ok.mp hx with ⟨rfl, rfl⟩ | ⟨-, hx⟩
    · exact ⟨rfl, n, by omega, hid⟩
    · exact h.mono.drawn id x hx
  quotes := by
    intro id id' x x' hx hx' hso
    rcases withQuote_eq_ok.mp hx with ⟨rfl, rfl⟩ | ⟨-, hold⟩
    · rcases withQuote_eq_ok.mp hx' with ⟨rfl, rfl⟩ | ⟨-, hold'⟩
      · rfl
      · exact absurd hso.symm (hnone id' x' hold')
    · rcases withQuote_eq_ok.mp hx' with ⟨rfl, rfl⟩ | ⟨-, hold'⟩
      · exact absurd hso (hnone id x hold)
      · exact h.quotes id id' x x' hold hold' hso
  approved := by
    intro id p hp
    obtain ⟨q', hq', happroved⟩ := h.approved id p hp
    have hne : p.quoteId ≠ q.quoteId := hid ▸ h.new hq'
    exact ⟨q', withQuote_eq_ok.mpr (Or.inr ⟨hne, hq'⟩), happroved⟩
  payments := h.payments

/-- **A created quote is approved, and its payment opened.** -/
theorem Ledger.OneEach.approves (h : l.OneEach ids n) {q : Quote} (hq : l.quote q.quoteId = .ok q)
    (hcreated : q.status = .created) (paymentId : String) (preference : PaymentPreference) :
    ((l.withQuote q.asApproved).withPayment (q.opened paymentId preference)).OneEach ids n := by
  -- a payment of the service order would be of an approved quote, and this one is the only one
  have hnone : ∀ id p, l.payment id = .ok p → p.serviceOrderId ≠ q.serviceOrderId := by
    intro id p hp hso
    obtain ⟨q', hq', hs, hso'⟩ := h.approved id p hp
    have hid : p.quoteId = q.quoteId := h.quotes _ _ q' q hq' hq (hso'.trans hso)
    rw [hid, hq] at hq'
    obtain rfl := Except.ok.inj hq'
    rw [hcreated] at hs
    cases hs
  have hquote : ∀ {id x}, (l.withQuote q.asApproved).quote id = .ok x →
      ∃ x', l.quote id = .ok x' ∧ x'.quoteId = x.quoteId ∧ x'.serviceOrderId = x.serviceOrderId := by
    intro id x hx
    rcases withQuote_eq_ok.mp hx with ⟨rfl, rfl⟩ | ⟨-, hx⟩
    · exact ⟨q, hq, rfl, rfl⟩
    · exact ⟨x, hx, rfl, rfl⟩
  constructor
  · intro id x hx
    obtain ⟨x', hx', hid, -⟩ := hquote hx
    rw [← hid]
    exact h.drawn id x' hx'
  · intro id id' x y hx hy hso
    obtain ⟨x', hx', -, hsox⟩ := hquote hx
    obtain ⟨y', hy', -, hsoy⟩ := hquote hy
    exact h.quotes id id' x' y' hx' hy' (hsox.trans (hso.trans hsoy.symm))
  · intro id p hp
    rcases withPayment_eq_ok.mp hp with ⟨rfl, rfl⟩ | ⟨-, hp⟩
    · exact ⟨q.asApproved, withQuote_eq_ok.mpr (Or.inl ⟨rfl, rfl⟩), rfl, rfl⟩
    · obtain ⟨q', hq', hs, hso⟩ := h.approved id p hp
      refine ⟨q', withQuote_eq_ok.mpr (Or.inr ⟨fun hid => ?_, hq'⟩), hs, hso⟩
      have hown : l.quote q.quoteId = .ok q' := hid ▸ hq'
      rw [hq] at hown
      obtain rfl := Except.ok.inj hown
      exact hnone id p hp hso.symm
  · intro id id' p p' hp hp' hso
    rcases withPayment_eq_ok.mp hp with ⟨rfl, rfl⟩ | ⟨-, hold⟩
    · rcases withPayment_eq_ok.mp hp' with ⟨rfl, rfl⟩ | ⟨-, hold'⟩
      · rfl
      · exact absurd hso.symm (hnone id' p' hold')
    · rcases withPayment_eq_ok.mp hp' with ⟨rfl, rfl⟩ | ⟨-, hold'⟩
      · exact absurd hso (hnone id p hold)
      · exact h.payments id id' p p' hold hold' hso

theorem Ledger.OneEach.processed (h : l.OneEach ids n) (eventId : String) :
    (l.withProcessed eventId).OneEach ids n := ⟨h.drawn, h.quotes, h.approved, h.payments⟩

end Ledgers

/-! ## Operations -/

/-- What makes quotes and payments: `POST /quotes`, a message for the worker, and an approval, for which
    the SDK client answers so. -/
inductive Operation [Python] where
  | createQuote (command : CreateQuoteCommand)
  | handle (message : EventMessage)
  | approveQuote (quoteId : String) (answers : SdkAnswers)

namespace Operation

variable [Python]

/-- The command of an operation. -/
def command : Operation → Command
  | createQuote command => .createQuote command
  | handle message => .handle message
  | approveQuote quoteId _ => .approveQuote quoteId

/-- What the SDK client answers while the operation is carried out. -/
def answers : Operation → SdkAnswers
  | approveQuote _ answers => answers
  | _ => noAnswers

end Operation

section Operations

variable [Python] {b : Backend}

/-- The world after an operation. -/
def World.operation (w : World b) (d : Deployment) (supply : Supply) (op : Operation) : World b :=
  (w.run op.answers (d.serve ⟨op.command, supply⟩)).2

/-- The world after a sequence of operations, the first of them with the `n`-th supply of ids. -/
def World.operations (d : Deployment) (ids : IdStream) : Nat → List Operation → World b → World b
  | _, [], w => w
  | n, op :: ops, w => World.operations d ids (n + 1) ops (w.operation d (ids.supply n) op)

/-- The quote that an operation is about to create. -/
def Operation.creates (d : Deployment) (supply : Supply) (w : World b) : Operation → Option Quote
  | createQuote command => (CreateQuoteUseCase.opening command supply).toOption.map Prod.fst
  | handle message =>
    if b.isProcessed w.store message.eventId then none
    else if message.eventType ≠ "OS_OPENED" then none
    else (d.handler.opening message supply).toOption.map Prod.fst
  | approveQuote _ _ => none

/-- A quote is only created for a service order that has none, and when a created quote is approved,
    the gateway returns. -/
structure Operation.Fits (d : Deployment) (supply : Supply) (w : World b) (op : Operation) : Prop where
  first : ∀ q, op.creates d supply w = some q → ∀ id q', b.quoteGet w.store id = .ok q' →
    q'.serviceOrderId ≠ q.serviceOrderId
  answered : ∀ quoteId answers, op = approveQuote quoteId answers → ∀ q,
    b.quoteGet w.store quoteId = .ok q → q.status = .created → ∃ preference,
      answers.given (d.gateway.createCheckoutPreference supply.idempotencyKey q.quoteId
        q.serviceOrderId q.total) = .ok preference

/-- All operations of a sequence fit. -/
def World.Fits (d : Deployment) (ids : IdStream) : Nat → List Operation → World b → Prop
  | _, [], _ => True
  | n, op :: ops, w => op.Fits d (ids.supply n) w ∧
      World.Fits d ids (n + 1) ops (w.operation d (ids.supply n) op)

/-! ### What an operation comes to -/

variable {d : Deployment} {w : World b} {s : Supply}

/-- The world that a command leaves, its result aside. -/
theorem run_serve_world {α : Type} {p : Service α} {f : α → Response} {answers : SdkAnswers}
    {x : Except Exc α × World b} (hx : w.run answers p = x) :
    (w.run answers (p >>= fun a => pure (f a))).2 = x.2 := by
  rw [run_map, hx]

theorem operation_create (command : CreateQuoteCommand) :
    w.operation d s (.createQuote command) = (CreateQuoteUseCase.outcome command s w).2 :=
  run_serve_world (run_create w command s)

theorem operation_handle (m : EventMessage) :
    w.operation d s (.handle m) = (d.handler.outcome m s w).2 :=
  run_serve_world (run_handle w d.handler m s)

theorem operation_approve (quoteId : String) (answers : SdkAnswers) :
    w.operation d s (.approveQuote quoteId answers) =
      (ApproveQuoteUseCase.outcome d.gateway answers quoteId s w).2 :=
  run_serve_world (run_approve w)

/-- A created quote is opened as the use case says. -/
theorem Operation.creates_createQuote {command : CreateQuoteCommand} {q : Quote} {e : DomainEvent}
    (h : CreateQuoteUseCase.opening command s = .ok (q, e)) :
    (Operation.createQuote command).creates d s w = some q := by
  show (CreateQuoteUseCase.opening command s).toOption.map Prod.fst = some q
  rw [h]
  rfl

theorem Operation.creates_handle {m : EventMessage} {q : Quote} {e : DomainEvent}
    (hnew : b.isProcessed w.store m.eventId ≠ true) (htype : ¬ m.eventType ≠ "OS_OPENED")
    (h : d.handler.opening m s = .ok (q, e)) : (Operation.handle m).creates d s w = some q := by
  show (if b.isProcessed w.store m.eventId then none
    else if m.eventType ≠ "OS_OPENED" then none
    else (d.handler.opening m s).toOption.map Prod.fst) = some q
  rw [if_neg hnew, if_neg htype, h]
  rfl

/-- **An operation that fits keeps one quote and one payment of each service order.** -/
theorem Ledger.OneEach.operation (hb : b.Lawful) {ids : IdStream} {n : Nat}
    (h : (b.ledger w.store).OneEach ids n) {op : Operation} (hfits : op.Fits d (ids.supply n) w) :
    (b.ledger (w.operation d (ids.supply n) op).store).OneEach ids (n + 1) := by
  cases op with
  | createQuote command =>
    rw [operation_create]
    unfold CreateQuoteUseCase.outcome
    cases hopening : CreateQuoteUseCase.opening command (ids.supply n) with
    | error e => exact h.mono
    | ok opened =>
      obtain ⟨q, e⟩ := opened
      have hnone := hfits.first q (Operation.creates_createQuote hopening)
      have hid := (CreateQuoteUseCase.opening_eq_ok hopening).1
      show (b.ledger (b.quoteSave w.store q)).OneEach ids (n + 1)
      rw [hb.quoteSave]
      exact h.creates hid hnone
  | handle m =>
    rw [operation_handle]
    unfold BillingIntegrationEventHandler.outcome
    by_cases hdone : b.isProcessed w.store m.eventId = true
    · rw [if_pos hdone]
      exact h.mono
    · rw [if_neg hdone]
      by_cases htype : m.eventType ≠ "OS_OPENED"
      · rw [if_pos htype]
        exact h.mono
      · rw [if_neg htype]
        cases hopening : d.handler.opening m (ids.supply n) with
        | error e => exact h.mono
        | ok opened =>
          obtain ⟨q, e⟩ := opened
          have hnone := hfits.first q (Operation.creates_handle hdone htype hopening)
          obtain ⟨command, -, hopen⟩ := BillingIntegrationEventHandler.opening_eq_ok hopening
          have hid := (CreateQuoteUseCase.opening_eq_ok hopen).1
          show (b.ledger (b.markProcessed (b.quoteSave w.store q) _ _ _)).OneEach ids (n + 1)
          rw [hb.markProcessed, hb.quoteSave]
          exact (h.creates hid hnone).processed m.eventId
  | approveQuote quoteId answers =>
    rw [operation_approve]
    unfold ApproveQuoteUseCase.outcome
    cases hget : b.quoteGet w.store quoteId with
    | error e => exact h.mono
    | ok q =>
      simp only
      by_cases hcreated : q.status ≠ .created
      · rw [if_pos hcreated]
        exact h.mono
      · rw [if_neg hcreated]
        obtain ⟨preference, hgiven⟩ :=
          hfits.answered quoteId answers rfl q hget (not_not.mp hcreated)
        rw [hgiven]
        obtain ⟨rfl, -⟩ := h.drawn quoteId q hget
        show (b.ledger (b.paymentSave (b.quoteSave (b.paymentAssign
          (b.quoteAssign w.store q.asApproved) _) q.asApproved) _)).OneEach ids (n + 1)
        rw [hb.ledger_approved]
        exact (h.approves hget (not_not.mp hcreated) _ preference).mono

/-- **And twins stay twins.** -/
theorem Twin.operation {b' : Backend} {w' : World b'} {s' : Supply} (hb : b.Lawful) (hb' : b'.Lawful)
    (hs : s.Alike s') (h : Twin w w') {op : Operation} (hfits : op.Fits d s w) :
    Twin (w.operation d s op) (w'.operation d s' op) := by
  cases op with
  | createQuote command =>
    rw [operation_create, operation_create]
    exact (create_twins hb hb' hs h command).2
  | handle m =>
    rw [operation_handle, operation_handle]
    exact (handle_twins hb hb' hs h d.handler m).2
  | approveQuote quoteId answers =>
    rw [operation_approve, operation_approve]
    unfold ApproveQuoteUseCase.outcome
    rw [← h.quoteGet]
    cases hget : b.quoteGet w.store quoteId with
    | error e => exact h
    | ok q =>
      simp only
      by_cases hcreated : q.status ≠ .created
      · rw [if_pos hcreated, if_pos hcreated]
        exact h
      · rw [if_neg hcreated, if_neg hcreated, ← hs.idempotencyKey, ← hs.paymentId]
        obtain ⟨preference, hgiven⟩ :=
          hfits.answered quoteId answers rfl q hget (not_not.mp hcreated)
        rw [hgiven]
        exact h.approved hb hb' rfl rfl

end Operations

/-! ## Reads that are well defined -/

section WellRead

variable [Python] {d : Deployment} {w : World sql} {m : World memory}

/-- Whatever order the database returns the matching rows in, the answers of both reads by service
    order are those of the in-memory repositories. -/
def WellRead (w : World sql) (m : World memory) : Prop :=
  ∀ serviceOrderId,
    (∀ selected, Database.SelectsQuotes w.store serviceOrderId selected →
      SqlAlchemyQuoteRepository.getByServiceOrderId selected serviceOrderId =
        InMemoryQuoteRepository.getByServiceOrderId m.store serviceOrderId) ∧
    ∀ selected, Database.SelectsPayments w.store serviceOrderId selected →
      SqlAlchemyPaymentRepository.getByServiceOrderId selected serviceOrderId =
        InMemoryPaymentRepository.getByServiceOrderId m.store serviceOrderId

/-- Twins with one quote and one payment of each service order are well read. -/
theorem Twin.wellRead (h : Twin w m) {ids : IdStream} {n : Nat}
    (hone : (sql.ledger w.store).OneEach ids n) : WellRead w m := by
  intro serviceOrderId
  have hquote := memory_readsQuote m.store serviceOrderId
  have hpayment := memory_readsPayment m.store serviceOrderId
  have hledger : memory.ledger m.store = sql.ledger w.store := h.ledger.symm
  rw [hledger] at hquote hpayment
  constructor
  · intro selected hselected
    exact Reads.unique hone.quotes (sql_readsQuote hselected) hquote
  · intro selected hselected
    exact Reads.unique hone.payments (sql_readsPayment hselected) hpayment

/-- A stored quote can be what the database returns first. -/
theorem selects_first {db : Database} {q : Quote} (h : db.HasQuote q) :
    ∃ selected, db.SelectsQuotes q.serviceOrderId selected ∧
      SqlAlchemyQuoteRepository.getByServiceOrderId selected q.serviceOrderId = .ok q := by
  have hmatch : QuoteRow.ofQuote q ∈
      db.quotes.rows.filter fun row => decide (row.serviceOrderId = q.serviceOrderId) :=
    List.mem_filter.mpr ⟨h.mem, decide_eq_true rfl⟩
  obtain ⟨before, after, hrows⟩ := List.append_of_mem hmatch
  refine ⟨.ofQuote q :: (before ++ after), ?_, QuoteRow.toQuote_ofQuote q⟩
  show List.Perm _ _
  rw [hrows]
  exact List.perm_middle.symm

/-- So where reads are well defined, it is what the in-memory repository answers. -/
theorem WellRead.quote (h : WellRead w m) {q : Quote} (hq : Database.HasQuote w.store q) :
    InMemoryQuoteRepository.getByServiceOrderId m.store q.serviceOrderId = .ok q := by
  obtain ⟨selected, hselected, hanswer⟩ := selects_first hq
  exact ((h q.serviceOrderId).1 selected hselected).symm.trans hanswer

/-- What an operation creates is stored after it, next to everything else. -/
theorem Operation.creates_eq_some {op : Operation} {s : Supply} {q : Quote}
    (h : op.creates d s w = some q) : q.quoteId = s.quoteId ∧
      Database.Same (SqlAlchemyQuoteRepository.save w.store q) (w.operation d s op).store := by
  have hopened : ∀ {x : Except Exc (Quote × DomainEvent)}, x.toOption.map Prod.fst = some q →
      ∃ e, x = .ok (q, e) := by
    intro x hx
    cases x with
    | error e => cases hx
    | ok opened =>
      obtain ⟨q', e⟩ := opened
      obtain rfl := Option.some.inj hx
      exact ⟨e, rfl⟩
  cases op with
  | createQuote command =>
    obtain ⟨e, hopening⟩ := hopened h
    rw [operation_create, CreateQuoteUseCase.outcome, hopening]
    exact ⟨(CreateQuoteUseCase.opening_eq_ok hopening).1, Database.Same.refl _⟩
  | handle m =>
    have hcreates : (if sql.isProcessed w.store m.eventId then none
      else if m.eventType ≠ "OS_OPENED" then none
      else (d.handler.opening m s).toOption.map Prod.fst) = some q := h
    split at hcreates
    · cases hcreates
    · rename_i hnew
      split at hcreates
      · cases hcreates
      · rename_i htype
        obtain ⟨e, hopening⟩ := hopened hcreates
        obtain ⟨command, -, hopen⟩ := BillingIntegrationEventHandler.opening_eq_ok hopening
        rw [operation_handle, BillingIntegrationEventHandler.outcome, if_neg hnew, if_neg htype,
          hopening]
        exact ⟨(CreateQuoteUseCase.opening_eq_ok hopen).1, Database.same_markProcessed _ _ _ _⟩
  | approveQuote quoteId answers => cases h

omit [Python] in
/-- In memory, a quote that was refused a preference is stored as approved. -/
theorem memory_approving {m : World memory} {q : Quote} (hq : memory.quoteGet m.store q.quoteId = .ok q) :
    memory.quoteGet (m.approving q).store q.quoteId = .ok q.asApproved := by
  have hfind : m.store.quotes.find? q.asApproved.quoteId = some q := memory_quoteGet_eq_ok.mp hq
  refine memory_quoteGet_eq_ok.mpr ?_
  show (Memory.assignQuote m.store q.asApproved).quotes.find? q.quoteId = some q.asApproved
  unfold Memory.assignQuote
  rw [hfind]
  exact Table.find?_upsert_self m.store.quotes q.asApproved

/-- **After an operation that does not fit, the reads are not well defined.** -/
theorem Operation.fits_of_wellRead {op : Operation} {ids : IdStream} {n : Nat} {s' : Supply}
    (hs : (ids.supply n).Alike s') (h : Twin w m) (hone : (sql.ledger w.store).OneEach ids n)
    (hread : WellRead (w.operation d (ids.supply n) op) (m.operation d s' op)) :
    op.Fits d (ids.supply n) w := by
  constructor
  · -- both quotes of the service order are stored, and either can be the answer
    intro q hcreates id q' hq' hso
    obtain ⟨hdrawn, hsame⟩ := Operation.creates_eq_some hcreates
    have hne : q'.quoteId ≠ q.quoteId := by
      rw [(hone.drawn id q' hq').1, hdrawn]
      exact hone.new hq'
    have hnew := hread.quote (hsame.hasQuote.mpr (Database.hasQuote_save.mpr (Or.inl rfl)))
    have hold := hread.quote (hsame.hasQuote.mpr (Database.hasQuote_save.mpr
      (Or.inr ⟨hne, (Database.quote_get_eq_ok.mp hq').2⟩)))
    rw [hso] at hold
    obtain rfl := Except.ok.inj (hnew.symm.trans hold)
    exact hne rfl
  · intro quoteId answers hop q hq hcreated
    subst hop
    cases hgiven : answers.given (d.gateway.createCheckoutPreference (ids.supply n).idempotencyKey
      q.quoteId q.serviceOrderId q.total) with
    | ok preference => exact ⟨preference, rfl⟩
    | error e =>
      -- over SQL the quote is still created, in memory it is approved
      have hne : ¬ q.status ≠ .created := not_not.mpr hcreated
      have hq' : memory.quoteGet m.store quoteId = .ok q := (h.quoteGet quoteId).symm.trans hq
      have hw : w.operation d (ids.supply n) (.approveQuote quoteId answers) = w.approving q := by
        rw [operation_approve]
        unfold ApproveQuoteUseCase.outcome
        rw [hq]
        simp only [if_neg hne, hgiven]
      have hm : m.operation d s' (.approveQuote quoteId answers) = m.approving q := by
        rw [operation_approve]
        unfold ApproveQuoteUseCase.outcome
        rw [hq', ← hs.idempotencyKey]
        simp only [if_neg hne, hgiven]
      rw [hw, hm] at hread
      obtain ⟨rfl, hstored⟩ := Database.quote_get_eq_ok.mp hq
      have hanswer := memory_readsQuote (m.approving q).store q.serviceOrderId
      rw [hread.quote (w := w.approving q) hstored] at hanswer
      have happroved := hanswer.1.symm.trans (memory_approving hq')
      have hstatus : q.status = .approved := congrArg Quote.status (Except.ok.inj happroved)
      rw [hcreated] at hstatus
      cases hstatus

/-- From twins on, the reads are well defined after every part of a sequence exactly if all its
    operations fit. -/
theorem wellRead_iff_fits {ids ids' : IdStream} (hids : ∀ n, (ids.supply n).Alike (ids'.supply n))
    {n : Nat} {ops : List Operation} (h : Twin w m) (hone : (sql.ledger w.store).OneEach ids n) :
    (∀ done, done <+: ops → WellRead (World.operations d ids n done w)
      (World.operations d ids' n done m)) ↔ World.Fits d ids n ops w := by
  induction ops generalizing n w m with
  | nil =>
    refine ⟨fun _ => trivial, fun _ done hdone => ?_⟩
    obtain rfl := List.prefix_nil.mp hdone
    exact h.wellRead hone
  | cons op ops ih =>
    constructor
    · intro hread
      have hone' : WellRead (w.operation d (ids.supply n) op) (m.operation d (ids'.supply n) op) :=
        hread [op] (List.prefix_append [op] ops)
      have hfits := Operation.fits_of_wellRead (hids n) h hone hone'
      have hrest := (ih (h.operation sql_lawful memory_lawful (hids n) hfits)
        (hone.operation sql_lawful hfits)).mp fun done hdone =>
          hread (op :: done) ((List.prefix_cons_inj op).mpr hdone)
      exact ⟨hfits, hrest⟩
    · rintro ⟨hfits, hrest⟩ done hdone
      cases done with
      | nil => exact h.wellRead hone
      | cons first done =>
        obtain ⟨rfl, hdone'⟩ := List.cons_prefix_cons.mp hdone
        exact (ih (h.operation sql_lawful memory_lawful (hids n) hfits)
          (hone.operation sql_lawful hfits)).mpr hrest done hdone'

theorem empty_oneEach (ids : IdStream) : (sql.ledger (World.empty sql).store).OneEach ids 0 where
  drawn := by
    intro id q hq
    cases hq
  quotes := by
    intro id id' q q' hq
    cases hq
  approved := by
    intro id p hp
    cases hp
  payments := by
    intro id id' p p' hp
    cases hp

/-- **Reads by service order are well defined** in every state that a sequence of operations passes
    through, exactly if each quote is created for a service order that has none and the gateway
    returns whenever a created quote is approved. -/
theorem reads_by_service_order {ids ids' : IdStream}
    (hids : ∀ n, (ids.supply n).Alike (ids'.supply n)) (ops : List Operation) :
    (∀ done, done <+: ops → WellRead (World.operations d ids 0 done (World.empty sql))
      (World.operations d ids' 0 done (World.empty memory))) ↔
      World.Fits d ids 0 ops (World.empty sql) :=
  wellRead_iff_fits hids ⟨rfl, rfl⟩ (empty_oneEach ids)

end WellRead

section Samples

open Sample

/-- Two service orders with a quote each; one is approved, and approved again. -/
def Sample.twoOrders : List Operation :=
  [.createQuote ⟨"os-1", ["oil"], .finite false 12000 (-2)⟩,
    .createQuote ⟨"os-2", ["filter"], .finite false 8000 (-2)⟩,
    .approveQuote (tag 'q' 0) noAnswers, .approveQuote (tag 'q' 0) noAnswers]

/-- Two quotes of one service order. -/
def Sample.oneOrderTwice : List Operation :=
  [.createQuote ⟨"os-1", ["oil"], .finite false 12000 (-2)⟩,
    .createQuote ⟨"os-1", ["filter"], .finite false 8000 (-2)⟩]

theorem stream_alike (n : Nat) : (stream.supply n).Alike (stream.supply n) := ⟨rfl, rfl, rfl⟩

/-- A test of whether all operations fit, when the gateway is the fake one. -/
def Sample.allFit : Nat → List Operation → World sql → Bool
  | _, [], _ => true
  | n, op :: ops, w =>
    ((op.creates mock (stream.supply n) w).all fun q =>
      decide (q.serviceOrderId ∉ (Database.quotes w.store).rows.map QuoteRow.serviceOrderId)) &&
      allFit (n + 1) ops (w.operation mock (stream.supply n) op)

theorem fits_of_allFit {n : Nat} {ops : List Operation} {w : World sql} (h : allFit n ops w = true) :
    World.Fits mock stream n ops w := by
  induction ops generalizing n w with
  | nil => trivial
  | cons op ops ih =>
    obtain ⟨hfirst, hrest⟩ := (Bool.and_eq_true _ _).mp h
    refine ⟨⟨fun q hq id q' hq' hso => ?_, fun quoteId answers _ q _ _ => ⟨_, rfl⟩⟩, ih hrest⟩
    rw [hq] at hfirst
    have hnone : q.serviceOrderId ∉ (Database.quotes w.store).rows.map QuoteRow.serviceOrderId :=
      of_decide_eq_true hfirst
    have hmem := (Database.quote_get_eq_ok.mp hq').2.mem
    exact hnone (List.mem_map.mpr ⟨.ofQuote q', hmem, hso⟩)

theorem reads_by_service_order_two_orders :
    WellRead (World.operations mock stream 0 twoOrders (World.empty sql))
        (World.operations mock stream 0 twoOrders (World.empty memory)) ∧
      (InMemoryPaymentRepository.getByServiceOrderId
        (World.operations mock stream 0 twoOrders (World.empty memory)).store "os-1").map
          Payment.paymentId = .ok (tag 'p' 2) := by
  have hfits : World.Fits mock stream 0 twoOrders (World.empty sql) :=
    fits_of_allFit (by decide +kernel)
  refine ⟨?_, by decide +kernel⟩
  exact (reads_by_service_order stream_alike twoOrders).mpr hfits twoOrders (List.prefix_refl _)

/-- **Two quotes of one service order are not told apart**: with the rows in the other order, the
    database's answer is the second quote, and the in-memory answer is the first. -/
theorem reads_by_service_order_ambiguous :
    ¬ ∀ (d : Deployment) (ids ids' : IdStream), (∀ n, (ids.supply n).Alike (ids'.supply n)) →
      ∀ ops : List Operation, WellRead (World.operations d ids 0 ops (World.empty sql))
        (World.operations d ids' 0 ops (World.empty memory)) := by
  intro h
  have hread := h mock stream stream stream_alike oneOrderTwice
  let selected := ((Database.quotes
    (World.operations mock stream 0 oneOrderTwice (World.empty sql)).store).rows.filter fun row =>
      decide (row.serviceOrderId = "os-1")).reverse
  have hselected : Database.SelectsQuotes
      (World.operations mock stream 0 oneOrderTwice (World.empty sql)).store "os-1" selected :=
    List.reverse_perm _
  have hsame := congrArg (Except.map Quote.quoteId) ((hread "os-1").1 selected hselected)
  have hsql : (SqlAlchemyQuoteRepository.getByServiceOrderId selected "os-1").map Quote.quoteId =
      .ok (tag 'q' 1) := by decide +kernel
  have hmemory : (InMemoryQuoteRepository.getByServiceOrderId
      (World.operations mock stream 0 oneOrderTwice (World.empty memory)).store "os-1").map
        Quote.quoteId = .ok (tag 'q' 0) := by decide +kernel
  have hids := hsql.symm.trans (hsame.trans hmemory)
  exact absurd (tag_inj (Except.ok.inj hids)).2 (by decide)

end Samples

end Billing

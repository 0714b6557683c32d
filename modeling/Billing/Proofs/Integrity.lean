/-
  Referential integrity, in every interleaving and under every failure.

  `Integrity` is the invariant.  Its parts, each resting on the one before:

  * `FreshIds`  — the id of a quote or payment that a request has not saved yet is not in the store;
  * `Kept`      — every object that a request read or saved is still stored, at most further on:
                  `Quote.Evolves` and `Payment.Evolves` say what may have changed;
  * `opened`    — every stored payment has its preference and the approved quote it was made from.

  One action keeps them because of `Database.Evolves`, the step lemma: whatever the action writes,
  every stored object evolves.  `Runs.evolves` is the same for a whole run, and the final theorem
  reads both off the rows.
-/
import Billing.Proofs.Steps

namespace Billing

open Py Atomic

/-! ## How stored objects evolve -/

/-- The quote `q'` is `q` at some later time. -/
structure Quote.Evolves (q q' : Quote) : Prop where
  quoteId : q'.quoteId = q.quoteId
  serviceOrderId : q'.serviceOrderId = q.serviceOrderId
  items : q'.items = q.items
  total : q'.total = q.total
  approved : q.status = .approved → q'.status = .approved

/-- The payment `p'` is `p` at some later time. -/
structure Payment.Evolves (p p' : Payment) : Prop where
  paymentId : p'.paymentId = p.paymentId
  quoteId : p'.quoteId = p.quoteId
  serviceOrderId : p'.serviceOrderId = p.serviceOrderId
  total : p'.total = p.total
  preference : p'.preference = p.preference

theorem Quote.Evolves.refl (q : Quote) : q.Evolves q := ⟨rfl, rfl, rfl, rfl, id⟩

theorem Payment.Evolves.refl (p : Payment) : p.Evolves p := ⟨rfl, rfl, rfl, rfl, rfl⟩

theorem Quote.Evolves.trans {q q' q'' : Quote} (h : q.Evolves q') (h' : q'.Evolves q'') :
    q.Evolves q'' where
  quoteId := h'.quoteId.trans h.quoteId
  serviceOrderId := h'.serviceOrderId.trans h.serviceOrderId
  items := h'.items.trans h.items
  total := h'.total.trans h.total
  approved := h'.approved ∘ h.approved

theorem Payment.Evolves.trans {p p' p'' : Payment} (h : p.Evolves p') (h' : p'.Evolves p'') :
    p.Evolves p'' where
  paymentId := h'.paymentId.trans h.paymentId
  quoteId := h'.quoteId.trans h.quoteId
  serviceOrderId := h'.serviceOrderId.trans h.serviceOrderId
  total := h'.total.trans h.total
  preference := h'.preference.trans h.preference

/-- Approving a quote is an evolution of whatever became of it since it was read. -/
theorem Quote.Evolves.approve {q₀ q : Quote} (h : q₀.Evolves q) :
    q.Evolves { q₀ with status := .approved } where
  quoteId := h.quoteId.symm
  serviceOrderId := h.serviceOrderId.symm
  items := h.items.symm
  total := h.total.symm
  approved := fun _ => rfl

/-- So is writing back a payment that was read, settled or unchanged. -/
theorem Payment.Evolves.settle {p₀ p p' : Payment} {checks : Bool} (h : p₀.Evolves p)
    (hp : checks = true ∧ p' = p₀ ∨ Settled p₀ p') : p.Evolves p' := by
  have hback : p.Evolves p₀ := ⟨h.paymentId.symm, h.quoteId.symm, h.serviceOrderId.symm,
    h.total.symm, h.preference.symm⟩
  rcases hp with ⟨_, rfl⟩ | ⟨_, rfl⟩ | ⟨_, rfl⟩
  · exact hback
  · exact hback.trans ⟨rfl, rfl, rfl, rfl, rfl⟩
  · exact hback.trans ⟨rfl, rfl, rfl, rfl, rfl⟩

/-- Every stored object of `db` is stored in `db'`, at most further on. -/
structure Database.Evolves (db db' : Database) : Prop where
  quotes : ∀ q, db.HasQuote q → ∃ q', db'.HasQuote q' ∧ q.Evolves q'
  payments : ∀ p, db.HasPayment p → ∃ p', db'.HasPayment p' ∧ p.Evolves p'

theorem Database.Evolves.refl (db : Database) : db.Evolves db :=
  ⟨fun q h => ⟨q, h, .refl q⟩, fun p h => ⟨p, h, .refl p⟩⟩

theorem Database.Evolves.trans {db db' db'' : Database} (h : db.Evolves db')
    (h' : db'.Evolves db'') : db.Evolves db'' := by
  constructor
  · intro q hq
    obtain ⟨q', hq', he⟩ := h.quotes q hq
    obtain ⟨q'', hq'', he'⟩ := h'.quotes q' hq'
    exact ⟨q'', hq'', he.trans he'⟩
  · intro p hp
    obtain ⟨p', hp', he⟩ := h.payments p hp
    obtain ⟨p'', hp'', he'⟩ := h'.payments p' hp'
    exact ⟨p'', hp'', he.trans he'⟩

theorem Database.Same.evolves {db db' : Database} (h : db.Same db') : db.Evolves db' :=
  ⟨fun q hq => ⟨q, h.hasQuote.mpr hq, .refl q⟩, fun p hp => ⟨p, h.hasPayment.mpr hp, .refl p⟩⟩

section Saves

variable [Python]

/-- Saving a quote is an evolution if it is one of the row that it replaces. -/
theorem Database.Evolves.of_saveQuote {db : Database} {q : Quote}
    (h : ∀ q', db.HasQuote q' → q'.quoteId = q.quoteId → q'.Evolves q) :
    db.Evolves (SqlAlchemyQuoteRepository.save db q) := by
  constructor
  · intro q' hq'
    by_cases hid : q'.quoteId = q.quoteId
    · exact ⟨q, Database.hasQuote_save.mpr (Or.inl rfl), h q' hq' hid⟩
    · exact ⟨q', Database.hasQuote_save.mpr (Or.inr ⟨hid, hq'⟩), .refl q'⟩
  · intro p hp
    exact ⟨p, hp, .refl p⟩

theorem Database.Evolves.of_savePayment {db : Database} {p : Payment}
    (h : ∀ p', db.HasPayment p' → p'.paymentId = p.paymentId → p'.Evolves p) :
    db.Evolves (SqlAlchemyPaymentRepository.save db p) := by
  constructor
  · intro q hq
    exact ⟨q, hq, .refl q⟩
  · intro p' hp'
    by_cases hid : p'.paymentId = p.paymentId
    · exact ⟨p, Database.hasPayment_save.mpr (Or.inl rfl), h p' hp' hid⟩
    · exact ⟨p', Database.hasPayment_save.mpr (Or.inr ⟨hid, hp'⟩), .refl p'⟩

end Saves

/-! ## Stored payments, and what steps tell about the store -/

/-- A payment as it is once it is stored: it has its preference. -/
def Payment.Opened (p : Payment) : Prop := p.preference ≠ none ∧ p.status ≠ .waitingPreference

/-- The approved quote that a payment was made from is stored. -/
def Database.Linked (db : Database) (p : Payment) : Prop :=
  ∃ q, db.HasQuote q ∧ q.quoteId = p.quoteId ∧ q.status = .approved ∧
    q.serviceOrderId = p.serviceOrderId ∧ q.total = p.total

theorem Payment.Opened.of_settle {p₀ p : Payment} {checks : Bool} (h : p₀.Opened)
    (hp : checks = true ∧ p = p₀ ∨ Settled p₀ p) : p.Opened := by
  obtain ⟨hpref, hstatus⟩ := h
  rcases hp with ⟨_, rfl⟩ | ⟨_, rfl⟩ | ⟨_, rfl⟩
  · exact ⟨hpref, hstatus⟩
  · exact ⟨hpref, fun h => by cases h⟩
  · exact ⟨hpref, fun h => by cases h⟩

/-- A link survives as quotes evolve. -/
theorem Database.Linked.of_evolves {db db' : Database} {p p' : Payment} (h : db.Linked p)
    (hdb : db.Evolves db') (hp : p.Evolves p') : db'.Linked p' := by
  obtain ⟨q, hq, hid, happ, hso, htot⟩ := h
  obtain ⟨q', hq', hev⟩ := hdb.quotes q hq
  refine ⟨q', hq', ?_, hev.approved happ, ?_, ?_⟩
  · rw [hev.quoteId, hid, hp.quoteId]
  · rw [hev.serviceOrderId, hso, hp.serviceOrderId]
  · rw [hev.total, htot, hp.total]

/-- What a step that was done tells about the store, from then on. -/
def Kept [Python] (d : Event) (w : World sql) : Prop :=
  match d with
  | ⟨.quoteGet id, .ok q⟩ => q.quoteId = id ∧ ∃ q', w.store.HasQuote q' ∧ q.Evolves q'
  | ⟨.quoteSave q, .ok _⟩ => ∃ q', w.store.HasQuote q' ∧ q.Evolves q'
  | ⟨.paymentGet id, .ok p⟩ =>
    p.paymentId = id ∧ p.Opened ∧ ∃ p', w.store.HasPayment p' ∧ p.Evolves p'
  | ⟨.paymentSave p, .ok _⟩ => ∃ p', w.store.HasPayment p' ∧ p.Evolves p'
  | ⟨.publish e, .ok _⟩ => e ∈ w.accepted
  | _ => True

/-! ## Referential integrity of the rows -/

/-- Every payment row has a preference and is past `WAITING_PREFERENCE`, and its quote row is
    approved, for the same service order and the same total. -/
def Database.Referential (db : Database) : Prop :=
  ∀ row ∈ db.payments.rows, row.preference ≠ .null ∧
    row.status ≠ PaymentStatus.waitingPreference.value ∧
    ∃ quote ∈ db.quotes.rows, quote.quoteId = row.quoteId ∧
      quote.status = QuoteStatus.approved.value ∧ quote.serviceOrderId = row.serviceOrderId ∧
      quote.amount = row.amount ∧ quote.currency = row.currency

/-- The columns that never change: every row of `db` is in `db'` with the same ones. -/
structure Database.Preserves (db db' : Database) : Prop where
  payments : ∀ row ∈ db.payments.rows, ∃ row' ∈ db'.payments.rows, row'.paymentId = row.paymentId ∧
    row'.quoteId = row.quoteId ∧ row'.serviceOrderId = row.serviceOrderId ∧
    row'.amount = row.amount ∧ row'.currency = row.currency ∧ row'.preference = row.preference
  quotes : ∀ row ∈ db.quotes.rows, ∃ row' ∈ db'.quotes.rows, row'.quoteId = row.quoteId ∧
    row'.serviceOrderId = row.serviceOrderId ∧ row'.items = row.items ∧
    row'.amount = row.amount ∧ row'.currency = row.currency

theorem Database.Evolves.preserves {db db' : Database} (h : db.Evolves db') : db.Preserves db' := by
  constructor
  · intro row hrow
    obtain ⟨p, rfl, hp⟩ := Database.hasPayment_of_mem hrow
    obtain ⟨p', hp', hev⟩ := h.payments p hp
    refine ⟨.ofPayment p', hp'.mem, hev.paymentId, hev.quoteId, hev.serviceOrderId, ?_, ?_, ?_⟩
    · exact congrArg (fun m : Money => m.amount.toText) hev.total
    · exact congrArg Money.currency hev.total
    · exact congrArg preferenceJson hev.preference
  · intro row hrow
    obtain ⟨q, rfl, hq⟩ := Database.hasQuote_of_mem hrow
    obtain ⟨q', hq', hev⟩ := h.quotes q hq
    refine ⟨.ofQuote q', hq'.mem, hev.quoteId, hev.serviceOrderId, ?_, ?_, ?_⟩
    · exact congrArg (fun items : List String => Json.list (items.map .str)) hev.items
    · exact congrArg (fun m : Money => m.amount.toText) hev.total
    · exact congrArg Money.currency hev.total

/-! ## The invariant -/

section Invariant

variable [Python] {d : Deployment}

/-- One kind of ids that requests draw and save objects under. -/
structure IdKind where
  /-- The id that a supply has for it. -/
  drawn : Supply → String
  /-- Was a save tried? -/
  tried : Standing → Bool
  /-- Is the step such a save? -/
  saves : Port → Prop
  /-- Is something stored under the id? -/
  stored : Database → String → Prop
  drawn_mem : ∀ supply, drawn supply ∈ supply.ids
  tried_after : ∀ st d, tried (Standing.after st d) = false → tried st = false ∧ ¬ saves d.op

/-- The ids of quotes. -/
def quoteIds : IdKind where
  drawn := Supply.quoteId
  tried := Standing.wroteQuote
  saves := fun o => ∃ q, o = .quoteSave q
  stored := fun db id => ∃ q, db.HasQuote q ∧ q.quoteId = id
  drawn_mem := fun supply => by simp [Supply.ids]
  tried_after := fun st d h => ⟨(Standing.wroteQuote_after h).1,
    fun ⟨q, hq⟩ => (Standing.wroteQuote_after h).2 q hq⟩

/-- The ids of payments. -/
def paymentIds : IdKind where
  drawn := Supply.paymentId
  tried := Standing.wrotePayment
  saves := fun o => ∃ p, o = .paymentSave p
  stored := fun db id => ∃ p, db.HasPayment p ∧ p.paymentId = id
  drawn_mem := fun supply => by simp [Supply.ids]
  tried_after := fun st d h => ⟨(Standing.wrotePayment_after h).1,
    fun ⟨p, hp⟩ => (Standing.wrotePayment_after h).2 p hp⟩

/-- The ids of a kind are fresh until they are saved. -/
structure FreshIds (k : IdKind) (c : Config (system sql d)) : Prop where
  distinct : (c.reqs.map fun req => k.drawn req.supply).Nodup
  issued : ∀ id, k.stored c.state.store id → id ∈ c.state.issued
  new : ∀ t ∈ c.threads, k.tried (standing t.history) = false →
    ¬ k.stored c.state.store (k.drawn t.req.supply)

/-- **The invariant of all interleavings.** -/
structure Integrity (c : Config (system sql d)) : Prop where
  dutiful : ∀ t ∈ c.threads, Dutiful t
  supplied : ∀ req ∈ c.reqs, ∀ id ∈ req.supply.ids, id ∈ c.state.issued
  freshQuotes : FreshIds quoteIds c
  freshPayments : FreshIds paymentIds c
  kept : c.Knows Kept
  opened : ∀ p, c.state.store.HasPayment p → p.Opened
  linked : ∀ p, c.state.store.HasPayment p → c.state.store.Linked p
  currency : ∀ q, c.state.store.HasQuote q → q.total.currency = Money.defaultCurrency

/-! ## One action -/

section Next

variable {c c' : Config (system sql d)} {a : Action (system sql d)}

/-- The quote in hand is stored, at most further on. -/
theorem Integrity.quote_in_hand (hI : Integrity c) {t : Thread (system sql d)}
    (ht : t ∈ c.threads) {q : Quote} (hq : (standing t.history).quote = some q) :
    ∃ q', c.state.store.HasQuote q' ∧ q.Evolves q' := by
  obtain ⟨id, hd⟩ := (standing_sums t.history).quote q hq
  exact (hI.kept t ht _ hd).2

theorem Integrity.payment_in_hand (hI : Integrity c) {t : Thread (system sql d)}
    (ht : t ∈ c.threads) {p : Payment} (hp : (standing t.history).payment = some p) :
    p.Opened ∧ ∃ p', c.state.store.HasPayment p' ∧ p.Evolves p' := by
  obtain ⟨id, hd⟩ := (standing_sums t.history).payment p hp
  exact (hI.kept t ht _ hd).2

/-- **The step lemma**: whatever an action writes, every stored object evolves. -/
theorem Integrity.evolves (hI : Integrity c) (hn : c.next a = some c') :
    c.state.store.Evolves c'.state.store := by
  rcases write_cases hI.dutiful hn with hsame | ⟨i, fate, t, q, _, hasks, hsave, hq⟩ |
    ⟨i, fate, t, p, _, hasks, hsave, hp⟩
  · exact hsame.evolves
  · rw [hsave]
    refine .of_saveQuote fun q' hq' hid => ?_
    rcases hq with ⟨hnew, _, _, hwrote⟩ | ⟨q₀, hhand, _, rfl⟩
    · -- a new quote replaces nothing
      rw [hnew] at hid
      exact absurd ⟨q', hq', hid⟩ (hI.freshQuotes.new t hasks.mem hwrote)
    · obtain ⟨q₁, hq₁, hev⟩ := hI.quote_in_hand hasks.mem hhand
      have hsame : q' = q₁ := hq'.unique hq₁ (hid.trans hev.quoteId.symm)
      rw [hsame]
      exact hev.approve
  · rw [hsave]
    refine .of_savePayment fun p' hp' hid => ?_
    rcases hp with ⟨q, pref, _, hwrote, _, rfl⟩ | ⟨p₀, hhand, hset⟩
    · exact absurd ⟨p', hp', hid⟩ (hI.freshPayments.new t hasks.mem hwrote)
    · obtain ⟨_, p₁, hp₁, hev⟩ := hI.payment_in_hand hasks.mem hhand
      have hpid : p.paymentId = p₀.paymentId := by
        rcases hset with ⟨_, rfl⟩ | ⟨_, rfl⟩ | ⟨_, rfl⟩ <;> rfl
      have hsame : p' = p₁ := hp'.unique hp₁ (hid.trans (hpid.trans hev.paymentId.symm))
      rw [hsame]
      exact hev.settle hset

/-! ### Ids -/

/-- A request arrives with fresh ids. -/
theorem arrive_next {req : (system sql d).Req} (hn : c.next (.start req) = some c') :
    c'.reqs = c.reqs ++ [req] ∧ req.supply.Fresh c.state.issued ∧
      c'.state.issued = req.supply.ids ++ c.state.issued := by
  obtain ⟨s, harr, rfl⟩ := Config.next_start hn
  simp only [system, World.arrive] at harr
  split at harr
  · rename_i hfresh
    obtain rfl := Option.some.inj harr
    exact ⟨List.map_append, hfresh, rfl⟩
  · cases harr

/-- It does, or nothing about requests and ids changes. -/
theorem issued_next (hn : c.next a = some c') :
    (c'.reqs = c.reqs ∧ c'.state.issued = c.state.issued) ∨ ∃ req, a = .start req := by
  cases a with
  | start req => exact Or.inr ⟨req, rfl⟩
  | step i fate =>
    obtain ⟨t, o, k, r, s, hi, _, hx, rfl⟩ := Config.next_step hn
    exact Or.inl ⟨Config.reqs_set hi rfl, exec_issued hx⟩
  | abort i e =>
    obtain ⟨t, hi, _, rfl⟩ := Config.next_abort hn
    exact Or.inl ⟨Config.reqs_set hi rfl, rfl⟩

/-- A stored quote has the id of one that was stored before, or a request has just created it. -/
theorem Integrity.hasQuote_next (hI : Integrity c) (hn : c.next a = some c') {q : Quote}
    (hq : c'.state.store.HasQuote q) :
    (∃ q₀, c.state.store.HasQuote q₀ ∧ q₀.quoteId = q.quoteId) ∨
      ∃ i fate t, a = .step i fate ∧ c.Asks i t (.quoteSave q) ∧
        q.quoteId = t.req.supply.quoteId := by
  rcases write_cases hI.dutiful hn with hsame | ⟨i, fate, t, q', ha, hasks, hsave, hq'⟩ |
    ⟨i, fate, t, p, _, _, hsave, _⟩
  · exact Or.inl ⟨q, hsame.hasQuote.mp hq, rfl⟩
  · rw [hsave] at hq
    rcases Database.hasQuote_save.mp hq with rfl | ⟨_, hq⟩
    · rcases hq' with ⟨hnew, _⟩ | ⟨q₀, hhand, _, rfl⟩
      · exact Or.inr ⟨i, fate, t, ha, hasks, hnew⟩
      · obtain ⟨q₁, hq₁, hev⟩ := hI.quote_in_hand hasks.mem hhand
        exact Or.inl ⟨q₁, hq₁, hev.quoteId⟩
    · exact Or.inl ⟨q, hq, rfl⟩
  · rw [hsave] at hq
    exact Or.inl ⟨q, hq, rfl⟩

/-- A stored payment has the id of one that was stored before, or a request has just opened it. -/
theorem Integrity.hasPayment_next (hI : Integrity c) (hn : c.next a = some c') {p : Payment}
    (hp : c'.state.store.HasPayment p) :
    (∃ p₀, c.state.store.HasPayment p₀ ∧ p₀.Evolves p) ∨
      ∃ i fate t, a = .step i fate ∧ c.Asks i t (.paymentSave p) ∧
        OpensPayment d.gateway t.req.supply (standing t.history) p := by
  rcases write_cases hI.dutiful hn with hsame | ⟨i, fate, t, q', _, _, hsave, _⟩ |
    ⟨i, fate, t, p', ha, hasks, hsave, hp'⟩
  · exact Or.inl ⟨p, hsame.hasPayment.mp hp, .refl p⟩
  · rw [hsave] at hp
    exact Or.inl ⟨p, hp, .refl p⟩
  · rw [hsave] at hp
    rcases Database.hasPayment_save.mp hp with rfl | ⟨_, hp⟩
    · rcases hp' with hopens | ⟨p₀, hhand, hset⟩
      · exact Or.inr ⟨i, fate, t, ha, hasks, hopens⟩
      · obtain ⟨_, p₁, hp₁, hev⟩ := hI.payment_in_hand hasks.mem hhand
        exact Or.inl ⟨p₁, hp₁, hev.settle hset⟩
    · exact Or.inl ⟨p, hp, .refl p⟩

/-- A thread that has not tried a save after an action has just arrived, or had not tried it before
    either and is not the thread that is saving now. -/
theorem thread_next (k : IdKind) (hn : c.next a = some c') {t : Thread (system sql d)}
    (ht : t ∈ c'.threads) (hnot : k.tried (standing t.history) = false) :
    a = .start t.req ∨
      ∃ j u, c.threads[j]? = some u ∧ u.req = t.req ∧ k.tried (standing u.history) = false ∧
        ∀ i fate v o, a = .step i fate → c.Asks i v o → k.saves o → i ≠ j := by
  obtain ⟨j, hj⟩ := List.getElem?_of_mem ht
  cases a with
  | start req =>
    obtain ⟨s, _, rfl⟩ := Config.next_start hn
    rcases getElem?_append_cases hj with hj | ⟨_, rfl⟩
    · exact Or.inr ⟨j, t, hj, rfl, hnot, fun i fate v o ha => by cases ha⟩
    · exact Or.inl rfl
  | step n fate =>
    obtain ⟨t₀, o, kont, r, s, hn0, hr, _, rfl⟩ := Config.next_step hn
    rcases getElem?_set_cases hj with ⟨rfl, rfl⟩ | ⟨hne, hj⟩
    · rw [standing_concat] at hnot
      obtain ⟨hold, hno⟩ := k.tried_after _ _ hnot
      refine Or.inr ⟨n, t₀, hn0, rfl, hold, ?_⟩
      rintro i fate' v o' ⟨⟩ ⟨hv, k', hk'⟩ hsaves
      rw [hn0] at hv
      obtain rfl := Option.some.inj hv
      rw [hr] at hk'
      cases hk'
      exact absurd hsaves hno
    · refine Or.inr ⟨j, t, hj, rfl, hnot, ?_⟩
      rintro i fate' v o' ⟨⟩ _ _
      exact hne
  | abort n e =>
    obtain ⟨t₀, hn0, _, rfl⟩ := Config.next_abort hn
    rcases getElem?_set_cases hj with ⟨rfl, rfl⟩ | ⟨_, hj⟩
    · exact Or.inr ⟨n, t₀, hn0, rfl, hnot, fun i fate v o ha => by cases ha⟩
    · exact Or.inr ⟨j, t, hj, rfl, hnot, fun i fate v o ha => by cases ha⟩

theorem supplied_next (hsup : ∀ req ∈ c.reqs, ∀ id ∈ req.supply.ids, id ∈ c.state.issued)
    (hn : c.next a = some c') : ∀ req ∈ c'.reqs, ∀ id ∈ req.supply.ids, id ∈ c'.state.issued := by
  intro req hreq id hid
  rcases issued_next hn with ⟨hreqs, hiss⟩ | ⟨req', rfl⟩
  · rw [hiss]
    rw [hreqs] at hreq
    exact hsup req hreq id hid
  · obtain ⟨hreqs, _, hiss⟩ := arrive_next hn
    rw [hreqs] at hreq
    rw [hiss]
    rcases List.mem_append.mp hreq with hreq | hreq
    · exact List.mem_append_right _ (hsup req hreq id hid)
    · rw [List.mem_singleton.mp hreq] at hid
      exact List.mem_append_left _ hid

/-- **Ids stay fresh until they are saved**, if nothing is stored under a new id but by the request
    that drew it. -/
theorem FreshIds.next {k : IdKind} (h : FreshIds k c)
    (hsup : ∀ req ∈ c.reqs, ∀ id ∈ req.supply.ids, id ∈ c.state.issued)
    (hn : c.next a = some c')
    (hids : ∀ id, k.stored c'.state.store id → k.stored c.state.store id ∨
      ∃ i fate v o, a = .step i fate ∧ c.Asks i v o ∧ k.saves o ∧ id = k.drawn v.req.supply) :
    FreshIds k c' := by
  have hstored : ∀ id, k.stored c'.state.store id → id ∈ c.state.issued := by
    intro id hid
    rcases hids id hid with hid | ⟨i, fate, v, o, _, hasks, _, rfl⟩
    · exact h.issued id hid
    · exact hsup _ (Config.mem_reqs hasks.mem) _ (k.drawn_mem _)
  constructor
  · rcases issued_next hn with ⟨hreqs, _⟩ | ⟨req, rfl⟩
    · rw [hreqs]; exact h.distinct
    · obtain ⟨hreqs, hfresh, _⟩ := arrive_next hn
      rw [hreqs, List.map_append, List.nodup_append]
      refine ⟨h.distinct, List.nodup_singleton _, ?_⟩
      intro x hx y hy hxy
      obtain ⟨req', hreq', rfl⟩ := List.mem_map.mp hx
      rw [List.mem_singleton.mp hy] at hxy
      have hmem := hsup req' hreq' _ (k.drawn_mem _)
      rw [hxy] at hmem
      exact hfresh.2 _ (k.drawn_mem _) hmem
  · intro id hid
    rcases issued_next hn with ⟨_, hiss⟩ | ⟨req, rfl⟩
    · rw [hiss]; exact hstored id hid
    · rw [(arrive_next hn).2.2]
      exact List.mem_append_right _ (hstored id hid)
  · intro t ht hnot hst
    rcases thread_next k hn ht hnot with rfl | ⟨j, u, hj, hreq, hnot', hother⟩
    · exact (arrive_next hn).2.1.2 _ (k.drawn_mem _) (hstored _ hst)
    · rw [← hreq] at hst
      rcases hids _ hst with hst | ⟨i, fate, v, o, ha, hasks, hsaves, hid⟩
      · exact h.new u (List.mem_of_getElem? hj) hnot' hst
      · exact hother i fate v o ha hasks hsaves (Config.index_unique h.distinct hasks.1 hj hid.symm)

/-! ### Knowledge -/

theorem Kept.of_evolves {e : Event} {w w' : World sql} (hk : Kept e w)
    (hev : w.store.Evolves w'.store) (hacc : ∀ e ∈ w.accepted, e ∈ w'.accepted) : Kept e w' := by
  obtain ⟨op, res⟩ := e
  unfold Kept at hk ⊢
  split at hk
  · obtain ⟨hid, q', hq', he⟩ := hk
    obtain ⟨q'', hq'', he'⟩ := hev.quotes q' hq'
    exact ⟨hid, q'', hq'', he.trans he'⟩
  · obtain ⟨q', hq', he⟩ := hk
    obtain ⟨q'', hq'', he'⟩ := hev.quotes q' hq'
    exact ⟨q'', hq'', he.trans he'⟩
  · obtain ⟨hid, hopened, p', hp', he⟩ := hk
    obtain ⟨p'', hp'', he'⟩ := hev.payments p' hp'
    exact ⟨hid, hopened, p'', hp'', he.trans he'⟩
  · obtain ⟨p', hp', he⟩ := hk
    obtain ⟨p'', hp'', he'⟩ := hev.payments p' hp'
    exact ⟨p'', hp'', he.trans he'⟩
  · exact hacc _ hk
  · trivial

/-- A step that answers is known from then on. -/
theorem Kept.of_exec {w w' : World sql} {o : Port} {fate : Fate} {r : Except Exc o.Res}
    (hx : w.exec o fate = some (r, w')) (hopened : ∀ p, w.store.HasPayment p → p.Opened) :
    Kept ⟨o, r⟩ w' := by
  unfold Kept
  split
  · rename_i id q hd
    cases hd
    obtain ⟨rfl, hid, hq⟩ := exec_quoteGet hx
    exact ⟨hid, q, hq, .refl q⟩
  · rename_i q u hd
    cases hd
    exact ⟨q, by rw [exec_quoteSave hx]; exact Database.hasQuote_save.mpr (Or.inl rfl), .refl q⟩
  · rename_i id p hd
    cases hd
    obtain ⟨rfl, hid, hp⟩ := exec_paymentGet hx
    exact ⟨hid, hopened p hp, p, hp, .refl p⟩
  · rename_i p u hd
    cases hd
    exact ⟨p, by rw [exec_paymentSave hx]; exact Database.hasPayment_save.mpr (Or.inl rfl), .refl p⟩
  · rename_i e u hd
    cases hd
    rw [exec_publish hx]
    exact List.mem_append_right _ List.mem_cons_self
  · trivial

theorem accepted_next (hn : c.next a = some c') :
    ∀ e ∈ c.state.accepted, e ∈ c'.state.accepted := by
  intro e he
  rcases published_next hn with ⟨_, hacc⟩ | ⟨_, _, _, e', _, _, _, _, hacc | hacc⟩
  · rw [hacc]; exact he
  · rw [hacc]; exact List.mem_append_left _ he
  · rw [hacc]; exact he

theorem Integrity.kept_next (hI : Integrity c) (hn : c.next a = some c') : c'.Knows Kept :=
  hI.kept.next hn (fun _ hk => hk.of_evolves (hI.evolves hn) (accepted_next hn))
    fun _ _ _ _ _ _ _ _ _ hx => .of_exec hx hI.opened

/-! ### Payments -/

theorem Integrity.opened_next (hI : Integrity c) (hn : c.next a = some c') :
    ∀ p, c'.state.store.HasPayment p → p.Opened := by
  intro p hp
  rcases write_cases hI.dutiful hn with hsame | ⟨i, fate, t, q, _, _, hsave, _⟩ |
    ⟨i, fate, t, p', _, hasks, hsave, hp'⟩
  · exact hI.opened p (hsame.hasPayment.mp hp)
  · rw [hsave] at hp
    exact hI.opened p hp
  · rw [hsave] at hp
    rcases Database.hasPayment_save.mp hp with rfl | ⟨_, hp⟩
    · rcases hp' with ⟨q, pref, _, _, _, rfl⟩ | ⟨p₀, hhand, hset⟩
      · exact ⟨(fun h => by cases h), (fun h => by cases h)⟩
      · exact (hI.payment_in_hand hasks.mem hhand).1.of_settle hset
    · exact hI.opened p hp

theorem Integrity.linked_next (hI : Integrity c) (hn : c.next a = some c') :
    ∀ p, c'.state.store.HasPayment p → c'.state.store.Linked p := by
  intro p hp
  rcases hI.hasPayment_next hn hp with ⟨p₀, hp₀, hev⟩ |
    ⟨i, fate, t, _, hasks, q, pref, howes, _, _, rfl⟩
  · exact (hI.linked p₀ hp₀).of_evolves (hI.evolves hn) hev
  · -- a new payment: its quote was saved as approved by the step before
    obtain ⟨happ, hsaved⟩ := (standing_sums t.history).owesPayment q howes
    obtain ⟨q₁, hq₁, he₁⟩ := hI.kept t hasks.mem _ ((standing_sums t.history).savedQuote q hsaved)
    obtain ⟨q₂, hq₂, he₂⟩ := (hI.evolves hn).quotes q₁ hq₁
    have he := he₁.trans he₂
    exact ⟨q₂, hq₂, he.quoteId, he.approved happ, he.serviceOrderId, he.total⟩

theorem Integrity.currency_next (hI : Integrity c) (hn : c.next a = some c') :
    ∀ q, c'.state.store.HasQuote q → q.total.currency = Money.defaultCurrency := by
  intro q hq
  rcases write_cases hI.dutiful hn with hsame | ⟨i, fate, t, q', _, hasks, hsave, hq'⟩ |
    ⟨i, fate, t, p, _, _, hsave, _⟩
  · exact hI.currency q (hsame.hasQuote.mp hq)
  · rw [hsave] at hq
    rcases Database.hasQuote_save.mp hq with rfl | ⟨_, hq⟩
    · rcases hq' with ⟨_, _, hcur, _⟩ | ⟨q₀, hhand, _, rfl⟩
      · exact hcur
      · obtain ⟨q₁, hq₁, hev⟩ := hI.quote_in_hand hasks.mem hhand
        have := hI.currency q₁ hq₁
        rwa [hev.total] at this
    · exact hI.currency q hq
  · rw [hsave] at hq
    exact hI.currency q hq

/-- The total of a stored payment is in the default currency, as that of its quote. -/
theorem Integrity.payment_currency (hI : Integrity c) {p : Payment}
    (hp : c.state.store.HasPayment p) : p.total.currency = Money.defaultCurrency := by
  obtain ⟨q, hq, _, _, _, htot⟩ := hI.linked p hp
  rw [← htot]
  exact hI.currency q hq

/-- **Every action keeps the invariant.** -/
theorem Integrity.next (hI : Integrity c) (hn : c.next a = some c') : Integrity c' where
  dutiful := dutiful_next hn hI.dutiful
  supplied := supplied_next hI.supplied hn
  freshQuotes := by
    refine hI.freshQuotes.next hI.supplied hn ?_
    rintro id ⟨q, hq, rfl⟩
    rcases hI.hasQuote_next hn hq with hold | ⟨i, fate, v, ha, hasks, hid⟩
    · exact Or.inl hold
    · exact Or.inr ⟨i, fate, v, _, ha, hasks, ⟨q, rfl⟩, hid⟩
  freshPayments := by
    refine hI.freshPayments.next hI.supplied hn ?_
    rintro id ⟨p, hp, rfl⟩
    rcases hI.hasPayment_next hn hp with ⟨p₀, hp₀, hev⟩ | ⟨i, fate, v, ha, hasks, q, pref, _, _, _, rfl⟩
    · exact Or.inl ⟨p₀, hp₀, hev.paymentId.symm⟩
    · exact Or.inr ⟨i, fate, v, _, ha, hasks, ⟨_, rfl⟩, rfl⟩
  kept := hI.kept_next hn
  opened := hI.opened_next hn
  linked := hI.linked_next hn
  currency := hI.currency_next hn

end Next

/-! ## Runs -/

theorem integrity_start : Integrity (start sql d) where
  dutiful := fun _ ht => absurd ht List.not_mem_nil
  supplied := fun _ h => absurd h List.not_mem_nil
  freshQuotes := ⟨List.nodup_nil, (fun _ ⟨_, hq, _⟩ => by cases hq),
    fun _ ht => absurd ht List.not_mem_nil⟩
  freshPayments := ⟨List.nodup_nil, (fun _ ⟨_, hp, _⟩ => by cases hp),
    fun _ ht => absurd ht List.not_mem_nil⟩
  kept := fun _ ht => absurd ht List.not_mem_nil
  opened := fun _ hp => by cases hp
  linked := fun _ hp => by cases hp
  currency := fun _ hq => by cases hq

/-- **The invariant holds in every reachable configuration**, whatever the interleaving and wherever
    steps raise. -/
theorem integrity {ok : Config (system sql d) → Action (system sql d) → Prop}
    {c : Config (system sql d)} (H : Runs ok (start sql d) c) : Integrity c :=
  H.invariant integrity_start fun _ _ _ hI _ hn => hI.next hn

/-- **In a run, every stored object evolves.** -/
theorem Integrity.runs_evolves {ok : Config (system sql d) → Action (system sql d) → Prop}
    {c c' : Config (system sql d)} (hI : Integrity c) (H : Runs ok c c') :
    c.state.store.Evolves c'.state.store := by
  refine H.relation (I := Integrity) (R := fun c c' => c.state.store.Evolves c'.state.store)
    (fun c' H' => H'.invariant hI fun _ _ _ hI _ hn => hI.next hn) (fun _ => .refl _)
    (fun _ _ _ h h' => h.trans h') fun _ _ _ hI _ hn => hI.evolves hn

theorem Integrity.referential {c : Config (system sql d)} (hI : Integrity c) :
    c.state.store.Referential := by
  intro row hrow
  obtain ⟨p, rfl, hp⟩ := Database.hasPayment_of_mem hrow
  obtain ⟨hpref, hstatus⟩ := hI.opened p hp
  obtain ⟨q, hq, hid, happ, hso, htot⟩ := hI.linked p hp
  refine ⟨?_, fun h => hstatus (PaymentStatus.value_injective h), .ofQuote q, hq.mem, hid, ?_, hso,
    ?_, ?_⟩
  · cases hcase : p.preference with
    | none => exact absurd hcase hpref
    | some pref =>
      simp only [PaymentRow.ofPayment, hcase, preferenceJson, PaymentPreference.toJson]
      exact fun h => by cases h
  · exact congrArg QuoteStatus.value happ
  · exact congrArg (fun m : Money => m.amount.toText) htot
  · exact congrArg Money.currency htot

/-- **Referential integrity under concurrency and failures.**  In every reachable state payments
    refer to approved quotes that agree with them, and whatever happens later, the identifying
    columns of a row that exists never change. -/
theorem referential_integrity {c c' : Config (system sql d)} (H : Runs anyOrder (start sql d) c)
    (H' : Runs anyOrder c c') :
    c.state.store.Referential ∧ c'.state.store.Referential ∧
      c.state.store.Preserves c'.state.store :=
  ⟨(integrity H).referential, (integrity (H.trans H')).referential,
    ((integrity H).runs_evolves H').preserves⟩

end Invariant

open Sample

/-- Two approvals of one quote interleave; the first has saved its payment. -/
def Sample.racingApprovals : List (Action (system sql mock)) :=
  [create "1" "os-1"] ++ go 0 2 ++
    [ask "2" (.approveQuote "quote-1"), ask "3" (.approveQuote "quote-1")] ++
    go 1 2 ++ go 2 2 ++ go 1 3

/-- The second saves its payment as well, and a confirmation stops at a save that raised. -/
def Sample.interruptedConfirm : List (Action (system sql mock)) :=
  go 2 3 ++ [ask "4" (.confirmPayment "payment-2")] ++ go 3 2 ++
    [.step 3 (.raises (.infrastructure "connection lost") true)]

theorem referential_integrity_racing :
    ∃ c c' : Config (system sql mock), c.state.store.payments.rows.length = 1 ∧
      c'.state.store.payments.rows.length = 2 ∧ c.state.store.Referential ∧
      c'.state.store.Referential ∧ c.state.store.Preserves c'.state.store :=
  ⟨(start sql mock).played anyOrder racingApprovals (by decide),
    ((start sql mock).played anyOrder racingApprovals (by decide)).played anyOrder
      interruptedConfirm (by decide),
    by decide, by decide, referential_integrity (Config.played_runs _ _ _) (Config.played_runs _ _ _)⟩

end Billing

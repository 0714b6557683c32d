/-
  What one step of the service over the SQL repositories does to the world.

  `exec_cases` is the inversion of `World.exec` for the two tables: they are left alone, or one
  object is saved.  Together with the duties of `Billing.Proofs.Duties` it becomes `write_cases`:
  every change of a table, in any interleaving and under any failure, is a new quote, the approval of
  a quote in hand, a new payment, or the settling of a payment in hand.  All invariants of the later
  modules are derived from that.
-/
import Billing.Proofs.Duties

namespace Billing

open Py Atomic Program

/-! ## The steps of the SQL backend -/

/-- Two databases with the same quotes and payments. -/
def Database.Same (db db' : Database) : Prop :=
  db'.quotes = db.quotes ∧ db'.payments = db.payments

theorem Database.Same.refl (db : Database) : db.Same db := ⟨rfl, rfl⟩

theorem Database.Same.hasQuote {db db' : Database} (h : db.Same db') {q : Quote} :
    db'.HasQuote q ↔ db.HasQuote q := by
  unfold Database.HasQuote
  rw [h.1]

theorem Database.Same.hasPayment {db db' : Database} (h : db.Same db') {p : Payment} :
    db'.HasPayment p ↔ db.HasPayment p := by
  unfold Database.HasPayment
  rw [h.2]

theorem Database.Same.payment_get [Python] {db db' : Database} (h : db.Same db') (id : String) :
    SqlAlchemyPaymentRepository.get db' id = SqlAlchemyPaymentRepository.get db id := by
  unfold SqlAlchemyPaymentRepository.get
  rw [h.2]

theorem Database.same_markProcessed (db : Database) (i t c : String) :
    db.Same (SqlAlchemyProcessedEventRepository.markProcessed db i t c) := by
  unfold SqlAlchemyProcessedEventRepository.markProcessed
  split
  · exact Database.Same.refl db
  · exact ⟨rfl, rfl⟩

theorem read_eq {b : Backend} {fate : Fate} {α : Type} {w w' : World b} {x r : Except Exc α}
    (h : w.read x fate = some (r, w')) : w' = w := by
  cases fate <;> cases h <;> rfl

theorem call_eq {b : Backend} {fate : Fate} {w w' : World b} {r : Except Exc (Dict Json)}
    (h : w.call fate = some (r, w')) : w' = w := by
  cases fate <;> cases h <;> rfl

/-- A call that answered, answered what the environment chose. -/
theorem call_eq_ok {b : Backend} {fate : Fate} {w w' : World b} {response : Dict Json}
    (h : w.call fate = some (.ok response, w')) : fate = .answers response := by
  cases fate with
  | answers response' => rw [(Except.ok.inj (Prod.ext_iff.mp (Option.some.inj h)).1)]
  | proceeds => cases h
  | raises e committed => cases h

theorem write_eq {b : Backend} {fate : Fate} {w w' : World b} {store : b.Store} {r : Except Exc Unit}
    (h : w.write store fate = some (r, w')) : w' = w ∨ w' = { w with store := store } := by
  cases fate with
  | proceeds => cases h; exact Or.inr rfl
  | answers d => cases h
  | raises e committed =>
    cases h
    cases committed with
    | false => exact Or.inl rfl
    | true => exact Or.inr rfl

section Exec

variable [Python] {w w' : World sql} {o : Port} {fate : Fate} {r : Except Exc o.Res}

theorem publish_eq {b : Backend} {w w' : World b} {e : DomainEvent} {r : Except Exc Unit}
    (h : w.publish e fate = some (r, w')) :
    w'.store = w.store ∧ w'.issued = w.issued ∧ w'.handed = w.handed ++ [e] ∧
      (w'.accepted = w.accepted ++ [e] ∨ (w'.accepted = w.accepted ∧ ∃ x, r = .error x)) := by
  cases fate with
  | proceeds =>
    simp only [World.publish, eventToMessage_eq] at h
    cases h
    exact ⟨rfl, rfl, rfl, Or.inl rfl⟩
  | answers d => cases h
  | raises x committed =>
    cases h
    cases committed with
    | false => exact ⟨rfl, rfl, rfl, Or.inr ⟨rfl, x, rfl⟩⟩
    | true => exact ⟨rfl, rfl, rfl, Or.inl rfl⟩

/-- **What a step does to the two tables.** -/
theorem exec_cases (h : w.exec o fate = some (r, w')) :
    w.store.Same w'.store ∨
      (∃ q, o = .quoteSave q ∧ w'.store = SqlAlchemyQuoteRepository.save w.store q) ∨
      (∃ p, o = .paymentSave p ∧ w'.store = SqlAlchemyPaymentRepository.save w.store p) := by
  cases o with
  | quoteGet id => rw [read_eq h]; exact Or.inl (Database.Same.refl _)
  | paymentGet id => rw [read_eq h]; exact Or.inl (Database.Same.refl _)
  | isProcessed id => rw [read_eq h]; exact Or.inl (Database.Same.refl _)
  | sdk call => rw [call_eq h]; exact Or.inl (Database.Same.refl _)
  | quoteSave q =>
    rcases write_eq h with rfl | rfl
    · exact Or.inl (Database.Same.refl _)
    · exact Or.inr (Or.inl ⟨q, rfl, rfl⟩)
  | paymentSave p =>
    rcases write_eq h with rfl | rfl
    · exact Or.inl (Database.Same.refl _)
    · exact Or.inr (Or.inr ⟨p, rfl, rfl⟩)
  | quoteAssign q => cases fate <;> cases h; exact Or.inl (Database.Same.refl _)
  | paymentAssign p => cases fate <;> cases h; exact Or.inl (Database.Same.refl _)
  | publish e => rw [(publish_eq h).1]; exact Or.inl (Database.Same.refl _)
  | markProcessed i t c =>
    rcases write_eq h with rfl | rfl
    · exact Or.inl (Database.Same.refl _)
    · exact Or.inl (Database.same_markProcessed w.store i t c)

/-- **What a step does to the publisher.** -/
theorem exec_published (h : w.exec o fate = some (r, w')) :
    (w'.handed = w.handed ∧ w'.accepted = w.accepted) ∨
      (∃ e, o = .publish e ∧ w'.store = w.store ∧ w'.handed = w.handed ++ [e] ∧
        (w'.accepted = w.accepted ++ [e] ∨ w'.accepted = w.accepted)) := by
  cases o with
  | quoteGet id => rw [read_eq h]; exact Or.inl ⟨rfl, rfl⟩
  | paymentGet id => rw [read_eq h]; exact Or.inl ⟨rfl, rfl⟩
  | isProcessed id => rw [read_eq h]; exact Or.inl ⟨rfl, rfl⟩
  | sdk call => rw [call_eq h]; exact Or.inl ⟨rfl, rfl⟩
  | quoteSave q => rcases write_eq h with rfl | rfl <;> exact Or.inl ⟨rfl, rfl⟩
  | paymentSave p => rcases write_eq h with rfl | rfl <;> exact Or.inl ⟨rfl, rfl⟩
  | quoteAssign q => cases fate <;> cases h; exact Or.inl ⟨rfl, rfl⟩
  | paymentAssign p => cases fate <;> cases h; exact Or.inl ⟨rfl, rfl⟩
  | publish e =>
    obtain ⟨hstore, -, hhanded, hacc⟩ := publish_eq h
    refine Or.inr ⟨e, rfl, hstore, hhanded, ?_⟩
    rcases hacc with hacc | ⟨hacc, -⟩
    · exact Or.inl hacc
    · exact Or.inr hacc
  | markProcessed i t c => rcases write_eq h with rfl | rfl <;> exact Or.inl ⟨rfl, rfl⟩

theorem exec_issued (h : w.exec o fate = some (r, w')) : w'.issued = w.issued := by
  cases o with
  | quoteGet id => rw [read_eq h]
  | paymentGet id => rw [read_eq h]
  | isProcessed id => rw [read_eq h]
  | sdk call => rw [call_eq h]
  | quoteSave q => rcases write_eq h with rfl | rfl <;> rfl
  | paymentSave p => rcases write_eq h with rfl | rfl <;> rfl
  | quoteAssign q => cases fate <;> cases h; rfl
  | paymentAssign p => cases fate <;> cases h; rfl
  | publish e => exact (publish_eq h).2.1
  | markProcessed i t c => rcases write_eq h with rfl | rfl <;> rfl

/-- A read that answered, answered with what is stored. -/
theorem exec_quoteGet {id : String} {q : Quote}
    (h : w.exec (.quoteGet id) fate = some (.ok q, w')) :
    w' = w ∧ q.quoteId = id ∧ w.store.HasQuote q := by
  refine ⟨read_eq h, ?_⟩
  cases fate with
  | proceeds => exact Database.quote_get_eq_ok.mp (Prod.ext_iff.mp (Option.some.inj h)).1
  | answers d => cases h
  | raises e committed => cases h

theorem exec_paymentGet {id : String} {p : Payment}
    (h : w.exec (.paymentGet id) fate = some (.ok p, w')) :
    w' = w ∧ p.paymentId = id ∧ w.store.HasPayment p := by
  refine ⟨read_eq h, ?_⟩
  cases fate with
  | proceeds => exact Database.payment_get_eq_ok.mp (Prod.ext_iff.mp (Option.some.inj h)).1
  | answers d => cases h
  | raises e committed => cases h

theorem exec_quoteSave {q : Quote} {u : Unit}
    (h : w.exec (.quoteSave q) fate = some (.ok u, w')) :
    w'.store = SqlAlchemyQuoteRepository.save w.store q := by
  cases fate <;> cases h
  rfl

theorem exec_paymentSave {p : Payment} {u : Unit}
    (h : w.exec (.paymentSave p) fate = some (.ok u, w')) :
    w'.store = SqlAlchemyPaymentRepository.save w.store p := by
  cases fate <;> cases h
  rfl

/-- A publish that returned was accepted. -/
theorem exec_publish {e : DomainEvent} {u : Unit}
    (h : w.exec (.publish e) fate = some (.ok u, w')) : w'.accepted = w.accepted ++ [e] := by
  rcases (publish_eq h).2.2.2 with hacc | ⟨-, x, hx⟩
  · exact hacc
  · cases hx

end Exec

/-! ## Threads -/

variable [Python] {d : Deployment}

/-- A thread of the service that does its duties. -/
abbrev Dutiful (t : Thread (system sql d)) : Prop :=
  t.Follows (fun req : Request => Duty d.gateway req.supply req.command.checksStatus) fun req : Request => Ends req.command

/-- **Every thread of every run does its duties.** -/
theorem dutiful_next {c c' : Config (system sql d)} {a : Action (system sql d)}
    (hn : c.next a = some c') (h : ∀ t ∈ c.threads, Dutiful t) : ∀ t ∈ c'.threads, Dutiful t :=
  Config.follows_next (serve_duties d) hn h

theorem dutiful {ok : Config (system sql d) → Action (system sql d) → Prop}
    {c : Config (system sql d)} (H : Runs ok (start sql d) c) : ∀ t ∈ c.threads, Dutiful t :=
  H.always (serve_duties d) fun _ ht => absurd ht List.not_mem_nil

theorem duty_of_asks {c : Config (system sql d)} (h : ∀ t ∈ c.threads, Dutiful t) {i : Nat}
    {t : Thread (system sql d)} {o : Port} (ha : c.Asks i t o) :
    Duty d.gateway t.req.supply t.req.command.checksStatus t.history o := by
  obtain ⟨k, hk⟩ := ha.2
  exact ((h t ha.mem).at_step hk).1

/-- A request arrives: nothing but the issued ids changes. -/
theorem arrive_world {w w' : World sql} {req : Request} (h : (system sql d).arrive w req = some w') :
    w'.store = w.store ∧ w'.handed = w.handed ∧ w'.accepted = w.accepted := by
  simp only [system, World.arrive] at h
  split at h
  · rw [← Option.some.inj h]; exact ⟨rfl, rfl, rfl⟩
  · cases h

/-- **What an action does to the two tables**, and by what right. -/
theorem write_cases {c c' : Config (system sql d)} {a : Action (system sql d)}
    (hd : ∀ t ∈ c.threads, Dutiful t) (hn : c.next a = some c') :
    Database.Same c.state.store c'.state.store ∨
      (∃ i fate t q, a = .step i fate ∧ c.Asks i t (.quoteSave q) ∧
        c'.state.store = SqlAlchemyQuoteRepository.save c.state.store q ∧
        (CreatesQuote t.req.supply (standing t.history) q ∨ ApprovesQuote (standing t.history) q)) ∨
      (∃ i fate t p, a = .step i fate ∧ c.Asks i t (.paymentSave p) ∧
        c'.state.store = SqlAlchemyPaymentRepository.save c.state.store p ∧
        (OpensPayment d.gateway t.req.supply (standing t.history) p ∨
          SettlesPayment t.req.command.checksStatus (standing t.history) p)) := by
  rcases Config.state_next hn with ⟨req, _, harr⟩ | ⟨i, fate, t, o, k, r, ha, hi, hr, hx⟩ |
    ⟨i, e, _, hs⟩
  · rw [(arrive_world harr).1]
    exact Or.inl (Database.Same.refl _)
  · have hasks : c.Asks i t o := ⟨hi, k, hr⟩
    have hduty := duty_of_asks hd hasks
    rcases exec_cases hx with hsame | ⟨q, rfl, hsave⟩ | ⟨p, rfl, hsave⟩
    · exact Or.inl hsame
    · exact Or.inr (Or.inl ⟨i, fate, t, q, ha, hasks, hsave, hduty.2⟩)
    · exact Or.inr (Or.inr ⟨i, fate, t, p, ha, hasks, hsave, hduty.2⟩)
  · rw [hs]
    exact Or.inl (Database.Same.refl _)

/-- **What an action does to the publisher.** -/
theorem published_next {c c' : Config (system sql d)} {a : Action (system sql d)}
    (hn : c.next a = some c') :
    (c'.state.handed = c.state.handed ∧ c'.state.accepted = c.state.accepted) ∨
      ∃ i fate t e, a = .step i fate ∧ c.Asks i t (.publish e) ∧
        c'.state.store = c.state.store ∧ c'.state.handed = c.state.handed ++ [e] ∧
        (c'.state.accepted = c.state.accepted ++ [e] ∨ c'.state.accepted = c.state.accepted) := by
  rcases Config.state_next hn with ⟨req, _, harr⟩ | ⟨i, fate, t, o, k, r, ha, hi, hr, hx⟩ |
    ⟨i, e, _, hs⟩
  · exact Or.inl (arrive_world harr).2
  · rcases exec_published hx with hsame | ⟨e, rfl, hstore, hhanded, hacc⟩
    · exact Or.inl hsame
    · exact Or.inr ⟨i, fate, t, e, ha, ⟨hi, k, hr⟩, hstore, hhanded, hacc⟩
  · rw [hs]; exact Or.inl ⟨rfl, rfl⟩

end Billing

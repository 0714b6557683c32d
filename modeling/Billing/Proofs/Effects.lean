/-
  What a request that runs alone does to the SQL tables and to the event log.

  `Effect` lists all there is: nothing; a new quote and its event; a created quote approved, a payment
  opened for it, and two events; a payment settled, and its event.  `serve_effect` reads the case off
  the use cases (`Billing.Proofs.Alone`), and `Orderly` are the runs of the pool that are sequences of
  such requests.  What is said about those runs later is an induction over `Effect`.
-/
import Billing.Proofs.Alone
import Billing.Proofs.Steps

namespace Billing

open Py Atomic Program System

/-! ## Orderly runs -/

section Orderly

variable [Python] {b : Backend} {d : Deployment}

/-- Requests are served one at a time, each to its end, and everything works but for the gateway. -/
def orderly (c : Config (system b d)) (a : Action (system b d)) : Prop := sequentially calm c a

instance allowedDecidable (fate : (system b d).Choice) :
    ∀ t : Option (Thread (system b d)), Decidable (Thread.allowed calm fate t)
  | some ⟨_, _, .step o _⟩ => calmDecidable o fate
  | some ⟨_, _, .ret _⟩ => isTrue trivial
  | some ⟨_, _, .raise _⟩ => isTrue trivial
  | none => isTrue trivial

instance : ∀ (c : Config (system b d)) (a : Action (system b d)), Decidable (orderly c a)
  | c, .start _ => inferInstanceAs (Decidable (c.atRest = true))
  | c, .step i fate => allowedDecidable fate c.threads[i]?
  | _, .abort _ _ => isFalse id

end Orderly

/-! ## Effects -/

/-- A payment is settled: confirmed, or failed. -/
def Settling (p₀ p : Payment) (e : DomainEvent) : Prop :=
  (∃ stamp, p₀.confirm stamp = .ok (p, e)) ∨ ∃ reason stamp, p₀.fail reason stamp = .ok (p, e)

/-- **A decision settles a payment and announces it, or leaves it as it is.** -/
theorem ApplyPaymentStatusUseCase.decide_settling {payment p : Payment}
    {command : ApplyPaymentStatusCommand} {stamp : Stamp} {event : Option DomainEvent}
    {action : StatusAction} (h : decide payment command stamp = .ok (p, event, action)) :
    (∀ e, event = some e → Settling payment p e) ∧ (event = none → p = payment) := by
  rcases decide_eq_ok h with ⟨-, -, e, rfl, hconfirm⟩ | ⟨-, e, rfl, hfail⟩ | ⟨-, rfl, rfl, -⟩ |
    ⟨-, rfl, rfl⟩
  · refine ⟨fun e' he => ?_, fun hnone => absurd hnone (by simp)⟩
    obtain rfl := Option.some.inj he
    exact Or.inl ⟨_, hconfirm⟩
  · refine ⟨fun e' he => ?_, fun hnone => absurd hnone (by simp)⟩
    obtain rfl := Option.some.inj he
    exact Or.inr ⟨_, _, hfail⟩
  · exact ⟨fun e he => absurd he (by simp), fun _ => rfl⟩
  · exact ⟨fun e he => absurd he (by simp), fun _ => rfl⟩

/-- The event that announces a new quote. -/
def Quote.createdEvent (q : Quote) (stamp : Stamp) : DomainEvent :=
  q.event .quoteCreated [("quote_id", q.quoteId)] stamp

/-- **What a request does when it runs alone.** -/
inductive Effect [Python] (req : Request) (w w' : World sql) : Prop
  /-- Nothing, or it writes back what it read. -/
  | nothing (store : w.store.Same w'.store) (accepted : w'.accepted = w.accepted)
  /-- It creates a quote. -/
  | creates (q : Quote) (fresh : q.quoteId = req.supply.quoteId) (created : q.status = .created)
      (store : (SqlAlchemyQuoteRepository.save w.store q).Same w'.store)
      (accepted : w'.accepted = w.accepted ++ [q.createdEvent req.supply.first])
  /-- It approves a quote and opens its payment. -/
  | approves (q : Quote) (p : Payment) (preference : PaymentPreference) (stored : w.store.HasQuote q)
      (created : q.status = .created) (opened : p = q.opened req.supply.paymentId preference)
      (store : (SqlAlchemyPaymentRepository.save
        (SqlAlchemyQuoteRepository.save w.store q.asApproved) p).Same w'.store)
      (accepted : w'.accepted = w.accepted ++ [q.approvedEvent req.supply.first] ++
        [p.openedEvent preference.preferenceId req.supply.second])
  /-- It settles a payment; one that has failed is only failed again by hand. -/
  | settles (p₀ p : Payment) (e : DomainEvent) (stored : w.store.HasPayment p₀)
      (settled : Settling p₀ p e)
      (again : p₀.status = .failed → ∃ reason, req.command = .failPayment p₀.paymentId reason)
      (store : (SqlAlchemyPaymentRepository.save w.store p).Same w'.store)
      (accepted : w'.accepted = w.accepted ++ [e])

section Serve

variable [Python] {d : Deployment} {req : Request} {w w' : World sql}

theorem Effect.refl (w : World sql) : Effect req w w := .nothing (Database.Same.refl _) rfl

/-! ## The use cases -/

theorem effect_of_create {command : CreateQuoteCommand} {res : Except Exc Quote}
    (h : (res, w') = CreateQuoteUseCase.outcome command req.supply w) : Effect req w w' := by
  unfold CreateQuoteUseCase.outcome at h
  cases hopening : CreateQuoteUseCase.opening command req.supply with
  | error e =>
    rw [hopening] at h
    obtain ⟨-, rfl⟩ := Prod.mk.inj h
    exact .refl w'
  | ok opened =>
    obtain ⟨q, e⟩ := opened
    rw [hopening] at h
    obtain ⟨-, rfl⟩ := Prod.mk.inj h
    obtain ⟨hid, -, -, -, hcreated, rfl⟩ := CreateQuoteUseCase.opening_eq_ok hopening
    exact .creates q hid hcreated (Database.Same.refl _) rfl

theorem effect_of_handle {m : EventMessage} {res : Except Exc String}
    (h : (res, w') = d.handler.outcome m req.supply w) : Effect req w w' := by
  unfold BillingIntegrationEventHandler.outcome at h
  split at h
  · obtain ⟨-, rfl⟩ := Prod.mk.inj h
    exact .refl w'
  · split at h
    · obtain ⟨-, rfl⟩ := Prod.mk.inj h
      exact .refl w'
    · split at h
      · rename_i q e hopening
        obtain ⟨-, rfl⟩ := Prod.mk.inj h
        obtain ⟨command, -, hopen⟩ := BillingIntegrationEventHandler.opening_eq_ok hopening
        obtain ⟨hid, -, -, -, hcreated, rfl⟩ := CreateQuoteUseCase.opening_eq_ok hopen
        exact .creates q hid hcreated (Database.same_markProcessed _ _ _ _) rfl
      · obtain ⟨-, rfl⟩ := Prod.mk.inj h
        exact .refl w'

theorem effect_of_approve {quoteId : String} {res : Except Exc Payment}
    (h : (system sql d).Yields calm (ApproveQuoteUseCase.execute d.gateway quoteId req.supply)
      w res w') : Effect req w w' := by
  cases res with
  | error e =>
    rcases approve_raises h with ⟨rfl, -⟩ | ⟨q, -, -, rfl⟩
    · exact .refl w'
    · exact .nothing (Database.Same.refl _) rfl
  | ok p =>
    obtain ⟨q, preference, hget, hcreated, hopened, rfl⟩ := approve_returned h
    obtain ⟨-, hstored⟩ := Database.quote_get_eq_ok.mp hget
    exact .approves q p preference hstored hcreated hopened (Database.Same.refl _) rfl

/-- A payment that was read and settled. -/
theorem effect_of_settled {paymentId : String} {p₀ p : Payment} {e : DomainEvent}
    (hget : SqlAlchemyPaymentRepository.get w.store paymentId = .ok p₀) (hsettled : Settling p₀ p e)
    (hagain : p₀.status = .failed → ∃ reason, req.command = .failPayment paymentId reason) :
    Effect req w (w.settled p e) := by
  obtain ⟨rfl, hstored⟩ := Database.payment_get_eq_ok.mp hget
  exact .settles p₀ p e hstored hsettled hagain (Database.Same.refl _) rfl

theorem effect_of_settling {paymentId : String} {settle : Payment → Except Exc (Payment × DomainEvent)}
    {res : Except Exc Payment} (h : (res, w') = w.settling paymentId settle)
    (hsettle : ∀ p₀ p e, settle p₀ = .ok (p, e) → Settling p₀ p e ∧
      (p₀.status = .failed → ∃ reason, req.command = .failPayment paymentId reason)) :
    Effect req w w' := by
  unfold World.settling at h
  split at h
  · obtain ⟨-, rfl⟩ := Prod.mk.inj h
    exact .refl w'
  · rename_i p₀ hget
    split at h
    · obtain ⟨-, rfl⟩ := Prod.mk.inj h
      exact .refl w'
    · rename_i p e hx
      obtain ⟨-, rfl⟩ := Prod.mk.inj h
      obtain ⟨hsettled, hagain⟩ := hsettle p₀ p e hx
      exact effect_of_settled hget hsettled hagain

theorem effect_of_apply {command : ApplyPaymentStatusCommand}
    {res : Except Exc ApplyPaymentStatusResult}
    (h : (res, w') = ApplyPaymentStatusUseCase.outcome command req.supply w) : Effect req w w' := by
  unfold ApplyPaymentStatusUseCase.outcome at h
  split at h
  · obtain ⟨-, rfl⟩ := Prod.mk.inj h
    exact .refl w'
  · rename_i p₀ hget
    split at h
    · obtain ⟨-, rfl⟩ := Prod.mk.inj h
      exact .refl w'
    · rename_i decision hdecide
      obtain ⟨p, event, action⟩ := decision
      obtain ⟨hsettles, hsame⟩ := ApplyPaymentStatusUseCase.decide_settling hdecide
      cases event with
      | none =>
        -- the payment is written back as it was read
        obtain ⟨-, rfl⟩ := Prod.mk.inj h
        obtain ⟨-, hstored⟩ := Database.payment_get_eq_ok.mp hget
        rw [← hsame rfl] at hstored
        exact .nothing ⟨rfl, hstored.save_payments⟩ rfl
      | some e =>
        obtain ⟨-, rfl⟩ := Prod.mk.inj h
        have hopen := ApplyPaymentStatusUseCase.decide_settles hdecide
        exact effect_of_settled hget (hsettles e rfl) fun hfailed => absurd hfailed hopen

theorem effect_of_sync {paymentId : String} {res : Except Exc SyncPaymentStatusResult}
    (h : (system sql d).Yields calm (SyncPaymentStatusUseCase.execute d.gateway paymentId req.supply)
      w res w') : Effect req w w' := by
  have halone := sync_alone.mp h
  cases hget : sql.paymentGet w.store paymentId with
  | error e =>
    rw [hget] at halone
    obtain ⟨-, rfl⟩ := halone
    exact .refl w'
  | ok p₀ =>
    rw [hget] at halone
    obtain ⟨r, w₁, hcall, hrest⟩ := halone
    obtain ⟨rfl, -⟩ := yields_call hcall
    cases r with
    | error e =>
      obtain ⟨-, rfl⟩ := hrest
      exact .refl w'
    | ok status =>
      obtain ⟨r', happly, -⟩ := hrest
      exact effect_of_apply happly

/-! ## Requests -/

/-- Steps issue no ids. -/
theorem yields_issued {ok : Port → Fate → Prop} {α : Type} {p : Service α} {res : Except Exc α}
    (h : (system sql d).Yields ok p w res w') : w'.issued = w.issued := by
  induction p generalizing w with
  | ret a => rw [h.2]
  | raise e => rw [h.2]
  | step o k ih =>
    obtain ⟨fate, r, w₁, -, hx, hrest⟩ := h
    rw [ih r hrest, exec_issued hx]

/-- **What a request that runs alone does.** -/
theorem serve_effect {res : Except Exc Response}
    (h : (system sql d).Yields calm (d.serve req) w res w') : Effect req w w' := by
  obtain ⟨command, supply⟩ := req
  cases command with
  | createQuote command =>
    obtain ⟨r, hr, -⟩ := yields_map.mp h
    exact effect_of_create (create_alone.mp hr)
  | approveQuote quoteId =>
    obtain ⟨r, hr, -⟩ := yields_map.mp h
    exact effect_of_approve hr
  | confirmPayment paymentId =>
    obtain ⟨r, hr, -⟩ := yields_map.mp h
    refine effect_of_settling (confirm_alone.mp hr) fun p₀ p e hconfirm => ?_
    refine ⟨Or.inl ⟨_, hconfirm⟩, fun hfailed => ?_⟩
    rw [(Payment.confirm_eq_ok hconfirm).1] at hfailed
    cases hfailed
  | failPayment paymentId reason =>
    obtain ⟨r, hr, -⟩ := yields_map.mp h
    refine effect_of_settling (fail_alone.mp hr) fun p₀ p e hfail => ?_
    exact ⟨Or.inr ⟨_, _, hfail⟩, fun _ => ⟨reason, rfl⟩⟩
  | applyPaymentStatus command =>
    obtain ⟨r, hr, -⟩ := yields_map.mp h
    exact effect_of_apply (apply_alone.mp hr)
  | syncPaymentStatus paymentId =>
    obtain ⟨r, hr, -⟩ := yields_map.mp h
    exact effect_of_sync hr
  | handle m =>
    obtain ⟨r, hr, -⟩ := yields_map.mp h
    exact effect_of_handle (handle_alone.mp hr)

/-- The store and the log that a request finds are those before it arrived, and its ids are new. -/
theorem serves_effect {P : World sql → Request → Prop}
    (h : (system sql d).Serves calm P w w') : ∃ req, P w req ∧ req.supply.Fresh w.issued ∧
      w'.issued = req.supply.ids ++ w.issued ∧ Effect req w w' := by
  obtain ⟨req, w₁, res, hP, harr, hyields⟩ := h
  simp only [system, World.arrive] at harr
  split at harr
  · rename_i hfresh
    obtain rfl := Option.some.inj harr
    have hissued := yields_issued hyields
    refine ⟨req, hP, hfresh, hissued, ?_⟩
    cases serve_effect hyields with
    | nothing store accepted => exact .nothing store accepted
    | creates q fresh created store accepted => exact .creates q fresh created store accepted
    | approves q p preference stored created opened store accepted =>
      exact .approves q p preference stored created opened store accepted
    | settles p₀ p e stored settled again store accepted =>
      exact .settles p₀ p e stored settled again store accepted
  · cases harr

end Serve

end Billing

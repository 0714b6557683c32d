/-
  What a request does when it runs alone and everything works.

  One lemma per use case, over both stores: the exact condition for a result and the world that it
  leaves (`create_alone`, `handle_alone`, `settle_alone`, `apply_alone`; approvals are
  `approve_created` and `approve_refused`).  Runs of the pool that serve requests one at a time, and
  `World.run`, are both put together from these.
-/
import Billing.Session
import Billing.Proofs.Handling
import Billing.Proofs.Refusal

namespace Billing

open Py Atomic Program System

section Alone

variable [Python] {b : Backend} {d : Deployment} {α β : Type}

/-! ## Steps -/

omit [Python] in
theorem calm_fate (answers : SdkAnswers) (o : Port) : calm o (answers.fate o) := by
  cases o with
  | sdk call => exact Or.inl rfl
  | _ => exact Or.inr rfl

/-- **What is done in one go is a calm run.** -/
theorem run_calm (answers : SdkAnswers) (p : Service α) (w : World b) :
    (system b d).Yields calm p w (w.run answers p).1 (w.run answers p).2 :=
  run_yields answers (calm_fate answers) p w

theorem exec_publish_proceeds (w : World b) (e : DomainEvent) : w.exec (.publish e) .proceeds =
    some (.ok (), { w with handed := w.handed ++ [e], accepted := w.accepted ++ [e] }) := by
  simp only [World.exec, World.publish, eventToMessage_eq]

/-- The rule of a pure part that may raise. -/
theorem yields_ofExcept {x : Except Exc α} {f : α → Service β} {w w' : World b}
    {res : Except Exc β} :
    (system b d).Yields calm (ofExcept x >>= f) w res w' ↔
      match x with
      | .ok a => (system b d).Yields calm (f a) w res w'
      | .error e => res = .error e ∧ w' = w := by
  cases x with
  | ok a => exact Iff.rfl
  | error e => exact Iff.rfl

/-- The rule of a program whose result is wrapped up. -/
theorem yields_map {p : Service α} {f : α → β} {w w' : World b} {res : Except Exc β} :
    (system b d).Yields calm (p >>= fun a => pure (f a)) w res w' ↔
      ∃ r, (system b d).Yields calm p w r w' ∧ res = r.map f := by
  refine yields_bind.trans ?_
  constructor
  · rintro ⟨r, w₁, hp, hrest⟩
    cases r with
    | ok a => obtain ⟨rfl, rfl⟩ := hrest; exact ⟨.ok a, hp, rfl⟩
    | error e => obtain ⟨rfl, rfl⟩ := hrest; exact ⟨.error e, hp, rfl⟩
  · rintro ⟨r, hp, rfl⟩
    refine ⟨r, w', hp, ?_⟩
    cases r with
    | ok a => exact ⟨rfl, rfl⟩
    | error e => exact ⟨rfl, rfl⟩

/-! ## Creating a quote -/

/-- The world after a quote was saved and announced. -/
def World.opened (w : World b) (q : Quote) (e : DomainEvent) : World b :=
  { w with
    store := b.quoteSave w.store q
    handed := w.handed ++ [e]
    accepted := w.accepted ++ [e] }

/-- What a creation comes to. -/
def CreateQuoteUseCase.outcome (command : CreateQuoteCommand) (supply : Supply) (w : World b) :
    Except Exc Quote × World b :=
  match opening command supply with
  | .ok (q, e) => (.ok q, w.opened q e)
  | .error e => (.error e, w)

theorem create_alone {command : CreateQuoteCommand} {supply : Supply} {w w' : World b}
    {res : Except Exc Quote} :
    (system b d).Yields calm (CreateQuoteUseCase.execute command supply) w res w' ↔
      (res, w') = CreateQuoteUseCase.outcome command supply w := by
  rw [CreateQuoteUseCase.execute_eq, yields_ofExcept]
  unfold CreateQuoteUseCase.outcome
  cases CreateQuoteUseCase.opening command supply with
  | error e => exact Prod.mk_inj.symm
  | ok opened =>
    obtain ⟨q, e⟩ := opened
    simp only
    rw [yields_calm rfl rfl]
    show (system b d).Yields _ _ _ _ _ ↔ _
    rw [yields_calm rfl (exec_publish_proceeds _ _)]
    exact Prod.mk_inj.symm

/-! ## Handling a message -/

/-- What the handling of a message comes to. -/
def BillingIntegrationEventHandler.outcome (self : BillingIntegrationEventHandler) (m : EventMessage)
    (supply : Supply) (w : World b) : Except Exc String × World b :=
  if b.isProcessed w.store m.eventId then (.ok "skipped", w)
  else if m.eventType ≠ "OS_OPENED" then (.ok "ignored", w)
  else
    match self.opening m supply with
    | .ok (q, e) =>
      let w := w.opened q e
      (.ok "processed", { w with
        store := b.markProcessed w.store m.eventId m.eventType m.correlationId })
    | .error e => (.error e, w)

theorem handle_alone {self : BillingIntegrationEventHandler} {m : EventMessage} {supply : Supply}
    {w w' : World b} {res : Except Exc String} :
    (system b d).Yields calm (self.handle m supply) w res w' ↔
      (res, w') = self.outcome m supply w := by
  rw [BillingIntegrationEventHandler.handle_eq, yields_calm rfl rfl]
  show (system b d).Yields calm (self.answering m supply (b.isProcessed w.store m.eventId)) w res w' ↔ _
  unfold BillingIntegrationEventHandler.answering BillingIntegrationEventHandler.outcome
  cases b.isProcessed w.store m.eventId with
  | true => exact Prod.mk_inj.symm
  | false =>
    simp only [Bool.false_eq_true, if_false]
    by_cases htype : m.eventType ≠ "OS_OPENED"
    · rw [if_pos htype, if_pos htype]
      exact Prod.mk_inj.symm
    · rw [if_neg htype, if_neg htype, yields_ofExcept]
      cases self.opening m supply with
      | error e => exact Prod.mk_inj.symm
      | ok opened =>
        obtain ⟨q, e⟩ := opened
        simp only
        unfold BillingIntegrationEventHandler.settling
        rw [yields_calm rfl rfl]
        show (system b d).Yields _ _ _ _ _ ↔ _
        rw [yields_calm rfl (exec_publish_proceeds _ _)]
        show (system b d).Yields _ _ _ _ _ ↔ _
        rw [yields_calm rfl rfl]
        exact Prod.mk_inj.symm

/-! ## Settling a payment -/

/-- The world after a payment was settled and its outcome announced. -/
def World.settled (w : World b) (p : Payment) (e : DomainEvent) : World b :=
  { w with
    store := b.paymentSave (b.paymentAssign w.store p) p
    handed := w.handed ++ [e]
    accepted := w.accepted ++ [e] }

/-- What the settling of a payment by hand comes to. -/
def World.settling (w : World b) (paymentId : String)
    (settle : Payment → Except Exc (Payment × DomainEvent)) : Except Exc Payment × World b :=
  match b.paymentGet w.store paymentId with
  | .error e => (.error e, w)
  | .ok p₀ =>
    match settle p₀ with
    | .error e => (.error e, w)
    | .ok (p, e) => (.ok p, w.settled p e)

/-- Write, save, announce. -/
theorem settle_rest {p : Payment} {e : DomainEvent} {f : Service α} {w w' : World b}
    {res : Except Exc α} :
    (system b d).Yields calm (do
      p.assign
      PaymentRepository.save p
      EventPublisher.publish e
      f) w res w' ↔ (system b d).Yields calm f (w.settled p e) res w' := by
  rw [yields_calm rfl rfl]
  show (system b d).Yields _ _ _ _ _ ↔ _
  rw [yields_calm rfl rfl]
  show (system b d).Yields _ _ _ _ _ ↔ _
  rw [yields_calm rfl (exec_publish_proceeds _ _)]
  exact Iff.rfl

/-- The rule of a use case that reads a payment and goes on with what it makes of it. -/
theorem yields_get {paymentId : String} {f : Payment → Except Exc α} {g : α → Service β}
    {w w' : World b} {res : Except Exc β} :
    (system b d).Yields calm (PaymentRepository.get paymentId >>= fun p => ofExcept (f p) >>= g)
        w res w' ↔
      match b.paymentGet w.store paymentId with
      | .error e => res = .error e ∧ w' = w
      | .ok p =>
        match f p with
        | .ok a => (system b d).Yields calm (g a) w res w'
        | .error e => res = .error e ∧ w' = w := by
  rw [yields_calm rfl rfl]
  cases b.paymentGet w.store paymentId with
  | error e => exact Iff.rfl
  | ok p => exact yields_ofExcept

theorem settle_alone {paymentId : String} {settle : Payment → Except Exc (Payment × DomainEvent)}
    {w w' : World b} {res : Except Exc Payment} :
    (system b d).Yields calm (do
      let payment ← PaymentRepository.get paymentId
      let (payment, event) ← ofExcept (settle payment)
      payment.assign
      PaymentRepository.save payment
      EventPublisher.publish event
      return payment) w res w' ↔ (res, w') = w.settling paymentId settle := by
  refine yields_get.trans ?_
  unfold World.settling
  cases b.paymentGet w.store paymentId with
  | error e => exact Prod.mk_inj.symm
  | ok p₀ =>
    simp only
    cases settle p₀ with
    | error e => exact Prod.mk_inj.symm
    | ok settled =>
      obtain ⟨p, e⟩ := settled
      refine settle_rest.trans ?_
      exact Prod.mk_inj.symm

theorem confirm_alone {paymentId : String} {supply : Supply} {w w' : World b}
    {res : Except Exc Payment} :
    (system b d).Yields calm (ConfirmPaymentUseCase.execute paymentId supply) w res w' ↔
      (res, w') = w.settling paymentId fun p => p.confirm supply.first := settle_alone

theorem fail_alone {paymentId reason : String} {supply : Supply} {w w' : World b}
    {res : Except Exc Payment} :
    (system b d).Yields calm (FailPaymentUseCase.execute paymentId reason supply) w res w' ↔
      (res, w') = w.settling paymentId fun p => p.fail reason supply.first := settle_alone

/-- What a decision about a payment comes to. -/
def World.applying (w : World b) :
    Payment × Option DomainEvent × StatusAction → Except Exc ApplyPaymentStatusResult × World b
  | (p, none, action) => (.ok ⟨p, action, none⟩, { w with store := b.paymentSave w.store p })
  | (p, some e, action) => (.ok ⟨p, action, some e.eventType⟩, w.settled p e)

/-- What a status comes to. -/
def ApplyPaymentStatusUseCase.outcome (command : ApplyPaymentStatusCommand) (supply : Supply)
    (w : World b) : Except Exc ApplyPaymentStatusResult × World b :=
  match b.paymentGet w.store command.paymentId with
  | .error e => (.error e, w)
  | .ok p₀ =>
    match decide p₀ command supply.first with
    | .error e => (.error e, w)
    | .ok decision => w.applying decision

theorem applying_alone {decision : Payment × Option DomainEvent × StatusAction} {w w' : World b}
    {res : Except Exc ApplyPaymentStatusResult} :
    (system b d).Yields calm (ApplyPaymentStatusUseCase.applying decision) w res w' ↔
      (res, w') = w.applying decision := by
  obtain ⟨p, event, action⟩ := decision
  cases event with
  | none =>
    show (system b d).Yields calm (PaymentRepository.save p >>= _) w res w' ↔ _
    rw [yields_calm rfl rfl]
    exact Prod.mk_inj.symm
  | some e =>
    refine settle_rest.trans ?_
    exact Prod.mk_inj.symm

theorem apply_alone {command : ApplyPaymentStatusCommand} {supply : Supply} {w w' : World b}
    {res : Except Exc ApplyPaymentStatusResult} :
    (system b d).Yields calm (ApplyPaymentStatusUseCase.execute command supply) w res w' ↔
      (res, w') = ApplyPaymentStatusUseCase.outcome command supply w := by
  rw [ApplyPaymentStatusUseCase.execute_eq]
  refine yields_get.trans ?_
  unfold ApplyPaymentStatusUseCase.outcome
  cases b.paymentGet w.store command.paymentId with
  | error e => exact Prod.mk_inj.symm
  | ok p₀ =>
    simp only
    cases ApplyPaymentStatusUseCase.decide p₀ command supply.first with
    | error e => exact Prod.mk_inj.symm
    | ok decision => exact applying_alone

/-- The answer of a synchronisation, put together from the provider's and the decision's. -/
def SyncPaymentStatusUseCase.result (status : PaymentProviderStatus)
    (result : ApplyPaymentStatusResult) : SyncPaymentStatusResult :=
  ⟨result.payment, status.providerPaymentId, status.status, status.statusDetail, result.action,
    result.publishedEventType⟩

/-- **A synchronisation** asks for the status of a stored payment and applies the answer. -/
theorem sync_alone {gateway : PaymentGateway} {paymentId : String} {supply : Supply} {w w' : World b}
    {res : Except Exc SyncPaymentStatusResult} :
    (system b d).Yields calm (SyncPaymentStatusUseCase.execute gateway paymentId supply) w res w' ↔
      match b.paymentGet w.store paymentId with
      | .error e => res = .error e ∧ w' = w
      | .ok p₀ => ∃ r w₁,
          (system b d).Yields calm (PaymentGateway.call (gateway.getPaymentStatus p₀)) w r w₁ ∧
          match r with
          | .error e => res = .error e ∧ w' = w₁
          | .ok status => ∃ r', (r', w') = ApplyPaymentStatusUseCase.outcome
              ⟨paymentId, status.status, status.statusDetail⟩ supply w₁ ∧
              res = r'.map (SyncPaymentStatusUseCase.result status) := by
  unfold SyncPaymentStatusUseCase.execute
  rw [yields_calm rfl rfl]
  cases b.paymentGet w.store paymentId with
  | error e => exact Iff.rfl
  | ok p₀ =>
    refine yields_bind.trans ?_
    refine exists_congr fun r => exists_congr fun w₁ => and_congr_right fun _ => ?_
    cases r with
    | error e => exact Iff.rfl
    | ok status =>
      exact yields_map.trans (exists_congr fun r' => and_congr_left' apply_alone)

/-! ## In one go -/

theorem run_eq_of_yields {answers : SdkAnswers} {p : Service α} {w : World b}
    {x : Except Exc α × World b}
    (h : ∀ res w', (system b d).Yields calm p w res w' ↔ (res, w') = x) : w.run answers p = x :=
  (h _ _).mp (run_calm answers p w)

end Alone

section Runs

variable [Python] {b : Backend} {answers : SdkAnswers} {gateway : PaymentGateway}
  {quoteId paymentId : String} {supply : Supply}

theorem run_create (w : World b) (command : CreateQuoteCommand) (supply : Supply) :
    w.run answers (CreateQuoteUseCase.execute command supply) =
      CreateQuoteUseCase.outcome command supply w :=
  run_eq_of_yields (d := Sample.mock) fun _ _ => create_alone

theorem run_handle (w : World b) (handler : BillingIntegrationEventHandler) (m : EventMessage)
    (supply : Supply) : w.run answers (handler.handle m supply) = handler.outcome m supply w :=
  run_eq_of_yields (d := Sample.mock) fun _ _ => handle_alone

theorem run_apply (w : World b) (command : ApplyPaymentStatusCommand) (supply : Supply) :
    w.run answers (ApplyPaymentStatusUseCase.execute command supply) =
      ApplyPaymentStatusUseCase.outcome command supply w :=
  run_eq_of_yields (d := Sample.mock) fun _ _ => apply_alone

/-- What an approval comes to. -/
def ApproveQuoteUseCase.outcome (gateway : PaymentGateway) (answers : SdkAnswers) (quoteId : String)
    (supply : Supply) (w : World b) : Except Exc Payment × World b :=
  match b.quoteGet w.store quoteId with
  | .error e => (.error e, w)
  | .ok q =>
    if q.status ≠ .created then (.error (.valueError "Only created quotes can be approved"), w)
    else
      match answers.given (gateway.createCheckoutPreference supply.idempotencyKey q.quoteId
        q.serviceOrderId q.total) with
      | .error e => (.error e, w.approving q)
      | .ok preference =>
        let p := q.opened supply.paymentId preference
        (.ok p, (w.approving q).approved q.asApproved p (q.approvedEvent supply.first)
          (p.openedEvent preference.preferenceId supply.second))

/-- The part after the gateway's answer. -/
theorem run_approve_rest {q : Quote} {p : Payment} {e e' : DomainEvent} (w : World b) :
    w.run answers (do
      p.assign
      QuoteRepository.save q
      PaymentRepository.save p
      EventPublisher.publish e
      EventPublisher.publish e'
      return p) = (.ok p, w.approved q p e e') := by
  have hpublish : ∀ (w : World b) (e : DomainEvent), w.does answers (.publish e) =
      (.ok (), { w with handed := w.handed ++ [e], accepted := w.accepted ++ [e] }) := by
    intro w e
    exact Option.some.inj ((w.exec_does answers _).symm.trans (exec_publish_proceeds w e))
  rw [run_step]
  show World.run answers _ _ = _
  rw [run_step]
  show World.run answers _ _ = _
  rw [run_step]
  show World.run answers _ _ = _
  rw [run_step, hpublish]
  show World.run answers _ _ = _
  rw [run_step, hpublish]
  rfl

theorem run_approve (w : World b) :
    w.run answers (ApproveQuoteUseCase.execute gateway quoteId supply) =
      ApproveQuoteUseCase.outcome gateway answers quoteId supply w := by
  unfold ApproveQuoteUseCase.execute ApproveQuoteUseCase.outcome
  rw [run_step]
  show World.andThen answers _ (b.quoteGet w.store quoteId, w) = _
  cases b.quoteGet w.store quoteId with
  | error e => rfl
  | ok q =>
    show w.run answers (ofExcept (q.approve supply.first) >>= _) = _
    by_cases hcreated : q.status ≠ .created
    · have happrove : q.approve supply.first =
          .error (.valueError "Only created quotes can be approved") := if_pos hcreated
      rw [happrove, ofExcept_error, raise_bind]
      exact (if_pos hcreated).symm
    · have happrove : q.approve supply.first = .ok (q.asApproved, q.approvedEvent supply.first) := by
        unfold Quote.approve
        rw [if_neg hcreated]
        rfl
      rw [happrove, ofExcept_ok, ret_bind]
      simp only [if_neg hcreated]
      rw [run_step]
      -- a payment of an approved quote can be made, and waits for its preference
      show World.run answers ((PaymentGateway.call (gateway.createCheckoutPreference
        supply.idempotencyKey q.quoteId q.serviceOrderId q.total) >>= _) >>= _) (w.approving q) = _
      rw [Program.bind_assoc, run_bind, run_call]
      cases answers.given (gateway.createCheckoutPreference supply.idempotencyKey q.quoteId
        q.serviceOrderId q.total) with
      | error e => rfl
      | ok preference =>
        show World.run answers (((q.opened supply.paymentId preference).assign >>= _) >>= _)
          (w.approving q) = _
        rw [Program.bind_assoc]
        exact run_approve_rest (w.approving q)

/-- What a synchronisation comes to. -/
def SyncPaymentStatusUseCase.outcome (gateway : PaymentGateway) (answers : SdkAnswers)
    (paymentId : String) (supply : Supply) (w : World b) :
    Except Exc SyncPaymentStatusResult × World b :=
  match b.paymentGet w.store paymentId with
  | .error e => (.error e, w)
  | .ok p =>
    match answers.given (gateway.getPaymentStatus p) with
    | .error e => (.error e, w)
    | .ok status =>
      let (result, w) := ApplyPaymentStatusUseCase.outcome
        ⟨paymentId, status.status, status.statusDetail⟩ supply w
      (result.map (SyncPaymentStatusUseCase.result status), w)

end Runs

end Billing

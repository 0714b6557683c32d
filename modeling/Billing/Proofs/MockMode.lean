/-
  In mock mode the two stores cannot be told apart.

  The in-memory repositories hand out the stored objects and the SQL ones hand out copies, but in mock
  mode every attribute write is followed by a save of the same object, with nothing in between that
  could raise.  So over any lawful backend (`Billing.Ledger`) the outcome of a call is a function of
  the ledger, and `Twin` worlds, which have the same ledger and the same events up to stamps, stay
  twins: `serve_twins` for each use case, `session_twins` for a whole session.
-/
import Billing.Proofs.Alone
import Billing.Ledger

namespace Billing

open Py Atomic Program System

/-! ## Up to stamps -/

/-- What an event says, but for its id and its time. -/
def DomainEvent.content (e : DomainEvent) : EventType × String × Dict String :=
  (e.eventType, e.correlationId, e.payload)

/-- Supplies with the same ids of quotes and payments. -/
structure Supply.Alike (s s' : Supply) : Prop where
  quoteId : s.quoteId = s'.quoteId
  paymentId : s.paymentId = s'.paymentId
  idempotencyKey : s.idempotencyKey = s'.idempotencyKey

/-- The same exception, or the same object and the same event but for its stamp. -/
def SameButStamp {α : Type} (x x' : Except Exc (α × DomainEvent)) : Prop :=
  (∃ e, x = .error e ∧ x' = .error e) ∨
    ∃ a e e', x = .ok (a, e) ∧ x' = .ok (a, e') ∧ e.content = e'.content

theorem Payment.confirm_same (p : Payment) (stamp stamp' : Stamp) :
    SameButStamp (p.confirm stamp) (p.confirm stamp') := by
  unfold Payment.confirm
  by_cases hs : p.status ≠ .pending
  · rw [if_pos hs, if_pos hs]
    exact Or.inl ⟨_, rfl, rfl⟩
  · rw [if_neg hs, if_neg hs]
    exact Or.inr ⟨_, _, _, rfl, rfl, rfl⟩

theorem Payment.fail_same (p : Payment) (reason : String) (stamp stamp' : Stamp) :
    SameButStamp (p.fail reason stamp) (p.fail reason stamp') := by
  unfold Payment.fail
  by_cases hs : p.status = .confirmed
  · rw [if_pos hs, if_pos hs]
    exact Or.inl ⟨_, rfl, rfl⟩
  · rw [if_neg hs, if_neg hs]
    exact Or.inr ⟨_, _, _, rfl, rfl, rfl⟩

theorem CreateQuoteUseCase.opening_same (command : CreateQuoteCommand) {s s' : Supply}
    (h : s.Alike s') : SameButStamp (opening command s) (opening command s') := by
  unfold opening
  cases Money.make command.amount Money.defaultCurrency with
  | error e => exact Or.inl ⟨e, rfl, rfl⟩
  | ok total =>
    simp only [ok_bind]
    unfold Quote.create
    by_cases hso : strip command.serviceOrderId = ""
    · rw [if_pos hso, if_pos hso]
      exact Or.inl ⟨_, rfl, rfl⟩
    · rw [if_neg hso, if_neg hso]
      by_cases hitems : command.items = []
      · rw [if_pos hitems, if_pos hitems]
        exact Or.inl ⟨_, rfl, rfl⟩
      · rw [if_neg hitems, if_neg hitems, h.quoteId]
        exact Or.inr ⟨_, _, _, rfl, rfl, rfl⟩

theorem BillingIntegrationEventHandler.opening_same [Python] (self : BillingIntegrationEventHandler)
    (m : EventMessage) {s s' : Supply} (h : s.Alike s') :
    SameButStamp (self.opening m s) (self.opening m s') := by
  unfold opening
  cases self.commanding m with
  | error e => exact Or.inl ⟨e, rfl, rfl⟩
  | ok command => exact CreateQuoteUseCase.opening_same command h

/-- A decision, seen without stamps. -/
def unstamped (decision : Payment × Option DomainEvent × StatusAction) :
    Payment × Option (EventType × String × Dict String) × StatusAction :=
  (decision.1, decision.2.1.map DomainEvent.content, decision.2.2)

theorem settled_unstamped {x x' : Except Exc (Payment × DomainEvent)} (h : SameButStamp x x')
    (action : StatusAction) :
    (x.map fun (p, e) => (p, some e, action)).map unstamped =
      (x'.map fun (p, e) => (p, some e, action)).map unstamped := by
  rcases h with ⟨e, rfl, rfl⟩ | ⟨p, e, e', rfl, rfl, hcontent⟩
  · rfl
  · show Except.ok (p, some e.content, action) = Except.ok (p, some e'.content, action)
    rw [hcontent]

theorem ApplyPaymentStatusUseCase.decide_same (p : Payment) (command : ApplyPaymentStatusCommand)
    (stamp stamp' : Stamp) :
    (decide p command stamp).map unstamped = (decide p command stamp').map unstamped := by
  unfold decide
  simp only
  split
  · split
    · rfl
    · split
      · rfl
      · exact settled_unstamped (p.confirm_same stamp stamp') .confirmed
  · split
    · split
      · rfl
      · split
        · rfl
        · exact settled_unstamped (p.fail_same command.reason stamp stamp') .failed
    · rfl

/-! ## The gateway of mock mode -/

section Outcomes

variable {b : Backend}

/-- The preference that `FakePaymentGateway` makes for a quote. -/
def Quote.fakePreference (q : Quote) : PaymentPreference :=
  ⟨"fake-" ++ q.quoteId, "https://checkout.local/" ++ q.serviceOrderId, some q.serviceOrderId⟩

/-- What an approval comes to in mock mode. -/
def ApproveQuoteUseCase.mockOutcome (quoteId : String) (supply : Supply) (w : World b) :
    Except Exc Payment × World b :=
  match b.quoteGet w.store quoteId with
  | .error e => (.error e, w)
  | .ok q =>
    if q.status ≠ .created then (.error (.valueError "Only created quotes can be approved"), w)
    else
      let p := q.opened supply.paymentId q.fakePreference
      (.ok p, (w.approving q).approved q.asApproved p
        (q.asApproved.event .quoteApproved [("quote_id", q.quoteId)] supply.first)
        (p.event .paymentPreferenceCreated
          [("payment_id", p.paymentId), ("preference_id", q.fakePreference.preferenceId)]
          supply.second))

/-- What a synchronisation comes to in mock mode. -/
def SyncPaymentStatusUseCase.mockOutcome (paymentId : String) (w : World b) :
    Except Exc SyncPaymentStatusResult × World b :=
  match b.paymentGet w.store paymentId with
  | .error e => (.error e, w)
  | .ok _ => (.error (.paymentGatewayError
      "Payment status synchronization is available only in Mercado Pago mode." (some 501)), w)

end Outcomes

/-! ## Twins -/

section Twins

variable {b b' : Backend} {w : World b} {w' : World b'}

/-- Two worlds that look the same. -/
structure Twin (w : World b) (w' : World b') : Prop where
  ledger : b.ledger w.store = b'.ledger w'.store
  log : w.accepted.map DomainEvent.content = w'.accepted.map DomainEvent.content

/-- The same result, and twin worlds after it. -/
def Twins {α : Type} (x : Except Exc α × World b) (x' : Except Exc α × World b') : Prop :=
  x.1 = x'.1 ∧ Twin x.2 x'.2

theorem Twin.quoteGet (h : Twin w w') (id : String) : b.quoteGet w.store id = b'.quoteGet w'.store id :=
  congrFun (congrArg Ledger.quote h.ledger) id

theorem Twin.paymentGet (h : Twin w w') (id : String) :
    b.paymentGet w.store id = b'.paymentGet w'.store id :=
  congrFun (congrArg Ledger.payment h.ledger) id

theorem Twin.isProcessed (h : Twin w w') (id : String) :
    b.isProcessed w.store id = b'.isProcessed w'.store id :=
  congrFun (congrArg Ledger.processed h.ledger) id

theorem log_concat {l l' : List DomainEvent} {e e' : DomainEvent}
    (h : l.map DomainEvent.content = l'.map DomainEvent.content) (he : e.content = e'.content) :
    (l ++ [e]).map DomainEvent.content = (l' ++ [e']).map DomainEvent.content := by
  rw [List.map_append, List.map_append, h, List.map_singleton, List.map_singleton, he]

variable {α β : Type}

/-- Nothing was done. -/
theorem Twins.same (h : Twin w w') (r : Except Exc α) : Twins (r, w) (r, w') := ⟨rfl, h⟩

theorem Twins.map {x : Except Exc α × World b} {x' : Except Exc α × World b'} (h : Twins x x')
    (f : α → β) : Twins (x.1.map f, x.2) (x'.1.map f, x'.2) := ⟨congrArg (Except.map f) h.1, h.2⟩

/-! ### The worlds that a use case leaves -/

variable (hb : b.Lawful) (hb' : b'.Lawful) {q : Quote} {p : Payment} {e e' f f' : DomainEvent}

include hb hb'

theorem Twin.opened (h : Twin w w') (he : e.content = e'.content) :
    Twin (w.opened q e) (w'.opened q e') where
  ledger := by
    show b.ledger (b.quoteSave w.store q) = b'.ledger (b'.quoteSave w'.store q)
    rw [hb.quoteSave, hb'.quoteSave, h.ledger]
  log := log_concat h.log he

theorem Twin.settled (h : Twin w w') (he : e.content = e'.content) :
    Twin (w.settled p e) (w'.settled p e') where
  ledger := by
    show b.ledger (b.paymentSave (b.paymentAssign w.store p) p) =
      b'.ledger (b'.paymentSave (b'.paymentAssign w'.store p) p)
    rw [hb.ledger_saved, hb'.ledger_saved, h.ledger]
  log := log_concat h.log he

theorem Twin.saved (h : Twin w w') : Twin { w with store := b.paymentSave w.store p }
    { w' with store := b'.paymentSave w'.store p } where
  ledger := by
    show b.ledger (b.paymentSave w.store p) = b'.ledger (b'.paymentSave w'.store p)
    rw [hb.paymentSave, hb'.paymentSave, h.ledger]
  log := h.log

theorem Twin.marked (h : Twin w w') (eventId eventType correlationId : String) :
    Twin { w with store := b.markProcessed w.store eventId eventType correlationId }
      { w' with store := b'.markProcessed w'.store eventId eventType correlationId } where
  ledger := by
    show b.ledger (b.markProcessed w.store eventId eventType correlationId) =
      b'.ledger (b'.markProcessed w'.store eventId eventType correlationId)
    rw [hb.markProcessed, hb'.markProcessed, h.ledger]
  log := h.log

theorem Twin.approved (h : Twin w w') (he : e.content = e'.content) (hf : f.content = f'.content) :
    Twin ((w.approving q).approved q.asApproved p e f)
      ((w'.approving q).approved q.asApproved p e' f') where
  ledger := by
    show b.ledger (b.paymentSave (b.quoteSave (b.paymentAssign (b.quoteAssign w.store q.asApproved) p)
        q.asApproved) p) =
      b'.ledger (b'.paymentSave (b'.quoteSave (b'.paymentAssign
        (b'.quoteAssign w'.store q.asApproved) p) q.asApproved) p)
    rw [hb.ledger_approved, hb'.ledger_approved, h.ledger]
  log := log_concat (log_concat h.log he) hf

/-! ### Outcomes -/

variable {s s' : Supply} (hs : s.Alike s')

include hs

theorem create_twins (h : Twin w w') (command : CreateQuoteCommand) :
    Twins (CreateQuoteUseCase.outcome command s w) (CreateQuoteUseCase.outcome command s' w') := by
  unfold CreateQuoteUseCase.outcome
  rcases CreateQuoteUseCase.opening_same command hs with ⟨x, hx, hx'⟩ | ⟨q, e, e', hx, hx', he⟩
  · rw [hx, hx']
    exact .same h _
  · rw [hx, hx']
    exact ⟨rfl, h.opened hb hb' he⟩

theorem handle_twins [Python] (h : Twin w w') (handler : BillingIntegrationEventHandler) (m : EventMessage) :
    Twins (handler.outcome m s w) (handler.outcome m s' w') := by
  unfold BillingIntegrationEventHandler.outcome
  rw [h.isProcessed]
  by_cases hdone : b'.isProcessed w'.store m.eventId = true
  · rw [if_pos hdone, if_pos hdone]
    exact .same h _
  · rw [if_neg hdone, if_neg hdone]
    by_cases htype : m.eventType ≠ "OS_OPENED"
    · rw [if_pos htype, if_pos htype]
      exact .same h _
    · rw [if_neg htype, if_neg htype]
      rcases handler.opening_same m hs with ⟨x, hx, hx'⟩ | ⟨q, e, e', hx, hx', he⟩
      · rw [hx, hx']
        exact .same h _
      · rw [hx, hx']
        exact ⟨rfl, (h.opened hb hb' he).marked hb hb' _ _ _⟩

omit hs in
theorem settling_twins (h : Twin w w') (paymentId : String)
    {settle settle' : Payment → Except Exc (Payment × DomainEvent)}
    (hsettle : ∀ p, SameButStamp (settle p) (settle' p)) :
    Twins (w.settling paymentId settle) (w'.settling paymentId settle') := by
  unfold World.settling
  rw [h.paymentGet]
  cases b'.paymentGet w'.store paymentId with
  | error x => exact .same h _
  | ok p₀ =>
    simp only
    rcases hsettle p₀ with ⟨x, hx, hx'⟩ | ⟨p, e, e', hx, hx', he⟩
    · rw [hx, hx']
      exact .same h _
    · rw [hx, hx']
      exact ⟨rfl, h.settled hb hb' he⟩

omit hs in
theorem applying_twins (h : Twin w w') {decision decision' : Payment × Option DomainEvent × StatusAction}
    (hd : unstamped decision = unstamped decision') :
    Twins (w.applying decision) (w'.applying decision') := by
  obtain ⟨p, event, action⟩ := decision
  obtain ⟨p', event', action'⟩ := decision'
  obtain ⟨rfl, hrest⟩ := Prod.mk.inj hd
  obtain ⟨hevent, rfl⟩ := Prod.mk.inj hrest
  cases event with
  | none =>
    cases event' with
    | none => exact ⟨rfl, h.saved hb hb'⟩
    | some e' => cases hevent
  | some e =>
    cases event' with
    | none => cases hevent
    | some e' =>
      have he : e.content = e'.content := Option.some.inj hevent
      refine ⟨?_, h.settled hb hb' he⟩
      show Except.ok _ = Except.ok _
      rw [show e.eventType = e'.eventType from congrArg Prod.fst he]

omit hs in
theorem apply_twins (h : Twin w w') (command : ApplyPaymentStatusCommand) :
    Twins (ApplyPaymentStatusUseCase.outcome command s w)
      (ApplyPaymentStatusUseCase.outcome command s' w') := by
  unfold ApplyPaymentStatusUseCase.outcome
  rw [h.paymentGet]
  cases b'.paymentGet w'.store command.paymentId with
  | error x => exact .same h _
  | ok p₀ =>
    simp only
    have hsame := ApplyPaymentStatusUseCase.decide_same p₀ command s.first s'.first
    generalize ApplyPaymentStatusUseCase.decide p₀ command s.first = x at hsame ⊢
    generalize ApplyPaymentStatusUseCase.decide p₀ command s'.first = x' at hsame ⊢
    cases x with
    | error e =>
      cases x' with
      | error e' => cases hsame; exact .same h _
      | ok decision' => cases hsame
    | ok decision =>
      cases x' with
      | error e' => cases hsame
      | ok decision' => exact applying_twins hb hb' h (Except.ok.inj hsame)

theorem approve_twins (h : Twin w w') (quoteId : String) :
    Twins (ApproveQuoteUseCase.mockOutcome quoteId s w)
      (ApproveQuoteUseCase.mockOutcome quoteId s' w') := by
  unfold ApproveQuoteUseCase.mockOutcome
  rw [h.quoteGet]
  cases b'.quoteGet w'.store quoteId with
  | error e => exact .same h _
  | ok q =>
    simp only
    by_cases hcreated : q.status ≠ .created
    · rw [if_pos hcreated, if_pos hcreated]
      exact .same h _
    · rw [if_neg hcreated, if_neg hcreated, hs.paymentId]
      exact ⟨rfl, h.approved hb hb' rfl rfl⟩

omit hb hb' hs in
theorem sync_twins (h : Twin w w') (paymentId : String) :
    Twins (SyncPaymentStatusUseCase.mockOutcome paymentId w)
      (SyncPaymentStatusUseCase.mockOutcome paymentId w') := by
  unfold SyncPaymentStatusUseCase.mockOutcome
  rw [h.paymentGet]
  cases b'.paymentGet w'.store paymentId with
  | error e => exact .same h _
  | ok p => exact .same h _

end Twins

/-! ## Calls in mock mode -/

section Mock

variable [Python] {b : Backend} {d : Deployment} {α β : Type}

theorem approve_mock {quoteId : String} {supply : Supply} {w w' : World b} {res : Except Exc Payment} :
    (system b d).Yields calm (ApproveQuoteUseCase.execute fakePaymentGateway quoteId supply) w res w' ↔
      (res, w') = ApproveQuoteUseCase.mockOutcome quoteId supply w := by
  unfold ApproveQuoteUseCase.mockOutcome
  cases hget : b.quoteGet w.store quoteId with
  | error e => exact (approve_unknown hget).trans Prod.mk_inj.symm
  | ok q =>
    simp only
    by_cases hcreated : q.status ≠ .created
    · rw [if_pos hcreated]
      exact (approve_refused hcreated hget).trans Prod.mk_inj.symm
    · rw [if_neg hcreated]
      refine (approve_created (not_not.mp hcreated) hget).trans ?_
      -- the fake gateway answers at once
      constructor
      · rintro ⟨r, w₁, ⟨rfl, rfl⟩, hrest⟩
        exact Prod.mk_inj.mpr hrest
      · intro h
        exact ⟨_, _, ⟨rfl, rfl⟩, Prod.mk_inj.mp h⟩

theorem sync_mock {paymentId : String} {supply : Supply} {w w' : World b}
    {res : Except Exc SyncPaymentStatusResult} :
    (system b d).Yields calm (SyncPaymentStatusUseCase.execute fakePaymentGateway paymentId supply)
        w res w' ↔ (res, w') = SyncPaymentStatusUseCase.mockOutcome paymentId w := by
  refine sync_alone.trans ?_
  unfold SyncPaymentStatusUseCase.mockOutcome
  cases b.paymentGet w.store paymentId with
  | error e => exact Prod.mk_inj.symm
  | ok p₀ =>
    constructor
    · rintro ⟨r, w₁, ⟨rfl, rfl⟩, hrest⟩
      exact Prod.mk_inj.mpr hrest
    · intro h
      exact ⟨_, _, ⟨rfl, rfl⟩, Prod.mk_inj.mp h⟩

variable {b' : Backend} {w : World b} {w' : World b'} {s s' : Supply}

/-- A program that ends in twins, with its result wrapped up. -/
theorem twins_of_runs {p p' : Service α} {x : Except Exc α × World b} {x' : Except Exc α × World b'}
    (hx : w.run noAnswers p = x) (hx' : w'.run noAnswers p' = x') (h : Twins x x') (f : α → Response) :
    Twins (w.run noAnswers (p >>= fun a => pure (f a)))
      (w'.run noAnswers (p' >>= fun a => pure (f a))) := by
  rw [run_map, run_map, hx, hx']
  exact h.map f

/-- What the service is built with in mock mode. -/
def mockDeployment (handler : BillingIntegrationEventHandler) : Deployment :=
  ⟨fakePaymentGateway, handler⟩

variable (hb : b.Lawful) (hb' : b'.Lawful) {handler : BillingIntegrationEventHandler}

include hb hb'

/-- **Every call ends alike in twin worlds.** -/
theorem answer_twins (hs : s.Alike s') (h : Twin w w') (call : Call) :
    Twins (w.run noAnswers ((mockDeployment handler).answer call s))
      (w'.run noAnswers ((mockDeployment handler).answer call s')) := by
  have hrun : ∀ {α : Type} {b : Backend} {p : Service α} {w : World b} {x : Except Exc α × World b},
      (∀ res w', (system b (mockDeployment handler)).Yields calm p w res w' ↔ (res, w') = x) →
      w.run noAnswers p = x := run_eq_of_yields
  cases call with
  | getQuote quoteId =>
    exact twins_of_runs (run_ask noAnswers w (.quoteGet quoteId)) (run_ask noAnswers w' (.quoteGet quoteId))
      ⟨h.quoteGet quoteId, h⟩ _
  | getPayment paymentId =>
    exact twins_of_runs (run_ask noAnswers w (.paymentGet paymentId)) (run_ask noAnswers w' (.paymentGet paymentId))
      ⟨h.paymentGet paymentId, h⟩ _
  | command command =>
    cases command with
    | createQuote command =>
      exact twins_of_runs (hrun fun _ _ => create_alone) (hrun fun _ _ => create_alone)
        (create_twins hb hb' hs h command) _
    | approveQuote quoteId =>
      exact twins_of_runs (hrun fun _ _ => approve_mock) (hrun fun _ _ => approve_mock)
        (approve_twins hb hb' hs h quoteId) _
    | confirmPayment paymentId =>
      exact twins_of_runs (hrun fun _ _ => confirm_alone) (hrun fun _ _ => confirm_alone)
        (settling_twins hb hb' h paymentId fun p => p.confirm_same _ _) _
    | failPayment paymentId reason =>
      exact twins_of_runs (hrun fun _ _ => fail_alone) (hrun fun _ _ => fail_alone)
        (settling_twins hb hb' h paymentId fun p => p.fail_same reason _ _) _
    | applyPaymentStatus command =>
      exact twins_of_runs (hrun fun _ _ => apply_alone) (hrun fun _ _ => apply_alone)
        (apply_twins hb hb' h command) _
    | syncPaymentStatus paymentId =>
      exact twins_of_runs (hrun fun _ _ => sync_mock) (hrun fun _ _ => sync_mock)
        (sync_twins h paymentId) _
    | handle m =>
      exact twins_of_runs (hrun fun _ _ => handle_alone) (hrun fun _ _ => handle_alone)
        (handle_twins hb hb' hs h handler m) _

/-- **And so does every session.** -/
theorem session_twins {ids ids' : IdStream} (hids : ∀ n, (ids.supply n).Alike (ids'.supply n)) (n : Nat)
    (calls : List Call) (h : Twin w w') :
    (w.session (mockDeployment handler) ids n calls).1 =
        (w'.session (mockDeployment handler) ids' n calls).1 ∧
      Twin (w.session (mockDeployment handler) ids n calls).2
        (w'.session (mockDeployment handler) ids' n calls).2 := by
  induction calls generalizing n w w' with
  | nil => exact ⟨rfl, h⟩
  | cons call calls ih =>
    obtain ⟨hfirst, htwin⟩ := answer_twins hb hb' (hids n) h call
    obtain ⟨hrest, htwin'⟩ := ih (n + 1) htwin
    refine ⟨?_, htwin'⟩
    show _ :: _ = _ :: _
    rw [hfirst, hrest]

omit hb hb' in
/-- **In mock mode the in-memory and the SQL repositories cannot be told apart**: the same calls with
    the same fresh ids have the same responses and exceptions, and publish the same events up to their
    ids and times. -/
theorem stores_agree (handler : BillingIntegrationEventHandler) {ids ids' : IdStream}
    (hids : ∀ n, (ids.supply n).Alike (ids'.supply n)) (calls : List Call) :
    let inMemory := (World.empty memory).session (mockDeployment handler) ids 0 calls
    let inSql := (World.empty sql).session (mockDeployment handler) ids' 0 calls
    inMemory.1 = inSql.1 ∧
      inMemory.2.accepted.map DomainEvent.content = inSql.2.accepted.map DomainEvent.content := by
  have hempty : Twin (World.empty memory) (World.empty sql) := ⟨rfl, rfl⟩
  obtain ⟨hresults, htwin⟩ :=
    session_twins memory_lawful sql_lawful hids 0 calls hempty
  exact ⟨hresults, htwin.log⟩

end Mock

section Samples

open Sample

/-- A quote is created, approved, approved again and read, and its payment confirmed. -/
def Sample.calls : List Call :=
  [.command (.createQuote ⟨"os-1", ["oil"], .finite false 12000 (-2)⟩),
    .command (.approveQuote (tag 'q' 0)), .command (.approveQuote (tag 'q' 0)),
    .getQuote (tag 'q' 0), .command (.confirmPayment (tag 'p' 1))]

theorem stores_agree_calls :
    ((World.empty sql).session mock stream 0 Sample.calls).2.accepted.length = 4 ∧
      ((World.empty memory).session mock stream 0 Sample.calls).1 =
        ((World.empty sql).session mock stream 0 Sample.calls).1 := by
  refine ⟨by decide +kernel, ?_⟩
  exact (stores_agree handler (fun _ => ⟨rfl, rfl, rfl⟩) Sample.calls).1

end Samples

end Billing

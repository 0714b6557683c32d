/-
  A refused approval, over both stores.

  `ApproveQuoteUseCase.execute` changes the quote object before it calls the gateway.  Over the SQL
  repositories that object is a copy; over the in-memory ones it is the stored quote itself.  So when
  the gateway raises, what is left behind is the attribute write and nothing else
  (`approve_raises`), and whether that is a change depends on the store (`refused_approval`).

  The approval runs alone here, with repositories and a publisher that work: `calm`.  The reasons
  left for it to raise are an unknown quote, a quote that is not `CREATED`, and the gateway.
-/
import Billing.Runtime

namespace Billing

open Py Atomic Program System

/-! ## Calm steps -/

/-- Is the step a call of the SDK client? -/
def Port.isSdk : Port → Bool
  | sdk _ => true
  | _ => false

/-- Everything works, except the calls of the SDK client, which may answer or raise anything. -/
def calm (o : Port) (fate : Fate) : Prop := o.isSdk = true ∨ fate.isProceeds = true

instance calmDecidable (o : Port) (fate : Fate) : Decidable (calm o fate) :=
  inferInstanceAs (Decidable (_ ∨ _))

section Calm

variable [Python] {b : Backend} {d : Deployment} {α β : Type}

instance (o : ports.Op) (fate : (system b d).Choice) : Decidable (calm o fate) :=
  calmDecidable o fate

/-- **The rule of a calm step**: it does what it does when it goes through. -/
theorem yields_calm {o : Port} {f : o.Res → Service β} {w w₁ w' : World b} {r : Except Exc o.Res}
    {res : Except Exc β} (ho : o.isSdk = false) (hx : w.exec o .proceeds = some (r, w₁)) :
    (system b d).Yields calm (Service.ask o >>= f) w res w' ↔
      (system b d).YieldsThen calm f res w' r w₁ := by
  have hcalm : ∀ fate, calm o fate ↔ fate = .proceeds := by
    intro fate
    unfold calm
    rw [ho]
    cases fate <;> simp [Fate.isProceeds]
  refine yields_perform_bind.trans ?_
  constructor
  · rintro ⟨fate, r', w₂, hok, hx', h⟩
    obtain rfl := (hcalm fate).mp hok
    obtain ⟨rfl, rfl⟩ := Prod.ext_iff.mp (Option.some.inj (hx.symm.trans hx'))
    exact h
  · intro h
    exact ⟨.proceeds, r, w₁, (hcalm _).mpr rfl, hx, h⟩

/-- A gateway call leaves the world alone and ends as the gateway can. -/
theorem yields_call {p : Program sdk Exc α} {w w' : World b} {res : Except Exc α}
    (h : (system b d).Yields calm (PaymentGateway.call p) w res w') :
    w' = w ∧ ∀ a, res = .ok a → p.CanReturn a := by
  induction p generalizing w with
  | ret a =>
    obtain ⟨rfl, rfl⟩ := h
    exact ⟨rfl, fun _ ha => Except.ok.inj ha⟩
  | raise e =>
    obtain ⟨rfl, rfl⟩ := h
    exact ⟨rfl, fun _ ha => by cases ha⟩
  | step o k ih =>
    obtain ⟨fate, r, w₁, _, hx, h⟩ := h
    have hw : w₁ = w := by
      cases fate with
      | proceeds => cases hx
      | answers response => cases hx; rfl
      | raises e committed => cases hx; rfl
    obtain ⟨rfl, hret⟩ := ih _ h
    exact ⟨hw, fun a ha => ⟨_, hret a ha⟩⟩

/-- What the gateway can return, a call of it can return. -/
theorem yields_call_of {p : Program sdk Exc α} {a : α} (h : p.CanReturn a) (w : World b) :
    (system b d).Yields calm (PaymentGateway.call p) w (.ok a) w := by
  induction p with
  | ret a' => cases h; exact ⟨rfl, rfl⟩
  | raise e => exact h.elim
  | step o k ih =>
    obtain ⟨r, h⟩ := h
    cases r with
    | ok response => exact ⟨.answers response, .ok response, w, Or.inl rfl, rfl, ih _ h⟩
    | error e => exact ⟨.raises e false, .error e, w, Or.inl rfl, rfl, ih _ h⟩

end Calm

/-! ## Approvals that run alone -/

section Approvals

variable [Python] {b : Backend} {d : Deployment} {gateway : PaymentGateway} {quoteId : String}
  {supply : Supply}

/-- The quote, approved. -/
abbrev Quote.asApproved (q : Quote) : Quote := { q with status := .approved }

/-- The payment that an approval opens. -/
def Quote.opened (q : Quote) (paymentId : String) (pref : PaymentPreference) : Payment :=
  ⟨q.quoteId, q.serviceOrderId, q.total, paymentId, .pending, some pref⟩

/-- The event that announces an approved quote. -/
def Quote.approvedEvent (q : Quote) (stamp : Stamp) : DomainEvent :=
  q.asApproved.event .quoteApproved [("quote_id", q.quoteId)] stamp

/-- The event that announces the preference of a payment. -/
def Payment.openedEvent (p : Payment) (preferenceId : String) (stamp : Stamp) : DomainEvent :=
  p.event .paymentPreferenceCreated
    [("payment_id", p.paymentId), ("preference_id", preferenceId)] stamp

/-- What an approval writes to the attributes of the quote, before it calls the gateway. -/
def World.approving (w : World b) (q : Quote) : World b :=
  { w with store := b.quoteAssign w.store q.asApproved }

/-- The world after an approval that went through. -/
def World.approved (w : World b) (q : Quote) (p : Payment) (e e' : DomainEvent) : World b :=
  { w with
    store := b.paymentSave (b.quoteSave (b.paymentAssign w.store p) q) p
    handed := w.handed ++ [e] ++ [e']
    accepted := w.accepted ++ [e] ++ [e'] }

/-- The part after the gateway's answer goes through. -/
theorem approve_rest {q : Quote} {p : Payment} {e e' : DomainEvent} {w w' : World b}
    {res : Except Exc Payment} :
    (system b d).Yields calm (do
      p.assign
      QuoteRepository.save q
      PaymentRepository.save p
      EventPublisher.publish e
      EventPublisher.publish e'
      return p) w res w' ↔ res = .ok p ∧ w' = w.approved q p e e' := by
  have hpublish : ∀ (w : World b) (e : DomainEvent), w.exec (.publish e) .proceeds =
      some (.ok (), { w with handed := w.handed ++ [e], accepted := w.accepted ++ [e] }) := by
    intro w e
    simp only [World.exec, World.publish, eventToMessage_eq]
  rw [yields_calm rfl rfl]
  show (system b d).Yields _ _ _ _ _ ↔ _
  rw [yields_calm rfl rfl]
  show (system b d).Yields _ _ _ _ _ ↔ _
  rw [yields_calm rfl rfl]
  show (system b d).Yields _ _ _ _ _ ↔ _
  rw [yields_calm rfl (hpublish _ _)]
  show (system b d).Yields _ _ _ _ _ ↔ _
  rw [yields_calm rfl (hpublish _ _)]
  exact Iff.rfl

/-- **An approval of a created quote** writes to its attributes, calls the gateway, and goes on with
    what that answers. -/
theorem approve_created {q : Quote} (hcreated : q.status = .created) {w w' : World b}
    (hget : b.quoteGet w.store quoteId = .ok q) {res : Except Exc Payment} :
    (system b d).Yields calm (ApproveQuoteUseCase.execute gateway quoteId supply) w res w' ↔
      ∃ r w₁, (system b d).Yields calm (PaymentGateway.call (gateway.createCheckoutPreference
          supply.idempotencyKey q.quoteId q.serviceOrderId q.total)) (w.approving q) r w₁ ∧
        match r with
        | .ok pref =>
          let p := q.opened supply.paymentId pref
          res = .ok p ∧ w' = w₁.approved q.asApproved p
            (q.asApproved.event .quoteApproved [("quote_id", q.quoteId)] supply.first)
            (p.event .paymentPreferenceCreated
              [("payment_id", p.paymentId), ("preference_id", pref.preferenceId)] supply.second)
        | .error e => res = .error e ∧ w' = w₁ := by
  have happrove : q.approve supply.first = .ok (q.asApproved,
      q.asApproved.event .quoteApproved [("quote_id", q.quoteId)] supply.first) := by
    unfold Quote.approve
    rw [if_neg (not_not.mpr hcreated)]
  unfold ApproveQuoteUseCase.execute
  rw [yields_calm rfl rfl, hget]
  show (system b d).Yields calm (ofExcept (q.approve supply.first) >>= _) w res w' ↔ _
  rw [happrove, ofExcept_ok, ret_bind]
  dsimp only
  rw [yields_calm rfl rfl]
  -- a payment of an approved quote can be made, and waits for its preference
  show (system b d).Yields calm ((PaymentGateway.call (gateway.createCheckoutPreference
    supply.idempotencyKey q.quoteId q.serviceOrderId q.total) >>= _) >>= _) (w.approving q) res w' ↔ _
  rw [bind_assoc]
  refine yields_bind.trans ?_
  refine exists_congr fun r => exists_congr fun w₁ => and_congr_right fun _ => ?_
  cases r with
  | error e => exact Iff.rfl
  | ok pref =>
    show (system b d).Yields calm (((q.opened supply.paymentId pref).assign >>= _) >>= _) w₁ res w' ↔ _
    rw [bind_assoc]
    exact approve_rest

/-- An approval of a quote that is not known raises. -/
theorem approve_unknown {e : Exc} {w w' : World b} (hget : b.quoteGet w.store quoteId = .error e)
    {res : Except Exc Payment} :
    (system b d).Yields calm (ApproveQuoteUseCase.execute gateway quoteId supply) w res w' ↔
      res = .error e ∧ w' = w := by
  unfold ApproveQuoteUseCase.execute
  rw [yields_calm rfl rfl, hget]
  exact Iff.rfl

/-- An approval of a quote that is not created raises. -/
theorem approve_refused {q : Quote} (hcreated : q.status ≠ .created) {w w' : World b}
    (hget : b.quoteGet w.store quoteId = .ok q) {res : Except Exc Payment} :
    (system b d).Yields calm (ApproveQuoteUseCase.execute gateway quoteId supply) w res w' ↔
      res = .error (.valueError "Only created quotes can be approved") ∧ w' = w := by
  have happrove : q.approve supply.first =
      .error (.valueError "Only created quotes can be approved") := if_pos hcreated
  unfold ApproveQuoteUseCase.execute
  rw [yields_calm rfl rfl, hget]
  show (system b d).Yields calm (ofExcept (q.approve supply.first) >>= _) w res w' ↔ _
  rw [happrove, ofExcept_error, raise_bind]
  exact Iff.rfl

/-- **What an approval that raises leaves behind.** -/
theorem approve_raises {w w' : World b} {e : Exc}
    (h : (system b d).Yields calm (ApproveQuoteUseCase.execute gateway quoteId supply) w
      (.error e) w') :
    (w' = w ∧ ∀ q, b.quoteGet w.store quoteId = .ok q → q.status ≠ .created) ∨
      ∃ q, b.quoteGet w.store quoteId = .ok q ∧ q.status = .created ∧ w' = w.approving q := by
  cases hget : b.quoteGet w.store quoteId with
  | error e' => exact Or.inl ⟨((approve_unknown hget).mp h).2, fun q hq => by cases hq⟩
  | ok q =>
    by_cases hcreated : q.status = .created
    · obtain ⟨r, w₁, hcall, hrest⟩ := (approve_created hcreated hget).mp h
      obtain ⟨rfl, _⟩ := yields_call hcall
      cases r with
      | ok pref => cases hrest.1
      | error e' => exact Or.inr ⟨q, rfl, hcreated, hrest.2⟩
    · refine Or.inl ⟨((approve_refused hcreated hget).mp h).2, ?_⟩
      rintro q' ⟨⟩
      exact hcreated

/-- **What an approval that returns has done.** -/
theorem approve_returned {w w' : World b} {p : Payment}
    (h : (system b d).Yields calm (ApproveQuoteUseCase.execute gateway quoteId supply) w (.ok p) w') :
    ∃ q pref, b.quoteGet w.store quoteId = .ok q ∧ q.status = .created ∧
      p = q.opened supply.paymentId pref ∧
      w' = (w.approving q).approved q.asApproved p
        (q.asApproved.event .quoteApproved [("quote_id", q.quoteId)] supply.first)
        (p.event .paymentPreferenceCreated
          [("payment_id", p.paymentId), ("preference_id", pref.preferenceId)] supply.second) := by
  cases hget : b.quoteGet w.store quoteId with
  | error e => cases ((approve_unknown hget).mp h).1
  | ok q =>
    by_cases hcreated : q.status = .created
    · obtain ⟨r, w₁, hcall, hrest⟩ := (approve_created hcreated hget).mp h
      obtain ⟨rfl, _⟩ := yields_call hcall
      cases r with
      | error e => cases hrest.1
      | ok pref =>
        obtain ⟨hp, hw⟩ := hrest
        obtain rfl := Except.ok.inj hp
        exact ⟨q, pref, rfl, hcreated, rfl, hw⟩
    · cases ((approve_refused hcreated hget).mp h).1

/-- An approval of a created quote with a gateway that can return goes through. -/
theorem approve_returns {q : Quote} (hcreated : q.status = .created) {w : World b}
    (hget : b.quoteGet w.store quoteId = .ok q) {pref : PaymentPreference}
    (hpref : (gateway.createCheckoutPreference supply.idempotencyKey q.quoteId q.serviceOrderId
      q.total).CanReturn pref) :
    ∃ p w', (system b d).Yields calm (ApproveQuoteUseCase.execute gateway quoteId supply) w
      (.ok p) w' :=
  ⟨_, _, (approve_created hcreated hget).mpr
    ⟨.ok pref, _, yields_call_of hpref (w.approving q), rfl, rfl⟩⟩

end Approvals

/-! ## The two stores -/

section Stores

variable [Python]

/-- The approval left the world `w` as it was, and the quote can still be approved in `w'`. -/
structure LeftAlone {b : Backend} (d : Deployment) (quoteId : String) (w w' : World b) : Prop where
  unchanged : w' = w
  approvable : ∀ q, b.quoteGet w.store quoteId = .ok q → q.status = .created →
    ∀ (gateway : PaymentGateway) (supply : Supply) pref,
      (gateway.createCheckoutPreference supply.idempotencyKey q.quoteId q.serviceOrderId
        q.total).CanReturn pref →
      ∃ p w'', (system b d).Yields calm (ApproveQuoteUseCase.execute gateway quoteId supply) w'
        (.ok p) w''

theorem leftAlone_refl {b : Backend} {d : Deployment} {quoteId : String} (w : World b) :
    LeftAlone d quoteId w w :=
  ⟨rfl, fun _ hget hcreated _ _ _ hpref => approve_returns hcreated hget hpref⟩

omit [Python] in
/-- In memory, the attribute write is a write to the store. -/
theorem approving_ne {w : World memory} {quoteId : String} {q : Quote}
    (hget : InMemoryQuoteRepository.get w.store quoteId = .ok q) (hcreated : q.status = .created) :
    w.approving q ≠ w := by
  intro hsame
  have hfind : w.store.quotes.find? quoteId = some q := by
    unfold InMemoryQuoteRepository.get at hget
    split at hget
    · cases hget
    · rename_i q' hq'
      cases hget
      exact hq'
  have hid : q.quoteId = quoteId := Keyed.Table.key_of_find? hfind
  have hstore : Memory.assignQuote w.store q.asApproved = w.store := congrArg World.store hsame
  have hafter : (Memory.assignQuote w.store q.asApproved).quotes.find? quoteId =
      some q.asApproved := by
    unfold Memory.assignQuote
    rw [show q.asApproved.quoteId = quoteId from hid, hfind, ← hid]
    exact Keyed.Table.find?_upsert_self w.store.quotes q.asApproved
  rw [hstore, hfind] at hafter
  have := congrArg Quote.status (Option.some.inj hafter)
  rw [hcreated] at this
  cases this

/-- **A refused approval leaves everything as it was** exactly over the SQL repositories, and over
    the in-memory ones when the quote was not a stored `CREATED` one. -/
theorem refused_approval {m : RuntimeMode} {d : Deployment} {quoteId : String} {supply : Supply}
    {w w' : World m.backend} {e : Exc}
    (h : (system m.backend d).Yields calm
      (ApproveQuoteUseCase.execute d.gateway quoteId supply) w (.error e) w') :
    LeftAlone d quoteId w w' ↔
      m = .real ∨ ∀ q, m.backend.quoteGet w.store quoteId = .ok q → q.status ≠ .created := by
  constructor
  · intro hleft
    cases m with
    | real => exact Or.inl rfl
    | memory =>
      refine Or.inr fun q hget hcreated => ?_
      rcases approve_raises h with ⟨_, hno⟩ | ⟨q', hget', hcreated', rfl⟩
      · exact hno q hget hcreated
      · exact approving_ne hget' hcreated' hleft.unchanged
  · intro hcond
    rcases approve_raises h with ⟨rfl, _⟩ | ⟨q, hget, hcreated, rfl⟩
    · exact leftAlone_refl w'
    · rcases hcond with rfl | hno
      · exact leftAlone_refl w
      · exact absurd hcreated (hno q hget)

end Stores

section Samples

open Sample

/-- The gateway raises. -/
def Sample.gatewayDown : List Fate :=
  [.proceeds, .proceeds, .raises (.paymentGatewayError "Could not create preference" (some 502)) false]

/-- A created quote. -/
def Sample.createdQuote {b : Backend} : List (Action (system b mercadoPago)) :=
  [create "1" "os-1"] ++ go 0 2

/-- An approval of `quote-1` runs alone while the gateway is down. -/
def Sample.refusal {b : Backend} (w : World b) : Option (Except Exc Payment × World b) :=
  (system b mercadoPago).alone calm
    (ApproveQuoteUseCase.execute mercadoPago.gateway "quote-1" (Sample.supply "2")) gatewayDown w

/-- Did it raise? -/
def Sample.raised {α : Type} : Except Exc α → Bool
  | .error _ => true
  | .ok _ => false

theorem refused_approval_real :
    ∃ w w' : World sql, (SqlAlchemyQuoteRepository.get w.store "quote-1").map Quote.status =
      .ok .created ∧ LeftAlone mercadoPago "quote-1" w w' := by
  have hrefusal : (refusal ((start sql mercadoPago).played anyOrder createdQuote
      (by decide)).state).map (fun x => raised x.1) = some true := by decide +kernel
  obtain ⟨⟨res, w'⟩, halone, hraised⟩ := Option.map_eq_some_iff.mp hrefusal
  cases res with
  | ok p => cases hraised
  | error e =>
    have hleft : LeftAlone mercadoPago "quote-1" _ w' :=
      (refused_approval (m := .real) (yields_of_alone halone)).mpr (Or.inl rfl)
    exact ⟨_, w', by decide +kernel, hleft⟩

/-- **In memory, a refused approval changes the quote**: the gateway raises, and the stored quote is
    `APPROVED`. -/
theorem refused_approval_changes :
    ¬ ∀ c, Runs anyOrder (start memory mercadoPago) c → ∀ quoteId supply e w',
      (system memory mercadoPago).Yields calm
        (ApproveQuoteUseCase.execute mercadoPago.gateway quoteId supply) c.state (.error e) w' →
      LeftAlone mercadoPago quoteId c.state w' := by
  intro h
  have hrefusal : (refusal ((start memory mercadoPago).played anyOrder createdQuote
      (by decide)).state).map (fun x => (raised x.1,
        (InMemoryQuoteRepository.get x.2.store "quote-1").map Quote.status)) =
      some (true, .ok .approved) := by decide +kernel
  obtain ⟨⟨res, w'⟩, halone, hafter⟩ := Option.map_eq_some_iff.mp hrefusal
  obtain ⟨hraised, hstatus⟩ := Prod.mk.inj hafter
  cases res with
  | ok p => cases hraised
  | error e =>
    have hleft := h _ (Config.played_runs _ createdQuote (by decide)) "quote-1" (Sample.supply "2") e
      w' (yields_of_alone halone)
    rw [hleft.unchanged] at hstatus
    have hbefore : (InMemoryQuoteRepository.get ((start memory mercadoPago).played anyOrder
        createdQuote (by decide)).state.store "quote-1").map Quote.status = .ok .created := by
      decide +kernel
    cases hbefore.symm.trans hstatus

end Samples

end Billing

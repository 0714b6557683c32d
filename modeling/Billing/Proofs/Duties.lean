/-
  What a request may do next, given what it has done: its DUTIES.

  The later proofs are about interleavings, so none of them can follow one request's code from
  beginning to end.  What they need of the code is said here once, for all requests: `Standing` sums
  up a request's history (what it read and has not written back, what it saved, what it still owes),
  and `Duty` says of every step a request can ask for what its standing then is:

  * a quote is only saved as the new quote of this request, or as the quote in hand, approved;
  * a payment is only saved as the new payment of the quote just saved, or as the payment in hand,
    settled or unchanged;
  * an event is only published about what was saved before;
  * after an approved quote the payment is due, after a settled payment its event is due.

  `serve_duties` proves it of the programs, with the rules of `Program.Always`: whatever the steps
  answered, whatever the gateway is, and without any notion of a store.
-/
import Billing.Runtime

namespace Billing

open Py Atomic Program

/-! ## The standing of a request -/

/-- What a request must do before anything else. -/
inductive Debt where
  /-- Nothing in particular. -/
  | nothing
  /-- Save the payment of this quote, which it has saved as approved. -/
  | payment (quote : Quote)
  /-- Publish the outcome of this payment, which it has saved as settled. -/
  | outcome (payment : Payment)

/-- A history, summed up. -/
structure Standing where
  /-- The quote in hand: read, and not saved since. -/
  quote : Option Quote
  /-- The payment in hand. -/
  payment : Option Payment
  /-- The quote saved last. -/
  savedQuote : Option Quote
  /-- The payment saved last. -/
  savedPayment : Option Payment
  /-- Was a quote save tried? -/
  wroteQuote : Bool
  /-- Was a payment save tried? -/
  wrotePayment : Bool
  /-- What is due. -/
  owes : Debt

/-- The standing of a request that has done nothing. -/
def Standing.first : Standing := ⟨none, none, none, none, false, false, .nothing⟩

/-- The standing after one more step. -/
def Standing.after (st : Standing) : Event → Standing
  | ⟨.quoteGet _, .ok q⟩ => { st with quote := some q, owes := .nothing }
  | ⟨.quoteSave q, .ok _⟩ => { st with
      quote := none
      savedQuote := some q
      wroteQuote := true
      owes := if q.status = .approved then .payment q else .nothing }
  | ⟨.quoteSave _, .error _⟩ => { st with quote := none, wroteQuote := true, owes := .nothing }
  | ⟨.paymentGet _, .ok p⟩ => { st with payment := some p, owes := .nothing }
  | ⟨.paymentSave p, .ok _⟩ => { st with
      payment := none
      savedPayment := some p
      wrotePayment := true
      owes := if st.payment = none ∨ st.payment = some p then .nothing else .outcome p }
  | ⟨.paymentSave _, .error _⟩ => { st with payment := none, wrotePayment := true, owes := .nothing }
  | _ => { st with owes := .nothing }

/-- The standing that a history leads to. -/
def standing (h : List Event) : Standing := h.foldl Standing.after .first

@[simp] theorem standing_nil : standing [] = .first := rfl

@[simp] theorem standing_concat (h : List Event) (d : Event) :
    standing (h ++ [d]) = (standing h).after d := List.foldl_append ..

/-- Calls of the SDK client between other steps leave no trace but that nothing is due. -/
theorem standing_append_sdk {h h' : List Event} (hh : ∀ d ∈ h', ∃ o, d.op = Port.sdk o)
    (hown : (standing h).owes = .nothing) : standing (h ++ h') = standing h := by
  induction h' using List.reverseRecOn with
  | nil => rw [List.append_nil]
  | append_singleton h' d ih =>
    obtain ⟨o, ho⟩ := hh d (List.mem_append_right _ List.mem_cons_self)
    obtain ⟨op, res⟩ := d
    subst ho
    rw [← List.append_assoc, standing_concat, ih fun d hd => hh d (List.mem_append_left _ hd)]
    show { standing h with owes := .nothing } = standing h
    rw [← hown]

/-- What a standing tells about the history it sums up. -/
structure Standing.Sums (st : Standing) (h : List Event) : Prop where
  quote : ∀ q, st.quote = some q → ∃ id, ⟨.quoteGet id, .ok q⟩ ∈ h
  payment : ∀ p, st.payment = some p → ∃ id, ⟨.paymentGet id, .ok p⟩ ∈ h
  savedQuote : ∀ q, st.savedQuote = some q → ⟨.quoteSave q, .ok ()⟩ ∈ h
  savedPayment : ∀ p, st.savedPayment = some p → ⟨.paymentSave p, .ok ()⟩ ∈ h
  wroteQuote : st.wroteQuote = false → ∀ q r, ⟨.quoteSave q, r⟩ ∉ h
  wrotePayment : st.wrotePayment = false → ∀ p r, ⟨.paymentSave p, r⟩ ∉ h
  owesPayment : ∀ q, st.owes = .payment q → q.status = .approved ∧ st.savedQuote = some q
  owesOutcome : ∀ p, st.owes = .outcome p → st.savedPayment = some p

/-- A save that was tried stays tried. -/
theorem Standing.wroteQuote_after {st : Standing} {d : Event}
    (h : (st.after d).wroteQuote = false) :
    st.wroteQuote = false ∧ ∀ q, d.op ≠ .quoteSave q := by
  obtain ⟨op, res⟩ := d
  cases op <;> cases res <;> simp_all [Standing.after]

theorem Standing.wrotePayment_after {st : Standing} {d : Event}
    (h : (st.after d).wrotePayment = false) :
    st.wrotePayment = false ∧ ∀ p, d.op ≠ .paymentSave p := by
  obtain ⟨op, res⟩ := d
  cases op <;> cases res <;> simp_all [Standing.after]

/-- What is in hand was just read, or was in hand before and is not being saved. -/
theorem Standing.quote_after {st : Standing} {d : Event} {q : Quote}
    (h : (st.after d).quote = some q) :
    (∃ id, d = ⟨.quoteGet id, .ok q⟩) ∨ (st.quote = some q ∧ ∀ q', d.op ≠ .quoteSave q') := by
  obtain ⟨op, res⟩ := d
  cases op <;> cases res <;> simp_all [Standing.after]

theorem Standing.payment_after {st : Standing} {d : Event} {p : Payment}
    (h : (st.after d).payment = some p) :
    (∃ id, d = ⟨.paymentGet id, .ok p⟩) ∨ (st.payment = some p ∧ ∀ p', d.op ≠ .paymentSave p') := by
  obtain ⟨op, res⟩ := d
  cases op <;> cases res <;> simp_all [Standing.after]

/-- What is saved last was just saved, or was saved last before. -/
theorem Standing.savedQuote_after {st : Standing} {d : Event} {q : Quote}
    (h : (st.after d).savedQuote = some q) :
    d = ⟨.quoteSave q, .ok ()⟩ ∨ st.savedQuote = some q := by
  obtain ⟨op, res⟩ := d
  cases op <;> cases res <;> simp_all [Standing.after]

theorem Standing.savedPayment_after {st : Standing} {d : Event} {p : Payment}
    (h : (st.after d).savedPayment = some p) :
    d = ⟨.paymentSave p, .ok ()⟩ ∨ st.savedPayment = some p := by
  obtain ⟨op, res⟩ := d
  cases op <;> cases res <;> simp_all [Standing.after]

/-- A debt is due right after the save it comes from. -/
theorem Standing.owesPayment_after {st : Standing} {d : Event} {q : Quote}
    (h : (st.after d).owes = .payment q) :
    d = ⟨.quoteSave q, .ok ()⟩ ∧ q.status = .approved := by
  obtain ⟨op, res⟩ := d
  cases op <;> cases res <;> grind [Standing.after]

theorem Standing.owesOutcome_after {st : Standing} {d : Event} {p : Payment}
    (h : (st.after d).owes = .outcome p) : d = ⟨.paymentSave p, .ok ()⟩ := by
  obtain ⟨op, res⟩ := d
  cases op <;> cases res <;> grind [Standing.after]

/-- One more step: what a field tells was told before, or is about that step. -/
theorem Standing.Sums.after {st : Standing} {h : List Event} (hs : st.Sums h) (d : Event) :
    (st.after d).Sums (h ++ [d]) where
  quote q hq := by
    rcases Standing.quote_after hq with ⟨id, rfl⟩ | ⟨hq, -⟩
    · exact ⟨id, List.mem_append_right _ List.mem_cons_self⟩
    · obtain ⟨id, hmem⟩ := hs.quote q hq
      exact ⟨id, List.mem_append_left _ hmem⟩
  payment p hp := by
    rcases Standing.payment_after hp with ⟨id, rfl⟩ | ⟨hp, -⟩
    · exact ⟨id, List.mem_append_right _ List.mem_cons_self⟩
    · obtain ⟨id, hmem⟩ := hs.payment p hp
      exact ⟨id, List.mem_append_left _ hmem⟩
  savedQuote q hq := by
    rcases Standing.savedQuote_after hq with rfl | hq
    · exact List.mem_append_right _ List.mem_cons_self
    · exact List.mem_append_left _ (hs.savedQuote q hq)
  savedPayment p hp := by
    rcases Standing.savedPayment_after hp with rfl | hp
    · exact List.mem_append_right _ List.mem_cons_self
    · exact List.mem_append_left _ (hs.savedPayment p hp)
  wroteQuote hw q r hmem := by
    obtain ⟨hw, hd⟩ := Standing.wroteQuote_after hw
    rcases List.mem_append.mp hmem with hmem | hmem
    · exact hs.wroteQuote hw q r hmem
    · exact hd q (congrArg (·.op) (List.mem_singleton.mp hmem)).symm
  wrotePayment hw p r hmem := by
    obtain ⟨hw, hd⟩ := Standing.wrotePayment_after hw
    rcases List.mem_append.mp hmem with hmem | hmem
    · exact hs.wrotePayment hw p r hmem
    · exact hd p (congrArg (·.op) (List.mem_singleton.mp hmem)).symm
  owesPayment q ho := by
    obtain ⟨rfl, happroved⟩ := Standing.owesPayment_after ho
    exact ⟨happroved, rfl⟩
  owesOutcome p ho := by
    rw [Standing.owesOutcome_after ho]
    rfl

theorem standing_sums (h : List Event) : (standing h).Sums h := by
  induction h using List.reverseRecOn with
  | nil => constructor <;> grind [standing_nil, Standing.first]
  | append_singleton h d ih =>
    rw [standing_concat]
    exact ih.after d

/-! ## Duties -/

/-- The event of a payment's outcome. -/
def OutcomeEvent (p : Payment) (e : DomainEvent) : Prop :=
  (p.status = .confirmed ∧
      ∃ stamp, e = p.event .paymentConfirmed [("payment_id", p.paymentId)] stamp) ∨
    (p.status = .failed ∧ ∃ reason stamp,
      e = p.event .paymentFailed [("payment_id", p.paymentId), ("reason", reason)] stamp)

/-- The quote is the new one of this request. -/
def CreatesQuote (supply : Supply) (st : Standing) (q : Quote) : Prop :=
  q.quoteId = supply.quoteId ∧ q.status = .created ∧ q.total.currency = Money.defaultCurrency ∧
    st.wroteQuote = false

/-- The quote is the one in hand, approved. -/
def ApprovesQuote (st : Standing) (q : Quote) : Prop :=
  ∃ q₀, st.quote = some q₀ ∧ q₀.status = .created ∧ q = { q₀ with status := .approved }

/-- The gateway can give this preference for this quote. -/
def PaymentGateway.Gives (gateway : PaymentGateway) (q : Quote) (pref : PaymentPreference) : Prop :=
  ∃ key, (gateway.createCheckoutPreference key q.quoteId q.serviceOrderId q.total).CanReturn pref

/-- The payment is the new one of the quote just saved, with the preference that the gateway gave. -/
def OpensPayment (gateway : PaymentGateway) (supply : Supply) (st : Standing) (p : Payment) : Prop :=
  ∃ q pref, st.owes = .payment q ∧ st.wrotePayment = false ∧ gateway.Gives q pref ∧
    p = ⟨q.quoteId, q.serviceOrderId, q.total, supply.paymentId, .pending, some pref⟩

/-- How a settled payment may differ from what it was. -/
def Settled (p₀ p : Payment) : Prop :=
  (p₀.status = .pending ∧ p = { p₀ with status := .confirmed }) ∨
    (p₀.status ≠ .confirmed ∧ p = { p₀ with status := .failed })

/-- The payment is the one in hand: settled, or unchanged if the request checks a status. -/
def SettlesPayment (checks : Bool) (st : Standing) (p : Payment) : Prop :=
  ∃ p₀, st.payment = some p₀ ∧ (checks = true ∧ p = p₀ ∨ Settled p₀ p)

/-- The event is about what was saved. -/
inductive Announces (st : Standing) : DomainEvent → Prop where
  | created (q : Quote) (stamp : Stamp) (hq : st.savedQuote = some q) :
      Announces st (q.event .quoteCreated [("quote_id", q.quoteId)] stamp)
  | approved (q : Quote) (p : Payment) (stamp : Stamp) (hq : st.savedQuote = some q)
      (hs : q.status = .approved) (hp : st.savedPayment = some p) (hid : p.quoteId = q.quoteId) :
      Announces st (q.event .quoteApproved [("quote_id", q.quoteId)] stamp)
  | preference (p : Payment) (pref : PaymentPreference) (stamp : Stamp)
      (hp : st.savedPayment = some p) (hpref : p.preference = some pref) :
      Announces st (p.event .paymentPreferenceCreated
        [("payment_id", p.paymentId), ("preference_id", pref.preferenceId)] stamp)
  | outcome (p : Payment) (e : DomainEvent) (hp : st.savedPayment = some p)
      (he : OutcomeEvent p e) : Announces st e

/-- The next step (`none`: the end) pays what is due. -/
def Debt.Paid : Debt → Option Port → Prop
  | .nothing, _ => True
  | .payment q, o => ∃ p, o = some (.paymentSave p) ∧ p.quoteId = q.quoteId
  | .outcome p, o => ∃ e, o = some (.publish e) ∧ OutcomeEvent p e

/-- **The duty of a step** of a request with these ids, which checks a status or not. -/
def Duty (gateway : PaymentGateway) (supply : Supply) (checks : Bool) (h : List Event) (o : Port) :
    Prop :=
  (standing h).owes.Paid (some o) ∧
    match o with
    | .quoteSave q => CreatesQuote supply (standing h) q ∨ ApprovesQuote (standing h) q
    | .paymentSave p => OpensPayment gateway supply (standing h) p ∨ SettlesPayment checks (standing h) p
    | .publish e => Announces (standing h) e
    | _ => True

/-- What the answer of a status check says about the steps that were done. -/
def Reports (h : List Event) (p : Payment) : StatusAction → Prop
  | .confirmed => p.status = .confirmed ∧ ∃ e, ⟨.publish e, .ok ()⟩ ∈ h ∧ OutcomeEvent p e
  | .failed => p.status = .failed ∧ ∃ e, ⟨.publish e, .ok ()⟩ ∈ h ∧ OutcomeEvent p e
  | .duplicate => (p.status = .confirmed ∨ p.status = .failed) ∧
      ∃ h', h = h' ++ [⟨.paymentSave p, .ok ()⟩] ∧ (standing h').payment = some p ∧
        (standing h').wrotePayment = false
  | .ignored => ∃ h', h = h' ++ [⟨.paymentSave p, .ok ()⟩] ∧ (standing h').payment = some p ∧
      (standing h').wrotePayment = false

/-- What an approval that returned has done. -/
def Approved (quoteId : String) (h : List Event) (p : Payment) : Prop :=
  ∃ q₀ q, ⟨.quoteGet quoteId, .ok q₀⟩ ∈ h ∧ q₀.status = .created ∧
    q = { q₀ with status := .approved } ∧ ⟨.quoteSave q, .ok ()⟩ ∈ h ∧
    ⟨.paymentSave p, .ok ()⟩ ∈ h ∧ p.quoteId = q.quoteId

/-- Does the command check the status of a payment? -/
def Command.checksStatus [Python] : Command → Bool
  | .applyPaymentStatus _ => true
  | .syncPaymentStatus _ => true
  | _ => false

/-- What is true at the end of a request. -/
def Ends [Python] (command : Command) (h : List Event) (r : Except Exc Response) : Prop :=
  (standing h).owes.Paid none ∧
    match r with
    | .ok (.payment p) => ∀ quoteId, command = .approveQuote quoteId → Approved quoteId h p
    | .ok (.applied r) => command.checksStatus = true ∧ Reports h r.payment r.action
    | .ok (.synced r) => command.checksStatus = true ∧ Reports h r.payment r.action
    | _ => True

/-! ## The programs do their duties -/

/-- After a step that owes nothing, nothing is due. -/
theorem owes_concat {h : List Event} {d : Event} (hd : ((standing h).after d).owes = .nothing) :
    (standing (h ++ [d])).owes = .nothing := by
  rw [standing_concat]; exact hd

theorem paid_of_owes {h : List Event} {o : Option Port} (howes : (standing h).owes = .nothing) :
    (standing h).owes.Paid o := by
  rw [howes]; trivial

/-- The rule of a gateway call: the standing is the same before and after it. -/
theorem always_gateway {α : Type} {h : List Event} {supply : Supply} {checks : Bool}
    {p : Program sdk Exc α} {gateway : PaymentGateway}
    {Q : List Event → Except Exc α → Prop} (howes : (standing h).owes = .nothing)
    (hQ : ∀ h' r, standing h' = standing h → (∀ d ∈ h, d ∈ h') → (∀ a, r = .ok a → p.CanReturn a) →
      Q h' r) :
    Always (Duty gateway supply checks) Q h (PaymentGateway.call p) := by
  refine always_embed _ (fun h' hh o => ?_) (fun h' hh r hr => ?_)
  · exact ⟨paid_of_owes (by rw [standing_append_sdk hh howes]; exact howes), trivial⟩
  · exact hQ _ r (standing_append_sdk hh howes) (fun d hd => List.mem_append_left _ hd) hr

theorem createQuote_duties (command : CreateQuoteCommand) (supply : Supply) {checks : Bool}
    {gateway : PaymentGateway}
    {h : List Event}
    {Q : List Event → Except Exc Quote → Prop} (howes : (standing h).owes = .nothing)
    (hnew : (standing h).wroteQuote = false)
    (hQ : ∀ h' r, (standing h').owes = .nothing → Q h' r) :
    Always (Duty gateway supply checks) Q h (CreateQuoteUseCase.execute command supply) := by
  unfold CreateQuoteUseCase.execute
  rw [always_ofExcept_bind]
  refine ⟨fun total htotal => ?_, fun e _ => hQ _ _ howes⟩
  rw [always_ofExcept_bind]
  refine ⟨?_, fun e _ => hQ _ _ howes⟩
  rintro ⟨q, e⟩ hcreate
  obtain ⟨hq, he⟩ := Quote.create_eq_ok hcreate
  have hcur := (Money.make_eq_ok htotal).2
  have hcreated : q.status = .created := by rw [hq]
  dsimp only
  rw [always_perform_bind]
  refine ⟨⟨paid_of_owes howes, Or.inl ⟨by rw [hq], hcreated, by rw [hq]; exact hcur, hnew⟩⟩,
    fun _ => ?_, fun e' => hQ _ _ (owes_concat rfl)⟩
  rw [always_perform_bind]
  have howes' : (standing (h ++ [⟨.quoteSave q, .ok ()⟩])).owes = .nothing :=
    owes_concat (by simp [Standing.after, hcreated])
  have hsaved : (standing (h ++ [⟨.quoteSave q, .ok ()⟩])).savedQuote = some q := by
    rw [standing_concat]; rfl
  refine ⟨⟨paid_of_owes howes', ?_⟩, fun _ => hQ _ _ (owes_concat rfl),
    fun e' => hQ _ _ (owes_concat rfl)⟩
  rw [he]
  exact .created q _ hsaved

/-- The part that an approval ends with: two saves and two events, each about what was saved. -/
theorem open_duties {gateway : PaymentGateway} {supply : Supply} {checks : Bool} {h : List Event}
    {q₀ q : Quote} {p : Payment} {pref : PaymentPreference} {stamp stamp' : Stamp}
    {Q : List Event → Except Exc Payment → Prop}
    (hhand : standing h = ⟨some q₀, none, none, none, false, false, .nothing⟩)
    (hcreated : q₀.status = .created) (hq : q = { q₀ with status := .approved })
    (hgives : gateway.Gives q pref)
    (hp : p = ⟨q.quoteId, q.serviceOrderId, q.total, supply.paymentId, .pending, some pref⟩)
    (hraise : ∀ h' e, (standing h').owes = .nothing → Q h' (.error e))
    (hret : ∀ h', (standing h').owes = .nothing → (∀ d ∈ h, d ∈ h') → ⟨.quoteSave q, .ok ()⟩ ∈ h' →
      ⟨.paymentSave p, .ok ()⟩ ∈ h' → Q h' (.ok p)) :
    Always (Duty gateway supply checks) Q h (do
      QuoteRepository.save q
      PaymentRepository.save p
      EventPublisher.publish (q.event .quoteApproved [("quote_id", q.quoteId)] stamp)
      EventPublisher.publish (p.event .paymentPreferenceCreated
        [("payment_id", p.paymentId), ("preference_id", pref.preferenceId)] stamp')
      return p) := by
  have happroved : q.status = .approved := by rw [hq]
  rw [always_perform_bind]
  refine ⟨⟨paid_of_owes (by rw [hhand]), Or.inr ⟨q₀, by rw [hhand], hcreated, hq⟩⟩, fun _ => ?_,
    fun e => hraise _ _ (owes_concat rfl)⟩
  have h1 : standing (h ++ [⟨.quoteSave q, .ok ()⟩]) =
      ⟨none, none, some q, none, true, false, .payment q⟩ := by
    rw [standing_concat, hhand]
    simp [Standing.after, happroved]
  rw [always_perform_bind]
  refine ⟨⟨by rw [h1]; exact ⟨p, rfl, by rw [hp]⟩, Or.inl ⟨q, pref, by rw [h1], by rw [h1], hgives, hp⟩⟩,
    fun _ => ?_, fun e => hraise _ _ (owes_concat rfl)⟩
  have h2 : standing (h ++ [⟨.quoteSave q, .ok ()⟩] ++ [⟨.paymentSave p, .ok ()⟩]) =
      ⟨none, none, some q, some p, true, true, .nothing⟩ := by
    rw [standing_concat, h1]; rfl
  generalize hH : h ++ [(⟨.quoteSave q, .ok ()⟩ : Event)] ++ [⟨.paymentSave p, .ok ()⟩] = H at h2 ⊢
  rw [always_perform_bind]
  refine ⟨⟨paid_of_owes (by rw [h2]), ?_⟩, fun _ => ?_, fun e => hraise _ _ (owes_concat rfl)⟩
  · exact .approved q p _ (by rw [h2]) happroved (by rw [h2]) (by rw [hp])
  rw [always_perform_bind]
  refine ⟨⟨paid_of_owes (owes_concat rfl), ?_⟩, fun _ => ?_, fun e => hraise _ _ (owes_concat rfl)⟩
  · exact .preference p pref _ (by rw [standing_concat, h2]; rfl) (by rw [hp])
  · refine hret _ (owes_concat rfl) (fun d hd => ?_) ?_ ?_
    · simp [← hH, hd]
    · simp [← hH]
    · simp [← hH]

theorem approveQuote_duties (gateway : PaymentGateway) (quoteId : String) (supply : Supply)
    {checks : Bool} {Q : List Event → Except Exc Payment → Prop}
    (hQ : ∀ h' r, (standing h').owes = .nothing → (∀ p, r = .ok p → Approved quoteId h' p) → Q h' r) :
    Always (Duty gateway supply checks) Q [] (ApproveQuoteUseCase.execute gateway quoteId supply) := by
  have hraise : ∀ h' e, (standing h').owes = .nothing → Q h' (.error e) :=
    fun h' e ho => hQ h' _ ho fun p hp => by cases hp
  unfold ApproveQuoteUseCase.execute
  rw [always_perform_bind]
  refine ⟨⟨trivial, trivial⟩, fun q₀ => ?_, fun e => hraise _ _ rfl⟩
  rw [always_ofExcept_bind]
  refine ⟨?_, fun e _ => hraise _ _ rfl⟩
  rintro ⟨q, approvedEvent⟩ happrove
  obtain ⟨hcreated, hq, rfl⟩ := Quote.approve_eq_ok happrove
  dsimp only
  rw [always_perform_bind]
  refine ⟨⟨trivial, trivial⟩, fun _ => ?_, fun e => hraise _ _ rfl⟩
  rw [always_ofExcept_bind]
  refine ⟨?_, fun e _ => hraise _ _ rfl⟩
  intro p₀ hp₀
  obtain ⟨-, rfl⟩ := Payment.fromQuote_eq_ok hp₀
  rw [always_bind]
  unfold Payment.createPreference
  rw [always_ofExcept_bind]
  refine ⟨fun _ _ => ?_, fun e _ => hraise _ _ rfl⟩
  rw [always_bind]
  refine always_gateway rfl fun H r hst hmem hret => ?_
  have hget : (⟨.quoteGet quoteId, .ok q₀⟩ : Event) ∈ H := hmem _ (by simp)
  have hhand : standing H = ⟨some q₀, none, none, none, false, false, .nothing⟩ := hst
  cases r with
  | error e => exact hraise _ _ (by rw [hhand])
  | ok pref =>
    have hgives : gateway.Gives q pref := ⟨supply.idempotencyKey, hret pref rfl⟩
    simp only [thenAlways]
    rw [always_perform_bind]
    refine ⟨⟨paid_of_owes (by rw [hhand]), trivial⟩, fun _ => ?_,
      fun e => hraise _ _ (owes_concat rfl)⟩
    have hassigned : ∀ p, standing (H ++ [⟨.paymentAssign p, .ok ()⟩]) =
        ⟨some q₀, none, none, none, false, false, .nothing⟩ := by
      intro p
      rw [standing_concat, hhand]
      rfl
    refine open_duties (hassigned _) hcreated hq hgives rfl hraise fun h' ho hall hquote hpayment => ?_
    refine hQ h' _ ho fun p' hp' => ?_
    obtain rfl := Except.ok.inj hp'
    exact ⟨q₀, q, hall _ (List.mem_append_left _ hget), hcreated, hq, hquote, hpayment, rfl⟩

/-- The part that every settling of a payment ends with. -/
theorem settle_duties {α : Type} {gateway : PaymentGateway} {supply : Supply} {checks : Bool} {h : List Event} {p₀ p : Payment}
    {e : DomainEvent} {a : α} {Q : List Event → Except Exc α → Prop}
    (hhand : (standing h).payment = some p₀) (howes : (standing h).owes = .nothing)
    (hsettled : Settled p₀ p) (he : OutcomeEvent p e)
    (hraise : ∀ h' e', (standing h').owes = .nothing → Q h' (.error e'))
    (hret : ∀ h', (standing h').owes = .nothing → ⟨.publish e, .ok ()⟩ ∈ h' → Q h' (.ok a)) :
    Always (Duty gateway supply checks) Q h (do
      p.assign
      PaymentRepository.save p
      EventPublisher.publish e
      return a) := by
  rw [always_perform_bind]
  refine ⟨⟨paid_of_owes howes, trivial⟩, fun _ => ?_, fun e => hraise _ _ (owes_concat rfl)⟩
  have h1 : (standing (h ++ [⟨.paymentAssign p, .ok ()⟩])).payment = some p₀ := by
    rw [standing_concat]; exact hhand
  rw [always_perform_bind]
  refine ⟨⟨paid_of_owes (owes_concat rfl), Or.inr ⟨p₀, h1, Or.inr hsettled⟩⟩, fun _ => ?_,
    fun e => hraise _ _ (owes_concat rfl)⟩
  generalize h ++ [(⟨.paymentAssign p, .ok ()⟩ : Event)] = H at h1 ⊢
  -- the event is due unless the status was the same before, and allowed in any case
  have hpaid : (standing (H ++ [⟨.paymentSave p, .ok ()⟩])).owes.Paid (some (.publish e)) := by
    rw [standing_concat]
    simp only [Standing.after]
    split
    · trivial
    · exact ⟨e, rfl, he⟩
  have hsaved : (standing (H ++ [⟨.paymentSave p, .ok ()⟩])).savedPayment = some p := by
    rw [standing_concat]; rfl
  rw [always_perform_bind]
  exact ⟨⟨hpaid, .outcome p e hsaved he⟩, fun _ => hret _ (owes_concat rfl) (by simp),
    fun e => hraise _ _ (owes_concat rfl)⟩

theorem Settled.of_confirm {p₀ p : Payment} {stamp : Stamp} {e : DomainEvent}
    (h : p₀.confirm stamp = .ok (p, e)) :
    Settled p₀ p ∧ OutcomeEvent p e ∧ p.status = .confirmed := by
  obtain ⟨hpend, hp, he⟩ := Payment.confirm_eq_ok h
  have hs : p.status = .confirmed := by rw [hp]
  exact ⟨Or.inl ⟨hpend, hp⟩, Or.inl ⟨hs, stamp, he⟩, hs⟩

theorem Settled.of_fail {p₀ p : Payment} {reason : String} {stamp : Stamp} {e : DomainEvent}
    (h : p₀.fail reason stamp = .ok (p, e)) :
    Settled p₀ p ∧ OutcomeEvent p e ∧ p.status = .failed := by
  obtain ⟨hne, hp, he⟩ := Payment.fail_eq_ok h
  have hs : p.status = .failed := by rw [hp]
  exact ⟨Or.inr ⟨hne, hp⟩, Or.inr ⟨hs, reason, stamp, he⟩, hs⟩

theorem confirmPayment_duties (paymentId : String) (supply : Supply) {checks : Bool}
    {gateway : PaymentGateway}
    {Q : List Event → Except Exc Payment → Prop}
    (hQ : ∀ h' r, (standing h').owes = .nothing → Q h' r) :
    Always (Duty gateway supply checks) Q [] (ConfirmPaymentUseCase.execute paymentId supply) := by
  unfold ConfirmPaymentUseCase.execute
  rw [always_perform_bind]
  refine ⟨⟨trivial, trivial⟩, fun p₀ => ?_, fun e => hQ _ _ rfl⟩
  rw [always_ofExcept_bind]
  refine ⟨?_, fun e _ => hQ _ _ rfl⟩
  rintro ⟨p, e⟩ hconfirm
  obtain ⟨hsettled, he, -⟩ := Settled.of_confirm hconfirm
  exact settle_duties rfl rfl hsettled he (fun h' e' => hQ h' _) fun h' ho _ => hQ h' _ ho

theorem failPayment_duties (paymentId reason : String) (supply : Supply) {checks : Bool}
    {gateway : PaymentGateway}
    {Q : List Event → Except Exc Payment → Prop}
    (hQ : ∀ h' r, (standing h').owes = .nothing → Q h' r) :
    Always (Duty gateway supply checks) Q [] (FailPaymentUseCase.execute paymentId reason supply) := by
  unfold FailPaymentUseCase.execute
  rw [always_perform_bind]
  refine ⟨⟨trivial, trivial⟩, fun p₀ => ?_, fun e => hQ _ _ rfl⟩
  rw [always_ofExcept_bind]
  refine ⟨?_, fun e _ => hQ _ _ rfl⟩
  rintro ⟨p, e⟩ hfail
  obtain ⟨hsettled, he, -⟩ := Settled.of_fail hfail
  exact settle_duties rfl rfl hsettled he (fun h' e' => hQ h' _) fun h' ho _ => hQ h' _ ho

/-- The part that a status check which decides nothing ends with. -/
theorem unchanged_duties {α : Type} {gateway : PaymentGateway} {supply : Supply} {h : List Event} {p : Payment} {a : α}
    {Q : List Event → Except Exc α → Prop} (hhand : (standing h).payment = some p)
    (howes : (standing h).owes = .nothing)
    (hraise : ∀ h' e', (standing h').owes = .nothing → Q h' (.error e'))
    (hret : (standing (h ++ [⟨.paymentSave p, .ok ()⟩])).owes = .nothing →
      Q (h ++ [⟨.paymentSave p, .ok ()⟩]) (.ok a)) :
    Always (Duty gateway supply true) Q h (do
      PaymentRepository.save p
      return a) := by
  rw [always_perform_bind]
  refine ⟨⟨paid_of_owes howes, Or.inr ⟨p, hhand, Or.inl ⟨rfl, rfl⟩⟩⟩, fun _ => hret (owes_concat ?_),
    fun e => hraise _ _ (owes_concat rfl)⟩
  simp [Standing.after, hhand]

theorem applyPaymentStatus_duties (command : ApplyPaymentStatusCommand) (supply : Supply)
    {gateway : PaymentGateway}
    {h : List Event} {Q : List Event → Except Exc ApplyPaymentStatusResult → Prop}
    (howes : (standing h).owes = .nothing) (hnew : (standing h).wrotePayment = false)
    (hQ : ∀ h' r, (standing h').owes = .nothing →
      (∀ a, r = .ok a → Reports h' a.payment a.action) → Q h' r) :
    Always (Duty gateway supply true) Q h (ApplyPaymentStatusUseCase.execute command supply) := by
  have hraise : ∀ h' e, (standing h').owes = .nothing → Q h' (.error e) :=
    fun h' e ho => hQ h' _ ho fun p hp => by cases hp
  unfold ApplyPaymentStatusUseCase.execute
  rw [always_perform_bind]
  refine ⟨⟨paid_of_owes howes, trivial⟩, fun p₀ => ?_, fun e => hraise _ _ (owes_concat rfl)⟩
  have h1 : (standing (h ++ [⟨.paymentGet command.paymentId, .ok p₀⟩])).payment = some p₀ := by
    rw [standing_concat]; rfl
  have h2 : (standing (h ++ [⟨.paymentGet command.paymentId, .ok p₀⟩])).wrotePayment = false := by
    rw [standing_concat]; exact hnew
  have howes' : (standing (h ++ [⟨.paymentGet command.paymentId, .ok p₀⟩])).owes = .nothing :=
    owes_concat rfl
  generalize h ++ [(⟨.paymentGet command.paymentId, .ok p₀⟩ : Event)] = H at h1 h2 howes' ⊢
  rw [always_ofExcept_bind]
  refine ⟨?_, fun e _ => hraise _ _ howes'⟩
  rintro ⟨p, event, action⟩ hdecide
  rcases ApplyPaymentStatusUseCase.decide_eq_ok hdecide with
    ⟨-, rfl, e, rfl, hconfirm⟩ | ⟨rfl, e, rfl, hfail⟩ | ⟨rfl, rfl, rfl, hterm⟩ | ⟨rfl, rfl, rfl⟩
  · obtain ⟨hsettled, he, hs⟩ := Settled.of_confirm hconfirm
    refine settle_duties h1 howes' hsettled he hraise fun h' ho hpub => hQ _ _ ho ?_
    rintro a ⟨⟩
    exact ⟨hs, e, hpub, he⟩
  · obtain ⟨hsettled, he, hs⟩ := Settled.of_fail hfail
    refine settle_duties h1 howes' hsettled he hraise fun h' ho hpub => hQ _ _ ho ?_
    rintro a ⟨⟩
    exact ⟨hs, e, hpub, he⟩
  · refine unchanged_duties h1 howes' hraise fun ho => hQ _ _ ho ?_
    rintro a ⟨⟩
    exact ⟨hterm, H, rfl, h1, h2⟩
  · refine unchanged_duties h1 howes' hraise fun ho => hQ _ _ ho ?_
    rintro a ⟨⟩
    exact ⟨H, rfl, h1, h2⟩

theorem syncPaymentStatus_duties (gateway : PaymentGateway) (paymentId : String) (supply : Supply)
    {Q : List Event → Except Exc SyncPaymentStatusResult → Prop}
    (hQ : ∀ h' r, (standing h').owes = .nothing →
      (∀ a, r = .ok a → Reports h' a.payment a.action) → Q h' r) :
    Always (Duty gateway supply true) Q [] (SyncPaymentStatusUseCase.execute gateway paymentId supply) := by
  have hraise : ∀ h' e, (standing h').owes = .nothing → Q h' (.error e) :=
    fun h' e ho => hQ h' _ ho fun p hp => by cases hp
  unfold SyncPaymentStatusUseCase.execute
  rw [always_perform_bind]
  refine ⟨⟨trivial, trivial⟩, fun p₀ => ?_, fun e => hraise _ _ rfl⟩
  rw [always_bind]
  refine always_gateway rfl fun H r hst _ _ => ?_
  have howes : (standing H).owes = .nothing := by rw [hst]; rfl
  cases r with
  | error e => exact hraise _ _ howes
  | ok status =>
    simp only [thenAlways]
    rw [always_bind]
    refine applyPaymentStatus_duties _ supply howes (by rw [hst]; rfl) fun h' r ho hrep => ?_
    cases r with
    | error e => exact hraise h' e ho
    | ok result =>
      refine hQ _ _ ho ?_
      rintro a ⟨⟩
      exact hrep result rfl

theorem handle_duties [Python] (handler : BillingIntegrationEventHandler) (message : EventMessage)
    (supply : Supply) {checks : Bool} {gateway : PaymentGateway}
    {Q : List Event → Except Exc String → Prop}
    (hQ : ∀ h' r, (standing h').owes = .nothing → Q h' r) :
    Always (Duty gateway supply checks) Q [] (handler.handle message supply) := by
  unfold BillingIntegrationEventHandler.handle
  rw [always_ofExcept_bind]
  refine ⟨fun eventId _ => ?_, fun e _ => hQ _ _ rfl⟩
  rw [always_ofExcept_bind]
  refine ⟨fun eventType _ => ?_, fun e _ => hQ _ _ rfl⟩
  rw [always_ofExcept_bind]
  refine ⟨fun correlationId _ => ?_, fun e _ => hQ _ _ rfl⟩
  rw [always_perform_bind]
  refine ⟨⟨trivial, trivial⟩, fun processed => ?_, fun e => hQ _ _ rfl⟩
  split
  · exact hQ _ _ rfl
  · split
    · exact hQ _ _ rfl
    · rw [always_ofExcept_bind]
      refine ⟨fun payload _ => ?_, fun e _ => hQ _ _ rfl⟩
      rw [always_ofExcept_bind]
      refine ⟨fun serviceOrderId _ => ?_, fun e _ => hQ _ _ rfl⟩
      rw [always_bind]
      refine createQuote_duties _ supply rfl rfl fun h' r ho => ?_
      cases r with
      | error e => exact hQ _ _ ho
      | ok quote =>
        simp only [thenAlways]
        rw [always_perform_bind]
        exact ⟨⟨paid_of_owes ho, trivial⟩, fun _ => hQ _ _ (owes_concat rfl),
          fun e => hQ _ _ (owes_concat rfl)⟩

/-- **Every request does its duty**, whatever its steps answer. -/
theorem serve_duties [Python] (d : Deployment) (req : Request) :
    Always (Duty d.gateway req.supply req.command.checksStatus) (Ends req.command) [] (d.serve req) := by
  have hraise : ∀ h' e, (standing h').owes = .nothing → Ends req.command h' (.error e) :=
    fun h' e ho => ⟨paid_of_owes ho, trivial⟩
  unfold Deployment.serve
  split
  · rw [always_bind]
    refine createQuote_duties _ _ rfl rfl fun h' r ho => ?_
    cases r with
    | error e => exact hraise h' e ho
    | ok q => exact ⟨paid_of_owes ho, trivial⟩
  · rename_i quoteId hcmd
    rw [always_bind]
    refine approveQuote_duties _ _ _ fun h' r ho happ => ?_
    cases r with
    | error e => exact hraise h' e ho
    | ok p =>
      refine ⟨paid_of_owes ho, fun quoteId' hcmd' => ?_⟩
      rw [hcmd] at hcmd'
      cases hcmd'
      exact happ p rfl
  · rename_i paymentId hcmd
    rw [always_bind]
    refine confirmPayment_duties _ _ fun h' r ho => ?_
    cases r with
    | error e => exact hraise h' e ho
    | ok p => exact ⟨paid_of_owes ho, fun quoteId h => by rw [hcmd] at h; cases h⟩
  · rename_i paymentId reason hcmd
    rw [always_bind]
    refine failPayment_duties _ _ _ fun h' r ho => ?_
    cases r with
    | error e => exact hraise h' e ho
    | ok p => exact ⟨paid_of_owes ho, fun quoteId h => by rw [hcmd] at h; cases h⟩
  · rename_i command hcmd
    have hchecks : req.command.checksStatus = true := by rw [hcmd]; rfl
    rw [always_bind, hchecks]
    refine applyPaymentStatus_duties _ _ rfl rfl fun h' r ho hrep => ?_
    cases r with
    | error e => exact hraise h' e ho
    | ok result => exact ⟨paid_of_owes ho, hchecks, hrep result rfl⟩
  · rename_i paymentId hcmd
    have hchecks : req.command.checksStatus = true := by rw [hcmd]; rfl
    rw [always_bind, hchecks]
    refine syncPaymentStatus_duties _ _ _ fun h' r ho hrep => ?_
    cases r with
    | error e => exact hraise h' e ho
    | ok result => exact ⟨paid_of_owes ho, hchecks, hrep result rfl⟩
  · rw [always_bind]
    refine handle_duties _ _ _ fun h' r ho => ?_
    cases r with
    | error e => exact hraise h' e ho
    | ok text => exact ⟨paid_of_owes ho, trivial⟩

end Billing

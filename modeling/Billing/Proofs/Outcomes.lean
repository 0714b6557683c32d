/-
  The outcome of a payment, when requests interleave.

  A payment row is written by saves that nothing guards: each writes a copy that was read some steps
  before.  What a run needs so that no outcome gets lost is therefore a condition on its actions:

  * `keepsOutcome`  — no save puts another status over a stored `CONFIRMED` or `FAILED`;
  * `checksCurrent` — a status check that decided nothing writes back what is still stored.

  Under the first a final status stays (`HasStatus.next`), and with it every announcement of one
  (`OutcomesKept`), so contradictory outcomes are never announced.  Under the second a status check
  that decides nothing changes nothing.  Two runs show that the code itself keeps neither condition.
-/
import Billing.Proofs.Integrity

namespace Billing

open Py Atomic Program

/-! ## Final statuses -/

/-- `CONFIRMED` and `FAILED`. -/
def PaymentStatus.final : PaymentStatus → Bool
  | confirmed => true
  | failed => true
  | _ => false

/-- The payment with this id is stored with this status. -/
def Database.HasStatus (db : Database) (paymentId : String) (s : PaymentStatus) : Prop :=
  ∃ p, db.HasPayment p ∧ p.paymentId = paymentId ∧ p.status = s

theorem Database.HasPayment.hasStatus {db : Database} {p : Payment} (h : db.HasPayment p) :
    db.HasStatus p.paymentId p.status := ⟨p, h, rfl, rfl⟩

section Statuses

variable [Python]

theorem Database.HasStatus.unique {db : Database} {paymentId : String} {s s' : PaymentStatus}
    (h : db.HasStatus paymentId s) (h' : db.HasStatus paymentId s') : s = s' := by
  obtain ⟨p, hp, hid, rfl⟩ := h
  obtain ⟨p', hp', hid', rfl⟩ := h'
  rw [hp.unique hp' (hid.trans hid'.symm)]

/-- A status survives the save of another payment, or of the same one with this status. -/
theorem Database.HasStatus.save {db : Database} {paymentId : String} {s : PaymentStatus}
    (h : db.HasStatus paymentId s) {p : Payment}
    (hp : p.paymentId = paymentId → p.status = s) :
    (SqlAlchemyPaymentRepository.save db p).HasStatus paymentId s := by
  obtain ⟨p₀, hp₀, hid, hs⟩ := h
  by_cases hsame : p₀.paymentId = p.paymentId
  · have hid' : p.paymentId = paymentId := hsame.symm.trans hid
    exact ⟨p, Database.hasPayment_save.mpr (Or.inl rfl), hid', hp hid'⟩
  · exact ⟨p₀, Database.hasPayment_save.mpr (Or.inr ⟨hsame, hp₀⟩), hid, hs⟩

end Statuses

/-! ## Events and what they are about -/

/-- The quote that an event is about is stored, for the service order that the event names. -/
structure Database.QuoteOf (db : Database) (e : DomainEvent) (q : Quote) : Prop where
  stored : db.HasQuote q
  quoteId : e.payload.get? "quote_id" = some q.quoteId
  serviceOrderId : e.correlationId = q.serviceOrderId

/-- The payment that an event is about is stored, for the service order that the event names. -/
structure Database.PaymentOf (db : Database) (e : DomainEvent) (p : Payment) : Prop where
  stored : db.HasPayment p
  paymentId : e.payload.get? "payment_id" = some p.paymentId
  serviceOrderId : e.correlationId = p.serviceOrderId

/-- **The store reflects an event.** -/
def Database.Reflects (db : Database) (e : DomainEvent) : Prop :=
  e.payload.get? "service_order_id" = some e.correlationId ∧
    match e.eventType with
    | .quoteCreated => ∃ q, db.QuoteOf e q
    | .quoteApproved => ∃ q p, db.QuoteOf e q ∧ q.status = .approved ∧ db.HasPayment p ∧
        p.quoteId = q.quoteId
    | .quoteCancelled => False
    | .paymentPreferenceCreated => ∃ p pref, db.PaymentOf e p ∧ p.preference = some pref ∧
        e.payload.get? "preference_id" = some pref.preferenceId
    | .paymentConfirmed => ∃ p, db.PaymentOf e p ∧ p.status = .confirmed
    | .paymentFailed => ∃ p, db.PaymentOf e p ∧ p.status = .failed

theorem Database.QuoteOf.evolves {db db' : Database} {e : DomainEvent} {q : Quote}
    (h : db.QuoteOf e q) (hev : db.Evolves db') : ∃ q', db'.QuoteOf e q' ∧ q.Evolves q' := by
  obtain ⟨q', hq', he⟩ := hev.quotes q h.stored
  exact ⟨q', ⟨hq', by rw [he.quoteId]; exact h.quoteId,
    by rw [he.serviceOrderId]; exact h.serviceOrderId⟩, he⟩

theorem Database.PaymentOf.evolves {db db' : Database} {e : DomainEvent} {p : Payment}
    (h : db.PaymentOf e p) (hev : db.Evolves db') : ∃ p', db'.PaymentOf e p' ∧ p.Evolves p' := by
  obtain ⟨p', hp', he⟩ := hev.payments p h.stored
  exact ⟨p', ⟨hp', by rw [he.paymentId]; exact h.paymentId,
    by rw [he.serviceOrderId]; exact h.serviceOrderId⟩, he⟩

/-- What the store reflects, it reflects as long as objects evolve and final statuses stay. -/
theorem Database.Reflects.of_evolves [Python] {db db' : Database} {e : DomainEvent}
    (h : db.Reflects e) (hev : db.Evolves db')
    (hstays : ∀ id s, s.final = true → db.HasStatus id s → db'.HasStatus id s) :
    db'.Reflects e := by
  have outcome : ∀ s, s.final = true → (∃ p, db.PaymentOf e p ∧ p.status = s) →
      ∃ p, db'.PaymentOf e p ∧ p.status = s := by
    rintro s hs ⟨p, hp, rfl⟩
    obtain ⟨p', hp', he⟩ := hp.evolves hev
    have hst := hp'.stored.hasStatus
    rw [he.paymentId] at hst
    exact ⟨p', hp', hst.unique (hstays _ _ hs hp.stored.hasStatus)⟩
  obtain ⟨hso, hmatch⟩ := h
  refine ⟨hso, ?_⟩
  split at hmatch
  · obtain ⟨q, hq⟩ := hmatch
    obtain ⟨q', hq', _⟩ := hq.evolves hev
    exact ⟨q', hq'⟩
  · obtain ⟨q, p, hq, hs, hp, hid⟩ := hmatch
    obtain ⟨q', hq', heq⟩ := hq.evolves hev
    obtain ⟨p', hp', hep⟩ := hev.payments p hp
    exact ⟨q', p', hq', heq.approved hs, hp', by rw [hep.quoteId, hid, heq.quoteId]⟩
  · exact hmatch
  · obtain ⟨p, pref, hp, hpref, hid⟩ := hmatch
    obtain ⟨p', hp', he⟩ := hp.evolves hev
    exact ⟨p', pref, hp', by rw [he.preference]; exact hpref, hid⟩
  · exact outcome .confirmed rfl hmatch
  · exact outcome .failed rfl hmatch

/-! ## Runs that keep outcomes -/

section Outcomes

variable [Python] {d : Deployment}

/-- The action does not save a payment with another status over a final one. -/
def keepsOutcome (c : Config (system sql d)) (a : Action (system sql d)) : Bool :=
  match c.doing a with
  | some (_, _, .paymentSave p) =>
    match SqlAlchemyPaymentRepository.get c.state.store p.paymentId with
    | .ok stored => !stored.status.final || decide (stored.status = p.status)
    | .error _ => true
  | _ => true

variable {c c' : Config (system sql d)} {a : Action (system sql d)}

theorem keepsOutcome_save {i : Nat} {fate : (system sql d).Choice} {t : Thread (system sql d)} {p : Payment}
    {s : PaymentStatus} (hok : keepsOutcome c (.step i fate) = true)
    (hasks : c.Asks i t (.paymentSave p)) (hstored : c.state.store.HasStatus p.paymentId s)
    (hs : s.final = true) : p.status = s := by
  obtain ⟨p₀, hp₀, hid, rfl⟩ := hstored
  unfold keepsOutcome at hok
  rw [hasks.doing] at hok
  simp only [Database.payment_get_eq_ok.mpr ⟨hid, hp₀⟩, hs, Bool.not_true, Bool.false_or,
    decide_eq_true_eq] at hok
  exact hok.symm

/-- **A final status stays.** -/
theorem Database.HasStatus.next (hd : ∀ t ∈ c.threads, Dutiful t) (hok : keepsOutcome c a = true)
    (hn : c.next a = some c') {paymentId : String} {s : PaymentStatus} (hs : s.final = true)
    (h : c.state.store.HasStatus paymentId s) : c'.state.store.HasStatus paymentId s := by
  rcases write_cases hd hn with hsame | ⟨i, fate, t, q, _, _, hsave, _⟩ |
    ⟨i, fate, t, p, rfl, hasks, hsave, _⟩
  · obtain ⟨p, hp, hid⟩ := h
    exact ⟨p, hsame.hasPayment.mpr hp, hid⟩
  · rw [hsave]
    exact h
  · rw [hsave]
    refine h.save ?_
    rintro rfl
    exact keepsOutcome_save hok hasks h hs

/-- A payment that was saved with a final status is still stored with it. -/
def OutcomeStays (e : Event) (w : World sql) : Prop :=
  match e with
  | ⟨.paymentSave p, .ok _⟩ =>
    p.status.final = true → w.store.HasStatus p.paymentId p.status
  | _ => True

/-- **The invariant of runs that keep outcomes.** -/
structure OutcomesKept (c : Config (system sql d)) : Prop where
  saved : c.Knows OutcomeStays
  announced : ∀ e ∈ c.state.handed, c.state.store.Reflects e

/-- **An event that is about to be published is reflected already.** -/
theorem OutcomesKept.reflects (h : OutcomesKept c) (hI : Integrity c) {i : Nat}
    {t : Thread (system sql d)} {e : DomainEvent} (hasks : c.Asks i t (.publish e)) :
    c.state.store.Reflects e := by
  have hsums := standing_sums t.history
  have hquote : ∀ q, (standing t.history).savedQuote = some q →
      ∃ q', c.state.store.HasQuote q' ∧ q.Evolves q' :=
    fun q hq => hI.kept t hasks.mem _ (hsums.savedQuote q hq)
  have hpayment : ∀ p, (standing t.history).savedPayment = some p →
      ∃ p', c.state.store.HasPayment p' ∧ p.Evolves p' :=
    fun p hp => hI.kept t hasks.mem _ (hsums.savedPayment p hp)
  have hduty : Announces (standing t.history) e := (duty_of_asks hI.dutiful hasks).2
  cases hduty with
  | created q stamp hq =>
    obtain ⟨q', hq', he⟩ := hquote q hq
    exact ⟨rfl, q', hq', congrArg some he.quoteId.symm, he.serviceOrderId.symm⟩
  | approved q p stamp hq hs hp hid =>
    obtain ⟨q', hq', he⟩ := hquote q hq
    obtain ⟨p', hp', he'⟩ := hpayment p hp
    exact ⟨rfl, q', p', ⟨hq', congrArg some he.quoteId.symm, he.serviceOrderId.symm⟩,
      he.approved hs, hp', by rw [he'.quoteId, hid, he.quoteId]⟩
  | preference p pref stamp hp hpref =>
    obtain ⟨p', hp', he⟩ := hpayment p hp
    exact ⟨rfl, p', pref, ⟨hp', congrArg some he.paymentId.symm, he.serviceOrderId.symm⟩,
      by rw [he.preference]; exact hpref, rfl⟩
  | outcome p e hp hout =>
    obtain ⟨p', hp', he⟩ := hpayment p hp
    have hst := hp'.hasStatus
    rw [he.paymentId] at hst
    have hsaved := h.saved t hasks.mem _ (hsums.savedPayment p hp)
    rcases hout with ⟨hs, stamp, rfl⟩ | ⟨hs, reason, stamp, rfl⟩
    · have hfinal : p.status.final = true := by rw [hs]; rfl
      exact ⟨rfl, p', ⟨hp', congrArg some he.paymentId.symm, he.serviceOrderId.symm⟩,
        (hst.unique (hsaved hfinal)).trans hs⟩
    · have hfinal : p.status.final = true := by rw [hs]; rfl
      exact ⟨rfl, p', ⟨hp', congrArg some he.paymentId.symm, he.serviceOrderId.symm⟩,
        (hst.unique (hsaved hfinal)).trans hs⟩

theorem OutcomesKept.next (h : OutcomesKept c) (hI : Integrity c) (hok : keepsOutcome c a = true)
    (hn : c.next a = some c') : OutcomesKept c' := by
  have hreflects : ∀ e, c.state.store.Reflects e → c'.state.store.Reflects e := fun e he =>
    he.of_evolves (hI.evolves hn) fun _ _ hs hst => hst.next hI.dutiful hok hn hs
  constructor
  · refine h.saved.next hn ?_ ?_
    · rintro ⟨o, r⟩ hk
      unfold OutcomeStays at hk ⊢
      split at hk
      · exact fun hs => (hk hs).next hI.dutiful hok hn hs
      · trivial
    · intro i fate t o k r _ _ _ hx
      unfold OutcomeStays
      split
      · rename_i p u hdone
        cases hdone
        rw [exec_paymentSave hx]
        exact fun _ => (Database.hasPayment_save.mpr (Or.inl rfl)).hasStatus
      · trivial
  · intro e he
    rcases published_next hn with ⟨hhanded, _⟩ | ⟨i, fate, t, e', _, hasks, _, hhanded, _⟩
    · rw [hhanded] at he
      exact hreflects e (h.announced e he)
    · rw [hhanded] at he
      rcases List.mem_append.mp he with he | he
      · exact hreflects e (h.announced e he)
      · rw [List.mem_singleton.mp he]
        exact hreflects e' (h.reflects hI hasks)

theorem outcomesKept_start : OutcomesKept (start sql d) :=
  ⟨fun _ ht => absurd ht List.not_mem_nil, fun _ he => absurd he List.not_mem_nil⟩

theorem outcomesKept {c : Config (system sql d)}
    (H : Runs (fun c a => keepsOutcome c a = true) (start sql d) c) : OutcomesKept c :=
  (H.invariant (I := fun c => Integrity c ∧ OutcomesKept c) ⟨integrity_start, outcomesKept_start⟩
    fun _ _ _ h ha hn => ⟨h.1.next hn, h.2.next h.1 ha hn⟩).2

/-- The publisher was not handed two outcomes of one payment. -/
def World.OutcomesAgree {b : Backend} (w : World b) : Prop :=
  ∀ e ∈ w.handed, ∀ e' ∈ w.handed, e.eventType = .paymentConfirmed →
    e'.eventType = .paymentFailed → e.payload.get? "payment_id" ≠ e'.payload.get? "payment_id"

/-- **Contradictory outcomes are never announced**, in the runs that keep outcomes. -/
theorem outcomes_agree {c : Config (system sql d)}
    (H : Runs (fun c a => keepsOutcome c a = true) (start sql d) c) : c.state.OutcomesAgree := by
  intro e he e' he' hconf hfail hsame
  obtain ⟨_, hmatch⟩ := (outcomesKept H).announced e he
  obtain ⟨_, hmatch'⟩ := (outcomesKept H).announced e' he'
  rw [hconf] at hmatch
  rw [hfail] at hmatch'
  obtain ⟨p, hp, hs⟩ := hmatch
  obtain ⟨p', hp', hs'⟩ := hmatch'
  -- both are about one stored payment, which has one status
  have hid : p.paymentId = p'.paymentId := by
    rw [hp.paymentId, hp'.paymentId] at hsame
    exact Option.some.inj hsame
  rw [hp.stored.unique hp'.stored hid, hs'] at hs
  cases hs

end Outcomes

section Samples

open Sample

/-- A quote is created and approved; `payment-2` is pending. -/
def Sample.openedPayment : List (Action (system sql mock)) :=
  [create "1" "os-1"] ++ go 0 2 ++ [ask "2" (.approveQuote "quote-1")] ++ go 1 7

/-- Two confirmations interleave: both read `PENDING`, both save and publish. -/
def Sample.racingConfirms : List (Action (system sql mock)) :=
  openedPayment ++ [ask "3" (.confirmPayment "payment-2"), ask "4" (.confirmPayment "payment-2")] ++
    go 2 1 ++ go 3 1 ++ go 2 3 ++ go 3 3

/-- A confirmation and a failure interleave like this. -/
def Sample.racingOutcomes : List (Action (system sql mock)) :=
  openedPayment ++ [ask "3" (.confirmPayment "payment-2"), ask "4" (.failPayment "payment-2" "")] ++
    go 2 1 ++ go 3 1 ++ go 2 3 ++ go 3 3

theorem outcomes_agree_racing :
    ∃ c : Config (system sql mock), c.state.handed.length = 5 ∧ c.state.OutcomesAgree :=
  ⟨(start sql mock).played (fun c a => keepsOutcome c a = true) racingConfirms (by decide),
    by decide, outcomes_agree (Config.played_runs _ _ _)⟩

/-- **The code announces contradictory outcomes**: a confirmation and a failure that both read the
    payment while it was pending both save it and both publish. -/
theorem outcomes_disagree : ¬ ∀ c, Runs anyOrder (start sql mock) c → c.state.OutcomesAgree := by
  intro h
  have hagree := h _ (Config.played_runs _ racingOutcomes (by decide))
  revert hagree
  unfold World.OutcomesAgree
  decide

end Samples

/-! ## Status checks that decide nothing -/

/-- The action of a check that left the payment as it is. -/
def StatusAction.decidesNothing : StatusAction → Bool
  | ignored => true
  | duplicate => true
  | _ => false

/-- The payment and the action that a status check answered with. -/
def Response.checked : Response → Option (Payment × StatusAction)
  | applied result => some (result.payment, result.action)
  | synced result => some (result.payment, result.action)
  | _ => none

/-- A check that answered reports what it did. -/
theorem reports_of_returned [Python] {d : Deployment} {c : Config (system sql d)}
    (hd : ∀ t ∈ c.threads, Dutiful t) {i : Nat} {p : Payment} {action : StatusAction}
    (h : (c.returned i).bind Response.checked = some (p, action)) :
    ∃ t : Thread (system sql d), c.threads[i]? = some t ∧ t.req.command.checksStatus = true ∧
      Reports t.history p action := by
  obtain ⟨r, hret, hchecked⟩ := Option.bind_eq_some_iff.mp h
  obtain ⟨t, ht, hr⟩ := Config.returned_eq_some.mp hret
  have hends := (hd t (List.mem_of_getElem? ht)).at_ret hr
  cases r with
  | applied result => cases hchecked; exact ⟨t, ht, hends.2.1, hends.2.2⟩
  | synced result => cases hchecked; exact ⟨t, ht, hends.2.1, hends.2.2⟩
  | _ => cases hchecked

section Checks

variable [Python] {d : Deployment}

/-- The action is not a status check that writes back, unchanged, a payment which is not stored like
    that any more. -/
def checksCurrent (c : Config (system sql d)) (a : Action (system sql d)) : Bool :=
  match c.doing a with
  | some (req, h, .paymentSave p) =>
    !(Command.checksStatus (Request.command req) && decide ((standing h).payment = some p)) ||
      decide (SqlAlchemyPaymentRepository.get c.state.store p.paymentId = .ok p)
  | _ => true

/-- Up to `c`, no step of a check that decided nothing changed the payments, and no final status
    returned to `PENDING`. -/
structure ChecksChangeNothing (ok : Config (system sql d) → Action (system sql d) → Prop)
    (c : Config (system sql d)) : Prop where
  unchanged : ∀ i p action, (c.returned i).bind Response.checked = some (p, action) →
    action.decidesNothing = true →
    ∀ c₁ c₂ fate, Runs ok (start sql d) c₁ → ok c₁ (.step i fate) →
      c₁.next (.step i fate) = some c₂ → Runs ok c₂ c →
      Database.payments c₂.state.store = Database.payments c₁.state.store
  final : ∀ c₁ paymentId s, Runs ok (start sql d) c₁ → Runs ok c₁ c → s.final = true →
    c₁.state.store.HasStatus paymentId s → ¬ c.state.store.HasStatus paymentId .pending

variable {c c' : Config (system sql d)} {a : Action (system sql d)}

theorem checksCurrent_save {i : Nat} {fate : (system sql d).Choice} {t : Thread (system sql d)}
    {p : Payment} (hok : checksCurrent c (.step i fate) = true) (hasks : c.Asks i t (.paymentSave p))
    (hchecks : t.req.command.checksStatus = true) (hhand : (standing t.history).payment = some p) :
    c.state.store.HasPayment p := by
  unfold checksCurrent at hok
  rw [hasks.doing] at hok
  have hget : SqlAlchemyPaymentRepository.get c.state.store p.paymentId = .ok p := by
    simpa [hchecks, hhand] using hok
  exact (Database.payment_get_eq_ok.mp hget).2

/-- Once a payment has a final status, it has one ever after. -/
theorem finalStatus_next (hI : Integrity c) (hok : checksCurrent c a = true)
    (hn : c.next a = some c') {paymentId : String}
    (h : ∃ s, s.final = true ∧ c.state.store.HasStatus paymentId s) :
    ∃ s, s.final = true ∧ c'.state.store.HasStatus paymentId s := by
  obtain ⟨s, hs, p₀, hp₀, hid, rfl⟩ := h
  rcases write_cases hI.dutiful hn with hsame | ⟨i, fate, t, q, _, _, hsave, _⟩ |
    ⟨i, fate, t, p, rfl, hasks, hsave, hp⟩
  · exact ⟨_, hs, p₀, hsame.hasPayment.mpr hp₀, hid, rfl⟩
  · rw [hsave]
    exact ⟨_, hs, p₀, hp₀, hid, rfl⟩
  · rw [hsave]
    by_cases hsame : p₀.paymentId = p.paymentId
    · refine ⟨p.status, ?_, p, Database.hasPayment_save.mpr (Or.inl rfl), hsame.symm.trans hid, rfl⟩
      rcases hp with ⟨q, pref, _, hwrote, _, rfl⟩ | ⟨p₁, hhand, ⟨hchecks, rfl⟩ | ⟨_, rfl⟩ | ⟨_, rfl⟩⟩
      · exact absurd ⟨p₀, hp₀, hsame⟩ (hI.freshPayments.new t hasks.mem hwrote)
      · -- written back unchanged: it is what is stored
        rw [← hp₀.unique (checksCurrent_save hok hasks hchecks hhand) hsame]
        exact hs
      · rfl
      · rfl
    · exact ⟨_, hs, p₀, Database.hasPayment_save.mpr (Or.inr ⟨hsame, hp₀⟩), hid, rfl⟩

/-- A step that is no payment save leaves the payments alone. -/
theorem payments_next {i : Nat} {fate : (system sql d).Choice} {t : Thread (system sql d)} {o : Port}
    (hasks : c.Asks i t o) (hn : c.next (.step i fate) = some c') (ho : ∀ p, o ≠ .paymentSave p) :
    Database.payments c'.state.store = Database.payments c.state.store := by
  obtain ⟨t₁, o₁, k, r, s, hi, hr, hx, rfl⟩ := Config.next_step hn
  obtain ⟨rfl, rfl⟩ := hasks.unique hi hr
  rcases exec_cases hx with hsame | ⟨q, rfl, hsave⟩ | ⟨p, rfl, _⟩
  · exact hsame.2
  · exact (congrArg Database.payments hsave :)
  · exact absurd rfl (ho p)

/-- The save of a payment that is stored like this leaves the payments alone. -/
theorem payments_next_of_stored {i : Nat} {fate : (system sql d).Choice}
    {t : Thread (system sql d)} {p : Payment} (hasks : c.Asks i t (.paymentSave p))
    (hn : c.next (.step i fate) = some c') (hp : c.state.store.HasPayment p) :
    Database.payments c'.state.store = Database.payments c.state.store := by
  obtain ⟨t₁, o₁, k, r, s, hi, hr, hx, rfl⟩ := Config.next_step hn
  obtain ⟨rfl, rfl⟩ := hasks.unique hi hr
  rcases write_eq hx with rfl | rfl
  · rfl
  · exact hp.save_payments

omit [Python] in
/-- A check that decided nothing saved once, at its end, what it had read. -/
theorem reports_nothing {h : List Event} {p : Payment} {action : StatusAction}
    (hrep : Reports h p action) (haction : action.decidesNothing = true) :
    ∃ h', h = h' ++ [⟨.paymentSave p, .ok ()⟩] ∧ (standing h').payment = some p ∧
      (standing h').wrotePayment = false := by
  cases action with
  | confirmed => cases haction
  | failed => cases haction
  | ignored => exact hrep
  | duplicate => exact hrep.2

/-- **A status check that decides nothing changes nothing**, in the runs where it writes back what is
    stored. -/
theorem checks_change_nothing {c : Config (system sql d)}
    (H : Runs (fun c a => checksCurrent c a = true) (start sql d) c) :
    ChecksChangeNothing (fun c a => checksCurrent c a = true) c := by
  constructor
  · intro i p action hret hnothing c₁ c₂ fate H₁ hok hn H₂
    obtain ⟨t, ht, hchecks, hrep⟩ := reports_of_returned (dutiful H) hret
    obtain ⟨h', hh, hhand, hwrote⟩ := reports_nothing hrep hnothing
    -- the step at `c₁` is one of that history
    obtain ⟨t₁, o, k, res, s, hi, hr₁, hx, rfl⟩ := Config.next_step hn
    have hasks : c₁.Asks i t₁ o := ⟨hi, k, hr₁⟩
    have hlt : i < c₁.threads.length := (List.getElem?_eq_some_iff.mp hi).1
    obtain ⟨t', ht', hreq, hpre⟩ := H₂.history_grows (List.getElem?_set_self hlt)
    rw [ht] at ht'
    obtain rfl := Option.some.inj ht'
    rw [hh] at hpre
    rcases List.prefix_concat_iff.mp hpre with heq | hpre
    · -- it is the save
      obtain ⟨hhist, hd⟩ := List.append_inj' heq rfl
      cases hd
      refine payments_next_of_stored hasks hn (checksCurrent_save hok hasks ?_ ?_)
      · rw [← hreq]; exact hchecks
      · rw [hhist]; exact hhand
    · -- it came before the save
      refine payments_next hasks hn ?_
      rintro p' rfl
      have hmem : (⟨.paymentSave p', res⟩ : Event) ∈ h' := hpre.subset (by simp)
      exact (standing_sums h').wrotePayment hwrote p' res hmem
  · intro c₁ paymentId s H₁ H₂ hs hst hpend
    have hfinal := (H₂.invariant (I := fun c => Integrity c ∧
      ∃ s, s.final = true ∧ c.state.store.HasStatus paymentId s) ⟨integrity H₁, s, hs, hst⟩
      fun _ _ _ h ha hn => ⟨h.1.next hn, finalStatus_next h.1 ha hn h.2⟩).2
    obtain ⟨s', hs', hst'⟩ := hfinal
    rw [hst'.unique hpend] at hs'
    cases hs'

end Checks

section Samples

open Sample

/-- The provider's status is checked by hand. -/
def Sample.check (n paymentId providerStatus : String) : Action (system sql mock) :=
  ask n (.applyPaymentStatus ⟨paymentId, providerStatus, none⟩)

/-- A check finds the payment pending while a confirmation is under way, and is done before that
    saves. -/
def Sample.earlyCheck : List (Action (system sql mock)) :=
  openedPayment ++ [check "3" "payment-2" "in_process", ask "4" (.confirmPayment "payment-2")] ++
    go 3 1 ++ go 2 2 ++ go 3 3

/-- The check reads before the confirmation and writes back after it. -/
def Sample.lateCheck : List (Action (system sql mock)) :=
  openedPayment ++ [check "3" "payment-2" "in_process", ask "4" (.confirmPayment "payment-2")] ++
    go 2 1 ++ go 3 4

theorem checks_change_nothing_early :
    ChecksChangeNothing (fun c a => checksCurrent c a = true)
      ((start sql mock).played (fun c a => checksCurrent c a = true) earlyCheck (by decide)) :=
  checks_change_nothing (Config.played_runs _ _ _)

/-- **A check that decided nothing takes a confirmation back**: it writes its old copy over it. -/
theorem checks_change_something :
    ¬ ∀ c, Runs anyOrder (start sql mock) c → ChecksChangeNothing anyOrder c := by
  intro h
  have H₁ : Runs anyOrder (start sql mock) _ := Config.played_runs _ lateCheck (by decide)
  have H₂ : Runs anyOrder ((start sql mock).played anyOrder lateCheck (by decide)) _ :=
    Config.played_runs _ (go 2 1) (by decide)
  exact (h _ (H₁.trans H₂)).final _ "payment-2" .confirmed H₁ H₂ rfl
    (Database.payment_get_map_eq_ok.mp (by decide)) (Database.payment_get_map_eq_ok.mp (by decide))

end Samples

end Billing

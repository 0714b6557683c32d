/-
  A quote is approved once, when approvals interleave.

  `Quote.approve` refuses a quote that is not `CREATED`, but it looks at the copy that the request
  read; the gateway is called in between, and the save is unconditional.  The condition on a run is
  that the look was still right when the copy is saved:

  * `approvesCreated` — an approved quote is only saved over a `CREATED` one.

  From then on the stored quote is `APPROVED`, so no second request gets there: `ApprovedOnce` says
  that a quote has one approver, and that every payment row is the payment of its quote's approver.
-/
import Billing.Proofs.Integrity

namespace Billing

open Py Atomic Program

section Approvals

variable [Python] {d : Deployment}

/-- The action does not save an approved quote over one that is not `CREATED`. -/
def approvesCreated (c : Config (system sql d)) (a : Action (system sql d)) : Bool :=
  match c.doing a with
  | some (_, _, .quoteSave q) =>
    decide (q.status ≠ .approved) ||
      decide ((SqlAlchemyQuoteRepository.get c.state.store q.quoteId).map Quote.status = .ok .created)
  | _ => true

variable {c c' : Config (system sql d)} {a : Action (system sql d)}

theorem approvesCreated_save {i : Nat} {fate : (system sql d).Choice} {t : Thread (system sql d)}
    {q : Quote} (hok : approvesCreated c (.step i fate) = true) (hasks : c.Asks i t (.quoteSave q))
    (hq : q.status = .approved) :
    ∃ q₀, c.state.store.HasQuote q₀ ∧ q₀.quoteId = q.quoteId ∧ q₀.status = .created := by
  unfold approvesCreated at hok
  rw [hasks.doing] at hok
  have hget : (SqlAlchemyQuoteRepository.get c.state.store q.quoteId).map Quote.status =
      .ok .created := by
    simpa [hq] using hok
  exact Database.quote_get_map_eq_ok.mp hget

/-- The request has saved this quote, approved. -/
def Approver (quoteId : String) (t : Thread (system sql d)) : Prop :=
  ∃ q, ⟨.quoteSave q, .ok ()⟩ ∈ t.history ∧ q.quoteId = quoteId ∧ q.status = .approved

/-- **The invariant of runs that approve created quotes.** -/
structure ApprovedOnce (c : Config (system sql d)) : Prop where
  approver : ∀ (quoteId : String) (i j : Nat) (t u : Thread (system sql d)), c.threads[i]? = some t → c.threads[j]? = some u →
    Approver quoteId t → Approver quoteId u → i = j
  origin : ∀ p, c.state.store.HasPayment p →
    ∃ (i : Nat) (t : Thread (system sql d)), c.threads[i]? = some t ∧ Approver p.quoteId t ∧ p.paymentId = t.req.supply.paymentId

/-- A quote that has an approver is stored as approved. -/
theorem Approver.stored (hI : Integrity c) {quoteId : String} {t : Thread (system sql d)}
    (ht : t ∈ c.threads) (h : Approver quoteId t) :
    ∃ q, c.state.store.HasQuote q ∧ q.quoteId = quoteId ∧ q.status = .approved := by
  obtain ⟨q, hd, hid, hs⟩ := h
  obtain ⟨q', hq', hev⟩ := hI.kept t ht _ hd
  exact ⟨q', hq', hev.quoteId.trans hid, hev.approved hs⟩

/-- A thread that is an approver after an action was one before, or has just saved the quote. -/
theorem approver_next (hn : c.next a = some c') {j : Nat} {u : Thread (system sql d)}
    {quoteId : String} (hu : c'.threads[j]? = some u) (h : Approver quoteId u) :
    (∃ u₀, c.threads[j]? = some u₀ ∧ Approver quoteId u₀) ∨
      ∃ fate t q, a = .step j fate ∧ c.Asks j t (.quoteSave q) ∧ q.quoteId = quoteId ∧
        q.status = .approved := by
  obtain ⟨q, hd, hid, hs⟩ := h
  rcases Config.history_next hn hu hd with ⟨u₀, hu₀, _, hd⟩ | ⟨fate, t, ha, hasks, _⟩
  · exact Or.inl ⟨u₀, hu₀, q, hd, hid, hs⟩
  · exact Or.inr ⟨fate, t, q, ha, hasks, hid, hs⟩

/-- There is no approver of a quote that is saved as approved over a created one. -/
theorem no_approver (hI : Integrity c) {j : Nat} {fate : (system sql d).Choice}
    {t : Thread (system sql d)} {q : Quote} (hok : approvesCreated c (.step j fate) = true)
    (hasks : c.Asks j t (.quoteSave q)) (hs : q.status = .approved) {i : Nat}
    {u : Thread (system sql d)} (hu : c.threads[i]? = some u) : ¬ Approver q.quoteId u := by
  intro h
  obtain ⟨q₀, hq₀, hid₀, hcreated⟩ := approvesCreated_save hok hasks hs
  obtain ⟨q₁, hq₁, hid₁, happroved⟩ := h.stored hI (List.mem_of_getElem? hu)
  rw [hq₀.unique hq₁ (hid₀.trans hid₁.symm), happroved] at hcreated
  cases hcreated

theorem ApprovedOnce.next (h : ApprovedOnce c) (hI : Integrity c) (hok : approvesCreated c a = true)
    (hn : c.next a = some c') : ApprovedOnce c' := by
  -- whoever saved before stays in the pool with what it did
  have hstay : ∀ (i : Nat) (t : Thread (system sql d)) quoteId, c.threads[i]? = some t → Approver quoteId t →
      ∃ t' : Thread (system sql d), c'.threads[i]? = some t' ∧ Approver quoteId t' ∧
        t'.req = t.req := by
    rintro i t quoteId ht ⟨q, hd, hq⟩
    obtain ⟨t', ht', hreq, hpre⟩ := Config.thread_next hn ht
    exact ⟨t', ht', ⟨q, hpre.subset hd, hq⟩, hreq⟩
  constructor
  · intro quoteId i j t u ht hu hti huj
    rcases approver_next hn ht hti with ⟨t₀, ht₀, hold⟩ | ⟨fate, v, q, rfl, hasks, rfl, hs⟩
    · rcases approver_next hn hu huj with ⟨u₀, hu₀, hold'⟩ | ⟨fate, v, q, rfl, hasks, rfl, hs⟩
      · exact h.approver quoteId i j t₀ u₀ ht₀ hu₀ hold hold'
      · exact absurd hold (no_approver hI hok hasks hs ht₀)
    · rcases approver_next hn hu huj with ⟨u₀, hu₀, hold'⟩ | ⟨fate', v', q', ha, _⟩
      · exact absurd hold' (no_approver hI hok hasks hs hu₀)
      · cases ha
        rfl
  · intro p hp
    rcases hI.hasPayment_next hn hp with ⟨p₀, hp₀, hev⟩ |
      ⟨i, fate, t, _, hasks, q, pref, howes, _, _, rfl⟩
    · obtain ⟨i, t, ht, happ, hid⟩ := h.origin p₀ hp₀
      rw [← hev.quoteId] at happ
      obtain ⟨t', ht', happ', hreq⟩ := hstay i t _ ht happ
      exact ⟨i, t', ht', happ', by rw [hev.paymentId, hid, hreq]⟩
    · -- a new payment: its request has just saved the quote
      obtain ⟨hs, hsaved⟩ := (standing_sums t.history).owesPayment q howes
      have happ : Approver q.quoteId t := ⟨q, (standing_sums t.history).savedQuote q hsaved, rfl, hs⟩
      obtain ⟨t', ht', happ', hreq⟩ := hstay i t _ hasks.1 happ
      exact ⟨i, t', ht', happ', by rw [hreq]⟩

theorem approvedOnce_start : ApprovedOnce (start sql d) :=
  ⟨(fun _ _ _ _ _ h => by cases h), fun _ hp => by cases hp⟩

/-- At most one approval of a quote returns a payment, and at most one payment of it is ever stored,
    from `c` to `c'`. -/
structure QuotesApprovedOnce (c c' : Config (system sql d)) : Prop where
  returned : ∀ (quoteId : String) (i j : Nat) (t u : Thread (system sql d)) p p', c'.threads[i]? = some t → c'.threads[j]? = some u →
    t.req.command = .approveQuote quoteId → u.req.command = .approveQuote quoteId →
    t.rest = .ret (.payment p) → u.rest = .ret (.payment p') → i = j
  stored : ∀ p p', c.state.store.HasPayment p → c'.state.store.HasPayment p' →
    p.quoteId = p'.quoteId → p.paymentId = p'.paymentId

/-- **A quote is approved once**, in the runs that approve created quotes. -/
theorem quotes_approved_once {c c' : Config (system sql d)}
    (H : Runs (fun c a => approvesCreated c a = true) (start sql d) c)
    (H' : Runs (fun c a => approvesCreated c a = true) c c') : QuotesApprovedOnce c c' := by
  have hruns : Runs (fun c a => approvesCreated c a = true) (start sql d) c' := H.trans H'
  have hI' : Integrity c' := integrity hruns
  have honce : ApprovedOnce c' := (hruns.invariant (I := fun c => Integrity c ∧ ApprovedOnce c)
    ⟨integrity_start, approvedOnce_start⟩
    fun _ _ _ h ha hn => ⟨h.1.next hn, h.2.next h.1 ha hn⟩).2
  constructor
  · intro quoteId i j t u p p' ht hu hcmd hcmd' hr hr'
    have happrover : ∀ (i : Nat) (t : Thread (system sql d)) p, c'.threads[i]? = some t → t.req.command = .approveQuote quoteId →
        t.rest = .ret (.payment p) → Approver quoteId t := by
      intro i t p ht hcmd hr
      have hmem := List.mem_of_getElem? ht
      obtain ⟨q₀, q, hget, _, rfl, hsave, _⟩ := ((hI'.dutiful t hmem).at_ret hr).2 quoteId hcmd
      exact ⟨_, hsave, (hI'.kept t hmem _ hget).1, rfl⟩
    exact honce.approver quoteId i j t u ht hu (happrover i t p ht hcmd hr)
      (happrover j u p' hu hcmd' hr')
  · intro p p' hp hp' hid
    -- the earlier payment is still stored, and both are the payment of one request
    obtain ⟨p₁, hp₁, hev⟩ := ((integrity H).runs_evolves H').payments p hp
    obtain ⟨i, t, ht, happ, hpid⟩ := honce.origin p₁ hp₁
    obtain ⟨j, u, hu, happ', hpid'⟩ := honce.origin p' hp'
    rw [hev.quoteId, hid] at happ
    obtain rfl := honce.approver _ i j t u ht hu happ happ'
    rw [ht] at hu
    obtain rfl := Option.some.inj hu
    rw [← hev.paymentId, hpid, hpid']

end Approvals

section Samples

open Sample

/-- The second approval reads after the first has saved, and is refused. -/
def Sample.lateApproval : List (Action (system sql mock)) :=
  [create "1" "os-1"] ++ go 0 2 ++
    [ask "2" (.approveQuote "quote-1"), ask "3" (.approveQuote "quote-1")] ++
    go 1 4 ++ go 2 1 ++ go 1 3

/-- Both approvals read the created quote, and both go through. -/
def Sample.twoApprovals : List (Action (system sql mock)) :=
  racingApprovals ++ go 1 2 ++ go 2 5

theorem quotes_approved_once_late :
    QuotesApprovedOnce (start sql mock)
      ((start sql mock).played (fun c a => approvesCreated c a = true) lateApproval (by decide)) :=
  quotes_approved_once Relation.ReflTransGen.refl (Config.played_runs _ _ _)

/-- **The code approves a quote twice**: two approvals that both read the created quote both store a
    payment of it. -/
theorem quotes_approved_twice :
    ¬ ∀ c c', Runs anyOrder (start sql mock) c → Runs anyOrder c c' → QuotesApprovedOnce c c' := by
  intro h
  have H : Runs anyOrder (start sql mock) _ := Config.played_runs _ twoApprovals (by decide)
  have honce := h _ _ H Relation.ReflTransGen.refl
  obtain ⟨p, hp, hid, hq⟩ := Database.payment_get_map_eq_ok.mp
    (show (SqlAlchemyPaymentRepository.get ((start sql mock).played anyOrder twoApprovals
      (by decide)).state.store "payment-2").map Payment.quoteId = .ok "quote-1" by decide)
  obtain ⟨p', hp', hid', hq'⟩ := Database.payment_get_map_eq_ok.mp
    (show (SqlAlchemyPaymentRepository.get ((start sql mock).played anyOrder twoApprovals
      (by decide)).state.store "payment-3").map Payment.quoteId = .ok "quote-1" by decide)
  have hsame := honce.stored p p' hp hp' (hq.trans hq'.symm)
  rw [hid, hid'] at hsame
  revert hsame
  decide

end Samples

end Billing

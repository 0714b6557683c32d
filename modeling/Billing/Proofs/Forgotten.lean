/-
  What became of the messages that the broker has forgotten.

  A delivery is acked when the handler returned and nacked without requeue when anything raised, and
  the broker forgets the message either way.  What is true of a forgotten `OS_OPENED` message:

  * the event was processed, now or before, so a handling of a message with its `event_id` has saved
    its quote and published it (`OpenedFor`), or
  * a look-up of the event, the save or the publish raised while the message was handled.

  A raise of the mark loses nothing: it is the last step.  The first case speaks of a message with the
  same `event_id`, not of this one, because that is how the handler tells events apart.
-/
import Billing.Proofs.Deliveries

namespace Billing

open Py Atomic Program

/-! ## Answers -/

section Runs

variable [Python] {d : Deployment}

/-- A quote for the service order is stored, and its `QUOTE_CREATED` was accepted. -/
def HasAnswer (w : World sql) (serviceOrderId : String) : Prop :=
  ∃ q, w.store.HasQuote q ∧ q.serviceOrderId = serviceOrderId ∧
    ∃ e ∈ w.accepted, e.newQuote = some q.quoteId

/-- The message was answered, or another one that the handler takes for the same. -/
def Answered (c : Config (system sql d)) (m : EventMessage) : Prop :=
  ∃ t ∈ c.threads, ∃ m' serviceOrderId, t.req.command = .handle m' ∧ m'.eventId = m.eventId ∧
    m'.eventType = "OS_OPENED" ∧ m'.serviceOrderId = some serviceOrderId ∧
    HasAnswer c.state serviceOrderId

/-- Is the step one that the handler does before the mark? -/
def Port.beforeMark : Port → Bool
  | isProcessed _ => true
  | quoteSave _ => true
  | publish _ => true
  | _ => false

/-- A look-up, a save or a publish raised in thread `i`. -/
def RaisedIn (c : Config (system sql d)) (i : Nat) : Prop :=
  ∃ t, c.threads[i]? = some t ∧ ∃ o e, Port.beforeMark o = true ∧ (⟨o, .error e⟩ : Event) ∈ t.history

/-! ## What a look-up found is still there -/

/-- What a look-up that found the event tells about the store, from then on. -/
def Seen (e : Event) (w : World sql) : Prop :=
  match e with
  | ⟨.isProcessed eventId, .ok true⟩ =>
    SqlAlchemyProcessedEventRepository.isProcessed w.store eventId = true
  | _ => True

/-- An event that a handling has opened has its answer. -/
theorem OpenedFor.answered {c : Config (system sql d)} (hI : Integrity c) {m : EventMessage}
    (h : OpenedFor c m.eventId) : Answered c m := by
  obtain ⟨t, ht, m', q, e, hm', hid, htype, hopening, hsave, hpublish⟩ := h
  obtain ⟨command, hcommand, hopening⟩ := BillingIntegrationEventHandler.opening_eq_ok hopening
  obtain ⟨-, hso, -, -, -, he⟩ := CreateQuoteUseCase.opening_eq_ok hopening
  obtain ⟨q', hq', hev⟩ := hI.kept t ht _ hsave
  have haccepted : e ∈ c.state.accepted := hI.kept t ht _ hpublish
  have hnew : e.newQuote = some q'.quoteId := by
    rw [he, Quote.newQuote_created, hev.quoteId]
  exact ⟨t, ht, m', command.serviceOrderId, hm', hid, htype, (BillingIntegrationEventHandler.commanding_eq_ok hcommand).1, q',
    hq', hev.serviceOrderId.trans hso, e, haccepted, hnew⟩

/-- **How the handling of a well-formed message can have ended.** -/
theorem SettledBy.answered {c : Config (system sql d)} (hI : Integrity c) (hseen : c.Knows Seen)
    (hmarked : ∀ eventId, SqlAlchemyProcessedEventRepository.isProcessed c.state.store eventId = true →
      OpenedFor c eventId) {i : Nat} {m : EventMessage} (hwf : WellFormed d.handler m)
    (h : SettledBy c i m) : Answered c m ∨ RaisedIn c i := by
  obtain ⟨t, r, hi, hm, -, hhandled⟩ := h
  have ht : t ∈ c.threads := List.mem_of_getElem? hi
  cases r with
  | ok text =>
    rcases hhandled with ⟨-, hhistory⟩ | ⟨-, htype, -⟩ | ⟨-, htype, q, e, hopening, hhistory⟩
    · -- it was skipped: the event was processed before
      have hdone := hseen t ht ⟨.isProcessed m.eventId, .ok true⟩ (by rw [hhistory]; simp)
      exact Or.inl ((hmarked _ hdone).answered hI)
    · exact absurd hwf.osOpened htype
    · have hopened : OpenedFor c m.eventId := ⟨t, ht, m, q, e, hm, rfl, htype, hopening,
        by rw [hhistory]; simp, by rw [hhistory]; simp⟩
      exact Or.inl (hopened.answered hI)
  | error x =>
    rcases hhandled with ⟨h', o, hhistory, hhandles⟩ | ⟨-, -, hopening⟩
    · have hlast : (⟨o, .error x⟩ : Event) ∈ t.history := by rw [hhistory]; simp
      have hraised : Port.beforeMark o = true → RaisedIn c i := fun ho => ⟨t, hi, o, x, ho, hlast⟩
      cases o with
      | isProcessed eventId => exact Or.inr (hraised rfl)
      | quoteSave q => exact Or.inr (hraised rfl)
      | publish e => exact Or.inr (hraised rfl)
      | markProcessed eventId eventType correlationId =>
        -- everything but the mark was done
        obtain ⟨htype, -, -, -, q, e, hopening, rfl⟩ := hhandles
        have hopened : OpenedFor c m.eventId := ⟨t, ht, m, q, e, hm, rfl, htype, hopening,
          by rw [hhistory]; simp, by rw [hhistory]; simp⟩
        exact Or.inl (hopened.answered hI)
      | quoteGet id => exact hhandles.elim
      | quoteAssign q => exact hhandles.elim
      | paymentGet id => exact hhandles.elim
      | paymentSave p => exact hhandles.elim
      | paymentAssign p => exact hhandles.elim
      | sdk call => exact hhandles.elim
    · obtain ⟨q, e, hok⟩ := hwf.opening t.req.supply
      rw [hok] at hopening
      cases hopening

end Runs

section Samples

open Sample

end Samples

end Billing

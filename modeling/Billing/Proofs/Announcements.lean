/-
  Who announces a new quote.

  Only the request that drew the id of a quote publishes its `QUOTE_CREATED`, after it saved the quote,
  and it does so once (`announces_own`).  Ids are fresh, so in every run each quote is announced at
  most once, and a quote that was announced is stored: `Announcements` is the invariant.

  What the publisher accepted is part of what it was handed, in the same order.
-/
import Billing.Proofs.Handling
import Billing.Proofs.Integrity

namespace Billing

open Py Atomic

/-- The quote that an event announces as new. -/
def DomainEvent.newQuote (self : DomainEvent) : Option String :=
  if self.eventType = .quoteCreated then self.payload.get? "quote_id" else none

theorem Quote.newQuote_created (q : Quote) (stamp : Stamp) :
    (q.event .quoteCreated [("quote_id", q.quoteId)] stamp).newQuote = some q.quoteId := rfl

theorem DomainEvent.newQuote_of_ne {e : DomainEvent} (h : e.eventType ≠ .quoteCreated) :
    e.newQuote = none := if_neg h

section Announcements

variable [Python] {d : Deployment} {c c' : Config (system sql d)} {a : Action (system sql d)}

/-- A thread that keeps to the script of its request. -/
abbrev Obedient (t : Thread (system sql d)) : Prop := t.Follows (Serves d) (Served d)

theorem obedient_next (hn : c.next a = some c') (h : ∀ t ∈ c.threads, Obedient t) :
    ∀ t ∈ c'.threads, Obedient t := Config.follows_next (serve_script d) hn h

theorem serves_of_asks (h : ∀ t ∈ c.threads, Obedient t) {i : Nat} {t : Thread (system sql d)}
    {o : Port} (ha : c.Asks i t o) : Serves d t.req t.history o := by
  obtain ⟨k, hk⟩ := ha.2
  exact ((h t ha.mem).at_step hk).1

/-- **A request announces a new quote once**, as its own, when it has saved it. -/
theorem announces_own {req : Request} {h : List Event} {e : DomainEvent}
    (hs : Serves d req h (.publish e)) {id : String} (hid : e.newQuote = some id) :
    id = req.supply.quoteId ∧ (∃ q, q.quoteId = id ∧ ⟨.quoteSave q, .ok ()⟩ ∈ h) ∧
      ∀ e' r, ⟨.publish e', r⟩ ∉ h := by
  have opened : ∀ {command q}, CreateQuoteUseCase.opening command req.supply = .ok (q, e) →
      q.quoteId = id ∧ id = req.supply.quoteId := by
    intro command q hopening
    obtain ⟨hq, -, -, -, -, he⟩ := CreateQuoteUseCase.opening_eq_ok hopening
    rw [he, Quote.newQuote_created] at hid
    obtain rfl := Option.some.inj hid
    exact ⟨rfl, hq⟩
  have plain : (Port.publish e).plain = true → False := by
    intro hplain
    rw [DomainEvent.newQuote_of_ne (of_decide_eq_true hplain)] at hid
    cases hid
  unfold Serves at hs
  split at hs
  · obtain ⟨-, q, hopening, rfl⟩ := hs
    obtain ⟨command, -, hopening⟩ := BillingIntegrationEventHandler.opening_eq_ok hopening
    obtain ⟨hq, hown⟩ := opened hopening
    exact ⟨hown, ⟨q, hq, by simp⟩, by simp⟩
  · obtain ⟨q, hopening, rfl⟩ := hs
    obtain ⟨hq, hown⟩ := opened hopening
    exact ⟨hown, ⟨q, hq, by simp⟩, by simp⟩
  · exact (plain hs).elim

/-- The request that drew the id has saved the quote and published the event. -/
def AnnouncedBy (c : Config (system sql d)) (e : DomainEvent) (id : String) : Prop :=
  ∃ (i : Nat) (t : Thread (system sql d)), c.threads[i]? = some t ∧ t.req.supply.quoteId = id ∧
    (∃ q, q.quoteId = id ∧ ⟨.quoteSave q, .ok ()⟩ ∈ t.history) ∧ ∃ r, ⟨.publish e, r⟩ ∈ t.history

theorem AnnouncedBy.next {e : DomainEvent} {id : String} (h : AnnouncedBy c e id)
    (hn : c.next a = some c') : AnnouncedBy c' e id := by
  obtain ⟨i, t, ht, hid, ⟨q, hq, hsave⟩, r, hpublish⟩ := h
  obtain ⟨t', ht', hreq, hpre⟩ := Config.thread_next hn ht
  exact ⟨i, t', ht', by rw [hreq, hid], ⟨q, hq, hpre.subset hsave⟩, r, hpre.subset hpublish⟩

/-- **The invariant**: each new quote was announced at most once, by the request that saved it. -/
structure Announcements (c : Config (system sql d)) : Prop where
  obedient : ∀ t ∈ c.threads, Obedient t
  once : (c.state.handed.filterMap DomainEvent.newQuote).Nodup
  source : ∀ e ∈ c.state.handed, ∀ id, e.newQuote = some id → AnnouncedBy c e id
  accepted : c.state.accepted.Sublist c.state.handed

theorem announcements_start : Announcements (start sql d) where
  obedient := fun _ ht => absurd ht List.not_mem_nil
  once := List.nodup_nil
  source := fun _ he => absurd he List.not_mem_nil
  accepted := List.Sublist.refl []

theorem Announcements.next (hA : Announcements c) (hI : Integrity c) (hn : c.next a = some c') :
    Announcements c' := by
  rcases published_next hn with ⟨hhanded, hacc⟩ | ⟨i, fate, t, e, rfl, hasks, -, hhanded, hacc⟩
  · exact ⟨obedient_next hn hA.obedient, by rw [hhanded]; exact hA.once,
      fun e he id hid => (hA.source e (hhanded ▸ he) id hid).next hn,
      by rw [hhanded, hacc]; exact hA.accepted⟩
  · obtain ⟨t₀, o, k, r, s, hi, hr, hx, rfl⟩ := Config.next_step hn
    obtain ⟨rfl, rfl⟩ := hasks.unique hi hr
    have hserves := serves_of_asks hA.obedient hasks
    refine ⟨obedient_next hn hA.obedient, ?_, ?_, ?_⟩
    · rw [hhanded, List.filterMap_append]
      cases hid : e.newQuote with
      | none =>
        rw [show [e].filterMap DomainEvent.newQuote = [] by simp [hid], List.append_nil]
        exact hA.once
      | some id =>
        rw [show [e].filterMap DomainEvent.newQuote = [id] by simp [hid], List.nodup_append]
        refine ⟨hA.once, List.nodup_singleton _, ?_⟩
        rintro id' hid' id'' hid'' rfl
        obtain rfl := List.mem_singleton.mp hid''
        -- who announced it before has the same supply, so it is this thread
        obtain ⟨e', he', hid'⟩ := List.mem_filterMap.mp hid'
        obtain ⟨j, u, hu, hsupply, -, r', hpublish⟩ := hA.source e' he' _ hid'
        obtain ⟨hid₀, -, hfirst⟩ := announces_own hserves hid
        have hji : j = i := Config.index_unique
          (f := fun req : Request => req.supply.quoteId) hI.freshQuotes.distinct hu hi
          (hsupply.trans hid₀)
        rw [hji, hi] at hu
        obtain rfl := Option.some.inj hu
        exact hfirst _ _ hpublish
    · intro e' he' id hid
      rw [hhanded] at he'
      rcases List.mem_append.mp he' with he' | he'
      · exact (hA.source e' he' id hid).next hn
      · obtain rfl := List.mem_singleton.mp he'
        obtain ⟨hid₀, ⟨q, hq, hsave⟩, -⟩ := announces_own hserves hid
        have hlt := (List.getElem?_eq_some_iff.mp hi).1
        exact ⟨i, _, List.getElem?_set_self hlt, hid₀.symm,
          ⟨q, hq, List.mem_append_left _ hsave⟩, r, List.mem_append_right _ List.mem_cons_self⟩
    · rw [hhanded]
      rcases hacc with hacc | hacc
      · rw [hacc]; exact hA.accepted.append (List.Sublist.refl _)
      · rw [hacc]; exact hA.accepted.trans (List.sublist_append_left _ _)

/-- A quote that was announced as new is stored. -/
theorem Announcements.stored (hA : Announcements c) (hI : Integrity c) {e : DomainEvent}
    (he : e ∈ c.state.handed) {id : String} (hid : e.newQuote = some id) :
    ∃ q, c.state.store.HasQuote q ∧ q.quoteId = id := by
  obtain ⟨i, t, ht, -, ⟨q, hq, hsave⟩, -⟩ := hA.source e he id hid
  obtain ⟨q', hq', hev⟩ := hI.kept t (List.mem_of_getElem? ht) _ hsave
  exact ⟨q', hq', hev.quoteId.trans hq⟩

/-- The publisher accepted at most one announcement of each quote. -/
theorem Announcements.accepted_once (hA : Announcements c) :
    (c.state.accepted.filterMap DomainEvent.newQuote).Nodup :=
  hA.once.sublist (hA.accepted.filterMap _)

end Announcements

end Billing

/-
  Requests served one at a time, with failures anywhere.

  Nothing happens between two steps of the running request, so what it has in hand is what is stored
  (`in_hand`), and the conditions that interleaved runs need hold by themselves.  `keeps_outcome` is
  the one the events rest on: no event is published without its state.
-/
import Billing.Proofs.Outcomes

namespace Billing

open Py Atomic Program

section Sequential

variable [Python] {d : Deployment}

/-- What a request has in hand is stored. -/
structure InHand (h : List Event) (db : Database) : Prop where
  quote : ∀ q, (standing h).quote = some q → db.HasQuote q
  payment : ∀ p, (standing h).payment = some p → db.HasPayment p

omit [Python] in
theorem inHand_nil (db : Database) : InHand [] db :=
  ⟨(fun _ h => by cases h), fun _ h => by cases h⟩

/-- A step of its own keeps it so. -/
theorem InHand.step {h : List Event} {w w' : World sql} {o : Port} {fate : Fate}
    {r : Except Exc o.Res} (hh : InHand h w.store) (hx : w.exec o fate = some (r, w')) :
    InHand (h ++ [⟨o, r⟩]) w'.store := by
  constructor
  · intro q hq
    rw [standing_concat] at hq
    rcases Standing.quote_after hq with ⟨id, hd⟩ | ⟨hold, hnosave⟩
    · cases hd
      obtain ⟨rfl, _, hq⟩ := exec_quoteGet hx
      exact hq
    · rcases exec_cases hx with hsame | ⟨q', rfl, _⟩ | ⟨p, _, hsave⟩
      · exact hsame.hasQuote.mpr (hh.quote q hold)
      · exact absurd rfl (hnosave q')
      · rw [hsave]
        exact hh.quote q hold
  · intro p hp
    rw [standing_concat] at hp
    rcases Standing.payment_after hp with ⟨id, hd⟩ | ⟨hold, hnosave⟩
    · cases hd
      obtain ⟨rfl, _, hp⟩ := exec_paymentGet hx
      exact hp
    · rcases exec_cases hx with hsame | ⟨q, _, hsave⟩ | ⟨p', rfl, _⟩
      · exact hsame.hasPayment.mpr (hh.payment p hold)
      · rw [hsave]
        exact hh.payment p hold
      · exact absurd rfl (hnosave p')

/-- **What the running request has in hand is what is stored.** -/
theorem in_hand {ok : Config (system sql d) → Action (system sql d) → Prop}
    (hok : ∀ c a, ok c a → oneAtATime c a) {c : Config (system sql d)}
    (H : Runs ok (start sql d) c) {i : Nat} {t : Thread (system sql d)} {o : Port}
    (hasks : c.Asks i t o) : InHand t.history c.state.store := by
  refine H.running_knows (G := fun _ h (w : World sql) => InHand h w.store) hok
    (fun _ _ _ _ _ _ => inHand_nil _) (fun _ _ _ _ _ _ _ hh hx => hh.step hx) rfl t hasks.mem ?_
  obtain ⟨_, k, hk⟩ := hasks
  rw [Thread.running, hk]
  rfl

/-- **One at a time, outcomes are kept.** -/
theorem keeps_outcome {ok : Config (system sql d) → Action (system sql d) → Prop}
    (hok : ∀ c a, ok c a → oneAtATime c a) {c : Config (system sql d)}
    (H : Runs ok (start sql d) c) (a : Action (system sql d)) : keepsOutcome c a = true := by
  unfold keepsOutcome
  split
  · rename_i req h p hdoing
    split
    · rename_i stored hget
      obtain ⟨hid, hstored⟩ := Database.payment_get_eq_ok.mp hget
      obtain ⟨i, fate, t, rfl, hasks, rfl, rfl⟩ := Config.asks_of_doing hdoing
      have hI := integrity H
      rcases (duty_of_asks hI.dutiful hasks).2 with ⟨q, pref, _, hwrote, _, rfl⟩ | ⟨p₀, hhand, hset⟩
      · -- a new payment: nothing is stored under its id
        exact absurd ⟨stored, hstored, hid⟩ (hI.freshPayments.new t hasks.mem hwrote)
      · have hp₀ := (in_hand hok H hasks).payment p₀ hhand
        have hpid : p.paymentId = p₀.paymentId := by
          rcases hset with ⟨_, rfl⟩ | ⟨_, rfl⟩ | ⟨_, rfl⟩ <;> rfl
        obtain rfl := hp₀.unique hstored (hpid.symm.trans hid.symm)
        rcases hset with ⟨_, rfl⟩ | ⟨hpend, rfl⟩ | ⟨hne, rfl⟩
        · simp
        · rw [hpend]; rfl
        · cases hs : p₀.status with
          | confirmed => exact absurd hs hne
          | failed => simp
          | waitingPreference => rfl
          | pending => rfl
    · rfl
  · rfl

/-- **No event without its state.**  When an event is about to be handed to the publisher, the store
    reflects it; and in every state of the run the store reflects every event handed so far. -/
theorem no_event_without_state {c : Config (system sql d)} (H : Runs oneAtATime (start sql d) c) :
    (∀ i t e, c.Asks i t (.publish e) → c.state.store.Reflects e) ∧
      ∀ e ∈ c.state.handed, c.state.store.Reflects e := by
  have hkeeps : Runs (fun c a => keepsOutcome c a = true) (start sql d) c :=
    H.strengthen fun c a _ H _ _ => keeps_outcome (fun _ _ h => h) H a
  have hkept := outcomesKept hkeeps
  exact ⟨fun i t e hasks => hkept.reflects (integrity H) hasks, hkept.announced⟩

end Sequential

section Samples

open Sample

/-- One request after the other, and the broker is down for the second event of the approval. -/
def Sample.brokerDown : List (Action (system sql mock)) :=
  [create "1" "os-1"] ++ go 0 2 ++ [ask "2" (.approveQuote "quote-1")] ++ go 1 6 ++
    [.step 1 (.raises (.infrastructure "broker unavailable") false),
      ask "3" (.failPayment "payment-2" "card refused")] ++ go 2 4

theorem no_event_without_state_brokerDown :
    ∃ c : Config (system sql mock), c.state.handed.length = 4 ∧ c.state.accepted.length = 3 ∧
      ∀ e ∈ c.state.handed, c.state.store.Reflects e :=
  ⟨(start sql mock).played oneAtATime brokerDown (by decide), by decide, by decide,
    (no_event_without_state (Config.played_runs _ _ _)).2⟩

end Samples

end Billing

/-
  Two writes that belong together, and a failure between them.

  A settled payment is saved and then announced; an approved quote is saved and then its payment.
  Neither pair is one unit.  In between, the request OWES the second write, and `Owes.next` says what
  becomes of a debt: it stays, it is paid by the next step of the request, or the request is cut off.
  So what is stored is complete, or somebody still owes the rest of it (`Accounted`, `Provided`), as
  long as no request fails while it owes:

  * `announcesOutcome`  — no publishing of this payment's outcome is refused;
  * `completesApproval` — no approval stops between its two saves.

  Nothing repairs a request that failed there: the two runs at the end of the sections.
-/
import Billing.Proofs.Sequential

namespace Billing

open Py Atomic Program

/-! ## Debts -/

/-- At the end of a request, only nothing is paid. -/
theorem Debt.Paid.of_none {debt : Debt} (h : debt.Paid none) : debt = .nothing := by
  cases debt with
  | nothing => rfl
  | payment q => obtain ⟨p, hp, _⟩ := h; cases hp
  | outcome p => obtain ⟨e, he, _⟩ := h; cases he

section Debts

variable [Python] {d : Deployment}

/-- A running request owes this. -/
def Owes (debt : Debt) (c : Config (system sql d)) : Prop :=
  ∃ (i : Nat) (t : Thread (system sql d)),
    c.threads[i]? = some t ∧ t.running = true ∧ (standing t.history).owes = debt

variable {c c' : Config (system sql d)} {a : Action (system sql d)} {debt : Debt}

/-- **What becomes of a debt.** -/
theorem Owes.next (h : Owes debt c) (hd : ∀ t ∈ c.threads, Dutiful t) (hn : c.next a = some c') :
    Owes debt c' ∨
      (∃ i fate t o, a = .step i fate ∧ c.Asks i t o ∧ (standing t.history).owes = debt ∧
        debt.Paid (some o)) ∨
      (∃ i e t, a = .abort i e ∧ c.threads[i]? = some t ∧ (standing t.history).owes = debt) := by
  obtain ⟨i, t, ht, hrun, howes⟩ := h
  have hlt : i < c.threads.length := (List.getElem?_eq_some_iff.mp ht).1
  cases a with
  | start req =>
    obtain ⟨s, _, rfl⟩ := Config.next_start hn
    exact Or.inl ⟨i, t, by rw [List.getElem?_append_left hlt]; exact ht, hrun, howes⟩
  | step n fate =>
    obtain ⟨t₀, o, k, r, s, hn0, hr, _, rfl⟩ := Config.next_step hn
    by_cases hni : n = i
    · subst hni
      have hasks : c.Asks n t₀ o := ⟨hn0, k, hr⟩
      rw [hn0] at ht
      obtain rfl := Option.some.inj ht
      refine Or.inr (Or.inl ⟨n, fate, t₀, o, rfl, hasks, howes, ?_⟩)
      rw [← howes]
      exact (duty_of_asks hd hasks).1
    · exact Or.inl ⟨i, t, by rw [List.getElem?_set_ne hni]; exact ht, hrun, howes⟩
  | abort n e =>
    obtain ⟨t₀, hn0, _, rfl⟩ := Config.next_abort hn
    by_cases hni : n = i
    · subst hni
      exact Or.inr (Or.inr ⟨n, e, t, rfl, ht, howes⟩)
    · exact Or.inl ⟨i, t, by rw [List.getElem?_set_ne hni]; exact ht, hrun, howes⟩

/-- A step that makes a debt leaves its request running. -/
theorem owes_of_step (hd : ∀ t ∈ c.threads, Dutiful t) {i : Nat} {t : Thread (system sql d)}
    {o : Port} {k : Except Exc o.Res → Service Response} {r : Except Exc o.Res} {s : World sql}
    (ht : c.threads[i]? = some t) (hr : t.rest = .step o k) (hdebt : debt ≠ .nothing)
    (howes : ((standing t.history).after ⟨o, r⟩).owes = debt) :
    Owes debt (⟨s, c.threads.set i ⟨t.req, t.history ++ [⟨o, r⟩], k r⟩⟩ : Config (system sql d)) := by
  have hlt : i < c.threads.length := (List.getElem?_eq_some_iff.mp ht).1
  have howes' : (standing (t.history ++ [⟨o, r⟩])).owes = debt := by
    rw [standing_concat]; exact howes
  refine ⟨i, _, List.getElem?_set_self hlt, ?_, howes'⟩
  -- the rest of its program does its duties, so it does not end here
  have hrest := ((hd t (List.mem_of_getElem? ht)).at_step hr).2 r
  have hend : ∀ res, Ends t.req.command (t.history ++ [⟨o, r⟩]) res → False := by
    intro res hends
    have hpaid := hends.1
    rw [howes'] at hpaid
    exact hdebt hpaid.of_none
  show (k r).running = true
  cases hkr : k r with
  | step o' k' => rfl
  | ret x => rw [hkr] at hrest; exact (hend _ hrest).elim
  | raise x => rw [hkr] at hrest; exact (hend _ hrest).elim

/-- When requests are served one at a time, the debt is that of the request which takes a step. -/
theorem Owes.paid_of_solo (h : Owes debt c) (hsolo : c.Solo) (hd : ∀ t ∈ c.threads, Dutiful t)
    {i : Nat} {t : Thread (system sql d)} {o : Port} (hasks : c.Asks i t o) :
    debt.Paid (some o) := by
  obtain ⟨j, u, hu, hrun, howes⟩ := h
  have hrun' : t.running = true := by
    obtain ⟨_, k, hk⟩ := hasks
    rw [Thread.running, hk]
    rfl
  obtain rfl := hsolo j i u t hu hasks.1 hrun hrun'
  rw [hasks.1] at hu
  obtain rfl := Option.some.inj hu
  rw [← howes]
  exact (duty_of_asks hd hasks).1

end Debts

/-! ## Fates -/

section Fates

variable {b : Backend} {fate : Fate} {w w' : World b} {r : Except Exc Unit}

/-- A write that is not refused is done. -/
theorem write_of_not_refused {store : b.Store} (h : w.write store fate = some (r, w'))
    (hfate : fate.raised false = false) : w'.store = store := by
  cases fate with
  | proceeds => cases h; rfl
  | answers response => cases h
  | raises e committed =>
    cases committed with
    | false => cases hfate
    | true => cases h; rfl

/-- A write that does not raise after it was committed answers, or is not done. -/
theorem write_of_not_committed {store : b.Store} (h : w.write store fate = some (r, w'))
    (hfate : fate.raised true = false) : r = .ok () ∨ w' = w := by
  cases fate with
  | proceeds => cases h; exact Or.inl rfl
  | answers response => cases h
  | raises e committed =>
    cases committed with
    | false => cases h; exact Or.inr rfl
    | true => cases hfate

/-- An event that is not refused is accepted. -/
theorem publish_of_not_refused [Python] {e : DomainEvent} (h : w.publish e fate = some (r, w'))
    (hfate : fate.raised false = false) : w'.accepted = w.accepted ++ [e] := by
  cases fate with
  | proceeds =>
    simp only [World.publish, eventToMessage_eq] at h
    cases h
    rfl
  | answers response => cases h
  | raises x committed =>
    cases committed with
    | false => cases hfate
    | true => cases h; rfl

end Fates

/-! ## Outcomes and their events -/

/-- The type of the event that announces a status. -/
def PaymentStatus.announcement : PaymentStatus → Option EventType
  | confirmed => some .paymentConfirmed
  | failed => some .paymentFailed
  | _ => none

/-- The publisher has accepted the event of this outcome. -/
def World.Announced {b : Backend} (w : World b) (paymentId : String) (s : PaymentStatus) : Prop :=
  ∃ e ∈ w.accepted, s.announcement = some e.eventType ∧ e.payload.get? "payment_id" = some paymentId

theorem OutcomeEvent.announces {p : Payment} {e : DomainEvent} (h : OutcomeEvent p e) :
    p.status.announcement = some e.eventType ∧ e.payload.get? "payment_id" = some p.paymentId := by
  rcases h with ⟨hs, stamp, rfl⟩ | ⟨hs, reason, stamp, rfl⟩
  · rw [hs]; exact ⟨rfl, rfl⟩
  · rw [hs]; exact ⟨rfl, rfl⟩

section Outcomes

variable [Python] {d : Deployment}

/-- No process stops, and no repository call raises. -/
def repositoriesSucceed (c : Config (system sql d)) (a : Action (system sql d)) : Bool :=
  match a with
  | .start _ => true
  | .abort _ _ => false
  | .step _ fate =>
    match c.doing a with
    | some (_, _, .publish _) => true
    | some (_, _, .sdk _) => true
    | _ => Fate.isProceeds fate

/-- The action is not a refused publishing of this payment's outcome. -/
def announcesOutcome (paymentId : String) (c : Config (system sql d)) (a : Action (system sql d)) :
    Bool :=
  match a with
  | .step _ fate =>
    match c.doing a with
    | some (_, _, .publish e) =>
      !(decide (e.eventType = .paymentConfirmed ∨ e.eventType = .paymentFailed) &&
        decide (e.payload.get? "payment_id" = some paymentId) && Fate.raised false fate)
    | _ => true
  | _ => true

variable {c c' : Config (system sql d)} {a : Action (system sql d)} {paymentId : String}

/-- What a read of the payment found to be final was announced. -/
def ReadAnnounced (paymentId : String) (e : Event) (w : World sql) : Prop :=
  match e with
  | ⟨.paymentGet _, .ok p⟩ =>
    p.paymentId = paymentId → p.status.final = true → w.Announced paymentId p.status
  | _ => True

/-- **The invariant of runs that announce outcomes**: a final status was announced, or its request
    still owes the event. -/
structure Accounted (paymentId : String) (c : Config (system sql d)) : Prop where
  stored : ∀ s, s.final = true → c.state.store.HasStatus paymentId s →
    c.state.Announced paymentId s ∨
      ∃ p, p.paymentId = paymentId ∧ p.status = s ∧ Owes (.outcome p) c
  read : c.Knows (ReadAnnounced paymentId)

theorem announced_next (hn : c.next a = some c') {s : PaymentStatus}
    (h : c.state.Announced paymentId s) : c'.state.Announced paymentId s := by
  obtain ⟨e, he, h⟩ := h
  exact ⟨e, accepted_next hn e he, h⟩

/-- An outcome that is owed is announced by the next step of its request, or is owed still. -/
theorem owed_next (hd : ∀ t ∈ c.threads, Dutiful t) (hrep : repositoriesSucceed c a = true)
    (hann : announcesOutcome paymentId c a = true) (hn : c.next a = some c') {p : Payment}
    (hid : p.paymentId = paymentId) (h : Owes (.outcome p) c) :
    c'.state.Announced paymentId p.status ∨ Owes (.outcome p) c' := by
  rcases h.next hd hn with hstays | ⟨i, fate, t, o, rfl, hasks, _, e, ho, he⟩ | ⟨i, x, t, rfl, _⟩
  · exact Or.inr hstays
  · cases ho
    obtain ⟨htype, hpid⟩ := he.announces
    rw [hid] at hpid
    obtain ⟨t₁, o₁, k, r, s, hi, hr, hx, rfl⟩ := Config.next_step hn
    obtain ⟨rfl, rfl⟩ := hasks.unique hi hr
    have houtcome : e.eventType = .paymentConfirmed ∨ e.eventType = .paymentFailed := by
      rcases he with ⟨_, stamp, rfl⟩ | ⟨_, reason, stamp, rfl⟩
      · exact Or.inl rfl
      · exact Or.inr rfl
    have hfate : Fate.raised false fate = false := by
      have hdoing := hasks.doing fate
      simp only [announcesOutcome] at hann
      rw [hdoing] at hann
      simpa [houtcome, hpid] using hann
    refine Or.inl ⟨e, ?_, htype, hpid⟩
    rw [publish_of_not_refused hx hfate]
    exact List.mem_append_right _ List.mem_cons_self
  · cases hrep

/-- What became final by an action is owed, if it was not final before. -/
theorem status_next (hI : Integrity c) (hrep : repositoriesSucceed c a = true)
    (hhand : ∀ i t o, c.Asks i t o → InHand t.history c.state.store) (hn : c.next a = some c')
    {s : PaymentStatus} (hs : s.final = true) (h : c'.state.store.HasStatus paymentId s) :
    c.state.store.HasStatus paymentId s ∨
      ∃ p, p.paymentId = paymentId ∧ p.status = s ∧ Owes (.outcome p) c' := by
  obtain ⟨p, hp, hid, rfl⟩ := h
  rcases write_cases hI.dutiful hn with hsame | ⟨i, fate, t, q, _, _, hsave, _⟩ |
    ⟨i, fate, t, p', rfl, hasks, hsave, hp'⟩
  · exact Or.inl ⟨p, hsame.hasPayment.mp hp, hid, rfl⟩
  · rw [hsave] at hp
    exact Or.inl ⟨p, hp, hid, rfl⟩
  · rw [hsave] at hp
    rcases Database.hasPayment_save.mp hp with rfl | ⟨_, hold⟩
    · rcases hp' with ⟨q, pref, _, _, _, rfl⟩ | ⟨p₀, hhand₀, hset⟩
      · cases hs
      · have hp₀ := (hhand i t _ hasks).payment p₀ hhand₀
        by_cases hsame : p₀ = p
        · subst hsame
          exact Or.inl ⟨p₀, hp₀, hid, rfl⟩
        · -- it was settled by this very step
          refine Or.inr ⟨p, hid, rfl, ?_⟩
          obtain ⟨t₁, o, k, r, s, hi, hr, hx, rfl⟩ := Config.next_step hn
          obtain ⟨rfl, rfl⟩ := hasks.unique hi hr
          have hfate : Fate.isProceeds fate = true := by
            have hdoing := hasks.doing fate
            simp only [repositoriesSucceed] at hrep
            rw [hdoing] at hrep
            exact hrep
          have hok : r = .ok () := by
            cases fate with
            | proceeds => cases hx; rfl
            | answers response => cases hfate
            | raises e committed => cases hfate
          subst hok
          refine owes_of_step hI.dutiful hi hr (fun h => by cases h) ?_
          simp [Standing.after, hhand₀, hsame]
    · exact Or.inl ⟨p, hold, hid, rfl⟩

theorem Accounted.next (h : Accounted paymentId c) (hI : Integrity c) (hsolo : c.Solo)
    (hhand : ∀ i t o, c.Asks i t o → InHand t.history c.state.store)
    (hrep : repositoriesSucceed c a = true) (hann : announcesOutcome paymentId c a = true)
    (hn : c.next a = some c') : Accounted paymentId c' := by
  constructor
  · intro s hs hst
    rcases status_next hI hrep hhand hn hs hst with hold | howes
    · rcases h.stored s hs hold with hdone | ⟨p, hid, rfl, howes⟩
      · exact Or.inl (announced_next hn hdone)
      · rcases owed_next hI.dutiful hrep hann hn hid howes with hdone | hstays
        · exact Or.inl hdone
        · exact Or.inr ⟨p, hid, rfl, hstays⟩
    · exact Or.inr howes
  · refine h.read.next hn ?_ ?_
    · rintro ⟨o, r⟩ hk
      unfold ReadAnnounced at hk ⊢
      split at hk
      · exact fun hid hs => announced_next hn (hk hid hs)
      · trivial
    · intro i fate t o k r ha hi hr hx
      unfold ReadAnnounced
      split
      · rename_i id p hdone
        cases hdone
        obtain ⟨_, _, hp⟩ := exec_paymentGet hx
        intro hid hs
        subst hid
        rcases h.stored _ hs hp.hasStatus with hdone | ⟨p', _, _, howes⟩
        · exact announced_next hn hdone
        · -- whoever owes the event is the one who reads here: it would publish instead
          obtain ⟨e, he, _⟩ := howes.paid_of_solo hsolo hI.dutiful (i := i) ⟨hi, k, hr⟩
          cases he
      · trivial

theorem accounted_start : Accounted paymentId (start sql d) where
  stored := fun _ _ ⟨_, hp, _⟩ => by cases hp
  read := fun _ ht => absurd ht List.not_mem_nil

/-- Whatever a check answered about this payment as settled was announced. -/
def ChecksAnnounced (paymentId : String) (c : Config (system sql d)) : Prop :=
  ∀ i p action, (c.returned i).bind Response.checked = some (p, action) → p.paymentId = paymentId →
    (p.status = .confirmed → action = .confirmed ∨ action = .duplicate →
      c.state.Announced paymentId .confirmed) ∧
    (p.status = .failed → action = .failed ∨ action = .duplicate →
      c.state.Announced paymentId .failed)

/-- **No terminal state without its event**, in the runs where no publishing of the payment's outcome
    is refused. -/
theorem terminal_states_announced {c : Config (system sql d)}
    (H : Runs (fun c a => oneAtATime c a ∧ repositoriesSucceed c a = true ∧
      announcesOutcome paymentId c a = true) (start sql d) c) : ChecksAnnounced paymentId c := by
  have hok : ∀ (c : Config (system sql d)) a, (oneAtATime c a ∧ repositoriesSucceed c a = true ∧
      announcesOutcome paymentId c a = true) → oneAtATime c a := fun _ _ h => h.1
  have hacc : Accounted paymentId c := H.invariant_reached accounted_start
    fun c a c' H h ha hn => h.next (integrity H) (H.solo hok (.of_atRest rfl))
      (fun i t o hasks => in_hand hok H hasks) ha.2.1 ha.2.2 hn
  intro i p action hret hid
  obtain ⟨t, ht, _, hrep⟩ := reports_of_returned (dutiful H) hret
  have hmem := List.mem_of_getElem? ht
  have hpublished : ∀ e, ⟨.publish e, .ok ()⟩ ∈ t.history → OutcomeEvent p e →
      c.state.Announced paymentId p.status := by
    intro e he hout
    obtain ⟨htype, hpid⟩ := hout.announces
    exact ⟨e, (integrity H).kept t hmem _ he, htype, by rw [hpid, hid]⟩
  have hread : ∀ h', t.history = h' ++ [⟨.paymentSave p, .ok ()⟩] →
      (standing h').payment = some p → p.status.final = true →
      c.state.Announced paymentId p.status := by
    intro h' hh hhand hs
    obtain ⟨id, hget⟩ := (standing_sums h').payment p hhand
    have hmemRead : (⟨.paymentGet id, .ok p⟩ : Event) ∈ t.history := by
      rw [hh]; exact List.mem_append_left _ hget
    exact hacc.read t hmem _ hmemRead hid hs
  have hannounced : p.status.final = true → action ≠ .ignored → c.state.Announced paymentId p.status := by
    intro hs haction
    cases action with
    | confirmed =>
      obtain ⟨_, e, he, hout⟩ := hrep
      exact hpublished e he hout
    | failed =>
      obtain ⟨_, e, he, hout⟩ := hrep
      exact hpublished e he hout
    | duplicate =>
      obtain ⟨_, h', hh, hhand, _⟩ := hrep
      exact hread h' hh hhand hs
    | ignored => exact absurd rfl haction
  constructor
  · intro hs haction
    rw [← hs]
    exact hannounced (by rw [hs]; rfl) (by rintro rfl; rcases haction with h | h <;> cases h)
  · intro hs haction
    rw [← hs]
    exact hannounced (by rw [hs]; rfl) (by rintro rfl; rcases haction with h | h <;> cases h)

end Outcomes

section Samples

open Sample

/-- The broker is down for the preference of an approval, and up again when the payment is settled,
    twice by a check. -/
def Sample.settledTwice : List (Action (system sql mock)) :=
  [create "1" "os-1"] ++ go 0 2 ++ [ask "2" (.approveQuote "quote-1")] ++ go 1 6 ++
    [.step 1 (.raises (.infrastructure "broker unavailable") false),
      check "3" "payment-2" "approved"] ++ go 2 4 ++ [check "4" "payment-2" "approved"] ++ go 3 2

/-- The broker is down for the event of a confirmation, and the check is tried again. -/
def Sample.lostEvent : List (Action (system sql mock)) :=
  openedPayment ++ [check "3" "payment-2" "approved"] ++ go 2 3 ++
    [.step 2 (.raises (.infrastructure "broker unavailable") false),
      check "4" "payment-2" "approved"] ++ go 3 2

theorem terminal_states_announced_twice :
    ChecksAnnounced "payment-2" ((start sql mock).played (fun c a => oneAtATime c a ∧
      repositoriesSucceed c a = true ∧ announcesOutcome "payment-2" c a = true) settledTwice
      (by decide)) :=
  terminal_states_announced (Config.played_runs _ _ _)

/-- **The code forgets an event**: the confirmation is saved, its publishing is refused, and the
    retry answers `duplicate` without publishing anything. -/
theorem terminal_state_unannounced :
    ¬ ∀ c, Runs (fun c a => oneAtATime c a ∧ repositoriesSucceed c a = true) (start sql mock) c →
      ∀ paymentId, ChecksAnnounced paymentId c := by
  intro h
  have hann := h _ (Config.played_runs _ lostEvent (by decide)) "payment-2"
  have hret : (((start sql mock).played (fun c a => oneAtATime c a ∧ repositoriesSucceed c a = true)
      lostEvent (by decide)).returned 3 >>= Response.checked).map
        (fun pa => (pa.1.paymentId, pa.1.status, pa.2)) =
      some ("payment-2", .confirmed, .duplicate) := by decide
  obtain ⟨⟨p, action⟩, hret, heq⟩ := Option.map_eq_some_iff.mp hret
  obtain ⟨hid, hs, haction⟩ : p.paymentId = "payment-2" ∧ p.status = .confirmed ∧
      action = .duplicate := by simpa using heq
  have := (hann 3 p action hret hid).1 hs (Or.inr haction)
  revert this
  unfold World.Announced
  decide

end Samples

/-! ## Approved quotes and their payments -/

section Approvals

variable [Python] {d : Deployment}

/-- Every quote row that is `APPROVED` has a payment row with its id. -/
def Database.NoneStranded (db : Database) : Prop :=
  ∀ row ∈ db.quotes.rows, row.status = QuoteStatus.approved.value →
    ∃ payment ∈ db.payments.rows, payment.quoteId = row.quoteId

/-- A payment is due. -/
def Debt.isPayment : Debt → Bool
  | payment _ => true
  | _ => false

/-- The action does not stop an approval between the save of its quote and the save of its
    payment. -/
def completesApproval (c : Config (system sql d)) (a : Action (system sql d)) : Bool :=
  match a with
  | .start _ => true
  | .abort i _ =>
    match c.threads[i]? with
    | some t => !(standing t.history).owes.isPayment
    | none => true
  | .step _ fate =>
    match c.doing a with
    | some (_, _, .quoteSave q) => !(decide (q.status = .approved) && Fate.raised true fate)
    | some (_, h, .paymentSave _) => !((standing h).owes.isPayment && Fate.raised false fate)
    | _ => true

/-- **The invariant of runs that complete approvals**: an approved quote has its payment, or its
    request still owes it. -/
def Provided (c : Config (system sql d)) : Prop :=
  ∀ q, c.state.store.HasQuote q → q.status = .approved →
    (∃ p, c.state.store.HasPayment p ∧ p.quoteId = q.quoteId) ∨
      ∃ q', q'.quoteId = q.quoteId ∧ Owes (.payment q') c

variable {c c' : Config (system sql d)} {a : Action (system sql d)}

/-- A payment that is owed is saved by the next step of its request, or is owed still. -/
theorem payment_next (hd : ∀ t ∈ c.threads, Dutiful t) (hok : completesApproval c a = true)
    (hn : c.next a = some c') {q : Quote} (h : Owes (.payment q) c) :
    (∃ p, c'.state.store.HasPayment p ∧ p.quoteId = q.quoteId) ∨ Owes (.payment q) c' := by
  rcases h.next hd hn with
    hstays | ⟨i, fate, t, o, rfl, hasks, howes, p, ho, hid⟩ | ⟨i, x, t, rfl, ht, howes⟩
  · exact Or.inr hstays
  · cases ho
    obtain ⟨t₁, o₁, k, r, s, hi, hr, hx, rfl⟩ := Config.next_step hn
    obtain ⟨rfl, rfl⟩ := hasks.unique hi hr
    have hfate : Fate.raised false fate = false := by
      have hdoing := hasks.doing fate
      simp only [completesApproval] at hok
      rw [hdoing] at hok
      simpa [howes, Debt.isPayment] using hok
    refine Or.inl ⟨p, ?_, hid⟩
    rw [write_of_not_refused hx hfate]
    exact Database.hasPayment_save.mpr (Or.inl rfl)
  · simp only [completesApproval, ht] at hok
    rw [howes] at hok
    cases hok

/-- What became approved by an action owes its payment, if it was not approved before. -/
theorem approved_next (hI : Integrity c) (hok : completesApproval c a = true)
    (hn : c.next a = some c') {q : Quote} (hs : q.status = .approved)
    (hq : c'.state.store.HasQuote q) :
    c.state.store.HasQuote q ∨ Owes (.payment q) c' := by
  rcases write_cases hI.dutiful hn with hsame | ⟨i, fate, t, q', rfl, hasks, hsave, hq'⟩ |
    ⟨i, fate, t, p, _, _, hsave, _⟩
  · exact Or.inl (hsame.hasQuote.mp hq)
  · have hcopy := hq
    rw [hsave] at hcopy
    rcases Database.hasQuote_save.mp hcopy with rfl | ⟨_, hold⟩
    · obtain ⟨t₁, o, k, r, s, hi, hr, hx, rfl⟩ := Config.next_step hn
      obtain ⟨rfl, rfl⟩ := hasks.unique hi hr
      have hfate : Fate.raised true fate = false := by
        have hdoing := hasks.doing fate
        simp only [completesApproval] at hok
        rw [hdoing] at hok
        simpa [hs] using hok
      rcases write_of_not_committed hx hfate with rfl | rfl
      · refine Or.inr (owes_of_step hI.dutiful hi hr (fun h => by cases h) ?_)
        simp [Standing.after, hs]
      · exact Or.inl hq
    · exact Or.inl hold
  · rw [hsave] at hq
    exact Or.inl hq

theorem provided_next (h : Provided c) (hI : Integrity c) (hok : completesApproval c a = true)
    (hn : c.next a = some c') : Provided c' := by
  intro q hq hs
  rcases approved_next hI hok hn hs hq with hold | howes
  · rcases h q hold hs with ⟨p, hp, hid⟩ | ⟨q', hid, howes⟩
    · obtain ⟨p', hp', hev⟩ := (hI.evolves hn).payments p hp
      exact Or.inl ⟨p', hp', hev.quoteId.trans hid⟩
    · rcases payment_next hI.dutiful hok hn howes with ⟨p, hp, hid'⟩ | hstays
      · exact Or.inl ⟨p, hp, hid'.trans hid⟩
      · exact Or.inr ⟨q', hid, hstays⟩
  · exact Or.inr ⟨q, rfl, howes⟩

/-- **No approved quote is stranded**, in the runs that complete approvals. -/
theorem none_stranded {c : Config (system sql d)}
    (H : Runs (fun c a => completesApproval c a = true) (start sql d) c)
    (hrest : c.atRest = true) : Database.NoneStranded c.state.store := by
  have hprov := (H.invariant (I := fun c => Integrity c ∧ Provided c)
    ⟨integrity_start, fun _ hq => by cases hq⟩
    fun _ _ _ h ha hn => ⟨h.1.next hn, provided_next h.2 h.1 ha hn⟩).2
  intro row hrow hs
  obtain ⟨q, rfl, hq⟩ := Database.hasQuote_of_mem hrow
  rcases hprov q hq (QuoteStatus.value_injective hs) with ⟨p, hp, hid⟩ | ⟨q', _, j, u, hu, hrun, _⟩
  · exact ⟨_, hp.mem, hid⟩
  · -- at rest nobody owes anything
    rw [Config.atRest_iff.mp hrest u (List.mem_of_getElem? hu)] at hrun
    cases hrun

end Approvals

section Samples

open Sample

/-- The process stops before an approval saves anything, and the approval is tried again. -/
def Sample.stoppedEarly : List (Action (system sql mock)) :=
  [create "1" "os-1"] ++ go 0 2 ++ [ask "2" (.approveQuote "quote-1")] ++ go 1 3 ++
    [.abort 1 (.infrastructure "killed"), ask "3" (.approveQuote "quote-1")] ++ go 2 7

/-- The save of the payment raises. -/
def Sample.stoppedBetween : List (Action (system sql mock)) :=
  [create "1" "os-1"] ++ go 0 2 ++ [ask "2" (.approveQuote "quote-1")] ++ go 1 4 ++
    [.step 1 (.raises (.infrastructure "connection lost") false)]

theorem none_stranded_stoppedEarly :
    Database.NoneStranded ((start sql mock).played (fun c a => completesApproval c a = true)
      stoppedEarly (by decide)).state.store :=
  none_stranded (Config.played_runs _ _ _) (by decide)

/-- **The code strands a quote**: it is saved as approved, the save of its payment raises, and the
    request is over. -/
theorem quote_stranded :
    ¬ ∀ c, Runs oneAtATime (start sql mock) c → c.atRest = true →
      Database.NoneStranded c.state.store := by
  intro h
  have hnone := h _ (Config.played_runs _ stoppedBetween (by decide)) (by decide)
  revert hnone
  unfold Database.NoneStranded
  decide

end Samples

end Billing

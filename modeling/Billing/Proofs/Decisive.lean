/-
  The first decisive status of the provider wins.

  What a list of statuses does to a pending payment is what it does to its status alone: `hears` is
  that machine of four states, and `apply_step` says that `ApplyPaymentStatusUseCase` is it, over
  every store.  The machine leaves `PENDING` with the first decisive status and never moves again
  (`hearing_eq`), so nothing after that status matters.
-/
import Billing.Ledger
import Billing.Proofs.Alone

namespace Billing

open Py Atomic Program System

/-! ## What a status says -/

/-- What a provider status says about a payment: that it is confirmed, that it failed, or (`none`)
    nothing yet. -/
def decisive (providerStatus : String) : Option PaymentStatus :=
  if normalizedStatus providerStatus ∈ approvingStatuses then some .confirmed
  else if normalizedStatus providerStatus ∈ failingStatuses then some .failed
  else none

/-- A decisive status decides. -/
theorem decisive_cases {providerStatus : String} {said : PaymentStatus}
    (h : decisive providerStatus = some said) : said = .confirmed ∨ said = .failed := by
  unfold decisive at h
  split_ifs at h
  · exact Or.inl (Option.some.inj h).symm
  · exact Or.inr (Option.some.inj h).symm

theorem decisive_ne_pending {providerStatus : String} {said : PaymentStatus}
    (h : decisive providerStatus = some said) : said ≠ .pending := by
  rcases decisive_cases h with rfl | rfl
  · exact fun h => by cases h
  · exact fun h => by cases h

theorem decisive_ne_waiting {providerStatus : String} {said : PaymentStatus}
    (h : decisive providerStatus = some said) : said ≠ .waitingPreference := by
  rcases decisive_cases h with rfl | rfl
  · exact fun h => by cases h
  · exact fun h => by cases h

/-- The status is one that the service knows. -/
def Supported (providerStatus : String) : Prop :=
  (decisive providerStatus).isSome = true ∨ normalizedStatus providerStatus ∈ openStatuses

instance (providerStatus : String) : Decidable (Supported providerStatus) :=
  inferInstanceAs (Decidable (_ ∨ _))

/-- The first decisive status of a list of commands. -/
def firstDecisive (commands : List ApplyPaymentStatusCommand) : Option PaymentStatus :=
  commands.findSome? fun command => decisive command.providerStatus

/-- The status of a payment after a provider status. -/
def PaymentStatus.hears (status : PaymentStatus) (command : ApplyPaymentStatusCommand) :
    PaymentStatus :=
  if status = .pending then (decisive command.providerStatus).getD .pending else status

/-- The action that a provider status comes to. -/
def PaymentStatus.answer (status : PaymentStatus) (command : ApplyPaymentStatusCommand) :
    StatusAction :=
  match decisive command.providerStatus with
  | none => .ignored
  | some said =>
    if status = .pending then (if said = .confirmed then .confirmed else .failed)
    else if status = said then .duplicate
    else .ignored

/-- **A pending payment ends as the first decisive status says**, and no other payment moves. -/
theorem hearing_eq (commands : List ApplyPaymentStatusCommand) (status : PaymentStatus) :
    commands.foldl PaymentStatus.hears status =
      if status = .pending then (firstDecisive commands).getD .pending else status := by
  induction commands generalizing status with
  | nil =>
    by_cases hpending : status = .pending
    · rw [if_pos hpending, hpending]; rfl
    · rw [if_neg hpending]; rfl
  | cons command commands ih =>
    rw [List.foldl_cons, ih]
    by_cases hpending : status = .pending
    · subst hpending
      show _ = (firstDecisive (command :: commands)).getD .pending
      unfold firstDecisive PaymentStatus.hears
      rw [List.findSome?_cons, if_pos rfl]
      cases hsaid : decisive command.providerStatus with
      | none => exact if_pos rfl
      | some said => exact if_neg (decisive_ne_pending hsaid)
    · have hstays : status.hears command = status := if_neg hpending
      rw [hstays, if_neg hpending, if_neg hpending]

/-- The event that announces the outcome. -/
def PaymentStatus.announces : PaymentStatus → EventType
  | confirmed => .paymentConfirmed
  | _ => .paymentFailed

/-- An outcome of the payment was announced, exactly once, or (`none`) nothing was. -/
def AnnouncedAs (paymentId : String) (old new : List DomainEvent) : Option PaymentStatus → Prop
  | none => new = old
  | some said => ∃ e : DomainEvent, new = old ++ [e] ∧ e.eventType = said.announces ∧
      e.payload.get? "payment_id" = some paymentId

/-! ## One command -/

section Step

variable {p : Payment} {command : ApplyPaymentStatusCommand} {stamp : Stamp}

/-- A status that is not supported is refused. -/
theorem decide_unsupported (h : ¬ Supported command.providerStatus) :
    ApplyPaymentStatusUseCase.decide p command stamp =
      .error (.valueError ("Unsupported Mercado Pago status: " ++ command.providerStatus)) := by
  unfold Supported decisive at h
  unfold ApplyPaymentStatusUseCase.decide
  by_cases happ : normalizedStatus command.providerStatus ∈ approvingStatuses
  · rw [if_pos happ] at h
    exact absurd (Or.inl rfl) h
  · by_cases hfail : normalizedStatus command.providerStatus ∈ failingStatuses
    · rw [if_neg happ, if_pos hfail] at h
      exact absurd (Or.inl rfl) h
    · have hopen : normalizedStatus command.providerStatus ∉ openStatuses := fun ho => h (Or.inr ho)
      simp only [if_neg happ, if_neg hfail, if_neg hopen]

/-- A status that decides nothing changes nothing. -/
theorem decide_open (hnone : decisive command.providerStatus = none)
    (h : Supported command.providerStatus) :
    ApplyPaymentStatusUseCase.decide p command stamp = .ok (p, none, .ignored) := by
  have hopen : normalizedStatus command.providerStatus ∈ openStatuses := by
    rcases h with h | h
    · rw [hnone] at h; cases h
    · exact h
  unfold decisive at hnone
  split_ifs at hnone with happ hfail
  unfold ApplyPaymentStatusUseCase.decide
  simp only [if_neg happ, if_neg hfail, if_pos hopen]

/-- A decisive status settles a pending payment. -/
theorem decide_pending {said : PaymentStatus} (hsaid : decisive command.providerStatus = some said)
    (hpending : p.status = .pending) (stamp : Stamp) :
    ∃ e : DomainEvent, ApplyPaymentStatusUseCase.decide p command stamp =
        .ok ({ p with status := said }, some e, if said = .confirmed then .confirmed else .failed) ∧
      e.eventType = said.announces ∧ e.payload.get? "payment_id" = some p.paymentId := by
  have hconfirmed : ¬ p.status = .confirmed := by rw [hpending]; exact fun h => by cases h
  have hfailed : ¬ p.status = .failed := by rw [hpending]; exact fun h => by cases h
  unfold decisive at hsaid
  unfold ApplyPaymentStatusUseCase.decide
  split_ifs at hsaid with happ hfail
  · obtain rfl := Option.some.inj hsaid
    have hconfirm : p.confirm stamp = .ok ({ p with status := .confirmed },
        ({ p with status := .confirmed } : Payment).event .paymentConfirmed
          [("payment_id", p.paymentId)] stamp) := if_neg (not_not.mpr hpending)
    refine ⟨({ p with status := .confirmed } : Payment).event .paymentConfirmed
      [("payment_id", p.paymentId)] stamp, ?_, rfl, rfl⟩
    simp only [if_pos happ, if_neg hconfirmed, if_neg hfailed, hconfirm]
    rfl
  · obtain rfl := Option.some.inj hsaid
    have hfails : p.fail command.reason stamp = .ok ({ p with status := .failed },
        ({ p with status := .failed } : Payment).event .paymentFailed
          [("payment_id", p.paymentId), ("reason", command.reason)] stamp) := if_neg hconfirmed
    refine ⟨({ p with status := .failed } : Payment).event .paymentFailed
      [("payment_id", p.paymentId), ("reason", command.reason)] stamp, ?_, rfl, rfl⟩
    simp only [if_neg happ, if_pos hfail, if_neg hconfirmed, if_neg hfailed, hfails]
    rfl

/-- A decisive status leaves a settled payment alone. -/
theorem decide_settled {said : PaymentStatus} (hsaid : decisive command.providerStatus = some said)
    (hsettled : p.status = .confirmed ∨ p.status = .failed) :
    ApplyPaymentStatusUseCase.decide p command stamp =
      .ok (p, none, if p.status = said then .duplicate else .ignored) := by
  unfold decisive at hsaid
  unfold ApplyPaymentStatusUseCase.decide
  split_ifs at hsaid with happ hfail
  · obtain rfl := Option.some.inj hsaid
    rcases hsettled with hs | hs <;> simp [happ, hs]
  · obtain rfl := Option.some.inj hsaid
    rcases hsettled with hs | hs <;> simp [happ, hfail, hs]

/-- **A decision is what the machine says.** -/
theorem decide_supported (h : Supported command.providerStatus)
    (hopened : p.status ≠ .waitingPreference) (stamp : Stamp) :
    ∃ event : Option DomainEvent, ApplyPaymentStatusUseCase.decide p command stamp =
        .ok ({ p with status := p.status.hears command }, event, p.status.answer command) ∧
      AnnouncedAs p.paymentId [] event.toList
        (if p.status = .pending then decisive command.providerStatus else none) := by
  unfold PaymentStatus.hears PaymentStatus.answer
  cases hsaid : decisive command.providerStatus with
  | none =>
    refine ⟨none, ?_, ?_⟩
    · rw [decide_open hsaid h]
      by_cases hpending : p.status = .pending
      · rw [if_pos hpending]
        show _ = Except.ok ({ p with status := .pending }, none, _)
        rw [← hpending]
      · rw [if_neg hpending]
    · split_ifs <;> rfl
  | some said =>
    by_cases hpending : p.status = .pending
    · obtain ⟨e, hdecide, htype, hpayload⟩ := decide_pending hsaid hpending stamp
      refine ⟨some e, ?_, ?_⟩
      · rw [hdecide]
        simp only [if_pos hpending, Option.getD_some]
      · rw [if_pos hpending]
        exact ⟨e, rfl, htype, hpayload⟩
    · have hsettled : p.status = .confirmed ∨ p.status = .failed := by
        cases hs : p.status with
        | waitingPreference => exact absurd hs hopened
        | pending => exact absurd hs hpending
        | confirmed => exact Or.inl rfl
        | failed => exact Or.inr rfl
      refine ⟨none, ?_, ?_⟩
      · rw [decide_settled hsaid hsettled]
        simp only [if_neg hpending]
      · rw [if_neg hpending]; rfl

end Step

/-! ## All commands -/

section Run

variable [Python] {b : Backend}

/-- The commands, one after the other, when everything works: their results, and the world after
    them. -/
def World.applyAll : List (ApplyPaymentStatusCommand × Supply) → World b →
    List (Except Exc ApplyPaymentStatusResult) × World b
  | [], w => ([], w)
  | (command, supply) :: rest, w =>
    let first := w.run noAnswers (ApplyPaymentStatusUseCase.execute command supply)
    let others := World.applyAll rest first.2
    (first.1 :: others.1, others.2)

variable {w : World b} {p : Payment} {command : ApplyPaymentStatusCommand}

/-- **An unsupported status changes nothing.** -/
theorem apply_unsupported (hstored : b.paymentGet w.store p.paymentId = .ok p)
    (hid : command.paymentId = p.paymentId) (h : ¬ Supported command.providerStatus)
    (supply : Supply) :
    w.run noAnswers (ApplyPaymentStatusUseCase.execute command supply) =
      (.error (.valueError ("Unsupported Mercado Pago status: " ++ command.providerStatus)), w) := by
  rw [run_apply]
  unfold ApplyPaymentStatusUseCase.outcome
  rw [hid, hstored]
  simp only [decide_unsupported h]

/-- **A supported status does what the machine says.** -/
theorem apply_supported (hb : b.Lawful) (hstored : b.paymentGet w.store p.paymentId = .ok p)
    (hopened : p.status ≠ .waitingPreference) (hid : command.paymentId = p.paymentId)
    (h : Supported command.providerStatus) (supply : Supply) :
    ∃ r w', w.run noAnswers (ApplyPaymentStatusUseCase.execute command supply) = (.ok r, w') ∧
      r.action = p.status.answer command ∧
      b.paymentGet w'.store p.paymentId = .ok { p with status := p.status.hears command } ∧
      AnnouncedAs p.paymentId w.accepted w'.accepted
        (if p.status = .pending then decisive command.providerStatus else none) := by
  obtain ⟨event, hdecide, hannounced⟩ := decide_supported h hopened supply.first
  generalize p.status.hears command = status at hdecide ⊢
  generalize p.status.answer command = action at hdecide ⊢
  generalize (if p.status = .pending then decisive command.providerStatus else none) = said
    at hannounced ⊢
  have hsaved : ∀ store, b.paymentGet (b.paymentSave store { p with status := status })
      p.paymentId = .ok { p with status := status } := by
    intro store
    have hledger := congrArg (fun l : Ledger => l.payment p.paymentId)
      (hb.paymentSave store { p with status := status })
    exact hledger.trans (Function.update_self _ _ _)
  rw [run_apply]
  unfold ApplyPaymentStatusUseCase.outcome
  rw [hid, hstored]
  simp only [hdecide]
  cases event with
  | none =>
    refine ⟨_, _, rfl, rfl, hsaved _, ?_⟩
    cases said with
    | none => rfl
    | some said => obtain ⟨e, he, -⟩ := hannounced; cases he
  | some e =>
    refine ⟨_, _, rfl, rfl, hsaved _, ?_⟩
    cases said with
    | none => cases hannounced
    | some said =>
      obtain ⟨e', he, htype, hpayload⟩ := hannounced
      obtain rfl := List.singleton_injective he
      exact ⟨e, rfl, htype, hpayload⟩

/-- The status that a payment has after some commands. -/
def PaymentStatus.after (status : PaymentStatus) (commands : List (ApplyPaymentStatusCommand × Supply)) :
    PaymentStatus := (commands.map Prod.fst).foldl hears status

/-- The commands whose status is supported. -/
def supportedOnly (commands : List (ApplyPaymentStatusCommand × Supply)) :
    List (ApplyPaymentStatusCommand × Supply) :=
  commands.filter fun command => decide (Supported command.1.providerStatus)

/-- The store follows the machine. -/
structure Follows (p : Payment) (w : World b) (commands : List (ApplyPaymentStatusCommand × Supply)) :
    Prop where
  stored : b.paymentGet (w.applyAll commands).2.store p.paymentId =
    .ok { p with status := p.status.after commands }
  announced : AnnouncedAs p.paymentId w.accepted (w.applyAll commands).2.accepted
    (if p.status = .pending then firstDecisive (commands.map Prod.fst) else none)
  answered : ∀ (i : Nat) (command : ApplyPaymentStatusCommand) (supply : Supply), commands[i]? = some (command, supply) →
    Supported command.providerStatus → ∃ r, (w.applyAll commands).1[i]? = some (.ok r) ∧
      r.action = (p.status.after (commands.take i)).answer command
  refused : ∀ (i : Nat) (command : ApplyPaymentStatusCommand) (supply : Supply), commands[i]? = some (command, supply) →
    ¬ Supported command.providerStatus → (w.applyAll commands).1[i]? =
      some (.error (.valueError ("Unsupported Mercado Pago status: " ++ command.providerStatus)))
  skipped : (w.applyAll commands).2 = (w.applyAll (supportedOnly commands)).2

/-- One more command in front, which is refused. -/
theorem Follows.cons_unsupported {commands : List (ApplyPaymentStatusCommand × Supply)}
    {supply : Supply} (h : Follows p w commands) (hun : ¬ Supported command.providerStatus)
    (hrun : w.run noAnswers (ApplyPaymentStatusUseCase.execute command supply) =
      (.error (.valueError ("Unsupported Mercado Pago status: " ++ command.providerStatus)), w)) :
    Follows p w ((command, supply) :: commands) := by
  have hnone : decisive command.providerStatus = none := by
    cases hsaid : decisive command.providerStatus with
    | none => rfl
    | some said => exact absurd (Or.inl (by rw [hsaid]; rfl)) hun
  have hhears : p.status.hears command = p.status := by
    unfold PaymentStatus.hears
    rw [hnone]
    split_ifs with hpending
    · exact hpending.symm
    · rfl
  have hall : w.applyAll ((command, supply) :: commands) =
      (.error (.valueError ("Unsupported Mercado Pago status: " ++ command.providerStatus)) ::
        (w.applyAll commands).1, (w.applyAll commands).2) := by
    rw [World.applyAll, hrun]
  have hafter : ∀ rest, p.status.after ((command, supply) :: rest) = p.status.after rest := by
    intro rest
    show (rest.map Prod.fst).foldl _ (p.status.hears command) = _
    rw [hhears]
    rfl
  have hfirst : firstDecisive (((command, supply) :: commands).map Prod.fst) =
      firstDecisive (commands.map Prod.fst) := by
    unfold firstDecisive
    rw [List.map_cons, List.findSome?_cons, hnone]
  constructor
  · rw [hall, hafter]; exact h.stored
  · rw [hall, hfirst]; exact h.announced
  · intro i c s hc hsup
    cases i with
    | zero =>
      obtain ⟨rfl, -⟩ := Prod.mk.inj (Option.some.inj hc)
      exact absurd hsup hun
    | succ i =>
      rw [hall, List.take_succ_cons, hafter]
      exact h.answered i c s hc hsup
  · intro i c s hc hno
    cases i with
    | zero =>
      obtain ⟨rfl, -⟩ := Prod.mk.inj (Option.some.inj hc)
      rw [hall]
      rfl
    | succ i =>
      rw [hall]
      exact h.refused i c s hc hno
  · unfold supportedOnly
    rw [hall, List.filter_cons_of_neg (by rw [decide_eq_false hun]; exact Bool.false_ne_true)]
    exact h.skipped

/-- One more command in front, which is answered. -/
theorem Follows.cons_supported {commands : List (ApplyPaymentStatusCommand × Supply)}
    {supply : Supply} {r : ApplyPaymentStatusResult} {w' : World b}
    (h : Follows { p with status := p.status.hears command } w' commands)
    (hsup : Supported command.providerStatus)
    (hrun : w.run noAnswers (ApplyPaymentStatusUseCase.execute command supply) = (.ok r, w'))
    (haction : r.action = p.status.answer command)
    (hannounced : AnnouncedAs p.paymentId w.accepted w'.accepted
      (if p.status = .pending then decisive command.providerStatus else none)) :
    Follows p w ((command, supply) :: commands) := by
  have hall : w.applyAll ((command, supply) :: commands) =
      (.ok r :: (w'.applyAll commands).1, (w'.applyAll commands).2) := by
    rw [World.applyAll, hrun]
  constructor
  · rw [hall]; exact h.stored
  · rw [hall]
    have hrest : AnnouncedAs p.paymentId w'.accepted (w'.applyAll commands).2.accepted
        (if p.status.hears command = .pending then firstDecisive (commands.map Prod.fst) else none) :=
      h.announced
    by_cases hpending : p.status = .pending
    · rw [if_pos hpending] at hannounced ⊢
      unfold PaymentStatus.hears at hrest
      rw [if_pos hpending] at hrest
      unfold firstDecisive at hrest ⊢
      rw [List.map_cons, List.findSome?_cons]
      cases hsaid : decisive command.providerStatus with
      | none =>
        rw [hsaid] at hannounced hrest
        rw [← show w'.accepted = w.accepted from hannounced]
        exact hrest
      | some said =>
        rw [hsaid] at hannounced hrest
        rw [Option.getD_some, if_neg (decisive_ne_pending hsaid)] at hrest
        rw [show (w'.applyAll commands).2.accepted = w'.accepted from hrest]
        exact hannounced
    · rw [if_neg hpending] at hannounced ⊢
      unfold PaymentStatus.hears at hrest
      rw [if_neg hpending, if_neg hpending] at hrest
      exact hrest.trans hannounced
  · intro i c s hc hsup'
    cases i with
    | zero =>
      obtain ⟨rfl, -⟩ := Prod.mk.inj (Option.some.inj hc)
      rw [hall]
      exact ⟨r, rfl, haction⟩
    | succ i =>
      rw [hall, List.take_succ_cons]
      exact h.answered i c s hc hsup'
  · intro i c s hc hno
    cases i with
    | zero =>
      obtain ⟨rfl, -⟩ := Prod.mk.inj (Option.some.inj hc)
      exact absurd hsup hno
    | succ i =>
      rw [hall]
      exact h.refused i c s hc hno
  · unfold supportedOnly
    rw [hall, List.filter_cons_of_pos (by exact decide_eq_true hsup), World.applyAll, hrun]
    exact h.skipped

/-- **The store follows the machine** through every list of commands for the payment. -/
theorem follows (hb : b.Lawful) (commands : List (ApplyPaymentStatusCommand × Supply))
    (hstored : b.paymentGet w.store p.paymentId = .ok p) (hopened : p.status ≠ .waitingPreference)
    (hfor : ∀ command ∈ commands, command.1.paymentId = p.paymentId) : Follows p w commands := by
  induction commands generalizing w p with
  | nil =>
    refine ⟨hstored, ?_, fun _ _ _ h => (by cases h), fun _ _ _ h => (by cases h), rfl⟩
    split_ifs <;> rfl
  | cons head commands ih =>
    obtain ⟨command, supply⟩ := head
    have hid : command.paymentId = p.paymentId := hfor _ List.mem_cons_self
    have hrest : ∀ command ∈ commands, command.1.paymentId = p.paymentId :=
      fun command hmem => hfor command (List.mem_cons_of_mem _ hmem)
    by_cases hsup : Supported command.providerStatus
    · obtain ⟨r, w', hrun, haction, hstored', hannounced⟩ :=
        apply_supported hb hstored hopened hid hsup supply
      have hopened' : p.status.hears command ≠ .waitingPreference := by
        unfold PaymentStatus.hears
        split_ifs
        · cases hsaid : decisive command.providerStatus with
          | none => exact fun h => by cases h
          | some said => exact decisive_ne_waiting hsaid
        · exact hopened
      have hfollows : Follows { p with status := p.status.hears command } w' commands :=
        ih hstored' hopened' hrest
      exact hfollows.cons_supported hsup hrun haction hannounced
    · exact (ih hstored hopened hrest).cons_unsupported hsup (apply_unsupported hstored hid hsup supply)

/-- What a list of commands does to a pending payment. -/
structure FirstDecisiveWins (p : Payment) (w : World b)
    (commands : List (ApplyPaymentStatusCommand × Supply)) : Prop where
  /-- The payment ends as the first decisive status says. -/
  stored : b.paymentGet (w.applyAll commands).2.store p.paymentId =
    .ok { p with status := (firstDecisive (commands.map Prod.fst)).getD .pending }
  /-- Its outcome is announced once, if it has one. -/
  announced : AnnouncedAs p.paymentId w.accepted (w.applyAll commands).2.accepted
    (firstDecisive (commands.map Prod.fst))
  /-- Before the first decisive status, a supported one is ignored. -/
  before : ∀ (i : Nat) (command : ApplyPaymentStatusCommand) (supply : Supply),
    commands[i]? = some (command, supply) → Supported command.providerStatus →
    firstDecisive ((commands.take i).map Prod.fst) = none → decisive command.providerStatus = none →
    ∃ r, (w.applyAll commands).1[i]? = some (.ok r) ∧ r.action = .ignored
  /-- The first decisive status confirms the payment or fails it. -/
  first : ∀ (i : Nat) (command : ApplyPaymentStatusCommand) (supply : Supply) (said : PaymentStatus),
    commands[i]? = some (command, supply) →
    firstDecisive ((commands.take i).map Prod.fst) = none →
    decisive command.providerStatus = some said →
    ∃ r, (w.applyAll commands).1[i]? = some (.ok r) ∧
      r.action = if said = .confirmed then .confirmed else .failed
  /-- After it, one that says the same is a duplicate, and every other supported one is ignored. -/
  after : ∀ (i : Nat) (command : ApplyPaymentStatusCommand) (supply : Supply) (said : PaymentStatus),
    commands[i]? = some (command, supply) → Supported command.providerStatus →
    firstDecisive ((commands.take i).map Prod.fst) = some said →
    ∃ r, (w.applyAll commands).1[i]? = some (.ok r) ∧
      r.action = if decisive command.providerStatus = some said then .duplicate else .ignored
  /-- A status that is not supported is refused. -/
  refused : ∀ (i : Nat) (command : ApplyPaymentStatusCommand) (supply : Supply),
    commands[i]? = some (command, supply) → ¬ Supported command.providerStatus →
    (w.applyAll commands).1[i]? =
      some (.error (.valueError ("Unsupported Mercado Pago status: " ++ command.providerStatus)))
  /-- Nothing else comes of it. -/
  skipped : (w.applyAll commands).2 = (w.applyAll (supportedOnly commands)).2

omit [Python] in
/-- What was said before, as the machine keeps it. -/
theorem after_eq (commands : List (ApplyPaymentStatusCommand × Supply)) :
    PaymentStatus.pending.after commands = (firstDecisive (commands.map Prod.fst)).getD .pending :=
  (hearing_eq (commands.map Prod.fst) .pending).trans (if_pos rfl)

/-- **The first decisive provider status wins**, over both stores. -/
theorem first_decisive_wins {m : RuntimeMode} {w : World m.backend} {p : Payment}
    (commands : List (ApplyPaymentStatusCommand × Supply))
    (hstored : m.backend.paymentGet w.store p.paymentId = .ok p) (hpending : p.status = .pending)
    (hfor : ∀ command ∈ commands, command.1.paymentId = p.paymentId) :
    FirstDecisiveWins p w commands := by
  have hopened : p.status ≠ .waitingPreference := by rw [hpending]; exact fun h => by cases h
  have h : Follows p w commands := follows m.lawful commands hstored hopened hfor
  have hafter : ∀ rest, p.status.after rest = (firstDecisive (rest.map Prod.fst)).getD .pending := by
    intro rest
    rw [hpending, after_eq]
  constructor
  · rw [← hafter]
    exact h.stored
  · have hannounced := h.announced
    rw [if_pos hpending] at hannounced
    exact hannounced
  · intro i command supply hi hsup hnone hopen
    obtain ⟨r, hr, haction⟩ := h.answered i command supply hi hsup
    refine ⟨r, hr, haction.trans ?_⟩
    unfold PaymentStatus.answer
    rw [hopen]
  · intro i command supply said hi hnone hsaid
    have hsup : Supported command.providerStatus := Or.inl (by rw [hsaid]; rfl)
    obtain ⟨r, hr, haction⟩ := h.answered i command supply hi hsup
    refine ⟨r, hr, haction.trans ?_⟩
    unfold PaymentStatus.answer
    rw [hsaid, hafter, hnone]
    rfl
  · intro i command supply said hi hsup hbefore
    obtain ⟨r, hr, haction⟩ := h.answered i command supply hi hsup
    refine ⟨r, hr, haction.trans ?_⟩
    have hne : said ≠ .pending := by
      obtain ⟨earlier, -, hsaid⟩ := List.exists_of_findSome?_eq_some hbefore
      exact decisive_ne_pending hsaid
    unfold PaymentStatus.answer
    rw [hafter, hbefore, Option.getD_some]
    cases hnow : decisive command.providerStatus with
    | none => rw [if_neg (fun h => by cases h)]
    | some now =>
      simp only [if_neg hne, Option.some.injEq]
      exact if_congr eq_comm rfl rfl
  · exact h.refused
  · exact h.skipped

end Run

section Samples

open Sample

/-- A pending payment. -/
def Sample.pendingPayment : Payment :=
  ⟨"quote-1", "os-1", price, "payment-1", .pending, none⟩

/-- It is stored. -/
def Sample.pendingWorld : World memory :=
  ⟨InMemoryPaymentRepository.save .empty pendingPayment, [], [], []⟩

/-- What the provider says about it. -/
def Sample.told : List (ApplyPaymentStatusCommand × Supply) :=
  [" In_Process", "unheard of", "Accredited\n", "rejected", "APPROVED"].map fun status =>
    (⟨"payment-1", status, none⟩, supply "1")

theorem first_decisive_wins_told :
    firstDecisive (told.map Prod.fst) = some .confirmed ∧
      FirstDecisiveWins (b := memory) pendingPayment pendingWorld told := by
  refine ⟨by decide +kernel, ?_⟩
  have hfor : ∀ command ∈ told, command.1.paymentId = pendingPayment.paymentId := by
    intro command hmem
    obtain ⟨status, -, rfl⟩ := List.mem_map.mp hmem
    rfl
  exact first_decisive_wins (m := .memory) told rfl rfl hfor

end Samples

end Billing

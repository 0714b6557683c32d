/-
  Each payment announces its outcome once, unless it is failed again.

  A verdict is an accepted `PAYMENT_CONFIRMED` or `PAYMENT_FAILED`.  `AnnouncedOnce` counts the
  verdicts of every payment against its stored status.  Of all that a request can do (`Effect`), only
  settling a payment adds a verdict, and all ways to settle one look at its status first; but
  `Payment.fail` refuses a confirmed payment only.  So the condition on a run is

  * `failsOpen` — no payment that has failed is failed by hand.

  `ApplyPaymentStatusUseCase` answers such a repetition with `"duplicate"` and says nothing.
-/
import Billing.Proofs.Effects

namespace Billing

open Py Atomic Program System

/-! ## Verdicts -/

/-- The event announces the outcome of this payment. -/
def DomainEvent.isVerdict (e : DomainEvent) (paymentId : String) : Bool :=
  decide ((e.eventType = .paymentConfirmed ∨ e.eventType = .paymentFailed) ∧
    e.payload.get? "payment_id" = some paymentId)

/-- How often the outcome of a payment was announced. -/
def World.verdicts {b : Backend} (w : World b) (paymentId : String) : Nat :=
  w.accepted.countP fun e => e.isVerdict paymentId

/-- The payment has its outcome. -/
def PaymentStatus.terminal : PaymentStatus → Bool
  | confirmed => true
  | failed => true
  | _ => false

theorem Quote.createdEvent_isVerdict (q : Quote) (stamp : Stamp) (paymentId : String) :
    (q.createdEvent stamp).isVerdict paymentId = false := rfl

theorem Quote.approvedEvent_isVerdict (q : Quote) (stamp : Stamp) (paymentId : String) :
    (q.approvedEvent stamp).isVerdict paymentId = false := rfl

theorem Payment.openedEvent_isVerdict (p : Payment) (preferenceId : String) (stamp : Stamp)
    (paymentId : String) : (p.openedEvent preferenceId stamp).isVerdict paymentId = false := rfl

/-- A settled payment announces its own outcome. -/
theorem Settling.isVerdict {p₀ p : Payment} {e : DomainEvent} (h : Settling p₀ p e)
    (paymentId : String) : e.isVerdict paymentId = decide (p.paymentId = paymentId) := by
  rcases h with ⟨stamp, hconfirm⟩ | ⟨reason, stamp, hfail⟩
  · obtain ⟨-, rfl, rfl⟩ := Payment.confirm_eq_ok hconfirm
    refine decide_eq_decide.mpr ⟨fun h => Option.some.inj h.2, fun h => ⟨Or.inl rfl, congrArg some h⟩⟩
  · obtain ⟨-, rfl, rfl⟩ := Payment.fail_eq_ok hfail
    refine decide_eq_decide.mpr ⟨fun h => Option.some.inj h.2, fun h => ⟨Or.inr rfl, congrArg some h⟩⟩

/-- It settles the payment, which was open, or had failed. -/
theorem Settling.terminal {p₀ p : Payment} {e : DomainEvent} (h : Settling p₀ p e) :
    p.paymentId = p₀.paymentId ∧ p.status.terminal = true ∧
      (p₀.status.terminal = false ∨ p₀.status = .failed) := by
  rcases h with ⟨stamp, hconfirm⟩ | ⟨reason, stamp, hfail⟩
  · obtain ⟨hpending, rfl, -⟩ := Payment.confirm_eq_ok hconfirm
    exact ⟨rfl, rfl, Or.inl (by rw [hpending]; rfl)⟩
  · obtain ⟨hne, rfl, -⟩ := Payment.fail_eq_ok hfail
    refine ⟨rfl, rfl, ?_⟩
    cases hs : p₀.status with
    | confirmed => exact absurd hs hne
    | failed => exact Or.inr rfl
    | _ => exact Or.inl rfl

section Verdicts

variable [Python] {d : Deployment}

/-- How often the outcome of a payment should have been announced: once if it has one. -/
def Database.verdicts (db : Database) (paymentId : String) : Nat :=
  match SqlAlchemyPaymentRepository.get db paymentId with
  | .ok p => if p.status.terminal then 1 else 0
  | .error _ => 0

/-- **Every payment announces its outcome exactly once.** -/
def AnnouncedOnce (w : World sql) : Prop :=
  ∀ paymentId, w.verdicts paymentId = w.store.verdicts paymentId

/-- The request does not fail a payment that has failed. -/
def Database.failsOpen (db : Database) (req : Request) : Bool :=
  match req.command with
  | .failPayment paymentId _ =>
    decide ((SqlAlchemyPaymentRepository.get db paymentId).map Payment.status ≠ .ok .failed)
  | _ => true

/-- No payment that has failed is failed by hand. -/
def failsOpen (c : Config (system sql d)) : Action (system sql d) → Bool
  | .start req => c.state.store.failsOpen req
  | _ => true

/-! ## One request -/

variable {w w' : World sql} {req : Request}

theorem Database.Same.verdicts {db db' : Database} (h : db.Same db') (paymentId : String) :
    db'.verdicts paymentId = db.verdicts paymentId := by
  unfold Database.verdicts
  rw [h.payment_get]

theorem Database.verdicts_save (db : Database) (p : Payment) (paymentId : String) :
    (SqlAlchemyPaymentRepository.save db p).verdicts paymentId =
      if p.paymentId = paymentId then (if p.status.terminal then 1 else 0)
      else db.verdicts paymentId := by
  unfold Database.verdicts
  rw [Database.payment_get_save]
  by_cases hid : p.paymentId = paymentId
  · rw [if_pos hid, if_pos hid]
  · rw [if_neg hid, if_neg hid]

/-- What is stored under ids that were not issued: nothing. -/
def Issued (w : World sql) : Prop := ∀ p, w.store.HasPayment p → p.paymentId ∈ w.issued

theorem Issued.verdicts (h : Issued w) {paymentId : String} (hnew : paymentId ∉ w.issued) :
    w.store.verdicts paymentId = 0 := by
  unfold Database.verdicts
  cases hget : SqlAlchemyPaymentRepository.get w.store paymentId with
  | error e => rfl
  | ok p =>
    obtain ⟨rfl, hp⟩ := Database.payment_get_eq_ok.mp hget
    exact absurd (h p hp) hnew

theorem Issued.next (h : Issued w) (hissued : w'.issued = req.supply.ids ++ w.issued)
    (heff : Effect req w w') : Issued w' := by
  intro p hp
  rw [hissued]
  cases heff with
  | nothing store accepted => exact List.mem_append_right _ (h p (store.hasPayment.mp hp))
  | creates q fresh created store accepted =>
    exact List.mem_append_right _ (h p (store.hasPayment.mp hp))
  | approves q p' preference stored created opened store accepted =>
    rcases Database.hasPayment_save.mp (store.hasPayment.mp hp) with rfl | ⟨-, hp⟩
    · rw [opened]
      exact List.mem_append_left _ (by simp [Supply.ids, Quote.opened])
    · exact List.mem_append_right _ (h p hp)
  | settles p₀ p' e stored settled again store accepted =>
    rcases Database.hasPayment_save.mp (store.hasPayment.mp hp) with rfl | ⟨-, hp⟩
    · rw [settled.terminal.1]
      exact List.mem_append_right _ (h p₀ stored)
    · exact List.mem_append_right _ (h p hp)

/-- **A request that fails no failed payment keeps the count.** -/
theorem AnnouncedOnce.next (h : AnnouncedOnce w) (hids : Issued w)
    (hfresh : req.supply.Fresh w.issued) (hopen : w.store.failsOpen req = true)
    (heff : Effect req w w') : AnnouncedOnce w' := by
  intro paymentId
  have hold : w.accepted.countP (fun e => e.isVerdict paymentId) = w.store.verdicts paymentId :=
    h paymentId
  unfold World.verdicts
  cases heff with
  | nothing store accepted => rw [accepted, store.verdicts, hold]
  | creates q fresh created store accepted =>
    rw [accepted, store.verdicts, List.countP_append, hold]
    simp only [List.countP_singleton, q.createdEvent_isVerdict]
    rfl
  | approves q p preference stored created opened store accepted =>
    rw [accepted, (store.verdicts paymentId).trans (Database.verdicts_save _ p paymentId),
      List.countP_append, List.countP_append, hold]
    simp only [List.countP_singleton, q.approvedEvent_isVerdict, p.openedEvent_isVerdict]
    by_cases hid : p.paymentId = paymentId
    · -- a new payment is pending, and nothing was announced under its id
      have hnew : paymentId ∉ w.issued := by
        rw [← hid, opened]
        exact hfresh.2 _ (by simp [Supply.ids, Quote.opened])
      rw [if_pos hid, hids.verdicts hnew, opened]
      rfl
    · rw [if_neg hid]
      rfl
  | settles p₀ p e stored settled again store accepted =>
    obtain ⟨hpid, hterminal, hwas⟩ := settled.terminal
    rw [accepted, (store.verdicts paymentId).trans (Database.verdicts_save _ p paymentId),
      List.countP_append, hold]
    simp only [List.countP_singleton, settled.isVerdict]
    by_cases hid : p.paymentId = paymentId
    · have hget : SqlAlchemyPaymentRepository.get w.store paymentId = .ok p₀ :=
        Database.payment_get_eq_ok.mpr ⟨hpid.symm.trans hid, stored⟩
      -- its outcome was open, for a failed payment is not failed again
      have hopened : p₀.status.terminal = false := by
        rcases hwas with hopened | hfailed
        · exact hopened
        · obtain ⟨reason, hcommand⟩ := again hfailed
          have hmap : (SqlAlchemyPaymentRepository.get w.store p₀.paymentId).map Payment.status =
              .ok .failed := by
            rw [← hpid, hid, hget, ← hfailed]
            rfl
          unfold Database.failsOpen at hopen
          rw [hcommand] at hopen
          exact absurd hmap (of_decide_eq_true hopen)
      have hzero : w.store.verdicts paymentId = 0 := by
        unfold Database.verdicts
        rw [hget]
        simp only [hopened, Bool.false_eq_true, if_false]
      rw [if_pos hid, hzero, decide_eq_true hid, hterminal]
      rfl
    · rw [if_neg hid, decide_eq_false hid]
      rfl

/-! ## Runs -/

theorem announcedOnce_empty : AnnouncedOnce (World.empty sql) := fun _ => rfl

/-- **Each payment announces its outcome exactly once**, when no failed payment is failed again. -/
theorem announced_once {c : Config (system sql d)}
    (H : Runs (fun c a => orderly c a ∧ failsOpen c a = true) (start sql d) c)
    (hrest : c.atRest = true) : AnnouncedOnce c.state := by
  have hboth : Issued c.state ∧ AnnouncedOnce c.state := by
    refine H.at_rest (P := fun (w : World sql) (req : Request) => w.store.failsOpen req = true)
      (I := fun w => Issued w ∧ AnnouncedOnce w) (fun _ _ ha => ha.1) (fun _ _ ha => ha.2) rfl
      ⟨(fun _ hp => by cases hp), announcedOnce_empty⟩ (fun w w' hw hserves => ?_) hrest
    obtain ⟨req, hopen, hfresh, hissued, heff⟩ := serves_effect hserves
    exact ⟨hw.1.next hissued heff, hw.2.next hw.1 hfresh hopen heff⟩
  exact hboth.2

end Verdicts

section Samples

open Sample

/-- A payment is opened and fails. -/
def Sample.failed : List (Action (system sql mock)) :=
  [create "1" "os-1"] ++ go 0 2 ++ [ask "2" (.approveQuote "quote-1")] ++ go 1 7 ++
    [ask "3" (.failPayment "payment-2" "card refused")] ++ go 2 4

/-- The provider says the same. -/
def Sample.failedByProvider : List (Action (system sql mock)) :=
  failed ++ [ask "4" (.applyPaymentStatus ⟨"payment-2", "rejected", none⟩)] ++ go 3 2

/-- It is failed by hand once more. -/
def Sample.failedAgain : List (Action (system sql mock)) :=
  failed ++ [ask "4" (.failPayment "payment-2" "card refused")] ++ go 3 4

theorem announced_once_failed : ∃ w : World sql, w.verdicts "payment-2" = 1 ∧ AnnouncedOnce w := by
  have hplay : ((start sql mock).play (fun c a => orderly c a ∧ failsOpen c a = true)
      failedByProvider).map (fun c => (c.atRest, c.state.verdicts "payment-2")) =
      some (true, 1) := by decide +kernel
  obtain ⟨c, hc, hstate⟩ := Option.map_eq_some_iff.mp hplay
  obtain ⟨hrest, hverdicts⟩ := Prod.mk.inj hstate
  exact ⟨c.state, hverdicts, announced_once (Config.play_runs hc) hrest⟩

/-- **A payment that is failed twice announces it twice.** -/
theorem announced_twice : ¬ ∀ c : Config (system sql mock), Runs orderly (start sql mock) c →
    c.atRest = true → AnnouncedOnce c.state := by
  intro h
  have hplay : ((start sql mock).play orderly failedAgain).map (fun c =>
      (c.atRest, c.state.verdicts "payment-2", c.state.store.verdicts "payment-2")) =
      some (true, 2, 1) := by decide +kernel
  obtain ⟨c, hc, hstate⟩ := Option.map_eq_some_iff.mp hplay
  obtain ⟨hrest, hrest'⟩ := Prod.mk.inj hstate
  obtain ⟨htwo, hone⟩ := Prod.mk.inj hrest'
  have honce := h c (Config.play_runs hc) hrest "payment-2"
  rw [htwo, hone] at honce
  cases honce

end Samples

end Billing

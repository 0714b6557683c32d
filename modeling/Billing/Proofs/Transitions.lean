/-
  The counter of payment transitions (`PAYMENT_TRANSITION_COUNTER`).

  A route counts after its use case, and a use case that settles a payment ends with the publication of
  its outcome.  `serve_tells` says it of each request: it was told to the broker that the payment is
  settled so often as its route will count, whatever the steps answered.  `always_behind` carries that
  over to the routes, where `Tally` is the invariant of a thread, and `Config.steps` adds the threads up.

  So in every run, over either store and any gateway, with requests cut off anywhere, the counter never
  shows a transition that was not announced; and it shows them all when nobody was cut off and the
  broker did not break a connection after it took the message.
-/
import Billing.Lib.Agenda
import Billing.Proofs.Handling
import Billing.Presentation.Api

namespace Billing

open Py Atomic Program

/-! ## What is told by the steps of a request -/

/-- The transition that an event announces. -/
def EventType.transition : EventType → Option TransitionResult
  | paymentConfirmed => some .confirmed
  | paymentFailed => some .failed
  | _ => none

theorem EventType.transition_eq_some {t : EventType} {result : TransitionResult} :
    t.transition = some result ↔ t = result.eventType := by
  cases t <;> cases result <;> decide

/-- The transition that a step would announce. -/
def Port.transition : Port → Option TransitionResult
  | publish e => e.eventType.transition
  | _ => none

/-- The step announced this transition. -/
def announced (result : TransitionResult) : Event → Bool
  | ⟨.publish e, .ok _⟩ => decide (e.eventType = result.eventType)
  | _ => false

/-- These steps announced this transition and no other, or none at all. -/
def Tells (h : List Event) (transition : Option TransitionResult) : Prop :=
  ∀ result, h.countP (announced result) = if transition = some result then 1 else 0

theorem tells_nil : Tells [] none := fun _ => rfl

/-- A step that announces nothing. -/
theorem announced_of_none {d : Event} (h : d.op.transition = none) (result : TransitionResult) :
    announced result d = false := by
  obtain ⟨op, res⟩ := d
  cases op with
  | publish e =>
    cases res with
    | error x => rfl
    | ok u =>
      refine decide_eq_false fun he => ?_
      have hsome := EventType.transition_eq_some.mpr he
      rw [show e.eventType.transition = none from h] at hsome
      cases hsome
  | _ => rfl

theorem Tells.append {h h₁ : List Event} {transition : Option TransitionResult}
    (ht : Tells h transition) (hh : ∀ d ∈ h₁, d.op.transition = none) : Tells (h ++ h₁) transition := by
  intro result
  have hnone : h₁.countP (announced result) = 0 := by
    rw [List.countP_eq_zero]
    intro d hd
    rw [announced_of_none (hh d hd)]
    exact Bool.false_ne_true
  rw [List.countP_append, hnone]
  exact ht result

theorem Tells.concat {h : List Event} {d : Event} {transition : Option TransitionResult}
    (ht : Tells h transition) (hd : d.op.transition = none) : Tells (h ++ [d]) transition :=
  ht.append fun d' hd' => by rw [List.mem_singleton.mp hd']; exact hd

/-- A step that raised announced nothing. -/
theorem Tells.raised {h : List Event} {o : Port} {x : Exc} {transition : Option TransitionResult}
    (ht : Tells h transition) : Tells (h ++ [⟨o, .error x⟩]) transition := by
  intro result
  have hnone : announced result ⟨o, .error x⟩ = false := by cases o <;> rfl
  rw [List.countP_append, List.countP_singleton, hnone]
  exact ht result

theorem Tells.published {h : List Event} {e : DomainEvent} {u : Unit} {result : TransitionResult}
    (ht : Tells h none) (he : e.eventType = result.eventType) :
    Tells (h ++ [⟨.publish e, .ok u⟩]) (some result) := by
  intro result'
  rw [List.countP_append, List.countP_singleton, ht result']
  have hiff : announced result' ⟨.publish e, .ok u⟩ = true ↔ some result = some result' := by
    refine Iff.trans decide_eq_true_iff ?_
    rw [he]
    cases result <;> cases result' <;> decide
  by_cases hr : some result = some result'
  · rw [if_pos hr, if_pos (hiff.mpr hr)]
    rfl
  · rw [if_neg hr, if_neg fun h => hr (hiff.mp h)]
    rfl

/-! ## Requests -/

/-- What was told at the end of a computation of which this is to be counted. -/
def TellsEnd {α : Type} (count : α → Option TransitionResult) (h : List Event) : Except Exc α → Prop
  | .ok a => Tells h (count a)
  | .error _ => Tells h none

/-- Nothing is asked of the steps before. -/
abbrev AnyStep : List Event → Port → Prop := fun _ _ => True

section Requests

variable {α β : Type} {h : List Event}

/-- A program that announces nothing, of which nothing is counted. -/
theorem quiet_tells {p : Service α} (hp : Only (fun o : Port => o.transition = none) p)
    (ht : Tells h none) : Always AnyStep (TellsEnd fun _ => none) h p := by
  refine hp.done.mono (fun _ _ ho => ho) fun h' r => ?_
  rintro ⟨h₁, rfl, hh⟩
  cases r with
  | ok a => exact ht.append hh
  | error e => exact ht.append hh

/-- The rule of one more step that announces nothing. -/
theorem tells_perform_bind {o : Port} {f : o.Res → Service α} {count : α → Option TransitionResult}
    (ho : o.transition = none) (ht : Tells h none)
    (hf : ∀ a, Tells (h ++ [⟨o, .ok a⟩]) none → Always AnyStep (TellsEnd count) (h ++ [⟨o, .ok a⟩]) (f a)) :
    Always AnyStep (TellsEnd count) h (Service.ask o >>= f) := by
  rw [always_perform_bind]
  exact ⟨trivial, fun a => hf a (ht.concat ho), fun e => ht.concat ho⟩

theorem tells_ofExcept_bind {x : Except Exc β} {f : β → Service α} {count : α → Option TransitionResult}
    (ht : Tells h none) (hf : ∀ b, x = .ok b → Always AnyStep (TellsEnd count) h (f b)) :
    Always AnyStep (TellsEnd count) h (ofExcept x >>= f) := by
  rw [always_ofExcept_bind]
  exact ⟨hf, fun _ _ => ht⟩

/-- **The end of a use case that settles a payment**: the outcome is told exactly if it returns. -/
theorem settling_tells {p : Payment} {e : DomainEvent} {a : α} {count : α → Option TransitionResult}
    (result : TransitionResult) (he : e.eventType = result.eventType) (hcount : count a = some result)
    (ht : Tells h none) : Always AnyStep (TellsEnd count) h (do
      p.assign
      PaymentRepository.save p
      EventPublisher.publish e
      return a) := by
  refine tells_perform_bind rfl ht fun _ ht => tells_perform_bind rfl ht fun _ ht => ?_
  rw [always_perform_bind]
  refine ⟨trivial, fun u => ?_, fun x => ht.raised⟩
  show Tells _ (count a)
  rw [hcount]
  exact ht.published he

theorem confirmPayment_tells (paymentId : String) (supply : Supply) :
    Always AnyStep (TellsEnd fun _ => some .confirmed) [] (ConfirmPaymentUseCase.execute paymentId supply) := by
  refine tells_perform_bind rfl tells_nil fun p₀ ht => tells_ofExcept_bind ht ?_
  rintro ⟨p, e⟩ hconfirm
  exact settling_tells .confirmed (congrArg DomainEvent.eventType (Payment.confirm_eq_ok hconfirm).2.2) rfl ht

theorem failPayment_tells (paymentId reason : String) (supply : Supply) :
    Always AnyStep (TellsEnd fun _ => some .failed) [] (FailPaymentUseCase.execute paymentId reason supply) := by
  refine tells_perform_bind rfl tells_nil fun p₀ ht => tells_ofExcept_bind ht ?_
  rintro ⟨p, e⟩ hfail
  exact settling_tells .failed (congrArg DomainEvent.eventType (Payment.fail_eq_ok hfail).2.2) rfl ht

theorem applyPaymentStatus_tells (command : ApplyPaymentStatusCommand) (supply : Supply)
    (ht : Tells h none) : Always AnyStep (TellsEnd fun result => result.action.transition) h
      (ApplyPaymentStatusUseCase.execute command supply) := by
  rw [ApplyPaymentStatusUseCase.execute_eq]
  refine tells_perform_bind rfl ht fun p₀ ht => ?_
  generalize hx : ApplyPaymentStatusUseCase.decide p₀ command supply.first = x
  refine tells_ofExcept_bind ht ?_
  rintro ⟨p, event, action⟩ rfl
  -- an outcome is announced exactly by the two decisions that are counted
  rcases ApplyPaymentStatusUseCase.decide_eq_ok hx with ⟨-, rfl, e, rfl, hconfirm⟩ |
    ⟨rfl, e, rfl, hfail⟩ | ⟨rfl, rfl, -⟩ | ⟨rfl, rfl, -⟩
  · exact settling_tells .confirmed (congrArg DomainEvent.eventType (Payment.confirm_eq_ok hconfirm).2.2) rfl ht
  · exact settling_tells .failed (congrArg DomainEvent.eventType (Payment.fail_eq_ok hfail).2.2) rfl ht
  · exact tells_perform_bind rfl ht fun _ ht => ht
  · exact tells_perform_bind rfl ht fun _ ht => ht

theorem syncPaymentStatus_tells (gateway : PaymentGateway) (paymentId : String) (supply : Supply) :
    Always AnyStep (TellsEnd fun result => result.action.transition) []
      (SyncPaymentStatusUseCase.execute gateway paymentId supply) := by
  refine tells_perform_bind rfl tells_nil fun p₀ ht => ?_
  rw [always_bind]
  have hcall : Only (fun o : Port => o.transition = none)
      (PaymentGateway.call (gateway.getPaymentStatus p₀)) := Only.embed _ fun _ => rfl
  refine (quiet_tells hcall ht).mono (fun _ _ ho => ho) fun h' r ht => ?_
  cases r with
  | error e => exact ht
  | ok status =>
    show Always _ _ h' (_ >>= _)
    rw [always_bind]
    refine (applyPaymentStatus_tells _ supply ht).mono (fun _ _ ho => ho) fun h' r ht => ?_
    cases r with
    | error e => exact ht
    | ok result => exact ht

theorem createQuote_quiet (command : CreateQuoteCommand) (supply : Supply) :
    Only (fun o : Port => o.transition = none) (CreateQuoteUseCase.execute command supply) := by
  rw [CreateQuoteUseCase.execute_eq]
  refine .ofExcept_bind ?_
  rintro ⟨q, e⟩ hopening
  obtain ⟨-, -, -, -, -, he⟩ := CreateQuoteUseCase.opening_eq_ok hopening
  refine .perform_bind rfl fun _ => .perform_bind ?_ fun _ => .ret _
  show e.eventType.transition = none
  rw [he]
  rfl

theorem approveQuote_quiet (gateway : PaymentGateway) (quoteId : String) (supply : Supply) :
    Only (fun o : Port => o.transition = none) (ApproveQuoteUseCase.execute gateway quoteId supply) := by
  unfold ApproveQuoteUseCase.execute Payment.createPreference
  refine .perform_bind rfl fun q₀ => .ofExcept_bind ?_
  rintro ⟨q, approvedEvent⟩ happrove
  have hevent : approvedEvent.eventType.transition = none := by
    rw [(Quote.approve_eq_ok happrove).2.2]
    rfl
  refine .perform_bind rfl fun _ => .ofExcept_bind fun p₀ _ => ?_
  rw [bind_assoc]
  refine .ofExcept_bind fun _ _ => ?_
  rw [bind_assoc]
  refine .bind (.embed _ fun _ => rfl) fun pref => ?_
  show Only _ (((p₀.attachPreference pref supply.second).1.assign >>= _) >>= _)
  rw [bind_assoc]
  refine .perform_bind rfl fun _ => .perform_bind rfl fun _ => .perform_bind rfl fun _ => ?_
  exact .perform_bind hevent fun _ => .perform_bind rfl fun _ => .ret _

theorem handle_quiet [Python] (handler : BillingIntegrationEventHandler) (message : EventMessage)
    (supply : Supply) : Only (fun o : Port => o.transition = none) (handler.handle message supply) := by
  rw [BillingIntegrationEventHandler.handle_eq]
  refine .perform_bind rfl fun processed => ?_
  unfold BillingIntegrationEventHandler.answering
  split
  · exact .ret _
  · split
    · exact .ret _
    · refine .ofExcept_bind ?_
      rintro ⟨q, e⟩ hopening
      obtain ⟨command, -, hopening⟩ := BillingIntegrationEventHandler.opening_eq_ok hopening
      obtain ⟨-, -, -, -, -, he⟩ := CreateQuoteUseCase.opening_eq_ok hopening
      refine .perform_bind rfl fun _ => .perform_bind ?_ fun _ => .perform_bind rfl fun _ => .ret _
      show e.eventType.transition = none
      rw [he]
      rfl

variable [Python]

/-- What a request told at its end is what its route counts. -/
abbrev Counted (command : Command) (h : List Event) (r : Except Exc Response) : Prop :=
  Tells h (transitionOf command r)

/-- The rule of a request: what its use case returns is wrapped. -/
theorem counted_wrap {command : Command} {p : Service α} {f : α → Response}
    {count : α → Option TransitionResult} (hp : Always AnyStep (TellsEnd count) [] p)
    (hok : ∀ a, transitionOf command (.ok (f a)) = count a)
    (herror : ∀ e, transitionOf command (.error e) = none) :
    Always AnyStep (Counted command) [] (p >>= fun a => pure (f a)) := by
  rw [always_bind]
  refine hp.mono (fun _ _ ho => ho) fun h r ht => ?_
  cases r with
  | ok a =>
    show Tells h (transitionOf command (.ok (f a)))
    rw [hok]
    exact ht
  | error e =>
    show Tells h (transitionOf command (.error e))
    rw [herror]
    exact ht

/-- **Every request tells what its route counts**, whatever the steps answered. -/
theorem serve_tells (d : Deployment) (req : Request) :
    Always AnyStep (Counted req.command) [] (d.serve req) := by
  obtain ⟨command, supply⟩ := req
  cases command with
  | createQuote command =>
    exact counted_wrap (quiet_tells (createQuote_quiet command supply) tells_nil)
      (fun _ => rfl) fun _ => rfl
  | approveQuote quoteId =>
    exact counted_wrap (quiet_tells (approveQuote_quiet d.gateway quoteId supply) tells_nil)
      (fun _ => rfl) fun _ => rfl
  | confirmPayment paymentId =>
    exact counted_wrap (confirmPayment_tells paymentId supply) (fun _ => rfl) fun _ => rfl
  | failPayment paymentId reason =>
    exact counted_wrap (failPayment_tells paymentId reason supply) (fun _ => rfl) fun _ => rfl
  | applyPaymentStatus command =>
    exact counted_wrap (applyPaymentStatus_tells command supply tells_nil) (fun _ => rfl) fun _ => rfl
  | syncPaymentStatus paymentId =>
    exact counted_wrap (syncPaymentStatus_tells d.gateway paymentId supply) (fun _ => rfl) fun _ => rfl
  | handle message =>
    exact counted_wrap (quiet_tells (handle_quiet d.handler message supply) tells_nil)
      (fun _ => rfl) fun _ => rfl

end Requests

/-! ## Routes -/

section Routes

variable [Python] {b : Backend} {d : Deployment}

/-- A step that has been done for a route. -/
abbrev RouteEvent : Type := Done (ports.sum metrics) Exc

omit [Python] in
/-- The step counted this transition. -/
def counts (result : TransitionResult) : RouteEvent → Bool
  | ⟨.inr result', _⟩ => decide (result' = result)
  | ⟨.inl _, _⟩ => false

/-- The step announced this transition. -/
def tells (result : TransitionResult) : RouteEvent → Bool
  | ⟨.inl o, r⟩ => announced result ⟨o, r⟩
  | ⟨.inr _, _⟩ => false

/-- Before a route counts, it announced more than it counted. -/
def CountsAfter (h : List RouteEvent) : Port ⊕ TransitionResult → Prop
  | .inl _ => True
  | .inr result => h.countP (counts result) < h.countP (tells result)

/-- At its end, a route has counted what it announced. -/
def TalliesUp (h : List RouteEvent) (_ : Except Exc (Option Answer)) : Prop :=
  ∀ result, h.countP (counts result) = h.countP (tells result)

omit [Python] in
theorem countP_counts_left (h : List Event) (result : TransitionResult) :
    (h.map Done.left).countP (counts result) = 0 := by
  rw [List.countP_map, List.countP_eq_zero]
  exact fun _ _ => Bool.false_ne_true

omit [Python] in
theorem countP_tells_left (h : List Event) (result : TransitionResult) :
    (h.map Done.left).countP (tells result) = h.countP (announced result) := by
  rw [List.countP_map]
  rfl

/-- **A route counts a transition once, and after it was announced.** -/
theorem route_tally (req : Request) : Always CountsAfter TalliesUp [] ((api b d).program req) := by
  refine always_behind (h := []) (serve_tells d req) (fun _ _ _ => trivial) fun h r ht => ?_
  show Always _ _ _ (finishRoute req.command r).right
  unfold finishRoute
  cases htransition : transitionOf req.command r with
  | none =>
    intro result
    rw [countP_counts_left, countP_tells_left, ht result, htransition]
    rfl
  | some counted =>
    rw [Counted, htransition] at ht
    refine ⟨?_, fun x => ?_⟩
    · show List.countP _ _ < List.countP _ _
      rw [countP_counts_left, countP_tells_left, ht counted, if_pos rfl]
      exact Nat.one_pos
    · have hend : TalliesUp (h.map Done.left ++ [⟨.inr counted, x⟩]) (.ok (answerOf req.command r)) := by
        intro result
        rw [List.countP_append, List.countP_append, countP_counts_left, countP_tells_left, ht result,
          List.countP_singleton, List.countP_singleton]
        by_cases hcounted : counted = result
        · rw [hcounted, if_pos rfl]
          show 0 + (if decide (result = result) = true then 1 else 0) = 1 + 0
          rw [if_pos (decide_eq_true rfl)]
        · rw [if_neg fun h => hcounted (Option.some.inj h)]
          show 0 + (if decide (counted = result) = true then 1 else 0) = 0 + 0
          rw [if_neg fun h => hcounted (of_decide_eq_true h)]
      cases x with
      | ok u => exact hend
      | error e => exact hend

/-- A route at work. -/
structure Tally (t : Thread (api b d)) : Prop where
  /-- It was cut off, or it keeps to `CountsAfter` and `TalliesUp`. -/
  follows : t.Follows (fun _ => CountsAfter) fun _ => TalliesUp
  /-- It counted nothing that it did not announce. -/
  bound : ∀ result, t.history.countP (counts result) ≤ t.history.countP (tells result)

theorem Tally.step {t : Thread (api b d)} (h : Tally t) {o : (ports.sum metrics).Op}
    {k : Except Exc ((ports.sum metrics).Res o) → Program (ports.sum metrics) Exc (Option Answer)}
    (hr : t.rest = .step o k) (r : Except Exc ((ports.sum metrics).Res o)) :
    Tally (⟨t.req, t.history ++ [⟨o, r⟩], k r⟩ : Thread (api b d)) := by
  obtain ⟨hbefore, hafter⟩ := h.follows.at_step hr
  refine ⟨Or.inr (hafter r), fun result => ?_⟩
  have hbound := h.bound result
  rw [List.countP_append, List.countP_append, List.countP_singleton]
  cases o with
  | inl o =>
    have hnone : counts result (⟨.inl o, r⟩ : RouteEvent) = false := rfl
    rw [hnone]
    exact Nat.le_trans hbound (Nat.le_add_right _ _)
  | inr counted =>
    have hlt : t.history.countP (counts counted) < t.history.countP (tells counted) := hbefore
    by_cases hcounted : counted = result
    · subst hcounted
      show _ + (if decide (counted = counted) = true then 1 else 0) ≤ _
      rw [if_pos (decide_eq_true rfl)]
      omega
    · show _ + (if decide (counted = result) = true then 1 else 0) ≤ _
      rw [if_neg fun h => hcounted (of_decide_eq_true h)]
      omega

/-! ## Runs -/

/-- How often a transition was announced by events that the broker took. -/
def World.announcements (w : World b) (result : TransitionResult) : Nat :=
  w.accepted.countP fun e => decide (e.eventType = result.eventType)

/-- **What a step tells, the broker has taken.**  It takes more only when it breaks a connection after
    that. -/
theorem announcements_exec {w w' : World b} {o : Port} {fate : Fate} {r : Except Exc o.Res}
    (hx : w.exec o fate = some (r, w')) (result : TransitionResult) :
    w.announcements result + [(⟨o, r⟩ : Event)].countP (announced result) ≤ w'.announcements result ∧
      ((fate.raised true = true → ∀ e, o ≠ .publish e) →
        w'.announcements result = w.announcements result + [(⟨o, r⟩ : Event)].countP (announced result)) := by
  have same : w'.accepted = w.accepted → announced result ⟨o, r⟩ = false →
      w'.announcements result = w.announcements result + [(⟨o, r⟩ : Event)].countP (announced result) := by
    intro hacc hnone
    rw [List.countP_singleton, hnone]
    exact congrArg _ hacc
  cases o with
  | publish e =>
    have more : w'.accepted = w.accepted ++ [e] → w'.announcements result =
        w.announcements result + if decide (e.eventType = result.eventType) = true then 1 else 0 := by
      intro hacc
      unfold World.announcements
      rw [hacc, List.countP_append, List.countP_singleton]
    cases fate with
    | answers response => cases hx
    | proceeds =>
      simp only [World.exec, World.publish] at hx
      split at hx
      · cases hx
        have heq := same rfl rfl
        exact ⟨heq.ge, fun _ => heq⟩
      · cases hx
        have heq := more rfl
        rw [List.countP_singleton]
        exact ⟨heq.ge, fun _ => heq⟩
    | raises x committed =>
      cases hx
      cases committed with
      | false =>
        have heq := same rfl rfl
        exact ⟨heq.ge, fun _ => heq⟩
      | true =>
        have heq := more rfl
        refine ⟨?_, fun hno => absurd rfl (hno rfl e)⟩
        rw [heq]
        exact Nat.add_le_add_left (Nat.zero_le _) _
  | _ =>
    have hacc : w'.accepted = w.accepted := by
      cases fate <;> grind [World.exec, World.read, World.write, World.assign, World.call]
    have heq := same hacc rfl
    exact ⟨heq.ge, fun _ => heq⟩

/-- A publication that the broker breaks off after it took the message. -/
def breaksOff (c : Config (api b d)) : Action (api b d) → Bool
  | .step i (some fate) => fate.raised true && c.asking i fun _ o =>
    match o with
    | .inl (.publish _) => true
    | _ => false
  | _ => false

/-- Nobody is cut off, and the broker breaks no connection after it took the message. -/
def undisturbedRoutes (c : Config (api b d)) : Action (api b d) → Prop
  | .abort _ _ => False
  | .start _ => True
  | .step i ch => breaksOff c (.step i ch) = false

instance : ∀ (c : Config (api b d)) (a : Action (api b d)), Decidable (undisturbedRoutes c a)
  | _, .abort _ _ => isFalse id
  | _, .start _ => isTrue trivial
  | c, .step i ch => inferInstanceAs (Decidable (breaksOff c (.step i ch) = false))

/-- **The invariant**: the counter is the number of steps that count, and what they tell was taken. -/
structure Reckoned (c : Config (api b d)) : Prop where
  tallies : ∀ t ∈ c.threads, Tally t
  counter : ∀ result, c.state.2 result = c.steps.countP (counts result)
  told : ∀ result, c.steps.countP (tells result) ≤ c.state.1.announcements result

theorem reckoned_start : Reckoned (apiStart b d) where
  tallies := fun _ ht => absurd ht List.not_mem_nil
  counter := fun _ => rfl
  told := fun _ => Nat.zero_le _

theorem api_arrive {s s' : (api b d).State} {req : Request} (h : (api b d).arrive s req = some s') :
    s'.2 = s.2 ∧ s'.1.accepted = s.1.accepted := by
  obtain ⟨w, harr, rfl⟩ := Option.map_eq_some_iff.mp h
  simp only [system, World.arrive] at harr
  split at harr
  · rw [← Option.some.inj harr]
    exact ⟨rfl, rfl⟩
  · cases harr

theorem Tally.next {c c' : Config (api b d)} {a : Action (api b d)} (h : ∀ t ∈ c.threads, Tally t)
    (hn : c.next a = some c') : ∀ t ∈ c'.threads, Tally t := by
  intro t ht
  rcases Config.mem_next hn ht with ht | ⟨req, -, rfl⟩ | ⟨i, ch, t₀, o, k, r, -, hi, hr, -, rfl⟩ |
    ⟨i, e, t₀, -, hi, -, rfl⟩
  · exact h t ht
  · exact ⟨Or.inr (route_tally req), fun _ => Nat.le_refl _⟩
  · exact (h t₀ (List.mem_of_getElem? hi)).step hr r
  · exact ⟨Or.inl ⟨e, rfl⟩, (h t₀ (List.mem_of_getElem? hi)).bound⟩

/-- What a step of a route does to the counter and to what the broker took. -/
theorem api_exec {s s' : (api b d).State} {o : (ports.sum metrics).Op} {ch : (api b d).Choice}
    {r : Except Exc ((ports.sum metrics).Res o)} (hx : (api b d).exec o ch s = some (r, s'))
    (result : TransitionResult) :
    s'.2 result = s.2 result + [(⟨o, r⟩ : RouteEvent)].countP (counts result) ∧
      s.1.announcements result + [(⟨o, r⟩ : RouteEvent)].countP (tells result) ≤ s'.1.announcements result ∧
      ((∀ fate, ch = some fate → fate.raised true = true → ∀ e, o ≠ .inl (.publish e)) →
        s'.1.announcements result =
          s.1.announcements result + [(⟨o, r⟩ : RouteEvent)].countP (tells result)) := by
  cases o with
  | inl o =>
    obtain ⟨fate, w, rfl, hw, rfl⟩ := exec_inside hx
    obtain ⟨hle, heq⟩ := announcements_exec hw result
    refine ⟨rfl, hle, fun hno => heq fun hraised e ho => hno fate rfl hraised e (congrArg _ ho)⟩
  | inr counted =>
    obtain ⟨rfl, rfl⟩ := exec_outside hx
    refine ⟨?_, Nat.le_refl _, fun _ => rfl⟩
    show Function.update s.2 counted (s.2 counted + 1) result = _
    rw [List.countP_singleton]
    by_cases hcounted : counted = result
    · rw [hcounted, Function.update_self]
      show _ = _ + (if decide (result = result) = true then 1 else 0)
      rw [if_pos (decide_eq_true rfl)]
    · rw [Function.update_of_ne (Ne.symm hcounted)]
      show _ = _ + (if decide (counted = result) = true then 1 else 0)
      rw [if_neg fun h => hcounted (of_decide_eq_true h), Nat.add_zero]

theorem Reckoned.next {c c' : Config (api b d)} {a : Action (api b d)} (h : Reckoned c)
    (hn : c.next a = some c') : Reckoned c' := by
  refine ⟨Tally.next h.tallies hn, fun result => ?_, fun result => ?_⟩
  · rcases Config.steps_next hn with ⟨hsteps, hstate | ⟨req, harr⟩⟩ |
      ⟨i, ch, t, o, k, r, -, -, -, hx, hperm⟩
    · rw [hstate, hsteps]
      exact h.counter result
    · rw [(api_arrive harr).1, hsteps]
      exact h.counter result
    · rw [(api_exec hx result).1, hperm.countP_eq, List.countP_append, h.counter result]
  · rcases Config.steps_next hn with ⟨hsteps, hstate | ⟨req, harr⟩⟩ |
      ⟨i, ch, t, o, k, r, -, -, -, hx, hperm⟩
    · rw [hstate, hsteps]
      exact h.told result
    · unfold World.announcements
      rw [(api_arrive harr).2, hsteps]
      exact h.told result
    · rw [hperm.countP_eq, List.countP_append]
      have htold := h.told result
      have hexec := (api_exec hx result).2.1
      omega

/-- **The invariant of undisturbed runs**: all that was taken is what the steps told, and every thread is
    on its way to count it. -/
structure Even (c : Config (api b d)) : Prop where
  always : ∀ t ∈ c.threads, Always CountsAfter TalliesUp t.history t.rest
  told : ∀ result, c.state.1.announcements result = c.steps.countP (tells result)

theorem Even.next {c c' : Config (api b d)} {a : Action (api b d)} (h : Even c)
    (hok : undisturbedRoutes c a) (hn : c.next a = some c') : Even c' := by
  refine ⟨fun t ht => ?_, fun result => ?_⟩
  · rcases Config.mem_next hn ht with ht | ⟨req, -, rfl⟩ | ⟨i, ch, t₀, o, k, r, -, hi, hr, -, rfl⟩ |
      ⟨i, e, t₀, rfl, -⟩
    · exact h.always t ht
    · exact route_tally req
    · have hrest := h.always t₀ (List.mem_of_getElem? hi)
      rw [hr] at hrest
      exact hrest.2 r
    · exact hok.elim
  · rcases Config.steps_next hn with ⟨hsteps, hstate | ⟨req, harr⟩⟩ |
      ⟨i, ch, t, o, k, r, rfl, hi, hr, hx, hperm⟩
    · rw [hstate, hsteps]
      exact h.told result
    · unfold World.announcements
      rw [(api_arrive harr).2, hsteps]
      exact h.told result
    · rw [hperm.countP_eq, List.countP_append, ← h.told result]
      refine (api_exec hx result).2.2 ?_
      rintro fate rfl hraised e rfl
      have hasking : c.asking i (fun _ o => match o with
          | .inl (.publish _) => true
          | _ => false) = true := by
        unfold Config.asking
        rw [hi]
        obtain ⟨req, hist, rest⟩ := t
        obtain rfl : rest = _ := hr
        rfl
      have hbreaks : breaksOff c (.step i (some fate)) = true := by
        show (fate.raised true && _) = true
        rw [hraised, hasking]
        rfl
      rw [show breaksOff c (.step i (some fate)) = false from hok] at hbreaks
      cases hbreaks

/-- At the end of a thread its counts are even. -/
theorem talliesUp_of_atRest {c : Config (api b d)} (h : Even c) (hrest : c.atRest = true)
    (result : TransitionResult) : c.steps.countP (tells result) ≤ c.steps.countP (counts result) := by
  refine Config.countP_steps_le fun t ht => ?_
  have halways := h.always t ht
  have hended := Config.atRest_iff.mp hrest t ht
  obtain ⟨req, hist, rest⟩ := t
  cases rest with
  | ret a => exact (halways result).ge
  | raise e => exact (halways result).ge
  | step o k => cases hended

/-- **The counter of payment transitions is never ahead of what was announced**, and it is even with it
    when nobody was cut off, the broker broke no connection after it took the message, and nothing is
    under way. -/
theorem counter_never_ahead (b : Backend) (d : Deployment) (result : TransitionResult) :
    (∀ c, Runs anyOrder (apiStart b d) c → c.state.2 result ≤ c.state.1.announcements result) ∧
      ∀ c, Runs undisturbedRoutes (apiStart b d) c → c.atRest = true →
        c.state.2 result = c.state.1.announcements result := by
  have reckoned : ∀ {ok : Config (api b d) → Action (api b d) → Prop} {c},
      Runs ok (apiStart b d) c → Reckoned c :=
    fun H => H.invariant reckoned_start fun _ _ _ h _ hn => h.next hn
  have ahead : ∀ {ok : Config (api b d) → Action (api b d) → Prop} {c},
      Runs ok (apiStart b d) c → c.state.2 result ≤ c.state.1.announcements result := by
    intro ok c H
    have hc := reckoned H
    rw [hc.counter result]
    exact (Config.countP_steps_le fun t ht => (hc.tallies t ht).bound result).trans (hc.told result)
  refine ⟨fun c H => ahead H, fun c H hrest => Nat.le_antisymm (ahead H) ?_⟩
  have heven : Even c := H.invariant
    ⟨fun _ ht => absurd ht List.not_mem_nil, fun _ => rfl⟩ fun _ _ _ h hok hn => h.next hok hn
  rw [heven.told result, (reckoned H).counter result]
  exact talliesUp_of_atRest heven hrest result

end Routes

section Samples

open Sample

/-- A quote is created, approved and paid while a second creation is under way; the payment's route
    counts. -/
def Sample.paidWhileCreating : List (Action (api memory mock)) :=
  [.start ⟨.createQuote ⟨"os-1", ["oil"], .finite false 12000 (-2)⟩, supply "1"⟩,
    .step 0 (some .proceeds), .step 0 (some .proceeds),
    .start ⟨.approveQuote "quote-1", supply "2"⟩,
    .start ⟨.createQuote ⟨"os-2", ["oil"], .finite false 12000 (-2)⟩, supply "3"⟩,
    .step 1 (some .proceeds), .step 1 (some .proceeds), .step 1 (some .proceeds),
    .step 2 (some .proceeds),
    .step 1 (some .proceeds), .step 1 (some .proceeds), .step 1 (some .proceeds), .step 1 (some .proceeds),
    .start ⟨.confirmPayment "payment-2", supply "4"⟩,
    .step 3 (some .proceeds), .step 3 (some .proceeds), .step 3 (some .proceeds), .step 3 (some .proceeds),
    .step 2 (some .proceeds), .step 3 none]

theorem counter_never_ahead_paid : ∃ c : Config (api memory mock), c.atRest = true ∧
    c.state.2 .confirmed = 1 ∧ c.state.2 .confirmed = c.state.1.announcements .confirmed :=
  ⟨Config.played undisturbedRoutes (apiStart memory mock) paidWhileCreating (by decide +kernel),
    by decide +kernel, by decide +kernel,
    (counter_never_ahead memory mock .confirmed).2 _ (Config.played_runs _ _ _) (by decide +kernel)⟩

end Samples

end Billing

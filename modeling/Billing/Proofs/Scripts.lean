/-
  How much a request does, and in which order.

  Every command has a script of kinds of steps, and a request does a part of it, in its order, whatever
  the steps answer (`serve_agenda`).  So in every run a request does at most eight steps; it asks the
  provider at most once, and before it writes anything; what it saves, it saves before it publishes
  anything.  No request does its work twice, and none goes on for ever.
-/
import Billing.Lib.Agenda
import Billing.Proofs.Handling

namespace Billing

open Py Atomic Program

/-! ## Scripts -/

/-- The kinds of steps. -/
inductive StepKind where
  | getQuote
  | getPayment
  | isProcessed
  | assign
  | provider
  | saveQuote
  | savePayment
  | publish
  | mark
  deriving DecidableEq, Repr

/-- The kind of a step. -/
def Port.kind : Port → StepKind
  | quoteGet _ => .getQuote
  | quoteSave _ => .saveQuote
  | quoteAssign _ => .assign
  | paymentGet _ => .getPayment
  | paymentSave _ => .savePayment
  | paymentAssign _ => .assign
  | publish _ => .publish
  | isProcessed _ => .isProcessed
  | markProcessed _ _ _ => .mark
  | sdk _ => .provider

/-- The script of a command. -/
def Command.script [Python] : Command → List StepKind
  | .createQuote _ => [.saveQuote, .publish]
  | .approveQuote _ =>
    [.getQuote, .assign, .provider, .assign, .saveQuote, .savePayment, .publish, .publish]
  | .confirmPayment _ => [.getPayment, .assign, .savePayment, .publish]
  | .failPayment _ _ => [.getPayment, .assign, .savePayment, .publish]
  | .applyPaymentStatus _ => [.getPayment, .assign, .savePayment, .publish]
  | .syncPaymentStatus _ => [.getPayment, .provider, .getPayment, .assign, .savePayment, .publish]
  | .handle _ => [.isProcessed, .saveQuote, .publish, .mark]

/-- Every step is labelled with its kind. -/
abbrev kindOf : Port → Option StepKind := fun o => some o.kind

section Requests

variable {α : Type}

theorem createQuote_agenda (command : CreateQuoteCommand) (supply : Supply) :
    Agenda kindOf [.saveQuote, .publish] (CreateQuoteUseCase.execute command supply) := by
  rw [CreateQuoteUseCase.execute_eq]
  exact .ofExcept_bind fun opened _ => .perform_bind rfl fun _ => .perform_bind rfl fun _ => trivial

/-- Settle, save, publish. -/
theorem settling_agenda {p : Payment} {e : DomainEvent} {a : α} :
    Agenda kindOf [.assign, .savePayment, .publish] (do
      p.assign
      PaymentRepository.save p
      EventPublisher.publish e
      return a : Service α) :=
  .perform_bind rfl fun _ => .perform_bind rfl fun _ => .perform_bind rfl fun _ => trivial

theorem confirmPayment_agenda (paymentId : String) (supply : Supply) :
    Agenda kindOf [.getPayment, .assign, .savePayment, .publish]
      (ConfirmPaymentUseCase.execute paymentId supply) :=
  .perform_bind rfl fun _ => .ofExcept_bind fun _ _ => settling_agenda

theorem failPayment_agenda (paymentId reason : String) (supply : Supply) :
    Agenda kindOf [.getPayment, .assign, .savePayment, .publish]
      (FailPaymentUseCase.execute paymentId reason supply) :=
  .perform_bind rfl fun _ => .ofExcept_bind fun _ _ => settling_agenda

theorem applyPaymentStatus_agenda (command : ApplyPaymentStatusCommand) (supply : Supply) :
    Agenda kindOf [.getPayment, .assign, .savePayment, .publish]
      (ApplyPaymentStatusUseCase.execute command supply) := by
  rw [ApplyPaymentStatusUseCase.execute_eq]
  refine .perform_bind rfl fun p₀ => ?_
  generalize ApplyPaymentStatusUseCase.decide p₀ command supply.first = x
  refine .ofExcept_bind ?_
  rintro ⟨p, event, action⟩ -
  cases event with
  | some e => exact settling_agenda
  | none =>
    -- the assignment is left out
    have hsave : Agenda kindOf [.savePayment, .publish] (do
        PaymentRepository.save p
        return ⟨p, action, none⟩ : Service ApplyPaymentStatusResult) := .perform_bind rfl fun _ => trivial
    exact hsave.before [StepKind.assign]

variable [Python] (settings : Option MercadoPagoCheckoutSettings)

/-- **A gateway asks the provider once at most.** -/
theorem createCheckoutPreference_agenda (key quoteId serviceOrderId : String) (total : Money) :
    Agenda kindOf [.provider] (PaymentGateway.call
      ((buildPaymentGateway settings).createCheckoutPreference key quoteId serviceOrderId total)) := by
  refine .embed ?_
  cases settings with
  | none => exact trivial
  | some settings => exact .perform_bind rfl fun _ => .ofExcept _

theorem getPaymentStatus_agenda (payment : Payment) :
    Agenda kindOf [.provider] (PaymentGateway.call
      ((buildPaymentGateway settings).getPaymentStatus payment)) := by
  refine .embed ?_
  cases settings with
  | none => exact trivial
  | some settings => exact .ofExcept_bind fun _ _ => .perform_bind rfl fun _ => .ofExcept _

theorem approveQuote_agenda (quoteId : String) (supply : Supply) :
    Agenda kindOf [.getQuote, .assign, .provider, .assign, .saveQuote, .savePayment, .publish, .publish]
      (ApproveQuoteUseCase.execute (buildPaymentGateway settings) quoteId supply) := by
  unfold ApproveQuoteUseCase.execute Payment.createPreference
  refine .perform_bind rfl fun q₀ => .ofExcept_bind ?_
  rintro ⟨q, approvedEvent⟩ -
  refine .perform_bind rfl fun _ => .ofExcept_bind fun p₀ _ => ?_
  rw [bind_assoc]
  refine .ofExcept_bind fun _ _ => ?_
  rw [bind_assoc]
  refine Agenda.bind (L := [StepKind.provider]) (createCheckoutPreference_agenda settings _ _ _ _)
    fun pref => ?_
  show Agenda _ _ (((p₀.attachPreference pref supply.second).1.assign >>= _) >>= _)
  rw [bind_assoc]
  refine .perform_bind rfl fun _ => .perform_bind rfl fun _ => .perform_bind rfl fun _ => ?_
  exact .perform_bind rfl fun _ => .perform_bind rfl fun _ => trivial

theorem syncPaymentStatus_agenda (paymentId : String) (supply : Supply) :
    Agenda kindOf [.getPayment, .provider, .getPayment, .assign, .savePayment, .publish]
      (SyncPaymentStatusUseCase.execute (buildPaymentGateway settings) paymentId supply) := by
  refine .perform_bind rfl fun p₀ => ?_
  refine Agenda.bind (L := [StepKind.provider]) (getPaymentStatus_agenda settings p₀) fun status => ?_
  exact (applyPaymentStatus_agenda _ supply).map _

theorem handle_agenda (handler : BillingIntegrationEventHandler) (message : EventMessage)
    (supply : Supply) :
    Agenda kindOf [.isProcessed, .saveQuote, .publish, .mark] (handler.handle message supply) := by
  rw [BillingIntegrationEventHandler.handle_eq]
  refine .perform_bind rfl fun processed => ?_
  unfold BillingIntegrationEventHandler.answering
  split
  · exact trivial
  · split
    · exact trivial
    · exact .ofExcept_bind fun _ _ => .perform_bind rfl fun _ => .perform_bind rfl fun _ =>
        .perform_bind rfl fun _ => trivial

/-- **Every request keeps to the script of its command**, whatever the steps answer. -/
theorem serve_agenda (handler : BillingIntegrationEventHandler) (req : Request) :
    Agenda kindOf req.command.script
      ((⟨buildPaymentGateway settings, handler⟩ : Deployment).serve req) := by
  obtain ⟨command, supply⟩ := req
  cases command with
  | createQuote command => exact (createQuote_agenda command supply).map _
  | approveQuote quoteId => exact (approveQuote_agenda settings quoteId supply).map _
  | confirmPayment paymentId => exact (confirmPayment_agenda paymentId supply).map _
  | failPayment paymentId reason => exact (failPayment_agenda paymentId reason supply).map _
  | applyPaymentStatus command => exact (applyPaymentStatus_agenda command supply).map _
  | syncPaymentStatus paymentId => exact (syncPaymentStatus_agenda settings paymentId supply).map _
  | handle message => exact (handle_agenda handler message supply).map _

end Requests

/-! ## Runs -/

/-- The kind is a write of the store or of the broker. -/
def StepKind.writes : StepKind → Bool
  | saveQuote => true
  | savePayment => true
  | publish => true
  | mark => true
  | _ => false

/-- The kind is a write of a quote or a payment. -/
def StepKind.saves : StepKind → Bool
  | saveQuote => true
  | savePayment => true
  | _ => false

/-- The provider is asked before anything is written, and what is saved is saved before anything is
    published. -/
abbrev InOrder (first second : StepKind) : Prop :=
  (second = .provider → first.writes = false) ∧ (second.saves = true → first ≠ .publish)

section Runs

variable [Python] {b : Backend} {d : Deployment}

/-- The kinds of the steps that a request has done, in their order. -/
def kindsDone (t : Thread (system b d)) : List StepKind := t.history.map fun e : Event => e.op.kind

/-- What holds of every script. -/
theorem script_bounds (command : Command) :
    command.script.Pairwise InOrder ∧ command.script.length ≤ 8 ∧
      command.script.count .provider ≤ 1 ∧ command.script.countP StepKind.saves ≤ 2 ∧
      command.script.count .publish ≤ 2 := by
  cases command <;> (simp only [Command.script]; decide)

/-- **Every request does a part of its command's script, in its order**: at most eight steps; the provider
    is asked once at most, and before anything is written; at most two saves, before anything is
    published; at most two events.  And so the requests of a run do eight steps each at most. -/
theorem requests_bounded (settings : Option MercadoPagoCheckoutSettings)
    (handler : BillingIntegrationEventHandler)
    {c : Config (system b ⟨buildPaymentGateway settings, handler⟩)}
    (H : Runs anyOrder (start b ⟨buildPaymentGateway settings, handler⟩) c) :
    (∀ t ∈ c.threads, (kindsDone t).Sublist (Command.script (Request.command t.req)) ∧
      (kindsDone t).Pairwise InOrder ∧ (kindsDone t).length ≤ 8 ∧
      (kindsDone t).count .provider ≤ 1 ∧ (kindsDone t).countP StepKind.saves ≤ 2 ∧
      (kindsDone t).count .publish ≤ 2) ∧
    c.steps.length ≤ 8 * c.threads.length := by
  have hscript : ∀ t ∈ c.threads, (kindsDone t).Sublist (Command.script (Request.command t.req)) := by
    intro t ht
    have hprog : ∀ req : (system b ⟨buildPaymentGateway settings, handler⟩).Req,
        Agenda kindOf (Command.script (Request.command req))
          ((system b ⟨buildPaymentGateway settings, handler⟩).program req) := serve_agenda settings handler
    have hagenda := H.agenda hprog rfl t ht
    have hlabels : labels kindOf t.history = kindsDone t :=
      congrFun List.filterMap_eq_map t.history
    rw [hlabels] at hagenda
    exact hagenda
  have hthreads : ∀ t ∈ c.threads, (kindsDone t).Sublist (Command.script (Request.command t.req)) ∧
      (kindsDone t).Pairwise InOrder ∧ (kindsDone t).length ≤ 8 ∧
      (kindsDone t).count .provider ≤ 1 ∧ (kindsDone t).countP StepKind.saves ≤ 2 ∧
      (kindsDone t).count .publish ≤ 2 := by
    intro t ht
    have hsub := hscript t ht
    obtain ⟨horder, hlength, hprovider, hsaves, hpublish⟩ := script_bounds (Request.command t.req)
    exact ⟨hsub, horder.sublist hsub, hsub.length_le.trans hlength, (hsub.count_le _).trans hprovider,
      (hsub.countP_le).trans hsaves, (hsub.count_le _).trans hpublish⟩
  refine ⟨hthreads, ?_⟩
  unfold Config.steps
  generalize c.threads = ts at hthreads
  induction ts with
  | nil => exact Nat.le_refl _
  | cons t ts ih =>
    have hhead : t.history.length ≤ 8 := by
      have hlength := (hthreads t List.mem_cons_self).2.2.1
      rwa [kindsDone, List.length_map] at hlength
    have htail := ih fun u hu => hthreads u (List.mem_cons_of_mem _ hu)
    rw [List.flatMap_cons, List.length_append, List.length_cons]
    omega

end Runs

section Samples

open Sample

/-- An approval and a synchronisation overlap; the approval is cut off after its answer was lost. -/
def Sample.overlappingCalls : List (Action (system sql ⟨buildPaymentGateway (some settings), handler⟩)) :=
  [ask "1" (.createQuote ⟨"os-1", ["oil"], .finite false 12000 (-2)⟩), .step 0 .proceeds, .step 0 .proceeds,
    ask "2" (.approveQuote "quote-1"), ask "3" (.syncPaymentStatus "payment-2"),
    .step 1 .proceeds, .step 2 .proceeds, .step 1 .proceeds,
    .step 1 (.raises (.infrastructure "timeout") true),
    ask "4" (.approveQuote "quote-1"), .step 3 .proceeds, .abort 3 (.infrastructure "killed")]

theorem requests_bounded_overlapping :
    ∃ c : Config (system sql ⟨buildPaymentGateway (some settings), handler⟩),
      c.threads.length = 4 ∧ c.steps.length ≤ 8 * c.threads.length ∧
        ∀ t ∈ c.threads, (kindsDone t).count .provider ≤ 1 := by
  have H := Config.played_runs (start sql ⟨buildPaymentGateway (some settings), handler⟩)
    overlappingCalls (show (Config.play anyOrder _ _).isSome = true by decide +kernel)
  have hbounded := requests_bounded (some settings) handler H
  exact ⟨_, by decide +kernel, hbounded.2, fun t ht => (hbounded.1 t ht).2.2.2.1⟩

end Samples

end Billing

/-
  Requests that are served one after the other while everything works.

  `World.run` carries a program out in one go: every step goes through, and the SDK client answers as
  it is told to.  This is what the pool does when one request runs alone (`run_yields`).

  The ids come from an `IdStream`, from which the `n`-th request draws its supply; a `session` is a
  list of calls that are answered one after the other.
-/
import Billing.Runtime

namespace Billing

open Py Atomic Program System

/-- What the SDK client answers. -/
abbrev SdkAnswers : Type := SdkCall → Except Exc (Dict Json)

/-- The fate of a step when everything works. -/
def SdkAnswers.fate (answers : SdkAnswers) : Port → Fate
  | .sdk call =>
    match answers call with
    | .ok response => .answers response
    | .error e => .raises e false
  | _ => .proceeds

/-- A client that cannot be reached. -/
def noAnswers : SdkAnswers := fun _ => .error (.infrastructure "unreachable")

/-- Supplies of ids of which none occurs twice. -/
structure IdStream where
  /-- The supply of the `n`-th request. -/
  supply : Nat → Supply
  /-- The ids of a supply differ. -/
  nodup : ∀ n, (supply n).ids.Nodup
  /-- Supplies have no id in common. -/
  disjoint : ∀ n n' id, id ∈ (supply n).ids → id ∈ (supply n').ids → n = n'

section Run

variable [Python] {b : Backend} {d : Deployment} {α β : Type}

theorem exec_fate_isSome (w : World b) (answers : SdkAnswers) (o : Port) :
    (w.exec o (answers.fate o)).isSome = true := by
  cases o with
  | publish e => simp only [World.exec, SdkAnswers.fate, World.publish, eventToMessage_eq]; rfl
  | sdk call =>
    simp only [World.exec, SdkAnswers.fate]
    cases answers call with
    | ok response => rfl
    | error e => rfl
  | _ => rfl

/-- The step when everything works. -/
def World.does (w : World b) (answers : SdkAnswers) (o : Port) : Except Exc o.Res × World b :=
  (w.exec o (answers.fate o)).get (exec_fate_isSome w answers o)

theorem World.exec_does (w : World b) (answers : SdkAnswers) (o : Port) :
    w.exec o (answers.fate o) = some (w.does answers o) := (Option.some_get _).symm

/-- The program in one go. -/
def World.run (answers : SdkAnswers) : Service α → World b → Except Exc α × World b
  | .ret a, w => (.ok a, w)
  | .raise e, w => (.error e, w)
  | .step o k, w => World.run answers (k (w.does answers o).1) (w.does answers o).2

/-- **What is done in one go, the pool does when the request runs alone.** -/
theorem run_yields {ok : Port → Fate → Prop} (answers : SdkAnswers)
    (hok : ∀ o, ok o (answers.fate o)) (p : Service α) (w : World b) :
    (system b d).Yields ok p w (w.run answers p).1 (w.run answers p).2 := by
  induction p generalizing w with
  | ret a => exact ⟨rfl, rfl⟩
  | raise e => exact ⟨rfl, rfl⟩
  | step o k ih => exact ⟨answers.fate o, _, _, hok o, w.exec_does answers o, ih _ _⟩

/-! ### The rules of programs in one go -/

/-- How a program goes on after its first part. -/
def World.andThen (answers : SdkAnswers) (f : α → Service β) :
    Except Exc α × World b → Except Exc β × World b
  | (.ok a, w) => w.run answers (f a)
  | (.error e, w) => (.error e, w)

/-- **The sequencing rule.** -/
theorem run_bind (answers : SdkAnswers) (p : Service α) (f : α → Service β) (w : World b) :
    w.run answers (p >>= f) = World.andThen answers f (w.run answers p) := by
  show w.run answers (p.bind f) = _
  induction p generalizing w with
  | ret a => rfl
  | raise e => rfl
  | step o k ih => exact ih _ _

theorem run_ask (answers : SdkAnswers) (w : World b) (o : Port) :
    w.run answers (Service.ask o) = w.does answers o := by
  show World.run answers (.step o _) w = _
  rw [World.run]
  generalize w.does answers o = x
  obtain ⟨r, w₁⟩ := x
  cases r with
  | ok a => rfl
  | error e => rfl

/-- The rule of one step followed by the rest. -/
theorem run_step (answers : SdkAnswers) (o : Port) (f : o.Res → Service β) (w : World b) :
    w.run answers (Service.ask o >>= f) = World.andThen answers f (w.does answers o) := by
  rw [run_bind, run_ask]

theorem run_map (answers : SdkAnswers) (p : Service α) (f : α → β) (w : World b) :
    w.run answers (p >>= fun a => pure (f a)) =
      ((w.run answers p).1.map f, (w.run answers p).2) := by
  rw [run_bind]
  generalize w.run answers p = x
  obtain ⟨r, w₁⟩ := x
  cases r with
  | ok a => rfl
  | error e => rfl

/-- What a gateway comes to with these answers. -/
def SdkAnswers.given (answers : SdkAnswers) : Program sdk Exc α → Except Exc α
  | .ret a => .ok a
  | .raise e => .error e
  | .step o k => answers.given (k (answers o))

omit [Python] in
theorem given_ofExcept (answers : SdkAnswers) (x : Except Exc α) : answers.given (ofExcept x) = x := by
  cases x with
  | ok a => rfl
  | error e => rfl

omit [Python] in
theorem given_bind (answers : SdkAnswers) (p : Program sdk Exc α) (f : α → Program sdk Exc β) :
    answers.given (p >>= f) = answers.given p >>= fun a => answers.given (f a) := by
  show answers.given (p.bind f) = _
  induction p with
  | ret a => rfl
  | raise e => rfl
  | step o k ih => exact ih _

omit [Python] in
theorem given_perform (answers : SdkAnswers) (call : SdkCall) :
    answers.given (perform (σ := sdk) (ε := Exc) call) = answers call := by
  rw [perform, SdkAnswers.given]
  cases answers call with
  | ok response => rfl
  | error e => rfl

/-- A preference is created by one call, and read off its answer. -/
theorem given_createCheckoutPreference (answers : SdkAnswers) (settings : MercadoPagoCheckoutSettings)
    (newIdempotencyKey quoteId serviceOrderId : String) (total : Money) :
    answers.given ((mercadoPagoCheckoutAdapter settings).createCheckoutPreference newIdempotencyKey
        quoteId serviceOrderId total) =
      answers (.createPreference (MercadoPagoCheckoutAdapter.preferencePayload settings quoteId
        serviceOrderId total) newIdempotencyKey) >>=
        MercadoPagoCheckoutAdapter.readPreference serviceOrderId := by
  show answers.given (MercadoPagoCheckoutAdapter.createCheckoutPreference _ _ _ _ _) = _
  unfold MercadoPagoCheckoutAdapter.createCheckoutPreference
  rw [given_bind, given_perform]
  simp only [given_ofExcept]

/-- A status is asked for by one search, and read off its answer. -/
theorem given_getPaymentStatus (answers : SdkAnswers) (payment : Payment) :
    answers.given (MercadoPagoCheckoutAdapter.getPaymentStatus payment) =
      MercadoPagoCheckoutAdapter.externalReferenceOf payment >>= fun r =>
        answers (.searchPayments (MercadoPagoCheckoutAdapter.searchFilters r)) >>=
          MercadoPagoCheckoutAdapter.readSearch payment.total r := by
  unfold MercadoPagoCheckoutAdapter.getPaymentStatus
  rw [given_bind, given_ofExcept]
  congr 1
  funext r
  rw [given_bind, given_perform]
  simp only [given_ofExcept]

/-- A gateway call leaves the world alone. -/
theorem run_call (answers : SdkAnswers) (p : Program sdk Exc α) (w : World b) :
    w.run answers (PaymentGateway.call p) = (answers.given p, w) := by
  induction p generalizing w with
  | ret a => rfl
  | raise e => rfl
  | step o k ih =>
    have hdoes : w.does answers (.sdk o) = (answers o, w) := by
      refine Option.some.inj ((w.exec_does answers (.sdk o)).symm.trans ?_)
      simp only [World.exec, SdkAnswers.fate]
      cases answers o with
      | ok response => rfl
      | error e => rfl
    show World.run answers (PaymentGateway.call (k ((w.does answers (.sdk o)).1.map fun r => r)))
      (w.does answers (.sdk o)).2 = _
    have hmap : (answers o).map (fun r => r) = answers o := congrFun Except.map_id (answers o)
    rw [hdoes, hmap]
    exact ih _ w

end Run

/-! ## Sessions -/

section Sessions

variable [Python] {b : Backend}

/-- What a client asks for, one call after the other. -/
inductive Call where
  /-- A command. -/
  | command (command : Command)
  /-- `GET /quotes/{quote_id}`. -/
  | getQuote (quoteId : String)
  /-- `GET /payments/{payment_id}`. -/
  | getPayment (paymentId : String)

/-- The program that answers a call. -/
def Deployment.answer (d : Deployment) (call : Call) (supply : Supply) : Service Response :=
  match call with
  | .command command => d.serve ⟨command, supply⟩
  | .getQuote quoteId => do return .quote (← QuoteRepository.get quoteId)
  | .getPayment paymentId => do return .payment (← PaymentRepository.get paymentId)

/-- The calls one after the other, the first of them with the `n`-th supply of ids: their results, and
    the world after them. -/
def World.session (d : Deployment) (ids : IdStream) :
    Nat → List Call → World b → List (Except Exc Response) × World b
  | _, [], w => ([], w)
  | n, call :: calls, w =>
    let first := w.run noAnswers (d.answer call (ids.supply n))
    let rest := World.session d ids (n + 1) calls first.2
    (first.1 :: rest.1, rest.2)

end Sessions

/-! ## A stream to run -/

namespace Sample

/-- The `n`-th id of a kind. -/
def tag (c : Char) (n : Nat) : String := String.ofList (c :: List.replicate n 'i')

theorem tag_inj {c c' : Char} {n n' : Nat} (h : tag c n = tag c' n') : c = c' ∧ n = n' := by
  have hchars : c :: List.replicate n 'i' = c' :: List.replicate n' 'i' := by
    have := congrArg String.toList h
    rwa [tag, tag, String.toList_ofList, String.toList_ofList] at this
  obtain ⟨hc, hrest⟩ := List.cons.inj hchars
  have hlen := congrArg List.length hrest
  rw [List.length_replicate, List.length_replicate] at hlen
  exact ⟨hc, hlen⟩

/-- A stream of ids, a letter for each kind. -/
def stream : IdStream where
  supply := fun n => ⟨tag 'q' n, tag 'p' n, tag 'k' n, ⟨tag 'e' n, "2024-05-01T12:00:00+00:00"⟩,
    ⟨tag 'f' n, "2024-05-01T12:00:00+00:00"⟩⟩
  nodup := by
    intro n
    show (['q', 'p', 'k', 'e', 'f'].map fun c => tag c n).Nodup
    refine List.Nodup.map_on (fun c _ c' _ h => (tag_inj h).1) (by decide)
  disjoint := by
    intro n n' id h h'
    obtain ⟨c, -, rfl⟩ := List.mem_map.mp (show id ∈ ['q', 'p', 'k', 'e', 'f'].map fun c => tag c n from h)
    obtain ⟨c', -, hid⟩ := List.mem_map.mp (show tag c n ∈ ['q', 'p', 'k', 'e', 'f'].map fun c => tag c n'
      from h')
    exact (tag_inj hid).2.symm

end Sample

end Billing

/-
  Approvals that are tried again, seen from the provider.

  `CheckoutProvider` is the provider as the idempotency header assumes it: one preference per key, the
  existing one for a key that it has seen.  It acts on every call that reaches it, also on one whose
  answer is lost, so it is told by the fate of a call and not by what the request got back.

  `new_idempotency_key` draws a fresh key for every call.  A second approval of a quote therefore
  opens a second preference, unless the code never gets as far as a second call: the condition

  * `callsOnce` — a call only reaches the provider while its quote is still stored as `CREATED`, and
                  every request whose call for that quote reached it earlier has saved the quote.

  The two halves cannot both hold when the provider already has a preference of the quote, because a
  saved approval is stored as `APPROVED`.
-/
import Billing.Lib.Machine
import Billing.Proofs.Approvals
import Billing.Proofs.Sync

namespace Billing

open Py Atomic Program Keyed

/-! ## The provider -/

/-- The `id` of the item that a payload is for, which is the id of the quote. -/
def quoteIdOf (payload : Dict Json) : String :=
  match payload.get? "items" with
  | some (.list [.dict item]) =>
    match Dict.get? item "id" with
    | some (.str quoteId) => quoteId
    | _ => ""
  | _ => ""

/-- A preference that the provider has created. -/
structure CreatedPreference where
  /-- The `x-idempotency-key` of the call that created it. -/
  idempotencyKey : String
  /-- The payload of that call. -/
  payload : Dict Json

/-- The id of the quote that the preference is for. -/
def CreatedPreference.quoteId (self : CreatedPreference) : String := quoteIdOf self.payload

/-- The preferences that the provider has. -/
abbrev CheckoutProvider : Type := Table String CreatedPreference CreatedPreference.idempotencyKey

/-- The provider creates one preference per key, and finds the existing one for a key it has seen. -/
def CheckoutProvider.create (self : CheckoutProvider) (payload : Dict Json) (idempotencyKey : String) :
    CheckoutProvider :=
  match self.find? idempotencyKey with
  | some _ => self
  | none => self.upsert ⟨idempotencyKey, payload⟩

/-- At most one preference of each quote. -/
def CheckoutProvider.OnePerQuote (self : CheckoutProvider) : Prop :=
  ∀ r ∈ self.rows, ∀ r' ∈ self.rows, r.quoteId = r'.quoteId → r = r'

/-- A created preference was there before, or it is the one of this call. -/
theorem CheckoutProvider.mem_create {self : CheckoutProvider} {payload : Dict Json} {key : String}
    {r : CreatedPreference} (h : r ∈ (self.create payload key).rows) :
    r ∈ self.rows ∨ r = ⟨key, payload⟩ := by
  unfold CheckoutProvider.create at h
  split at h
  · exact Or.inl h
  · rcases Table.mem_rows_upsert h with rfl | h
    · exact Or.inr rfl
    · exact Or.inl h

/-- A call for a quote without a preference keeps it at one per quote. -/
theorem CheckoutProvider.OnePerQuote.create {self : CheckoutProvider} (h : self.OnePerQuote)
    {payload : Dict Json} {key : String} (hnew : ∀ r ∈ self.rows, r.quoteId ≠ quoteIdOf payload) :
    (self.create payload key).OnePerQuote := by
  intro r hr r' hr' hsame
  rcases CheckoutProvider.mem_create hr with hr | rfl
  · rcases CheckoutProvider.mem_create hr' with hr' | rfl
    · exact h r hr r' hr' hsame
    · exact absurd hsame (hnew r hr)
  · rcases CheckoutProvider.mem_create hr' with hr' | rfl
    · exact absurd hsame.symm (hnew r' hr')
    · rfl

/-- The payload that the adapter sends is for the quote. -/
theorem quoteIdOf_preferencePayload [Python] (settings : MercadoPagoCheckoutSettings)
    (quoteId serviceOrderId : String) (total : Money) :
    quoteIdOf (MercadoPagoCheckoutAdapter.preferencePayload settings quoteId serviceOrderId total) =
      quoteId := rfl

/-- Does a call with this fate reach the provider? -/
def Fate.reaches : Fate → Bool
  | proceeds => false
  | answers _ => true
  | raises _ committed => committed

/-! ## The service and its provider -/

section Checkout

variable [Python]

/-- The service, and the provider that its calls reach. -/
structure Checkout (d : Deployment) where
  /-- The service. -/
  config : Config (system sql d)
  /-- The preferences that the provider has. -/
  preferences : CheckoutProvider

variable {d : Deployment}

/-- The payload and the key of the call that an action makes and that reaches the provider. -/
def Checkout.reaching (s : Checkout d) (a : Action (system sql d)) : Option (Dict Json × String) :=
  match a, s.config.doing a with
  | .step _ fate, some (_, _, .sdk (.createPreference payload idempotencyKey)) =>
    if Fate.reaches fate then some (payload, idempotencyKey) else none
  | _, _ => none

/-- The provider after an action. -/
def Checkout.preferencesAfter (s : Checkout d) (a : Action (system sql d)) : CheckoutProvider :=
  match s.reaching a with
  | some (payload, idempotencyKey) => s.preferences.create payload idempotencyKey
  | none => s.preferences

/-- The service over the SQL repositories with its provider. -/
abbrev checkout (d : Deployment) : Machine where
  State := Checkout d
  Label := Action (system sql d)
  next := fun s a => (s.config.next a).map fun c => ⟨c, s.preferencesAfter a⟩

/-- Nothing is stored, and the provider has no preference. -/
def Checkout.start (d : Deployment) : Checkout d := ⟨Billing.start sql d, .empty⟩

/-- Has the thread saved the quote as approved? -/
def hasApproved (quoteId : String) (t : Thread (system sql d)) : Bool :=
  t.history.any fun
    | ⟨.quoteSave q, .ok _⟩ => decide (q.quoteId = quoteId ∧ q.status = .approved)
    | _ => false

theorem approver_of_hasApproved {quoteId : String} {t : Thread (system sql d)}
    (h : hasApproved quoteId t = true) : Approver quoteId t := by
  obtain ⟨d', hd, htest⟩ := List.any_eq_true.mp h
  split at htest
  · rename_i q u
    obtain ⟨hid, hs⟩ := of_decide_eq_true htest
    exact ⟨q, hd, hid, hs⟩
  · cases htest

/-- **The condition**: when a call for a quote reaches the provider, the quote is stored as `CREATED`,
    and every request whose call for it reached the provider before has saved it. -/
def callsOnce (s : Checkout d) (a : Action (system sql d)) : Bool :=
  match s.reaching a with
  | some (payload, _) =>
    decide ((SqlAlchemyQuoteRepository.get s.config.state.store (quoteIdOf payload)).map
        Quote.status = .ok .created) &&
      s.preferences.rows.all fun r =>
        decide (r.quoteId ≠ quoteIdOf payload) || s.config.threads.any fun t =>
          decide (t.req.supply.idempotencyKey = r.idempotencyKey) &&
            hasApproved (quoteIdOf payload) t
  | none => true

/-- Under the condition, a call reaches the provider only if it has no preference of the quote. -/
theorem no_preference {s : Checkout d} {a : Action (system sql d)} (hI : Integrity s.config)
    (hok : callsOnce s a = true) {payload : Dict Json} {key : String}
    (hreach : s.reaching a = some (payload, key)) :
    ∀ r ∈ s.preferences.rows, r.quoteId ≠ quoteIdOf payload := by
  intro r hr hsame
  unfold callsOnce at hok
  rw [hreach] at hok
  obtain ⟨hcreated, hall⟩ := Bool.and_eq_true_iff.mp hok
  obtain ⟨q, hq, hid, hs⟩ := Database.quote_get_map_eq_ok.mp (of_decide_eq_true hcreated)
  rcases Bool.or_eq_true_iff.mp (List.all_eq_true.mp hall r hr) with hne | hany
  · exact of_decide_eq_true hne hsame
  · -- the request that asked for it has saved the quote, so it is stored as approved
    obtain ⟨t, ht, htest⟩ := List.any_eq_true.mp hany
    have happ := approver_of_hasApproved (Bool.and_eq_true_iff.mp htest).2
    obtain ⟨q', hq', hid', hs'⟩ := happ.stored hI ht
    obtain rfl := hq.unique hq' (hid.trans hid'.symm)
    rw [hs] at hs'
    cases hs'

theorem checkout_next {s s' : Checkout d} {a : Action (system sql d)}
    (hn : (checkout d).next s a = some s') :
    s.config.next a = some s'.config ∧ s'.preferences = s.preferencesAfter a := by
  obtain ⟨c, hc, rfl⟩ := Option.map_eq_some_iff.mp hn
  exact ⟨hc, rfl⟩

/-- **At most one preference per quote**, however often its approval is tried, in the runs that meet
    the condition. -/
theorem one_preference_per_quote {settings : MercadoPagoCheckoutSettings}
    {handler : BillingIntegrationEventHandler}
    {as : List (Action (system sql (withMercadoPago settings handler)))}
    {s : Checkout (withMercadoPago settings handler)}
    (H : (checkout _).Path (fun s a => callsOnce s a = true) (Checkout.start _) as s) :
    s.preferences.OnePerQuote := by
  have hstart : Integrity (Checkout.start (withMercadoPago settings handler)).config ∧
      (Checkout.start (withMercadoPago settings handler)).preferences.OnePerQuote :=
    ⟨integrity_start, fun r hr => absurd hr List.not_mem_nil⟩
  refine (H.invariant (I := fun s : Checkout _ => Integrity s.config ∧ s.preferences.OnePerQuote)
    hstart ?_).2
  intro s a s' hs hok hn
  obtain ⟨hI, hone⟩ := hs
  obtain ⟨hc, hprefs⟩ := checkout_next hn
  refine ⟨hI.next hc, ?_⟩
  rw [hprefs]
  unfold Checkout.preferencesAfter
  cases hreach : s.reaching a with
  | none => exact hone
  | some call => exact hone.create (no_preference hI hok hreach)

end Checkout

section Samples

open Sample

/-- An approval of `quote-1` asks the provider, under the given fate. -/
def Sample.approveCalling (i : Nat) (n : String) (fate : Fate) :
    List (Action (system sql mercadoPago)) :=
  [ask n (.approveQuote "quote-1")] ++ go i 2 ++ [.step i fate]

/-- The first call does not reach the provider; the second approval goes through. -/
def Sample.retriedCall : List (Action (system sql mercadoPago)) :=
  [create "1" "os-1"] ++ go 0 2 ++
    approveCalling 1 "2" (.raises (.paymentGatewayError "timeout" (some 502)) false) ++
    approveCalling 2 "3" preferred ++ go 2 5

/-- The provider acts on the first call, but its answer is lost. -/
def Sample.lostAnswer : List (Action (system sql mercadoPago)) :=
  [create "1" "os-1"] ++ go 0 2 ++
    approveCalling 1 "2" (.raises (.paymentGatewayError "timeout" (some 502)) true) ++
    approveCalling 2 "3" preferred

theorem one_preference_per_quote_retriedCall :
    ∃ s : Checkout mercadoPago, s.preferences.rows.length = 1 ∧ s.preferences.OnePerQuote :=
  ⟨(checkout mercadoPago).played (fun s a => callsOnce s a = true)
      (Checkout.start mercadoPago) retriedCall (by decide +kernel),
    by decide +kernel, one_preference_per_quote (Machine.played_path _ _ _)⟩

/-- **A retry opens a second preference**: the first approval's answer is lost, and the second
    approval asks under another key. -/
theorem second_preference :
    ¬ ∀ as s, (checkout mercadoPago).Path Machine.anyLabel (Checkout.start mercadoPago) as s →
      s.preferences.OnePerQuote := by
  intro h
  have hone := h _ _ (Machine.played_path (M := checkout mercadoPago) (Checkout.start mercadoPago)
    lostAnswer (by decide +kernel))
  have hquotes : (((checkout mercadoPago).played Machine.anyLabel (Checkout.start mercadoPago)
      lostAnswer (by decide +kernel)).preferences.rows.map fun r => (r.idempotencyKey, r.quoteId)) =
      [("key-2", "quote-1"), ("key-3", "quote-1")] := by decide +kernel
  obtain ⟨r, rs, hr, hrs⟩ := List.map_eq_cons_iff.mp hquotes
  obtain ⟨hrq, r', rs', hr', hr'q, _⟩ := And.imp_right List.map_eq_cons_iff.mp hrs
  have hsame := hone r (by rw [hr]; exact List.mem_cons_self) r'
    (by rw [hr, hr']; exact List.mem_cons_of_mem _ List.mem_cons_self)
    ((Prod.mk.inj hrq).2.trans (Prod.mk.inj hr'q).2.symm)
  rw [hsame] at hrq
  exact absurd ((Prod.mk.inj hrq).1.symm.trans (Prod.mk.inj hr'q).1) (by decide)

end Samples

end Billing

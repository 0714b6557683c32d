/-
  One payment at the provider, one payment here.

  The reference that a payment carries to the provider is its service order, and the search is
  answered by reference; so the payments of one service order with one amount cannot be told apart
  by anything a synchronisation checks.  What a run needs is that there are no two of them:

  * `opensDistinct` — no payment is saved next to another one of the same service order and amount.

  Then a payment at the provider, whose reference and amount belong to its id, settles one payment:
  `one_settlement`.  Without it, it settles two.
-/
import Billing.Proofs.Sync

namespace Billing

open Py Atomic Program

/-! ## The provider -/

section Provider

variable [Python]

/-- A payment at the provider, as `str()` shows its fields. -/
structure ProviderPayment where
  /-- `id`. -/
  id : String
  /-- `external_reference`. -/
  externalReference : String
  /-- `transaction_amount`. -/
  amount : String
  /-- `currency_id`. -/
  currencyId : String
  /-- `status`. -/
  status : String
  deriving DecidableEq

/-- An entry of a search's answer. -/
def ProviderPayment.ofItem (item : Dict Json) : ProviderPayment where
  id := getText item "id"
  externalReference := getText item "external_reference"
  amount := (getOrNone item "transaction_amount").text
  currencyId := getText item "currency_id"
  status := getText item "status"

/-- The payments that an answer lists. -/
def listedIn (response : Dict Json) : List ProviderPayment :=
  match getOrNone response "results" with
  | .list results => results.filterMap fun
    | .dict item => some (.ofItem item)
    | _ => none
  | _ => []

theorem mem_listedIn {response : Dict Json} {results : List Json} {item : Dict Json}
    (h : getOrNone response "results" = .list results) (hitem : .dict item ∈ results) :
    .ofItem item ∈ listedIn response := by
  unfold listedIn
  rw [h]
  exact List.mem_filterMap.mpr ⟨_, hitem, rfl⟩

/-- What is true of a search's answer: every payment it lists is one that the provider has. -/
def Honest (known : ProviderPayment → Bool) (e : Event) : Prop :=
  match e with
  | ⟨.sdk (.searchPayments _), .ok response⟩ => ∀ x ∈ listedIn response, known x = true
  | _ => True

variable {d : Deployment}

/-- Searches are answered with payments that the provider has, under the requested reference. -/
def answersFrom (known : ProviderPayment → Bool) (c : Config (system sql d))
    (a : Action (system sql d)) : Bool :=
  match a, c.doing a with
  | .step _ (.answers response), some (_, _, .sdk (.searchPayments filters)) =>
    (listedIn response).all fun x =>
      known x && decide (filters.get? "external_reference" = some x.externalReference)
  | _, _ => true

/-- Searches are answered with all payments of the ledger that have the requested reference. -/
def searches (ledger : List ProviderPayment) (c : Config (system sql d))
    (a : Action (system sql d)) : Bool :=
  match a, c.doing a with
  | .step _ (.answers response), some (_, _, .sdk (.searchPayments filters)) =>
    decide (listedIn response = ledger.filter fun x =>
      decide (filters.get? "external_reference" = some x.externalReference))
  | _, _ => true

/-- A ledger that is searched is a provider that answers with what it has. -/
theorem answersFrom_of_searches {ledger : List ProviderPayment} {c : Config (system sql d)}
    {a : Action (system sql d)} (h : searches ledger c a = true) :
    answersFrom (fun x => decide (x ∈ ledger)) c a = true := by
  unfold searches at h
  unfold answersFrom
  split at h
  · rw [decide_eq_true_eq] at h
    rw [h]
    simp only [List.all_filter, List.all_eq_true]
    intro x hx
    simp [hx]
  · rfl

theorem honest_next {known : ProviderPayment → Bool} {c c' : Config (system sql d)}
    {a : Action (system sql d)} (h : c.Knows fun e _ => Honest known e)
    (hok : answersFrom known c a = true) (hn : c.next a = some c') :
    c'.Knows fun e _ => Honest known e := by
  refine h.next hn (fun _ he => he) ?_
  rintro i fate t o k r rfl hi hr hx
  have hasks : c.Asks i t o := ⟨hi, k, hr⟩
  unfold Honest
  split
  · rename_i filters response hd
    cases hd
    unfold answersFrom at hok
    rw [hasks.doing] at hok
    obtain rfl : fate = Fate.answers response := call_eq_ok hx
    intro x hx'
    have := List.all_eq_true.mp hok x hx'
    rw [Bool.and_eq_true] at this
    exact this.1
  · trivial

end Provider

/-! ## Payments that can be told apart -/

section Distinct

variable [Python]

/-- The same service order and the same amount. -/
def Payment.Alike (p p' : Payment) : Prop :=
  p.serviceOrderId = p'.serviceOrderId ∧ p.total.amount.SameNumber p'.total.amount

/-- No other payment of this service order and amount is stored. -/
def Database.noneLike (db : Database) (p : Payment) : Bool :=
  db.payments.rows.all fun row =>
    match row.toPayment with
    | .ok p' => decide (p'.paymentId = p.paymentId) || !(decide (p'.serviceOrderId = p.serviceOrderId)
        && decide (p'.total.amount.eq p.total.amount = some true))
    | .error _ => true

theorem Database.eq_of_noneLike {db : Database} {p p' : Payment} (h : db.noneLike p = true)
    (hp' : db.HasPayment p') (halike : p'.Alike p) : p'.paymentId = p.paymentId := by
  have hrow := List.all_eq_true.mp h _ hp'.mem
  rw [PaymentRow.toPayment_ofPayment] at hrow
  have hsame := Decimal.eq_true_iff.mpr halike.2
  simpa [halike.1, hsame] using hrow

/-- The action does not save a payment next to another one of the same service order and amount. -/
def opensDistinct {d : Deployment} (c : Config (system sql d)) (a : Action (system sql d)) : Bool :=
  match c.doing a with
  | some (_, _, .paymentSave p) => Database.noneLike c.state.store p
  | _ => true

variable {settings : MercadoPagoCheckoutSettings} {handler : BillingIntegrationEventHandler}
  {c c' : Config (system sql (withMercadoPago settings handler))}
  {a : Action (system sql (withMercadoPago settings handler))}

/-- **The invariant of runs that open distinct payments.** -/
structure ToldApart (c : Config (system sql (withMercadoPago settings handler))) : Prop where
  distinct : ∀ p p', c.state.store.HasPayment p → c.state.store.HasPayment p' → p.Alike p' →
    p.paymentId = p'.paymentId
  referenced : ∀ p, c.state.store.HasPayment p →
    ∃ pref, p.preference = some pref ∧ pref.externalReference = some p.serviceOrderId

/-- The adapter puts the service order into the preference. -/
theorem gives_reference {q : Quote} {pref : PaymentPreference}
    (h : (mercadoPagoCheckoutAdapter settings).Gives q pref) :
    pref.externalReference = some q.serviceOrderId := by
  obtain ⟨key, h⟩ := h
  obtain ⟨response, _, h⟩ := canReturn_bind.mp h
  rw [canReturn_ofExcept] at h
  exact MercadoPagoCheckoutAdapter.readPreference_eq_ok h

theorem ToldApart.next (h : ToldApart c) (hI : Integrity c) (hok : opensDistinct c a = true)
    (hn : c.next a = some c') : ToldApart c' := by
  constructor
  · intro p p' hp hp' halike
    rcases write_cases hI.dutiful hn with hsame | ⟨i, fate, t, q, _, _, hsave, _⟩ |
      ⟨i, fate, t, p₀, rfl, hasks, hsave, _⟩
    · exact h.distinct p p' (hsame.hasPayment.mp hp) (hsame.hasPayment.mp hp') halike
    · rw [hsave] at hp hp'
      exact h.distinct p p' hp hp' halike
    · have hnone : Database.noneLike c.state.store p₀ = true := by
        have hdoing := hasks.doing fate
        unfold opensDistinct at hok
        rw [hdoing] at hok
        exact hok
      rw [hsave] at hp hp'
      rcases Database.hasPayment_save.mp hp with rfl | ⟨_, hold⟩
      · rcases Database.hasPayment_save.mp hp' with rfl | ⟨_, hold'⟩
        · rfl
        · exact (Database.eq_of_noneLike hnone hold' ⟨halike.1.symm, halike.2.symm⟩).symm
      · rcases Database.hasPayment_save.mp hp' with rfl | ⟨_, hold'⟩
        · exact Database.eq_of_noneLike hnone hold halike
        · exact h.distinct p p' hold hold' halike
  · intro p hp
    rcases hI.hasPayment_next hn hp with ⟨p₀, hp₀, hev⟩ |
      ⟨i, fate, t, _, _, q, pref, _, _, hgives, rfl⟩
    · obtain ⟨pref, hpref, href⟩ := h.referenced p₀ hp₀
      exact ⟨pref, hev.preference.trans hpref, by rw [href, hev.serviceOrderId]⟩
    · exact ⟨pref, rfl, gives_reference hgives⟩

theorem toldApart_start : ToldApart (start sql (withMercadoPago settings handler)) :=
  ⟨(fun _ _ hp => by cases hp), fun _ hp => by cases hp⟩

/-! ## Settlements -/

/-- What a synchronisation that confirmed reports: the payment at the provider, and the payment that
    it settled here. -/
def Response.settlement : Response → Option (String × String)
  | synced result =>
    if result.action = .confirmed then some (result.providerPaymentId, result.payment.paymentId)
    else none
  | _ => none

/-- A payment at the provider has settled at most one payment here. -/
def SettlesOnce {d : Deployment} (c : Config (system sql d)) : Prop :=
  ∀ i j providerPaymentId paymentId paymentId',
    (c.returned i).bind Response.settlement = some (providerPaymentId, paymentId) →
    (c.returned j).bind Response.settlement = some (providerPaymentId, paymentId') →
    paymentId = paymentId'

/-- What a settlement rests on: a payment at the provider with the reference and the amount of the
    payment that is stored here. -/
theorem settlement_rests_on {known : ProviderPayment → Bool} (hI : Integrity c) (hT : ToldApart c)
    (hH : c.Knows fun e _ => Honest known e)
    (hev : ∀ t ∈ c.threads, t.Follows
      (fun req : Request => fun h o => ∀ id, req.command = .syncPaymentStatus id →
        AnnouncesOnEvidence id h o)
      (fun req : Request => fun h r => ∀ result, r = .ok (.synced result) →
        ∃ id, req.command = .syncPaymentStatus id ∧ ReportsOnEvidence id h (.ok result)))
    {i : Nat} {providerPaymentId paymentId : String}
    (h : (c.returned i).bind Response.settlement = some (providerPaymentId, paymentId)) :
    ∃ x p d, known x = true ∧ providerPaymentId = strip x.id ∧ c.state.store.HasPayment p ∧
      p.paymentId = paymentId ∧ p.serviceOrderId = x.externalReference ∧
      Decimal.ofText x.amount = some d ∧ d.SameNumber p.total.amount := by
  obtain ⟨response, hret, hsettle⟩ := Option.bind_eq_some_iff.mp h
  obtain ⟨t, ht, hrest⟩ := Config.returned_eq_some.mp hret
  have hmem := List.mem_of_getElem? ht
  cases response with
  | synced result =>
    simp only [Response.settlement] at hsettle
    split at hsettle
    · rename_i haction
      cases hsettle
      obtain ⟨id, _, hreports⟩ := (hev t hmem).at_ret hrest result rfl
      obtain ⟨p₀, r, response, st, hevidence, hpay, hid⟩ := hreports result rfl haction
      obtain ⟨pref, _, hpref, href, _, hread⟩ := hevidence.agree hI hmem
      obtain ⟨p₁, rest, hh, _⟩ := hevidence
      -- the payment as it is stored now, and its reference
      have hget : (⟨.paymentGet id, .ok p₀⟩ : Event) ∈ t.history := by rw [hh]; simp
      obtain ⟨_, _, p, hp, he⟩ := hI.kept t hmem _ hget
      obtain ⟨pref', hpref', href'⟩ := hT.referenced p hp
      have hprefs : pref' = pref := by
        rw [he.preference, hpref] at hpref'
        exact (Option.some.inj hpref').symm
      have hr : p.serviceOrderId = r := by
        rw [hprefs, href] at href'
        exact (Option.some.inj href').symm
      -- the entry that the answer was read off
      obtain ⟨results, item, hres, hmatch, hst⟩ :=
        MercadoPagoCheckoutAdapter.readSearch_eq_ok hread
      obtain ⟨⟨d, hd, hsame⟩, _, hpid, _⟩ := MercadoPagoCheckoutAdapter.statusOf_eq_ok hst
      have hitem : item ∈ MercadoPagoCheckoutAdapter.matching r results := by rw [hmatch]; simp
      obtain ⟨hmemItem, hitemRef⟩ := MercadoPagoCheckoutAdapter.mem_matching.mp hitem
      have hasked : (⟨.sdk (.searchPayments (MercadoPagoCheckoutAdapter.searchFilters r)),
          .ok response⟩ : Event) ∈ t.history := by rw [hh]; simp
      refine ⟨.ofItem item, p, d, hH t hmem _ hasked _ (mem_listedIn hres hmemItem), ?_, hp, ?_, ?_,
        hd, ?_⟩
      · rw [hid, hpid]; rfl
      · rw [hpay]; exact he.paymentId
      · rw [hr]; exact hitemRef.symm
      · rw [he.total]; exact hsame
    · cases hsettle
  | _ => cases hsettle

/-- **One provider payment settles at most one billing payment**, in the runs that open distinct
    payments, if an id of the provider has one reference and one amount. -/
theorem one_settlement {known : ProviderPayment → Bool}
    (hids : ∀ x y, known x = true → known y = true → strip x.id = strip y.id →
      x.externalReference = y.externalReference ∧ x.amount = y.amount)
    {c : Config (system sql (withMercadoPago settings handler))}
    (H : Runs (fun c a => answersFrom known c a = true ∧ opensDistinct c a = true)
      (start sql (withMercadoPago settings handler)) c) : SettlesOnce c := by
  have hinv := H.invariant
    (I := fun c => Integrity c ∧ ToldApart c ∧ c.Knows fun e _ => Honest known e)
    ⟨integrity_start, toldApart_start, fun _ ht => absurd ht List.not_mem_nil⟩
    fun _ _ _ h ha hn => ⟨h.1.next hn, h.2.1.next h.1 ha.2 hn, honest_next h.2.2 ha.1 hn⟩
  obtain ⟨hI, hT, hH⟩ := hinv
  have hev := H.always (serve_evidence settings handler) fun _ ht => absurd ht List.not_mem_nil
  intro i j providerPaymentId paymentId paymentId' hi hj
  obtain ⟨x, p, d, hx, hid, hp, rfl, hso, hd, hsame⟩ := settlement_rests_on hI hT hH hev hi
  obtain ⟨y, p', d', hy, hid', hp', rfl, hso', hd', hsame'⟩ := settlement_rests_on hI hT hH hev hj
  obtain ⟨href, hamount⟩ := hids x y hx hy (hid.symm.trans hid')
  rw [hamount, hd'] at hd
  obtain rfl := Option.some.inj hd
  exact hT.distinct p p' hp hp' ⟨by rw [hso, hso', href], hsame.symm.trans hsame'⟩

end Distinct

section Samples

open Sample

/-- Thread `i` approves `quote-n`, and thread `j` synchronises the payment of it. -/
def Sample.approveAndSync (i j : Nat) (n m k : String) (fate : Fate) :
    List (Action (system sql mercadoPago)) :=
  [ask m (.approveQuote ("quote-" ++ n))] ++ go i 2 ++ [.step i preferred] ++ go i 5 ++
    [ask k (.syncPaymentStatus ("payment-" ++ m))] ++ go j 1 ++ [.step j fate] ++ go j 4

/-- Two service orders, each with its payment at the provider. -/
def Sample.paidBoth : List (Action (system sql mercadoPago)) :=
  [create "1" "os-1"] ++ go 0 2 ++ [create "2" "os-2"] ++ go 1 2 ++
    approveAndSync 2 3 "1" "3" "4" (paid 77 "os-1") ++
    approveAndSync 4 5 "2" "5" "6" (paid 78 "os-2")

/-- Two quotes of one service order, for the same amount, and one payment at the provider. -/
def Sample.paidOnce : List (Action (system sql mercadoPago)) :=
  [create "1" "os-1"] ++ go 0 2 ++ [create "2" "os-1"] ++ go 1 2 ++
    approveAndSync 2 3 "1" "3" "4" (paid 77 "os-1") ++
    approveAndSync 4 5 "2" "5" "6" (paid 77 "os-1")

/-- The provider's payments of `paidBoth`. -/
def Sample.twoPayments : List ProviderPayment :=
  [⟨"77", "os-1", "120.0", "BRL", "approved"⟩, ⟨"78", "os-2", "120.0", "BRL", "approved"⟩]

theorem one_settlement_paidBoth :
    ∃ c : Config (system sql mercadoPago),
      (c.returned 3).bind Response.settlement = some ("77", "payment-3") ∧
      (c.returned 5).bind Response.settlement = some ("78", "payment-5") ∧ SettlesOnce c := by
  refine ⟨(start sql mercadoPago).played (fun c a =>
    answersFrom (fun x => decide (x ∈ twoPayments)) c a = true ∧ opensDistinct c a = true) paidBoth
    (by decide), by decide, by decide, one_settlement ?_ (Config.played_runs _ _ _)⟩
  intro x y hx hy hid
  simp only [twoPayments, List.mem_cons, List.not_mem_nil, or_false, decide_eq_true_eq] at hx hy
  rcases hx with rfl | rfl <;> rcases hy with rfl | rfl
  · exact ⟨rfl, rfl⟩
  · exact absurd hid (by decide)
  · exact absurd hid (by decide)
  · exact ⟨rfl, rfl⟩

/-- **One provider payment settles two billing payments**: the quotes of one service order for the
    same amount are both confirmed by it, though every request is served alone and the provider
    answers with all it has. -/
theorem one_payment_settles_two :
    ¬ ∀ c, Runs (fun c a => oneAtATime c a ∧
      searches [⟨"77", "os-1", "120.0", "BRL", "approved"⟩] c a = true) (start sql mercadoPago) c →
      SettlesOnce c := by
  intro h
  have hsame := h _ (Config.played_runs _ paidOnce (by decide)) 3 5 "77" "payment-3" "payment-5"
    (by decide) (by decide)
  revert hsame
  decide

end Samples

end Billing

/-
  What a synchronisation with Mercado Pago rests on.

  The check of the provider's answer and the transition of the payment are in two layers and work on
  two reads of the payment, with other requests free to run in between.  `SyncEvidence` collects what
  the execution itself has seen when it confirms: the first read, the search, the answer, the second
  read.  That the two reads agree where it matters (total, preference) is the immutability that
  `Billing.Proofs.Integrity` proves of every run.
-/
import Billing.Proofs.Integrity

namespace Billing

open Py Atomic Program

/-! ## The evidence -/

/-- The history of a synchronisation that confirms the payment which it read as `p₀`, after a search
    for the reference `r` was answered with `response` and the status `st` was read off that. -/
def SyncEvidence [Python] (paymentId : String) (h : List Event) (p₀ : Payment) (r : String)
    (response : Dict Json) (st : PaymentProviderStatus) : Prop :=
  ∃ p₁ rest,
    h = [⟨.paymentGet paymentId, .ok p₁⟩,
      ⟨.sdk (.searchPayments (MercadoPagoCheckoutAdapter.searchFilters r)), .ok response⟩] ++
      ⟨.paymentGet paymentId, .ok p₀⟩ :: rest ∧
    MercadoPagoCheckoutAdapter.externalReferenceOf p₁ = .ok r ∧
    MercadoPagoCheckoutAdapter.readSearch p₁.total r response = .ok st ∧
    normalizedStatus st.status ∈ approvingStatuses ∧ p₀.status = .pending

/-- A confirmation is only announced on evidence. -/
def AnnouncesOnEvidence [Python] (paymentId : String) (h : List Event) (o : Port) : Prop :=
  ∀ e, o = .publish e → e.eventType = .paymentConfirmed → ∃ p₀ r response st stamp,
    SyncEvidence paymentId h p₀ r response st ∧
      e = ({ p₀ with status := .confirmed } : Payment).event .paymentConfirmed
        [("payment_id", p₀.paymentId)] stamp

/-- A confirmation is only reported on evidence. -/
def ReportsOnEvidence [Python] (paymentId : String) (h : List Event)
    (r : Except Exc SyncPaymentStatusResult) : Prop :=
  ∀ result, r = .ok result → result.action = .confirmed → ∃ p₀ r response st,
    SyncEvidence paymentId h p₀ r response st ∧
      result.payment = { p₀ with status := .confirmed } ∧
      result.providerPaymentId = st.providerPaymentId

theorem call_perform (call : SdkCall) :
    PaymentGateway.call (perform (σ := sdk) call) = Service.ask (.sdk call) := by
  refine congrArg (step _) (funext fun r => ?_)
  cases r with
  | ok a => rfl
  | error e => rfl

section Program

variable [Python] {settings : MercadoPagoCheckoutSettings}

theorem call_getPaymentStatus (p : Payment) :
    PaymentGateway.call ((mercadoPagoCheckoutAdapter settings).getPaymentStatus p) = (do
      let r ← ofExcept (MercadoPagoCheckoutAdapter.externalReferenceOf p)
      let response ← Service.ask (.sdk (.searchPayments (MercadoPagoCheckoutAdapter.searchFilters r)))
      ofExcept (MercadoPagoCheckoutAdapter.readSearch p.total r response)) := by
  show (MercadoPagoCheckoutAdapter.getPaymentStatus p).embed _ _ = _
  unfold MercadoPagoCheckoutAdapter.getPaymentStatus
  rw [embed_bind, embed_ofExcept]
  refine congrArg _ (funext fun r => ?_)
  rw [embed_bind]
  have hcall := call_perform (.searchPayments (MercadoPagoCheckoutAdapter.searchFilters r))
  unfold PaymentGateway.call at hcall
  rw [hcall]
  exact congrArg _ (funext fun response => embed_ofExcept _)

/-- **A synchronisation acts on evidence**, whatever the steps answer. -/
theorem syncPaymentStatus_evidence (paymentId : String) (supply : Supply) :
    Always (AnnouncesOnEvidence paymentId) (ReportsOnEvidence paymentId) []
      (SyncPaymentStatusUseCase.execute (mercadoPagoCheckoutAdapter settings) paymentId supply) := by
  have herr : ∀ h e, ReportsOnEvidence paymentId h (.error e) := fun h e result hr => by cases hr
  have hquiet : ∀ h o, (∀ e, o ≠ .publish e) → AnnouncesOnEvidence paymentId h o :=
    fun h o ho e he => absurd he (ho e)
  unfold SyncPaymentStatusUseCase.execute
  rw [always_perform_bind]
  refine ⟨hquiet _ _ (by simp), fun p₁ => ?_, fun e => herr _ e⟩
  rw [call_getPaymentStatus, always_bind, always_ofExcept_bind]
  refine ⟨fun r hr => ?_, fun e _ => herr _ e⟩
  rw [always_perform_bind]
  refine ⟨hquiet _ _ (by simp), fun response => ?_, fun e => herr _ e⟩
  cases hread : MercadoPagoCheckoutAdapter.readSearch p₁.total r response with
  | error e => exact herr _ e
  | ok st =>
    simp only [ofExcept_ok, always_ret, thenAlways]
    unfold ApplyPaymentStatusUseCase.execute
    rw [always_bind, always_perform_bind]
    refine ⟨hquiet _ _ (by simp), fun p₂ => ?_, fun e => herr _ e⟩
    rw [always_ofExcept_bind]
    refine ⟨?_, fun e _ => herr _ e⟩
    have hunsettled : ∀ h (p : Payment) action, action ≠ .confirmed →
        Always (AnnouncesOnEvidence paymentId) (thenAlways (AnnouncesOnEvidence paymentId)
          (ReportsOnEvidence paymentId) fun result => pure ⟨result.payment, st.providerPaymentId,
            st.status, st.statusDetail, result.action, result.publishedEventType⟩) h (do
          PaymentRepository.save p
          return (⟨p, action, none⟩ : ApplyPaymentStatusResult)) := by
      intro h p action hne
      rw [always_perform_bind]
      refine ⟨hquiet _ _ (by simp), fun _ => ?_, fun e => herr _ e⟩
      rintro result ⟨⟩ haction
      exact absurd haction hne
    rintro ⟨p, event, action⟩ hdecide
    rcases ApplyPaymentStatusUseCase.decide_eq_ok hdecide with
      ⟨happ, rfl, e, rfl, hconfirm⟩ | ⟨rfl, e, rfl, hfail⟩ | ⟨rfl, rfl, rfl, _⟩ | ⟨rfl, rfl, rfl⟩
    · obtain ⟨hpend, hp, he⟩ := Payment.confirm_eq_ok hconfirm
      have evidence : ∀ rest, SyncEvidence paymentId ([⟨.paymentGet paymentId, .ok p₁⟩,
          ⟨.sdk (.searchPayments (MercadoPagoCheckoutAdapter.searchFilters r)), .ok response⟩] ++
          ⟨.paymentGet paymentId, .ok p₂⟩ :: rest) p₂ r response st :=
        fun rest => ⟨p₁, rest, rfl, hr, hread, happ, hpend⟩
      refine ⟨hquiet _ _ (by simp), ?_⟩
      rintro (x | _)
      · exact herr _ x
      refine ⟨hquiet _ _ (by simp), ?_⟩
      rintro (x | _)
      · exact herr _ x
      refine ⟨?_, ?_⟩
      · rintro e' ⟨⟩ -
        rw [hp] at he
        exact ⟨p₂, r, response, st, supply.first, evidence _, he⟩
      · rintro (x | _)
        · exact herr _ x
        · rintro result ⟨⟩ -
          exact ⟨p₂, r, response, st, evidence _, hp, rfl⟩
    · -- a failure is announced and reported as such
      obtain ⟨-, -, he⟩ := Payment.fail_eq_ok hfail
      refine ⟨hquiet _ _ (by simp), ?_⟩
      rintro (x | _)
      · exact herr _ x
      refine ⟨hquiet _ _ (by simp), ?_⟩
      rintro (x | _)
      · exact herr _ x
      refine ⟨?_, ?_⟩
      · rintro e' ⟨⟩ htype
        rw [he] at htype
        cases htype
      · rintro (x | _)
        · exact herr _ x
        · rintro result ⟨⟩ haction
          cases haction
    · exact hunsettled _ p .duplicate (by simp)
    · exact hunsettled _ p .ignored (by simp)

end Program

/-! ## Threads -/

section Threads

variable [Python] {settings : MercadoPagoCheckoutSettings} {handler : BillingIntegrationEventHandler}

/-- The deployment with Mercado Pago. -/
abbrev withMercadoPago (settings : MercadoPagoCheckoutSettings)
    (handler : BillingIntegrationEventHandler) : Deployment :=
  ⟨mercadoPagoCheckoutAdapter settings, handler⟩

/-- Synchronisations announce and report on evidence, and nothing else answers like one. -/
theorem serve_evidence (settings : MercadoPagoCheckoutSettings)
    (handler : BillingIntegrationEventHandler) (req : Request) :
    Always (fun h o => ∀ id, req.command = .syncPaymentStatus id → AnnouncesOnEvidence id h o)
      (fun h r => ∀ result, r = .ok (.synced result) →
        ∃ id, req.command = .syncPaymentStatus id ∧ ReportsOnEvidence id h (.ok result)) []
      ((withMercadoPago settings handler).serve req) := by
  -- the rule for the other commands: what they return is of another kind
  have other : ∀ {α : Type} (p : Service α) (f : α → Response),
      (∀ id, req.command ≠ .syncPaymentStatus id) → (∀ a result, f a ≠ .synced result) →
      Always (fun h o => ∀ id, req.command = .syncPaymentStatus id → AnnouncesOnEvidence id h o)
        (fun h r => ∀ result, r = .ok (.synced result) →
          ∃ id, req.command = .syncPaymentStatus id ∧ ReportsOnEvidence id h (.ok result)) []
        (p >>= fun a => pure (f a)) := by
    intro α p f hcmd hf
    rw [always_bind]
    refine .of_forall (fun h o id h' => absurd h' (hcmd id)) (fun h r => ?_) p
    rcases r with e | a
    · rintro result ⟨⟩
    · intro result hr
      exact absurd (Except.ok.inj hr) (hf a result)
  unfold Deployment.serve
  split <;> rename_i hcmd
  · exact other _ _ (by simp [hcmd]) (by simp)
  · exact other _ _ (by simp [hcmd]) (by simp)
  · exact other _ _ (by simp [hcmd]) (by simp)
  · exact other _ _ (by simp [hcmd]) (by simp)
  · exact other _ _ (by simp [hcmd]) (by simp)
  · rename_i id
    rw [always_bind]
    refine (syncPaymentStatus_evidence id req.supply).mono ?_ ?_
    · intro h o hev id' hcmd'
      rw [hcmd] at hcmd'
      cases hcmd'
      exact hev
    · rintro h (e | result) hev
      · rintro result ⟨⟩
      · rintro result' ⟨⟩
        exact ⟨id, hcmd, hev⟩
  · exact other _ _ (by simp [hcmd]) (by simp)

/-- The two reads of a confirming synchronisation agree on what the provider was asked about. -/
theorem SyncEvidence.agree {c : Config (system sql (withMercadoPago settings handler))}
    (hI : Integrity c) {t : Thread (system sql (withMercadoPago settings handler))}
    (ht : t ∈ c.threads) {paymentId r : String} {p₀ : Payment} {response : Dict Json}
    {st : PaymentProviderStatus} (h : SyncEvidence paymentId t.history p₀ r response st) :
    ∃ pref, p₀.paymentId = paymentId ∧ p₀.preference = some pref ∧
      pref.externalReference = some r ∧ p₀.total.currency = Money.defaultCurrency ∧
      MercadoPagoCheckoutAdapter.readSearch p₀.total r response = .ok st := by
  obtain ⟨p₁, rest, hh, hr, hread, happ, hpend⟩ := h
  have hmem₁ : (⟨.paymentGet paymentId, .ok p₁⟩ : Event) ∈ t.history := by rw [hh]; simp
  have hmem₀ : (⟨.paymentGet paymentId, .ok p₀⟩ : Event) ∈ t.history := by rw [hh]; simp
  obtain ⟨hid₁, _, q₁, hq₁, hev₁⟩ := hI.kept t ht _ hmem₁
  obtain ⟨hid₀, _, q₀, hq₀, hev₀⟩ := hI.kept t ht _ hmem₀
  -- both reads evolved into the payment that is stored now
  have hq : q₁ = q₀ := by
    refine hq₁.unique hq₀ ?_
    rw [hev₁.paymentId, hid₁, hev₀.paymentId, hid₀]
  subst hq
  obtain ⟨pref, hpref, href⟩ := MercadoPagoCheckoutAdapter.externalReferenceOf_eq_ok hr
  refine ⟨pref, hid₀, ?_, href, ?_, ?_⟩
  · exact (hev₁.preference.symm.trans hev₀.preference) ▸ hpref
  · have := hI.payment_currency hq₁
    rwa [hev₀.total] at this
  · rw [← hev₁.total, hev₀.total] at hread
    exact hread

/-- The answer of a search says that the payment was paid: one dictionary entry carries its
    external reference, and that entry has its amount, its currency and an approving status. -/
def PaidAtProvider (p : Payment) (response : Dict Json) : Prop :=
  ∃ pref r results item d, p.preference = some pref ∧ pref.externalReference = some r ∧
    getOrNone response "results" = .list results ∧
    MercadoPagoCheckoutAdapter.matching r results = [item] ∧
    Decimal.ofText (getOrNone item "transaction_amount").text = some d ∧
    d.SameNumber p.total.amount ∧ item.get? "currency_id" = some (.str p.total.currency) ∧
    normalizedStatus (getText item "status") ∈ approvingStatuses

theorem get?_of_getText {item : Dict Json} (h : getText item "currency_id" = Money.defaultCurrency) :
    item.get? "currency_id" = some (.str Money.defaultCurrency) := by
  unfold getText at h
  cases hget : item.get? "currency_id" with
  | none => rw [hget] at h; exact absurd h (by simp [Money.defaultCurrency])
  | some j =>
    rw [hget] at h
    have hword : Money.defaultCurrency.toList = 'B' :: ['R', 'L'] := rfl
    exact congrArg some (Json.eq_str_of_text hword (by decide) h)

theorem paidAtProvider_of_readSearch {p : Payment} {pref : PaymentPreference} {r : String}
    {response : Dict Json} {st : PaymentProviderStatus} (hpref : p.preference = some pref)
    (href : pref.externalReference = some r) (hcur : p.total.currency = Money.defaultCurrency)
    (hread : MercadoPagoCheckoutAdapter.readSearch p.total r response = .ok st)
    (happ : normalizedStatus st.status ∈ approvingStatuses) : PaidAtProvider p response := by
  obtain ⟨results, item, hres, hmatch, hst⟩ := MercadoPagoCheckoutAdapter.readSearch_eq_ok hread
  obtain ⟨⟨d, hd, hsame⟩, hitem, _, hstatus⟩ := MercadoPagoCheckoutAdapter.statusOf_eq_ok hst
  refine ⟨pref, r, results, item, d, hpref, href, hres, hmatch, hd, hsame, ?_, ?_⟩
  · rw [hcur] at hitem ⊢
    exact get?_of_getText hitem
  · rw [hstatus, normalizedStatus, strip_strip] at happ
    exact happ

/-- **Sync never confirms money that was not paid.**  In every interleaving, when a synchronisation
    is about to publish `PAYMENT_CONFIRMED`, the answer it got to its search says that this payment
    was paid, and the payment was stored `PENDING` when it was read again after that answer. -/
theorem sync_confirms_only_paid {c : Config (system sql (withMercadoPago settings handler))}
    (H : Runs anyOrder (start sql (withMercadoPago settings handler)) c) {i : Nat}
    {t : Thread (system sql (withMercadoPago settings handler))} {e : DomainEvent}
    {paymentId : String} (hasks : c.Asks i t (.publish e))
    (hcmd : t.req.command = .syncPaymentStatus paymentId) (he : e.eventType = .paymentConfirmed) :
    ∃ p p₀ filters response,
      p = { p₀ with status := .confirmed } ∧ p.paymentId = paymentId ∧
      e.payload.get? "payment_id" = some p.paymentId ∧
      ⟨.sdk (.searchPayments filters), .ok response⟩ ∈ t.history ∧ PaidAtProvider p response ∧
      ∃ c₁ c₂ u fate, Runs anyOrder (start sql (withMercadoPago settings handler)) c₁ ∧
        c₁.Asks i u (.paymentGet paymentId) ∧
        ⟨.sdk (.searchPayments filters), .ok response⟩ ∈ u.history ∧
        c₁.next (.step i fate) = some c₂ ∧ Runs anyOrder c₂ c ∧
        c₁.state.store.HasPayment p₀ ∧ p₀.status = .pending := by
  obtain ⟨hget, k, hk⟩ := hasks
  have ht : t ∈ c.threads := List.mem_of_getElem? hget
  have hfollows := H.always (serve_evidence settings handler)
    (fun _ ht => absurd ht List.not_mem_nil) t ht
  obtain ⟨p₀, r, response, st, stamp, hev, rfl⟩ := (hfollows.at_step hk).1 paymentId hcmd e rfl he
  obtain ⟨pref, hid, hpref, href, hcur, hread⟩ := hev.agree (integrity H) ht
  obtain ⟨p₁, rest, hh, _, _, happ, hpend⟩ := hev
  have hpaid := paidAtProvider_of_readSearch (p := { p₀ with status := .confirmed }) hpref href hcur
    hread happ
  -- the second read, at the point of the run where it was done
  obtain ⟨c₁, c₂, fate, k', H₁, _, hn, H₂, hu, hx⟩ := H.origin rfl hget hh
  obtain ⟨_, _, hp₀⟩ := exec_paymentGet hx
  exact ⟨_, p₀, MercadoPagoCheckoutAdapter.searchFilters r, response, rfl, hid, rfl,
    by rw [hh]; simp, hpaid, c₁, c₂, _, fate, H₁, ⟨hu, k', rfl⟩, by simp, hn, H₂, hp₀, hpend⟩

end Threads

open Sample

/-- The SDK answers with a preference. -/
def Sample.preferred : Fate := .answers [("id", .str "pref-1"), ("init_point", .str "/pay")]

/-- The SDK answers a search with one payment of `120.0`. -/
def Sample.paid (id : Int) (externalReference : String) : Fate :=
  .answers [("results", .list [.dict
    [("id", .int id), ("status", .str "approved"), ("external_reference", .str externalReference),
      ("transaction_amount", .float (.finite false 1200 (-1))), ("currency_id", .str "BRL")]])]

/-- A quote is approved at Mercado Pago, and a synchronisation finds it paid. -/
def Sample.paidPayment : List (Action (system sql mercadoPago)) :=
  [create "1" "os-1"] ++ go 0 2 ++ [ask "2" (.approveQuote "quote-1")] ++ go 1 2 ++
    [.step 1 preferred] ++ go 1 5 ++ [ask "3" (.syncPaymentStatus "payment-2")] ++ go 2 1 ++
    [.step 2 (paid 77 "os-1")] ++ go 2 3

/-- Is this the publishing of a confirmation by a synchronisation? -/
def Sample.syncConfirms (paymentId : String) (req : Request) : Port → Bool
  | .publish e => match req.command with
    | .syncPaymentStatus id => decide (id = paymentId ∧ e.eventType = .paymentConfirmed)
    | _ => false
  | _ => false

theorem sync_confirms_only_paid_sample :
    ∃ p response, p.paymentId = "payment-2" ∧ PaidAtProvider p response := by
  have hasking : ((start sql mercadoPago).played anyOrder paidPayment (by decide)).asking 2
      (syncConfirms "payment-2") = true := by decide
  obtain ⟨t, o, hasks, htest⟩ := Config.asks_of_asking hasking
  cases o with
  | publish e =>
    cases hcmd : t.req.command with
    | syncPaymentStatus id =>
      simp only [syncConfirms, hcmd, decide_eq_true_eq] at htest
      obtain ⟨rfl, he⟩ := htest
      obtain ⟨p, p₀, filters, response, _, hid, _, _, hpaid, _⟩ :=
        sync_confirms_only_paid (Config.played_runs _ _ _) hasks hcmd he
      exact ⟨p, response, hid, hpaid⟩
    | _ => simp [syncConfirms, hcmd] at htest
  | _ => cases htest

end Billing

/-
  The books balance.

  Requests come one at a time, and store and broker work.  Then whenever no request is being served, the
  payments are the approved quotes, each once, for the quote's own service order and total: every
  approved quote has its payment (`Told`, the stage of a quote at rest), and no quote has two.  So
  whatever is summed over the payments is the same sum over the approved quotes.
-/
import Billing.Proofs.Integrity
import Billing.Proofs.Journal

namespace Billing

open Py Atomic

/-- What is charged: the quote, its service order, and the total. -/
structure Charge where
  /-- `quote_id`. -/
  quoteId : String
  /-- `service_order_id`. -/
  serviceOrderId : String
  /-- `amount`. -/
  amount : String
  /-- `currency`. -/
  currency : String
  deriving DecidableEq

/-- The charge of a quote row. -/
def QuoteRow.charge (row : QuoteRow) : Charge :=
  ⟨row.quoteId, row.serviceOrderId, row.amount, row.currency⟩

/-- The charge of a payment row. -/
def PaymentRow.charge (row : PaymentRow) : Charge :=
  ⟨row.quoteId, row.serviceOrderId, row.amount, row.currency⟩

/-- The charges of the payments. -/
def Database.charged (db : Database) : List Charge := db.payments.rows.map PaymentRow.charge

/-- The charges of the approved quotes. -/
def Database.approvedCharges (db : Database) : List Charge :=
  (db.quotes.rows.filter fun row => decide (row.status = QuoteStatus.approved.value)).map QuoteRow.charge

theorem Database.approvedCharges_nodup (db : Database) : db.approvedCharges.Nodup := by
  refine List.Nodup.of_map Charge.quoteId ?_
  have hkeys : db.approvedCharges.map Charge.quoteId = (db.quotes.rows.filter fun row =>
      decide (row.status = QuoteStatus.approved.value)).map QuoteRow.quoteId := List.map_map
  rw [hkeys]
  exact ((List.filter_sublist).map _).nodup db.quotes.nodup

section Balance

variable [Python] {d : Deployment} {w : World sql}

/-- **At rest, a quote has one payment at most.** -/
theorem Told.one_payment (h : Told w) {p p' : Payment} (hp : w.store.HasPayment p)
    (hp' : w.store.HasPayment p') (hid : p.quoteId = p'.quoteId) : p = p' := by
  obtain ⟨st, hst⟩ := h.stages p.quoteId
  have hstage := (hst.payment p.paymentId p.status).mp ⟨p, hp, rfl, rfl, rfl⟩
  have hstage' := (hst.payment p'.paymentId p'.status).mp ⟨p', hp', hid.symm, rfl, rfl⟩
  have hsame : p.paymentId = p'.paymentId :=
    congrArg Prod.fst (Option.some.inj (hstage.symm.trans hstage'))
  exact hp.unique hp' hsame

/-- **At rest, an approved quote has a payment.** -/
theorem Told.has_payment (h : Told w) {q : Quote} (hq : w.store.HasQuote q)
    (happroved : q.status = .approved) : ∃ p, w.store.HasPayment p ∧ p.quoteId = q.quoteId := by
  obtain ⟨st, hst⟩ := h.stages q.quoteId
  have hstatus : st.quoteStatus = some .approved :=
    (hst.quote .approved).mp ⟨q, hq, rfl, happroved⟩
  have hresting := hst.resting
  have hpayment : ∃ id s, st.payment = some (id, s) := by
    cases st with
    | absent => cases hstatus
    | created => cases hstatus
    | approved => cases hresting
    | pending id => exact ⟨_, _, rfl⟩
    | confirmed id => exact ⟨_, _, rfl⟩
    | failed id => exact ⟨_, _, rfl⟩
  obtain ⟨id, s, hsome⟩ := hpayment
  obtain ⟨p, hp, hid, -, -⟩ := (hst.payment id s).mpr hsome
  exact ⟨p, hp, hid⟩

theorem Told.charged_nodup (h : Told w) : w.store.charged.Nodup := by
  refine List.Nodup.map_on ?_ (List.Nodup.of_map _ w.store.payments.nodup)
  intro row hrow row' hrow' hcharge
  obtain ⟨p, rfl, hp⟩ := Database.hasPayment_of_mem hrow
  obtain ⟨p', rfl, hp'⟩ := Database.hasPayment_of_mem hrow'
  have hid : p.quoteId = p'.quoteId := congrArg Charge.quoteId hcharge
  rw [h.one_payment hp hp' hid]

omit [Python] in
/-- A payment and the quote that it is linked to are charged the same. -/
theorem charge_eq {p : Payment} {q : Quote} (hid : q.quoteId = p.quoteId)
    (hso : q.serviceOrderId = p.serviceOrderId) (htotal : q.total = p.total) :
    (QuoteRow.ofQuote q).charge = (PaymentRow.ofPayment p).charge := by
  show (⟨q.quoteId, q.serviceOrderId, q.total.amount.toText, q.total.currency⟩ : Charge) = _
  rw [hid, hso, htotal]
  rfl

/-- **The books balance**: whenever no request is being served, the charges of the payments are those of
    the approved quotes, each once. -/
theorem books_balance {c : Config (system sql d)} (H : Runs orderly (start sql d) c)
    (hrest : c.atRest = true) : c.state.store.charged.Perm c.state.store.approvedCharges := by
  have htold := told H hrest
  have hI := integrity H
  refine (List.perm_ext_iff_of_nodup htold.charged_nodup (Database.approvedCharges_nodup _)).mpr ?_
  intro charge
  constructor
  · intro hcharge
    obtain ⟨row, hrow, rfl⟩ := List.mem_map.mp hcharge
    obtain ⟨p, rfl, hp⟩ := Database.hasPayment_of_mem hrow
    obtain ⟨q, hq, hid, happroved, hso, htotal⟩ := hI.linked p hp
    refine List.mem_map.mpr ⟨.ofQuote q, List.mem_filter.mpr ⟨hq.mem, ?_⟩, charge_eq hid hso htotal⟩
    exact decide_eq_true (congrArg QuoteStatus.value happroved)
  · intro hcharge
    obtain ⟨row, hrow, rfl⟩ := List.mem_map.mp hcharge
    obtain ⟨hmem, hstatus⟩ := List.mem_filter.mp hrow
    obtain ⟨q, rfl, hq⟩ := Database.hasQuote_of_mem hmem
    have happroved : q.status = .approved := QuoteStatus.value_injective (of_decide_eq_true hstatus)
    obtain ⟨p, hp, hid⟩ := htold.has_payment hq happroved
    -- the quote that the payment is linked to is this one
    obtain ⟨q', hq', hid', -, hso, htotal⟩ := hI.linked p hp
    obtain rfl := hq.unique hq' (hid.symm.trans hid'.symm)
    exact List.mem_map.mpr ⟨.ofPayment p, hp.mem, (charge_eq hid' hso htotal).symm⟩

end Balance

section Samples

open Sample

/-- One quote is approved and its payment fails twice, another is approved and paid, and a third waits. -/
def Sample.settledBooks : List (Action (system sql mock)) :=
  failedTwice ++ [create "5" "os-2"] ++ go 4 2 ++ [ask "6" (.approveQuote "quote-5")] ++ go 5 7 ++
    [ask "7" (.confirmPayment "payment-6")] ++ go 6 4 ++ [create "8" "os-3"] ++ go 7 2

theorem books_balance_settled : ∃ c : Config (system sql mock), c.state.store.quotes.rows.length = 3 ∧
    c.state.store.charged.length = 2 ∧ c.state.store.charged.Perm c.state.store.approvedCharges :=
  ⟨(start sql mock).played orderly settledBooks (by decide +kernel), by decide +kernel,
    by decide +kernel, books_balance (Config.played_runs _ _ _) (by decide +kernel)⟩

end Samples

end Billing

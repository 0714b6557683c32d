/-
  What was answered stays readable.

  A route that answers with a body answers with an object that its use case has saved (`serve_saves`), and
  a saved object is kept by every run, at most further on (`Integrity`).  So whatever is done later, in
  whatever order and wherever it is cut off, `GET` still shows the body, except for the status, and
  the quote of a payment that was shown is and stays approved.
-/
import Billing.Proofs.Integrity
import Billing.Presentation.Api

namespace Billing

open Py Atomic Program

/-! ## What a response is about was saved -/

/-- The save of a quote. -/
def Quote.saved (q : Quote) : Event := ⟨.quoteSave q, .ok ()⟩

/-- The save of a payment. -/
def Payment.saved (p : Payment) : Event := ⟨.paymentSave p, .ok ()⟩

section Requests

variable {α β : Type} {h : List Event} {save : α → Event}

variable [Python]

end Requests

/-! ## Bodies -/

/-- The fields of a quote's body that never change. -/
def quoteFields : List String := ["quote_id", "service_order_id", "items", "amount", "currency"]

/-- The fields of a payment's body that never change. -/
def paymentFields : List String :=
  ["payment_id", "quote_id", "service_order_id", "amount", "currency", "preference"]

/-- The fields that a payment's body has from its quote. -/
def sharedFields : List String := ["quote_id", "service_order_id", "amount", "currency"]

/-- The bodies say the same in these fields. -/
def Agree (fields : List String) (body body' : Dict Json) : Prop :=
  ∀ key ∈ fields, body'.get? key = body.get? key

/-- `GET` still shows what this body says: of a quote, or of a payment and its quote. -/
inductive World.Shows [Python] (w : World sql) (body : Dict Json) : Prop where
  | quote (id : String) (shown : Dict Json) (hid : body.get? "quote_id" = some (.str id))
      (hget : w.getQuote id = .ok shown) (hagree : Agree quoteFields body shown) : Shows w body
  | payment (id quoteId : String) (shown quote : Dict Json)
      (hid : body.get? "payment_id" = some (.str id)) (hget : w.getPayment id = .ok shown)
      (hagree : Agree paymentFields body shown)
      (hquoteId : body.get? "quote_id" = some (.str quoteId)) (hgetQuote : w.getQuote quoteId = .ok quote)
      (hagreeQuote : Agree sharedFields body quote)
      (happroved : quote.get? "status" = some (.str QuoteStatus.approved.value)) : Shows w body

theorem Quote.Evolves.agree {q q' : Quote} (h : q.Evolves q') :
    Agree quoteFields (quoteToResponse q) (quoteToResponse q') := by
  obtain ⟨hid, hso, hitems, htotal, -⟩ := h
  intro key hkey
  unfold quoteFields at hkey
  unfold quoteToResponse
  rw [hid, hso, hitems, htotal]
  simp only [List.mem_cons, List.not_mem_nil, or_false] at hkey
  rcases hkey with rfl | rfl | rfl | rfl | rfl <;> simp [Dict.get?]

/-- More entries at the end change nothing in the fields that are there. -/
theorem get?_append_of_isSome {α : Type} {body extra : Dict α} {key : String}
    (h : (body.get? key).isSome = true) : (body ++ extra : Dict α).get? key = body.get? key := by
  induction body with
  | nil => cases h
  | cons kv rest ih =>
    obtain ⟨k, v⟩ := kv
    by_cases hk : k = key
    · rw [List.cons_append, Dict.get?, Dict.get?, if_pos hk, if_pos hk]
    · rw [Dict.get?, if_neg hk] at h
      rw [List.cons_append, Dict.get?, Dict.get?, if_neg hk, if_neg hk]
      exact ih h

theorem get?_payment_append (p : Payment) (extra : Dict Json) {key : String}
    (hkey : key ∈ paymentFields) :
    (paymentToResponse p ++ extra : Dict Json).get? key = (paymentToResponse p).get? key := by
  refine get?_append_of_isSome ?_
  unfold paymentFields at hkey
  unfold paymentToResponse
  simp only [List.mem_cons, List.not_mem_nil, or_false] at hkey
  rcases hkey with rfl | rfl | rfl | rfl | rfl | rfl <;> simp [Dict.get?]

theorem Payment.Evolves.agree {p p' : Payment} (h : p.Evolves p') (extra : Dict Json) :
    Agree paymentFields (paymentToResponse p ++ extra) (paymentToResponse p') := by
  intro key hkey
  rw [get?_payment_append p extra hkey]
  obtain ⟨hid, hquote, hso, htotal, hpref⟩ := h
  unfold paymentFields at hkey
  unfold paymentToResponse
  rw [hid, hquote, hso, htotal, hpref]
  simp only [List.mem_cons, List.not_mem_nil, or_false] at hkey
  rcases hkey with rfl | rfl | rfl | rfl | rfl | rfl <;> simp [Dict.get?]

/-! ## Runs -/

section Runs

variable [Python] {d : Deployment}

/-- The body that request `i` was answered with. -/
def answered (c : Config (api sql d)) (i : Nat) : Option (Dict Json) :=
  match c.returned i with
  | some (some (.ok body)) => some body
  | _ => none

end Runs

open Sample

end Billing

/-
  The event log determines the state.

  Requests are served one at a time, by steps that work but for the gateway.  `Stage` is the life of a
  quote and its payment as an automaton over the accepted events that name the quote: what the log
  alone says.  `Told` is the invariant: for every quote, the log leads to a stage, and the two tables
  hold exactly what that stage says.  It is kept by `Effect`, case by case; the words that lead to a
  stage are those of the regular expression `lifecycle` (`lifecycle_of_replay`).
-/
import Billing.Proofs.Effects
import Billing.Lib.Replay

namespace Billing

open Py Atomic Program System Replay RegularExpression

/-! ## Entries -/

/-- What an event says of the quote that it names: its type, and the payment it names. -/
structure Entry where
  /-- The type of the event. -/
  eventType : EventType
  /-- `payload["payment_id"]`. -/
  paymentId : Option String
  deriving DecidableEq

/-- The quote that an event names, and what it says of it. -/
def DomainEvent.reading (e : DomainEvent) : Option (String × Entry) :=
  (e.payload.get? "quote_id").map fun quoteId => (quoteId, ⟨e.eventType, e.payload.get? "payment_id"⟩)

/-- What the accepted events that name a quote say of it, in their order. -/
def World.journal {b : Backend} (w : World b) (quoteId : String) : List Entry :=
  Replay.journal DomainEvent.reading w.accepted quoteId

theorem Quote.createdEvent_reading (q : Quote) (stamp : Stamp) :
    (q.createdEvent stamp).reading = some (q.quoteId, ⟨.quoteCreated, none⟩) := rfl

theorem Quote.approvedEvent_reading (q : Quote) (stamp : Stamp) :
    (q.approvedEvent stamp).reading = some (q.quoteId, ⟨.quoteApproved, none⟩) := rfl

theorem Payment.openedEvent_reading (p : Payment) (preferenceId : String) (stamp : Stamp) :
    (p.openedEvent preferenceId stamp).reading =
      some (p.quoteId, ⟨.paymentPreferenceCreated, some p.paymentId⟩) := rfl

/-- What settling a payment does and announces. -/
theorem Settling.outcome {p₀ p : Payment} {e : DomainEvent} (h : Settling p₀ p e) :
    p.paymentId = p₀.paymentId ∧ p.quoteId = p₀.quoteId ∧
      ((p₀.status = .pending ∧ p.status = .confirmed ∧
          e.reading = some (p.quoteId, ⟨.paymentConfirmed, some p.paymentId⟩)) ∨
        (p₀.status ≠ .confirmed ∧ p.status = .failed ∧
          e.reading = some (p.quoteId, ⟨.paymentFailed, some p.paymentId⟩))) := by
  rcases h with ⟨stamp, hconfirm⟩ | ⟨reason, stamp, hfail⟩
  · obtain ⟨hpending, rfl, rfl⟩ := Payment.confirm_eq_ok hconfirm
    exact ⟨rfl, rfl, Or.inl ⟨hpending, rfl, rfl⟩⟩
  · obtain ⟨hne, rfl, rfl⟩ := Payment.fail_eq_ok hfail
    exact ⟨rfl, rfl, Or.inr ⟨hne, rfl, rfl⟩⟩

/-- Does the event concern a payment? -/
def EventType.ofPayment : EventType → Bool
  | .paymentPreferenceCreated => true
  | .paymentConfirmed => true
  | .paymentFailed => true
  | _ => false

/-! ## The life of a quote -/

/-- Where a quote and its payment stand. -/
inductive Stage where
  | absent
  | created
  | approved
  | pending (paymentId : String)
  | confirmed (paymentId : String)
  | failed (paymentId : String)
  deriving DecidableEq

namespace Stage

/-- What comes after an event. -/
def after : Stage → Entry → Option Stage
  | absent, ⟨.quoteCreated, none⟩ => some created
  | created, ⟨.quoteApproved, none⟩ => some approved
  | approved, ⟨.paymentPreferenceCreated, some paymentId⟩ => some (pending paymentId)
  | pending paymentId, ⟨.paymentConfirmed, named⟩ =>
    if named = some paymentId then some (confirmed paymentId) else none
  | pending paymentId, ⟨.paymentFailed, named⟩ =>
    if named = some paymentId then some (failed paymentId) else none
  | failed paymentId, ⟨.paymentFailed, named⟩ =>
    if named = some paymentId then some (failed paymentId) else none
  | _, _ => none

/-- Everything that can come after an event. -/
theorem after_eq_some {st st' : Stage} {a : Entry} (h : st.after a = some st') :
    (st = absent ∧ a = ⟨.quoteCreated, none⟩ ∧ st' = created) ∨
      (st = created ∧ a = ⟨.quoteApproved, none⟩ ∧ st' = approved) ∨
      ∃ paymentId,
        (st = approved ∧ a = ⟨.paymentPreferenceCreated, some paymentId⟩ ∧ st' = pending paymentId) ∨
        (st = pending paymentId ∧ a = ⟨.paymentConfirmed, some paymentId⟩ ∧
          st' = confirmed paymentId) ∨
        (st = pending paymentId ∧ a = ⟨.paymentFailed, some paymentId⟩ ∧ st' = failed paymentId) ∨
        (st = failed paymentId ∧ a = ⟨.paymentFailed, some paymentId⟩ ∧ st' = failed paymentId) := by
  unfold after at h
  split at h
  · cases h; exact Or.inl ⟨rfl, rfl, rfl⟩
  · cases h; exact Or.inr (Or.inl ⟨rfl, rfl, rfl⟩)
  · rename_i paymentId
    cases h
    exact Or.inr (Or.inr ⟨paymentId, Or.inl ⟨rfl, rfl, rfl⟩⟩)
  · rename_i paymentId named
    split at h
    · rename_i hnamed
      cases h
      subst hnamed
      exact Or.inr (Or.inr ⟨paymentId, Or.inr (Or.inl ⟨rfl, rfl, rfl⟩)⟩)
    · cases h
  · rename_i paymentId named
    split at h
    · rename_i hnamed
      cases h
      subst hnamed
      exact Or.inr (Or.inr ⟨paymentId, Or.inr (Or.inr (Or.inl ⟨rfl, rfl, rfl⟩))⟩)
    · cases h
  · rename_i paymentId named
    split at h
    · rename_i hnamed
      cases h
      subst hnamed
      exact Or.inr (Or.inr ⟨paymentId, Or.inr (Or.inr (Or.inr ⟨rfl, rfl, rfl⟩))⟩)
    · cases h
  · cases h

/-- The status that the quote then has. -/
def quoteStatus : Stage → Option QuoteStatus
  | absent => none
  | created => some .created
  | _ => some .approved

/-- The payment that there then is, and its status. -/
def payment : Stage → Option (String × PaymentStatus)
  | pending paymentId => some (paymentId, .pending)
  | confirmed paymentId => some (paymentId, .confirmed)
  | failed paymentId => some (paymentId, .failed)
  | _ => none

/-- A request never ends between its two events. -/
def resting : Stage → Bool
  | approved => false
  | _ => true

theorem quoteStatus_eq_none {st : Stage} (h : st.quoteStatus = none) : st = absent := by
  cases st with
  | absent => rfl
  | _ => cases h

theorem quoteStatus_eq_created {st : Stage} (h : st.quoteStatus = some .created) : st = created := by
  cases st with
  | created => rfl
  | _ => cases h

theorem payment_eq_some {st : Stage} {paymentId : String} {s : PaymentStatus}
    (h : st.payment = some (paymentId, s)) :
    (st = pending paymentId ∧ s = .pending) ∨ (st = confirmed paymentId ∧ s = .confirmed) ∨
      (st = failed paymentId ∧ s = .failed) := by
  cases st with
  | pending id => cases h; exact Or.inl ⟨rfl, rfl⟩
  | confirmed id => cases h; exact Or.inr (Or.inl ⟨rfl, rfl⟩)
  | failed id => cases h; exact Or.inr (Or.inr ⟨rfl, rfl⟩)
  | _ => cases h

/-- **Settling a payment is a step of its quote's life.** -/
theorem settles {st : Stage} {p₀ p : Payment} {e : DomainEvent} (h : Settling p₀ p e)
    (hwas : st.payment = some (p₀.paymentId, p₀.status)) :
    ∃ a st', e.reading = some (p.quoteId, a) ∧ st.after a = some st' ∧ st'.resting = true ∧
      st'.quoteStatus = st.quoteStatus ∧ st'.payment = some (p.paymentId, p.status) := by
  obtain ⟨hpid, -, houtcome⟩ := h.outcome
  rw [← hpid] at hwas
  rcases houtcome with ⟨hpending, hs, hreading⟩ | ⟨hne, hs, hreading⟩
  · rcases payment_eq_some hwas with ⟨rfl, -⟩ | ⟨-, hs'⟩ | ⟨-, hs'⟩
    · exact ⟨_, confirmed p.paymentId, hreading, if_pos rfl, rfl, rfl, by rw [hs]; rfl⟩
    · rw [hpending] at hs'; cases hs'
    · rw [hpending] at hs'; cases hs'
  · rcases payment_eq_some hwas with ⟨rfl, -⟩ | ⟨-, hs'⟩ | ⟨rfl, -⟩
    · exact ⟨_, failed p.paymentId, hreading, if_pos rfl, rfl, rfl, by rw [hs]; rfl⟩
    · exact absurd hs' hne
    · exact ⟨_, failed p.paymentId, hreading, if_pos rfl, rfl, rfl, by rw [hs]; rfl⟩

/-! ### Its words -/

/-- The words that lead to a stage. -/
def words : Stage → Language EventType
  | absent => {[]}
  | created => {[.quoteCreated]}
  | approved => {[.quoteCreated, .quoteApproved]}
  | pending _ => {[.quoteCreated, .quoteApproved, .paymentPreferenceCreated]}
  | confirmed _ =>
    {[.quoteCreated, .quoteApproved, .paymentPreferenceCreated, .paymentConfirmed]}
  | failed _ => {word | ∃ n, word = [.quoteCreated, .quoteApproved, .paymentPreferenceCreated] ++
      List.replicate (n + 1) .paymentFailed}

theorem words_after {st st' : Stage} {a : Entry} (h : st.after a = some st') (word : List EventType)
    (hword : word ∈ st.words) : word ++ [a.eventType] ∈ st'.words := by
  rcases after_eq_some h with ⟨rfl, rfl, rfl⟩ | ⟨rfl, rfl, rfl⟩ | ⟨paymentId, ⟨rfl, rfl, rfl⟩ |
    ⟨rfl, rfl, rfl⟩ | ⟨rfl, rfl, rfl⟩ | ⟨rfl, rfl, rfl⟩⟩
  · obtain rfl : word = _ := hword
    exact rfl
  · obtain rfl : word = _ := hword
    exact rfl
  · obtain rfl : word = _ := hword
    exact rfl
  · obtain rfl : word = _ := hword
    exact rfl
  · obtain rfl : word = _ := hword
    exact ⟨0, rfl⟩
  · obtain ⟨n, rfl⟩ := hword
    refine ⟨n + 1, ?_⟩
    rw [List.append_assoc, ← List.replicate_succ']

/-! ### What is read off a word -/

/-- The statuses of the quote and of its payment that a word tells. -/
def readOff (word : List EventType) : Option (QuoteStatus × Option PaymentStatus) :=
  match word.getLast? with
  | some .quoteCreated => some (.created, none)
  | some .paymentPreferenceCreated => some (.approved, some .pending)
  | some .paymentConfirmed => some (.approved, some .confirmed)
  | some .paymentFailed => some (.approved, some .failed)
  | _ => none

theorem readOff_words {st : Stage} (hrest : st.resting = true) {word : List EventType}
    (hword : word ∈ st.words) :
    readOff word = st.quoteStatus.map fun s => (s, st.payment.map Prod.snd) := by
  cases st with
  | approved => cases hrest
  | failed paymentId =>
    obtain ⟨n, rfl⟩ := hword
    rw [readOff, List.replicate_succ', ← List.append_assoc, List.getLast?_concat]
    rfl
  | _ =>
    obtain rfl : word = _ := hword
    rfl

/-- If the entry concerns a payment, it is that of the stage. -/
def Names (st : Stage) (a : Entry) : Prop :=
  a.eventType.ofPayment = true → ∃ paymentId s, st.payment = some (paymentId, s) ∧
    a.paymentId = some paymentId

/-- **All payment events of a quote name its one payment.** -/
theorem names_after {st st' : Stage} {a : Entry} (h : st.after a = some st') {word : List Entry}
    (hword : ∀ b ∈ word, st.Names b) : ∀ b ∈ word ++ [a], st'.Names b := by
  intro b hb hpayment
  rcases List.mem_append.mp hb with hb | hb
  · obtain ⟨paymentId, s, hst, hnamed⟩ := hword b hb hpayment
    rcases after_eq_some h with ⟨rfl, -, -⟩ | ⟨rfl, -, -⟩ | ⟨id, ⟨rfl, -, -⟩ | ⟨rfl, -, rfl⟩ |
      ⟨rfl, -, rfl⟩ | ⟨rfl, -, rfl⟩⟩
    · cases hst
    · cases hst
    · cases hst
    · cases hst; exact ⟨_, _, rfl, hnamed⟩
    · cases hst; exact ⟨_, _, rfl, hnamed⟩
    · cases hst; exact ⟨_, _, rfl, hnamed⟩
  · obtain rfl := List.mem_singleton.mp hb
    rcases after_eq_some h with ⟨-, rfl, -⟩ | ⟨-, rfl, -⟩ | ⟨id, ⟨-, rfl, rfl⟩ | ⟨-, rfl, rfl⟩ |
      ⟨-, rfl, rfl⟩ | ⟨-, rfl, rfl⟩⟩
    · cases hpayment
    · cases hpayment
    · exact ⟨_, _, rfl, rfl⟩
    · exact ⟨_, _, rfl, rfl⟩
    · exact ⟨_, _, rfl, rfl⟩
    · exact ⟨_, _, rfl, rfl⟩

end Stage

/-- `P?`. -/
def optional (P : RegularExpression EventType) : RegularExpression EventType := 1 + P

/-- `P+`. -/
def atLeastOnce (P : RegularExpression EventType) : RegularExpression EventType := P * P.star

/-- `QUOTE_CREATED (QUOTE_APPROVED PAYMENT_PREFERENCE_CREATED (PAYMENT_CONFIRMED | PAYMENT_FAILED+)?)?` -/
def lifecycle : RegularExpression EventType :=
  char .quoteCreated * optional (char .quoteApproved * char .paymentPreferenceCreated *
    optional (char .paymentConfirmed + atLeastOnce (char .paymentFailed)))

theorem nil_mem_optional (P : RegularExpression EventType) : [] ∈ (optional P).matches' :=
  Or.inl rfl

theorem mem_optional {P : RegularExpression EventType} {word : List EventType}
    (h : word ∈ P.matches') : word ∈ (optional P).matches' := Or.inr h

theorem cons_mem_char_mul {a : EventType} {P : RegularExpression EventType} {word : List EventType}
    (h : word ∈ P.matches') : a :: word ∈ (char a * P).matches' :=
  Language.mem_mul.mpr ⟨[a], rfl, word, h, rfl⟩

theorem replicate_mem_atLeastOnce (a : EventType) (n : Nat) :
    List.replicate (n + 1) a ∈ (atLeastOnce (char a)).matches' := by
  refine cons_mem_char_mul (Language.mem_kstar.mpr ⟨List.replicate n [a], ?_, ?_⟩)
  · rw [List.flatten_replicate_singleton]
  · intro y hy
    rw [List.eq_of_mem_replicate hy]
    exact rfl

/-- **The words of the resting stages are those of the life cycle.** -/
theorem Stage.words_lifecycle {st : Stage} (hrest : st.resting = true) (hne : st ≠ .absent)
    {word : List EventType} (hword : word ∈ st.words) : word ∈ lifecycle.matches' := by
  -- the words of an approved quote: its two events and what comes after them
  have happroved : ∀ tail ∈ (optional (char .paymentConfirmed +
      atLeastOnce (char .paymentFailed))).matches',
      .quoteCreated :: .quoteApproved :: .paymentPreferenceCreated :: tail ∈ lifecycle.matches' := by
    intro tail htail
    refine cons_mem_char_mul (mem_optional ?_)
    exact Language.mem_mul.mpr ⟨[.quoteApproved, .paymentPreferenceCreated],
      cons_mem_char_mul rfl, tail, htail, rfl⟩
  cases st with
  | absent => exact absurd rfl hne
  | approved => cases hrest
  | created =>
    obtain rfl : word = _ := hword
    exact cons_mem_char_mul (nil_mem_optional _)
  | pending paymentId =>
    obtain rfl : word = _ := hword
    exact happroved [] (nil_mem_optional _)
  | confirmed paymentId =>
    obtain rfl : word = _ := hword
    exact happroved [.paymentConfirmed] (mem_optional (Or.inl rfl))
  | failed paymentId =>
    obtain ⟨n, rfl⟩ := hword
    exact happroved _ (mem_optional (Or.inr (replicate_mem_atLeastOnce _ n)))

/-! ## The tables, seen from a quote -/

/-- The quote is stored with this status. -/
def Database.QuoteAt (db : Database) (quoteId : String) (s : QuoteStatus) : Prop :=
  ∃ q, db.HasQuote q ∧ q.quoteId = quoteId ∧ q.status = s

/-- A payment of the quote is stored with this status. -/
def Database.PaymentAt (db : Database) (quoteId paymentId : String) (s : PaymentStatus) : Prop :=
  ∃ p, db.HasPayment p ∧ p.quoteId = quoteId ∧ p.paymentId = paymentId ∧ p.status = s

section Views

variable {db db' : Database} {quoteId paymentId : String}

theorem Database.Same.quoteAt (h : db.Same db') {s : QuoteStatus} :
    db'.QuoteAt quoteId s ↔ db.QuoteAt quoteId s :=
  exists_congr fun _ => and_congr_left' h.hasQuote

theorem Database.Same.paymentAt (h : db.Same db') {s : PaymentStatus} :
    db'.PaymentAt quoteId paymentId s ↔ db.PaymentAt quoteId paymentId s :=
  exists_congr fun _ => and_congr_left' h.hasPayment

variable [Python]

theorem Database.quoteAt_save {q : Quote} {s : QuoteStatus} :
    (SqlAlchemyQuoteRepository.save db q).QuoteAt quoteId s ↔
      if q.quoteId = quoteId then q.status = s else db.QuoteAt quoteId s := by
  by_cases hid : q.quoteId = quoteId
  · rw [if_pos hid]
    constructor
    · rintro ⟨q', hq', hid', hs⟩
      rcases Database.hasQuote_save.mp hq' with rfl | ⟨hne, -⟩
      · exact hs
      · exact absurd (hid'.trans hid.symm) hne
    · intro hs
      exact ⟨q, Database.hasQuote_save.mpr (Or.inl rfl), hid, hs⟩
  · rw [if_neg hid]
    constructor
    · rintro ⟨q', hq', hid', hs⟩
      rcases Database.hasQuote_save.mp hq' with rfl | ⟨-, hq'⟩
      · exact absurd hid' hid
      · exact ⟨q', hq', hid', hs⟩
    · rintro ⟨q', hq', hid', hs⟩
      have hne : q'.quoteId ≠ q.quoteId := fun h => hid (h.symm.trans hid')
      exact ⟨q', Database.hasQuote_save.mpr (Or.inr ⟨hne, hq'⟩), hid', hs⟩

/-- A payment is saved that is new, or replaces one of the same quote. -/
theorem Database.paymentAt_save {p : Payment} {s : PaymentStatus}
    (hsame : ∀ p', db.HasPayment p' → p'.paymentId = p.paymentId → p'.quoteId = p.quoteId) :
    (SqlAlchemyPaymentRepository.save db p).PaymentAt quoteId paymentId s ↔
      if p.quoteId = quoteId ∧ p.paymentId = paymentId then p.status = s
      else db.PaymentAt quoteId paymentId s := by
  by_cases hid : p.quoteId = quoteId ∧ p.paymentId = paymentId
  · rw [if_pos hid]
    constructor
    · rintro ⟨p', hp', -, hid', hs⟩
      rcases Database.hasPayment_save.mp hp' with rfl | ⟨hne, -⟩
      · exact hs
      · exact absurd (hid'.trans hid.2.symm) hne
    · intro hs
      exact ⟨p, Database.hasPayment_save.mpr (Or.inl rfl), hid.1, hid.2, hs⟩
  · rw [if_neg hid]
    constructor
    · rintro ⟨p', hp', hq, hid', hs⟩
      rcases Database.hasPayment_save.mp hp' with rfl | ⟨-, hp'⟩
      · exact absurd ⟨hq, hid'⟩ hid
      · exact ⟨p', hp', hq, hid', hs⟩
    · rintro ⟨p', hp', hq, hid', hs⟩
      have hne : p'.paymentId ≠ p.paymentId := fun h =>
        hid ⟨(hsame p' hp' h).symm.trans hq, h.symm.trans hid'⟩
      exact ⟨p', Database.hasPayment_save.mpr (Or.inr ⟨hne, hp'⟩), hq, hid', hs⟩

end Views

/-! ## The invariant -/

section Told

variable [Python] {d : Deployment}

/-- The log leads to the stage, and the tables hold what it says. -/
structure World.At (w : World sql) (quoteId : String) (st : Stage) : Prop where
  replayed : replay Stage.after .absent (w.journal quoteId) = some st
  resting : st.resting = true
  quote : ∀ s, w.store.QuoteAt quoteId s ↔ st.quoteStatus = some s
  payment : ∀ paymentId s, w.store.PaymentAt quoteId paymentId s ↔ st.payment = some (paymentId, s)

/-- **The invariant of the log.** -/
structure Told (w : World sql) : Prop where
  quoteIds : ∀ q, w.store.HasQuote q → q.quoteId ∈ w.issued
  paymentIds : ∀ p, w.store.HasPayment p → p.paymentId ∈ w.issued
  stages : ∀ quoteId, ∃ st, w.At quoteId st

theorem told_empty : Told (World.empty sql) where
  quoteIds := fun _ hq => by cases hq
  paymentIds := fun _ hp => by cases hp
  stages := fun quoteId => ⟨.absent, rfl, rfl,
    (fun s => ⟨(fun ⟨_, hq, _⟩ => by cases hq), fun h => by cases h⟩),
    fun paymentId s => ⟨(fun ⟨_, hp, _⟩ => by cases hp), fun h => by cases h⟩⟩

variable {w w' : World sql} {quoteId : String} {st st' : Stage}

/-- Nothing that concerns the quote has changed. -/
theorem World.At.frame (h : w.At quoteId st) (hjournal : w'.journal quoteId = w.journal quoteId)
    (hquote : ∀ s, w'.store.QuoteAt quoteId s ↔ w.store.QuoteAt quoteId s)
    (hpayment : ∀ paymentId s,
      w'.store.PaymentAt quoteId paymentId s ↔ w.store.PaymentAt quoteId paymentId s) :
    w'.At quoteId st where
  replayed := hjournal ▸ h.replayed
  resting := h.resting
  quote := fun s => (hquote s).trans (h.quote s)
  payment := fun paymentId s => (hpayment paymentId s).trans (h.payment paymentId s)

/-- The stage of a stored quote that can be approved. -/
theorem World.At.created (h : w.At quoteId st) {q : Quote} (hq : w.store.HasQuote q)
    (hid : q.quoteId = quoteId) (hs : q.status = .created) : st = .created :=
  Stage.quoteStatus_eq_created ((h.quote .created).mp ⟨q, hq, hid, hs⟩)

/-- The stage of a quote that is not stored. -/
theorem World.At.absent (h : w.At quoteId st) (hno : ∀ q, w.store.HasQuote q → q.quoteId ≠ quoteId) :
    st = .absent := by
  cases hs : st.quoteStatus with
  | none => exact Stage.quoteStatus_eq_none hs
  | some s =>
    obtain ⟨q, hq, hid, -⟩ := (h.quote s).mpr hs
    exact absurd hid (hno q hq)

/-! ### What a request does -/

variable {req : Request}

/-- A new quote goes from nothing to `CREATED`. -/
theorem Told.creates (h : Told w) {q : Quote} {stamp : Stamp} (hnew : q.quoteId ∉ w.issued)
    (hcreated : q.status = .created)
    (hstore : (SqlAlchemyQuoteRepository.save w.store q).Same w'.store)
    (haccepted : w'.accepted = w.accepted ++ [q.createdEvent stamp]) (quoteId : String) :
    ∃ st, w'.At quoteId st := by
  obtain ⟨st, hst⟩ := h.stages quoteId
  have hquote : ∀ s, w'.store.QuoteAt quoteId s ↔
      if q.quoteId = quoteId then q.status = s else w.store.QuoteAt quoteId s := fun s =>
    hstore.quoteAt.trans Database.quoteAt_save
  have hpayment : ∀ paymentId s,
      w'.store.PaymentAt quoteId paymentId s ↔ w.store.PaymentAt quoteId paymentId s :=
    fun _ _ => hstore.paymentAt
  by_cases hid : q.quoteId = quoteId
  · subst hid
    obtain rfl : st = .absent := hst.absent fun q' hq' hid' => hnew (hid' ▸ h.quoteIds q' hq')
    refine ⟨.created, ?_, rfl, fun s => ?_, fun paymentId s => ?_⟩
    · rw [World.journal, haccepted, journal_own (q.createdEvent_reading stamp)]
      exact replay_concat hst.replayed rfl
    · rw [hquote, if_pos rfl, hcreated]
      exact Option.some_inj.symm
    · exact (hpayment paymentId s).trans (hst.payment paymentId s)
  · refine ⟨st, hst.frame ?_ (fun s => ?_) hpayment⟩
    · rw [World.journal, haccepted, journal_other (q.createdEvent_reading stamp) hid]
      rfl
    · rw [hquote, if_neg hid]

/-- An approved quote goes from `CREATED` to `APPROVED` with a pending payment. -/
theorem Told.approves (h : Told w) {q : Quote} {p : Payment} {paymentId : String}
    {preference : PaymentPreference} {stamp stamp' : Stamp} (hstored : w.store.HasQuote q)
    (hcreated : q.status = .created) (hp : p = q.opened paymentId preference)
    (hnew : paymentId ∉ w.issued)
    (hstore : (SqlAlchemyPaymentRepository.save
      (SqlAlchemyQuoteRepository.save w.store q.asApproved) p).Same w'.store)
    (haccepted : w'.accepted = w.accepted ++ [q.approvedEvent stamp] ++
      [p.openedEvent preference.preferenceId stamp']) (quoteId : String) :
    ∃ st, w'.At quoteId st := by
  obtain ⟨st, hst⟩ := h.stages quoteId
  have hquoteId : p.quoteId = q.quoteId := by rw [hp]; rfl
  have hpaymentId : p.paymentId = paymentId := by rw [hp]; rfl
  have hstatus : p.status = .pending := by rw [hp]; rfl
  -- the id of the payment is new, so it replaces nothing
  have hquote : ∀ s, w'.store.QuoteAt quoteId s ↔
      if q.quoteId = quoteId then .approved = s else w.store.QuoteAt quoteId s := fun s =>
    hstore.quoteAt.trans Database.quoteAt_save
  have hpayment : ∀ id s, w'.store.PaymentAt quoteId id s ↔
      if p.quoteId = quoteId ∧ p.paymentId = id then p.status = s
      else w.store.PaymentAt quoteId id s := by
    intro id s
    refine hstore.paymentAt.trans (Database.paymentAt_save fun p' hp' hid => ?_)
    exact absurd (hid ▸ h.paymentIds p' hp') (hpaymentId ▸ hnew)
  have hopened := p.openedEvent_reading preference.preferenceId stamp'
  by_cases hid : q.quoteId = quoteId
  · obtain rfl := hst.created hstored hid hcreated
    refine ⟨.pending paymentId, ?_, rfl, fun s => ?_, fun id s => ?_⟩
    · rw [hquoteId, hid, hpaymentId] at hopened
      have happroved := q.approvedEvent_reading stamp
      rw [hid] at happroved
      rw [World.journal, haccepted, journal_own hopened, journal_own happroved]
      exact replay_concat (replay_concat hst.replayed rfl) rfl
    · rw [hquote, if_pos hid]
      exact Option.some_inj.symm
    · rw [hpayment, hquoteId, hpaymentId, hstatus]
      have hno : ¬ w.store.PaymentAt quoteId id s := fun hat => by
        cases (hst.payment id s).mp hat
      by_cases hpid : paymentId = id
      · rw [if_pos ⟨hid, hpid⟩, hpid]
        constructor
        · rintro rfl; rfl
        · intro heq; exact (Prod.mk.inj (Option.some.inj heq)).2
      · rw [if_neg fun hc => hpid hc.2]
        constructor
        · intro hat; exact absurd hat hno
        · intro heq; exact absurd (Prod.mk.inj (Option.some.inj heq)).1 hpid
  · refine ⟨st, hst.frame ?_ (fun s => ?_) fun id s => ?_⟩
    · rw [World.journal, haccepted, journal_other hopened (hquoteId ▸ hid),
        journal_other (q.approvedEvent_reading stamp) hid]
      rfl
    · rw [hquote, if_neg hid]
    · rw [hpayment, if_neg fun hc => hid (hquoteId ▸ hc.1)]

/-- A settled payment goes on to its outcome. -/
theorem Told.settles (h : Told w) {p₀ p : Payment} {e : DomainEvent} (hstored : w.store.HasPayment p₀)
    (hsettled : Settling p₀ p e) (hstore : (SqlAlchemyPaymentRepository.save w.store p).Same w'.store)
    (haccepted : w'.accepted = w.accepted ++ [e]) (quoteId : String) : ∃ st, w'.At quoteId st := by
  obtain ⟨st, hst⟩ := h.stages quoteId
  obtain ⟨hpid, hqid, houtcome⟩ := hsettled.outcome
  have hquote : ∀ s, w'.store.QuoteAt quoteId s ↔ w.store.QuoteAt quoteId s := fun _ => hstore.quoteAt
  have hpayment : ∀ id s, w'.store.PaymentAt quoteId id s ↔
      if p.quoteId = quoteId ∧ p.paymentId = id then p.status = s
      else w.store.PaymentAt quoteId id s := by
    intro id s
    refine hstore.paymentAt.trans (Database.paymentAt_save fun p' hp' hid => ?_)
    rw [hp'.unique hstored (hid.trans hpid), hqid]
  by_cases hid : p.quoteId = quoteId
  · subst hid
    have hwas := (hst.payment p₀.paymentId p₀.status).mp ⟨p₀, hstored, hqid.symm, rfl, rfl⟩
    obtain ⟨a, st', hreading, hafter, hrest, hqs, hps⟩ := Stage.settles hsettled hwas
    rw [← hpid] at hwas
    refine ⟨st', ?_, hrest, fun s => ?_, fun id s => ?_⟩
    · rw [World.journal, haccepted, journal_own hreading]
      exact replay_concat hst.replayed hafter
    · rw [hqs]
      exact (hquote s).trans (hst.quote s)
    · rw [hpayment, hps]
      by_cases hpid' : p.paymentId = id
      · rw [if_pos ⟨rfl, hpid'⟩, hpid']
        constructor
        · rintro rfl; rfl
        · intro heq; exact (Prod.mk.inj (Option.some.inj heq)).2
      · rw [if_neg fun hc => hpid' hc.2, hst.payment id s, hwas]
        constructor
        · intro heq; exact absurd (Prod.mk.inj (Option.some.inj heq)).1 hpid'
        · intro heq; exact absurd (Prod.mk.inj (Option.some.inj heq)).1 hpid'
  · have hreading : ∃ a, e.reading = some (p.quoteId, a) := by
      rcases houtcome with ⟨-, -, hreading⟩ | ⟨-, -, hreading⟩
      · exact ⟨_, hreading⟩
      · exact ⟨_, hreading⟩
    obtain ⟨a, hreading⟩ := hreading
    refine ⟨st, hst.frame ?_ hquote fun id s => ?_⟩
    · rw [World.journal, haccepted, journal_other hreading hid]
      rfl
    · rw [hpayment, if_neg fun hc => hid hc.1]

/-- **Every request keeps the log and the tables in step.** -/
theorem Told.next (h : Told w) (hfresh : req.supply.Fresh w.issued)
    (hissued : w'.issued = req.supply.ids ++ w.issued) (heff : Effect req w w') : Told w' := by
  have hquoteId : req.supply.quoteId ∈ req.supply.ids := by simp [Supply.ids]
  have hpaymentId : req.supply.paymentId ∈ req.supply.ids := by simp [Supply.ids]
  have hold : ∀ {id}, id ∈ w.issued → id ∈ w'.issued := fun hid => by
    rw [hissued]; exact List.mem_append_right _ hid
  have hnew : ∀ {id}, id ∈ req.supply.ids → id ∈ w'.issued := fun hid => by
    rw [hissued]; exact List.mem_append_left _ hid
  cases heff with
  | nothing store accepted =>
    refine ⟨fun q hq => hold (h.quoteIds q (store.hasQuote.mp hq)),
      fun p hp => hold (h.paymentIds p (store.hasPayment.mp hp)), fun quoteId => ?_⟩
    obtain ⟨st, hst⟩ := h.stages quoteId
    refine ⟨st, hst.frame ?_ (fun _ => store.quoteAt) fun _ _ => store.paymentAt⟩
    rw [World.journal, accepted]
    rfl
  | creates q fresh created store accepted =>
    have hq : q.quoteId ∉ w.issued := fresh ▸ hfresh.2 _ hquoteId
    refine ⟨fun q' hq' => ?_, fun p hp => hold (h.paymentIds p (store.hasPayment.mp hp)),
      h.creates hq created store accepted⟩
    rcases Database.hasQuote_save.mp (store.hasQuote.mp hq') with rfl | ⟨-, hq'⟩
    · exact hnew (fresh ▸ hquoteId)
    · exact hold (h.quoteIds q' hq')
  | approves q p preference stored created opened store accepted =>
    refine ⟨fun q' hq' => ?_, fun p' hp' => ?_,
      h.approves stored created opened (hfresh.2 _ hpaymentId) store accepted⟩
    · rcases Database.hasQuote_save.mp (store.hasQuote.mp hq') with rfl | ⟨-, hq'⟩
      · exact hold (h.quoteIds q stored)
      · exact hold (h.quoteIds q' hq')
    · rcases Database.hasPayment_save.mp (store.hasPayment.mp hp') with rfl | ⟨-, hp'⟩
      · rw [opened]; exact hnew hpaymentId
      · exact hold (h.paymentIds p' hp')
  | settles p₀ p e stored settled again store accepted =>
    refine ⟨fun q hq => hold (h.quoteIds q (store.hasQuote.mp hq)), fun p' hp' => ?_,
      h.settles stored settled store accepted⟩
    rcases Database.hasPayment_save.mp (store.hasPayment.mp hp') with rfl | ⟨-, hp'⟩
    · rw [settled.outcome.1]; exact hold (h.paymentIds p₀ stored)
    · exact hold (h.paymentIds p' hp')

/-- The invariant holds whenever no request is being served. -/
theorem told {c : Config (system sql d)} (H : Runs orderly (start sql d) c)
    (hrest : c.atRest = true) : Told c.state := by
  refine H.at_rest (P := fun _ _ => True) (fun _ _ ha => ha) (fun _ _ _ => trivial) rfl told_empty
    (fun w w' h hserves => ?_) hrest
  obtain ⟨req, -, hfresh, hissued, heff⟩ := serves_effect hserves
  exact h.next hfresh hissued heff

/-- **The event log determines the state.**  Whenever no request is being served, the accepted events
    that name a stored quote are a word of `lifecycle`, all payment events in it name one payment, and
    the tables hold the statuses that are read off the word and nothing else. -/
theorem log_determines_state {c : Config (system sql d)}
    (H : Runs orderly (start sql d) c) (hrest : c.atRest = true) {q : Quote}
    (hq : c.state.store.HasQuote q) :
    (c.state.journal q.quoteId).map Entry.eventType ∈ lifecycle.matches' ∧
    ∃ paymentId payment,
      (∀ a ∈ c.state.journal q.quoteId, a.eventType.ofPayment = true →
        a.paymentId = some paymentId) ∧
      Stage.readOff ((c.state.journal q.quoteId).map Entry.eventType) = some (q.status, payment) ∧
      ∀ id s, c.state.store.PaymentAt q.quoteId id s ↔ id = paymentId ∧ payment = some s := by
  obtain ⟨st, hst⟩ := (told H hrest).stages q.quoteId
  have hstatus : st.quoteStatus = some q.status := (hst.quote q.status).mp ⟨q, hq, rfl, rfl⟩
  have hne : st ≠ .absent := by
    rintro rfl
    cases hstatus
  have hword := replay_mem (L := Stage.words) (f := Entry.eventType)
    (show [] ∈ Stage.words .absent from rfl) (fun _ _ _ ha => Stage.words_after ha) hst.replayed
  have hnames := replay_invariant (I := fun word st => ∀ a ∈ word, Stage.Names st a)
    (fun _ ha => absurd ha List.not_mem_nil) (fun _ _ _ _ hI ha => Stage.names_after ha hI)
    hst.replayed
  have hread := Stage.readOff_words hst.resting hword
  rw [hstatus] at hread
  refine ⟨Stage.words_lifecycle hst.resting hne hword, ?_⟩
  cases hpayment : st.payment with
  | none =>
    rw [hpayment] at hread
    refine ⟨"", none, fun a ha hof => ?_, hread, fun id s => ?_⟩
    · obtain ⟨_, _, hsome, _⟩ := hnames a ha hof
      rw [hpayment] at hsome
      cases hsome
    · rw [hst.payment, hpayment]
      exact ⟨(fun h => by cases h), fun h => by cases h.2⟩
  | some x =>
    obtain ⟨paymentId, s₀⟩ := x
    rw [hpayment] at hread
    refine ⟨paymentId, some s₀, fun a ha hof => ?_, hread, fun id s => ?_⟩
    · obtain ⟨_, _, hsome, hnamed⟩ := hnames a ha hof
      rw [hpayment] at hsome
      cases hsome
      exact hnamed
    · rw [hst.payment, hpayment]
      constructor
      · rintro ⟨⟩; exact ⟨rfl, rfl⟩
      · rintro ⟨rfl, ⟨⟩⟩; rfl

end Told

section Samples

open Sample

/-- A quote is approved, and its payment fails twice. -/
def Sample.failedTwice : List (Action (system sql mock)) :=
  [create "1" "os-1"] ++ go 0 2 ++ [ask "2" (.approveQuote "quote-1")] ++ go 1 7 ++
    [ask "3" (.failPayment "payment-2" "card refused")] ++ go 2 4 ++
    [ask "4" (.failPayment "payment-2" "card refused")] ++ go 3 4

theorem log_determines_state_failed_twice :
    ∃ (w : World sql) (q : Quote), w.store.HasQuote q ∧
      (w.journal q.quoteId).map Entry.eventType =
        [.quoteCreated, .quoteApproved, .paymentPreferenceCreated, .paymentFailed, .paymentFailed] ∧
      (w.journal q.quoteId).map Entry.eventType ∈ lifecycle.matches' := by
  have hplay : ((start sql mock).play orderly failedTwice).map (fun c =>
      (c.atRest, c.state.journal "quote-1",
        (SqlAlchemyQuoteRepository.get c.state.store "quote-1").map Quote.status)) =
      some (true, [⟨.quoteCreated, none⟩, ⟨.quoteApproved, none⟩,
        ⟨.paymentPreferenceCreated, some "payment-2"⟩, ⟨.paymentFailed, some "payment-2"⟩,
        ⟨.paymentFailed, some "payment-2"⟩], .ok .approved) := by decide +kernel
  obtain ⟨c, hc, hstate⟩ := Option.map_eq_some_iff.mp hplay
  obtain ⟨hrest, hrest'⟩ := Prod.mk.inj hstate
  obtain ⟨hjournal, hget⟩ := Prod.mk.inj hrest'
  obtain ⟨q, hq, hid, -⟩ := Database.quote_get_map_eq_ok.mp hget
  refine ⟨c.state, q, hq, ?_, (log_determines_state (Config.play_runs hc) hrest hq).1⟩
  rw [hid, hjournal]
  rfl

end Samples

end Billing

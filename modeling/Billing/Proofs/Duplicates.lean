/-
  Messages that are handled one after the other.

  `handleAll` hands a list of messages to the handler in turn, with every step going through; a message
  whose handling raises is skipped.  `Contributions` is the invariant of that fold: which event gave
  which quote and which `QUOTE_CREATED`.  It says all there is to say about the stores, so what they
  hold depends on the messages only as a set (`contents_perm`): neither the order nor repetitions
  matter, as long as messages with one `event_id` read the same.
-/
import Billing.Proofs.Alone
import Billing.Proofs.Announcements
import Billing.Infrastructure.Messaging
import Mathlib.Data.Set.Card

namespace Billing

open Py Atomic Program

section Fold

variable [Python]

/-! ## Both stores seen alike -/

/-- The quotes of a store. -/
def RuntimeMode.quotes : (mode : RuntimeMode) → mode.backend.Store → List Quote
  | .real, db => (Database.quotes db).rows.filterMap fun row => row.toQuote.toOption
  | .memory, m => (Memory.quotes m).rows

/-- The quotes of a database. -/
theorem Database.quotes_save {db : Database} {q : Quote}
    (hnew : ∀ q' ∈ RuntimeMode.real.quotes db, q'.quoteId ≠ q.quoteId) :
    RuntimeMode.real.quotes (SqlAlchemyQuoteRepository.save db q) =
      RuntimeMode.real.quotes db ++ [q] := by
  have hread : ∀ q : Quote, (QuoteRow.ofQuote q).toQuote.toOption = some q := by
    intro q
    rw [QuoteRow.toQuote_ofQuote]
    rfl
  have hrows : (db.quotes.upsert (.ofQuote q)).rows = db.quotes.rows ++ [.ofQuote q] := by
    refine Keyed.Table.rows_upsert_of_new fun row hmem => ?_
    obtain ⟨q', rfl, -⟩ := Database.hasQuote_of_mem hmem
    exact hnew q' (List.mem_filterMap.mpr ⟨_, hmem, hread q'⟩)
  show (db.quotes.upsert (.ofQuote q)).rows.filterMap _ = _
  rw [hrows, List.filterMap_append]
  refine congrArg _ ?_
  simp only [List.filterMap_cons, hread, List.filterMap_nil]

/-- The first save of a quote adds it. -/
theorem RuntimeMode.quotes_save (mode : RuntimeMode) {store : mode.backend.Store} {q : Quote}
    (hnew : ∀ q' ∈ mode.quotes store, q'.quoteId ≠ q.quoteId) :
    mode.quotes (mode.backend.quoteSave store q) = mode.quotes store ++ [q] := by
  cases mode with
  | real => exact Database.quotes_save hnew
  | memory => exact Keyed.Table.rows_upsert_of_new hnew

theorem RuntimeMode.quotes_mark (mode : RuntimeMode) {store : mode.backend.Store} {i t c : String} :
    mode.quotes (mode.backend.markProcessed store i t c) = mode.quotes store := by
  cases mode with
  | real =>
    have hquotes := (Database.same_markProcessed store i t c).1
    exact congrArg (fun t : Keyed.Table _ _ _ => t.rows.filterMap fun row => row.toQuote.toOption)
      hquotes
  | memory => rfl

theorem RuntimeMode.isProcessed_save (mode : RuntimeMode) {store : mode.backend.Store} {q : Quote}
    {id : String} : mode.backend.isProcessed (mode.backend.quoteSave store q) id =
      mode.backend.isProcessed store id := by
  cases mode with
  | real => rfl
  | memory => rfl

/-- A mark is of its own event, in both stores. -/
theorem RuntimeMode.isProcessed_mark (mode : RuntimeMode) {store : mode.backend.Store}
    {i t c id : String} :
    mode.backend.isProcessed (mode.backend.markProcessed store i t c) id = true ↔
      i = id ∨ mode.backend.isProcessed store id = true := by
  cases mode with
  | real => exact isProcessed_markProcessed
  | memory =>
    show decide (id ∈ (Memory.processedEvents store).insert i) = true ↔
      i = id ∨ decide (id ∈ Memory.processedEvents store) = true
    rw [decide_eq_true_eq, decide_eq_true_eq, List.mem_insert_iff, eq_comm]

/-! ## The fold -/

/-- The world after the messages were handled one after the other; the `n`-th one draws its ids from
    the stream. -/
def handleAll (mode : RuntimeMode) (handler : BillingIntegrationEventHandler) (ids : IdStream)
    (messages : List EventMessage) : World mode.backend :=
  messages.zipIdx.foldl (fun w (m, n) => (w.run noAnswers (handler.handle m (ids.supply n))).2)
    (World.empty mode.backend)

theorem handleAll_concat (mode : RuntimeMode) (handler : BillingIntegrationEventHandler)
    (ids : IdStream) (messages : List EventMessage) (m : EventMessage) :
    handleAll mode handler ids (messages ++ [m]) = (handler.outcome m (ids.supply messages.length)
      (handleAll mode handler ids messages)).2 := by
  unfold handleAll
  rw [List.zipIdx_append, List.foldl_append, Nat.zero_add]
  show (World.run noAnswers (handler.handle m (ids.supply messages.length)) _).2 = _
  rw [run_handle]

/-! ## What each event contributed -/

/-- What an event has led to. -/
structure Contribution where
  /-- The `event_id`. -/
  eventId : String
  /-- The quote. -/
  quote : Quote
  /-- Its `QUOTE_CREATED`. -/
  event : DomainEvent

/-- The world holds exactly the quotes and events that the well-formed messages led to: one of each for
    every `event_id`. -/
structure Contributions (mode : RuntimeMode) (handler : BillingIntegrationEventHandler)
    (ids : IdStream) (messages : List EventMessage) (w : World mode.backend)
    (made : List Contribution) : Prop where
  nodup : (made.map Contribution.eventId).Nodup
  eventIds : ∀ id, id ∈ made.map Contribution.eventId ↔
    ∃ m ∈ messages, WellFormed handler m ∧ m.eventId = id
  opened : ∀ x ∈ made, ∃ m ∈ messages, ∃ n < messages.length, m.eventId = x.eventId ∧
    m.eventType = "OS_OPENED" ∧ handler.opening m (ids.supply n) = .ok (x.quote, x.event)
  quotes : mode.quotes w.store = made.map Contribution.quote
  accepted : w.accepted = made.map Contribution.event
  processed : ∀ id, mode.backend.isProcessed w.store id = true ↔ id ∈ made.map Contribution.eventId

variable {mode : RuntimeMode} {handler : BillingIntegrationEventHandler} {ids : IdStream}
  {messages : List EventMessage} {w : World mode.backend} {made : List Contribution}

/-- A message that adds nothing. -/
theorem Contributions.pass (h : Contributions mode handler ids messages w made) {m : EventMessage}
    (hold : WellFormed handler m → m.eventId ∈ made.map Contribution.eventId) :
    Contributions mode handler ids (messages ++ [m]) w made where
  nodup := h.nodup
  eventIds := by
    intro id
    rw [h.eventIds]
    constructor
    · rintro ⟨m', hm', hwf, hid⟩
      exact ⟨m', List.mem_append_left _ hm', hwf, hid⟩
    · rintro ⟨m', hm', hwf, hid⟩
      rcases List.mem_append.mp hm' with hm' | hm'
      · exact ⟨m', hm', hwf, hid⟩
      · obtain rfl := List.mem_singleton.mp hm'
        exact (h.eventIds id).mp (hid ▸ hold hwf)
  opened := by
    intro x hx
    obtain ⟨m', hm', n, hn, hrest⟩ := h.opened x hx
    have hlen : (messages ++ [m]).length = messages.length + 1 := by simp
    exact ⟨m', List.mem_append_left _ hm', n, by omega, hrest⟩
  quotes := h.quotes
  accepted := h.accepted
  processed := h.processed

/-- **A message that leads to a quote.** -/
theorem Contributions.open (h : Contributions mode handler ids messages w made) {m : EventMessage}
    {q : Quote} {e : DomainEvent} (hnew : m.eventId ∉ made.map Contribution.eventId)
    (htype : m.eventType = "OS_OPENED")
    (hopening : handler.opening m (ids.supply messages.length) = .ok (q, e)) :
    Contributions mode handler ids (messages ++ [m])
      { w.opened q e with
        store := mode.backend.markProcessed (w.opened q e).store m.eventId m.eventType
          m.correlationId } (made ++ [⟨m.eventId, q, e⟩]) := by
  have hlen : (messages ++ [m]).length = messages.length + 1 := by simp
  have hquoteId : ∀ {m' n x y}, handler.opening m' (ids.supply n) = .ok (x, y) →
      x.quoteId = (ids.supply n).quoteId := by
    intro m' n x y hopening
    obtain ⟨command, -, hopening⟩ := BillingIntegrationEventHandler.opening_eq_ok hopening
    exact (CreateQuoteUseCase.opening_eq_ok hopening).1
  constructor
  · rw [List.map_append, List.nodup_append]
    refine ⟨h.nodup, List.nodup_singleton _, ?_⟩
    rintro id hid id' hid' rfl
    obtain rfl := List.mem_singleton.mp hid'
    exact hnew hid
  · intro id
    rw [List.map_append, List.mem_append, h.eventIds]
    constructor
    · rintro (⟨m', hm', hwf, hid⟩ | hid)
      · exact ⟨m', List.mem_append_left _ hm', hwf, hid⟩
      · exact ⟨m, List.mem_append_right _ List.mem_cons_self, .of_opening htype hopening,
          (List.mem_singleton.mp hid).symm⟩
    · rintro ⟨m', hm', hwf, hid⟩
      rcases List.mem_append.mp hm' with hm' | hm'
      · exact Or.inl ⟨m', hm', hwf, hid⟩
      · obtain rfl := List.mem_singleton.mp hm'
        exact Or.inr (List.mem_singleton.mpr hid.symm)
  · intro x hx
    rcases List.mem_append.mp hx with hx | hx
    · obtain ⟨m', hm', n, hn, hrest⟩ := h.opened x hx
      exact ⟨m', List.mem_append_left _ hm', n, by omega, hrest⟩
    · obtain rfl := List.mem_singleton.mp hx
      exact ⟨m, List.mem_append_right _ List.mem_cons_self, messages.length, by omega, rfl, htype,
        hopening⟩
  · show mode.quotes (mode.backend.markProcessed (mode.backend.quoteSave w.store q) _ _ _) = _
    rw [RuntimeMode.quotes_mark, RuntimeMode.quotes_save, h.quotes, List.map_append]
    · rfl
    · -- its id is fresh
      intro q' hq' hsame
      rw [h.quotes] at hq'
      obtain ⟨x, hx, rfl⟩ := List.mem_map.mp hq'
      obtain ⟨m', -, n, hn, -, -, hopening'⟩ := h.opened x hx
      rw [hquoteId hopening', hquoteId hopening] at hsame
      have hmem : ∀ n, (ids.supply n).quoteId ∈ (ids.supply n).ids := fun n => List.mem_cons_self
      have := ids.disjoint n messages.length _ (hmem n) (hsame ▸ hmem messages.length)
      omega
  · show w.accepted ++ [e] = _
    rw [h.accepted, List.map_append]
    rfl
  · intro id
    rw [RuntimeMode.isProcessed_mark, List.map_append, List.mem_append, ← h.processed]
    show _ ∨ mode.backend.isProcessed (mode.backend.quoteSave w.store q) id = true ↔ _
    rw [RuntimeMode.isProcessed_save, or_comm]
    refine or_congr_right ?_
    rw [show [(⟨m.eventId, q, e⟩ : Contribution)].map Contribution.eventId = [m.eventId] from rfl,
      List.mem_singleton]
    exact eq_comm

/-- **One more message**: it adds nothing, or the first quote of its event. -/
theorem Contributions.next (h : Contributions mode handler ids messages w made) (m : EventMessage) :
    ∃ made', Contributions mode handler ids (messages ++ [m])
      (handler.outcome m (ids.supply messages.length) w).2 made' := by
  unfold BillingIntegrationEventHandler.outcome
  by_cases hprocessed : mode.backend.isProcessed w.store m.eventId = true
  · rw [if_pos hprocessed]
    exact ⟨made, h.pass fun _ => (h.processed m.eventId).mp hprocessed⟩
  · rw [if_neg hprocessed]
    by_cases htype : m.eventType ≠ "OS_OPENED"
    · rw [if_pos htype]
      exact ⟨made, h.pass fun hwf => absurd hwf.osOpened htype⟩
    · rw [if_neg htype]
      cases hopening : handler.opening m (ids.supply messages.length) with
      | error x =>
        refine ⟨made, h.pass fun hwf => ?_⟩
        obtain ⟨q, e, hok⟩ := hwf.opening (ids.supply messages.length)
        rw [hopening] at hok
        cases hok
      | ok opened =>
        obtain ⟨q, e⟩ := opened
        exact ⟨_, h.open (fun hmem => hprocessed ((h.processed m.eventId).mpr hmem)) (not_not.mp htype)
          hopening⟩

/-- **After any list of messages**, the world holds what they contributed. -/
theorem contributions (mode : RuntimeMode) (handler : BillingIntegrationEventHandler)
    (ids : IdStream) (messages : List EventMessage) :
    ∃ made, Contributions mode handler ids messages (handleAll mode handler ids messages) made := by
  induction messages using List.reverseRecOn with
  | nil =>
    refine ⟨[], List.nodup_nil, ?_, ?_, ?_, rfl, ?_⟩
    · intro id
      exact ⟨fun h => absurd h List.not_mem_nil, fun ⟨m, hm, _⟩ => absurd hm List.not_mem_nil⟩
    · intro x hx
      exact absurd hx List.not_mem_nil
    · cases mode <;> rfl
    · intro id
      cases mode with
      | real => exact ⟨fun h => (by cases h), fun h => absurd h List.not_mem_nil⟩
      | memory => exact ⟨fun h => (by cases h), fun h => absurd h List.not_mem_nil⟩
  | append_singleton messages m ih =>
    obtain ⟨made, h⟩ := ih
    rw [handleAll_concat]
    exact h.next m

/-! ## Counting -/

/-- The distinct `event_id`s that occur with a message of which the handler can make a quote. -/
def processable (handler : BillingIntegrationEventHandler) (messages : List EventMessage) :
    Set String := {id | ∃ m ∈ messages, WellFormed handler m ∧ m.eventId = id}

/-- One quote, one `QUOTE_CREATED` and one processed event for each processable `event_id`. -/
structure CountedOnce (mode : RuntimeMode) (handler : BillingIntegrationEventHandler)
    (messages : List EventMessage) (w : World mode.backend) : Prop where
  quotes : (mode.quotes w.store).length = (processable handler messages).ncard
  events : (w.accepted.filter fun e => decide (e.eventType = .quoteCreated)).length =
    (processable handler messages).ncard
  processed : {id | mode.backend.isProcessed w.store id = true} = processable handler messages
  each : ∃ made : List Contribution, (made.map Contribution.eventId).Nodup ∧
    {id | id ∈ made.map Contribution.eventId} = processable handler messages ∧
    made.map Contribution.quote = mode.quotes w.store ∧
    made.map Contribution.event = w.accepted ∧
    ∀ x ∈ made, x.event.newQuote = some x.quote.quoteId ∧ ∃ m ∈ messages, m.eventId = x.eventId ∧
      ∃ supply, handler.opening m supply = .ok (x.quote, x.event)

theorem Contributions.countedOnce (h : Contributions mode handler ids messages w made) :
    CountedOnce mode handler messages w := by
  have hset : {id | id ∈ made.map Contribution.eventId} = processable handler messages :=
    Set.ext h.eventIds
  have hcard : (processable handler messages).ncard = made.length := by
    rw [← hset, ← List.coe_toFinset, Set.ncard_coe_finset, List.toFinset_card_of_nodup h.nodup,
      List.length_map]
  have hevent : ∀ x ∈ made, x.event.newQuote = some x.quote.quoteId := by
    intro x hx
    obtain ⟨m, -, n, -, -, -, hopening⟩ := h.opened x hx
    obtain ⟨command, -, hopening⟩ := BillingIntegrationEventHandler.opening_eq_ok hopening
    rw [(CreateQuoteUseCase.opening_eq_ok hopening).2.2.2.2.2]
    rfl
  refine ⟨?_, ?_, ?_, made, h.nodup, hset, h.quotes.symm, h.accepted.symm, ?_⟩
  · rw [h.quotes, List.length_map, hcard]
  · rw [h.accepted, List.filter_eq_self.mpr, List.length_map, hcard]
    intro e he
    obtain ⟨x, hx, rfl⟩ := List.mem_map.mp he
    refine decide_eq_true ?_
    by_contra hne
    have := hevent x hx
    rw [DomainEvent.newQuote_of_ne hne] at this
    cases this
  · rw [← hset]
    exact Set.ext h.processed
  · intro x hx
    obtain ⟨m, hm, n, -, hid, -, hopening⟩ := h.opened x hx
    exact ⟨hevent x hx, m, hm, hid, _, hopening⟩

/-! ## Order and repetitions -/

/-- What the handler reads of a message. -/
def EventMessage.reading (m : EventMessage) : String × String × Option String :=
  (m.eventId, m.eventType, m.serviceOrderId)

/-- What a stored quote says, apart from its fresh id. -/
def Quote.content (q : Quote) : String × List String × Money := (q.serviceOrderId, q.items, q.total)

/-- The quotes of messages for one service order say the same. -/
theorem content_of_opening {m m' : EventMessage} {supply supply' : Supply} {q q' : Quote}
    {e e' : DomainEvent} (h : handler.opening m supply = .ok (q, e))
    (h' : handler.opening m' supply' = .ok (q', e')) (hso : m.serviceOrderId = m'.serviceOrderId) :
    q.content = q'.content := by
  obtain ⟨command, hcommand, hq⟩ := BillingIntegrationEventHandler.opening_eq_ok h
  obtain ⟨command', hcommand', hq'⟩ := BillingIntegrationEventHandler.opening_eq_ok h'
  obtain ⟨hso₁, hitems, hamount⟩ := BillingIntegrationEventHandler.commanding_eq_ok hcommand
  obtain ⟨hso₂, hitems', hamount'⟩ := BillingIntegrationEventHandler.commanding_eq_ok hcommand'
  obtain ⟨-, hqso, hqitems, htotal, -, -⟩ := CreateQuoteUseCase.opening_eq_ok hq
  obtain ⟨-, hqso', hqitems', htotal', -, -⟩ := CreateQuoteUseCase.opening_eq_ok hq'
  have hserviceOrder : q.serviceOrderId = q'.serviceOrderId := by
    rw [hqso, hqso']
    exact Option.some.inj (hso₁.symm.trans (hso.trans hso₂))
  have hallItems : q.items = q'.items := by rw [hqitems, hqitems', hitems, hitems']
  have hsameTotal : q.total = q'.total := by
    rw [hamount] at htotal
    rw [hamount'] at htotal'
    exact Except.ok.inj (htotal.symm.trans htotal')
  unfold Quote.content
  rw [hserviceOrder, hallItems, hsameTotal]

/-- Messages with one `event_id` read the same. -/
def ReadAlike (messages : List EventMessage) : Prop :=
  ∀ m ∈ messages, ∀ m' ∈ messages, m.eventId = m'.eventId → m.reading = m'.reading

/-- **Only the set of messages matters.** -/
theorem Contributions.contents_perm {mode' : RuntimeMode} {ids' : IdStream}
    {messages' : List EventMessage} {w' : World mode'.backend} {made' : List Contribution}
    (h : Contributions mode handler ids messages w made)
    (h' : Contributions mode' handler ids' messages' w' made') (halike : ReadAlike messages)
    (hsame : ∀ r, r ∈ messages.map EventMessage.reading ↔ r ∈ messages'.map EventMessage.reading) :
    ((mode.quotes w.store).map Quote.content).Perm ((mode'.quotes w'.store).map Quote.content) := by
  -- a message of one list has its like in the other, and is well-formed if that one is
  have like : ∀ {l l' : List EventMessage}, (∀ r, r ∈ l.map EventMessage.reading →
      r ∈ l'.map EventMessage.reading) → ∀ m ∈ l, WellFormed handler m →
      ∃ m' ∈ l', WellFormed handler m' ∧ m'.eventId = m.eventId := by
    intro l l' hsub m hm hwf
    obtain ⟨m', hm', hread⟩ := List.mem_map.mp (hsub _ (List.mem_map_of_mem hm))
    obtain ⟨hid, hrest⟩ := Prod.mk.inj hread
    obtain ⟨htype, hso⟩ := Prod.mk.inj hrest
    exact ⟨m', hm', ⟨htype.trans hwf.osOpened, hso ▸ hwf.serviceOrder, hwf.items, hwf.amount⟩, hid⟩
  rw [h.quotes, h'.quotes, List.map_map, List.map_map]
  refine Keyed.perm_of_keys h.nodup h'.nodup ?_ ?_
  · intro id
    rw [h.eventIds, h'.eventIds]
    constructor
    · rintro ⟨m, hm, hwf, rfl⟩
      exact like (fun r => (hsame r).mp) m hm hwf
    · rintro ⟨m, hm, hwf, rfl⟩
      exact like (fun r => (hsame r).mpr) m hm hwf
  · intro x hx y hy hxy
    obtain ⟨m, hm, n, -, hid, -, hopening⟩ := h.opened x hx
    obtain ⟨m', hm', n', -, hid', -, hopening'⟩ := h'.opened y hy
    obtain ⟨m₂, hm₂, hread⟩ := List.mem_map.mp ((hsame _).mpr (List.mem_map_of_mem hm'))
    have hids : m.eventId = m₂.eventId := by
      rw [hid, hxy, ← hid']
      exact (Prod.mk.inj hread).1.symm
    have hreading : m.reading = m'.reading := (halike m hm m₂ hm₂ hids).trans hread
    have hso : m.serviceOrderId = m'.serviceOrderId := (Prod.mk.inj (Prod.mk.inj hreading).2).2
    exact content_of_opening hopening hopening' hso

/-- **The handler is insensitive to duplication and order.**  Every processable `event_id` counts once;
    and if messages with one `event_id` read the same, then lists of the same messages, in any order
    and with any repetitions, lead to the same quotes. -/
theorem handler_insensitive (mode mode' : RuntimeMode) (handler : BillingIntegrationEventHandler)
    (ids ids' : IdStream) (messages messages' : List EventMessage) :
    CountedOnce mode handler messages (handleAll mode handler ids messages) ∧
      (ReadAlike messages → (∀ r, r ∈ messages.map EventMessage.reading ↔
          r ∈ messages'.map EventMessage.reading) →
        ((mode.quotes (handleAll mode handler ids messages).store).map Quote.content).Perm
          ((mode'.quotes (handleAll mode' handler ids' messages').store).map Quote.content)) := by
  obtain ⟨made, h⟩ := contributions mode handler ids messages
  obtain ⟨made', h'⟩ := contributions mode' handler ids' messages'
  exact ⟨h.countedOnce, fun halike hsame => h.contents_perm h' halike hsame⟩

end Fold

section Samples

open Sample

/-- Two messages, one of them twice, and the same two the other way round. -/
def Sample.repeated : List EventMessage × List EventMessage :=
  ([osOpenedMessage "e" "o", osOpenedMessage "f" "p", osOpenedMessage "e" "o"],
    [osOpenedMessage "f" "p", osOpenedMessage "e" "o"])

theorem handler_insensitive_repeated :
    CountedOnce .real handler repeated.1 (handleAll .real handler stream repeated.1) ∧
      ((RuntimeMode.real.quotes (handleAll .real handler stream repeated.1).store).map
        Quote.content).Perm
          ((RuntimeMode.memory.quotes (handleAll .memory handler stream repeated.2).store).map
            Quote.content) := by
  obtain ⟨hcounted, hperm⟩ := handler_insensitive .real .memory handler stream stream repeated.1
    repeated.2
  refine ⟨hcounted, hperm ?_ ?_⟩
  · show ∀ m ∈ repeated.1, ∀ m' ∈ repeated.1, m.eventId = m'.eventId → m.reading = m'.reading
    decide
  · have hsub : repeated.1.map EventMessage.reading ⊆ repeated.2.map EventMessage.reading := by decide
    have hsub' : repeated.2.map EventMessage.reading ⊆ repeated.1.map EventMessage.reading := by decide
    exact fun r => ⟨fun h => hsub h, fun h => hsub' h⟩

end Samples

end Billing

/-
  No published message is lost or listed twice, however many threads call the publisher.

  `Outbox` is what a publisher is for: the events that were published, in their order, of which the
  first ones have been drained.  `Outbox.Answers` says what each method may answer and do then.

  `RabbitMqBlockingEventPublisher` refines it because of its lock: calls take turns (`Runs.in_turn`), so
  it is enough to see what each method does alone (`rabbit_publish_alone` and the two after it).
  `InMemoryEventPublisher` has no lock.  It refines the outbox as long as nobody appends or clears between
  the copy and the clearing of a drain, and loses a message otherwise.
-/
import Billing.Infrastructure.Publishers

namespace Billing

open Py Atomic Program

/-! ## What a publisher is for -/

/-- The events that were published, in their order: those that were drained come first. -/
structure Outbox where
  /-- The events that were handed out by `drain`. -/
  drained : List DomainEvent
  /-- The events that still wait for it. -/
  waiting : List DomainEvent

namespace Outbox

/-- Nothing published. -/
def empty : Outbox := ⟨[], []⟩

/-- Everything that was published. -/
def published (o : Outbox) : List DomainEvent := o.drained ++ o.waiting

/-- The messages that are listed. -/
def listed (o : Outbox) : List (Dict Json) := o.waiting.map DomainEvent.toMessage

/-- The event is published. -/
def withEvent (o : Outbox) (event : DomainEvent) : Outbox := { o with waiting := o.waiting ++ [event] }

/-- **What a call may answer, and what the outbox is after it.**  A publication that raises may have
    been recorded, a listing changes nothing, and a drain hands out what was listed. -/
inductive Answers (o : Outbox) : PublisherCall → Except Exc Returned → Outbox → Prop
  | published (event : DomainEvent) : o.Answers (.publish event) (.ok none) (o.withEvent event)
  | raised (event : DomainEvent) (e : Exc) : o.Answers (.publish event) (.error e) (o.withEvent event)
  | refused (event : DomainEvent) (e : Exc) : o.Answers (.publish event) (.error e) o
  | listed : o.Answers .publishedMessages (.ok (some o.listed)) o
  | drained : o.Answers .drain (.ok (some o.listed)) ⟨o.published, []⟩

/-- The calls, one after the other, with their answers. -/
inductive After : List (PublisherCall × Except Exc Returned) → Outbox → Prop
  | nothing : After [] empty
  | next {turns : List (PublisherCall × Except Exc Returned)} {o o' : Outbox} {call : PublisherCall}
    {res : Except Exc Returned} : After turns o → o.Answers call res o' → After (turns ++ [(call, res)]) o'

/-- The messages that a call handed out for good. -/
def batch : PublisherCall × Except Exc Returned → List (Dict Json)
  | (.drain, .ok (some messages)) => messages
  | _ => []

/-- The event of a call that published it for certain. -/
def announced : PublisherCall × Except Exc Returned → Option DomainEvent
  | (.publish event, .ok _) => some event
  | _ => none

theorem published_withEvent (o : Outbox) (event : DomainEvent) :
    (o.withEvent event).published = o.published ++ [event] := (List.append_assoc _ _ _).symm

/-- **The batches, one after the other, are the events that were drained.** -/
theorem After.batches {turns : List (PublisherCall × Except Exc Returned)} {o : Outbox}
    (h : After turns o) : turns.flatMap batch = o.drained.map DomainEvent.toMessage := by
  induction h with
  | nothing => rfl
  | @next turns o o' call res _ ha ih =>
    rw [List.flatMap_append, ih, List.flatMap_cons, List.flatMap_nil, List.append_nil]
    cases ha with
    | published event => exact List.append_nil _
    | raised event e => exact List.append_nil _
    | refused event e => exact List.append_nil _
    | listed => exact List.append_nil _
    | drained =>
      show _ ++ o.listed = (o.drained ++ o.waiting).map _
      rw [List.map_append]
      rfl

/-- **What was published for certain is recorded**, in the order in which it was published. -/
theorem After.announced {turns : List (PublisherCall × Except Exc Returned)} {o : Outbox}
    (h : After turns o) : (turns.filterMap Outbox.announced).Sublist o.published := by
  induction h with
  | nothing => exact List.Sublist.refl _
  | @next turns o o' call res _ ha ih =>
    rw [List.filterMap_append]
    cases ha with
    | published event =>
      rw [published_withEvent]
      exact ih.append (List.Sublist.refl _)
    | raised event e =>
      rw [published_withEvent]
      exact ih.append (List.nil_sublist _)
    | refused event e => exact (List.append_nil _).symm ▸ ih
    | listed => exact (List.append_nil _).symm ▸ ih
    | drained =>
      refine (List.append_nil _).symm ▸ ih.trans ?_
      show o.published.Sublist (o.published ++ [])
      rw [List.append_nil]

end Outbox

/-! ## What each method does alone -/

section Methods

variable [Python] {call : PublisherCall → Publishing Returned} {s s' : Published}

theorem encode_eq (event : DomainEvent) : RabbitMqEventPublisher.encode event = .ok event.body := by
  unfold RabbitMqEventPublisher.encode
  rw [eventToMessage_eq]
  rfl

/-- The exchange got the body, or it did not. -/
def Sends (event : DomainEvent) (s s' : Published) : Prop :=
  s' = s ∨ s' = { s with exchange := s.exchange ++ [event.body] }

/-- The body is sent, and the message recorded. -/
def Published.withEvent (s : Published) (event : DomainEvent) : Published :=
  { s with exchange := s.exchange ++ [event.body], messages := s.messages ++ [event.toMessage] }

/-- What `publish` does between the connection and its closing. -/
theorem rabbit_send_alone {event : DomainEvent} {res : Except Exc Unit}
    (h : (publisher call).Yields anyChoice (do
      RabbitMqEventPublisher.publish event
      let message ← ofExcept (eventToMessage event)
      perform (σ := publisherOps) (.appendMessage message)) s res s') :
    (∃ e, res = .error e ∧ Sends event s s') ∨ (res = .ok () ∧ s' = s.withEvent event) := by
  unfold RabbitMqEventPublisher.publish at h
  rw [encode_eq, eventToMessage_eq] at h
  obtain ⟨fate, r, s₁, -, hx, hrest⟩ := System.yields_perform_bind.mp h
  cases fate with
  | found isOpen => cases hx
  | raises e taken =>
    cases hx
    obtain ⟨rfl, rfl⟩ := hrest
    refine Or.inl ⟨e, rfl, ?_⟩
    cases taken with
    | true => exact Or.inr rfl
    | false => exact Or.inl rfl
  | proceeds =>
    cases hx
    obtain ⟨fate', r', s₂, -, hx', hend⟩ := hrest
    cases fate' with
    | found isOpen => cases hx'
    | raises e taken => cases hx'
    | proceeds =>
      cases hx'
      obtain ⟨rfl, rfl⟩ := hend
      exact Or.inr ⟨rfl, rfl⟩

omit [Python] in
/-- Closing the connection touches nothing else. -/
theorem rabbit_close_alone {res : Except Exc Unit}
    (h : (publisher call).Yields anyChoice (do
      let isOpen ← perform (σ := publisherOps) .isOpen
      if isOpen then perform (σ := publisherOps) .closeConnection) s res s') : s' = s := by
  obtain ⟨fate, r, s₁, -, hx, hrest⟩ := System.yields_perform_bind.mp h
  cases fate with
  | proceeds => cases hx
  | raises e taken => cases hx
  | found isOpen =>
    cases hx
    cases isOpen with
    | false => exact hrest.2
    | true =>
      obtain ⟨fate', r', s₂, -, hx', hend⟩ := hrest
      cases fate' with
      | found isOpen => cases hx'
      | proceeds => cases hx'; exact hend.2
      | raises e taken => cases hx'; exact hend.2

/-- **`publish` alone**: it records the event and has sent it, or it raises and records nothing. -/
theorem rabbit_publish_alone {event : DomainEvent} {res : Except Exc Returned}
    (h : (publisher call).Yields anyChoice (RabbitMqBlockingEventPublisher.call (.publish event)) s res s') :
    (∃ e, res = .error e ∧ Sends event s s') ∨
      ((res = .ok none ∨ ∃ e, res = .error e) ∧ s' = s.withEvent event) := by
  obtain ⟨r, s₁, hpublish, hreturn⟩ := System.yields_bind.mp h
  obtain ⟨fate, r₀, s₀, -, hx, hrest⟩ := System.yields_perform_bind.mp hpublish
  cases fate with
  | found isOpen => cases hx
  | raises e taken =>
    cases hx
    obtain ⟨rfl, rfl⟩ := hrest
    obtain ⟨rfl, rfl⟩ := hreturn
    exact Or.inl ⟨e, rfl, Or.inl rfl⟩
  | proceeds =>
    cases hx
    obtain ⟨sent, s₂, closed, hsend, hclose, rfl⟩ := yields_ensuring.mp hrest
    obtain rfl := rabbit_close_alone hclose
    cases closed with
    | error e =>
      obtain ⟨rfl, rfl⟩ := hreturn
      rcases rabbit_send_alone hsend with ⟨e', -, hs⟩ | ⟨-, rfl⟩
      · exact Or.inl ⟨e, rfl, hs⟩
      · exact Or.inr ⟨Or.inr ⟨e, rfl⟩, rfl⟩
    | ok u =>
      rcases rabbit_send_alone hsend with ⟨e', rfl, hs⟩ | ⟨rfl, rfl⟩
      · obtain ⟨rfl, rfl⟩ := hreturn
        exact Or.inl ⟨e', rfl, hs⟩
      · obtain ⟨rfl, rfl⟩ := hreturn
        exact Or.inr ⟨Or.inl rfl, rfl⟩

omit [Python] in
/-- A step on the lists that went through. -/
theorem copy_alone {fate : PublisherFate} {r : Except Exc (List (Dict Json))}
    (h : s.exec .copyMessages fate = some (r, s')) : r = .ok s.messages ∧ s' = s := by
  cases fate with
  | proceeds => cases h; exact ⟨rfl, rfl⟩
  | raises e taken => cases h
  | found isOpen => cases h

omit [Python] in
theorem clear_alone {fate : PublisherFate} {r : Except Exc Unit}
    (h : s.exec .clearMessages fate = some (r, s')) : r = .ok () ∧ s' = { s with messages := [] } := by
  cases fate with
  | proceeds => cases h; exact ⟨rfl, rfl⟩
  | raises e taken => cases h
  | found isOpen => cases h

/-- **`published_messages` alone.** -/
theorem rabbit_list_alone {res : Except Exc Returned}
    (h : (publisher call).Yields anyChoice (RabbitMqBlockingEventPublisher.call .publishedMessages) s res s') :
    res = .ok (some s.messages) ∧ s' = s := by
  obtain ⟨fate, r, s₁, -, hx, hrest⟩ := System.yields_perform_bind.mp h
  obtain ⟨rfl, rfl⟩ := copy_alone hx
  exact hrest

/-- **`drain` alone.** -/
theorem rabbit_drain_alone {res : Except Exc Returned}
    (h : (publisher call).Yields anyChoice (RabbitMqBlockingEventPublisher.call .drain) s res s') :
    res = .ok (some s.messages) ∧ s' = { s with messages := [] } := by
  obtain ⟨r, s₁, hdrain, hreturn⟩ := System.yields_bind.mp h
  obtain ⟨fate, r₀, s₀, -, hx, hrest⟩ := System.yields_perform_bind.mp hdrain
  obtain ⟨rfl, rfl⟩ := copy_alone hx
  obtain ⟨fate', r', s₂, -, hx', hend⟩ := System.yields_perform_bind.mp
    (show (publisher call).Yields anyChoice _ s₀ r s₁ from hrest)
  obtain ⟨rfl, rfl⟩ := clear_alone hx'
  obtain ⟨rfl, rfl⟩ := hend
  exact hreturn

end Methods

/-! ## Refinement -/

section Refinement

variable [Python]

/-- The publisher shows the outbox: its list is what waits, and the exchange has got everything that was
    published, in order. -/
structure Published.Shows (s : Published) (o : Outbox) : Prop where
  messages : s.messages = o.listed
  exchange : (o.published.map DomainEvent.body).Sublist s.exchange

/-- Nothing but what was published was sent. -/
def Published.Exact (s : Published) (o : Outbox) : Prop := s.exchange = o.published.map DomainEvent.body

omit [Python] in
theorem Published.Shows.withEvent {s : Published} {o : Outbox} (h : s.Shows o) (event : DomainEvent) :
    (s.withEvent event).Shows (o.withEvent event) where
  messages := by
    show s.messages ++ [event.toMessage] = (o.waiting ++ [event]).map DomainEvent.toMessage
    rw [h.messages, List.map_append]
    rfl
  exchange := by
    rw [Outbox.published_withEvent, List.map_append]
    exact h.exchange.append (List.Sublist.refl _)

omit [Python] in
theorem Published.Shows.sends {s s' : Published} {o : Outbox} {event : DomainEvent} (h : s.Shows o)
    (hs : Sends event s s') : s'.Shows o := by
  rcases hs with rfl | rfl
  · exact h
  · exact ⟨h.messages, h.exchange.trans (List.sublist_append_left _ _)⟩

/-- **A call that runs alone does what the outbox says**, and a call that did not raise sent exactly
    what it published. -/
theorem rabbit_answers {s s' : Published} {o : Outbox} {call : PublisherCall} {res : Except Exc Returned}
    (h : s.Shows o)
    (hy : (publisher RabbitMqBlockingEventPublisher.call).Yields anyChoice
      (RabbitMqBlockingEventPublisher.call call) s res s') :
    ∃ o', o.Answers call res o' ∧ s'.Shows o' ∧ (∀ r, res = .ok r → s.Exact o → s'.Exact o') := by
  cases call with
  | publish event =>
    rcases rabbit_publish_alone hy with ⟨e, rfl, hsent⟩ | ⟨hres, rfl⟩
    · exact ⟨o, .refused event e, h.sends hsent, fun r hr => by cases hr⟩
    · have hexact : s.Exact o → (s.withEvent event).Exact (o.withEvent event) := by
        intro hs
        show s.exchange ++ [event.body] = _
        rw [Outbox.published_withEvent, List.map_append, hs]
        rfl
      rcases hres with rfl | ⟨e, rfl⟩
      · exact ⟨_, .published event, h.withEvent event, fun _ _ => hexact⟩
      · exact ⟨_, .raised event e, h.withEvent event, fun _ _ => hexact⟩
  | publishedMessages =>
    obtain ⟨rfl, rfl⟩ := rabbit_list_alone hy
    rw [h.messages]
    exact ⟨o, .listed, h, fun _ _ hs => hs⟩
  | drain =>
    obtain ⟨rfl, rfl⟩ := rabbit_drain_alone hy
    have hpublished : (⟨o.published, []⟩ : Outbox).published = o.published := List.append_nil _
    rw [h.messages]
    refine ⟨_, .drained, ⟨rfl, ?_⟩, fun _ _ hs => ?_⟩
    · rw [hpublished]
      exact h.exchange
    · show s.exchange = _
      rw [hpublished]
      exact hs

/-- Calls that take turns are those of an outbox. -/
theorem rabbit_turns {turns : List (PublisherCall × Except Exc Returned)} {s : Published}
    (h : (publisher RabbitMqBlockingEventPublisher.call).InTurn .empty turns s) :
    ∃ o, Outbox.After turns o ∧ s.Shows o ∧ ((∀ turn ∈ turns, ∃ r, turn.2 = .ok r) → s.Exact o) := by
  refine h.keeps (I := fun turns (s : Published) => ∃ o, Outbox.After turns o ∧ s.Shows o ∧
    ((∀ turn ∈ turns, ∃ r, turn.2 = .ok r) → s.Exact o))
    ⟨.empty, .nothing, ⟨rfl, List.Sublist.refl _⟩, fun _ => rfl⟩ ?_
  rintro turns s call res s' ⟨o, hafter, hshows, hexact⟩ hy
  obtain ⟨o', hanswers, hshows', hexact'⟩ := rabbit_answers hshows hy
  refine ⟨o', hafter.next hanswers, hshows', fun hall => ?_⟩
  obtain ⟨r, hr⟩ := hall (call, res) (List.mem_append_right _ List.mem_cons_self)
  exact hexact' r hr (hexact fun turn hturn => hall turn (List.mem_append_left _ hturn))

/-- **The publisher of the real runtime loses nothing and lists nothing twice.**  In every interleaving of
    publications, listings and drains, whenever the lock is free, the calls that returned can be put in an
    order in which every answer is that of an outbox; the batches that were drained and the messages
    that still wait are, one after the other, the messages of what was published; the exchange got the
    bodies of all of it in that order, and nothing else unless a call raised. -/
theorem publisher_loses_nothing {c : Config rabbitMqPublisher}
    (H : Runs uninterrupted ⟨(Published.empty, false), []⟩ c) (hfree : c.state.2 = false) :
    ∃ turns o, turns.Perm c.outcomes ∧ Outbox.After turns o ∧
      turns.flatMap Outbox.batch ++ c.state.1.messages = o.published.map DomainEvent.toMessage ∧
      (turns.filterMap Outbox.announced).Sublist o.published ∧
      (o.published.map DomainEvent.body).Sublist c.state.1.exchange ∧
      ((∀ turn ∈ turns, ∃ r, turn.2 = .ok r) →
        c.state.1.exchange = o.published.map DomainEvent.body) := by
  obtain ⟨turns, hturns, hperm⟩ := H.in_turn (fun _ _ _ h => (Option.some.inj h).symm) hfree
  obtain ⟨o, hafter, hshows, hexact⟩ := rabbit_turns hturns
  refine ⟨turns, o, hperm, hafter, ?_, hafter.announced, hshows.exchange, hexact⟩
  rw [hafter.batches, hshows.messages, Outbox.published, List.map_append]
  rfl

/-- **To a request, `publish` is one step of its world**: however the call ends, there is a fate of the
    step that ends so, and under which the publisher accepts what the exchange takes. -/
theorem publish_fate {b : Backend} {w : World b} {s s' : Published} {event : DomainEvent}
    {res : Except Exc Returned} (hsame : s.exchange = w.accepted.map DomainEvent.body)
    (hy : (publisher RabbitMqBlockingEventPublisher.call).Yields anyChoice
      (RabbitMqBlockingEventPublisher.call (.publish event)) s res s') :
    ∃ fate r w', w.exec (.publish event) fate = some (r, w') ∧ r = res.map (fun _ => ()) ∧
      s'.exchange = w'.accepted.map DomainEvent.body := by
  have htaken : s.exchange ++ [event.body] = (w.accepted ++ [event]).map DomainEvent.body := by
    rw [hsame, List.map_append]
    rfl
  rcases rabbit_publish_alone hy with ⟨e, rfl, rfl | rfl⟩ | ⟨rfl | ⟨e, rfl⟩, rfl⟩
  · exact ⟨.raises e false, _, _, rfl, rfl, hsame⟩
  · exact ⟨.raises e true, _, _, rfl, rfl, htaken⟩
  · refine ⟨.proceeds, .ok (), { w with
      handed := w.handed ++ [event]
      accepted := w.accepted ++ [event] }, ?_, rfl, htaken⟩
    show w.publish event .proceeds = _
    rw [World.publish, eventToMessage_eq]
  · exact ⟨.raises e true, _, _, rfl, rfl, htaken⟩

end Refinement

/-! ## The publisher without a lock -/

/-- Does the step change the list of messages? -/
def PublisherOp.writesMessages : PublisherOp → Bool
  | .appendMessage _ => true
  | .clearMessages => true
  | _ => false

/-- Is it a drain that has copied the messages, and not cleared them yet? -/
def draining [Python] (t : Thread inMemoryPublisher) : Bool :=
  match t.req with
  | .drain => t.running && !t.history.isEmpty
  | _ => false

/-- If thread `i` is about to change the messages, no other thread is draining. -/
def leavesDrains [Python] (c : Config inMemoryPublisher) (i : Nat) : Bool :=
  match c.threads[i]? with
  | some ⟨_, _, .step o _⟩ => !o.writesMessages || (c.threads.eraseIdx i).all fun t => !draining t
  | _ => true

/-- No thread is cut off, and none changes the messages while another one is draining. -/
def undisturbed [Python] (c : Config inMemoryPublisher) : Action inMemoryPublisher → Prop
  | .abort _ _ => False
  | .start _ => True
  | .step i _ => leavesDrains c i = true

instance [Python] (c : Config inMemoryPublisher) : ∀ a, Decidable (undisturbed c a)
  | .abort _ _ => isFalse id
  | .start _ => isTrue trivial
  | .step i _ => inferInstanceAs (Decidable (leavesDrains c i = true))

theorem leavesDrains_step [Python] {c : Config inMemoryPublisher} {i j : Nat}
    {t u : Thread inMemoryPublisher} {o : PublisherOp} {k : Except Exc o.Res → Publishing Returned}
    (h : leavesDrains c i = true) (hi : c.threads[i]? = some t) (hr : t.rest = .step o k)
    (hwrites : o.writesMessages = true) (hj : c.threads[j]? = some u) (hne : i ≠ j) :
    draining u = false := by
  obtain ⟨req, hist, rest⟩ := t
  obtain rfl : rest = .step o k := hr
  have hmem : u ∈ c.threads.eraseIdx i := by
    rw [List.mem_eraseIdx_iff_getElem?]
    exact ⟨j, Ne.symm hne, hj⟩
  simp only [leavesDrains, hi, hwrites, Bool.not_true, Bool.false_or, List.all_eq_true] at h
  simpa using h u hmem

section InMemory

variable [Python]

/-- The end of a publication. -/
def appending (event : DomainEvent) : Publishing Returned :=
  perform (σ := publisherOps) (.appendMessage event.toMessage) >>= fun _ => .ret none

omit [Python] in
/-- The end of a drain that has copied these messages. -/
def clearing (messages : List (Dict Json)) : Publishing Returned :=
  perform (σ := publisherOps) .clearMessages >>= fun _ => .ret (some messages)

theorem memory_publish_eq (event : DomainEvent) : InMemoryEventPublisher.call (.publish event) =
    perform (σ := publisherOps) (.appendEvent event) >>= fun _ => appending event := by
  show (InMemoryEventPublisher.publish event >>= _) = _
  unfold InMemoryEventPublisher.publish
  rw [eventToMessage_eq, bind_assoc]
  rfl

theorem memory_drain_eq : InMemoryEventPublisher.call .drain =
    perform (σ := publisherOps) .copyMessages >>= fun messages =>
      perform (σ := publisherOps) .clearEvents >>= fun _ => clearing messages := by
  show (InMemoryEventPublisher.drain >>= _) = _
  unfold InMemoryEventPublisher.drain InMemoryEventPublisher.publishedMessages
  rw [bind_assoc]
  refine congrArg _ (funext fun messages => ?_)
  rw [bind_assoc]
  refine congrArg _ (funext fun _ => ?_)
  rw [bind_assoc]
  rfl

/-- Where a thread is, while these messages are listed. -/
inductive Midway (messages : List (Dict Json)) (t : Thread inMemoryPublisher) : Prop
  | new (hrest : t.rest = InMemoryEventPublisher.call t.req)
  | appending (event : DomainEvent) (hreq : t.req = .publish event) (hrest : t.rest = appending event)
  | copied (hreq : t.req = .drain) (hdone : t.history ≠ [])
    (hrest : t.rest = perform (σ := publisherOps) .clearEvents >>= fun _ => clearing messages)
  | cleared (hreq : t.req = .drain) (hdone : t.history ≠ []) (hrest : t.rest = clearing messages)

/-- A stage that does not look at the list. -/
theorem Midway.relist {messages messages' : List (Dict Json)} {t : Thread inMemoryPublisher}
    (h : Midway messages t) (hrun : t.running = true) (hidle : draining t = false) :
    Midway messages' t := by
  have hnot : t.req = .drain → t.history ≠ [] → False := by
    intro hreq hdone
    have hdraining : draining t = true := by
      unfold draining
      rw [hreq, hrun]
      cases hh : t.history with
      | nil => exact absurd hh hdone
      | cons d ds => rfl
    exact absurd (hdraining.symm.trans hidle) (by decide)
  cases h with
  | new hrest => exact .new hrest
  | appending event hreq hrest => exact .appending event hreq hrest
  | copied hreq hdone hrest => exact (hnot hreq hdone).elim
  | cleared hreq hdone hrest => exact (hnot hreq hdone).elim

/-- **What a thread does next**, from whatever stage it is in: a step that does not touch the messages and
    leads to a later stage, or the step at which its call takes effect, as the outbox says. -/
theorem Midway.next {s s' : Published} {t : Thread inMemoryPublisher} {o : PublisherOp}
    {k : Except Exc o.Res → Publishing Returned} {fate : PublisherFate} {r : Except Exc o.Res}
    {outbox : Outbox} (h : Midway s.messages t) (hshows : s.messages = outbox.listed)
    (hr : t.rest = .step o k) (hx : s.exec o fate = some (r, s')) :
    (s'.messages = s.messages ∧
        Midway s'.messages (⟨t.req, t.history ++ [⟨o, r⟩], k r⟩ : Thread inMemoryPublisher) ∧
        (k r).running = true) ∨
      ∃ res outbox', k r = System.ended res ∧ outbox.Answers t.req res outbox' ∧
        s'.messages = outbox'.listed ∧ (o.writesMessages = true ∨ s'.messages = s.messages) := by
  have hdone : t.history ++ [⟨o, r⟩] ≠ [] := List.append_ne_nil_of_right_ne_nil _ (List.cons_ne_nil _ _)
  cases h with
  | new hrest =>
    cases hreq : t.req with
    | publish event =>
      rw [hreq, memory_publish_eq] at hrest
      obtain ⟨rfl, hk⟩ : o = .appendEvent event ∧ HEq k _ := Program.step.inj (hr.symm.trans hrest)
      obtain rfl := eq_of_heq hk
      cases fate with
      | raises e taken => cases hx
      | found isOpen => cases hx
      | proceeds =>
        cases hx
        exact Or.inl ⟨rfl, .appending event rfl rfl, rfl⟩
    | publishedMessages =>
      rw [hreq] at hrest
      obtain ⟨rfl, hk⟩ : o = .copyMessages ∧ HEq k _ := Program.step.inj (hr.symm.trans hrest)
      obtain rfl := eq_of_heq hk
      obtain ⟨rfl, rfl⟩ := copy_alone hx
      refine Or.inr ⟨.ok (some s'.messages), outbox, rfl, ?_, hshows, Or.inr rfl⟩
      rw [hshows]
      exact .listed
    | drain =>
      rw [hreq, memory_drain_eq] at hrest
      obtain ⟨rfl, hk⟩ : o = .copyMessages ∧ HEq k _ := Program.step.inj (hr.symm.trans hrest)
      obtain rfl := eq_of_heq hk
      obtain ⟨rfl, rfl⟩ := copy_alone hx
      exact Or.inl ⟨rfl, .copied rfl hdone rfl, rfl⟩
  | appending event hreq hrest =>
    obtain ⟨rfl, hk⟩ : o = .appendMessage event.toMessage ∧ HEq k _ :=
      Program.step.inj (hr.symm.trans hrest)
    obtain rfl := eq_of_heq hk
    cases fate with
    | raises e taken => cases hx
    | found isOpen => cases hx
    | proceeds =>
      cases hx
      refine Or.inr ⟨.ok none, outbox.withEvent event, rfl, hreq ▸ .published event, ?_, Or.inl rfl⟩
      show s.messages ++ [event.toMessage] = (outbox.waiting ++ [event]).map DomainEvent.toMessage
      rw [hshows, List.map_append]
      rfl
  | copied hreq hdone' hrest =>
    obtain ⟨rfl, hk⟩ : o = .clearEvents ∧ HEq k _ := Program.step.inj (hr.symm.trans hrest)
    obtain rfl := eq_of_heq hk
    cases fate with
    | raises e taken => cases hx
    | found isOpen => cases hx
    | proceeds =>
      cases hx
      exact Or.inl ⟨rfl, .cleared hreq hdone rfl, rfl⟩
  | cleared hreq hdone' hrest =>
    obtain ⟨rfl, hk⟩ : o = .clearMessages ∧ HEq k _ := Program.step.inj (hr.symm.trans hrest)
    obtain rfl := eq_of_heq hk
    obtain ⟨rfl, rfl⟩ := clear_alone hx
    refine Or.inr ⟨.ok (some s.messages), ⟨outbox.published, []⟩, rfl, ?_, rfl, Or.inl rfl⟩
    rw [hreq, hshows]
    exact .drained

/-- **The invariant of undisturbed calls.** -/
def Undisturbed (c : Config inMemoryPublisher) : Prop :=
  ∃ turns o, Outbox.After turns o ∧ turns.Perm c.outcomes ∧ c.state.messages = o.listed ∧
    ∀ t ∈ c.threads, t.running = true → Midway c.state.messages t

theorem memory_call_running (call : PublisherCall) :
    (InMemoryEventPublisher.call call).running = true := by
  cases call with
  | publish event => rfl
  | publishedMessages => rfl
  | drain => rfl

theorem Undisturbed.start {c c' : Config inMemoryPublisher} (h : Undisturbed c) {call : PublisherCall}
    (hn : c.next (.start call) = some c') : Undisturbed c' := by
  obtain ⟨turns, o, hafter, hperm, hshows, hmid⟩ := h
  obtain ⟨st, harr, rfl⟩ := Config.next_start hn
  obtain rfl : c.state = st := Option.some.inj harr
  refine ⟨turns, o, hafter, ?_, hshows, fun t ht hrun => ?_⟩
  · unfold Config.outcomes
    rw [List.filterMap_append, List.filterMap_cons_none, List.filterMap_nil, List.append_nil]
    · exact hperm
    · exact Thread.outcome_of_running (memory_call_running call)
  · rcases List.mem_append.mp ht with ht | ht
    · exact hmid t ht hrun
    · rw [List.mem_singleton.mp ht]
      exact .new rfl

theorem Undisturbed.step {c c' : Config inMemoryPublisher} (h : Undisturbed c) {i : Nat}
    {fate : PublisherFate} (hok : undisturbed c (.step i fate))
    (hn : c.next (.step i fate) = some c') : Undisturbed c' := by
  obtain ⟨turns, o, hafter, hperm, hshows, hmid⟩ := h
  obtain ⟨t, op, k, r, s', hi, hr, hx, rfl⟩ := Config.next_step hn
  have hrun : t.running = true := running_iff.mpr ⟨op, k, hr⟩
  have hnone : t.outcome = none := Thread.outcome_of_running hrun
  -- whoever else is running looks at the messages that there are, or at none
  have hothers : (op.writesMessages = true ∨ s'.messages = c.state.messages) →
      ∀ j u, c.threads[j]? = some u → i ≠ j → u.running = true → Midway s'.messages u := by
    intro hcase j u hj hne hrunu
    have hu := hmid u (List.mem_of_getElem? hj) hrunu
    rcases hcase with hwrites | hsame
    · exact hu.relist hrunu (leavesDrains_step hok hi hr hwrites hj hne)
    · rw [hsame]
      exact hu
  rcases (hmid t (List.mem_of_getElem? hi) hrun).next hshows hr hx with
    ⟨hsame, hstage, hgoes⟩ | ⟨res, o', hend, hanswers, hshows', hcase⟩
  · refine ⟨turns, o, hafter, ?_, hsame.trans hshows, fun u hu hrunu => ?_⟩
    · refine hperm.trans (List.Perm.of_eq ?_)
      exact (filterMap_set_none hi hnone
        (Thread.outcome_of_running (t := ⟨t.req, t.history ++ [⟨op, r⟩], k r⟩) hgoes)).symm
    · obtain ⟨j, hj⟩ := List.getElem?_of_mem hu
      rcases getElem?_set_cases hj with ⟨-, rfl⟩ | ⟨hne, hj⟩
      · exact hstage
      · exact hothers (Or.inr hsame) j u hj hne hrunu
  · refine ⟨turns ++ [(t.req, res)], o', hafter.next hanswers, ?_, hshows', fun u hu hrunu => ?_⟩
    · refine (List.perm_append_singleton _ _).trans ((hperm.cons _).trans ?_)
      rw [hend]
      exact (filterMap_set hi hnone (Thread.outcome_ended _ _ res)).symm
    · obtain ⟨j, hj⟩ := List.getElem?_of_mem hu
      rcases getElem?_set_cases hj with ⟨-, rfl⟩ | ⟨hne, hj⟩
      · rw [Thread.running, hend] at hrunu
        cases res with
        | ok a => cases hrunu
        | error e => cases hrunu
      · exact hothers hcase j u hj hne hrunu

/-- **The publisher of the memory runtime loses nothing as long as its drains are left alone**: the calls
    that returned can be put in an order in which every answer is that of an outbox. -/
theorem memory_publisher_loses_nothing {c : Config inMemoryPublisher}
    (H : Runs undisturbed ⟨Published.empty, []⟩ c) :
    ∃ turns o, turns.Perm c.outcomes ∧ Outbox.After turns o ∧
      turns.flatMap Outbox.batch ++ c.state.messages = o.published.map DomainEvent.toMessage ∧
      (turns.filterMap Outbox.announced).Sublist o.published := by
  have h0 : Undisturbed ⟨Published.empty, []⟩ :=
    ⟨[], .empty, .nothing, List.Perm.nil, rfl, fun _ ht => absurd ht List.not_mem_nil⟩
  have hc : Undisturbed c := H.invariant h0 fun c a c' hc hok hn => by
    cases a with
    | start call => exact hc.start hn
    | step i fate => exact hc.step hok hn
    | abort i e => exact hok.elim
  obtain ⟨turns, o, hafter, hperm, hshows, -⟩ := hc
  refine ⟨turns, o, hperm, hafter, ?_, hafter.announced⟩
  rw [hafter.batches, hshows, Outbox.published, List.map_append]
  rfl

end InMemory

open Sample

/-- An event. -/
def Sample.announcement (n : String) : DomainEvent :=
  ⟨.quoteCreated, "os-1", [("service_order_id", "os-1"), ("quote_id", "quote-" ++ n)], "event-" ++ n,
    "2024-05-01T12:00:00+00:00"⟩

/-- Two publications and a drain overlap; the second connection cannot be closed. -/
def Sample.overlapping : List (Action rabbitMqPublisher) :=
  [.start (.publish (announcement "1")), .start .drain, .start (.publish (announcement "2")),
    .step 0 none, .step 0 (some .proceeds), .step 0 (some .proceeds), .step 0 (some .proceeds),
    .step 0 (some (.found false)), .step 0 none,
    .step 2 none, .step 2 (some .proceeds), .step 2 (some .proceeds), .step 2 (some .proceeds),
    .step 2 (some (.found true)), .step 2 (some (.raises (.infrastructure "connection lost") false)),
    .step 2 none,
    .step 1 none, .step 1 (some .proceeds), .step 1 (some .proceeds), .step 1 none]

theorem publisher_loses_nothing_overlapping : ∃ c : Config rabbitMqPublisher,
    c.outcomes.length = 3 ∧ c.state.1.exchange.length = 2 ∧
      ∃ turns o, turns.Perm c.outcomes ∧ Outbox.After turns o ∧
        turns.flatMap Outbox.batch ++ c.state.1.messages = o.published.map DomainEvent.toMessage ∧
        (turns.filterMap Outbox.announced).Sublist o.published ∧
        (o.published.map DomainEvent.body).Sublist c.state.1.exchange ∧
        ((∀ turn ∈ turns, ∃ r, turn.2 = .ok r) →
          c.state.1.exchange = o.published.map DomainEvent.body) :=
  ⟨Config.played uninterrupted ⟨(Published.empty, false), []⟩ overlapping (by decide +kernel),
    by decide +kernel, by decide +kernel,
    publisher_loses_nothing (Config.played_runs _ _ _) (by decide +kernel)⟩

/-- Two publications and a drain of the in-memory publisher; the second one comes between the steps of
    the others, but not between the copy and the clearing. -/
def Sample.drainedApart : List (Action inMemoryPublisher) :=
  [.start (.publish (announcement "1")), .start .drain, .start (.publish (announcement "2")),
    .step 0 .proceeds, .step 2 .proceeds, .step 0 .proceeds, .step 1 .proceeds, .step 1 .proceeds,
    .step 1 .proceeds, .step 2 .proceeds]

theorem memory_publisher_loses_nothing_apart : ∃ c : Config inMemoryPublisher,
    c.outcomes.length = 3 ∧ c.state.messages.length = 1 ∧
      ∃ turns o, turns.Perm c.outcomes ∧ Outbox.After turns o ∧
        turns.flatMap Outbox.batch ++ c.state.messages = o.published.map DomainEvent.toMessage ∧
        (turns.filterMap Outbox.announced).Sublist o.published :=
  ⟨Config.played undisturbed ⟨Published.empty, []⟩ drainedApart (by decide +kernel),
    by decide +kernel, by decide +kernel, memory_publisher_loses_nothing (Config.played_runs _ _ _)⟩

/-- The second publication ends between the copy and the clearing of the drain. -/
def Sample.drainedMeanwhile : List (Action inMemoryPublisher) :=
  [.start (.publish (announcement "1")), .start .drain, .start (.publish (announcement "2")),
    .step 0 .proceeds, .step 0 .proceeds, .step 1 .proceeds, .step 2 .proceeds, .step 2 .proceeds,
    .step 1 .proceeds, .step 1 .proceeds]

/-- **Otherwise a message is lost**: all three calls return, two events were published, one message was
    handed out, and none is left. -/
theorem memory_publisher_loses_message : ∃ c : Config inMemoryPublisher,
    Runs uninterrupted ⟨Published.empty, []⟩ c ∧ c.atRest = true ∧ c.state.messages = [] ∧
      c.outcomes.filterMap Outbox.announced = [announcement "1", announcement "2"] ∧
      (c.outcomes.flatMap Outbox.batch).length = 1 :=
  ⟨Config.played uninterrupted ⟨Published.empty, []⟩ drainedMeanwhile (by decide +kernel),
    Config.played_runs _ _ _, by decide +kernel, by decide +kernel, by decide +kernel, by decide +kernel⟩

end Billing

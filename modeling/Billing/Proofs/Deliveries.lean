/-
  The worker, one action at a time.

  `Worker.next_*` say what each action does; seen from the service it is at most one action of the
  pool (`Worker.config_next`), so everything that is true of all runs of the pool is true of the worker.

  `Deliveries` is what the worker adds to that:

  * `alone`     — a thread that is handling a message is the one of the unsettled delivery;
  * `delivered` — the unsettled delivery has its thread, which was not cut off;
  * `settled`   — a message that the broker has forgotten was handled to an end;
  * `marked`    — an event is only marked when a handling of it has saved a quote and published it.
-/
import Billing.Infrastructure.Messaging
import Billing.Proofs.Announcements

namespace Billing

open Py Atomic Program

variable [Python] {d : Deployment} {s s' : Worker d}

/-! ## What each action does -/

theorem Worker.next_deliver {place : Nat} {supply : Supply}
    (hn : (worker d).next s (.deliver place supply) = some s') :
    ∃ body, s.delivery = none ∧ s.queue[place]? = some body ∧
      ((∃ e, readDelivery body = .error e ∧ s' = { s with
          queue := s.queue.eraseIdx place
          forgotten := s.forgotten ++ [⟨body, .nack, none⟩] }) ∨
        ∃ m c, readDelivery body = .ok m ∧ s.config.next (.start ⟨.handle m, supply⟩) = some c ∧
          s' = { s with
            config := c
            queue := s.queue.eraseIdx place
            delivery := some ⟨body, s.config.threads.length⟩ }) := by
  have hdeliver : s.deliver place supply = some s' := hn
  unfold Worker.deliver at hdeliver
  split at hdeliver
  · rename_i body hidle hbody
    refine ⟨body, hidle, hbody, ?_⟩
    split at hdeliver
    · rename_i e hread
      exact Or.inl ⟨e, hread, (Option.some.inj hdeliver).symm⟩
    · rename_i m hread
      obtain ⟨c, hc, rfl⟩ := Option.map_eq_some_iff.mp hdeliver
      exact Or.inr ⟨m, c, hread, hc, rfl⟩
  · cases hdeliver

theorem Worker.next_act {a : Action (system sql d)} (hn : (worker d).next s (.act a) = some s') :
    s.owns a = false ∧ ∃ c, s.config.next a = some c ∧ s' = s.acts c := by
  have hact : (if s.owns a then none else (s.config.next a).map s.acts) = some s' := hn
  split at hact
  · cases hact
  · rename_i howns
    obtain ⟨c, hc, rfl⟩ := Option.map_eq_some_iff.mp hact
    exact ⟨Bool.not_eq_true _ ▸ howns, c, hc, rfl⟩

theorem Worker.next_settle (hn : (worker d).next s .settle = some s') :
    ∃ delivery t, s.delivery = some delivery ∧ s.config.threads[delivery.thread]? = some t ∧
      ∃ settlement, s' = { s with
          delivery := none
          forgotten := s.forgotten ++ [⟨delivery.body, settlement, some delivery.thread⟩] } ∧
        ((∃ x, t.rest = .ret x ∧ settlement = .ack) ∨ ∃ e, t.rest = .raise e ∧ settlement = .nack) := by
  have hsettle : s.settle = some s' := hn
  unfold Worker.settle at hsettle
  split at hsettle
  · cases hsettle
  · rename_i delivery hdelivery
    split at hsettle
    · rename_i x ht
      exact ⟨delivery, _, hdelivery, ht, .ack, (Option.some.inj hsettle).symm, Or.inl ⟨x, rfl, rfl⟩⟩
    · rename_i e ht
      exact ⟨delivery, _, hdelivery, ht, .nack, (Option.some.inj hsettle).symm, Or.inr ⟨e, rfl, rfl⟩⟩
    · cases hsettle

theorem Worker.next_crash (hn : (worker d).next s .crash = some s') :
    (s.delivery = none ∧ s' = s) ∨ ∃ delivery c, s.delivery = some delivery ∧
      (c = s.config ∧ s.config.next (.abort delivery.thread (.infrastructure "process stopped")) = none ∨
        s.config.next (.abort delivery.thread (.infrastructure "process stopped")) = some c) ∧
      s' = { s with config := c, queue := delivery.body :: s.queue, delivery := none } := by
  have hcrash : s.crash = some s' := hn
  unfold Worker.crash at hcrash
  split at hcrash
  · rename_i hidle
    exact Or.inl ⟨hidle, (Option.some.inj hcrash).symm⟩
  · rename_i delivery hdelivery
    refine Or.inr ⟨delivery, _, hdelivery, ?_, (Option.some.inj hcrash).symm⟩
    cases s.config.next (.abort delivery.thread (.infrastructure "process stopped")) with
    | none => exact Or.inl ⟨rfl, rfl⟩
    | some c => exact Or.inr rfl

/-- **The worker is the service**: each of its actions is at most one action of the pool. -/
theorem Worker.config_next {l : WorkerAction d} (hn : (worker d).next s l = some s') :
    s'.config = s.config ∨ ∃ a, s.config.next a = some s'.config ∧
      ∀ i fate, a = .step i fate → l = .act a := by
  cases l with
  | receive body => cases hn; exact Or.inl rfl
  | deliver place supply =>
    obtain ⟨body, -, -, ⟨e, -, rfl⟩ | ⟨m, c, -, hc, rfl⟩⟩ := Worker.next_deliver hn
    · exact Or.inl rfl
    · exact Or.inr ⟨_, hc, fun i fate h => by cases h⟩
  | act a =>
    obtain ⟨-, c, hc, rfl⟩ := Worker.next_act hn
    exact Or.inr ⟨a, hc, fun _ _ _ => rfl⟩
  | settle =>
    obtain ⟨delivery, t, -, -, settlement, rfl, -⟩ := Worker.next_settle hn
    exact Or.inl rfl
  | crash =>
    rcases Worker.next_crash hn with ⟨-, rfl⟩ | ⟨delivery, c, -, ⟨rfl, -⟩ | hc, rfl⟩
    · exact Or.inl rfl
    · exact Or.inl rfl
    · exact Or.inr ⟨_, hc, fun i fate h => by cases h⟩

/-- What every action of the pool keeps, the worker keeps. -/
theorem Worker.keeps {I : Config (system sql d) → Prop}
    (hI : ∀ c a c', I c → c.next a = some c' → I c') {l : WorkerAction d} (h : I s.config)
    (hn : (worker d).next s l = some s') : I s'.config := by
  rcases Worker.config_next hn with hsame | ⟨a, ha, -⟩
  · rw [hsame]; exact h
  · exact hI _ _ _ h ha

/-! ## Processed events -/

/-- What a step does to the processed events. -/
theorem exec_processed {w w' : World sql} {o : Port} {fate : Fate} {r : Except Exc o.Res}
    (h : w.exec o fate = some (r, w')) :
    w'.store.processedEvents = w.store.processedEvents ∨ ∃ eventId eventType correlationId,
      o = .markProcessed eventId eventType correlationId ∧ w'.store =
        SqlAlchemyProcessedEventRepository.markProcessed w.store eventId eventType correlationId := by
  cases o with
  | quoteGet id => rw [read_eq h]; exact Or.inl rfl
  | paymentGet id => rw [read_eq h]; exact Or.inl rfl
  | isProcessed id => rw [read_eq h]; exact Or.inl rfl
  | sdk call => rw [call_eq h]; exact Or.inl rfl
  | quoteSave q => rcases write_eq h with rfl | rfl <;> exact Or.inl rfl
  | paymentSave p => rcases write_eq h with rfl | rfl <;> exact Or.inl rfl
  | quoteAssign q => cases fate <;> cases h; exact Or.inl rfl
  | paymentAssign p => cases fate <;> cases h; exact Or.inl rfl
  | publish e => rw [(publish_eq h).1]; exact Or.inl rfl
  | markProcessed i t c =>
    rcases write_eq h with rfl | rfl
    · exact Or.inl rfl
    · exact Or.inr ⟨i, t, c, rfl, rfl⟩

/-- A read of a mark answers with what is there. -/
theorem exec_isProcessed {w w' : World sql} {eventId : String} {fate : Fate} {processed : Bool}
    (h : w.exec (.isProcessed eventId) fate = some (.ok processed, w')) :
    w' = w ∧ SqlAlchemyProcessedEventRepository.isProcessed w.store eventId = processed := by
  refine ⟨read_eq h, ?_⟩
  cases fate <;> cases h
  rfl

/-! ## The invariant -/

/-- A handling of the event has saved its quote and published it. -/
def OpenedFor (c : Config (system sql d)) (eventId : String) : Prop :=
  ∃ t ∈ c.threads, ∃ m q e, t.req.command = .handle m ∧ m.eventId = eventId ∧
    m.eventType = "OS_OPENED" ∧ d.handler.opening m t.req.supply = .ok (q, e) ∧
    ⟨.quoteSave q, .ok ()⟩ ∈ t.history ∧ ⟨.publish e, .ok ()⟩ ∈ t.history

/-- The unsettled delivery has its thread, which handles its message by the script. -/
def Delivered (s : Worker d) : Prop :=
  ∀ body i, s.delivery = some ⟨body, i⟩ → ∃ (t : Thread (system sql d)) (m : EventMessage),
    s.config.threads[i]? = some t ∧ t.req.command = .handle m ∧ readDelivery body = .ok m ∧
      Always (Serves d t.req) (Served d t.req) t.history t.rest

/-- Thread `i` has handled the message to an end. -/
def SettledBy (c : Config (system sql d)) (i : Nat) (m : EventMessage) : Prop :=
  ∃ t r, c.threads[i]? = some t ∧ t.req.command = .handle m ∧ t.running = false ∧
    d.handler.Handled m t.req.supply t.history r

/-- **The invariant of the worker.** -/
structure Deliveries (s : Worker d) : Prop where
  integrity : Integrity s.config
  announcements : Announcements s.config
  alone : ∀ (i : Nat) (t : Thread (system sql d)) (m : EventMessage), s.config.threads[i]? = some t →
    t.req.command = .handle m → t.running = true → ∃ body, s.delivery = some ⟨body, i⟩
  delivered : ∀ body i, s.delivery = some ⟨body, i⟩ → ∃ (t : Thread (system sql d)) (m : EventMessage),
    s.config.threads[i]? = some t ∧ t.req.command = .handle m ∧ readDelivery body = .ok m ∧
      Always (Serves d t.req) (Served d t.req) t.history t.rest
  settled : ∀ f ∈ s.forgotten, ∀ m, readDelivery f.body = .ok m → ∃ i, f.thread = some i ∧
    SettledBy s.config i m
  marked : ∀ eventId, SqlAlchemyProcessedEventRepository.isProcessed s.config.state.store eventId = true →
    OpenedFor s.config eventId

section Next

variable {c c' : Config (system sql d)} {a : Action (system sql d)}

theorem OpenedFor.next {eventId : String} (h : OpenedFor c eventId) (hn : c.next a = some c') :
    OpenedFor c' eventId := by
  obtain ⟨t, ht, m, q, e, hm, hid, htype, hopening, hsave, hpublish⟩ := h
  obtain ⟨t', ht', hreq, hpre⟩ := Config.mem_kept hn ht
  exact ⟨t', ht', m, q, e, by rw [hreq, hm], hid, htype, by rw [hreq, hopening], hpre.subset hsave,
    hpre.subset hpublish⟩

theorem SettledBy.next {i : Nat} {m : EventMessage} (h : SettledBy c i m)
    (hn : c.next a = some c') : SettledBy c' i m := by
  obtain ⟨t, r, ht, hm, hend, hhandled⟩ := h
  exact ⟨t, r, Config.ended_next hn ht hend, hm, hend, hhandled⟩

/-- Only a handling marks an event. -/
theorem marks_handles {req : Request} {h : List Event} {eventId eventType correlationId : String}
    (hs : Serves d req h (.markProcessed eventId eventType correlationId)) :
    ∃ m, req.command = .handle m ∧
      d.handler.Handles m req.supply h (.markProcessed eventId eventType correlationId) := by
  unfold Serves at hs
  split at hs
  · rename_i m hm
    exact ⟨m, hm, hs⟩
  · exact hs.elim
  · cases hs

/-- **What an action of the pool does to the processed events.** -/
theorem processed_next (hobedient : ∀ t ∈ c.threads, Obedient t) (hn : c.next a = some c') :
    c'.state.store.processedEvents = c.state.store.processedEvents ∨
      ∃ i fate t m, a = .step i fate ∧
        c.Asks i t (.markProcessed m.eventId m.eventType m.correlationId) ∧
        t.req.command = .handle m ∧
        d.handler.Handles m t.req.supply t.history
          (.markProcessed m.eventId m.eventType m.correlationId) ∧
        c'.state.store = SqlAlchemyProcessedEventRepository.markProcessed c.state.store m.eventId
          m.eventType m.correlationId := by
  rcases Config.state_next hn with ⟨req, -, harr⟩ | ⟨i, fate, t, o, k, r, ha, hi, hr, hx⟩ |
    ⟨i, e, -, hstate⟩
  · exact Or.inl (by rw [(arrive_world harr).1])
  · rcases exec_processed hx with hsame | ⟨eventId, eventType, correlationId, rfl, hstore⟩
    · exact Or.inl hsame
    · have hasks : c.Asks i t (.markProcessed eventId eventType correlationId) := ⟨hi, k, hr⟩
      obtain ⟨m, hm, hhandles⟩ := marks_handles (serves_of_asks hobedient hasks)
      obtain ⟨-, rfl, rfl, rfl, -⟩ := id hhandles
      exact Or.inr ⟨i, fate, t, m, ha, hasks, hm, hhandles, hstore⟩
  · exact Or.inl (by rw [hstate])

/-- **An event is only marked for a handling that has opened its quote.** -/
theorem marked_next (hobedient : ∀ t ∈ c.threads, Obedient t) (hn : c.next a = some c')
    (h : ∀ eventId, SqlAlchemyProcessedEventRepository.isProcessed c.state.store eventId = true →
      OpenedFor c eventId) :
    ∀ eventId, SqlAlchemyProcessedEventRepository.isProcessed c'.state.store eventId = true →
      OpenedFor c' eventId := by
  intro eventId hdone
  rcases processed_next hobedient hn with hsame | ⟨i, fate, t, m, -, hasks, hm, hhandles, hstore⟩
  · unfold SqlAlchemyProcessedEventRepository.isProcessed at hdone
    rw [hsame] at hdone
    exact (h eventId hdone).next hn
  · rw [hstore] at hdone
    rcases isProcessed_markProcessed.mp hdone with hid | hdone
    · obtain ⟨htype, -, -, -, q, e, hopening, hhistory⟩ := hhandles
      have hopened : OpenedFor c eventId := ⟨t, hasks.mem, m, q, e, hm, hid, htype, hopening,
        by rw [hhistory]; simp, by rw [hhistory]; simp⟩
      exact hopened.next hn
    · exact (h eventId hdone).next hn

end Next

/-! ## The worker keeps it -/

theorem Deliveries.alone_next (hs : Deliveries s) {l : WorkerAction d}
    (hn : (worker d).next s l = some s') :
    ∀ (i : Nat) (t : Thread (system sql d)) (m : EventMessage), s'.config.threads[i]? = some t →
      t.req.command = .handle m → t.running = true → ∃ body, s'.delivery = some ⟨body, i⟩ := by
  intro i t m ht hm hrun
  -- with no unsettled delivery, no message is being handled
  have idle : ∀ {j : Nat} {u : Thread (system sql d)}, s.delivery = none →
      s.config.threads[j]? = some u → u.req.command = .handle m → u.running = false := by
    intro j u hidle hu hcommand
    by_contra hnot
    obtain ⟨body, hbody⟩ := hs.alone j u m hu hcommand (Bool.not_eq_false _ ▸ hnot)
    rw [hidle] at hbody
    cases hbody
  cases l with
  | receive body =>
    cases hn
    exact hs.alone i t m ht hm hrun
  | deliver place supply =>
    obtain ⟨body, hidle, -, ⟨e, -, rfl⟩ | ⟨m', c, -, hc, rfl⟩⟩ := Worker.next_deliver hn
    · rw [idle hidle ht hm] at hrun; cases hrun
    · obtain ⟨s₁, -, rfl⟩ := Config.next_start hc
      rcases getElem?_append_cases ht with ht | ⟨rfl, -⟩
      · rw [idle hidle ht hm] at hrun; cases hrun
      · exact ⟨body, rfl⟩
  | act a =>
    obtain ⟨howns, c, hc, rfl⟩ := Worker.next_act hn
    rcases Config.at_next hc ht with ht | ⟨req, rfl, -, rfl⟩ | ⟨_, t₀, o, k, r, rfl, h0, hr, -, rfl⟩ |
      ⟨_, t₀, -, -, -, rfl⟩
    · exact hs.alone i t m ht hm hrun
    · have hcommand : Request.command req = .handle m := hm
      simp only [Worker.owns, hcommand] at howns
      cases howns
    · exact hs.alone i t₀ m h0 hm (by rw [Thread.running, hr]; rfl)
    · cases hrun
  | settle =>
    obtain ⟨delivery, u, hdelivery, hu, settlement, rfl, hend⟩ := Worker.next_settle hn
    obtain ⟨body, hbody⟩ := hs.alone i t m ht hm hrun
    rw [hdelivery] at hbody
    obtain rfl := Option.some.inj hbody
    -- the thread of the delivery has ended
    obtain rfl := Option.some.inj (hu.symm.trans ht)
    rcases hend with ⟨x, hx, -⟩ | ⟨e, he, -⟩
    · rw [Thread.running, hx] at hrun; cases hrun
    · rw [Thread.running, he] at hrun; cases hrun
  | crash =>
    rcases Worker.next_crash hn with ⟨-, rfl⟩ | ⟨delivery, c, hdelivery, hc, rfl⟩
    · exact hs.alone i t m ht hm hrun
    · -- a thread that is still running would be the one of the delivery, which was cut off
      have cut : s.config.threads[i]? = some t → i = delivery.thread := by
        intro ht
        obtain ⟨body, hbody⟩ := hs.alone i t m ht hm hrun
        rw [hdelivery] at hbody
        exact congrArg Delivery.thread (Option.some.inj hbody).symm
      rcases hc with ⟨rfl, hc⟩ | hc
      · obtain ⟨o, k, hr⟩ := running_iff.mp hrun
        obtain ⟨req, hist, rest⟩ := t
        cases hr
        simp only [Config.next, ← cut ht, ht] at hc
        cases hc
      · obtain ⟨t₀, -, -, rfl⟩ := Config.next_abort hc
        rcases getElem?_set_cases ht with ⟨-, rfl⟩ | ⟨hne, ht⟩
        · cases hrun
        · exact absurd (cut ht).symm hne

/-- The delivery after an action is the one before, handled further, or it was just made. -/
theorem Delivered.next (hs : Delivered s) {l : WorkerAction d} (hn : (worker d).next s l = some s') :
    Delivered s' := by
  intro body i hdelivery
  cases l with
  | receive body' =>
    cases hn
    exact hs body i hdelivery
  | deliver place supply =>
    obtain ⟨body', hidle, -, ⟨e, -, rfl⟩ | ⟨m, c, hread, hc, rfl⟩⟩ := Worker.next_deliver hn
    · exact hs body i hdelivery
    · cases hdelivery
      obtain ⟨s₁, -, rfl⟩ := Config.next_start hc
      refine ⟨⟨⟨.handle m, supply⟩, [], d.serve ⟨.handle m, supply⟩⟩, m, ?_, rfl, hread,
        serve_script d _⟩
      exact List.getElem?_concat_length
  | act a =>
    obtain ⟨howns, c, hc, rfl⟩ := Worker.next_act hn
    obtain ⟨t, m, ht, hm, hread, hscript⟩ := hs body i hdelivery
    rcases Config.after_next hc ht with ht' | ⟨_, o, k, r, -, hr, -, ht'⟩ | ⟨e, rfl, -, -⟩
    · exact ⟨t, m, ht', hm, hread, hscript⟩
    · rw [hr] at hscript
      exact ⟨_, m, ht', hm, hread, hscript.2 r⟩
    · have hsame : s.delivery = some ⟨body, i⟩ := hdelivery
      simp only [Worker.owns, hsame, decide_true] at howns
      cases howns
  | settle =>
    obtain ⟨delivery, t, -, -, settlement, rfl, -⟩ := Worker.next_settle hn
    cases hdelivery
  | crash =>
    rcases Worker.next_crash hn with ⟨-, rfl⟩ | ⟨delivery, c, -, -, rfl⟩
    · exact hs body i hdelivery
    · cases hdelivery

theorem Deliveries.settled_next (hs : Deliveries s) {l : WorkerAction d}
    (hn : (worker d).next s l = some s') :
    ∀ f ∈ s'.forgotten, ∀ m, readDelivery f.body = .ok m → ∃ i, f.thread = some i ∧
      SettledBy s'.config i m := by
  intro f hmem m hread
  -- what was forgotten before was handled to an end before
  have old : f ∈ s.forgotten → ∃ i, f.thread = some i ∧ SettledBy s'.config i m := by
    intro hold
    obtain ⟨i, hi, hsettled⟩ := hs.settled f hold m hread
    exact ⟨i, hi, Worker.keeps (I := fun c => SettledBy c i m) (fun _ _ _ h hn => h.next hn)
      hsettled hn⟩
  cases l with
  | receive body => cases hn; exact old hmem
  | deliver place supply =>
    obtain ⟨body, -, -, ⟨e, hread', rfl⟩ | ⟨m', c, -, -, rfl⟩⟩ := Worker.next_deliver hn
    · rcases List.mem_append.mp hmem with hmem | hmem
      · exact old hmem
      · obtain rfl := List.mem_singleton.mp hmem
        rw [hread'] at hread
        cases hread
    · exact old hmem
  | act a =>
    obtain ⟨-, c, -, rfl⟩ := Worker.next_act hn
    exact old hmem
  | settle =>
    obtain ⟨delivery, t, hdelivery, ht, settlement, rfl, hend⟩ := Worker.next_settle hn
    rcases List.mem_append.mp hmem with hmem | hmem
    · exact old hmem
    · obtain rfl := List.mem_singleton.mp hmem
      obtain ⟨t', m', ht', hm', hread', hscript⟩ := hs.delivered _ _ hdelivery
      obtain rfl := Option.some.inj (ht.symm.trans ht')
      obtain rfl := Except.ok.inj (hread.symm.trans hread')
      refine ⟨delivery.thread, rfl, ?_⟩
      rcases hend with ⟨x, hx, -⟩ | ⟨e, he, -⟩
      · rw [hx] at hscript
        have hserved := hscript m hm'
        cases x with
        | handled text => exact ⟨t, .ok text, ht, hm', by rw [Thread.running, hx]; rfl, hserved⟩
        | quote q => exact hserved.elim
        | payment p => exact hserved.elim
        | applied r => exact hserved.elim
        | synced r => exact hserved.elim
      · rw [he] at hscript
        exact ⟨t, .error e, ht, hm', by rw [Thread.running, he]; rfl, hscript m hm'⟩
  | crash =>
    rcases Worker.next_crash hn with ⟨-, rfl⟩ | ⟨delivery, c, -, -, rfl⟩
    · exact old hmem
    · exact old hmem

/-- **Every action of the worker keeps the invariant.** -/
theorem Deliveries.next (hs : Deliveries s) {l : WorkerAction d}
    (hn : (worker d).next s l = some s') : Deliveries s' where
  integrity := Worker.keeps (fun _ _ _ hI hn => hI.next hn) hs.integrity hn
  announcements := by
    rcases Worker.config_next hn with hsame | ⟨a, ha, -⟩
    · rw [hsame]; exact hs.announcements
    · exact hs.announcements.next hs.integrity ha
  alone := hs.alone_next hn
  delivered := Delivered.next hs.delivered hn
  settled := hs.settled_next hn
  marked := by
    rcases Worker.config_next hn with hsame | ⟨a, ha, -⟩
    · rw [hsame]; exact hs.marked
    · exact marked_next hs.announcements.obedient ha hs.marked

theorem deliveries_start (queue : List ByteArray) : Deliveries (Worker.start d queue) where
  integrity := integrity_start
  announcements := announcements_start
  alone := fun i t m ht => by cases ht
  delivered := fun _ _ h => by cases h
  settled := fun _ h => absurd h List.not_mem_nil
  marked := fun _ h => by cases h

/-- **The invariant holds in every run of the worker**, in any order of deliveries, wherever steps
    raise and the process stops. -/
theorem deliveries {ok : Worker d → WorkerAction d → Prop} {queue : List ByteArray}
    {ls : List (WorkerAction d)} (H : (worker d).Path ok (Worker.start d queue) ls s) :
    Deliveries s :=
  H.invariant (deliveries_start queue) fun _ _ _ hs _ hn => hs.next hn

end Billing

/-
  The worker drains its queue, although its own events come back to it.

  With no other producer, all that happens is that the worker takes deliveries, handles them and
  settles them.  `Turn` says what each of these does to what matters: the queue, and the delivery in
  hand with the steps that its handling has done.  Only the handling of an `OS_OPENED` message ever
  publishes, at most once, and what it publishes is no `OS_OPENED` message (`turn`).

  So an `OS_OPENED` message is worth two deliveries and any other one: that measure pays for every
  delivery (`deliveriesLeft`), and with six actions to a delivery it pays for every action
  (`actionsLeft`).  As long as something is left, the worker can go on (`worker_goes_on`).
-/
import Billing.Proofs.Deliveries
import Billing.Session

namespace Billing

open Py Atomic Program

/-! ## What is left to do -/

section Measure

variable [Python] {d : Deployment}

/-- Is the body an `OS_OPENED` message? -/
def opensOrder (body : ByteArray) : Bool :=
  match readDelivery body with
  | .ok m => decide (m.eventType = "OS_OPENED")
  | .error _ => false

/-- The worker's own work: it takes deliveries, handles them and settles them. -/
def ownWork (_ : Worker d) : WorkerAction d → Prop
  | .deliver _ _ => True
  | .act (.step _ _) => True
  | .settle => True
  | _ => False

/-- Is it a delivery? -/
def isDelivery : WorkerAction d → Bool
  | .deliver _ _ => true
  | _ => false

/-- The messages of a queue, the `OS_OPENED` ones twice. -/
def load (queue : List ByteArray) : Nat := queue.length + queue.countP opensOrder

/-- Was an event published? -/
def published (history : List Event) : Bool :=
  history.any fun done => match done.op with
    | .publish _ => true
    | _ => false

/-- The queue, and the delivery in hand with what was done for it. -/
abbrev Hand : Type := List ByteArray × Option (ByteArray × List Event)

/-- The queue of a worker, and its delivery. -/
def Worker.hand (s : Worker d) : Hand :=
  (s.queue, s.delivery.bind fun delivery =>
    (s.config.threads[delivery.thread]?).map fun t => (delivery.body, t.history))

/-- How many deliveries there can still be. -/
def deliveriesLeft : Hand → Nat
  | (queue, none) => load queue
  | (queue, some (body, history)) =>
    load queue + if opensOrder body = true ∧ published history = false then 1 else 0

/-- How many actions there can still be: six for each delivery, and in hand the steps and the
    settlement. -/
def actionsLeft (h : Hand) : Nat :=
  6 * deliveriesLeft h + match h.2 with
    | none => 0
    | some (_, history) => 4 - history.length + 1

/-- What an action of the worker's own work does. -/
inductive Turn : Hand → WorkerAction d → Hand → Prop
  /-- The message cannot be read. -/
  | drops {queue : List ByteArray} {place : Nat} {body : ByteArray} (supply : Supply)
      (hbody : queue[place]? = some body) :
      Turn (queue, none) (.deliver place supply) (queue.eraseIdx place, none)
  /-- The message is given to the handler. -/
  | takes {queue : List ByteArray} {place : Nat} {body : ByteArray} (supply : Supply)
      (hbody : queue[place]? = some body) :
      Turn (queue, none) (.deliver place supply) (queue.eraseIdx place, some (body, []))
  /-- The handler does a step that leaves the queue alone. -/
  | works {queue : List ByteArray} {body : ByteArray} {history : List Event} {done : Event}
      (a : Action (system sql d)) (hlength : history.length ≤ 3) :
      Turn (queue, some (body, history)) (.act a) (queue, some (body, history ++ [done]))
  /-- The handler publishes an event, for the first time. -/
  | announces {queue : List ByteArray} {body new : ByteArray} {history : List Event} {done : Event}
      (a : Action (system sql d)) (hlength : history.length ≤ 3) (hopens : opensOrder body = true)
      (hfirst : published history = false) (hlast : published (history ++ [done]) = true)
      (hnew : opensOrder new = false) :
      Turn (queue, some (body, history)) (.act a) (queue ++ [new], some (body, history ++ [done]))
  /-- The delivery is settled. -/
  | settles {queue : List ByteArray} {body : ByteArray} {history : List Event} :
      Turn (queue, some (body, history)) .settle (queue, none)

/-- A message that is delivered is not in the queue any more. -/
theorem load_eraseIdx {queue : List ByteArray} {place : Nat} {body : ByteArray}
    (h : queue[place]? = some body) :
    load (queue.eraseIdx place) + (1 + if opensOrder body = true then 1 else 0) = load queue := by
  obtain ⟨hlt, rfl⟩ := List.getElem?_eq_some_iff.mp h
  have hperm := List.getElem_cons_eraseIdx_perm hlt
  have hlength := hperm.length_eq
  have hcount := hperm.countP_eq opensOrder
  rw [List.length_cons] at hlength
  rw [List.countP_cons] at hcount
  unfold load
  omega

theorem load_append {queue : List ByteArray} {new : ByteArray} (h : opensOrder new = false) :
    load (queue ++ [new]) = load queue + 1 := by
  unfold load
  rw [List.countP_append, List.countP_singleton, h, List.length_append, List.length_singleton]
  simp only [Bool.false_eq_true, if_false]
  omega

omit [Python] in
theorem published_append (history : List Event) (done : Event) (h : published history = true) :
    published (history ++ [done]) = true := by
  unfold published at h ⊢
  rw [List.any_append, h, Bool.true_or]

/-- **Every delivery is paid for.** -/
theorem Turn.delivery {h h' : Hand} {l : WorkerAction d} (ht : Turn h l h') :
    deliveriesLeft h' + (if isDelivery l then 1 else 0) ≤ deliveriesLeft h := by
  cases ht with
  | drops supply hbody =>
    have hload := load_eraseIdx hbody
    show load _ + 1 ≤ load _
    omega
  | @takes queue place body supply hbody =>
    have hload := load_eraseIdx hbody
    show load _ + (if opensOrder body = true ∧ published [] = false then 1 else 0) + 1 ≤ load _
    have hnone : published [] = false := rfl
    simp only [hnone, and_true]
    omega
  | @works queue body history done a hlength =>
    show load queue + _ + 0 ≤ load queue + _
    by_cases hpub : published history = true
    · have hlast := published_append history done hpub
      simp only [hpub, hlast]
      omega
    · have hfirst : published history = false := Bool.not_eq_true _ ▸ hpub
      simp only [hfirst, and_true]
      split_ifs with h1 h2
      · omega
      · exact absurd h1.1 h2
      · omega
      · omega
  | @announces queue body new history done a hlength hopens hfirst hlast hnew =>
    show load (queue ++ [new]) + _ + 0 ≤ load queue + _
    rw [load_append hnew, hlast, if_neg (fun h => Bool.noConfusion h.2), if_pos ⟨hopens, hfirst⟩]
  | settles =>
    show load _ + 0 ≤ load _ + _
    omega

/-- **And so is every action.** -/
theorem Turn.action {h h' : Hand} {l : WorkerAction d} (ht : Turn h l h') :
    actionsLeft h' + 1 ≤ actionsLeft h := by
  have hdelivery := ht.delivery
  unfold actionsLeft
  cases ht with
  | drops supply hbody =>
    have hpaid : deliveriesLeft _ + 1 ≤ deliveriesLeft _ := hdelivery
    show 6 * deliveriesLeft _ + 0 + 1 ≤ 6 * deliveriesLeft _ + 0
    omega
  | takes supply hbody =>
    have hpaid : deliveriesLeft _ + 1 ≤ deliveriesLeft _ := hdelivery
    show 6 * deliveriesLeft _ + (4 - 0 + 1) + 1 ≤ 6 * deliveriesLeft _ + 0
    omega
  | @works queue body history done a hlength =>
    have hpaid : deliveriesLeft _ + 0 ≤ deliveriesLeft _ := hdelivery
    show 6 * deliveriesLeft _ + (4 - (history ++ [done]).length + 1) + 1 ≤
      6 * deliveriesLeft _ + (4 - history.length + 1)
    rw [List.length_append, List.length_singleton]
    omega
  | @announces queue body new history done a hlength hopens hfirst hlast hnew =>
    have hpaid : deliveriesLeft _ + 0 ≤ deliveriesLeft _ := hdelivery
    show 6 * deliveriesLeft _ + (4 - (history ++ [done]).length + 1) + 1 ≤
      6 * deliveriesLeft _ + (4 - history.length + 1)
    rw [List.length_append, List.length_singleton]
    omega
  | @settles queue body history =>
    have hpaid : deliveriesLeft _ + 0 ≤ deliveriesLeft _ := hdelivery
    show 6 * deliveriesLeft _ + 0 + 1 ≤ 6 * deliveriesLeft _ + (4 - history.length + 1)
    omega

/-- **No `OS_OPENED` message is added to the queue.** -/
theorem Turn.opens {h h' : Hand} {l : WorkerAction d} (ht : Turn h l h') :
    (h'.1.filter opensOrder).Sublist (h.1.filter opensOrder) := by
  cases ht with
  | drops supply hbody => exact (List.eraseIdx_sublist _ _).filter _
  | takes supply hbody => exact (List.eraseIdx_sublist _ _).filter _
  | works a hlength => exact List.Sublist.refl _
  | announces a hlength hopens hfirst hlast hnew =>
    show (List.filter opensOrder (_ ++ [_])).Sublist _
    rw [List.filter_append, List.filter_cons_of_neg (by rw [hnew]; exact Bool.false_ne_true),
      List.filter_nil, List.append_nil]
  | settles => exact List.Sublist.refl _

end Measure

/-! ## What the worker does -/

section Turns

variable [Python] {d : Deployment} {s s' : Worker d} {l : WorkerAction d}

/-- No event of the service is an `OS_OPENED` message. -/
theorem opensOrder_body {e : DomainEvent} (hkeys : (e.payload.map Prod.fst).Nodup) :
    opensOrder e.body = false := by
  unfold opensOrder
  rw [readDelivery_body hkeys]
  show decide (e.eventType.text = "OS_OPENED") = false
  cases e.eventType <;> rfl

/-- The keys of the payload of a quote's event differ. -/
theorem opensOrder_created (q : Quote) (stamp : Stamp) :
    opensOrder (q.event .quoteCreated [("quote_id", q.quoteId)] stamp).body = false := by
  refine opensOrder_body ?_
  show ["service_order_id", "quote_id"].Nodup
  decide

/-- **A step of a handling** is one of its first four.  If it publishes, the message is an `OS_OPENED`
    one, nothing was published before, and the event is none. -/
theorem handles_bounds {m : EventMessage} {supply : Supply} {h : List Event} {o : Port}
    (hs : d.handler.Handles m supply h o) :
    h.length ≤ 3 ∧ ∀ e, o = .publish e →
      m.eventType = "OS_OPENED" ∧ published h = false ∧ opensOrder e.body = false := by
  cases o with
  | isProcessed eventId =>
    obtain ⟨rfl, -⟩ := hs
    exact ⟨Nat.zero_le 3, fun e he => by cases he⟩
  | quoteSave q =>
    obtain ⟨-, rfl, -⟩ := hs
    exact ⟨Nat.le_add_left 1 2, fun e he => by cases he⟩
  | publish e =>
    obtain ⟨htype, q, hopening, rfl⟩ := hs
    refine ⟨Nat.le_succ 2, fun e' he => ?_⟩
    obtain rfl := Port.publish.inj he
    obtain ⟨command, -, hcreate⟩ := BillingIntegrationEventHandler.opening_eq_ok hopening
    obtain ⟨-, -, -, -, -, hevent⟩ := CreateQuoteUseCase.opening_eq_ok hcreate
    refine ⟨htype, rfl, ?_⟩
    rw [hevent]
    exact opensOrder_created q supply.first
  | markProcessed eventId eventType correlationId =>
    obtain ⟨-, -, -, -, q, e, -, rfl⟩ := hs
    exact ⟨Nat.le_refl 3, fun e he => by cases he⟩
  | quoteGet id => exact hs.elim
  | quoteAssign q => exact hs.elim
  | paymentGet id => exact hs.elim
  | paymentSave p => exact hs.elim
  | paymentAssign p => exact hs.elim
  | sdk call => exact hs.elim

theorem Worker.hand_idle (h : s.delivery = none) : s.hand = (s.queue, none) := by
  unfold Worker.hand
  rw [h]
  rfl

theorem Worker.hand_busy {body : ByteArray} {i : Nat} {t : Thread (system sql d)}
    (h : s.delivery = some ⟨body, i⟩) (ht : s.config.threads[i]? = some t) :
    s.hand = (s.queue, some (body, t.history)) := by
  unfold Worker.hand
  rw [h, Option.bind_some, ht]
  rfl

theorem Worker.hand_acts {c : Config (system sql d)} {body : ByteArray} {i : Nat}
    {t : Thread (system sql d)} (h : s.delivery = some ⟨body, i⟩) (ht : c.threads[i]? = some t) :
    (s.acts c).hand =
      (s.queue ++ (c.state.accepted.drop s.config.state.accepted.length).map DomainEvent.body,
        some (body, t.history)) := Worker.hand_busy h ht

/-- The delivery in hand is handled by its thread, and nothing else is going on. -/
structure Working (s : Worker d) : Prop where
  delivered : Delivered s
  alone : ∀ (i : Nat) (t : Thread (system sql d)), s.config.threads[i]? = some t →
    t.running = true → ∃ body, s.delivery = some ⟨body, i⟩

/-- A worker that has nothing in hand. -/
theorem Working.of_idle (hidle : s.delivery = none) (hrest : s.config.atRest = true) : Working s where
  delivered := fun body i h => by rw [hidle] at h; cases h
  alone := fun i t ht hrun => by
    have hended := Config.atRest_iff.mp hrest t (List.mem_of_getElem? ht)
    rw [hrun] at hended
    cases hended

/-- With nothing in hand, no thread is running. -/
theorem Working.atRest (hs : Working s) (hidle : s.delivery = none) : s.config.atRest = true := by
  refine Config.atRest_iff.mpr fun t ht => ?_
  obtain ⟨i, hi⟩ := List.getElem?_of_mem ht
  by_contra hrun
  obtain ⟨body, hbody⟩ := hs.alone i t hi (Bool.not_eq_false _ ▸ hrun)
  rw [hidle] at hbody
  cases hbody

/-- **The worker's own work keeps it so.** -/
theorem Working.next (hs : Working s) (hok : ownWork s l) (hn : (worker d).next s l = some s') :
    Working s' := by
  refine ⟨Delivered.next hs.delivered hn, fun i t ht hrun => ?_⟩
  cases l with
  | receive body => exact hok.elim
  | crash => exact hok.elim
  | deliver place supply =>
    obtain ⟨body, hidle, -, ⟨e, -, rfl⟩ | ⟨m, c, -, hc, rfl⟩⟩ := Worker.next_deliver hn
    · exact hs.alone i t ht hrun
    · obtain ⟨w, -, rfl⟩ := Config.next_start hc
      rcases getElem?_append_cases ht with ht | ⟨rfl, -⟩
      · have hended := Config.atRest_iff.mp (hs.atRest hidle) t (List.mem_of_getElem? ht)
        rw [hrun] at hended
        cases hended
      · exact ⟨body, rfl⟩
  | act a =>
    obtain ⟨-, c, hc, rfl⟩ := Worker.next_act hn
    cases a with
    | start req => exact hok.elim
    | abort i e => exact hok.elim
    | step j fate =>
      obtain ⟨t₀, o, k, r, w, h₀, hr, -, rfl⟩ := Config.next_step hc
      rcases getElem?_set_cases ht with ⟨rfl, -⟩ | ⟨-, ht⟩
      · exact hs.alone j t₀ h₀ (by rw [Thread.running, hr]; rfl)
      · exact hs.alone i t ht hrun
  | settle =>
    obtain ⟨delivery, u, hdelivery, hu, settlement, rfl, hend⟩ := Worker.next_settle hn
    obtain ⟨body, hbody⟩ := hs.alone i t ht hrun
    rw [hdelivery] at hbody
    obtain rfl := Option.some.inj hbody
    obtain rfl := Option.some.inj (hu.symm.trans ht)
    rcases hend with ⟨x, hx, -⟩ | ⟨e, he, -⟩
    · rw [Thread.running, hx] at hrun; cases hrun
    · rw [Thread.running, he] at hrun; cases hrun

/-- A step of the worker's own work is a step of the handling in hand. -/
theorem turn_step (hs : Working s) {i : Nat} {fate : Fate}
    (hn : (worker d).next s (.act (.step i fate)) = some s') :
    Turn s.hand (.act (.step i fate) : WorkerAction d) s'.hand := by
  obtain ⟨-, c, hc, rfl⟩ := Worker.next_act hn
  obtain ⟨t, o, k, r, w, ht, hr, hx, hconfig⟩ := Config.next_step hc
  obtain ⟨body, hdelivery⟩ := hs.alone i t ht (by rw [Thread.running, hr]; rfl)
  obtain ⟨t', m, ht', hm, hread, hscript⟩ := hs.delivered body i hdelivery
  obtain rfl := Option.some.inj (ht.symm.trans ht')
  rw [hr] at hscript
  have hhandles : d.handler.Handles m t.req.supply t.history o := by
    have hserves := hscript.1
    unfold Serves at hserves
    rw [hm] at hserves
    exact hserves
  obtain ⟨hlength, hpublish⟩ := handles_bounds hhandles
  have hthread : c.threads[i]? = some ⟨t.req, t.history ++ [⟨o, r⟩], k r⟩ := by
    rw [hconfig, List.getElem?_set_self (List.getElem?_eq_some_iff.mp ht).1]
  have hstate : c.state = w := by rw [hconfig]
  rw [Worker.hand_busy hdelivery ht, Worker.hand_acts hdelivery hthread, hstate]
  -- what the publisher accepted comes to the queue
  rcases exec_published hx with ⟨-, hsame⟩ | ⟨e, rfl, -, -, hsent | hsame⟩
  · rw [hsame, List.drop_length, List.map_nil, List.append_nil]
    exact .works _ hlength
  · obtain ⟨htype, hfirst, hnew⟩ := hpublish e rfl
    rw [hsent, List.drop_left, List.map_singleton]
    refine .announces _ hlength ?_ hfirst ?_ hnew
    · unfold opensOrder
      rw [hread]
      exact decide_eq_true htype
    · unfold published
      rw [List.any_append, List.any_cons, Bool.true_or, Bool.or_true]
  · rw [hsame, List.drop_length, List.map_nil, List.append_nil]
    exact .works _ hlength

/-- **What the worker's own work does.** -/
theorem turn (hs : Working s) (hok : ownWork s l) (hn : (worker d).next s l = some s') :
    Turn s.hand l s'.hand := by
  cases l with
  | receive body => exact hok.elim
  | crash => exact hok.elim
  | deliver place supply =>
    obtain ⟨body, hidle, hbody, ⟨e, -, rfl⟩ | ⟨m, c, -, hc, rfl⟩⟩ := Worker.next_deliver hn
    · rw [Worker.hand_idle hidle, Worker.hand_idle (by exact hidle)]
      exact .drops supply hbody
    · obtain ⟨w, -, rfl⟩ := Config.next_start hc
      rw [Worker.hand_idle hidle, Worker.hand_busy rfl List.getElem?_concat_length]
      exact .takes supply hbody
  | act a =>
    cases a with
    | start req => exact hok.elim
    | abort i e => exact hok.elim
    | step i fate => exact turn_step hs hn
  | settle =>
    obtain ⟨⟨body, i⟩, t, hdelivery, ht, settlement, rfl, -⟩ := Worker.next_settle hn
    rw [Worker.hand_busy hdelivery ht, Worker.hand_idle rfl]
    exact .settles

end Turns

/-! ## The queue empties -/

section Drains

variable [Python] {d : Deployment} {s₀ s : Worker d} {ls : List (WorkerAction d)}

omit [Python] in
/-- Each id is in one supply at most, so only finitely many supplies are not fresh. -/
theorem IdStream.fresh_from (ids : IdStream) (issued : List String) :
    ∃ N, ∀ n, N ≤ n → (ids.supply n).Fresh issued := by
  induction issued with
  | nil => exact ⟨0, fun n _ => ⟨ids.nodup n, fun _ _ => List.not_mem_nil⟩⟩
  | cons id issued ih =>
    obtain ⟨N, hN⟩ := ih
    by_cases hdrawn : ∃ n, id ∈ (ids.supply n).ids
    · obtain ⟨n₀, hn₀⟩ := hdrawn
      refine ⟨N + n₀ + 1, fun n hn => ⟨ids.nodup n, fun id' hid' hmem => ?_⟩⟩
      rcases List.mem_cons.mp hmem with rfl | hmem
      · have := ids.disjoint n n₀ id' hid' hn₀
        omega
      · exact (hN n (by omega)).2 id' hid' hmem
    · refine ⟨N, fun n hn => ⟨ids.nodup n, fun id' hid' hmem => ?_⟩⟩
      rcases List.mem_cons.mp hmem with rfl | hmem
      · exact hdrawn ⟨n, hid'⟩
      · exact (hN n hn).2 id' hid' hmem

/-- **The worker goes on** as long as it has something in hand or something is in the queue. -/
theorem worker_goes_on (hs : Working s) (hleft : ¬ (s.queue = [] ∧ s.delivery = none)) :
    ∃ l s', ownWork s l ∧ (worker d).next s l = some s' := by
  cases hdelivery : s.delivery with
  | none =>
    obtain ⟨body, hbody⟩ : ∃ body, s.queue[0]? = some body := by
      cases hqueue : s.queue with
      | nil => exact absurd ⟨hqueue, hdelivery⟩ hleft
      | cons body rest => exact ⟨body, rfl⟩
    obtain ⟨N, hfresh⟩ := Sample.stream.fresh_from s.config.state.issued
    have harrive : ∀ req : Request, req.supply = Sample.stream.supply N →
        ∃ c, s.config.next (.start req) = some c := by
      intro req hreq
      have hw : s.config.state.arrive req =
          some { s.config.state with issued := req.supply.ids ++ s.config.state.issued } :=
        if_pos (hreq ▸ hfresh N (Nat.le_refl N))
      exact ⟨_, Config.next_start_of hw⟩
    have hdeliver : ∃ s', s.deliver 0 (Sample.stream.supply N) = some s' := by
      unfold Worker.deliver
      rw [hdelivery, hbody]
      simp only
      split
      · exact ⟨_, rfl⟩
      · rename_i m _
        obtain ⟨c, hc⟩ := harrive ⟨.handle m, Sample.stream.supply N⟩ rfl
        rw [hc]
        exact ⟨_, rfl⟩
    obtain ⟨s', hs'⟩ := hdeliver
    exact ⟨.deliver 0 (Sample.stream.supply N), s', trivial, hs'⟩
  | some delivery =>
    obtain ⟨body, i⟩ := delivery
    obtain ⟨⟨req, h, rest⟩, m, ht, -⟩ := hs.delivered body i hdelivery
    cases rest with
    | ret x =>
      have hsettle : s.settle = some { s with
          delivery := none
          forgotten := s.forgotten ++ [⟨body, .ack, some i⟩] } := by
        simp only [Worker.settle, hdelivery, ht]
      exact ⟨.settle, _, trivial, hsettle⟩
    | raise e =>
      have hsettle : s.settle = some { s with
          delivery := none
          forgotten := s.forgotten ++ [⟨body, .nack, some i⟩] } := by
        simp only [Worker.settle, hdelivery, ht]
      exact ⟨.settle, _, trivial, hsettle⟩
    | step o k =>
      obtain ⟨⟨r, w⟩, hx⟩ :=
        Option.isSome_iff_exists.mp (exec_fate_isSome s.config.state noAnswers o)
      have hnext := Config.next_step_of (M := system sql d) ht hx
      have hact : ∃ s', (worker d).next s (.act (.step i (noAnswers.fate o))) = some s' := by
        show ∃ s', (if s.owns (.step i (noAnswers.fate o)) then none
          else (s.config.next (.step i (noAnswers.fate o))).map s.acts) = some s'
        rw [if_neg (by exact Bool.false_ne_true), hnext]
        exact ⟨_, rfl⟩
      obtain ⟨s', hs'⟩ := hact
      exact ⟨.act (.step i (noAnswers.fate o)), s', trivial, hs'⟩

/-- The deliveries of a run, counted. -/
theorem sum_isDelivery (ls : List (WorkerAction d)) :
    (ls.map fun l => if isDelivery l then 1 else 0).sum = ls.countP isDelivery := by
  induction ls with
  | nil => rfl
  | cons l ls ih =>
    rw [List.map_cons, List.sum_cons, ih, List.countP_cons]
    omega

/-- **The worker does not feed itself forever.**  Left to its own work it takes at most one delivery
    for each message of the queue and one more for each `OS_OPENED` message of it, wherever steps
    raise and in whatever order the messages come; no `OS_OPENED` message is added to the queue; and
    when nothing more can happen, the queue is empty. -/
theorem worker_drains (H : (worker d).Path ownWork s₀ ls s) (hidle : s₀.delivery = none)
    (hrest : s₀.config.atRest = true) :
    ls.countP isDelivery ≤ s₀.queue.length + s₀.queue.countP opensOrder ∧
      ls.length ≤ 6 * (s₀.queue.length + s₀.queue.countP opensOrder) ∧
      (s.queue.filter opensOrder).Sublist (s₀.queue.filter opensOrder) ∧
      ((∀ l s', ownWork s l → (worker d).next s l ≠ some s') → s.queue = [] ∧ s.delivery = none) := by
  have h0 : Working s₀ := .of_idle hidle hrest
  have hstep : ∀ s l s', Working s → ownWork s l → (worker d).next s l = some s' → Working s' :=
    fun _ _ _ hs hok hn => hs.next hok hn
  have hhand : s₀.hand = (s₀.queue, none) := Worker.hand_idle hidle
  refine ⟨?_, ?_, ?_, fun hstuck => ?_⟩
  · have hpaid : deliveriesLeft s.hand + (ls.map fun l => if isDelivery l then 1 else 0).sum ≤
        deliveriesLeft s₀.hand :=
      H.cost_le h0 hstep fun _ _ _ hs hok hn => (turn hs hok hn).delivery
    rw [sum_isDelivery, hhand] at hpaid
    have hload : deliveriesLeft (s₀.queue, none) = s₀.queue.length + s₀.queue.countP opensOrder := rfl
    omega
  · have hpaid : actionsLeft s.hand + (ls.map fun _ => 1).sum ≤ actionsLeft s₀.hand :=
      H.cost_le h0 hstep fun _ _ _ hs hok hn => (turn hs hok hn).action
    rw [List.map_const', List.sum_replicate_nat, Nat.mul_one, hhand] at hpaid
    have hload : actionsLeft (s₀.queue, none) =
      6 * (s₀.queue.length + s₀.queue.countP opensOrder) := rfl
    omega
  · refine (H.invariant (I := fun s => Working s ∧
      (s.queue.filter opensOrder).Sublist (s₀.queue.filter opensOrder)) ⟨h0, List.Sublist.refl _⟩ ?_).2
    intro s l s' hs hok hn
    have hopens : (s'.queue.filter opensOrder).Sublist (s.queue.filter opensOrder) :=
      (turn hs.1 hok hn).opens
    exact ⟨hs.1.next hok hn, hopens.trans hs.2⟩
  · by_contra hleft
    obtain ⟨l, s', hok, hn⟩ := worker_goes_on (H.invariant h0 hstep) hleft
    exact hstuck l s' hok hn

end Drains

section Samples

open Sample

instance (s : Worker mock) : ∀ l, Decidable (ownWork s l)
  | .deliver _ _ => isTrue trivial
  | .act (.step _ _) => isTrue trivial
  | .settle => isTrue trivial
  | .act (.start _) => isFalse id
  | .act (.abort _ _) => isFalse id
  | .receive _ => isFalse id
  | .crash => isFalse id

/-- An `OS_OPENED` message and one that cannot be read. -/
def Sample.mixed : List ByteArray := [osOpened "e" "o", ⟨#[255]⟩]

/-- The first makes the event of a quote, which is taken after the second. -/
def Sample.drained : List (WorkerAction mock) :=
  [deliver "1"] ++ run 0 4 ++ [.settle, deliver "2", deliver "3"] ++ run 1 1 ++ [.settle]

theorem worker_drains_mixed :
    ∃ s : Worker mock, s.queue.length = 0 ∧ drained.countP isDelivery ≤
      (Worker.start mock mixed).queue.length + (Worker.start mock mixed).queue.countP opensOrder := by
  have hplay : ((worker mock).play ownWork (Worker.start mock mixed) drained).map
      (fun s => s.queue.length) = some 0 := by decide +kernel
  obtain ⟨s, hs, hqueue⟩ := Option.map_eq_some_iff.mp hplay
  have H : (worker mock).Path ownWork (Worker.start mock mixed) drained s := Machine.play_path hs
  have hbound := (worker_drains H rfl rfl).1
  exact ⟨s, hqueue, hbound⟩

end Samples

end Billing

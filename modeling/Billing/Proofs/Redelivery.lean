/-
  Deliveries of one event, and the quotes that they leave.

  The handler looks the event up, saves the quote, publishes it and only then marks the event, each in
  a transaction of its own.  A handling that stops between the save and the mark leaves a quote that
  nothing says was made (`unfinished`), and the next delivery of the event makes another one
  (`second_quote`).  That is the only way:

  * `resumesNone` — no handling saves its quote while an earlier one of its event is `unfinished`.

  In the runs that meet it every event has at most one quote, whatever is redelivered, in any order,
  and wherever steps raise and the process stops.  The invariant behind it is `unmarked`: only the
  thread of the unsettled delivery marks events, so what a handling read about its event is still so
  when it saves the quote.
-/
import Billing.Proofs.Deliveries

namespace Billing

open Py Atomic Program

section Runs

variable [Python] {d : Deployment}

/-! ## What is left on account of an event -/

/-- The thread handles a message of the event. -/
def handles (eventId : String) (t : Thread (system sql d)) : Bool :=
  match t.req.command with
  | .handle m => decide (m.eventId = eventId)
  | _ => false

theorem handles_iff {eventId : String} {t : Thread (system sql d)} :
    handles eventId t = true ↔ ∃ m, t.req.command = .handle m ∧ m.eventId = eventId := by
  unfold handles
  constructor
  · intro h
    split at h
    · rename_i m hm
      exact ⟨m, hm, of_decide_eq_true h⟩
    · cases h
  · rintro ⟨m, hm, hid⟩
    rw [hm]
    exact decide_eq_true hid

/-- The ids that the handlings of an event drew for their quotes. -/
def quotesOf (c : Config (system sql d)) (eventId : String) : List String :=
  (c.threads.filter (handles eventId)).map fun t => t.req.supply.quoteId

theorem mem_quotesOf {c : Config (system sql d)} {eventId id : String} :
    id ∈ quotesOf c eventId ↔ ∃ t ∈ c.threads, ∃ m, t.req.command = .handle m ∧ m.eventId = eventId ∧
      t.req.supply.quoteId = id := by
  unfold quotesOf
  rw [List.mem_map]
  constructor
  · rintro ⟨t, ht, hid⟩
    obtain ⟨hmem, hhandles⟩ := List.mem_filter.mp ht
    obtain ⟨m, hm, heq⟩ := handles_iff.mp hhandles
    exact ⟨t, hmem, m, hm, heq, hid⟩
  · rintro ⟨t, hmem, m, hm, heq, hid⟩
    exact ⟨t, List.mem_filter.mpr ⟨hmem, handles_iff.mpr ⟨m, hm, heq⟩⟩, hid⟩

/-- At most one quote is stored, and at most one `QUOTE_CREATED` was published, on account of the
    event. -/
structure OnceOnly (c : Config (system sql d)) (eventId : String) : Prop where
  quotes : (c.state.store.quotes.rows.filter fun row =>
    decide (row.quoteId ∈ quotesOf c eventId)).length ≤ 1
  events : (c.state.accepted.filter fun e =>
    e.newQuote.any fun id => decide (id ∈ quotesOf c eventId)).length ≤ 1

/-! ## The condition -/

/-- The write is committed. -/
def Fate.commits : Fate → Bool
  | proceeds => true
  | answers _ => false
  | raises _ committed => committed

/-- The event is not marked, but a handling of it has its quote stored. -/
def Worker.unfinished (s : Worker d) (eventId : String) : Bool :=
  !SqlAlchemyProcessedEventRepository.isProcessed s.config.state.store eventId &&
    s.config.threads.any fun t =>
      handles eventId t && (s.config.state.store.quotes.find? t.req.supply.quoteId).isSome

/-- A handling commits its quote while an earlier one of its event is unfinished. -/
def Worker.repeats (s : Worker d) (fate : Fate) : Option (Request × List Event × Port) → Bool
  | some (⟨.handle m, _⟩, _, .quoteSave _) => fate.commits && s.unfinished m.eventId
  | _ => false

/-- **The condition**: a handling does not save its quote while an earlier one of its event stopped
    between its save and its mark. -/
def resumesNone (s : Worker d) (l : WorkerAction d) : Bool :=
  match l with
  | .act (.step i fate) => !s.repeats fate (s.config.doing (.step i fate))
  | _ => true

/-! ## The invariant -/

/-- The quote of this id is stored. -/
def Database.StoresQuote (db : Database) (id : String) : Prop := ∃ q, db.HasQuote q ∧ q.quoteId = id

omit [Python] in
theorem Database.storesQuote_iff {db : Database} {id : String} :
    db.StoresQuote id ↔ (db.quotes.find? id).isSome = true := by
  constructor
  · rintro ⟨q, hq, rfl⟩
    rw [hq]
    rfl
  · intro h
    obtain ⟨row, hrow⟩ := Option.isSome_iff_exists.mp h
    obtain ⟨q, rfl, hq⟩ := Database.hasQuote_of_mem (Keyed.Table.mem_of_find? hrow)
    have hid : (QuoteRow.ofQuote q).quoteId = id := Keyed.Table.key_of_find? hrow
    exact ⟨q, hq, hid⟩

/-- **The invariant of the runs that meet the condition.** -/
structure Redelivery (s : Worker d) : Prop where
  deliveries : Deliveries s
  unmarked : ∀ (i : Nat) (t : Thread (system sql d)) (m : EventMessage), s.config.threads[i]? = some t →
    t.req.command = .handle m → t.running = true → t.history = [⟨.isProcessed m.eventId, .ok false⟩] →
    SqlAlchemyProcessedEventRepository.isProcessed s.config.state.store m.eventId = false
  once : ∀ req ∈ s.config.reqs, ∀ req' ∈ s.config.reqs, ∀ m m', req.command = .handle m →
    req'.command = .handle m' → m.eventId = m'.eventId →
    s.config.state.store.StoresQuote req.supply.quoteId →
    s.config.state.store.StoresQuote req'.supply.quoteId → req.supply.quoteId = req'.supply.quoteId

section Next

variable {s s' : Worker d} {l : WorkerAction d}

/-- **What a handling read about its event is still so when it saves the quote.** -/
theorem Redelivery.unmarked_next (hs : Redelivery s) (hn : (worker d).next s l = some s') :
    ∀ (i : Nat) (t : Thread (system sql d)) (m : EventMessage), s'.config.threads[i]? = some t →
      t.req.command = .handle m → t.running = true →
      t.history = [⟨.isProcessed m.eventId, .ok false⟩] →
      SqlAlchemyProcessedEventRepository.isProcessed s'.config.state.store m.eventId = false := by
  intro i t m ht hm hrun hhistory
  rcases Worker.config_next hn with hsame | ⟨a, ha, -⟩
  · rw [hsame] at ht ⊢
    exact hs.unmarked i t m ht hm hrun hhistory
  · rcases Config.at_next ha ht with ht | ⟨_, _, _, rfl⟩ | ⟨ch, t₀, o, k, r, _, _, _, hx, rfl⟩ |
      ⟨_, _, _, _, _, rfl⟩
    · have hfalse := hs.unmarked i t m ht hm hrun hhistory
      rcases processed_next hs.deliveries.announcements.obedient ha with
        hsame | ⟨j, fate, u, m', -, hasks, hm', hhandles, -⟩
      · unfold SqlAlchemyProcessedEventRepository.isProcessed at hfalse ⊢
        rw [hsame]
        exact hfalse
      · -- whoever marks an event is handling a message, and so is this very thread
        obtain ⟨k, hk⟩ := hasks.2
        obtain ⟨body, hbody⟩ := hs.deliveries.alone i t m ht hm hrun
        obtain ⟨body', hbody'⟩ := hs.deliveries.alone j u m' hasks.1 hm' (by rw [Thread.running, hk]; rfl)
        rw [hbody] at hbody'
        obtain ⟨rfl, rfl⟩ := Delivery.mk.inj (Option.some.inj hbody')
        obtain rfl := Option.some.inj (ht.symm.trans hasks.1)
        obtain ⟨-, -, -, -, q, e, -, hlong⟩ := hhandles
        rw [hhistory] at hlong
        simp at hlong
    · cases hhistory
    · -- the thread has just read it
      obtain ⟨-, hdone⟩ := List.append_inj' (show t₀.history ++ [⟨o, r⟩] = [] ++ [_] from hhistory) rfl
      obtain ⟨rfl, hr⟩ := Done.mk.inj (List.cons.inj hdone).1
      obtain rfl := eq_of_heq hr
      obtain ⟨hw, hprocessed⟩ := exec_isProcessed hx
      rw [hw]
      exact hprocessed
    · cases hrun

/-- A request that has just arrived has no quote. -/
theorem storesQuote_start {c c' : Config (system sql d)} {req : Request} (hI : Integrity c)
    (hn : c.next (.start req) = some c') : ¬ c'.state.store.StoresQuote req.supply.quoteId := by
  rintro ⟨q, hq, hid⟩
  rcases hI.hasQuote_next hn hq with ⟨q₀, hq₀, hid₀⟩ | ⟨i, fate, t, ha, -, -⟩
  · have hissued := hI.freshQuotes.issued _ ⟨q₀, hq₀, hid₀.trans hid⟩
    exact (arrive_next hn).2.1.2 _ (quoteIds.drawn_mem req.supply) hissued
  · cases ha

/-- **A handling only adds a quote to its event if there is none**, under the condition. -/
theorem Redelivery.adds_first (hs : Redelivery s) {i : Nat} {fate : (system sql d).Choice}
    {t : Thread (system sql d)} {q : Quote} {m : EventMessage}
    (hok : resumesNone s (.act (.step i fate)) = true) (hcommits : Fate.commits fate = true)
    (hasks : s.config.Asks i t (.quoteSave q)) (hm : t.req.command = .handle m) :
    ∀ req ∈ s.config.reqs, ∀ m', req.command = .handle m' → m'.eventId = m.eventId →
      ¬ s.config.state.store.StoresQuote req.supply.quoteId := by
  intro req hreq m' hm' hid hstored
  obtain ⟨u, hu, rfl⟩ := List.mem_map.mp hreq
  have hserves := serves_of_asks hs.deliveries.announcements.obedient hasks
  unfold Serves at hserves
  rw [hm] at hserves
  obtain ⟨-, hhistory, -⟩ := hserves
  obtain ⟨k, hk⟩ := hasks.2
  have hfalse := hs.unmarked i t m hasks.1 hm (by rw [Thread.running, hk]; rfl) hhistory
  have hunfinished : s.unfinished m.eventId = true := by
    unfold Worker.unfinished
    rw [hfalse]
    refine List.any_eq_true.mpr ⟨u, hu, Bool.and_eq_true_iff.mpr ⟨?_, ?_⟩⟩
    · exact handles_iff.mpr ⟨m', hm', hid⟩
    · exact Database.storesQuote_iff.mp hstored
  have hrepeats : (!s.repeats fate (s.config.doing (.step i fate))) = true := hok
  rw [hasks.doing fate] at hrepeats
  obtain ⟨⟨command, supply⟩, hist, rest⟩ := t
  cases hm
  have hboth : (!(Fate.commits fate && s.unfinished m.eventId)) = true := hrepeats
  rw [hcommits, hunfinished] at hboth
  cases hboth

/-- A save that is not committed changes nothing. -/
theorem exec_uncommitted {w w' : World sql} {q : Quote} {fate : Fate} {r : Except Exc Unit}
    (h : w.exec (.quoteSave q) fate = some (r, w')) (hnot : Fate.commits fate = false) : w' = w := by
  cases fate with
  | proceeds => cases hnot
  | answers response => cases h
  | raises e committed =>
    obtain rfl : committed = false := hnot
    cases h
    rfl

theorem Redelivery.once_next (hs : Redelivery s) (hok : resumesNone s l = true)
    (hn : (worker d).next s l = some s') :
    ∀ req ∈ s'.config.reqs, ∀ req' ∈ s'.config.reqs, ∀ m m', req.command = .handle m →
      req'.command = .handle m' → m.eventId = m'.eventId →
      s'.config.state.store.StoresQuote req.supply.quoteId →
      s'.config.state.store.StoresQuote req'.supply.quoteId →
      req.supply.quoteId = req'.supply.quoteId := by
  intro req hreq req' hreq' m m' hm hm' hid hstored hstored'
  rcases Worker.config_next hn with hsame | ⟨a, ha, hl⟩
  · rw [hsame] at hreq hreq' hstored hstored'
    exact hs.once req hreq req' hreq' m m' hm hm' hid hstored hstored'
  · have hI := hs.deliveries.integrity
    -- both requests were there before
    have there : ∀ r ∈ s'.config.reqs, s'.config.state.store.StoresQuote r.supply.quoteId →
        r ∈ s.config.reqs := by
      intro r hr hst
      rcases Config.reqs_next ha with hreqs | ⟨r', rfl, hreqs⟩
      · rwa [hreqs] at hr
      · rw [hreqs] at hr
        rcases List.mem_append.mp hr with hr | hr
        · exact hr
        · rw [List.mem_singleton.mp hr] at hst
          exact absurd hst (storesQuote_start hI ha)
    replace hreq := there req hreq hstored
    replace hreq' := there req' hreq' hstored'
    have hdistinct := List.inj_on_of_nodup_map hI.freshQuotes.distinct
    -- a quote of theirs was stored before, or its own request is saving it
    have added : ∀ r ∈ s.config.reqs, s'.config.state.store.StoresQuote r.supply.quoteId →
        s.config.state.store.StoresQuote r.supply.quoteId ∨ ∃ (i : Nat) (fate : (system sql d).Choice)
          (t : Thread (system sql d)) (q : Quote), l = .act (.step i fate) ∧
          Fate.commits fate = true ∧ s.config.Asks i t (.quoteSave q) ∧ t.req = r := by
      rintro r hr ⟨q, hq, hqid⟩
      rcases hI.hasQuote_next ha hq with ⟨q₀, hq₀, hid₀⟩ | ⟨i, fate, t, rfl, hasks, hid₀⟩
      · exact Or.inl ⟨q₀, hq₀, hid₀.trans hqid⟩
      · have hreq : t.req = r := hdistinct (Config.mem_reqs hasks.mem) hr (hid₀.symm.trans hqid)
        cases hcommits : Fate.commits fate with
        | true => exact Or.inr ⟨i, fate, t, q, hl i fate rfl, hcommits, hasks, hreq⟩
        | false =>
          obtain ⟨t₀, o, k, x, w, hi, hk, hx, hc⟩ := Config.next_step ha
          obtain ⟨rfl, rfl⟩ := hasks.unique hi hk
          have hw : s'.config.state = s.config.state := by
            rw [hc]
            exact exec_uncommitted hx hcommits
          rw [hw] at hq
          exact Or.inl ⟨q, hq, hqid⟩
    rcases added req hreq hstored with hst | ⟨i, fate, t, q, rfl, hcommits, hasks, rfl⟩
    · rcases added req' hreq' hstored' with hst' | ⟨i, fate, t, q, rfl, hcommits, hasks, rfl⟩
      · exact hs.once req hreq req' hreq' m m' hm hm' hid hst hst'
      · exact absurd hst (hs.adds_first hok hcommits hasks hm' req hreq m hm hid)
    · rcases added req' hreq' hstored' with hst' | ⟨j, fate', u, q', hact, -, hasks', rfl⟩
      · exact absurd hst' (hs.adds_first hok hcommits hasks hm req' hreq' m' hm' hid.symm)
      · cases hact
        obtain rfl := Option.some.inj (hasks.1.symm.trans hasks'.1)
        rfl

theorem Redelivery.next (hs : Redelivery s) (hok : resumesNone s l = true)
    (hn : (worker d).next s l = some s') : Redelivery s' :=
  ⟨hs.deliveries.next hn, hs.unmarked_next hn, hs.once_next hok hn⟩

end Next

theorem redelivery_start (queue : List ByteArray) : Redelivery (Worker.start d queue) where
  deliveries := deliveries_start queue
  unmarked := fun i t m ht => by cases ht
  once := fun _ h => absurd h List.not_mem_nil

/-! ## At most one quote -/

omit [Python] in
/-- What is picked out of a list has one key, and no key occurs twice: it is at most one element. -/
theorem filter_length_le_one {α β : Type} {f : α → Option β} {p : α → Bool} {l : List α}
    (hnd : (l.filterMap f).Nodup) (hsome : ∀ x ∈ l, p x = true → (f x).isSome = true)
    (hone : ∀ x ∈ l, ∀ y ∈ l, p x = true → p y = true → f x = f y) : (l.filter p).length ≤ 1 := by
  cases hl : l.filter p with
  | nil => exact Nat.zero_le 1
  | cons x xs =>
    obtain ⟨hx, hpx⟩ := List.mem_filter.mp (hl ▸ List.mem_cons_self : x ∈ l.filter p)
    obtain ⟨k, hk⟩ := Option.isSome_iff_exists.mp (hsome x hx hpx)
    have hkeys : (l.filter p).filterMap f = List.replicate (l.filter p).length k := by
      rw [← List.map_const', ← List.filterMap_eq_map']
      refine List.filterMap_congr fun y hy => ?_
      obtain ⟨hy, hpy⟩ := List.mem_filter.mp hy
      rw [hone y hy x hx hpy hpx, hk]
    have hsub : ((l.filter p).filterMap f).Nodup := hnd.sublist (List.filter_sublist.filterMap f)
    rw [hkeys, List.nodup_replicate, hl] at hsub
    exact hsub

theorem Redelivery.onceOnly {s : Worker d} (hs : Redelivery s) (eventId : String) :
    OnceOnly s.config eventId := by
  have hI := hs.deliveries.integrity
  have one : ∀ id ∈ quotesOf s.config eventId, ∀ id' ∈ quotesOf s.config eventId,
      s.config.state.store.StoresQuote id → s.config.state.store.StoresQuote id' → id = id' := by
    intro id hid id' hid' hst hst'
    obtain ⟨t, ht, m, hm, heq, rfl⟩ := mem_quotesOf.mp hid
    obtain ⟨u, hu, m', hm', heq', rfl⟩ := mem_quotesOf.mp hid'
    exact hs.once t.req (Config.mem_reqs ht) u.req (Config.mem_reqs hu) m m' hm hm'
      (heq.trans heq'.symm) hst hst'
  constructor
  · refine filter_length_le_one (f := fun row => some row.quoteId) ?_ (fun _ _ _ => rfl) ?_
    · rw [List.filterMap_eq_map']
      exact s.config.state.store.quotes.nodup
    · intro row hrow row' hrow' hp hp'
      obtain ⟨q, rfl, hq⟩ := Database.hasQuote_of_mem hrow
      obtain ⟨q', rfl, hq'⟩ := Database.hasQuote_of_mem hrow'
      exact congrArg some (one _ (of_decide_eq_true hp) _ (of_decide_eq_true hp') ⟨q, hq, rfl⟩
        ⟨q', hq', rfl⟩)
  · refine filter_length_le_one (f := DomainEvent.newQuote)
      hs.deliveries.announcements.accepted_once ?_ ?_
    · intro e _ hp
      obtain ⟨id, hid, -⟩ := (Option.any_eq_true _ _).mp hp
      exact Option.isSome_iff_exists.mpr ⟨id, hid⟩
    · intro e he e' he' hp hp'
      obtain ⟨id, hid, hmem⟩ := (Option.any_eq_true _ _).mp hp
      obtain ⟨id', hid', hmem'⟩ := (Option.any_eq_true _ _).mp hp'
      have handed := hs.deliveries.announcements.accepted.subset
      have hst := hs.deliveries.announcements.stored hI (handed he) hid
      have hst' := hs.deliveries.announcements.stored hI (handed he') hid'
      rw [hid, hid', one id (of_decide_eq_true hmem) id' (of_decide_eq_true hmem') hst hst']

/-- **At most one quote per event**, in the runs of the worker that meet the condition. -/
theorem one_quote_per_event {queue : List ByteArray} {ls : List (WorkerAction d)} {s : Worker d}
    (H : (worker d).Path (fun s l => resumesNone s l = true) (Worker.start d queue) ls s)
    (eventId : String) : OnceOnly s.config eventId :=
  (H.invariant (redelivery_start queue) fun _ _ _ hs hok hn => hs.next hok hn).onceOnly eventId

end Runs

section Samples

open Sample

/-- The process stops before the save; the redelivery is processed, and a duplicate is skipped. -/
def Sample.redelivered : List (WorkerAction mock) :=
  [deliver "1"] ++ run 0 1 ++ [.crash, deliver "2"] ++ run 1 4 ++ [.settle, deliver "3"] ++ run 2 1 ++
    [.settle]

/-- The process stops between the save and the mark. -/
def Sample.stoppedHandling : List (WorkerAction mock) :=
  [deliver "1"] ++ run 0 2 ++ [.crash, deliver "2"] ++ run 1 4

/-- Two copies of one message. -/
def Sample.twoCopies : List ByteArray := [osOpened "e" "o", osOpened "e" "o"]

theorem one_quote_per_event_redelivered :
    ∃ s : Worker mock, s.config.state.store.quotes.rows.length = 1 ∧ s.forgotten.length = 2 ∧
      OnceOnly s.config "e" := by
  have hplay : ((worker mock).play (fun s l => resumesNone s l = true) (Worker.start mock twoCopies)
      redelivered).map (fun s => (s.config.state.store.quotes.rows.length, s.forgotten.length)) =
      some (1, 2) := by decide +kernel
  obtain ⟨s, hs, hsizes⟩ := Option.map_eq_some_iff.mp hplay
  obtain ⟨hquotes, hforgotten⟩ := Prod.mk.inj hsizes
  exact ⟨s, hquotes, hforgotten, one_quote_per_event (Machine.play_path hs) "e"⟩

/-- **A redelivery makes a second quote**: the process stopped after the first was saved. -/
theorem second_quote :
    ¬ ∀ queue ls s, (worker mock).Path Machine.anyLabel (Worker.start mock queue) ls s →
      ∀ eventId, OnceOnly s.config eventId := by
  intro h
  have hplay : ((worker mock).play Machine.anyLabel (Worker.start mock twoCopies)
      stoppedHandling).map (fun s => (s.config.state.store.quotes.rows.filter fun row =>
        decide (row.quoteId ∈ quotesOf s.config "e")).length) = some 2 := by decide +kernel
  obtain ⟨s, hs, htwo⟩ := Option.map_eq_some_iff.mp hplay
  have honce := (h _ _ _ (Machine.play_path hs) "e").quotes
  rw [htwo] at honce
  exact absurd honce (by decide)

end Samples

end Billing

/-
  The log of events, in every interleaving and under every failure.

  1. **No two events have the same id.**  A request publishes under the ids of its own supply, under each
     of them once (`serve_eventIds`, an agenda), and supplies have no id in common (`ids_nodup`).  What
     was handed to the publisher is what the steps published (`Logged`), so all ids differ.  Consumers
     that remember the ids they have seen therefore drop repetitions only.

  2. **Every event is about rows that are there.**  An event is published after what it names was saved
     (`Announces`), and a saved object is kept, at most further on, so the store attests each event that
     was ever handed out, with the ids and the service order that it has (`Database.Attests`).
-/
import Billing.Lib.Agenda
import Billing.Proofs.Handling
import Billing.Proofs.Integrity

namespace Billing

open Py Atomic Program

/-! ## The ids of events -/

/-- The event id that a step publishes under. -/
def Port.publishes : Port → Option String
  | publish e => some e.eventId
  | _ => none

/-- The event ids of a supply. -/
def Supply.eventIds (supply : Supply) : List String := [supply.first.eventId, supply.second.eventId]

section Requests

variable {α : Type}

/-- Settle, save, publish: one id is used. -/
theorem settling_eventIds {p : Payment} {e : DomainEvent} {a : α} {id : String} (he : e.eventId = id) :
    Agenda Port.publishes [id] (do
      p.assign
      PaymentRepository.save p
      EventPublisher.publish e
      return a : Service α) :=
  .perform_bind_none rfl fun _ => .perform_bind_none rfl fun _ =>
    .perform_bind (congrArg some he) fun _ => trivial

theorem createQuote_eventIds (command : CreateQuoteCommand) (supply : Supply) :
    Agenda Port.publishes [supply.first.eventId] (CreateQuoteUseCase.execute command supply) := by
  rw [CreateQuoteUseCase.execute_eq]
  refine .ofExcept_bind ?_
  rintro ⟨q, e⟩ hopening
  obtain ⟨-, -, -, -, -, he⟩ := CreateQuoteUseCase.opening_eq_ok hopening
  have hid : e.eventId = supply.first.eventId := by rw [he]; rfl
  exact .perform_bind_none rfl fun _ => .perform_bind (congrArg some hid) fun _ => trivial

theorem approveQuote_eventIds (gateway : PaymentGateway) (quoteId : String) (supply : Supply) :
    Agenda Port.publishes supply.eventIds (ApproveQuoteUseCase.execute gateway quoteId supply) := by
  unfold ApproveQuoteUseCase.execute Payment.createPreference
  refine .perform_bind_none rfl fun q₀ => .ofExcept_bind ?_
  rintro ⟨q, approvedEvent⟩ happrove
  have hid : approvedEvent.eventId = supply.first.eventId := by
    rw [(Quote.approve_eq_ok happrove).2.2]
    rfl
  refine .perform_bind_none rfl fun _ => .ofExcept_bind fun p₀ _ => ?_
  rw [bind_assoc]
  refine .ofExcept_bind fun _ _ => ?_
  rw [bind_assoc]
  -- the gateway publishes nothing
  refine Agenda.bind (L := []) (.embed (.of_none (fun _ => rfl) _)) fun pref => ?_
  show Agenda _ _ (((p₀.attachPreference pref supply.second).1.assign >>= _) >>= _)
  rw [bind_assoc]
  refine .perform_bind_none rfl fun _ => .perform_bind_none rfl fun _ => .perform_bind_none rfl fun _ => ?_
  exact .perform_bind (congrArg some hid) fun _ => .perform_bind rfl fun _ => trivial

theorem confirmPayment_eventIds (paymentId : String) (supply : Supply) :
    Agenda Port.publishes [supply.first.eventId] (ConfirmPaymentUseCase.execute paymentId supply) := by
  refine .perform_bind_none rfl fun p₀ => .ofExcept_bind ?_
  rintro ⟨p, e⟩ hconfirm
  exact settling_eventIds (congrArg DomainEvent.eventId (Payment.confirm_eq_ok hconfirm).2.2)

theorem failPayment_eventIds (paymentId reason : String) (supply : Supply) :
    Agenda Port.publishes [supply.first.eventId] (FailPaymentUseCase.execute paymentId reason supply) := by
  refine .perform_bind_none rfl fun p₀ => .ofExcept_bind ?_
  rintro ⟨p, e⟩ hfail
  exact settling_eventIds (congrArg DomainEvent.eventId (Payment.fail_eq_ok hfail).2.2)

theorem applyPaymentStatus_eventIds (command : ApplyPaymentStatusCommand) (supply : Supply) :
    Agenda Port.publishes [supply.first.eventId] (ApplyPaymentStatusUseCase.execute command supply) := by
  rw [ApplyPaymentStatusUseCase.execute_eq]
  refine .perform_bind_none rfl fun p₀ => ?_
  generalize hx : ApplyPaymentStatusUseCase.decide p₀ command supply.first = x
  refine .ofExcept_bind ?_
  rintro ⟨p, event, action⟩ rfl
  rcases ApplyPaymentStatusUseCase.decide_eq_ok hx with ⟨-, -, e, rfl, hconfirm⟩ |
    ⟨-, e, rfl, hfail⟩ | ⟨-, rfl, -⟩ | ⟨-, rfl, -⟩
  · exact settling_eventIds (congrArg DomainEvent.eventId (Payment.confirm_eq_ok hconfirm).2.2)
  · exact settling_eventIds (congrArg DomainEvent.eventId (Payment.fail_eq_ok hfail).2.2)
  · exact .perform_bind_none rfl fun _ => trivial
  · exact .perform_bind_none rfl fun _ => trivial

theorem syncPaymentStatus_eventIds (gateway : PaymentGateway) (paymentId : String) (supply : Supply) :
    Agenda Port.publishes [supply.first.eventId]
      (SyncPaymentStatusUseCase.execute gateway paymentId supply) := by
  refine .perform_bind_none rfl fun p₀ => ?_
  refine Agenda.bind (L := []) (.embed (.of_none (fun _ => rfl) _)) fun status => ?_
  exact (applyPaymentStatus_eventIds _ supply).map _

theorem handle_eventIds [Python] (handler : BillingIntegrationEventHandler) (message : EventMessage)
    (supply : Supply) : Agenda Port.publishes [supply.first.eventId] (handler.handle message supply) := by
  rw [BillingIntegrationEventHandler.handle_eq]
  refine .perform_bind_none rfl fun processed => ?_
  unfold BillingIntegrationEventHandler.answering
  split
  · exact trivial
  · split
    · exact trivial
    · refine .ofExcept_bind ?_
      rintro ⟨q, e⟩ hopening
      obtain ⟨command, -, hopening⟩ := BillingIntegrationEventHandler.opening_eq_ok hopening
      obtain ⟨-, -, -, -, -, he⟩ := CreateQuoteUseCase.opening_eq_ok hopening
      have hid : e.eventId = supply.first.eventId := by rw [he]; rfl
      refine .perform_bind_none rfl fun _ => .perform_bind (congrArg some hid) fun _ => ?_
      exact .perform_bind_none rfl fun _ => trivial

/-- **A request publishes under the event ids of its supply**, under each of them once. -/
theorem serve_eventIds [Python] (d : Deployment) (req : Request) :
    Agenda Port.publishes req.supply.eventIds (d.serve req) := by
  obtain ⟨command, supply⟩ := req
  have one : ∀ {γ : Type} {p : Service γ} {f : γ → Response},
      Agenda Port.publishes [supply.first.eventId] p →
      Agenda Port.publishes supply.eventIds (p >>= fun a => pure (f a)) := by
    intro γ p f hp
    have hsecond : ∀ a, Agenda Port.publishes [supply.second.eventId] (Program.ret (f a) : Service Response) :=
      fun a => trivial
    exact hp.bind hsecond
  cases command with
  | createQuote command => exact one (createQuote_eventIds command supply)
  | approveQuote quoteId =>
    exact (approveQuote_eventIds d.gateway quoteId supply).map _
  | confirmPayment paymentId => exact one (confirmPayment_eventIds paymentId supply)
  | failPayment paymentId reason => exact one (failPayment_eventIds paymentId reason supply)
  | applyPaymentStatus command => exact one (applyPaymentStatus_eventIds command supply)
  | syncPaymentStatus paymentId => exact one (syncPaymentStatus_eventIds d.gateway paymentId supply)
  | handle message => exact one (handle_eventIds d.handler message supply)

end Requests

/-! ## The log and the steps -/

section Log

variable [Python] {b : Backend} {d : Deployment} {c c' : Config (system b d)} {a : Action (system b d)}

/-- What a step does to the log: it appends what it publishes. -/
theorem exec_log {w w' : World b} {o : Port} {fate : Fate} {r : Except Exc o.Res}
    (hx : w.exec o fate = some (r, w')) : w'.issued = w.issued ∧
      w'.handed.map DomainEvent.eventId = w.handed.map DomainEvent.eventId ++ o.publishes.toList := by
  cases o with
  | publish e =>
    have happend : ∀ w₁ : World b, w₁.handed = w.handed ++ [e] →
        w₁.handed.map DomainEvent.eventId = w.handed.map DomainEvent.eventId ++ [e.eventId] := by
      intro w₁ h₁
      rw [h₁, List.map_append]
      rfl
    cases fate with
    | answers response => cases hx
    | proceeds =>
      simp only [World.exec, World.publish] at hx
      split at hx
      · cases hx; exact ⟨rfl, happend _ rfl⟩
      · cases hx; exact ⟨rfl, happend _ rfl⟩
    | raises x committed => cases hx; exact ⟨rfl, happend _ rfl⟩
  | _ =>
    have hsame : w'.issued = w.issued ∧ w'.handed = w.handed := by
      cases fate <;> grind [World.exec, World.read, World.write, World.assign, World.call]
    refine ⟨hsame.1, ?_⟩
    rw [hsame.2]
    exact (List.append_nil _).symm

theorem arrive_log {w w' : World b} {req : Request} (h : w.arrive req = some w') :
    req.supply.Fresh w.issued ∧ w'.issued = req.supply.ids ++ w.issued ∧ w'.handed = w.handed := by
  unfold World.arrive at h
  split at h
  · rename_i hfresh
    rw [← Option.some.inj h]
    exact ⟨hfresh, rfl, rfl⟩
  · cases h

/-- The ids that the requests of the pool drew. -/
def drawnIds (c : Config (system b d)) : List String := c.reqs.flatMap fun req : Request => req.supply.ids

/-- **The invariant**: what was handed out is what the steps published, and no id was drawn twice. -/
structure Logged (c : Config (system b d)) : Prop where
  log : (c.state.handed.map DomainEvent.eventId).Perm (labels Port.publishes c.steps)
  drawn : (drawnIds c).Nodup
  issued : ∀ id ∈ drawnIds c, id ∈ c.state.issued

theorem logged_start : Logged (start b d) where
  log := List.Perm.nil
  drawn := List.nodup_nil
  issued := fun _ h => absurd h List.not_mem_nil

/-- A request arrives with ids that nobody drew. -/
theorem drawn_next (h : Logged c) (hn : c.next a = some c') :
    (drawnIds c').Nodup ∧ ∀ id ∈ drawnIds c', id ∈ c'.state.issued := by
  have same : c'.reqs = c.reqs → c'.state.issued = c.state.issued →
      (drawnIds c').Nodup ∧ ∀ id ∈ drawnIds c', id ∈ c'.state.issued := by
    intro hreqs hissued
    unfold drawnIds
    rw [hreqs, hissued]
    exact ⟨h.drawn, h.issued⟩
  cases a with
  | start req =>
    obtain ⟨s, harr, rfl⟩ := Config.next_start hn
    obtain ⟨⟨hnodup, hnew⟩, hissued, -⟩ := arrive_log harr
    have hreqs : (c.threads ++ [(⟨req, [], (system b d).program req⟩ : Thread (system b d))]).map
        Thread.req = c.threads.map Thread.req ++ [req] := List.map_append
    have hdrawn : drawnIds (⟨s, c.threads ++ [⟨req, [], (system b d).program req⟩]⟩ : Config (system b d)) =
        drawnIds c ++ req.supply.ids :=
      (congrArg (List.flatMap fun req : Request => req.supply.ids) hreqs).trans
        (List.flatMap_append.trans (congrArg _ (List.append_nil _)))
    rw [hdrawn]
    constructor
    · refine List.nodup_append.mpr ⟨h.drawn, hnodup, ?_⟩
      rintro id hid id' hid' rfl
      exact hnew id hid' (h.issued id hid)
    · intro id hid
      show id ∈ s.issued
      rw [hissued]
      rcases List.mem_append.mp hid with hid | hid
      · exact List.mem_append_right _ (h.issued id hid)
      · exact List.mem_append_left _ hid
  | step i fate =>
    obtain ⟨t, o, k, r, s, hi, -, hx, rfl⟩ := Config.next_step hn
    exact same (Config.reqs_set hi rfl) (exec_log hx).1
  | abort i e =>
    obtain ⟨t, hi, -, rfl⟩ := Config.next_abort hn
    exact same (Config.reqs_set hi rfl) rfl

theorem Logged.next (h : Logged c) (hn : c.next a = some c') : Logged c' := by
  obtain ⟨hdrawn, hissued⟩ := drawn_next h hn
  refine ⟨?_, hdrawn, hissued⟩
  rcases Config.steps_next hn with ⟨hsteps, hstate | ⟨req, harr⟩⟩ |
    ⟨i, fate, t, o, k, r, -, -, -, hx, hperm⟩
  · rw [hstate, hsteps]
    exact h.log
  · rw [(arrive_log harr).2.2, hsteps]
    exact h.log
  · have hlabels : (labels Port.publishes c'.steps).Perm
        (labels Port.publishes c.steps ++ o.publishes.toList) := by
      refine (hperm.filterMap _).trans (List.Perm.of_eq ?_)
      rw [List.filterMap_append]
      refine congrArg _ ?_
      cases ho : o.publishes <;> simp [ho]
    rw [(exec_log hx).2]
    exact (h.log.append_right _).trans hlabels.symm

/-- **No two events that are handed to the publisher have the same id**, over either store, in every
    interleaving and wherever requests fail or are cut off. -/
theorem event_ids_unique {c : Config (system b d)} (H : Runs anyOrder (start b d) c) :
    (c.state.handed.map DomainEvent.eventId).Nodup := by
  have hlogged : Logged c := H.invariant logged_start fun _ _ _ h _ hn => h.next hn
  have hpart : (c.reqs.flatMap fun req : Request => req.supply.eventIds).Sublist (drawnIds c) := by
    refine List.Sublist.flatMap_right _ fun req _ => ?_
    exact List.sublist_append_right [req.supply.quoteId, req.supply.paymentId, req.supply.idempotencyKey]
      req.supply.eventIds
  have hprog : ∀ req : (system b d).Req, Agenda Port.publishes (Request.supply req).eventIds
      ((system b d).program req) := serve_eventIds d
  have hnodup := H.labels_nodup hprog rfl (hpart.nodup hlogged.drawn)
  exact hlogged.log.nodup_iff.mpr hnodup

end Log

/-! ## What the events are about -/

section Attested

variable [Python] {d : Deployment} {c c' : Config (system sql d)} {a : Action (system sql d)}

/-- The store has what the event names: the quote, or the payment, with the service order and the ids
    that the event has; an approved quote has its payment. -/
inductive Database.Attests (db : Database) : DomainEvent → Prop where
  | quoteCreated (q : Quote) (stamp : Stamp) (hq : db.HasQuote q) :
      Attests db (q.event .quoteCreated [("quote_id", q.quoteId)] stamp)
  | quoteApproved (q : Quote) (p : Payment) (stamp : Stamp) (hq : db.HasQuote q)
      (hs : q.status = .approved) (hp : db.HasPayment p) (hid : p.quoteId = q.quoteId) :
      Attests db (q.event .quoteApproved [("quote_id", q.quoteId)] stamp)
  | preferenceCreated (p : Payment) (pref : PaymentPreference) (stamp : Stamp) (hp : db.HasPayment p)
      (hpref : p.preference = some pref) : Attests db (p.event .paymentPreferenceCreated
        [("payment_id", p.paymentId), ("preference_id", pref.preferenceId)] stamp)
  | confirmed (p : Payment) (stamp : Stamp) (hp : db.HasPayment p) :
      Attests db (p.event .paymentConfirmed [("payment_id", p.paymentId)] stamp)
  | failed (p : Payment) (reason : String) (stamp : Stamp) (hp : db.HasPayment p) :
      Attests db (p.event .paymentFailed [("payment_id", p.paymentId), ("reason", reason)] stamp)

omit [Python] in
theorem Quote.Evolves.event {q q' : Quote} (h : q.Evolves q') (t : EventType) (payload : Dict String)
    (stamp : Stamp) : q.event t payload stamp = q'.event t payload stamp := by
  unfold Quote.event
  rw [h.serviceOrderId]

omit [Python] in
theorem Payment.Evolves.event {p p' : Payment} (h : p.Evolves p') (t : EventType)
    (payload : Dict String) (stamp : Stamp) : p.event t payload stamp = p'.event t payload stamp := by
  unfold Payment.event
  rw [h.serviceOrderId, h.quoteId]

omit [Python] in
/-- **What was attested once, is attested from then on.** -/
theorem Database.Attests.of_evolves {db db' : Database} {e : DomainEvent} (h : db.Attests e)
    (hev : db.Evolves db') : db'.Attests e := by
  cases h with
  | quoteCreated q stamp hq =>
    obtain ⟨q', hq', he⟩ := hev.quotes q hq
    rw [he.event, ← he.quoteId]
    exact .quoteCreated q' stamp hq'
  | quoteApproved q p stamp hq hs hp hid =>
    obtain ⟨q', hq', he⟩ := hev.quotes q hq
    obtain ⟨p', hp', he'⟩ := hev.payments p hp
    rw [he.event, ← he.quoteId]
    exact .quoteApproved q' p' stamp hq' (he.approved hs) hp' (by rw [he'.quoteId, hid, he.quoteId])
  | preferenceCreated p pref stamp hp hpref =>
    obtain ⟨p', hp', he⟩ := hev.payments p hp
    rw [he.event, ← he.paymentId]
    exact .preferenceCreated p' pref stamp hp' (he.preference.trans hpref)
  | confirmed p stamp hp =>
    obtain ⟨p', hp', he⟩ := hev.payments p hp
    rw [he.event, ← he.paymentId]
    exact .confirmed p' stamp hp'
  | failed p reason stamp hp =>
    obtain ⟨p', hp', he⟩ := hev.payments p hp
    rw [he.event, ← he.paymentId]
    exact .failed p' reason stamp hp'

/-- **A request publishes what the store attests**, whatever the others have done since its saves. -/
theorem Integrity.attests (hI : Integrity c) {i : Nat} {t : Thread (system sql d)} {e : DomainEvent}
    (hasks : c.Asks i t (.publish e)) : c.state.store.Attests e := by
  have sums := standing_sums t.history
  have savedQuote : ∀ q, (standing t.history).savedQuote = some q →
      ∃ q', c.state.store.HasQuote q' ∧ q.Evolves q' :=
    fun q hq => hI.kept t hasks.mem _ (sums.savedQuote q hq)
  have savedPayment : ∀ p, (standing t.history).savedPayment = some p →
      ∃ p', c.state.store.HasPayment p' ∧ p.Evolves p' :=
    fun p hp => hI.kept t hasks.mem _ (sums.savedPayment p hp)
  have hannounces : Announces (standing t.history) e := (duty_of_asks hI.dutiful hasks).2
  cases hannounces with
  | created q stamp hq =>
    obtain ⟨q', hq', he⟩ := savedQuote q hq
    rw [he.event, ← he.quoteId]
    exact .quoteCreated q' stamp hq'
  | approved q p stamp hq hs hp hid =>
    obtain ⟨q', hq', he⟩ := savedQuote q hq
    obtain ⟨p', hp', he'⟩ := savedPayment p hp
    rw [he.event, ← he.quoteId]
    exact .quoteApproved q' p' stamp hq' (he.approved hs) hp' (by rw [he'.quoteId, hid, he.quoteId])
  | preference p pref stamp hp hpref =>
    obtain ⟨p', hp', he⟩ := savedPayment p hp
    rw [he.event, ← he.paymentId]
    exact .preferenceCreated p' pref stamp hp' (he.preference.trans hpref)
  | outcome p e hp he =>
    obtain ⟨p', hp', hev⟩ := savedPayment p hp
    rcases he with ⟨-, stamp, rfl⟩ | ⟨-, reason, stamp, rfl⟩
    · rw [hev.event, ← hev.paymentId]
      exact .confirmed p' stamp hp'
    · rw [hev.event, ← hev.paymentId]
      exact .failed p' reason stamp hp'

/-- **Every event that was ever handed to the publisher is about rows that are there**, in every state of
    every run, whatever interleaves and wherever requests fail or are cut off. -/
theorem events_attested {c : Config (system sql d)} (H : Runs anyOrder (start sql d) c) :
    ∀ e ∈ c.state.handed, c.state.store.Attests e := by
  refine H.invariant_reached
    (I := fun (c : Config (system sql d)) => ∀ e ∈ c.state.handed, c.state.store.Attests e) ?_ ?_
  · exact fun _ he => absurd he List.not_mem_nil
  intro c a c' hruns ih _ hn e he
  have hI := integrity hruns
  rcases published_next hn with ⟨hhanded, -⟩ | ⟨i, fate, t, e', -, hasks, hstore, hhanded, -⟩
  · rw [hhanded] at he
    exact (ih e he).of_evolves (hI.evolves hn)
  · rw [hhanded] at he
    rw [hstore]
    rcases List.mem_append.mp he with he | he
    · exact ih e he
    · rw [List.mem_singleton.mp he]
      exact hI.attests hasks

end Attested

section Samples

open Sample

/-- Two approvals of one quote interleave and both publish; then the payment of the first is settled twice
    at once, and the broker breaks off one of the outcomes. -/
def Sample.crossing : List (Action (system sql mock)) :=
  [ask "1" (.createQuote ⟨"os-1", ["oil"], .finite false 12000 (-2)⟩),
    .step 0 .proceeds, .step 0 .proceeds,
    ask "2" (.approveQuote "quote-1"), ask "3" (.approveQuote "quote-1"),
    .step 1 .proceeds, .step 2 .proceeds, .step 1 .proceeds, .step 2 .proceeds,
    .step 1 .proceeds, .step 1 .proceeds, .step 1 .proceeds, .step 1 .proceeds,
    .step 2 .proceeds, .step 2 .proceeds, .step 2 .proceeds, .step 2 .proceeds,
    .step 1 .proceeds, .step 2 .proceeds,
    ask "4" (.confirmPayment "payment-2"), ask "5" (.failPayment "payment-2" "no funds"),
    .step 3 .proceeds, .step 4 .proceeds, .step 3 .proceeds, .step 4 .proceeds,
    .step 3 .proceeds, .step 4 .proceeds, .step 4 .proceeds,
    .step 3 (.raises (.infrastructure "connection lost") true)]

theorem event_ids_unique_crossing : ∃ c : Config (system sql mock), c.state.handed.length = 7 ∧
    (c.state.handed.map DomainEvent.eventId).Nodup :=
  ⟨(start sql mock).played anyOrder crossing (by decide +kernel), by decide +kernel,
    event_ids_unique (Config.played_runs _ _ _)⟩

theorem events_attested_crossing : ∃ c : Config (system sql mock), c.state.handed.length = 7 ∧
    ∀ e ∈ c.state.handed, c.state.store.Attests e :=
  ⟨(start sql mock).played anyOrder crossing (by decide +kernel), by decide +kernel,
    events_attested (Config.played_runs _ _ _)⟩

end Samples

end Billing

/-
  What the consumer accepts, and how it refuses the rest.

  `RabbitMqEventConsumer.handle_message` returns exactly the envelopes.  Everything else should be a
  `ValueError`; but `message["event_type"] in INTEGRATION_EVENT_TYPES` asks for a hash, which a list and
  an object do not have, and what is raised then is a `TypeError` (`rejects_cleanly_iff`).
-/
import Billing.Proofs.Intake

namespace Billing

open Py Atomic Program

section Grammar

variable [Python]

/-- The consumer returns what is in the grammar, and refuses the rest with a `ValueError`. -/
structure RejectsCleanly (body : ByteArray) : Prop where
  accepts : ∀ message, RabbitMqEventConsumer.handleMessage none body = .ok message ↔
    Describes body message ∧ Envelope message
  rejects : ∀ e, RabbitMqEventConsumer.handleMessage none body = .error e → ∃ text, e = .valueError text

/-- All fields are there, and the type of the event is a list or an object. -/
structure HashlessType (message : Dict Json) : Prop where
  fields : ∀ field ∈ requiredFields, (message.get? field).isSome = true
  eventType : (∃ xs, message.get? "event_type" = some (.list xs)) ∨
    ∃ kvs, message.get? "event_type" = some (.dict kvs)

/-! ## The check -/

/-- **What the check raises**: a `TypeError` for a type without a hash, and else a `ValueError`. -/
theorem validateEventMessage_error {message : Dict Json} {e : Exc}
    (h : validateEventMessage message = .error e) :
    (HashlessType message ∧ ∃ text, e = .typeError text) ∨
      (¬ HashlessType message ∧ ∃ text, e = .valueError text) := by
  unfold validateEventMessage at h
  simp only at h
  by_cases hmissing : (requiredFields.filter fun field => (message.get? field).isNone) = []
  · have hfields := missing_eq_nil_iff.mp hmissing
    obtain ⟨eventType, htype⟩ := Option.isSome_iff_exists.mp (hfields "event_type" (by decide))
    obtain ⟨payload, hpayload⟩ := Option.isSome_iff_exists.mp (hfields "payload" (by decide))
    have hgetType : getItem message "event_type" = .ok eventType := by rw [getItem, htype]
    have hgetPayload : getItem message "payload" = .ok payload := by rw [getItem, hpayload]
    simp only [hmissing, hgetType, hgetPayload, ne_eq, not_true_eq_false, if_false, ok_bind] at h
    -- the types with a hash are compared, and what is left is a `ValueError`
    have hhashed : ∀ supported, isIntegrationEventType eventType = .ok supported →
        (¬ HashlessType message ∧ ∃ text, e = .valueError text) := by
      intro supported hsupported
      refine ⟨?_, ?_⟩
      · rintro ⟨-, ⟨xs, hxs⟩ | ⟨kvs, hkvs⟩⟩
        · obtain rfl := Option.some.inj (htype.symm.trans hxs)
          cases hsupported
        · obtain rfl := Option.some.inj (htype.symm.trans hkvs)
          cases hsupported
      · rw [hsupported] at h
        cases supported with
        | false => exact ⟨_, (Except.error.inj h).symm⟩
        | true =>
          cases hdict : isDict payload with
          | false =>
            rw [hdict] at h
            exact ⟨_, (Except.error.inj h).symm⟩
          | true =>
            rw [hdict] at h
            cases h
    cases heventType : eventType with
    | list xs =>
      rw [heventType] at h htype
      exact Or.inl ⟨⟨hfields, Or.inl ⟨xs, htype⟩⟩, _, (Except.error.inj h).symm⟩
    | dict kvs =>
      rw [heventType] at h htype
      exact Or.inl ⟨⟨hfields, Or.inr ⟨kvs, htype⟩⟩, _, (Except.error.inj h).symm⟩
    | _ => exact Or.inr (hhashed _ (by rw [heventType]; rfl))
  · rw [if_pos hmissing] at h
    exact Or.inr ⟨fun hless => hmissing (missing_eq_nil_iff.mpr hless.fields), _,
      (Except.error.inj h).symm⟩

/-! ## The bodies -/

theorem handleMessage_eq_ok {body : ByteArray} {message : Dict Json} :
    RabbitMqEventConsumer.handleMessage none body = .ok message ↔
      Describes body message ∧ Envelope message := by
  unfold RabbitMqEventConsumer.handleMessage
  rw [bind_eq_ok]
  constructor
  · rintro ⟨read, hread, h⟩
    obtain ⟨u, hvalid, h⟩ := bind_eq_ok.mp h
    obtain rfl := Except.ok.inj h
    exact ⟨decodeBody_iff.mp hread, validateEventMessage_iff.mp hvalid⟩
  · rintro ⟨hdescribes, henvelope⟩
    refine ⟨message, decodeBody_iff.mpr hdescribes, ?_⟩
    rw [validateEventMessage_iff.mpr henvelope]
    rfl

/-- A body that is not decoded is refused with a `ValueError`. -/
theorem decodeBody_error {body : ByteArray} {e : Exc} (h : decodeBody body = .error e) :
    ∃ text, e = .valueError text := by
  unfold decodeBody at h
  split at h
  · exact ⟨_, (Except.error.inj h).symm⟩
  · split at h
    · exact ⟨_, (Except.error.inj h).symm⟩
    · cases h
    · exact ⟨_, (Except.error.inj h).symm⟩

/-- What is raised for a body is raised while decoding it or while checking it. -/
theorem handleMessage_error {body : ByteArray} {e : Exc}
    (h : RabbitMqEventConsumer.handleMessage none body = .error e) :
    decodeBody body = .error e ∨
      ∃ message, Describes body message ∧ validateEventMessage message = .error e := by
  unfold RabbitMqEventConsumer.handleMessage at h
  cases hdecode : decodeBody body with
  | error e' =>
    rw [hdecode] at h
    exact Or.inl (congrArg _ (Except.error.inj h))
  | ok message =>
    rw [hdecode, ok_bind] at h
    refine Or.inr ⟨message, decodeBody_iff.mp hdecode, ?_⟩
    cases hvalid : validateEventMessage message with
    | error e' =>
      rw [hvalid] at h
      exact congrArg _ (Except.error.inj h)
    | ok u =>
      rw [hvalid] at h
      cases h

/-- **A body is refused cleanly unless it is an object with all fields whose type has no hash.** -/
theorem rejectsCleanly_iff (body : ByteArray) :
    RejectsCleanly body ↔ ¬ ∃ message, Describes body message ∧ HashlessType message := by
  constructor
  · rintro hclean ⟨message, hdescribes, hless⟩
    -- the check does not let it through, and raises what is no `ValueError`
    have hinvalid : ¬ Envelope message := by
      rintro ⟨-, ⟨s, -, hs⟩, -⟩
      rcases hless.eventType with ⟨xs, hxs⟩ | ⟨kvs, hkvs⟩
      · cases hs.symm.trans hxs
      · cases hs.symm.trans hkvs
    cases hresult : RabbitMqEventConsumer.handleMessage none body with
    | ok message' =>
      obtain ⟨hdescribes', henvelope⟩ := handleMessage_eq_ok.mp hresult
      exact hinvalid (hdescribes.unique hdescribes' ▸ henvelope)
    | error e =>
      obtain ⟨text, rfl⟩ := hclean.rejects e hresult
      rcases handleMessage_error hresult with hdecode | ⟨message', hdescribes', hraised⟩
      · rw [decodeBody_iff.mpr hdescribes] at hdecode
        cases hdecode
      · obtain rfl := hdescribes.unique hdescribes'
        rcases validateEventMessage_error hraised with ⟨-, text', h⟩ | ⟨hnot, -⟩
        · cases h
        · exact hnot hless
  · intro hhashed
    refine ⟨fun message => handleMessage_eq_ok, fun e he => ?_⟩
    rcases handleMessage_error he with hdecode | ⟨message, hdescribes, hraised⟩
    · exact decodeBody_error hdecode
    · rcases validateEventMessage_error hraised with ⟨hless, -⟩ | ⟨-, hvalue⟩
      · exact absurd ⟨message, hdescribes, hless⟩ hhashed
      · exact hvalue

end Grammar

/-! ## The events of the use cases -/

section Events

variable [Python]

/-- The publisher encodes the event, and the consumer has its message back. -/
def RoundTrips (e : DomainEvent) : Prop :=
  ∃ body, RabbitMqEventPublisher.encode e = .ok body ∧
    RabbitMqEventConsumer.handleMessage none body = .ok e.toMessage

theorem roundTrips_of_nodup {e : DomainEvent} (hkeys : (e.payload.map Prod.fst).Nodup) :
    RoundTrips e := by
  refine ⟨e.body, ?_, ?_⟩
  · unfold RabbitMqEventPublisher.encode
    rw [eventToMessage_eq]
    rfl
  · have hread := readDelivery_body hkeys
    exact handleMessage_eq_ok.mpr ⟨readDelivery_iff.mp hread,
      validateEventMessage_iff.mp (validateEventMessage_toMessage e)⟩

omit [Python] in
/-- What a request announces has no key twice. -/
theorem Announces.nodup {st : Standing} {e : DomainEvent} (h : Announces st e) :
    (e.payload.map Prod.fst).Nodup := by
  cases h with
  | created q stamp hq => simp [Quote.event, Dict.update, Dict.set]
  | approved q p stamp hq hs hp hid => simp [Quote.event, Dict.update, Dict.set]
  | preference p pref stamp hp hpref => simp [Payment.event, Dict.update, Dict.set]
  | outcome p e hp he =>
    rcases he with ⟨-, stamp, rfl⟩ | ⟨-, reason, stamp, rfl⟩
    · simp [Payment.event, Dict.update, Dict.set]
    · simp [Payment.event, Dict.update, Dict.set]

/-- **The consumer accepts exactly the envelopes and rejects cleanly**, but for a type without a hash;
    and whatever a request asks to publish, it has back as the message of the event. -/
theorem envelope_grammar_iff :
    (∀ body, RejectsCleanly body ↔ ¬ ∃ message, Describes body message ∧ HashlessType message) ∧
      ∀ (d : Deployment) (req : Request),
        Always (fun _ (o : Port) => ∀ e, o = .publish e → RoundTrips e) (fun _ _ => True) [] (d.serve req) := by
  refine ⟨rejectsCleanly_iff, fun d req => ?_⟩
  refine (serve_duties d req).mono (fun h o hduty e ho => ?_) fun _ _ _ => trivial
  subst ho
  exact roundTrips_of_nodup hduty.2.nodup

end Events

section Samples

open Sample

/-- An object with all fields, whose type is a list. -/
def Sample.listType : Dict Json :=
  [("event_id", .str "event-1"), ("event_type", .list [.str "OS_OPENED"]),
    ("correlation_id", .str "os-1"), ("occurred_at", .str ""), ("payload", .dict [])]

theorem list_type_raises_typeError : ¬ ∀ body, RejectsCleanly body := by
  intro h
  have htext : (Json.dict listType).Textual := by
    refine .dict _ (by simp [listType]) ?_
    intro kv hkv
    simp only [listType, List.mem_cons, List.not_mem_nil, or_false] at hkv
    rcases hkv with rfl | rfl | rfl | rfl | rfl
    · exact .str _
    · exact .list _ fun x hx => by rw [List.mem_singleton.mp hx]; exact .str _
    · exact .str _
    · exact .str _
    · exact .dict _ List.nodup_nil fun kv hkv => absurd hkv List.not_mem_nil
  refine (rejectsCleanly_iff (Json.dumps (.dict listType)).toUTF8).mp (h _) ⟨listType, ?_, ?_⟩
  · exact ⟨_, fromUTF8_toUTF8 _, Json.loads_dumps htext⟩
  · exact ⟨by decide, Or.inl ⟨_, rfl⟩⟩

end Samples

end Billing

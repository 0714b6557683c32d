/-
  The worker and its queue (`rabbitmq_blocking_worker.py`, `rabbitmq_event_publisher.py` and
  `rabbitmq_blocking_publisher.py`).

  The broker holds the bodies of `RABBITMQ_QUEUE`.  The worker consumes with `prefetch_count=1`, so
  one delivery at a time is unsettled; `_handle_delivery` reads the body, runs the handler as a thread
  of the service, and acks it when the handler returned or nacks it without requeue when anything
  raised.  When the process stops, the broker takes the unsettled delivery back.

  `RabbitMqBlockingEventPublisher` declares the same queue and binds it to the routing key under which
  it publishes, so every event that the publisher accepted is also a message of the queue.
-/
import Billing.Lib.Machine
import Billing.Lib.JsonText
import Billing.Session

namespace Billing

open Py Atomic

variable [Python]

/-! ## Bodies -/

/-- `json.dumps(message, separators=(",", ":")).encode("utf-8")` of the message of an event. -/
def DomainEvent.body (self : DomainEvent) : ByteArray := (Json.dumps (.dict self.toMessage)).toUTF8

/-- `json.loads(body.decode("utf-8"))`, which must be an object. -/
def decodeBody (body : ByteArray) : Except Exc (Dict Json) :=
  match String.fromUTF8? body with
  | none => .error (.valueError "'utf-8' codec can't decode the body")
  | some text =>
    match Json.loads text with
    | none => .error (.valueError "The body is no JSON text")
    | some (.dict message) => .ok message
    | some _ => .error (.valueError "RabbitMQ message body must be an object")

/-- `RabbitMqEventConsumer.handle_message`. -/
def RabbitMqEventConsumer.handleMessage (handler : Option (Dict Json → Except Exc Unit))
    (body : ByteArray) : Except Exc (Dict Json) := do
  let message ← decodeBody body
  validateEventMessage message
  match handler with
  | none => return message
  | some handler =>
    handler message
    return message

/-- The body that `RabbitMqEventPublisher.publish` hands to its channel. -/
def RabbitMqEventPublisher.encode (event : DomainEvent) : Except Exc ByteArray := do
  let message ← eventToMessage event
  return (Json.dumps (.dict message)).toUTF8

/-- The part of `_handle_delivery` before the handler. -/
def readDelivery (body : ByteArray) : Except Exc EventMessage :=
  match decodeBody body with
  | .error e => .error e
  | .ok message =>
    match hvalid : validateEventMessage message with
    | .error e => .error e
    | .ok () => .ok ⟨message, hvalid⟩

/-! ## The worker -/

/-- How a delivery is settled; the broker forgets the message either way. -/
inductive Settlement where
  /-- `basic_ack`. -/
  | ack
  /-- `basic_nack(requeue=False)`. -/
  | nack
  deriving DecidableEq

/-- `_handle_delivery`, while store and broker work: what is sent to the channel, and the world after
    it. -/
def World.handleDelivery {b : Backend} (w : World b) (handler : BillingIntegrationEventHandler)
    (body : ByteArray) (supply : Supply) : List Settlement × World b :=
  match readDelivery body with
  | .error _ => ([.nack], w)
  | .ok message =>
    match w.run noAnswers (handler.handle message supply) with
    | (.ok _, w) => ([.ack], w)
    | (.error _, w) => ([.nack], w)

/-- A delivery that is not settled. -/
structure Delivery where
  /-- The body. -/
  body : ByteArray
  /-- The thread that handles it. -/
  thread : Nat

/-- A message that the broker has forgotten. -/
structure Forgotten where
  /-- The body. -/
  body : ByteArray
  /-- How its delivery was settled. -/
  settlement : Settlement
  /-- The thread that handled it, if it got as far as the handler. -/
  thread : Option Nat

/-- The service with its worker and the queue. -/
structure Worker (d : Deployment) where
  /-- The service. -/
  config : Config (system sql d)
  /-- The messages of the queue. -/
  queue : List ByteArray
  /-- The delivery that the worker has. -/
  delivery : Option Delivery
  /-- The messages that the broker has forgotten. -/
  forgotten : List Forgotten

/-- What can happen next. -/
inductive WorkerAction (d : Deployment) where
  /-- Another service publishes a message to the queue. -/
  | receive (body : ByteArray)
  /-- The broker delivers the message at this place of the queue. -/
  | deliver (place : Nat) (supply : Supply)
  /-- A thread does a step, or another request of the service arrives or is cut off. -/
  | act (a : Action (system sql d))
  /-- The worker settles its delivery. -/
  | settle
  /-- The worker's process stops and is started again. -/
  | crash

variable {d : Deployment}

/-- Is it the worker's own business, which `act` does not do? -/
def Worker.owns (s : Worker d) : Action (system sql d) → Bool
  | .start req => match Request.command req with
    | .handle _ => true
    | _ => false
  | .step _ _ => false
  | .abort i _ => match s.delivery with
    | some delivery => decide (delivery.thread = i)
    | none => false

/-- The service does an action, and the broker gets the events that the publisher accepted. -/
def Worker.acts (s : Worker d) (c : Config (system sql d)) : Worker d :=
  { s with
    config := c
    queue := s.queue ++ (c.state.accepted.drop s.config.state.accepted.length).map DomainEvent.body }

/-- `_handle_delivery`, up to the first step of the handler. -/
def Worker.deliver (s : Worker d) (place : Nat) (supply : Supply) : Option (Worker d) :=
  match s.delivery, s.queue[place]? with
  | none, some body =>
    match readDelivery body with
    | .error _ => some { s with
        queue := s.queue.eraseIdx place
        forgotten := s.forgotten ++ [⟨body, .nack, none⟩] }
    | .ok message => (s.config.next (.start ⟨.handle message, supply⟩)).map fun c => { s with
        config := c
        queue := s.queue.eraseIdx place
        delivery := some ⟨body, s.config.threads.length⟩ }
  | _, _ => none

/-- `_handle_delivery`, when the handler has returned or raised. -/
def Worker.settle (s : Worker d) : Option (Worker d) :=
  match s.delivery with
  | none => none
  | some delivery =>
    match s.config.threads[delivery.thread]? with
    | some ⟨_, _, .ret _⟩ => some { s with
        delivery := none
        forgotten := s.forgotten ++ [⟨delivery.body, .ack, some delivery.thread⟩] }
    | some ⟨_, _, .raise _⟩ => some { s with
        delivery := none
        forgotten := s.forgotten ++ [⟨delivery.body, .nack, some delivery.thread⟩] }
    | _ => none

/-- The process stops: its thread goes no further, and the broker has the message again. -/
def Worker.crash (s : Worker d) : Option (Worker d) :=
  match s.delivery with
  | none => some s
  | some delivery => some { s with
      config := (s.config.next (.abort delivery.thread (.infrastructure "process stopped"))).getD s.config
      queue := delivery.body :: s.queue
      delivery := none }

/-- **The worker and its queue.** -/
abbrev worker (d : Deployment) : Machine where
  State := Worker d
  Label := WorkerAction d
  next := fun s a => match a with
    | .receive body => some { s with queue := s.queue ++ [body] }
    | .deliver place supply => s.deliver place supply
    | .act a => if s.owns a then none else (s.config.next a).map s.acts
    | .settle => s.settle
    | .crash => s.crash

/-- Nothing is stored, and the queue holds these messages. -/
def Worker.start (d : Deployment) (queue : List ByteArray) : Worker d :=
  ⟨Billing.start sql d, queue, none, []⟩

/-! ## Round trip -/

omit [Python] in
/-- The message of an event is built from texts. -/
theorem DomainEvent.toMessage_textual (e : DomainEvent) (hkeys : (e.payload.map Prod.fst).Nodup) :
    (Json.dict e.toMessage).Textual := by
  refine .dict _ (by simp [DomainEvent.toMessage]) ?_
  intro kv hkv
  simp only [DomainEvent.toMessage, List.mem_cons, List.not_mem_nil, or_false] at hkv
  rcases hkv with rfl | rfl | rfl | rfl | rfl
  · exact .str _
  · exact .str _
  · exact .str _
  · exact .str _
  · refine .dict _ ?_ ?_
    · rw [List.map_map]
      exact hkeys
    · intro kv hkv
      obtain ⟨kv', _, rfl⟩ := List.mem_map.mp hkv
      exact .str _

omit [Python] in
theorem fromUTF8_toUTF8 (text : String) : String.fromUTF8? text.toUTF8 = some text := by
  unfold String.fromUTF8?
  rw [String.toUTF8_eq_toByteArray, dif_pos text.isValidUTF8]
  rfl

/-- **A message that is sent is read back.** -/
theorem readDelivery_dumps {message : Dict Json} (htext : (Json.dict message).Textual)
    (hvalid : validateEventMessage message = .ok ()) :
    readDelivery (Json.dumps (.dict message)).toUTF8 = .ok ⟨message, hvalid⟩ := by
  have hdecode : decodeBody (Json.dumps (.dict message)).toUTF8 = .ok message := by
    unfold decodeBody
    rw [fromUTF8_toUTF8]
    simp only [Json.loads_dumps htext]
  unfold readDelivery
  rw [hdecode]
  simp only
  split
  · rename_i x hx; rw [hvalid] at hx; cases hx
  · rfl

/-- **What the publisher sends is read back as the message of the event.** -/
theorem readDelivery_body {e : DomainEvent} (hkeys : (e.payload.map Prod.fst).Nodup) :
    readDelivery e.body = .ok ⟨e.toMessage, validateEventMessage_toMessage e⟩ :=
  readDelivery_dumps (e.toMessage_textual hkeys) _

/-! ## Messages to run -/

namespace Sample

/-- An `OS_OPENED` message. -/
def osOpenedMessage (eventId serviceOrderId : String) : EventMessage where
  message := [("event_id", .str eventId), ("event_type", .str "OS_OPENED"),
    ("correlation_id", .str serviceOrderId), ("occurred_at", .str ""),
    ("payload", .dict [("service_order_id", .str serviceOrderId)])]
  valid := rfl

/-- Its body. -/
def osOpened (eventId serviceOrderId : String) : ByteArray :=
  (Json.dumps (.dict (osOpenedMessage eventId serviceOrderId).message)).toUTF8

theorem readDelivery_osOpened (eventId serviceOrderId : String) :
    readDelivery (osOpened eventId serviceOrderId) = .ok (osOpenedMessage eventId serviceOrderId) := by
  refine readDelivery_dumps (.dict _ (by simp [osOpenedMessage]) ?_) _
  intro kv hkv
  simp only [osOpenedMessage, List.mem_cons, List.not_mem_nil, or_false] at hkv
  rcases hkv with rfl | rfl | rfl | rfl | rfl
  · exact .str _
  · exact .str _
  · exact .str _
  · exact .str _
  · refine .dict _ (by simp) fun kv hkv => ?_
    rw [List.mem_singleton.mp hkv]
    exact .str _

/-- The first message of the queue is delivered, with the `n`-th supply. -/
def deliver (n : String) : WorkerAction d := .deliver 0 (supply n)

/-- Thread `i` does its next `n` steps, and they go through. -/
def run (i n : Nat) : List (WorkerAction d) := (go i n).map .act

end Sample

end Billing

/-
  The two event publishers, seen from inside (`in_memory_event_publisher.py`,
  `rabbitmq_blocking_publisher.py` and `rabbitmq_event_publisher.py`).

  To a request a publisher is the step `publish` of `Billing.Application.Ports`.  Here it is an object
  that any number of threads call at the same time: FastAPI serves `publish`, `GET /events` and
  `POST /events/drain` from a pool of threads.  Each operation on its lists and each call of pika is one
  atomic step.  `RabbitMqBlockingEventPublisher` does all of a call under its lock;
  `InMemoryEventPublisher` has none.
-/
import Billing.Lib.Lock
import Billing.Infrastructure.Messaging

namespace Billing

open Py Atomic Program

/-- The steps of the publishers. -/
inductive PublisherOp where
  /-- `_build_publisher`: connect, declare the exchange and the queue, and bind them. -/
  | buildPublisher
  /-- `basic_publish`. -/
  | basicPublish (body : ByteArray)
  /-- `connection.is_open`. -/
  | isOpen
  /-- `connection.close()`. -/
  | closeConnection
  /-- `messages.append(message)`. -/
  | appendMessage (message : Dict Json)
  /-- `list(messages)`. -/
  | copyMessages
  /-- `messages.clear()`. -/
  | clearMessages
  /-- `events.append(event)`. -/
  | appendEvent (event : DomainEvent)
  /-- `events.clear()`. -/
  | clearEvents

/-- What each step answers with. -/
abbrev PublisherOp.Res : PublisherOp → Type
  | isOpen => Bool
  | copyMessages => List (Dict Json)
  | _ => Unit

/-- The signature of the publishers. -/
abbrev publisherOps : Sig := ⟨PublisherOp, PublisherOp.Res⟩

/-- A computation of a publisher. -/
abbrev Publishing (α : Type) : Type := Program publisherOps Exc α

/-- The methods of a publisher. -/
inductive PublisherCall where
  /-- `publish(event)`. -/
  | publish (event : DomainEvent)
  /-- `published_messages()`. -/
  | publishedMessages
  /-- `drain()`. -/
  | drain

/-- What a method returns: `None`, or a list of messages. -/
abbrev Returned : Type := Option (List (Dict Json))

variable [Python]

/-! ## The publisher of the real runtime -/

namespace RabbitMqEventPublisher

/-- `RabbitMqEventPublisher.publish`. -/
def publish (event : DomainEvent) : Publishing Unit := do
  let body ← ofExcept (encode event)
  perform (σ := publisherOps) (.basicPublish body)

end RabbitMqEventPublisher

namespace RabbitMqBlockingEventPublisher

/-- `RabbitMqBlockingEventPublisher.publish`, under the lock. -/
def publish (event : DomainEvent) : Publishing Unit := do
  perform (σ := publisherOps) .buildPublisher
  ensuring
    (do
      RabbitMqEventPublisher.publish event
      let message ← ofExcept (eventToMessage event)
      perform (σ := publisherOps) (.appendMessage message))
    (do
      let isOpen ← perform (σ := publisherOps) .isOpen
      if isOpen then perform (σ := publisherOps) .closeConnection)

omit [Python] in
/-- `RabbitMqBlockingEventPublisher.published_messages`, under the lock. -/
def publishedMessages : Publishing (List (Dict Json)) := perform (σ := publisherOps) .copyMessages

omit [Python] in
/-- `RabbitMqBlockingEventPublisher.drain`, under the lock. -/
def drain : Publishing (List (Dict Json)) := do
  let messages ← perform (σ := publisherOps) .copyMessages
  perform (σ := publisherOps) .clearMessages
  return messages

/-- The methods, by name. -/
def call : PublisherCall → Publishing Returned
  | .publish event => do
    publish event
    return none
  | .publishedMessages => do return some (← publishedMessages)
  | .drain => do return some (← drain)

end RabbitMqBlockingEventPublisher

/-! ## The publisher of the memory runtime -/

namespace InMemoryEventPublisher

/-- `InMemoryEventPublisher.publish`. -/
def publish (event : DomainEvent) : Publishing Unit := do
  perform (σ := publisherOps) (.appendEvent event)
  let message ← ofExcept (eventToMessage event)
  perform (σ := publisherOps) (.appendMessage message)

omit [Python] in
/-- `InMemoryEventPublisher.published_messages`. -/
def publishedMessages : Publishing (List (Dict Json)) := perform (σ := publisherOps) .copyMessages

omit [Python] in
/-- `InMemoryEventPublisher.drain`. -/
def drain : Publishing (List (Dict Json)) := do
  let messages ← publishedMessages
  perform (σ := publisherOps) .clearEvents
  perform (σ := publisherOps) .clearMessages
  return messages

/-- The methods, by name. -/
def call : PublisherCall → Publishing Returned
  | .publish event => do
    publish event
    return none
  | .publishedMessages => do return some (← publishedMessages)
  | .drain => do return some (← drain)

end InMemoryEventPublisher

/-! ## Publishers as systems -/

/-- The lists of a publisher, and what the exchange got from it. -/
structure Published where
  /-- `events`, which only the in-memory publisher has. -/
  events : List DomainEvent
  /-- `messages`. -/
  messages : List (Dict Json)
  /-- The bodies that the exchange took. -/
  exchange : List ByteArray

/-- What the environment decides about a step of a publisher. -/
inductive PublisherFate where
  /-- It goes through. -/
  | proceeds
  /-- It raises; a body was taken by the exchange before or not. -/
  | raises (e : Exc) (taken : Bool)
  /-- The connection is found to be open, or not. -/
  | found (isOpen : Bool)

/-- One step of a publisher. -/
def Published.exec (s : Published) (o : PublisherOp) (fate : PublisherFate) :
    Option (Except Exc o.Res × Published) :=
  match o, fate with
  | .buildPublisher, .proceeds => some (.ok (), s)
  | .buildPublisher, .raises e _ => some (.error e, s)
  | .basicPublish body, .proceeds => some (.ok (), { s with exchange := s.exchange ++ [body] })
  | .basicPublish body, .raises e taken =>
    some (.error e, if taken then { s with exchange := s.exchange ++ [body] } else s)
  | .isOpen, .found isOpen => some (.ok isOpen, s)
  | .closeConnection, .proceeds => some (.ok (), s)
  | .closeConnection, .raises e _ => some (.error e, s)
  | .appendMessage message, .proceeds => some (.ok (), { s with messages := s.messages ++ [message] })
  | .copyMessages, .proceeds => some (.ok s.messages, s)
  | .clearMessages, .proceeds => some (.ok (), { s with messages := [] })
  | .appendEvent event, .proceeds => some (.ok (), { s with events := s.events ++ [event] })
  | .clearEvents, .proceeds => some (.ok (), { s with events := [] })
  | _, _ => none

/-- Threads that call one publisher. -/
abbrev publisher (call : PublisherCall → Publishing Returned) : System publisherOps Exc Returned where
  State := Published
  Req := PublisherCall
  Choice := PublisherFate
  program := call
  arrive := fun s _ => some s
  exec := fun o fate s => s.exec o fate

/-- `InMemoryEventPublisher`, called by many threads. -/
abbrev inMemoryPublisher : System publisherOps Exc Returned := publisher InMemoryEventPublisher.call

/-- `RabbitMqBlockingEventPublisher`, called by many threads, each call under the lock. -/
abbrev rabbitMqPublisher : System (publisherOps.sum lock) Exc Returned :=
  (publisher RabbitMqBlockingEventPublisher.call).locked

/-- Nothing published. -/
def Published.empty : Published := ⟨[], [], []⟩

end Billing

import RcsMessaging.Domain.Message

/-!
# `Ports` — the data crossing the queue and aggregator interfaces

The records of `apps/core/ports/queue.py` and `apps/core/ports/aggregator.py` that the services
build or read. What an aggregator *answers* is not code of this repository: a worker step takes
it as an input (`AggregatorAnswers`), so every theorem about a step holds for every answer.
-/

namespace RcsMessaging

/-- `QueuePriority`, an `int` enum. -/
inductive QueuePriority
  | low | medium | high | urgent
  deriving DecidableEq, Repr

/-- The integer value of a `QueuePriority`. -/
def QueuePriority.value : QueuePriority → Nat
  | .low => 1
  | .medium => 5
  | .high => 10
  | .urgent => 20

/-- A job handed to `enqueue` (`QueueMessage`), with the dataclass defaults. `delay` is in
seconds; `payload` is the string-valued JSON object. -/
structure QueueMessage where
  id : String
  queueName : String
  payload : List (String × String)
  priority : QueuePriority := .medium
  delay : Option Nat := none
  maxRetries : Nat := 3
  retryBackoff : Nat := 60
  deriving DecidableEq, Repr

/-- The `mapping.get(priority, QueuePriority.MEDIUM)` lookup of both `_map_priority`s. -/
def priorityMapping : String → QueuePriority
  | "low" => .low
  | "medium" => .medium
  | "high" => .high
  | "urgent" => .urgent
  | _ => .medium

/-- `DeliveryService._map_priority`, which lower-cases first (ASCII `toLower`). -/
def mapPriority (priority : String) : QueuePriority := priorityMapping priority.toLower

/-- The queue of the dispatcher (`settings.queue_names["message_dispatcher"]`). -/
def dispatchQueue : String := "message.dispatch"

/-- `_queue_message_for_delivery`'s job for a message. -/
def dispatchJob (m : Message) : QueueMessage :=
  { id := toString m.id, queueName := dispatchQueue, payload := [("message_id", toString m.id)],
    priority := mapPriority m.priority }

/-- The send request (`SendMessageRequest`). -/
structure SendMessageRequest where
  messageId : Nat
  recipientPhone : String
  channel : MessageChannel
  contentText : String
  richCard : Option CardValue := none
  suggestions : List SuggestionValue := []
  priority : String := "medium"
  deriving DecidableEq, Repr

/-- The send response (`SendMessageResponse`). -/
structure SendMessageResponse where
  success : Bool
  externalId : Option String := none
  errorCode : Option String := none
  errorMessage : Option String := none
  retryAfter : Option Nat := none
  deriving DecidableEq, Repr

/-- Which aggregator send a worker called. -/
inductive SendMethod
  | rcs | sms
  deriving DecidableEq, Repr

/-- One aggregator send as issued: the method and the request. -/
structure SendCall where
  method : SendMethod
  request : SendMessageRequest
  deriving DecidableEq, Repr

/-- What one aggregator send does: return a response or raise. -/
inductive SendOutcome
  | returns (r : SendMessageResponse)
  | raises (e : Exn)
  deriving DecidableEq, Repr

/-- What the aggregator answers during one worker step: its name, the capability answer
(`results[0].rcs_enabled`, `False` on an empty result), and what the one send does. -/
structure AggregatorAnswers where
  name : String
  rcsCapable : Bool
  send : SendOutcome
  deriving DecidableEq, Repr

/-- Which infrastructure calls raise during one worker step: every broker publish, every
`update_stats`. -/
structure Faults where
  publish : Bool := false
  stats : Bool := false
  deriving DecidableEq, Repr

end RcsMessaging

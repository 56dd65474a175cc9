import RcsMessaging.Ports

/-!
# `Queue.RabbitMQ` — `RabbitMQAdapter.enqueue`, `schedule` and the `subscribe` consumer loop

Shallow embedding of the retry bookkeeping of `adapters/queue/rabbitmq.py`. `enqueue` publishes a
job with headers `x-max-retries := max_retries` and `x-retry-count := 0`; `_declare_queue` binds
the queue's dead-letter exchange to `{queue}.dlq`.

`subscribe` runs the handler inside `message.process(requeue=True)`. When the handler raises (or
the body does not parse), the context manager rejects the message with `requeue=True` and
re-raises; the adapter's `except` branch then reads `x-retry-count` and `x-max-retries` and calls
`message.reject` a second time. aio_pika refuses a second settlement of one message
(`MessageProcessError`), and the error leaves the `async for`, the consumer is cancelled, and
`subscribe` raises `QueueException`. So a failing job goes back to its queue, the consumer stops,
and no message is ever rejected to the DLQ.

A `QueueState` is one queue, its DLQ, the messages handed to the handler so far, and whether a
consumer is running. Where the broker puts a requeued message back depends on the consumer's
prefetch window, so a delivery takes the position as an input, and the theorems hold for every
choice.
-/

namespace RcsMessaging

namespace RabbitMQAdapter

/-- `headers.get(key, default)`. -/
def headerGet (headers : List (String × Nat)) (key : String) (default : Nat) : Nat :=
  (headers.lookup key).getD default

/-- The JSON body `enqueue` writes (`metadata` aside). -/
structure JobBody where
  id : String
  payload : List (String × String)
  enqueuedAt : Nat
  maxRetries : Nat
  retryBackoff : Nat
  deriving DecidableEq, Repr

/-- An AMQP message as `enqueue` publishes it. -/
structure AmqpMessage where
  body : JobBody
  priority : Nat
  messageId : String
  headers : List (String × Nat)
  deriving DecidableEq, Repr

/-- `enqueue(message)`'s AMQP message: `x-max-retries` from the job, `x-retry-count` zero, and
`x-delay` in milliseconds when the job is delayed. -/
def amqpMessage (m : QueueMessage) (now : Nat) : AmqpMessage :=
  { body := ⟨m.id, m.payload, now, m.maxRetries, m.retryBackoff⟩, priority := m.priority.value,
    messageId := m.id,
    headers := [("x-max-retries", m.maxRetries), ("x-retry-count", 0)] ++
      (m.delay.map fun d => ("x-delay", d * 1000)).toList }

/-- The part of `schedule(message, scheduled_for)` before its `enqueue`: `scheduled_for` is
compared with the naive `datetime.utcnow()`; at or before it the job is published at once
(`none`), later with `message.delay = scheduled_for - now`. An aware `scheduled_for` raises. -/
def scheduleDelay (scheduledFor : PyDateTime) (now : Nat) : Except Exn (Option Nat) :=
  (scheduledFor.le (PyDateTime.utcnow now)).map fun due =>
    if due then none else some (scheduledFor.stamp - now)

/-- The `except` branch of `subscribe`: `retry_count < max_retries` asks for a requeue, anything
else for the DLQ. -/
def requeueOnError (msg : AmqpMessage) : Bool :=
  headerGet msg.headers "x-retry-count" 0 < headerGet msg.headers "x-max-retries" 3

/-- `IncomingMessage.reject(requeue)`: a message already acknowledged or rejected raises
`MessageProcessError`; otherwise it goes back to the queue, or to the dead-letter exchange, as
`requeue` says. -/
def reject (processed requeue : Bool) : Except Exn Bool :=
  if processed then .error (.other "Message already processed") else .ok requeue

/-- One queue, its `{queue}.dlq`, the deliveries to the handler so far, and whether `subscribe`
is consuming. -/
structure QueueState where
  ready : List AmqpMessage
  dlq : List AmqpMessage
  delivered : List AmqpMessage
  consuming : Bool
  deriving DecidableEq, Repr

/-- The declared, empty queue, with no consumer yet. -/
def QueueState.empty : QueueState := ⟨[], [], [], false⟩

/-- Publishing to the default exchange with the queue's name as routing key. -/
def QueueState.publish (q : QueueState) (msg : AmqpMessage) : QueueState :=
  { q with ready := q.ready ++ [msg] }

/-- A message settled by a `reject` that returned: back at position `pos`, or dead-lettered. -/
def QueueState.settle (q : QueueState) (msg : AmqpMessage) (pos : Nat) : Bool → QueueState
  | true => { q with ready := q.ready.take pos ++ msg :: q.ready.drop pos }
  | false => { q with dlq := q.dlq ++ [msg] }

/-- One turn of `subscribe`'s loop on the head of the queue. `handlerOk` says whether the handler
returned: then `process()` acknowledges. Otherwise `process()` rejects with `requeue=True`, and
the `except` branch rejects the settled message again, which raises and ends the consumer. -/
def QueueState.deliver (q : QueueState) (handlerOk : Bool) (pos : Nat) : QueueState :=
  if !q.consuming then q
  else match q.ready with
    | [] => q
    | msg :: rest =>
      let q := { q with ready := rest, delivered := q.delivered ++ [msg] }
      if handlerOk then q
      else match reject false true with
        | .error _ => q
        | .ok requeue =>
          let q := q.settle msg pos requeue
          match reject true (requeueOnError msg) with
          | .ok requeue' => q.settle msg pos requeue'
          | .error _ => { q with consuming := false }

/-- What happens on the queue: a job enqueued, a consumer started, or a message delivered. -/
inductive QueueEvent
  | enqueue (m : QueueMessage) (now : Nat)
  | subscribe
  | deliver (handlerOk : Bool) (pos : Nat)
  deriving DecidableEq, Repr

/-- One queue event. -/
def QueueState.step (q : QueueState) : QueueEvent → QueueState
  | .enqueue m now => q.publish (amqpMessage m now)
  | .subscribe => { q with consuming := true }
  | .deliver ok pos => q.deliver ok pos

/-- A run of queue events. -/
def QueueState.run (q : QueueState) (es : List QueueEvent) : QueueState := es.foldl step q

@[simp] theorem QueueState.run_nil (q : QueueState) : q.run [] = q := rfl
@[simp] theorem QueueState.run_cons (q : QueueState) (e : QueueEvent) (es : List QueueEvent) :
    q.run (e :: es) = (q.step e).run es := rfl

/-! ## What one delivery does -/

variable {q : QueueState}

/-- A delivery whose handler raises puts the job back at `pos` and stops the consumer. -/
theorem deliver_failing {j : AmqpMessage} {rest : List AmqpMessage} (hc : q.consuming = true)
    (hq : q.ready = j :: rest) (pos : Nat) :
    q.deliver false pos =
      { q with
        ready := rest.take pos ++ j :: rest.drop pos
        delivered := q.delivered ++ [j]
        consuming := false } := by
  simp [QueueState.deliver, hc, hq, reject, QueueState.settle]

/-- No consumer, no delivery. -/
theorem deliver_stopped (hc : q.consuming = false) (ok : Bool) (pos : Nat) : q.deliver ok pos = q := by
  simp [QueueState.deliver, hc]

/-- No event writes the DLQ: the only `reject` that could dead-letter a message is the second one,
and it always raises. -/
theorem step_dlq (e : QueueEvent) : (q.step e).dlq = q.dlq := by
  cases e with
  | enqueue m now | subscribe => rfl
  | deliver ok pos =>
    simp only [QueueState.step, QueueState.deliver]
    split
    · rfl
    · split
      · rfl
      · cases ok <;> simp [reject, QueueState.settle]

theorem run_dlq : ∀ (es : List QueueEvent) (q : QueueState), (q.run es).dlq = q.dlq
  | [], _ => rfl
  | e :: es, q => (run_dlq es (q.step e)).trans (step_dlq e)

/-- A stopped consumer hands out nothing until the next `subscribe`. -/
theorem run_stopped_delivered : ∀ {q : QueueState} (es : List QueueEvent), q.consuming = false →
    (∀ e ∈ es, e ≠ .subscribe) → (q.run es).delivered = q.delivered
  | _, [], _, _ => rfl
  | q, e :: es, hc, hes => by
    have hs : (q.step e).consuming = false ∧ (q.step e).delivered = q.delivered := by
      cases e with
      | enqueue m now => exact ⟨hc, rfl⟩
      | subscribe => exact absurd rfl (hes _ (List.mem_cons_self _ _))
      | deliver ok pos => rw [QueueState.step, deliver_stopped hc]; exact ⟨hc, rfl⟩
    exact (run_stopped_delivered es hs.1 fun e' he' => hes e' (List.mem_cons_of_mem _ he')).trans
      hs.2

/-! ## A failing job ends the consumer and never reaches the DLQ -/

/-- **A failing job stops the consumer.** On any queue with a consumer running, a delivery of the
head job `j` whose handler raises puts `j` back in the queue and ends `subscribe`; after it, no job
is handed out until a new `subscribe`, and over every run of queue events nothing ever reaches the
DLQ. -/
theorem failing_job_stops_consumer {j : AmqpMessage} {rest : List AmqpMessage}
    (hc : q.consuming = true) (hq : q.ready = j :: rest) (pos : Nat) (es : List QueueEvent) :
    (q.deliver false pos).ready = rest.take pos ++ j :: rest.drop pos ∧
    (q.deliver false pos).consuming = false ∧
    ((∀ e ∈ es, e ≠ .subscribe) →
      ((q.deliver false pos).run es).delivered = q.delivered ++ [j]) ∧
    (q.run es).dlq = q.dlq := by
  rw [deliver_failing hc hq]
  exact ⟨rfl, rfl, run_stopped_delivered es rfl, run_dlq es q⟩

/-- Scenario E of the spec: `max_retries = 2`, and a handler that raises. The first failing
delivery requeues the job and stops the consumer; three more deliveries hand out nothing, and the
DLQ stays empty. -/
theorem failing_job_stops_consumer_scenario :
    let m : QueueMessage :=
      { id := "job-1", queueName := "message.dispatch", payload := [], maxRetries := 2 }
    let q := QueueState.empty.run [.enqueue m 0, .subscribe]
    let es := [QueueEvent.deliver false 0, .deliver false 0, .deliver false 0]
    q.consuming = true ∧ q.ready = [amqpMessage m 0] ∧
      ((q.deliver false 0).ready = [].take 0 ++ amqpMessage m 0 :: [].drop 0 ∧
        (q.deliver false 0).consuming = false ∧
        ((∀ e ∈ es, e ≠ .subscribe) →
          ((q.deliver false 0).run es).delivered = q.delivered ++ [amqpMessage m 0]) ∧
        (q.run es).dlq = q.dlq) ∧
      ((q.deliver false 0).run es).delivered = [amqpMessage m 0] ∧ (q.run es).dlq = [] :=
  ⟨rfl, rfl, failing_job_stops_consumer rfl rfl 0 _, by decide, by decide⟩

end RabbitMQAdapter

end RcsMessaging

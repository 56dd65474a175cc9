import RcsMessaging.Services.Handler

/-!
# `Services.Delivery` — `DeliveryService`, the dispatcher's and the webhook's handlers

Shallow embedding of `apps/core/services/delivery_service.py` (the parts that run on a stored
message) over the `Handler` monad. The branches and their order are the source's:

* `processMessageDelivery` — inside `async with self.uow:`, load; on RCS ask the capability
  check and, if not capable, mark FAILED(RCS_NOT_SUPPORTED) and take the fallback route; else
  `queue()`, save, send, count `messages_sent`. A `RateLimitException` requeues; any other
  exception of the `try` goes to `handleDeliveryFailure`.
* `handleDeliveryFailure` — mark FAILED(NETWORK_ERROR); retry, else fall back, else stop.
* `handleDeliveryStatusUpdate` — `delivered` / `read` / `failed`, then save; `failed`
  re-evaluates only the fallback.

The message is found by id or by external id before a handler runs (`Pipeline.World` does the
correlation); a handler starts with `loadMsg`.
-/

namespace RcsMessaging

/-- `value or default` for an optional string. -/
def orElse (o : Option String) (default : String) : String :=
  if truthy o then o.getD default else default

/-- `e.retry_after or 60`. -/
def retryAfterOr60 : Option Nat → Nat
  | some (n + 1) => n + 1
  | _ => 60

namespace DeliveryService

/-- `_queue_message_for_delivery(message)`. -/
def queueMessageForDelivery (faults : Faults) : Handler Unit := do
  let m ← getMsg
  publish faults (dispatchJob m)

/-- `_queue_fallback(message)`: `trigger_fallback()`, save, then a dispatch job. -/
def queueFallback (faults : Faults) (now : Nat) : Handler Unit := do
  onMsg (Message.triggerFallback now)
  saveMsg now
  queueMessageForDelivery faults

/-- `_requeue_with_delay(message, delay)`: `schedule(job, utcnow())`, which
`RabbitMQAdapter.schedule` publishes at once; `delay` is not read. -/
def requeueWithDelay (faults : Faults) (_delay : Nat) : Handler Unit :=
  queueMessageForDelivery faults

/-- `_handle_delivery_failure(message, exception)`. -/
def handleDeliveryFailure (faults : Faults) (now : Nat) (e : Exn) : Handler Unit := do
  onMsg (Message.markFailed .networkError e.errorCode (some e.text) now)
  let m ← getMsg
  if m.shouldRetry now then do
    onMsg (Message.incrementRetry now)
    saveMsg now
    queueMessageForDelivery faults
  else if m.shouldFallbackToSms then
    queueFallback faults now
  else
    saveMsg now

/-- The request `_send_via_aggregator` builds. -/
def sendRequest (m : Message) : SendMessageRequest :=
  { messageId := m.id, recipientPhone := m.recipientPhone, channel := m.channel,
    contentText := m.content.text, richCard := m.content.richCard,
    suggestions := m.content.suggestions, priority := m.priority }

/-- `_send_via_aggregator(message)`: `send_rcs_message` on RCS, `send_sms_message` otherwise;
on success `mark_sent` and save, else raise `AggregatorException`. -/
def sendViaAggregator (agg : AggregatorAnswers) (now : Nat) : Handler Unit := do
  let m ← getMsg
  let r ← callSend agg ⟨if m.channel = .rcs then .rcs else .sms, sendRequest m⟩
  if r.success then do
    onMsg (Message.markSent agg.name r.externalId now)
    saveMsg now
  else
    throw (.aggregator (orElse r.errorMessage "Unknown aggregator error") r.errorCode r.retryAfter)

/-- The `try` block of `process_message_delivery`. -/
def deliveryAttempt (agg : AggregatorAnswers) (faults : Faults) (now : Nat) : Handler Unit := do
  let m ← getMsg
  if m.channel = .rcs ∧ agg.rcsCapable = false then do
    onMsg (Message.markFailed .rcsNotSupported none (some "RCS not supported") now)
    saveMsg now
    queueFallback faults now
  else do
    onMsg (Message.queue now)
    saveMsg now
    sendViaAggregator agg now
    let m' ← getMsg
    updateStats faults m'.campaignId "messages_sent"

/-- The `except` clauses of `process_message_delivery`, in their order. -/
def deliveryExceptions (faults : Faults) (now : Nat) : Exn → Handler Unit
  | .rateLimit _ retryAfter => requeueWithDelay faults (retryAfterOr60 retryAfter)
  | e => handleDeliveryFailure faults now e

/-- `process_message_delivery(message_id)`. -/
def processMessageDelivery (agg : AggregatorAnswers) (faults : Faults) (now : Nat) :
    Handler Unit :=
  transaction do
    loadMsg now
    tryCatch (deliveryAttempt agg faults now) (deliveryExceptions faults now)

/-- The `if status == ...` chain of `handle_delivery_status_update`. -/
def applyDeliveryStatus (status : String) (errorCode errorMessage : Option String)
    (faults : Faults) (now : Nat) : Handler Unit :=
  if status = "delivered" then do
    onMsg (Message.markDelivered now)
    let m ← getMsg
    updateStats faults m.campaignId "messages_delivered"
  else if status = "read" then do
    onMsg (Message.markRead now)
    let m ← getMsg
    updateStats faults m.campaignId "messages_read"
  else if status = "failed" then do
    onMsg (Message.markFailed .networkError errorCode errorMessage now)
    let m ← getMsg
    if m.shouldFallbackToSms then queueFallback faults now else pure ()
  else pure ()

/-- `handle_delivery_status_update(external_id, status, error_code, error_message)` on the
message the external id found. -/
def handleDeliveryStatusUpdate (status : String) (errorCode errorMessage : Option String)
    (faults : Faults) (now : Nat) : Handler Unit :=
  transaction do
    loadMsg now
    applyDeliveryStatus status errorCode errorMessage faults now
    saveMsg now

end DeliveryService

/-- `MessageDispatcher.process_message_job`: the dispatcher's own `async with uow:` around
`process_message_delivery`. -/
def MessageDispatcher.processMessageJob (agg : AggregatorAnswers) (faults : Faults) (now : Nat) :
    Handler Unit :=
  transaction (DeliveryService.processMessageDelivery agg faults now)

/-- `WebhookProcessor.process_webhook_job` after the aggregator parsed a delivery status. -/
def WebhookProcessor.processWebhookJob (status : String) (errorCode errorMessage : Option String)
    (faults : Faults) (now : Nat) : Handler Unit :=
  transaction (DeliveryService.handleDeliveryStatusUpdate status errorCode errorMessage faults now)

end RcsMessaging

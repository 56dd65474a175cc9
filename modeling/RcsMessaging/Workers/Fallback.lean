import RcsMessaging.Services.Delivery

/-!
# `Workers.Fallback` — `SMSFallbackWorker.process_fallback_job`

Shallow embedding of `apps/workers/fallback/sms_fallback_worker.py`. The worker bypasses the
capability check: if `should_fallback_to_sms()` holds it triggers the fallback, saves, commits
(the checkpoint before the external call), converts the content with `to_sms_text()` and sends
the SMS. On success it marks FALLBACK_SENT and counts `fallback_triggered`; on an unsuccessful
response it marks FAILED and counts `messages_failed`; on an `AggregatorException` it marks
FAILED and counts nothing. Any other exception leaves the block, and the unit of work rolls back
to the checkpoint.
-/

namespace RcsMessaging

namespace SMSFallbackWorker

/-- The SMS request of the fallback leg: the converted text, no card, no suggestions. -/
def smsRequest (m : Message) (smsText : String) : SendMessageRequest :=
  { messageId := m.id, recipientPhone := m.recipientPhone, channel := .sms,
    contentText := smsText, priority := m.priority }

/-- The inner `try` around `send_sms_message` and the bookkeeping after it. -/
def sendSmsLeg (agg : AggregatorAnswers) (faults : Faults) (now : Nat) (smsText : String) :
    Handler Unit := do
  let m ← getMsg
  let r ← callSend agg ⟨.sms, smsRequest m smsText⟩
  if r.success then do
    onMsg (Message.markFallbackSent agg.name r.externalId now)
    saveMsg now
    let m' ← getMsg
    updateStats faults m'.campaignId "fallback_triggered"
  else do
    onMsg (Message.markFailed .networkError r.errorCode r.errorMessage now)
    saveMsg now
    let m' ← getMsg
    updateStats faults m'.campaignId "messages_failed"

/-- `except AggregatorException as e:` (a `RateLimitException` included); others re-raise. -/
def sendSmsExceptions (now : Nat) : Exn → Handler Unit
  | e@(.aggregator ..) | e@(.rateLimit ..) => do
    onMsg (Message.markFailed .networkError none (some e.text) now)
    saveMsg now
  | e => throw e

/-- The body after the `should_fallback_to_sms()` check. -/
def fallbackLeg (agg : AggregatorAnswers) (faults : Faults) (now : Nat) : Handler Unit := do
  onMsg (Message.triggerFallback now)
  saveMsg now
  commit
  let m ← getMsg
  match m.content.toSmsText with
  | .error e => throw e
  | .ok smsText => tryCatch (sendSmsLeg agg faults now smsText) (sendSmsExceptions now)

/-- `process_fallback_job(job)` on the message of the job's `message_id`. -/
def processFallbackJob (agg : AggregatorAnswers) (faults : Faults) (now : Nat) : Handler Unit :=
  transaction do
    loadMsg now
    let m ← getMsg
    if m.shouldFallbackToSms then fallbackLeg agg faults now else pure ()

end SMSFallbackWorker

end RcsMessaging

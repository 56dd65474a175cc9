import RcsMessaging.Adapters.Gupshup
import RcsMessaging.Pipeline.World

/-!
# `Pipeline.RateLimit` — what a rate-limit answer of the aggregator does to a message

`process_message_delivery` has an `except RateLimitException` clause before its generic ones: it
calls `_requeue_with_delay(message, delay=e.retry_after or 60)`. That method schedules the
dispatch job for `utcnow()` ("Simplified delay logic for now"), and `RabbitMQAdapter.schedule`
publishes a job whose time has come at once, so `delay` is never read. The message was queued
and flushed before the send, so the job commits it QUEUED.

A rate limit of the Gupshup API never takes that clause: `GupshupAdapter` rewraps its own
`RateLimitException` (`GupshupAdapter.sends_never_rate_limited`), and the dispatcher handles a
429 as a delivery failure.
-/

namespace RcsMessaging

open DeliveryService

/-- A fresh message meets a rate limit with `retry_after = 30`: its job is published again with no
delay, and its next delivery finds it QUEUED and marks it FAILED with a retry used. When the
rate limit is Gupshup's HTTP 429 with `Retry-After: 30`, the first delivery already marks it
FAILED with a retry used and the failure reason NETWORK_ERROR. -/
theorem rate_limit_not_honoured :
    let w0 : World := World.init (MessageRepo.modelOf
      (Message.create 1 7 3 "+919876543210" { text := "Hi" } "medium" 0) ⟨"Hi", none, none⟩)
    let limited : AggregatorAnswers :=
      ⟨"gupshup", true, .raises (.rateLimit "Rate limit exceeded" (some 30))⟩
    let ok : AggregatorAnswers :=
      ⟨"gupshup", true, .returns { success := true, externalId := some "ext-1" }⟩
    let w1 := w0.step (.dispatch limited {} 100)
    let gupshup : AggregatorAnswers := ⟨"gupshup", true,
      GupshupAdapter.sendRcsMessage (sendRequest (MessageRepo.toDomain w0.row 100))
        (.answered { statusCode := 429, retryAfter := some "30" })⟩
    let w2 := w0.step (.dispatch gupshup {} 100)
    w1.published.map (·.delay) = [none] ∧
      (w1.step (.dispatch ok {} 101)).row.status = .failed ∧
      (w1.step (.dispatch ok {} 101)).row.retryCount = 1 ∧
      w2.row.status = .failed ∧ w2.row.retryCount = 1 ∧
      w2.row.failureReason = some .networkError := by
  decide

end RcsMessaging

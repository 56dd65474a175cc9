import Mathlib.Algebra.Order.Ring.Nat
import RcsMessaging.Pipeline.StatusUpdate

/-!
# `Pipeline.Counters` — the campaign counters a message's jobs bump

The campaign counters are bumped by `update_stats` calls scattered over the handlers, each next
to one branch, and not by the domain transitions themselves. Three branches of the pipeline move a
message without the counter that names the move:

* the dispatcher's fallback route (`_queue_fallback`, after an RCS capability miss or used-up
  retries) triggers the fallback and counts nothing; only the fallback worker, after a
  successful SMS send, counts `fallback_triggered`;
* `_handle_delivery_failure` leaves a message terminally FAILED (no retry, no fallback) and counts
  nothing;
* a `read` report on an SMS message counts `messages_read` though `mark_read()` leaves the status
  alone (`statusUpdate_read_off_rcs`).
-/

namespace RcsMessaging

open DeliveryService

/-- The committed total of one counter over the world's increments. -/
def World.counter (w : World) (key : String) : Nat :=
  ((w.stats.filter (fun s => s.key = key)).map StatsIncrement.increment).sum

variable {w : World} {agg : AggregatorAnswers} {now : Nat}

/-- A message that falls back through the dispatcher, is sent and delivered as SMS, and is then
reported read twice: its fallback is never counted, and `messages_read` counts two reads of a
message that never enters READ. -/
theorem counters_miss_transitions :
    let agg : AggregatorAnswers :=
      ⟨"gupshup", false, .returns { success := true, externalId := some "sms-1" }⟩
    let w0 := World.init (MessageRepo.modelOf
      (Message.create 1 7 3 "+919876543210" { text := "Hi" } "medium" 0) ⟨"Hi", none, none⟩)
    let w1 := w0.run [.dispatch agg {} 100, .dispatch agg {} 200,
      .statusUpdate "sms-1" "delivered" none none {} 300,
      .statusUpdate "sms-1" "read" none none {} 400, .statusUpdate "sms-1" "read" none none {} 500]
    Reachable w0 ∧ w1.row.fallbackTriggered = true ∧ w1.counter "fallback_triggered" = 0 ∧
      w1.row.status = .delivered ∧ w1.counter "messages_read" = 2 :=
  ⟨reachable_create_text 1 7 3 0 "+919876543210" "Hi" "medium", by decide⟩

end RcsMessaging

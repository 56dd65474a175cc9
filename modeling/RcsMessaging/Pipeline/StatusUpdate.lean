import RcsMessaging.Pipeline.Redelivery

/-!
# `Pipeline.StatusUpdate` — what a delivery-status webhook does to a message

`handle_delivery_status_update` finds the message by external id and calls one domain method
per status: `mark_delivered` and `mark_read` guard on the status and raise, which rolls the whole
job back; `mark_failed` guards on nothing. So a late `failed` report, or a redelivered dispatch
job (`Pipeline.Redelivery`), takes a DELIVERED or READ message back to FAILED, and
`is_delivered()` turns false.

The lemmas below say, for any world, what a report for another message, a rejected `delivered` or
`read`, and a `read` off RCS do; the counters they bump are the subject of `Pipeline.Counters`.
-/

namespace RcsMessaging

open DeliveryService

variable {w : World} {ext : String} {code text : Option String} {f : Faults} {now : Nat}

/-- A fresh message with plain text content is stored by `_to_model` as is. -/
theorem reachable_create_text (id campaignId tenantId now : Nat) (phone text priority : String) :
    Reachable (World.init (MessageRepo.modelOf
      (Message.create id campaignId tenantId phone { text := text } priority now) ⟨text, none, none⟩)) :=
  @Reachable.create id campaignId tenantId now phone priority { text := text } _ rfl

/-- A webhook for another external id does not reach the message. -/
theorem statusUpdate_unmatched {status : String} (h : w.row.externalId ≠ some ext) :
    w.step (.statusUpdate ext status code text f now) = w := by
  simp [World.step, Event.applies, h]

/-- `delivered` on any other status: `mark_delivered` raises and the job rolls back. -/
theorem statusUpdate_delivered_rejected (hs : ¬ (w.row.status = .sent ∨ w.row.status = .queued)) :
    w.step (.statusUpdate ext "delivered" code text f now) = w := by
  simp [World.step, Event.applies, Event.handler, Event.now, WebhookProcessor.processWebhookJob,
    handleDeliveryStatusUpdate, applyDeliveryStatus, Ctx.start, Message.markDelivered, hs,
    Ctx.rollback, World.absorb]

/-- `read` on an RCS message in any other status: `mark_read` raises and the job rolls back. -/
theorem statusUpdate_read_rejected (hch : w.row.channel = .rcs) (hs : w.row.status ≠ .delivered) :
    w.step (.statusUpdate ext "read" code text f now) = w := by
  simp [World.step, Event.applies, Event.handler, Event.now, WebhookProcessor.processWebhookJob,
    handleDeliveryStatusUpdate, applyDeliveryStatus, Ctx.start, Message.markRead, hch, hs,
    Ctx.rollback, World.absorb]

/-- `read` off RCS: `mark_read` returns without a change, and `messages_read` is counted all
the same. -/
theorem statusUpdate_read_off_rcs (hext : w.row.externalId = some ext) (hch : w.row.channel ≠ .rcs) :
    (w.step (.statusUpdate ext "read" code text {} now)).row.status = w.row.status ∧
    (w.step (.statusUpdate ext "read" code text {} now)).stats =
      w.stats ++ [⟨w.row.campaignId, "messages_read", 1⟩] := by
  simp [World.step, Event.applies, hext, Event.handler, Event.now,
    WebhookProcessor.processWebhookJob, handleDeliveryStatusUpdate, applyDeliveryStatus,
    Ctx.start, Message.markRead, hch, World.absorb]

/-- A message that reached DELIVERED leaves it when a `failed` report for the same send arrives
after the `delivered` one: `is_delivered()` goes from true to false. -/
theorem delivered_then_failed :
    let agg : AggregatorAnswers :=
      ⟨"gupshup", true, .returns { success := true, externalId := some "ext-1" }⟩
    let w0 := World.init (MessageRepo.modelOf
      (Message.create 1 7 3 "+919876543210" { text := "Hi" } "medium" 0) ⟨"Hi", none, none⟩)
    let w2 := w0.run [.dispatch agg {} 100, .statusUpdate "ext-1" "delivered" none none {} 200]
    let w3 := w2.step (.statusUpdate "ext-1" "failed" (some "E1") (some "late failure") {} 300)
    Reachable w0 ∧ (MessageRepo.toDomain w2.row 200).isDelivered = true ∧
      (MessageRepo.toDomain w3.row 300).isDelivered = false :=
  ⟨reachable_create_text 1 7 3 0 "+919876543210" "Hi" "medium", by decide⟩

end RcsMessaging

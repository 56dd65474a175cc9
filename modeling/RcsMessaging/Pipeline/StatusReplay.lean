import RcsMessaging.Pipeline.StatusUpdate
import RcsMessaging.Pipeline.SmsLeg

/-!
# `Pipeline.StatusReplay` — which status updates raise, and what a repeated one does

`handle_delivery_status_update` has no `try` of its own. A conflict with the message's state is
an exception of the domain: `mark_delivered` raises `ValueError` off SENT and QUEUED, and
`mark_read` raises on an RCS message that is not DELIVERED. The exception leaves the unit of
work, which rolls back, and the webhook job is rejected. Every other status string returns:
`failed` guards on nothing, and a status the chain does not name only saves the message.

A repeated update is therefore harmless when the first one moved the message out of the state the
guard accepts (`delivered`, `read` on RCS), or when it rewrites what it wrote (`failed`, an unnamed
status) at the same clock reading. There are two exceptions. A `failed` whose message is due for
the SMS fallback switches it to SMS, and the repeat marks the switched message FAILED. A `read`
off RCS is counted again each time.
-/

namespace RcsMessaging

open DeliveryService

/-- The status updates a domain guard rejects. -/
def StatusRejected (row : MessageModel) (status : String) : Prop :=
  (status = "delivered" ∧ row.status ≠ .sent ∧ row.status ≠ .queued) ∨
    (status = "read" ∧ row.channel = .rcs ∧ row.status ≠ .delivered)

/-- `should_fallback_to_sms()` holds once `mark_failed` has run. -/
def FallbackDue (row : MessageModel) : Prop :=
  row.fallbackEnabled = true ∧ row.fallbackTriggered = false ∧ row.channel ≠ .sms ∧
    row.maxRetries ≤ row.retryCount

/-- A content column with no card and no suggestion converts to its text. -/
theorem toSmsText_loaded_ok {r : MessageModel} (h : ¬ r.content.Rich) (now : Nat) :
    (MessageRepo.toDomain r now).content.toSmsText = .ok r.content.text := by
  simp only [ContentJson.Rich, not_or, not_not] at h
  rw [loaded_content, h.1, h.2]
  rfl

section Raises

variable {row : MessageModel} (code text : Option String) (now : Nat)

/-- With no infrastructure fault, the update raises exactly on a guard of the domain. A `failed`
that is due for the fallback on a content with a card or a suggestion raises in
`trigger_fallback()` (`Pipeline.SmsLeg`); that case is left out. -/
theorem statusUpdate_raises_iff {status : String}
    (hslip : status = "failed" → FallbackDue row → ¬ row.content.Rich) :
    (∃ e c, handleDeliveryStatusUpdate status code text {} now (Ctx.start row now) = .error e c) ↔
      StatusRejected row status := by
  by_cases hd : status = "delivered"
  · subst hd
    by_cases hs : row.status = .sent ∨ row.status = .queued
    · simp [handleDeliveryStatusUpdate, applyDeliveryStatus, Ctx.start, Message.markDelivered, hs,
        StatusRejected]
      exact hs.resolve_left
    · simp [handleDeliveryStatusUpdate, applyDeliveryStatus, Ctx.start, Message.markDelivered, hs,
        StatusRejected]
      exact not_or.1 hs
  by_cases hr : status = "read"
  · subst hr
    by_cases hch : row.channel = .rcs
    · by_cases hs : row.status = .delivered <;>
        simp [handleDeliveryStatusUpdate, applyDeliveryStatus, Ctx.start, Message.markRead, hs, hch,
          StatusRejected]
    · simp [handleDeliveryStatusUpdate, applyDeliveryStatus, Ctx.start, Message.markRead, hch,
        StatusRejected]
  have he : (MessageRepo.toDomain row now).fallbackEnabled = row.fallbackEnabled := rfl
  by_cases hf : status = "failed"
  · subst hf
    by_cases hdue : FallbackDue row
    · have hok := toSmsText_loaded_ok (hslip rfl hdue) now
      obtain ⟨h1, h2, h3, h4⟩ := hdue
      simp [handleDeliveryStatusUpdate, applyDeliveryStatus, Ctx.start, Message.markFailed,
        Message.recordAttempt, Message.shouldFallbackToSms, queueFallback, Message.triggerFallback,
        queueMessageForDelivery, StatusRejected, he, h1, h2, h3, h4, hok]
    · simp only [FallbackDue] at hdue
      simp [handleDeliveryStatusUpdate, applyDeliveryStatus, Ctx.start, Message.markFailed,
        Message.recordAttempt, Message.shouldFallbackToSms, StatusRejected, he, hdue]
  · simp [handleDeliveryStatusUpdate, applyDeliveryStatus, hd, hr, hf, StatusRejected]

end Raises

/-- A rejected update rolls back: the world is as it was, whatever the faults. -/
theorem statusUpdate_rejected_unchanged {w : World} {ext status : String} {code text : Option String}
    {f : Faults} {now : Nat} (h : StatusRejected w.row status) :
    w.step (.statusUpdate ext status code text f now) = w := by
  rcases h with ⟨rfl, hs, hq⟩ | ⟨rfl, hch, hs⟩
  · exact statusUpdate_delivered_rejected (not_or.2 ⟨hs, hq⟩)
  · exact statusUpdate_read_rejected hch hs

/-! ## The same update twice -/

section Replay

variable {w : World} {ext : String} (code text : Option String) (f : Faults) (now : Nat)

/-- An accepted `delivered` leaves the message DELIVERED, where the guard rejects it; one raised
by a failing `update_stats` left nothing. -/
theorem replay_delivered (hext : w.row.externalId = some ext)
    (hs : w.row.status = .sent ∨ w.row.status = .queued) :
    (w.step (.statusUpdate ext "delivered" code text f now)).step
      (.statusUpdate ext "delivered" code text f now) =
        w.step (.statusUpdate ext "delivered" code text f now) := by
  obtain ⟨p, st⟩ := f
  cases st <;>
  simp [World.step, Event.applies, hext, Event.handler, Event.now,
    WebhookProcessor.processWebhookJob, handleDeliveryStatusUpdate, applyDeliveryStatus,
    Ctx.start, World.absorb, MessageRepo.updateFromDomain, MessageRepo.toDomain, Message.init,
    Message.markDelivered, Message.recordAttempt, hs, Ctx.rollback]

/-- An accepted `read` on RCS leaves the message READ, where the guard rejects it. -/
theorem replay_read (hext : w.row.externalId = some ext) (hch : w.row.channel = .rcs)
    (hs : w.row.status = .delivered) :
    (w.step (.statusUpdate ext "read" code text f now)).step
      (.statusUpdate ext "read" code text f now) =
        w.step (.statusUpdate ext "read" code text f now) := by
  obtain ⟨p, st⟩ := f
  cases st <;>
  simp [World.step, Event.applies, hext, Event.handler, Event.now,
    WebhookProcessor.processWebhookJob, handleDeliveryStatusUpdate, applyDeliveryStatus,
    Ctx.start, World.absorb, MessageRepo.updateFromDomain, MessageRepo.toDomain, Message.init,
    Message.markRead, hs, hch, Ctx.rollback]

/-- A `failed` with no fallback due writes FAILED, `failed_at` and the reason, and writes them
again. -/
theorem replay_failed (hext : w.row.externalId = some ext) (hdue : ¬ FallbackDue w.row) :
    (w.step (.statusUpdate ext "failed" code text f now)).step
      (.statusUpdate ext "failed" code text f now) =
        w.step (.statusUpdate ext "failed" code text f now) := by
  simp only [FallbackDue] at hdue
  simp [World.step, Event.applies, hext, Event.handler, Event.now,
    WebhookProcessor.processWebhookJob, handleDeliveryStatusUpdate, applyDeliveryStatus,
    Ctx.start, World.absorb, MessageRepo.updateFromDomain, MessageRepo.toDomain, Message.init,
    Message.markFailed, Message.recordAttempt, Message.shouldFallbackToSms, hdue]

/-- A status the chain does not name only saves the message. -/
theorem replay_unnamed {status : String} (hext : w.row.externalId = some ext)
    (hd : status ≠ "delivered") (hr : status ≠ "read") (hf : status ≠ "failed") :
    (w.step (.statusUpdate ext status code text f now)).step
      (.statusUpdate ext status code text f now) =
        w.step (.statusUpdate ext status code text f now) := by
  simp [World.step, Event.applies, hext, Event.handler, Event.now,
    WebhookProcessor.processWebhookJob, handleDeliveryStatusUpdate, applyDeliveryStatus, hd, hr, hf,
    Ctx.start, World.absorb, MessageRepo.updateFromDomain, MessageRepo.toDomain, Message.init]

end Replay

/-- Status updates of a delivery-status webhook, on every persisted message state:

* with no infrastructure fault, `handle_delivery_status_update` raises exactly when a guard of the
  domain rejects the update (`delivered` off SENT and QUEUED, `read` on RCS off DELIVERED), a
  `failed` due for the fallback on a content with a card or a suggestion left out;
* a rejected update leaves the world as it was;
* the same update applied twice, at the same clock reading and under the same faults, leaves the
  world (message row, counters, sends and jobs) as applying it once, a `read` off RCS and a `failed`
  due for the fallback left out. -/
theorem status_update_guarded_replay (w : World) (ext status : String) (code text : Option String)
    (f : Faults) (now : Nat) :
    ((status = "failed" → FallbackDue w.row → ¬ w.row.content.Rich) →
      ((∃ e c, handleDeliveryStatusUpdate status code text {} now (Ctx.start w.row now) = .error e c) ↔
        StatusRejected w.row status)) ∧
    (StatusRejected w.row status → w.step (.statusUpdate ext status code text f now) = w) ∧
    ((status = "read" → w.row.channel = .rcs) → (status = "failed" → ¬ FallbackDue w.row) →
      (w.step (.statusUpdate ext status code text f now)).step
          (.statusUpdate ext status code text f now) =
        w.step (.statusUpdate ext status code text f now)) := by
  refine ⟨statusUpdate_raises_iff code text now, statusUpdate_rejected_unchanged,
    fun hread hfail => ?_⟩
  by_cases hext : w.row.externalId ≠ some ext
  · rw [statusUpdate_unmatched hext, statusUpdate_unmatched hext]
  rw [not_not] at hext
  by_cases hrej : StatusRejected w.row status
  · rw [statusUpdate_rejected_unchanged hrej, statusUpdate_rejected_unchanged hrej]
  by_cases hd : status = "delivered"
  · subst hd
    exact replay_delivered code text f now hext (Classical.byContradiction fun h =>
      hrej (.inl ⟨rfl, fun h1 => h (.inl h1), fun h2 => h (.inr h2)⟩))
  by_cases hr : status = "read"
  · subst hr
    exact replay_read code text f now hext (hread rfl)
      (Classical.byContradiction fun h => hrej (.inr ⟨rfl, hread rfl, h⟩))
  by_cases hf : status = "failed"
  · subst hf
    exact replay_failed code text f now hext (hfail rfl)
  · exact replay_unnamed code text f now hext hd hr hf

/-- Updates for a message sent on RCS with external id `ext-1`. A second `delivered` raises. A
`failed` once its retries are used up (three redeliveries of its dispatch job) switches it to SMS
and PENDING, and the same `failed` again marks it FAILED. An unnamed status applied again later
rewrites `updated_at`. -/
theorem status_update_repeated :
    let agg : AggregatorAnswers :=
      ⟨"gupshup", true, .returns { success := true, externalId := some "ext-1" }⟩
    let w1 : World := (World.init (MessageRepo.modelOf
      (Message.create 1 7 3 "+919876543210" { text := "Hi" } "medium" 0) ⟨"Hi", none, none⟩)).step
      (.dispatch agg {} 100)
    let failed : Event := .statusUpdate "ext-1" "failed" none none {} 500
    let w4 := w1.run [.dispatch agg {} 200, .dispatch agg {} 300, .dispatch agg {} 400]
    let w5 := w1.step (.statusUpdate "ext-1" "enqueued" none none {} 200)
    (∃ e c, handleDeliveryStatusUpdate "delivered" none none {} 300
      (Ctx.start (w1.step (.statusUpdate "ext-1" "delivered" none none {} 200)).row 300) =
        .error e c) ∧
    (w4.step failed).row.status = .pending ∧ ((w4.step failed).step failed).row.status = .failed ∧
    w5.row.updatedAt = 200 ∧
      (w5.step (.statusUpdate "ext-1" "enqueued" none none {} 300)).row.updatedAt = 300 :=
  ⟨⟨_, _, rfl⟩, by decide⟩

end RcsMessaging

import RcsMessaging.Pipeline.Fallback

/-!
# `Pipeline.Redelivery` — what a dispatch job does when it comes back

`process_message_delivery` has no status check of its own at the top. The only guard on the way
to the aggregator is `Message.queue()`, which raises for every status but PENDING; but the
handler's `except Exception` turns that `ValueError` into a delivery failure. So a dispatch job
delivered again for a message that was already sent does not stop: it marks the message FAILED,
retries it while retries are left, then falls back to SMS, and the SMS leg sends again.

`sent_message_sent_again` follows one message through this, with no status webhook anywhere in
the run. The second half of the module shows why the retries themselves send nothing: on a FAILED
message every path of the dispatch job avoids the aggregator.
-/

namespace RcsMessaging

open DeliveryService

/-- A message sent on RCS is sent again, as SMS, after its dispatch job is delivered a second
time: the redelivery and the four jobs it causes take it through three retries and the fallback,
with no status webhook in the run. -/
theorem sent_message_sent_again :
    let agg : AggregatorAnswers :=
      ⟨"gupshup", true, .returns { success := true, externalId := some "ext-1" }⟩
    let w0 := World.init (MessageRepo.modelOf
      (Message.create 1 7 3 "+919876543210" { text := "Hi" } "medium" 0) ⟨"Hi", none, none⟩)
    let w1 := w0.step (.dispatch agg {} 100)
    Reachable w0 ∧ w1.row.status = .sent ∧ w1.sends.length = 1 ∧
      (w1.run [.dispatch agg {} 200, .dispatch agg {} 300, .dispatch agg {} 400,
        .dispatch agg {} 500, .dispatch agg {} 600]).sends.length = 2 :=
  ⟨@Reachable.create 1 7 3 0 "+919876543210" "medium" { text := "Hi" } _ rfl, by decide⟩

/-! ## A retried message is never sent again

`_handle_delivery_failure` retries by incrementing `retry_count` and republishing the dispatch
job, but it leaves the message FAILED, and `queue()` raises on FAILED. So the retried job takes the
failure path again: the failure handlers issue no send, and `mark_sent` is reached only after a
send. `Unsent s` says that no send was issued since `s` and that neither the message nor a row
holds SENT. -/

/-- No aggregator send since `s`, and SENT nowhere in the job. -/
def Unsent (s : List SendCall) (c : Ctx) : Prop :=
  c.sends = s ∧ c.msg.status ≠ .sent ∧ c.row.status ≠ .sent ∧ c.durable.status ≠ .sent

section Unsent

variable {s : List SendCall} {faults : Faults}

/-- A method that never produces SENT keeps `Unsent`. -/
theorem onMsg_unsent {op : EStateM Exn Message Unit}
    (hop : ∀ m : Message, m.status ≠ .sent → (resultState (op m)).status ≠ .sent) :
    Keeps (Unsent s) (onMsg op) :=
  triple_onMsg fun _ ⟨h1, h2, h3, h4⟩ => ⟨h1, hop _ h2, h3, h4⟩

theorem markFailed_unsent (r : FailureReason) (c t : Option String) (now : Nat) :
    Keeps (Unsent s) (onMsg (Message.markFailed r c t now)) :=
  onMsg_unsent fun _ _ => by simp [Message.markFailed, Message.recordAttempt, resultState]

theorem incrementRetry_unsent (now : Nat) : Keeps (Unsent s) (onMsg (Message.incrementRetry now)) :=
  onMsg_unsent fun _ h => h

theorem triggerFallback_unsent (now : Nat) :
    Keeps (Unsent s) (onMsg (Message.triggerFallback now)) :=
  onMsg_unsent fun m h => by
    unfold Message.triggerFallback
    split
    · dsimp only; split <;> simp [resultState]
    · exact h

theorem saveMsg_unsent (now : Nat) : Keeps (Unsent s) (saveMsg now) :=
  fun _ ⟨h1, h2, _, h4⟩ => ⟨h1, h2, h2, h4⟩

theorem publish_unsent (j : QueueMessage) : Keeps (Unsent s) (publish faults j) := by
  intro c h; unfold publish; split <;> exact h

theorem queueMessageForDelivery_unsent : Keeps (Unsent s) (queueMessageForDelivery faults) :=
  triple_bind keeps_getMsg fun _ => publish_unsent _

theorem queueFallback_unsent (now : Nat) : Keeps (Unsent s) (queueFallback faults now) :=
  triple_bind (triggerFallback_unsent now) fun _ =>
    triple_bind (saveMsg_unsent now) fun _ => queueMessageForDelivery_unsent

/-- The failure handler never sends. -/
theorem handleDeliveryFailure_unsent (now : Nat) (e : Exn) :
    Keeps (Unsent s) (handleDeliveryFailure faults now e) :=
  triple_bind (markFailed_unsent _ _ _ _) fun _ => triple_bind keeps_getMsg fun _ =>
    triple_ite (fun _ => triple_bind (incrementRetry_unsent now) fun _ =>
        triple_bind (saveMsg_unsent now) fun _ => queueMessageForDelivery_unsent)
      fun _ => triple_ite (fun _ => queueFallback_unsent now) fun _ => saveMsg_unsent now

theorem deliveryExceptions_unsent (now : Nat) (e : Exn) :
    Keeps (Unsent s) (deliveryExceptions faults now e) := by
  cases e <;> first | exact queueMessageForDelivery_unsent | exact handleDeliveryFailure_unsent _ _

/-- On a FAILED message the `try` block sends nothing: the capability miss takes the fallback
route, and otherwise `queue()` raises before the send. -/
theorem deliveryAttempt_unsent (agg : AggregatorAnswers) (now : Nat) :
    Triple (fun c => Unsent s c ∧ c.msg.status = .failed) (deliveryAttempt agg faults now)
      (Unsent s) := by
  refine triple_getMsg_bind fun m => triple_ite (fun _ => ?_) fun _ => ?_
  · exact triple_weaken (fun _ h => h.1.1) (triple_bind (markFailed_unsent _ _ _ _) fun _ =>
      triple_bind (saveMsg_unsent now) fun _ => queueFallback_unsent now)
  · rintro c ⟨⟨h, hf⟩, rfl⟩
    simpa [Message.queue, hf, resultState] using h

/-- A dispatch delivery on a FAILED message issues no send and writes SENT nowhere. -/
theorem processMessageJob_unsent (agg : AggregatorAnswers) (now : Nat) :
    Triple (fun c => Unsent s c ∧ c.row.status = .failed)
      (MessageDispatcher.processMessageJob agg faults now) (Unsent s) := by
  have rb : ∀ c, Unsent s c → Unsent s c.rollback := fun _ ⟨h1, h2, _, h4⟩ => ⟨h1, h2, h4, h4⟩
  have cm : Keeps (Unsent s) commit := fun _ ⟨h1, h2, h3, _⟩ => ⟨h1, h2, h3, h3⟩
  have load : Triple (fun c => Unsent s c ∧ c.row.status = .failed) (loadMsg now)
      (fun c => Unsent s c ∧ c.msg.status = .failed) := fun _ ⟨⟨h1, _, h3, h4⟩, hf⟩ =>
    ⟨⟨h1, by simpa [resultState] using h3, h3, h4⟩, by simpa [resultState] using hf⟩
  exact triple_transaction (triple_transaction (triple_bind_of load (fun _ h => h.1) fun _ =>
    triple_tryCatch (deliveryAttempt_unsent agg now) fun e => deliveryExceptions_unsent now e)
    cm rb) cm rb

/-- A dispatch job delivered for a FAILED message, which is what the retry branch of
`_handle_delivery_failure` leaves behind, issues no aggregator send and does not leave the
message SENT, whatever the capability answer, the send's outcome and the infrastructure faults. -/
theorem retried_message_not_resent {w : World} (hs : w.row.status = .failed)
    (agg : AggregatorAnswers) (f : Faults) (now : Nat) :
    (w.step (.dispatch agg f now)).sends = w.sends ∧
      (w.step (.dispatch agg f now)).row.status ≠ .sent := by
  have h0 : Unsent [] (Ctx.start w.row now) ∧ (Ctx.start w.row now).row.status = .failed := by
    simp [Unsent, Ctx.start, hs]
  obtain ⟨h1, -, -, h4⟩ := processMessageJob_unsent agg now _ h0
  simp only [World.step, Event.applies, if_true, World.absorb, Event.handler, Event.now]
  exact ⟨by rw [h1, List.append_nil], h4⟩

/-- A send that times out takes the retry branch: FAILED, one retry used, the dispatch job
published again. Its redelivery finds a capable recipient and a send that would succeed. -/
theorem retried_message_not_resent_after_timeout :
    let w1 := (World.init (MessageRepo.modelOf
      (Message.create 1 7 3 "+919876543210" { text := "Hi" } "medium" 0) ⟨"Hi", none, none⟩)).step
      (.dispatch ⟨"gupshup", true,
        .raises (.aggregator "Failed to send RCS message: timeout" none none)⟩ {} 100)
    let agg : AggregatorAnswers :=
      ⟨"gupshup", true, .returns { success := true, externalId := some "ext-2" }⟩
    w1.row.retryCount = 1 ∧ w1.published.length = 1 ∧ w1.row.status = .failed ∧
      ((w1.step (.dispatch agg {} 200)).sends = w1.sends ∧
        (w1.step (.dispatch agg {} 200)).row.status ≠ .sent) :=
  ⟨by decide, by decide, by decide, retried_message_not_resent (by decide) _ _ _⟩

end Unsent

end RcsMessaging

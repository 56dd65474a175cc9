import RcsMessaging.Pipeline.World

/-!
# `Pipeline.Fallback` — the fallback and retry invariant of a message

The message aggregate keeps four fields that decide retries and the SMS fallback: `channel`,
`fallback_triggered`, `retry_count` and `max_retries`. This module proves that along every run
of the pipeline (any deliveries of dispatch and fallback jobs, any status webhooks, every
answer of the aggregator, failing publishes and counter updates, and the reload of the message
from its row at each job):

* `channel = SMS` exactly when `fallback_triggered` (`FallbackInv`, `reachable_rowInv`);
* `retry_count ≤ max_retries` (`FallbackInv`);
* `fallback_triggered`, hence the SMS channel, never goes back (`step_fallbackTriggered`);
* once the committed row records the trigger, every later `trigger_fallback` raises, and a
  `trigger_fallback` that returns starts from an untriggered message.

The proof is the invariant-plus-step pattern at two levels. At the level of a method, the
`fallbackView` of the message moves only in the three ways listed in the `*_fallbackView` lemmas. At the
level of a job, `CtxInv r0` (relative to the row `r0` the job loaded) is kept by every primitive
and, through the `triple_*` rules, by every handler.
-/

namespace RcsMessaging

namespace Message

/-- The four fields behind retries and the fallback. -/
def fallbackView (m : Message) : MessageChannel × Bool × Nat × Nat :=
  (m.channel, m.fallbackTriggered, m.retryCount, m.maxRetries)

@[simp] theorem recordAttempt_fallbackView (m : Message) (ch : MessageChannel) (st : MessageStatus)
    (now : Nat) (a x c t : Option String) :
    (m.recordAttempt ch st now a x c t).fallbackView = m.fallbackView := rfl

/-! ## Method level: how each method moves `fallbackView` -/

/-- A method that never touches the fallback and retry fields. -/
def FrameFallback (op : EStateM Exn Message Unit) : Prop :=
  ∀ m, (resultState (op m)).fallbackView = m.fallbackView

theorem queue_frame (now : Nat) : FrameFallback (queue now) := by
  intro m; unfold queue; split <;> rfl

theorem markSent_frame (a : String) (x : Option String) (now : Nat) :
    FrameFallback (markSent a x now) := fun _ => rfl

theorem markDelivered_frame (now : Nat) : FrameFallback (markDelivered now) := by
  intro m; unfold markDelivered; split <;> rfl

theorem markRead_frame (now : Nat) : FrameFallback (markRead now) := by
  intro m; unfold markRead; split
  · rfl
  · split <;> rfl

theorem markFailed_frame (r : FailureReason) (c t : Option String) (now : Nat) :
    FrameFallback (markFailed r c t now) := fun _ => rfl

/-- `trigger_fallback` either raises on its guard and changes nothing, or moves to SMS,
triggered, zero retries — also when `to_sms_text()` raises after the switch. -/
theorem triggerFallback_fallbackView (m : Message) (now : Nat) :
    (resultState (triggerFallback now m)).fallbackView = m.fallbackView ∨
      (resultState (triggerFallback now m)).fallbackView = (.sms, true, 0, m.maxRetries) := by
  unfold triggerFallback
  split
  · right
    dsimp only
    split <;> rfl
  · left; rfl

/-- A `trigger_fallback` that returns started from an untriggered message. -/
theorem triggerFallback_ok {m m' : Message} {now : Nat} {u : Unit}
    (h : triggerFallback now m = .ok u m') :
    m.fallbackTriggered = false ∧ m'.fallbackTriggered = true := by
  unfold triggerFallback at h
  split at h
  · rename_i hf
    simp only [shouldFallbackToSms, decide_eq_true_eq] at hf
    refine ⟨by simpa using hf.2.1, ?_⟩
    dsimp only at h
    split at h
    · cases h; rfl
    · cases h
  · cases h

/-- On a triggered message `trigger_fallback` raises and leaves it as it was. -/
theorem triggerFallback_of_triggered {m : Message} (now : Nat) (h : m.fallbackTriggered = true) :
    triggerFallback now m =
      .error (.valueError "Cannot trigger fallback for this message") m := by
  simp [triggerFallback, shouldFallbackToSms, h]

theorem markFallbackSent_fallbackView (a : String) (x : Option String) (now : Nat) (m : Message) :
    (resultState (markFallbackSent a x now m)).fallbackView =
      (.sms, true, m.retryCount, m.maxRetries) := rfl

theorem incrementRetry_fallbackView (now : Nat) (m : Message) :
    (resultState (incrementRetry now m)).fallbackView =
      (m.channel, m.fallbackTriggered, m.retryCount + 1, m.maxRetries) := rfl

end Message

/-! ## The invariant on a view, a message, a row -/

/-- `channel = SMS` exactly when triggered, and `retry_count ≤ max_retries`. -/
def FallbackInv (v : MessageChannel × Bool × Nat × Nat) : Prop :=
  (v.1 = .sms ↔ v.2.1 = true) ∧ v.2.2.1 ≤ v.2.2.2

/-- The fallback and retry columns of a row. -/
def MessageModel.fallbackView (r : MessageModel) : MessageChannel × Bool × Nat × Nat :=
  (r.channel, r.fallbackTriggered, r.retryCount, r.maxRetries)

@[simp] theorem toDomain_fallbackView (r : MessageModel) (now : Nat) :
    (MessageRepo.toDomain r now).fallbackView = r.fallbackView := rfl

theorem updateFromDomain_fallbackView (r : MessageModel) (m : Message) (now : Nat)
    (h : m.maxRetries = r.maxRetries) :
    (MessageRepo.updateFromDomain r m now).fallbackView = m.fallbackView := by
  simp [MessageModel.fallbackView, Message.fallbackView, h]

/-- How a method may move a view: the invariant survives, `max_retries` stays, and a trigger is
never undone. -/
structure ViewStep (v v' : MessageChannel × Bool × Nat × Nat) : Prop where
  inv : FallbackInv v → FallbackInv v'
  max : v'.2.2.2 = v.2.2.2
  mono : v.2.1 = true → v'.2.1 = true

theorem ViewStep.refl (v : MessageChannel × Bool × Nat × Nat) : ViewStep v v :=
  ⟨id, rfl, id⟩

/-- The switch of `trigger_fallback` and of `mark_fallback_sent`. -/
theorem ViewStep.toSms {v : MessageChannel × Bool × Nat × Nat} {n : Nat}
    (hn : FallbackInv v → n ≤ v.2.2.2) : ViewStep v (.sms, true, n, v.2.2.2) :=
  ⟨fun h => ⟨by simp, hn h⟩, rfl, fun _ => rfl⟩

/-! ## Job level: `CtxInv` -/

/-- The invariant of a job that loaded the row `r0`: message, flushed row and committed row
satisfy `FallbackInv`, carry `r0`'s `max_retries`, and keep `r0`'s trigger. -/
structure CtxInv (r0 : MessageModel) (c : Ctx) : Prop where
  msg : FallbackInv c.msg.fallbackView
  row : FallbackInv c.row.fallbackView
  durable : FallbackInv c.durable.fallbackView
  msgMax : c.msg.maxRetries = r0.maxRetries
  rowMax : c.row.maxRetries = r0.maxRetries
  durableMax : c.durable.maxRetries = r0.maxRetries
  mono : r0.fallbackTriggered = true →
    c.msg.fallbackTriggered = true ∧ c.row.fallbackTriggered = true ∧
      c.durable.fallbackTriggered = true

section Primitives

variable {r0 : MessageModel}

/-- The invariant reads only the message, the flushed row and the committed row. -/
theorem CtxInv.congr {c c' : Ctx} (h : CtxInv r0 c) (hm : c'.msg = c.msg) (hr : c'.row = c.row)
    (hd : c'.durable = c.durable) : CtxInv r0 c' := by
  obtain ⟨h1, h2, h3, h4, h5, h6, h7⟩ := h
  rw [← hm, ← hr, ← hd] at *
  exact ⟨h1, h2, h3, h4, h5, h6, h7⟩

theorem ctxInv_start {now : Nat} (h : FallbackInv r0.fallbackView) :
    CtxInv r0 (Ctx.start r0 now) :=
  ⟨h, h, h, rfl, rfl, rfl, fun t => ⟨t, t, t⟩⟩

theorem loadMsg_keeps (now : Nat) : Keeps (CtxInv r0) (loadMsg now) := fun _ h =>
  { h with msg := by simpa using h.row, msgMax := h.rowMax,
           mono := fun t => ⟨(h.mono t).2.1, (h.mono t).2⟩ }

theorem saveMsg_keeps (now : Nat) : Keeps (CtxInv r0) (saveMsg now) := fun c h => by
  have hv := updateFromDomain_fallbackView c.row c.msg now (h.msgMax.trans h.rowMax.symm)
  exact { h with row := by simpa [resultState, saveMsg, hv] using h.msg,
                 rowMax := h.rowMax,
                 mono := fun t => ⟨(h.mono t).1, by simpa [resultState, saveMsg] using (h.mono t).1,
                   (h.mono t).2.2⟩ }

theorem commit_keeps : Keeps (CtxInv r0) commit := fun _ h =>
  { h with durable := h.row, durableMax := h.rowMax,
           mono := fun t => ⟨(h.mono t).1, (h.mono t).2.1, (h.mono t).2.1⟩ }

theorem rollback_keeps (c : Ctx) (h : CtxInv r0 c) : CtxInv r0 c.rollback :=
  { h with row := h.durable, rowMax := h.durableMax,
           mono := fun t => ⟨(h.mono t).1, (h.mono t).2.2, (h.mono t).2.2⟩ }

theorem publish_keeps (faults : Faults) (job : QueueMessage) : Keeps (CtxInv r0) (publish faults job) := by
  intro c h; unfold publish; split <;> exact h.congr rfl rfl rfl

theorem updateStats_keeps (faults : Faults) (cid : Nat) (key : String) :
    Keeps (CtxInv r0) (updateStats faults cid key) := by
  intro c h; unfold updateStats; split <;> exact h.congr rfl rfl rfl

theorem callSend_keeps (agg : AggregatorAnswers) (call : SendCall) :
    Keeps (CtxInv r0) (callSend agg call) := by
  intro c h; unfold callSend; split <;> exact h.congr rfl rfl rfl

/-- A method that moves the view by a `ViewStep` keeps the job invariant. -/
theorem onMsg_keeps {op : EStateM Exn Message Unit}
    (hop : ∀ m, ViewStep m.fallbackView (resultState (op m)).fallbackView) :
    Keeps (CtxInv r0) (onMsg op) :=
  triple_onMsg fun c h =>
    have s := hop c.msg
    { h with msg := s.inv h.msg, msgMax := s.max.trans h.msgMax,
             mono := fun t => ⟨s.mono (h.mono t).1, (h.mono t).2⟩ }

theorem frame_keeps {op : EStateM Exn Message Unit} (hop : Message.FrameFallback op) :
    Keeps (CtxInv r0) (onMsg op) :=
  onMsg_keeps fun m => hop m ▸ ViewStep.refl _

theorem triggerFallback_keeps (now : Nat) : Keeps (CtxInv r0) (onMsg (Message.triggerFallback now)) :=
  onMsg_keeps fun m => by
    rcases Message.triggerFallback_fallbackView m now with h | h <;> rw [h]
    · exact ViewStep.refl _
    · exact ViewStep.toSms fun _ => Nat.zero_le _

theorem markFallbackSent_keeps (a : String) (x : Option String) (now : Nat) :
    Keeps (CtxInv r0) (onMsg (Message.markFallbackSent a x now)) :=
  onMsg_keeps fun m => by
    rw [Message.markFallbackSent_fallbackView]
    exact ViewStep.toSms fun h => h.2

/-- `increment_retry()` keeps the invariant when `should_retry()` held of the message. -/
theorem incrementRetry_triple {m : Message} (now : Nat) (hr : m.shouldRetry now = true) :
    Triple (fun c => CtxInv r0 c ∧ c.msg = m) (onMsg (Message.incrementRetry now)) (CtxInv r0) :=
  triple_onMsg fun c ⟨h, hm⟩ => by
    subst hm
    have hlt : c.msg.retryCount < c.msg.maxRetries := by
      simp only [Message.shouldRetry, decide_eq_true_eq] at hr; exact hr.2.1
    exact { h with msg := ⟨h.msg.1, hlt⟩, msgMax := h.msgMax }

end Primitives

/-! ## Handlers -/

section Handlers

variable {r0 : MessageModel} {agg : AggregatorAnswers} {faults : Faults} {now : Nat}

open DeliveryService SMSFallbackWorker

/-- Forget the value read by `getMsg`. -/
theorem keeps_read {x : Handler Unit} {m : Message} (h : Keeps (CtxInv r0) x) :
    Triple (fun c => CtxInv r0 c ∧ c.msg = m) x (CtxInv r0) :=
  triple_weaken (fun _ h => h.1) h

theorem queueMessageForDelivery_keeps : Keeps (CtxInv r0) (queueMessageForDelivery faults) :=
  triple_bind keeps_getMsg fun _ => publish_keeps _ _

theorem queueFallback_keeps : Keeps (CtxInv r0) (queueFallback faults now) :=
  triple_bind (triggerFallback_keeps now) fun _ =>
    triple_bind (saveMsg_keeps now) fun _ => queueMessageForDelivery_keeps

theorem handleDeliveryFailure_keeps (e : Exn) :
    Keeps (CtxInv r0) (handleDeliveryFailure faults now e) := by
  refine triple_bind (frame_keeps (Message.markFailed_frame _ _ _ _)) fun _ =>
    triple_getMsg_bind fun m => triple_ite (fun hr => ?_) fun _ =>
      triple_ite (fun _ => keeps_read queueFallback_keeps) fun _ => keeps_read (saveMsg_keeps now)
  exact triple_bind (incrementRetry_triple now hr) fun _ =>
    triple_bind (saveMsg_keeps now) fun _ => queueMessageForDelivery_keeps

theorem sendViaAggregator_keeps : Keeps (CtxInv r0) (sendViaAggregator agg now) :=
  triple_bind keeps_getMsg fun _ => triple_bind (callSend_keeps _ _) fun _ =>
    triple_ite (fun _ => triple_bind (frame_keeps (Message.markSent_frame _ _ _)) fun _ =>
      saveMsg_keeps now) fun _ => keeps_throw _

theorem deliveryAttempt_keeps : Keeps (CtxInv r0) (deliveryAttempt agg faults now) :=
  triple_bind keeps_getMsg fun _ => triple_ite
    (fun _ => triple_bind (frame_keeps (Message.markFailed_frame _ _ _ _)) fun _ =>
      triple_bind (saveMsg_keeps now) fun _ => queueFallback_keeps)
    (fun _ => triple_bind (frame_keeps (Message.queue_frame now)) fun _ =>
      triple_bind (saveMsg_keeps now) fun _ => triple_bind sendViaAggregator_keeps fun _ =>
        triple_bind keeps_getMsg fun _ => updateStats_keeps _ _ _)

theorem deliveryExceptions_keeps (e : Exn) : Keeps (CtxInv r0) (deliveryExceptions faults now e) := by
  cases e <;> first | exact queueMessageForDelivery_keeps | exact handleDeliveryFailure_keeps _

theorem processMessageDelivery_keeps : Keeps (CtxInv r0) (processMessageDelivery agg faults now) :=
  keeps_transaction (triple_bind (loadMsg_keeps now) fun _ =>
    triple_tryCatch deliveryAttempt_keeps fun _ => deliveryExceptions_keeps _) commit_keeps
    rollback_keeps

theorem applyDeliveryStatus_keeps (status : String) (code text : Option String) :
    Keeps (CtxInv r0) (applyDeliveryStatus status code text faults now) :=
  triple_ite (fun _ => triple_bind (frame_keeps (Message.markDelivered_frame now)) fun _ =>
      triple_bind keeps_getMsg fun _ => updateStats_keeps _ _ _) fun _ =>
    triple_ite (fun _ => triple_bind (frame_keeps (Message.markRead_frame now)) fun _ =>
      triple_bind keeps_getMsg fun _ => updateStats_keeps _ _ _) fun _ =>
    triple_ite (fun _ => triple_bind (frame_keeps (Message.markFailed_frame _ _ _ _)) fun _ =>
      triple_bind keeps_getMsg fun _ => triple_ite (fun _ => queueFallback_keeps) fun _ =>
        keeps_pure _) fun _ => keeps_pure _

theorem handleDeliveryStatusUpdate_keeps (status : String) (code text : Option String) :
    Keeps (CtxInv r0) (handleDeliveryStatusUpdate status code text faults now) :=
  keeps_transaction (triple_bind (loadMsg_keeps now) fun _ =>
    triple_bind (applyDeliveryStatus_keeps status code text) fun _ => saveMsg_keeps now)
    commit_keeps rollback_keeps

theorem sendSmsLeg_keeps (smsText : String) : Keeps (CtxInv r0) (sendSmsLeg agg faults now smsText) :=
  triple_bind keeps_getMsg fun _ => triple_bind (callSend_keeps _ _) fun _ => triple_ite
    (fun _ => triple_bind (markFallbackSent_keeps _ _ now) fun _ =>
      triple_bind (saveMsg_keeps now) fun _ => triple_bind keeps_getMsg fun _ => updateStats_keeps _ _ _)
    (fun _ => triple_bind (frame_keeps (Message.markFailed_frame _ _ _ _)) fun _ =>
      triple_bind (saveMsg_keeps now) fun _ => triple_bind keeps_getMsg fun _ => updateStats_keeps _ _ _)

theorem sendSmsExceptions_keeps (e : Exn) : Keeps (CtxInv r0) (sendSmsExceptions now e) := by
  cases e <;> first
    | exact keeps_throw _
    | exact triple_bind (frame_keeps (Message.markFailed_frame _ _ _ _)) fun _ => saveMsg_keeps now

theorem fallbackLeg_keeps : Keeps (CtxInv r0) (fallbackLeg agg faults now) := by
  refine triple_bind (triggerFallback_keeps now) fun _ => triple_bind (saveMsg_keeps now) fun _ =>
    triple_bind commit_keeps fun _ => triple_bind keeps_getMsg fun m => ?_
  split
  · exact keeps_throw _
  · exact triple_tryCatch (sendSmsLeg_keeps _) fun _ => sendSmsExceptions_keeps _

theorem processFallbackJob_keeps : Keeps (CtxInv r0) (processFallbackJob agg faults now) :=
  keeps_transaction (triple_bind (loadMsg_keeps now) fun _ => triple_bind keeps_getMsg fun _ =>
    triple_ite (fun _ => fallbackLeg_keeps) fun _ => keeps_pure _) commit_keeps rollback_keeps

/-- **Every job keeps the invariant.** -/
theorem handler_keeps (e : Event) : Keeps (CtxInv r0) e.handler := by
  cases e with
  | dispatch agg f now =>
    exact keeps_transaction processMessageDelivery_keeps commit_keeps rollback_keeps
  | statusUpdate _ status code text f now =>
    exact keeps_transaction (handleDeliveryStatusUpdate_keeps status code text) commit_keeps
      rollback_keeps
  | fallbackJob agg f now => exact processFallbackJob_keeps

end Handlers

/-! ## World level -/

theorem toModel_fallbackView {m : Message} {r : MessageModel} (h : MessageRepo.toModel m = .ok r) :
    r.fallbackView = m.fallbackView := by
  unfold MessageRepo.toModel at h
  cases hc : MessageRepo.contentJson m.content with
  | error e => rw [hc] at h; cases h
  | ok cj => rw [hc] at h; cases h; rfl

/-- The job an event runs ends in `CtxInv` of the row it loaded. -/
theorem step_ctxInv {w : World} (e : Event) (h : FallbackInv w.row.fallbackView) :
    CtxInv w.row (resultState (e.handler (Ctx.start w.row e.now))) :=
  handler_keeps e _ (ctxInv_start h)

theorem step_rowInv {w : World} (e : Event) (h : FallbackInv w.row.fallbackView) :
    FallbackInv (w.step e).row.fallbackView := by
  unfold World.step; split
  · exact (step_ctxInv e h).durable
  · exact h

theorem step_fallbackTriggered {w : World} (e : Event) (h : FallbackInv w.row.fallbackView)
    (ht : w.row.fallbackTriggered = true) : (w.step e).row.fallbackTriggered = true := by
  unfold World.step; split
  · exact ((step_ctxInv e h).mono ht).2.2
  · exact ht

theorem reachable_rowInv {w : World} (hw : Reachable w) : FallbackInv w.row.fallbackView := by
  induction hw with
  | create h =>
    rw [World.init, toModel_fallbackView h]
    exact ⟨by simp [Message.create, Message.init, Message.fallbackView], Nat.zero_le _⟩
  | step e _ ih => exact step_rowInv e ih

/-- **Fallback and retry invariants.** In every reachable state of a message: it is on SMS
exactly when its fallback was triggered, and `retry_count ≤ max_retries`; no step takes the
trigger or the SMS channel back; and `trigger_fallback` on the loaded message returns only while
the stored message is untriggered, leaving it triggered — so it succeeds at most once. -/
theorem fallback_retry_invariants {w : World} (hw : Reachable w) :
    (w.row.channel = .sms ↔ w.row.fallbackTriggered = true) ∧
    w.row.retryCount ≤ w.row.maxRetries ∧
    (∀ e : Event, (w.row.fallbackTriggered = true → (w.step e).row.fallbackTriggered = true) ∧
      (w.row.channel = .sms → (w.step e).row.channel = .sms)) ∧
    (∀ (now now' : Nat) (u : Unit) (m : Message),
      Message.triggerFallback now (MessageRepo.toDomain w.row now') = .ok u m →
        w.row.fallbackTriggered = false ∧ m.fallbackTriggered = true) := by
  have hi := reachable_rowInv hw
  refine ⟨hi.1, hi.2, fun e => ⟨step_fallbackTriggered e hi, fun hs => ?_⟩,
    fun _ _ _ _ h => Message.triggerFallback_ok h⟩
  exact (step_rowInv e hi).1.mpr (step_fallbackTriggered e hi (hi.1.mp hs))

/-- The invariants on a message just created for `+919876543210` and stored. -/
theorem fallback_retry_invariants_fresh :
    let w := World.init (MessageRepo.modelOf
      (Message.create 1 7 3 "+919876543210" { text := "Hi" } "medium" 0) ⟨"Hi", none, none⟩)
    Reachable w ∧
    ((w.row.channel = .sms ↔ w.row.fallbackTriggered = true) ∧
    w.row.retryCount ≤ w.row.maxRetries ∧
    (∀ e : Event, (w.row.fallbackTriggered = true → (w.step e).row.fallbackTriggered = true) ∧
      (w.row.channel = .sms → (w.step e).row.channel = .sms)) ∧
    (∀ (now now' : Nat) (u : Unit) (m : Message),
      Message.triggerFallback now (MessageRepo.toDomain w.row now') = .ok u m →
        w.row.fallbackTriggered = false ∧ m.fallbackTriggered = true)) :=
  have hw := @Reachable.create 1 7 3 0 "+919876543210" "medium" { text := "Hi" } _ rfl
  ⟨hw, fallback_retry_invariants hw⟩

end RcsMessaging

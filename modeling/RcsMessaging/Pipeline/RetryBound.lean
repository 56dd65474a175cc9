import RcsMessaging.Services.Hoare
import RcsMessaging.Pipeline.Fallback

/-!
# `Pipeline.RetryBound` — the retry and fallback loop publishes a bounded number of jobs

The pipeline publishes a dispatch job for a message in three places. `_handle_delivery_failure`
republishes it after `increment_retry()`. `_queue_fallback` publishes it after
`trigger_fallback()`. `_requeue_with_delay` publishes it after a rate limit. The first two raise
the pair (`fallback_triggered`, `retry_count`) lexicographically. `increment_retry()` runs only
while `retry_count < max_retries`, and `trigger_fallback()` only on an untriggered message, which
it leaves triggered with no retries. Flattened to one number (`viewRank`), the pair lies between
0 and `2 * max_retries + 1`.

A job publishes at most once, after the save that raised the rank. Every raise happens before any
publish, and nothing raises after one, so a published job is always committed together with its
rise. `Fresh` is a job that has published nothing. `Paid` is a job whose publish is covered by the
rise of the rank of the message and of the flushed row. From them, each job that is not a
rate-limit requeue adds at most its rise in rank to the count of published jobs
(`World.step_jobs`), and by induction so does every run (`World.run_jobs`).
-/

namespace RcsMessaging

open DeliveryService SMSFallbackWorker

/-- The pair (`fallback_triggered`, `retry_count`) of a view as one number: a triggered view ranks
above every untriggered one with `retry_count ≤ max_retries`. -/
def viewRank (v : MessageChannel × Bool × Nat × Nat) : Nat :=
  if v.2.1 then v.2.2.2 + 1 + v.2.2.1 else v.2.2.1

theorem viewRank_le {v : MessageChannel × Bool × Nat × Nat} (h : FallbackInv v) :
    viewRank v ≤ 2 * v.2.2.2 + 1 := by
  have := h.2
  unfold viewRank
  split <;> omega

/-- The rank of a message. -/
def Message.rank (m : Message) : Nat := viewRank m.fallbackView

/-- The rank of a row. -/
def MessageModel.rank (r : MessageModel) : Nat := viewRank r.fallbackView

@[simp] theorem toDomain_rank (r : MessageModel) (now : Nat) :
    (MessageRepo.toDomain r now).rank = r.rank := rfl

/-- `RateLimitException`. -/
def Exn.isRateLimit : Exn → Bool
  | .rateLimit _ _ => true
  | _ => false

/-- A send that raises `RateLimitException`. -/
def SendOutcome.isRateLimit : SendOutcome → Bool
  | .raises e => e.isRateLimit
  | .returns _ => false

/-- `to_sms_text()` raises only `AttributeError`. -/
theorem appendSuggestionLinks_error {e : Exn} {ss : List SuggestionValue} :
    ∀ {t : String}, appendSuggestionLinks t ss = .error e → e.isRateLimit = false := by
  induction ss with
  | nil => intro _ h; cases h
  | cons s ss ih =>
    intro _ h
    cases s with
    | dict _ => cases h; rfl
    | action _ => exact ih h

theorem toSmsText_error_not_rateLimit {c : MessageContent} {e : Exn}
    (h : c.toSmsText = .error e) : e.isRateLimit = false := by
  unfold MessageContent.toSmsText at h
  split at h
  · cases h; rfl
  · exact appendSuggestionLinks_error h
  · exact appendSuggestionLinks_error h

/-- `trigger_fallback()` never lowers the rank. -/
theorem Message.triggerFallback_rank (now : Nat) {m : Message} (h : FallbackInv m.fallbackView) :
    m.rank ≤ (resultState (Message.triggerFallback now m)).rank := by
  cases ht : m.fallbackTriggered
  · rcases Message.triggerFallback_fallbackView m now with hv | hv
    · exact Nat.le_of_eq (congrArg viewRank hv).symm
    · have hrc : m.retryCount ≤ m.maxRetries := h.2
      rw [Message.rank, Message.rank, hv]
      simp only [viewRank, Message.fallbackView, ht, Bool.false_eq_true, ↓reduceIte]
      omega
  · rw [Message.triggerFallback_of_triggered now ht]
    exact Nat.le_refl _

/-- `trigger_fallback()` raises a guard's `ValueError` or what `to_sms_text()` raises. -/
theorem Message.triggerFallback_error {now : Nat} {m m' : Message} {e : Exn}
    (h : Message.triggerFallback now m = .error e m') : e.isRateLimit = false := by
  unfold Message.triggerFallback at h
  split at h
  · dsimp only at h
    split at h
    · cases h
    · cases h; exact toSmsText_error_not_rateLimit ‹_›
  · cases h; rfl

/-! ## The accounting of one job -/

/-- A job that loaded `r0` and has published nothing: no rank below `r0`'s. -/
def Fresh (r0 : MessageModel) (c : Ctx) : Prop :=
  CtxInv r0 c ∧ c.published = [] ∧ r0.rank ≤ c.msg.rank ∧ r0.rank ≤ c.row.rank ∧
    r0.rank ≤ c.durable.rank

/-- A job whose published jobs are covered by the rise of the rank of the message and of the
flushed row. -/
def Paid (r0 : MessageModel) (c : Ctx) : Prop :=
  CtxInv r0 c ∧ c.published.length + r0.rank ≤ c.msg.rank ∧
    c.published.length + r0.rank ≤ c.row.rank ∧ r0.rank ≤ c.durable.rank

/-- A raise: nothing published, and no rate limit. -/
def Raised (r0 : MessageModel) (e : Exn) (c : Ctx) : Prop := Fresh r0 c ∧ e.isRateLimit = false

/-- A committed job: its published jobs are covered by the rise of the committed rank. -/
def Settled (r0 : MessageModel) (c : Ctx) : Prop :=
  Paid r0 c ∧ c.published.length + r0.rank ≤ c.durable.rank

theorem Fresh.paid {r0 : MessageModel} {c : Ctx} (h : Fresh r0 c) : Paid r0 c := by
  obtain ⟨hi, hp, hm, hr, hd⟩ := h
  simp only [Paid, hp, List.length_nil, Nat.zero_add]
  exact ⟨hi, hm, hr, hd⟩

section Primitives

variable {r0 : MessageModel} {faults : Faults} {now : Nat} {α : Type} {E : Exn → Ctx → Prop}

/-- A save gives the flushed row the rank of the message. -/
theorem rank_save {c : Ctx} (h : CtxInv r0 c) (now : Nat) :
    (MessageRepo.updateFromDomain c.row c.msg now).rank = c.msg.rank := by
  simp only [MessageModel.rank, Message.rank,
    updateFromDomain_fallbackView _ _ _ (h.msgMax.trans h.rowMax.symm)]

theorem saveMsg_fresh : Hoare (Fresh r0) (saveMsg now) (fun _ => Fresh r0) E :=
  fun c ⟨hi, hp, hm, _, hd⟩ => ⟨saveMsg_keeps now c hi, hp, hm, (rank_save hi now).symm ▸ hm, hd⟩

theorem saveMsg_paid : Hoare (Paid r0) (saveMsg now) (fun _ => Paid r0) E :=
  fun c ⟨hi, hm, _, hd⟩ => ⟨saveMsg_keeps now c hi, hm, (rank_save hi now).symm ▸ hm, hd⟩

theorem loadMsg_fresh : Hoare (Fresh r0) (loadMsg now) (fun _ => Fresh r0) E :=
  fun c ⟨hi, hp, _, hr, hd⟩ => ⟨loadMsg_keeps now c hi, hp, by simpa using hr, hr, hd⟩

theorem commit_settled : Hoare (Paid r0) commit (fun _ => Settled r0) E :=
  fun c ⟨hi, hm, hr, _⟩ => ⟨⟨commit_keeps c hi, hm, hr, Nat.le_trans (Nat.le_add_left _ _) hr⟩, hr⟩

theorem commit_fresh : Hoare (Fresh r0) commit (fun _ => Fresh r0) E :=
  fun c ⟨hi, hp, hm, hr, _⟩ => ⟨commit_keeps c hi, hp, hm, hr, hr⟩

theorem Settled.paid {c : Ctx} (h : Settled r0 c) : Paid r0 c := h.1

theorem rollback_raised {e : Exn} {c : Ctx} (h : Raised r0 e c) : Raised r0 e c.rollback :=
  ⟨⟨rollback_keeps c h.1.1, h.1.2.1, h.1.2.2.1, h.1.2.2.2.2, h.1.2.2.2.2⟩, h.2⟩

/-- A method that keeps the job invariant, lowers no rank and raises no rate limit. -/
theorem onMsg_fresh {op : EStateM Exn Message Unit} (hk : Keeps (CtxInv r0) (onMsg op))
    (hr : ∀ m : Message, m.rank ≤ (resultState (op m)).rank)
    (he : ∀ m e m', op m = .error e m' → e.isRateLimit = false) :
    Hoare (Fresh r0) (onMsg op) (fun _ => Fresh r0) (Raised r0) := by
  intro c ⟨hi, hp, hm, hrow, hd⟩
  have hi' := hk c hi
  have hm' := Nat.le_trans hm (hr c.msg)
  rw [onMsg_apply]
  cases hop : op c.msg with
  | ok _ m =>
    simp only [onMsg_apply, hop] at hi'
    rw [hop] at hm'
    exact ⟨hi', hp, hm', hrow, hd⟩
  | error e m =>
    simp only [onMsg_apply, hop] at hi'
    rw [hop] at hm'
    exact ⟨⟨hi', hp, hm', hrow, hd⟩, he _ _ _ hop⟩

/-- A method that never raises and does not touch the fallback and retry fields. -/
theorem frame_fresh {op : EStateM Exn Message Unit} (hop : Message.FrameFallback op)
    (he : ∀ m e m', op m = .error e m' → e.isRateLimit = false) :
    Hoare (Fresh r0) (onMsg op) (fun _ => Fresh r0) (Raised r0) :=
  onMsg_fresh (frame_keeps hop) (fun m => Nat.le_of_eq (congrArg viewRank (hop m).symm)) he

theorem markFailed_fresh (r : FailureReason) (code text : Option String) :
    Hoare (Fresh r0) (onMsg (Message.markFailed r code text now)) (fun _ => Fresh r0) (Raised r0) :=
  frame_fresh (Message.markFailed_frame _ _ _ _) fun _ _ _ h => by cases h

theorem markSent_fresh (a : String) (x : Option String) :
    Hoare (Fresh r0) (onMsg (Message.markSent a x now)) (fun _ => Fresh r0) (Raised r0) :=
  frame_fresh (Message.markSent_frame _ _ _) fun _ _ _ h => by cases h

theorem markDelivered_fresh :
    Hoare (Fresh r0) (onMsg (Message.markDelivered now)) (fun _ => Fresh r0) (Raised r0) :=
  frame_fresh (Message.markDelivered_frame now) fun _ _ _ h => by
    unfold Message.markDelivered at h; split at h <;> cases h; rfl

theorem markRead_fresh :
    Hoare (Fresh r0) (onMsg (Message.markRead now)) (fun _ => Fresh r0) (Raised r0) :=
  frame_fresh (Message.markRead_frame now) fun _ _ _ h => by
    unfold Message.markRead at h
    split at h
    · cases h
    · split at h <;> cases h; rfl

/-- `queue()` returns only on a PENDING message. -/
theorem queue_fresh :
    Hoare (fun c => Fresh r0 c ∧ c.msg.status = r0.status) (onMsg (Message.queue now))
      (fun _ c => Fresh r0 c ∧ r0.status = .pending) (Raised r0) := by
  intro c ⟨h, hs⟩
  have := frame_fresh (Message.queue_frame now) (fun _ _ _ h => by
    unfold Message.queue at h; split at h <;> cases h; rfl) c h
  rw [onMsg_apply] at this ⊢
  by_cases hq : c.msg.status = .pending
  · simp only [Message.queue, if_pos hq] at this ⊢
    exact ⟨this, hs ▸ hq⟩
  · simp only [Message.queue, if_neg hq] at this ⊢
    exact this

theorem markFallbackSent_fresh (a : String) (x : Option String) :
    Hoare (Fresh r0) (onMsg (Message.markFallbackSent a x now)) (fun _ => Fresh r0) (Raised r0) :=
  onMsg_fresh (markFallbackSent_keeps a x now)
    (fun m => by
      rw [Message.rank, Message.rank, Message.markFallbackSent_fallbackView]
      simp only [viewRank, Message.fallbackView, ↓reduceIte]
      split <;> omega)
    fun _ _ _ h => by cases h

/-- `increment_retry()` under `should_retry()` raises the rank by one. -/
theorem incrementRetry_fresh {m : Message} (hr : m.shouldRetry now = true) :
    Hoare (fun c => Fresh r0 c ∧ c.msg = m) (onMsg (Message.incrementRetry now))
      (fun _ c => Fresh r0 c ∧ r0.rank + 1 ≤ c.msg.rank) E := by
  intro c ⟨⟨hi, hp, hm, hrow, hd⟩, hcm⟩
  have hi' := incrementRetry_triple now hr c ⟨hi, hcm⟩
  have hup : c.msg.rank + 1 = (resultState (Message.incrementRetry now c.msg)).rank := by
    rw [Message.rank, Message.rank, Message.incrementRetry_fallbackView]
    simp only [viewRank, Message.fallbackView]
    split <;> omega
  have he : r0.rank + 1 ≤ (resultState (Message.incrementRetry now c.msg)).rank := by omega
  exact ⟨⟨hi', hp, Nat.le_of_succ_le he, hrow, hd⟩, he⟩

/-- A `trigger_fallback()` that returns lifts the rank above every untriggered one. -/
theorem triggerFallback_fresh (hinv : FallbackInv r0.fallbackView) :
    Hoare (Fresh r0) (onMsg (Message.triggerFallback now))
      (fun _ c => Fresh r0 c ∧ r0.rank + 1 ≤ c.msg.rank) (Raised r0) := by
  intro c ⟨hi, hp, hm, hrow, hd⟩
  have hi' := triggerFallback_keeps now c hi
  have hm' := Nat.le_trans hm (Message.triggerFallback_rank now hi.msg)
  rw [onMsg_apply] at hi' ⊢
  cases hop : Message.triggerFallback now c.msg with
  | ok _ m =>
    rw [hop] at hi' hm'
    refine ⟨⟨hi', hp, hm', hrow, hd⟩, ?_⟩
    obtain ⟨h0, h1⟩ := Message.triggerFallback_ok hop
    have hr0 : r0.fallbackTriggered = false := by
      cases ht : r0.fallbackTriggered
      · rfl
      · rw [(hi.mono ht).1] at h0; cases h0
    have hv : m.fallbackView = (.sms, true, 0, c.msg.maxRetries) := by
      have := Message.triggerFallback_fallbackView c.msg now
      rw [hop] at this
      refine this.resolve_left fun hv => ?_
      have : m.fallbackTriggered = c.msg.fallbackTriggered := congrArg (·.2.1) hv
      rw [h0, h1] at this
      cases this
    have hrc : r0.retryCount ≤ r0.maxRetries := hinv.2
    have hmax : c.msg.maxRetries = r0.maxRetries := hi.msgMax
    simp only [Message.rank, hv, MessageModel.rank, viewRank, MessageModel.fallbackView, hr0,
      hmax, if_true, Bool.false_eq_true, if_false]
    omega
  | error e m =>
    rw [hop] at hi' hm'
    exact ⟨⟨hi', hp, hm', hrow, hd⟩, Message.triggerFallback_error hop⟩

theorem publish_paid (j : QueueMessage) :
    Hoare (fun c => Fresh r0 c ∧ r0.rank + 1 ≤ c.msg.rank ∧ r0.rank + 1 ≤ c.row.rank)
      (publish faults j) (fun _ => Paid r0) (Raised r0) := by
  intro c ⟨⟨hi, hp, hm, hr, hd⟩, hm1, hr1⟩
  rw [publish_apply]
  cases faults.publish
  · refine ⟨hi.congr rfl rfl rfl, ?_, ?_, hd⟩ <;> simp only [hp, List.nil_append,
      List.length_singleton] <;> omega
  · exact ⟨⟨hi, hp, hm, hr, hd⟩, rfl⟩

theorem updateStats_fresh (cid : Nat) (key : String) :
    Hoare (Fresh r0) (updateStats faults cid key) (fun _ => Fresh r0) (Raised r0) := by
  intro c ⟨hi, hp, hm, hr, hd⟩
  rw [updateStats_apply]
  cases faults.stats
  · exact ⟨hi.congr rfl rfl rfl, hp, hm, hr, hd⟩
  · exact ⟨⟨hi, hp, hm, hr, hd⟩, rfl⟩

/-- A send raises what the aggregator raises. -/
theorem callSend_fresh (agg : AggregatorAnswers) (call : SendCall) :
    Hoare (Fresh r0) (callSend agg call) (fun _ => Fresh r0)
      (fun e c => Fresh r0 c ∧ agg.send = .raises e) := by
  intro c ⟨hi, hp, hm, hr, hd⟩
  rw [callSend_apply]
  cases agg.send
  · exact ⟨hi.congr rfl rfl rfl, hp, hm, hr, hd⟩
  · exact ⟨⟨hi.congr rfl rfl rfl, hp, hm, hr, hd⟩, rfl⟩

/-- A save passes a rise of the message's rank on to the flushed row. -/
theorem saveMsg_credit :
    Hoare (fun c => Fresh r0 c ∧ r0.rank + 1 ≤ c.msg.rank) (saveMsg now)
      (fun _ c => Fresh r0 c ∧ r0.rank + 1 ≤ c.msg.rank ∧ r0.rank + 1 ≤ c.row.rank) E :=
  fun c ⟨h, h1⟩ => ⟨saveMsg_fresh (E := E) c h, h1, (rank_save h.1 now).symm ▸ h1⟩

theorem saveMsg_fresh_and {φ : Prop} :
    Hoare (fun c => Fresh r0 c ∧ φ) (saveMsg now) (fun _ c => Fresh r0 c ∧ φ) E :=
  fun c ⟨h, hφ⟩ => ⟨saveMsg_fresh (E := E) c h, hφ⟩

theorem rollback_fresh {c : Ctx} (h : Fresh r0 c) : Fresh r0 c.rollback :=
  ⟨rollback_keeps c h.1, h.2.1, h.2.2.1, h.2.2.2.2, h.2.2.2.2⟩

end Primitives

/-! ## The handlers -/

section Handlers

variable {r0 : MessageModel} {faults : Faults} {now : Nat}

theorem queueMessageForDelivery_paid :
    Hoare (fun c => Fresh r0 c ∧ r0.rank + 1 ≤ c.msg.rank ∧ r0.rank + 1 ≤ c.row.rank)
      (queueMessageForDelivery faults) (fun _ => Paid r0) (Raised r0) :=
  Hoare.getMsg_then fun _ => publish_paid _

theorem queueFallback_paid (hinv : FallbackInv r0.fallbackView) :
    Hoare (Fresh r0) (queueFallback faults now) (fun _ => Paid r0) (Raised r0) :=
  (triggerFallback_fresh hinv).bind fun _ => saveMsg_credit.bind fun _ => queueMessageForDelivery_paid

theorem handleDeliveryFailure_paid (hinv : FallbackInv r0.fallbackView) (e : Exn) :
    Hoare (Fresh r0) (handleDeliveryFailure faults now e) (fun _ => Paid r0) (Raised r0) :=
  (markFailed_fresh _ _ _).bind fun _ => Hoare.getMsg_bind fun _ => Hoare.ite
    (fun hr => (incrementRetry_fresh hr).bind fun _ => saveMsg_credit.bind fun _ =>
      queueMessageForDelivery_paid)
    fun _ => Hoare.ite (fun _ => (queueFallback_paid hinv).pre fun _ => And.left)
      fun _ => (saveMsg_fresh.pre fun _ => And.left).post fun _ _ => Fresh.paid

/-- The send of `_send_via_aggregator` raises no rate limit when the aggregator's answer is not
one. -/
theorem sendViaAggregator_fresh (agg : AggregatorAnswers) (hsend : agg.send.isRateLimit = false) :
    Hoare (Fresh r0) (sendViaAggregator agg now) (fun _ => Fresh r0) (Raised r0) :=
  Hoare.getMsg_then fun _ => ((callSend_fresh agg _).err fun e _ h =>
      ⟨h.1, by rw [h.2] at hsend; exact hsend⟩).bind fun _ =>
    Hoare.ite (fun _ => (markSent_fresh _ _).bind fun _ => saveMsg_fresh) fun _ _ h => ⟨h, rfl⟩

/-- The `try` block of a dispatch delivery that is not a rate-limit requeue: the send can raise
`RateLimitException` only on a PENDING message that passes the capability check. -/
theorem deliveryAttempt_paid (hinv : FallbackInv r0.fallbackView) (agg : AggregatorAnswers)
    (hRL : agg.send.isRateLimit = true → r0.status = .pending →
      r0.channel = .rcs ∧ agg.rcsCapable = false) :
    Hoare (fun c => Fresh r0 c ∧ c.msg.status = r0.status ∧ c.msg.channel = r0.channel)
      (deliveryAttempt agg faults now) (fun _ => Paid r0) (Raised r0) := by
  refine Hoare.getMsg_bind fun m => Hoare.ite (fun _ => ?_) fun hcap => ?_
  · exact ((markFailed_fresh _ _ _).bind fun _ => saveMsg_fresh.bind fun _ =>
      queueFallback_paid hinv).pre fun _ h => h.1.1
  · refine Hoare.pre (P := fun c => (Fresh r0 c ∧ c.msg.status = r0.status) ∧
      m.channel = r0.channel) ?_ fun c ⟨⟨h, hs, hch⟩, hm⟩ => ⟨⟨h, hs⟩, hm ▸ hch⟩
    refine Hoare.of_const fun hch => ?_
    have hsend : r0.status = .pending → agg.send.isRateLimit = false := fun hp => by
      cases h : agg.send.isRateLimit
      · rfl
      · exact absurd (by rw [hch]; exact hRL h hp) hcap
    exact queue_fresh.bind fun _ => saveMsg_fresh_and.bind fun _ =>
      (Hoare.of_const fun hp => sendViaAggregator_fresh agg (hsend hp)).bind fun _ =>
        Hoare.getMsg_then fun _ => (updateStats_fresh _ _).post fun _ _ => Fresh.paid

/-- The `except` clauses after a raise that is not a rate limit. -/
theorem deliveryExceptions_paid (hinv : FallbackInv r0.fallbackView) (e : Exn) :
    Hoare (Raised r0 e) (deliveryExceptions faults now e) (fun _ => Paid r0) (Raised r0) := by
  cases e with
  | rateLimit t d => exact fun _ h => absurd h.2 (by simp [Exn.isRateLimit])
  | _ => exact (handleDeliveryFailure_paid hinv _).pre fun _ => And.left

theorem processMessageJob_settled (hinv : FallbackInv r0.fallbackView) (agg : AggregatorAnswers)
    (hRL : agg.send.isRateLimit = true → r0.status = .pending →
      r0.channel = .rcs ∧ agg.rcsCapable = false) :
    Hoare (fun c => Fresh r0 c ∧ c.row = r0) (MessageDispatcher.processMessageJob agg faults now)
      (fun _ => Settled r0) (Raised r0) := by
  have load : Hoare (fun c => Fresh r0 c ∧ c.row = r0) (loadMsg now)
      (fun _ c => Fresh r0 c ∧ c.msg.status = r0.status ∧ c.msg.channel = r0.channel)
      (Raised r0) := fun c ⟨h, hr⟩ => ⟨loadMsg_fresh (E := Raised r0) c h, by subst hr; exact ⟨rfl, rfl⟩⟩
  exact Hoare.transaction (Hoare.transaction (load.bind fun _ =>
      (deliveryAttempt_paid hinv agg hRL).tryCatch (deliveryExceptions_paid hinv))
    commit_settled fun _ _ => rollback_raised) (commit_settled.pre fun _ => Settled.paid)
    fun _ _ => rollback_raised

theorem applyDeliveryStatus_paid (hinv : FallbackInv r0.fallbackView) (status : String)
    (code text : Option String) :
    Hoare (Fresh r0) (applyDeliveryStatus status code text faults now) (fun _ => Paid r0)
      (Raised r0) := by
  unfold applyDeliveryStatus
  refine Hoare.ite (fun _ => ?_) fun _ => Hoare.ite (fun _ => ?_) fun _ =>
    Hoare.ite (fun _ => ?_) fun _ _ h => h.paid
  · exact markDelivered_fresh.bind fun _ => Hoare.getMsg_then fun _ =>
      (updateStats_fresh _ _).post fun _ _ => Fresh.paid
  · exact markRead_fresh.bind fun _ => Hoare.getMsg_then fun _ =>
      (updateStats_fresh _ _).post fun _ _ => Fresh.paid
  · exact (markFailed_fresh _ _ _).bind fun _ => Hoare.getMsg_then fun _ =>
      Hoare.ite (fun _ => queueFallback_paid hinv) fun _ _ h => h.paid

theorem processWebhookJob_settled (hinv : FallbackInv r0.fallbackView) (status : String)
    (code text : Option String) :
    Hoare (Fresh r0) (WebhookProcessor.processWebhookJob status code text faults now)
      (fun _ => Settled r0) (Raised r0) :=
  Hoare.transaction (Hoare.transaction (loadMsg_fresh.bind fun _ =>
      (applyDeliveryStatus_paid hinv status code text).bind fun _ => saveMsg_paid)
    commit_settled fun _ _ => rollback_raised) (commit_settled.pre fun _ => Settled.paid)
    fun _ _ => rollback_raised

theorem sendSmsLeg_fresh (agg : AggregatorAnswers) (smsText : String) :
    Hoare (Fresh r0) (sendSmsLeg agg faults now smsText) (fun _ => Fresh r0) (fun _ => Fresh r0) :=
  Hoare.getMsg_then fun _ => ((callSend_fresh agg _).err fun _ _ => And.left).bind fun _ =>
    Hoare.ite
      (fun _ => ((markFallbackSent_fresh _ _).bind fun _ => saveMsg_fresh.bind fun _ =>
        Hoare.getMsg_then fun _ => updateStats_fresh _ _).err fun _ _ => And.left)
      fun _ => ((markFailed_fresh _ _ _).bind fun _ => saveMsg_fresh.bind fun _ =>
        Hoare.getMsg_then fun _ => updateStats_fresh _ _).err fun _ _ => And.left

theorem sendSmsExceptions_fresh (e : Exn) :
    Hoare (Fresh r0) (sendSmsExceptions now e) (fun _ => Fresh r0) (fun _ => Fresh r0) := by
  cases e <;> first
    | exact fun _ h => h
    | exact ((markFailed_fresh _ _ _).bind fun _ => saveMsg_fresh).err fun _ _ => And.left

theorem fallbackLeg_fresh (hinv : FallbackInv r0.fallbackView) (agg : AggregatorAnswers) :
    Hoare (Fresh r0) (fallbackLeg agg faults now) (fun _ => Fresh r0) (fun _ => Fresh r0) := by
  refine (((triggerFallback_fresh hinv).post fun _ _ => And.left).err fun _ _ => And.left).bind
    fun _ => saveMsg_fresh.bind fun _ => commit_fresh.bind fun _ => Hoare.getMsg_then fun m => ?_
  split
  · exact fun _ h => h
  · exact (sendSmsLeg_fresh agg _).tryCatch sendSmsExceptions_fresh

theorem processFallbackJob_settled (hinv : FallbackInv r0.fallbackView) (agg : AggregatorAnswers) :
    Hoare (Fresh r0) (processFallbackJob agg faults now) (fun _ => Settled r0) (fun _ => Fresh r0) :=
  Hoare.transaction (loadMsg_fresh.bind fun _ => Hoare.getMsg_then fun _ =>
      Hoare.ite (fun _ => fallbackLeg_fresh hinv agg) fun _ _ h => h)
    (commit_settled.pre fun _ => Fresh.paid) fun _ _ => rollback_fresh

end Handlers

/-! ## Events and runs -/

/-- A dispatch delivery whose send raises `RateLimitException`: the message is PENDING, passes the
capability check, and the aggregator answers with a rate limit. `_requeue_with_delay` publishes
its job again and raises no rank. -/
def Event.requeuesOnRateLimit (r : MessageModel) : Event → Bool
  | .dispatch agg _ _ => agg.send.isRateLimit && decide (r.status = .pending) &&
      !decide (r.channel = .rcs ∧ agg.rcsCapable = false)
  | _ => false

/-- The dispatch jobs one step enqueues, a rate-limit requeue's not counted. -/
def World.jobsOf (w : World) (e : Event) : Nat :=
  if e.requeuesOnRateLimit w.row then 0 else (w.step e).published.length - w.published.length

/-- The dispatch jobs a run enqueues, rate-limit requeues not counted. -/
def World.pipelineJobs : World → List Event → Nat
  | _, [] => 0
  | w, e :: es => w.jobsOf e + (w.step e).pipelineJobs es

section Jobs

variable {r0 : MessageModel}

theorem Fresh.jobs {c : Ctx} (h : Fresh r0 c) : c.published.length + r0.rank ≤ c.durable.rank := by
  simp only [h.2.1, List.length_nil, Nat.zero_add]
  exact h.2.2.2.2

theorem fresh_start (hinv : FallbackInv r0.fallbackView) (now : Nat) :
    Fresh r0 (Ctx.start r0 now) ∧ (Ctx.start r0 now).row = r0 :=
  ⟨⟨ctxInv_start hinv, rfl, Nat.le_refl _, Nat.le_refl _, Nat.le_refl _⟩, rfl⟩

/-- Every job but a rate-limit requeue commits a rank that covers what it published, and
publishes nothing when it raises. -/
theorem handler_settled (hinv : FallbackInv r0.fallbackView) {e : Event}
    (he : e.requeuesOnRateLimit r0 = false) :
    Hoare (fun c => Fresh r0 c ∧ c.row = r0) e.handler (fun _ => Settled r0) (fun _ => Fresh r0) := by
  cases e with
  | dispatch agg f now =>
    refine (processMessageJob_settled hinv agg fun hRL hs => ?_).err fun _ _ => And.left
    simpa [Event.requeuesOnRateLimit, hRL, hs] using he
  | statusUpdate _ status code text f now =>
    exact (processWebhookJob_settled hinv status code text).conseq (fun _ => And.left)
      (fun _ _ h => h) fun _ _ => And.left
  | fallbackJob agg f now => exact (processFallbackJob_settled hinv agg).pre fun _ => And.left

theorem handler_jobs (hinv : FallbackInv r0.fallbackView) {e : Event}
    (he : e.requeuesOnRateLimit r0 = false) (now : Nat) :
    (resultState (e.handler (Ctx.start r0 now))).published.length + r0.rank ≤
      (resultState (e.handler (Ctx.start r0 now))).durable.rank := by
  have := handler_settled hinv he _ (fresh_start hinv now)
  cases h : e.handler (Ctx.start r0 now) with
  | ok _ c => rw [h] at this; exact this.2
  | error _ c => rw [h] at this; exact this.jobs

end Jobs

/-- A rate-limit requeue commits the row QUEUED, or rolls back when its publish fails: its rank
stays. -/
theorem World.step_rank_of_requeue {w : World} {e : Event}
    (h : e.requeuesOnRateLimit w.row = true) : (w.step e).row.rank = w.row.rank := by
  cases e with
  | dispatch agg f now =>
    simp only [Event.requeuesOnRateLimit, Bool.and_eq_true, Bool.not_eq_true',
      decide_eq_true_eq, decide_eq_false_iff_not] at h
    obtain ⟨⟨hrl, hs⟩, hcap⟩ := h
    obtain ⟨t, d, hsend⟩ : ∃ t d, agg.send = .raises (.rateLimit t d) := by
      cases hsend : agg.send with
      | returns _ => rw [hsend] at hrl; cases hrl
      | raises ex => cases ex <;> rw [hsend] at hrl <;> first | exact ⟨_, _, rfl⟩ | cases hrl
    cases hf : f.publish <;>
    simp [World.step, Event.applies, Event.handler, Event.now, MessageDispatcher.processMessageJob,
      processMessageDelivery, Ctx.start, deliveryAttempt, hcap, Message.queue, hs,
      sendViaAggregator, hsend, deliveryExceptions, requeueWithDelay, queueMessageForDelivery, hf,
      World.absorb, MessageRepo.updateFromDomain, MessageRepo.toDomain, Message.init, Ctx.rollback,
      MessageModel.rank, MessageModel.fallbackView]
  | statusUpdate => cases h
  | fallbackJob => cases h

/-- **One step.** The jobs a step enqueues, a rate-limit requeue's not counted, are covered by
the rise of the committed rank. -/
theorem World.step_jobs {w : World} (h : FallbackInv w.row.fallbackView) (e : Event) :
    w.jobsOf e + w.row.rank ≤ (w.step e).row.rank := by
  unfold World.jobsOf
  cases he : e.requeuesOnRateLimit w.row
  · have := handler_jobs h he e.now
    simp only [World.step, Bool.false_eq_true, ↓reduceIte]
    split
    · simp only [World.absorb, List.length_append]
      omega
    · simp
  · rw [if_pos rfl, World.step_rank_of_requeue he]
    exact Nat.le_of_eq (Nat.zero_add _)

theorem World.step_maxRetries {w : World} (h : FallbackInv w.row.fallbackView) (e : Event) :
    (w.step e).row.maxRetries = w.row.maxRetries := by
  unfold World.step; split
  · exact (step_ctxInv e h).durableMax
  · rfl

/-- **A run.** The jobs a run enqueues, rate-limit requeues not counted, are covered by the rise
of the committed rank, and `max_retries` stays. -/
theorem World.run_jobs {w : World} (h : FallbackInv w.row.fallbackView) (es : List Event) :
    w.pipelineJobs es + w.row.rank ≤ (w.run es).row.rank ∧
      (w.run es).row.maxRetries = w.row.maxRetries ∧ FallbackInv (w.run es).row.fallbackView := by
  induction es generalizing w with
  | nil => exact ⟨by simp [World.pipelineJobs], rfl, h⟩
  | cons e es ih =>
    have h1 := World.step_jobs h e
    obtain ⟨h2, hmax, hinv⟩ := ih (step_rowInv e h)
    refine ⟨?_, hmax.trans (World.step_maxRetries h e), hinv⟩
    simp only [World.pipelineJobs, World.run_cons]
    omega

/-- **The retry and fallback loop ends.** From every reachable state of a message, a run of any
events enqueues, rate-limit requeues not counted, no more dispatch jobs than its rise in rank, and
the rank ends at most at `2 * max_retries + 1`. -/
theorem retry_fallback_jobs_bounded {w : World} (hw : Reachable w) (es : List Event) :
    w.pipelineJobs es + w.row.rank ≤ (w.run es).row.rank ∧
      (w.run es).row.rank ≤ 2 * w.row.maxRetries + 1 ∧
      w.pipelineJobs es ≤ 2 * w.row.maxRetries + 1 := by
  obtain ⟨h1, hmax, hinv⟩ := World.run_jobs (reachable_rowInv hw) es
  have h2 : (w.run es).row.rank ≤ 2 * (w.run es).row.maxRetries + 1 := viewRank_le hinv
  rw [hmax] at h2
  exact ⟨h1, h2, by omega⟩

/-- A message just created with `max_retries = 3` whose sends all time out: eight deliveries
enqueue seven dispatch jobs, three retries on RCS, the fallback, three retries on SMS, and the
bound is met. -/
theorem retry_fallback_jobs_bounded_timeouts :
    let w := World.init (MessageRepo.modelOf
      (Message.create 1 7 3 "+919876543210" { text := "Hi" } "medium" 0) ⟨"Hi", none, none⟩)
    let timeout : AggregatorAnswers := ⟨"gupshup", true, .raises (.aggregator "timeout" none none)⟩
    let es := [100, 200, 300, 400, 500, 600, 700, 800].map (Event.dispatch timeout {})
    Reachable w ∧ w.pipelineJobs es = 2 * w.row.maxRetries + 1 ∧
      (w.pipelineJobs es + w.row.rank ≤ (w.run es).row.rank ∧
        (w.run es).row.rank ≤ 2 * w.row.maxRetries + 1 ∧
        w.pipelineJobs es ≤ 2 * w.row.maxRetries + 1) :=
  have hw := @Reachable.create 1 7 3 0 "+919876543210" "medium" { text := "Hi" } _ rfl
  ⟨hw, by decide, retry_fallback_jobs_bounded hw _⟩

end RcsMessaging

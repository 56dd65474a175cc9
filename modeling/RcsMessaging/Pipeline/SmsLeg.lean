import RcsMessaging.Services.Hoare
import RcsMessaging.Pipeline.World

/-!
# `Pipeline.SmsLeg` — the SMS leg of a message with a rich card or suggestions

Both routes to SMS convert the content with `to_sms_text()`. `trigger_fallback()` stores the
result as `metadata["sms_text"]` before `_queue_fallback` requeues the message, and
`SMSFallbackWorker.process_fallback_job` sends it. But every job loads its message through
`_to_domain`, which leaves the card and the suggestions as JSON dicts, and `to_sms_text()` reads
`media_url` and `type` as attributes. So on a message with a card or a suggestion,
`trigger_fallback()` always raises, after it has switched the message to a PENDING SMS message.

No job saves that state. Inside the `try` block of `process_message_delivery`, the raise goes to
the `except Exception`, and `_handle_delivery_failure` marks the message FAILED before it saves.
Everywhere else the raise leaves the unit of work, which rolls back. So a row is PENDING only on
RCS, `queue()` lets only a PENDING message through to `_send_via_aggregator`, and the fallback
worker never gets past `trigger_fallback()`. No job ever calls `send_sms_message` for the message.

`NoSms k` is what every job keeps on such a message with content column `k`: both rows are
PENDING only on RCS, the message object cannot be converted, and every send so far was an RCS
send. `Ready k` adds that the message object is PENDING only on RCS, which a save needs. It fails
only in the state a raising `trigger_fallback()` leaves.
-/

namespace RcsMessaging

open DeliveryService SMSFallbackWorker

/-- A content column with a card or at least one suggestion. -/
def ContentJson.Rich (k : ContentJson) : Prop := k.richCard ≠ none ∨ k.suggestions.getD [] ≠ []

/-- `to_sms_text()` raises on the message. -/
def Message.Unconvertible (m : Message) : Prop := ∀ t, m.content.toSmsText ≠ .ok t

/-- The message is PENDING only on RCS. -/
def Message.PendingOnRcs (m : Message) : Prop := m.status = .pending → m.channel = .rcs

/-- A row with content column `k`, PENDING only on RCS. -/
def RowClosed (k : ContentJson) (r : MessageModel) : Prop :=
  r.content = k ∧ (r.status = .pending → r.channel = .rcs)

/-- What every step of a job keeps on a message with content column `k`. -/
def NoSms (k : ContentJson) (c : Ctx) : Prop :=
  RowClosed k c.row ∧ RowClosed k c.durable ∧ c.msg.Unconvertible ∧
    ∀ call ∈ c.sends, call.method = .rcs

/-- `NoSms`, and the message object may be saved. -/
def Ready (k : ContentJson) (c : Ctx) : Prop := NoSms k c ∧ c.msg.PendingOnRcs

/-! ## Loading and converting -/

/-- The column `_to_model` writes for a content with a card or a suggestion has one too. -/
theorem contentJson_rich {c : MessageContent} {k : ContentJson}
    (h : MessageRepo.contentJson c = .ok k) (hc : c.richCard ≠ none ∨ c.suggestions ≠ []) :
    k.Rich := by
  simp only [MessageRepo.contentJson, bind, Except.bind] at h
  split at h
  · cases h
  · rename_i card hcard
    split at h
    · cases h
    · rename_i sugg hsugg
      cases h
      rcases hc with hc | hc
      · left
        obtain ⟨v, hv⟩ := Option.ne_none_iff_exists'.1 hc
        rw [hv] at hcard
        cases v <;> simp only [cardJson] at hcard <;> cases hcard
        simp
      · right
        obtain ⟨s, ss, hs⟩ := List.exists_cons_of_ne_nil hc
        rw [hs] at hsugg
        cases s with
        | dict _ => cases hsugg
        | action s =>
          cases hr : suggestionsJson ss <;>
            simp [suggestionsJson, hr, Functor.map, Except.map] at hsugg
          simp [hs, ← hsugg]

/-- The content `_to_domain` reads back: the card and the suggestions as dicts. -/
theorem loaded_content (r : MessageModel) (now : Nat) :
    (MessageRepo.toDomain r now).content =
      ({ text := r.content.text, richCard := r.content.richCard.map CardValue.dict,
         suggestions := (r.content.suggestions.getD []).map SuggestionValue.dict } : MessageContent) :=
  rfl

/-- `to_sms_text()` raises on a content read back from a column with a card or a suggestion. -/
theorem toSmsText_loaded_raises {r : MessageModel} (h : r.content.Rich) (now : Nat) :
    (MessageRepo.toDomain r now).Unconvertible := by
  intro t
  rw [loaded_content]
  cases hk : r.content.richCard with
  | some d => simp [MessageContent.toSmsText]
  | none =>
    obtain ⟨s, ss, hs⟩ := List.exists_cons_of_ne_nil (h.resolve_left (by simp [hk]))
    simp [MessageContent.toSmsText, hs, appendSuggestionLinks]

/-- On a message that cannot be converted, `trigger_fallback()` raises and keeps the content. -/
theorem triggerFallback_raises {m : Message} (h : m.Unconvertible) (now : Nat) :
    ∃ e m', Message.triggerFallback now m = .error e m' ∧ m'.Unconvertible := by
  unfold Message.triggerFallback
  split
  · dsimp only
    split
    · rename_i t ht; exact absurd ht (h t)
    · exact ⟨_, _, rfl, h⟩
  · exact ⟨_, _, rfl, h⟩

/-! ## What each step of a job keeps -/

section Invariant

variable {k : ContentJson} {faults : Faults} {now : Nat} {α : Type} {E : Exn → Ctx → Prop}

theorem saveMsg_ready : Hoare (Ready k) (saveMsg now) (fun _ => Ready k) E :=
  fun _ ⟨⟨⟨hrk, _⟩, hd, hm, hs⟩, hp⟩ => ⟨⟨⟨hrk, hp⟩, hd, hm, hs⟩, hp⟩

theorem saveMsg_rcs :
    Hoare (fun c => Ready k c ∧ c.msg.channel = .rcs) (saveMsg now)
      (fun _ c => Ready k c ∧ c.msg.channel = .rcs) E :=
  fun c h => ⟨saveMsg_ready (E := E) c h.1, h.2⟩

theorem commit_noSms : Hoare (NoSms k) commit (fun _ => NoSms k) E :=
  fun _ ⟨hr, _, hm, hs⟩ => ⟨hr, hr, hm, hs⟩

theorem rollback_noSms {c : Ctx} (h : NoSms k c) : NoSms k c.rollback :=
  ⟨h.2.1, h.2.1, h.2.2⟩

theorem loadMsg_ready (hk : k.Rich) : Hoare (NoSms k) (loadMsg now) (fun _ => Ready k) E :=
  fun _ ⟨⟨hrk, hp⟩, hd, _, hs⟩ =>
    ⟨⟨⟨hrk, hp⟩, hd, toSmsText_loaded_raises (hrk ▸ hk) now, hs⟩, hp⟩

theorem publish_closed {P : Ctx → Prop}
    (hP : ∀ c j, P c → P { c with published := c.published ++ [j] }) (hE : ∀ c, P c → NoSms k c)
    (j : QueueMessage) : Hoare P (publish faults j) (fun _ => P) (fun _ => NoSms k) := by
  intro c h
  rw [publish_apply]
  cases faults.publish
  · exact hP c j h
  · exact hE c h

theorem updateStats_closed {P : Ctx → Prop}
    (hP : ∀ c s, P c → P { c with stats := c.stats ++ [s] }) (hE : ∀ c, P c → NoSms k c)
    (cid : Nat) (key : String) :
    Hoare P (updateStats faults cid key) (fun _ => P) (fun _ => NoSms k) := by
  intro c h
  rw [updateStats_apply]
  cases faults.stats
  · exact hP c _ h
  · exact hE c h

theorem queueMessageForDelivery_closed {P : Ctx → Prop}
    (hP : ∀ c j, P c → P { c with published := c.published ++ [j] }) (hE : ∀ c, P c → NoSms k c) :
    Hoare P (queueMessageForDelivery faults) (fun _ => P) (fun _ => NoSms k) :=
  Hoare.getMsg_then fun _ => publish_closed hP hE _

/-- An RCS send keeps `Ready`. -/
theorem callSend_rcs (agg : AggregatorAnswers) (req : SendMessageRequest) :
    Hoare (Ready k) (callSend agg ⟨.rcs, req⟩) (fun _ => Ready k) (fun _ => NoSms k) := by
  rintro c ⟨⟨hr, hd, hm, hs⟩, hp⟩
  have hs' : ∀ call ∈ c.sends ++ [⟨.rcs, req⟩], call.method = .rcs := fun call hc => by
    rcases List.mem_append.1 hc with hc | hc
    · exact hs call hc
    · rw [List.mem_singleton.1 hc]
  rw [callSend_apply]
  cases agg.send
  · exact ⟨⟨hr, hd, hm, hs'⟩, hp⟩
  · exact ⟨hr, hd, hm, hs'⟩

/-- A method that keeps the message convertible as it was and never leaves it PENDING off
RCS. -/
theorem onMsg_ready {op : EStateM Exn Message Unit}
    (hop : ∀ m : Message, m.Unconvertible → m.PendingOnRcs →
      (resultState (op m)).Unconvertible ∧ (resultState (op m)).PendingOnRcs) :
    Hoare (Ready k) (onMsg op) (fun _ => Ready k) (fun _ => NoSms k) := by
  refine Hoare.onMsg fun c ⟨⟨hr, hd, hm, hs⟩, hp⟩ => ?_
  have h := hop c.msg hm hp
  cases hc : op c.msg with
  | ok _ m => rw [hc] at h; exact ⟨⟨hr, hd, h.1, hs⟩, h.2⟩
  | error _ m => rw [hc] at h; exact ⟨hr, hd, h.1, hs⟩

/-- `mark_failed` makes the message FAILED, so it may be saved again. -/
theorem markFailed_ready (r : FailureReason) (code text : Option String) :
    Hoare (NoSms k) (onMsg (Message.markFailed r code text now)) (fun _ => Ready k) E :=
  Hoare.onMsg fun _ ⟨hr, hd, hm, hs⟩ =>
    ⟨⟨hr, hd, hm, hs⟩, by simp [Message.PendingOnRcs, Message.markFailed, Message.recordAttempt]⟩

theorem incrementRetry_ready :
    Hoare (Ready k) (onMsg (Message.incrementRetry now)) (fun _ => Ready k) (fun _ => NoSms k) :=
  onMsg_ready fun _ hm hp => ⟨hm, hp⟩

theorem markSent_ready (a : String) (x : Option String) :
    Hoare (Ready k) (onMsg (Message.markSent a x now)) (fun _ => Ready k) (fun _ => NoSms k) :=
  onMsg_ready fun _ hm _ =>
    ⟨hm, by simp [Message.PendingOnRcs, Message.markSent, Message.recordAttempt, resultState]⟩

theorem markDelivered_ready :
    Hoare (Ready k) (onMsg (Message.markDelivered now)) (fun _ => Ready k) (fun _ => NoSms k) :=
  onMsg_ready fun m hm hp => by
    unfold Message.markDelivered
    split
    · exact ⟨hm, by simp [Message.PendingOnRcs, Message.recordAttempt, resultState]⟩
    · exact ⟨hm, hp⟩

theorem markRead_ready :
    Hoare (Ready k) (onMsg (Message.markRead now)) (fun _ => Ready k) (fun _ => NoSms k) :=
  onMsg_ready fun m hm hp => by
    unfold Message.markRead
    split
    · exact ⟨hm, hp⟩
    · split
      · exact ⟨hm, by simp [Message.PendingOnRcs, resultState]⟩
      · exact ⟨hm, hp⟩

/-- `queue()` lets only a PENDING message through, so one on RCS. -/
theorem queue_ready :
    Hoare (Ready k) (onMsg (Message.queue now)) (fun _ c => Ready k c ∧ c.msg.channel = .rcs)
      (fun _ => NoSms k) := by
  refine Hoare.onMsg fun c ⟨⟨hr, hd, hm, hs⟩, hp⟩ => ?_
  by_cases hq : c.msg.status = .pending
  · simp only [Message.queue, if_pos hq]
    exact ⟨⟨⟨hr, hd, hm, hs⟩, by simp [Message.PendingOnRcs]⟩, hp hq⟩
  · simp only [Message.queue, if_neg hq]
    exact ⟨hr, hd, hm, hs⟩

/-- `trigger_fallback()` never returns on such a message. -/
theorem triggerFallback_noSms {Q : Unit → Ctx → Prop} :
    Hoare (NoSms k) (onMsg (Message.triggerFallback now)) Q (fun _ => NoSms k) := by
  refine Hoare.onMsg fun c ⟨hr, hd, hm, hs⟩ => ?_
  obtain ⟨e, m', he, hm'⟩ := triggerFallback_raises hm now
  rw [he]
  exact ⟨hr, hd, hm', hs⟩

theorem queueFallback_noSms {Q : Unit → Ctx → Prop} :
    Hoare (NoSms k) (queueFallback faults now) Q (fun _ => NoSms k) :=
  triggerFallback_noSms.bind fun _ _ => False.elim

theorem handleDeliveryFailure_noSms (e : Exn) :
    Hoare (NoSms k) (handleDeliveryFailure faults now e) (fun _ => NoSms k) (fun _ => NoSms k) :=
  (markFailed_ready _ _ _).bind fun _ => Hoare.getMsg_then fun _ =>
    Hoare.ite
      (fun _ => incrementRetry_ready.bind fun _ => saveMsg_ready.bind fun _ =>
        (queueMessageForDelivery_closed (fun _ _ h => h) fun _ h => h.1).post fun _ _ => And.left)
      fun _ => Hoare.ite (fun _ => queueFallback_noSms.pre fun _ h => h.1)
        fun _ => saveMsg_ready.post fun _ _ => And.left

theorem deliveryExceptions_noSms (e : Exn) :
    Hoare (NoSms k) (deliveryExceptions faults now e) (fun _ => NoSms k) (fun _ => NoSms k) := by
  cases e <;> first
    | exact queueMessageForDelivery_closed (fun _ _ h => h) fun _ h => h
    | exact handleDeliveryFailure_noSms _

/-- The send of `_send_via_aggregator` on a message on RCS is an RCS send. -/
theorem sendViaAggregator_ready (agg : AggregatorAnswers) :
    Hoare (fun c => Ready k c ∧ c.msg.channel = .rcs) (sendViaAggregator agg now)
      (fun _ => Ready k) (fun _ => NoSms k) := by
  refine Hoare.getMsg_bind fun m => ?_
  by_cases hm : m.channel = .rcs
  · simp only [hm, if_true]
    refine ((callSend_rcs agg _).pre fun _ h => h.1.1).bind fun r => Hoare.ite
      (fun _ => (markSent_ready _ _).bind fun _ => saveMsg_ready) fun _ => ?_
    exact fun _ h => h.1
  · exact fun c ⟨⟨_, hc⟩, he⟩ => absurd (he ▸ hc) hm

theorem deliveryAttempt_noSms (agg : AggregatorAnswers) :
    Hoare (Ready k) (deliveryAttempt agg faults now) (fun _ => NoSms k) (fun _ => NoSms k) :=
  Hoare.getMsg_then fun _ => Hoare.ite
    (fun _ => ((markFailed_ready _ _ _).pre fun _ h => h.1).bind fun _ => saveMsg_ready.bind
      fun _ => queueFallback_noSms.pre fun _ h => h.1)
    fun _ => queue_ready.bind fun _ => saveMsg_rcs.bind fun _ =>
      (sendViaAggregator_ready agg).bind fun _ => Hoare.getMsg_then fun _ =>
        (updateStats_closed (P := Ready k) (fun _ _ h => h) (fun _ h => h.1) _ _).post
          fun _ _ => And.left

theorem processMessageJob_noSms (hk : k.Rich) (agg : AggregatorAnswers) :
    Triple (NoSms k) (MessageDispatcher.processMessageJob agg faults now) (NoSms k) :=
  Hoare.triple <| (Hoare.transaction ((loadMsg_ready hk).bind fun _ =>
      (deliveryAttempt_noSms agg).tryCatch deliveryExceptions_noSms)
    commit_noSms fun _ _ => rollback_noSms).transaction commit_noSms fun _ _ => rollback_noSms

theorem applyDeliveryStatus_ready (status : String) (code text : Option String) :
    Hoare (Ready k) (applyDeliveryStatus status code text faults now) (fun _ => Ready k)
      (fun _ => NoSms k) := by
  unfold applyDeliveryStatus
  refine Hoare.ite (fun _ => ?_) fun _ => Hoare.ite (fun _ => ?_) fun _ => Hoare.ite (fun _ => ?_)
    fun _ => hoare_pure (Q := fun _ => Ready k) ()
  · exact markDelivered_ready.bind fun _ => Hoare.getMsg_then fun _ =>
      updateStats_closed (fun _ _ h => h) (fun _ h => h.1) _ _
  · exact markRead_ready.bind fun _ => Hoare.getMsg_then fun _ =>
      updateStats_closed (fun _ _ h => h) (fun _ h => h.1) _ _
  · exact ((markFailed_ready _ _ _).pre fun _ h => h.1).bind fun _ => Hoare.getMsg_then fun _ =>
      Hoare.ite (fun _ => queueFallback_noSms.pre fun _ h => h.1) fun _ => hoare_pure (Q := fun _ => Ready k) ()

theorem processWebhookJob_noSms (hk : k.Rich) (status : String) (code text : Option String) :
    Triple (NoSms k) (WebhookProcessor.processWebhookJob status code text faults now) (NoSms k) :=
  Hoare.triple <| (Hoare.transaction ((loadMsg_ready hk).bind fun _ =>
      (applyDeliveryStatus_ready status code text).bind fun _ => saveMsg_ready.post fun _ _ => And.left)
    commit_noSms fun _ _ => rollback_noSms).transaction commit_noSms fun _ _ => rollback_noSms

/-- The fallback worker never gets past `trigger_fallback()`. -/
theorem processFallbackJob_noSms (hk : k.Rich) (agg : AggregatorAnswers) :
    Triple (NoSms k) (processFallbackJob agg faults now) (NoSms k) :=
  Hoare.triple <| Hoare.transaction ((loadMsg_ready hk).bind fun _ => Hoare.getMsg_then fun _ =>
      Hoare.ite (fun _ => (triggerFallback_noSms.pre fun _ h => h.1).bind fun _ _ => False.elim)
        fun _ => (hoare_pure (Q := fun _ => NoSms k) ()).pre fun _ => And.left)
    commit_noSms fun _ _ => rollback_noSms

theorem handler_noSms (hk : k.Rich) (e : Event) : Triple (NoSms k) e.handler (NoSms k) := by
  cases e with
  | dispatch agg f now => exact processMessageJob_noSms hk agg
  | statusUpdate _ status code text f now => exact processWebhookJob_noSms hk status code text
  | fallbackJob agg f now => exact processFallbackJob_noSms hk agg

end Invariant

/-! ## Over a whole run -/

/-- The world of a message with content column `k`: its row is PENDING only on RCS, and every
send so far was an RCS send. -/
def World.RcsOnly (k : ContentJson) (w : World) : Prop :=
  RowClosed k w.row ∧ ∀ call ∈ w.sends, call.method = .rcs

theorem World.step_rcsOnly {k : ContentJson} (hk : k.Rich) {w : World} (hw : w.RcsOnly k)
    (e : Event) : (w.step e).RcsOnly k := by
  unfold World.step
  split
  · have h0 : NoSms k (Ctx.start w.row e.now) :=
      ⟨hw.1, hw.1, toSmsText_loaded_raises (hw.1.1 ▸ hk) _, by simp [Ctx.start]⟩
    obtain ⟨-, hd, -, hs⟩ := handler_noSms hk e _ h0
    refine ⟨hd, fun call hc => ?_⟩
    rcases List.mem_append.1 hc with hc | hc
    · exact hw.2 call hc
    · exact hs call hc
  · exact hw

theorem World.run_rcsOnly {k : ContentJson} (hk : k.Rich) :
    ∀ {w : World} (_ : w.RcsOnly k) (es : List Event), (w.run es).RcsOnly k
  | _, hw, [] => hw
  | _, hw, e :: es => World.run_rcsOnly hk (World.step_rcsOnly hk hw e) es

/-- The row `_to_model` stores for a new message: PENDING on RCS, with the content's column. -/
theorem toModel_create {id campaignId tenantId now : Nat} {phone priority : String}
    {content : MessageContent} {row : MessageModel}
    (h : MessageRepo.toModel (Message.create id campaignId tenantId phone content priority now) =
      .ok row) :
    MessageRepo.contentJson content = .ok row.content ∧ row.status = .pending ∧
      row.channel = .rcs := by
  change MessageRepo.modelOf _ <$> MessageRepo.contentJson content = .ok row at h
  cases hc : MessageRepo.contentJson content with
  | error e => rw [hc] at h; cases h
  | ok k => rw [hc] at h; cases h; exact ⟨rfl, rfl, rfl⟩

/-- A message created with a rich card or with suggestions is never sent as an SMS: on every run
of dispatch jobs, status webhooks and fallback jobs, with every aggregator answer and every
infrastructure fault, each aggregator send issued for it is an RCS send. -/
theorem rich_message_never_sent_as_sms {id campaignId tenantId now : Nat} {phone priority : String}
    {content : MessageContent} {row : MessageModel}
    (hrow : MessageRepo.toModel (Message.create id campaignId tenantId phone content priority now) =
      .ok row)
    (hrich : content.richCard ≠ none ∨ content.suggestions ≠ []) (es : List Event) :
    ∀ call ∈ ((World.init row).run es).sends, call.method = .rcs := by
  obtain ⟨hc, hs, hch⟩ := toModel_create hrow
  exact (World.run_rcsOnly (contentJson_rich hc hrich) ⟨⟨rfl, fun _ => hch⟩, by simp [World.init]⟩ es).2

/-- A message with a card carrying a media URL and a URL suggestion, for a recipient without RCS:
its first dispatch switches it to SMS and commits it FAILED with the fallback triggered, and
neither the fallback job nor the next dispatch sends it. -/
theorem rich_message_never_sent_as_sms_card :
    let content : MessageContent :=
      { text := "Sale", richCard := some (.card { mediaUrl := some "https://img.example/1.png" }),
        suggestions := [.action { type := "url", text := "Shop", url := some "https://shop.example" }] }
    let row := MessageRepo.modelOf (Message.create 1 7 3 "+919876543210" content "medium" 0)
      ⟨"Sale", some ⟨none, none, some "https://img.example/1.png", none⟩,
        some [{ type := "url", text := "Shop", url := some "https://shop.example" }]⟩
    let noRcs : AggregatorAnswers :=
      ⟨"gupshup", false, .returns { success := true, externalId := some "ext-1" }⟩
    let ok : AggregatorAnswers :=
      ⟨"gupshup", true, .returns { success := true, externalId := some "ext-1" }⟩
    let w := (World.init row).run [.dispatch noRcs {} 100, .fallbackJob ok {} 200, .dispatch ok {} 300]
    MessageRepo.toModel (Message.create 1 7 3 "+919876543210" content "medium" 0) = .ok row ∧
      (content.richCard ≠ none ∨ content.suggestions ≠ []) ∧
      w.row.channel = .sms ∧ w.row.fallbackTriggered = true ∧ w.row.status = .failed ∧
      ∀ call ∈ w.sends, call.method = .rcs := by
  intro content row noRcs ok w
  have hrich : content.richCard ≠ none ∨ content.suggestions ≠ [] := .inl (by simp [content])
  exact ⟨rfl, hrich, by decide, by decide, by decide,
    @rich_message_never_sent_as_sms 1 7 3 0 _ _ content row rfl hrich _⟩

end RcsMessaging

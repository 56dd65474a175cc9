import RcsMessaging.Domain.Message

/-!
# `Persistence.MessageRepo` — the message row and its mappers

Shallow embedding of the mapper half of `adapters/db/repositories/message_repo.py`. A
`MessageModel` is the row of the `messages` table; enum columns hold the enum itself (the mapper
writes `.value` and reads it back with `MessageStatus(...)`, which round-trips). The JSON
`content` column is `ContentJson`.

What the mappers do, and do not, carry:
* `toModel` (`_to_model`) reads the card's and the suggestions' attributes, so it raises on
  content that was itself read back from a row;
* `updateFromDomain` (`_update_from_domain`) writes the lifecycle columns only: not `content`,
  `expires_at`, `max_retries`, `fallback_enabled`;
* `toDomain` (`_to_domain`) passes the card and the suggestions back as JSON dicts, and leaves
  `delivery_attempts` empty.
-/

namespace RcsMessaging

/-- The JSON object stored in the `content` column. -/
structure ContentJson where
  text : String
  richCard : Option RichCardDict
  suggestions : Option (List SuggestedAction)
  deriving DecidableEq, Repr

/-- A row of the `messages` table (`MessageModel`). -/
structure MessageModel where
  id : Nat
  campaignId : Nat
  tenantId : Nat
  recipientPhone : String
  status : MessageStatus
  channel : MessageChannel
  priority : String
  content : ContentJson
  queuedAt : Option Nat
  sentAt : Option Nat
  deliveredAt : Option Nat
  readAt : Option Nat
  failedAt : Option Nat
  expiresAt : Nat
  retryCount : Nat
  maxRetries : Nat
  fallbackEnabled : Bool
  fallbackTriggered : Bool
  aggregator : Option String
  externalId : Option String
  failureReason : Option FailureReason
  metadata : List (String × String)
  createdAt : Nat
  updatedAt : Nat
  deriving DecidableEq, Repr

/-- The `rich_card` entry of `_to_model`; attribute access on a dict raises. -/
def cardJson : Option CardValue → Except Exn (Option RichCardDict)
  | none => .ok none
  | some (.card c) => .ok (some ⟨c.title, c.description, c.mediaUrl, c.mediaType⟩)
  | some (.dict _) => .error (.attributeError "'dict' object has no attribute 'title'")

/-- The `suggestions` entry of `_to_model`, written only for a non-empty list. -/
def suggestionsJson : List SuggestionValue → Except Exn (List SuggestedAction)
  | [] => .ok []
  | .action s :: rest => (s :: ·) <$> suggestionsJson rest
  | .dict _ :: _ => .error (.attributeError "'dict' object has no attribute 'type'")

namespace MessageRepo

/-- The `content` column `_to_model` writes: the text, the card if any, the suggestions if any. -/
def contentJson (c : MessageContent) : Except Exn ContentJson := do
  let card ← cardJson c.richCard
  let sugg ← suggestionsJson c.suggestions
  pure ⟨c.text, card, if c.suggestions.isEmpty then none else some sugg⟩

/-- The row `_to_model` builds around an already serialised content. -/
def modelOf (m : Message) (content : ContentJson) : MessageModel :=
  { id := m.id, campaignId := m.campaignId, tenantId := m.tenantId,
    recipientPhone := m.recipientPhone, status := m.status, channel := m.channel,
    priority := m.priority, content := content,
    queuedAt := m.queuedAt, sentAt := m.sentAt, deliveredAt := m.deliveredAt,
    readAt := m.readAt, failedAt := m.failedAt, expiresAt := m.expiresAt,
    retryCount := m.retryCount, maxRetries := m.maxRetries,
    fallbackEnabled := m.fallbackEnabled, fallbackTriggered := m.fallbackTriggered,
    aggregator := m.aggregator, externalId := m.externalId, failureReason := m.failureReason,
    metadata := m.metadata, createdAt := m.createdAt, updatedAt := m.updatedAt }

/-- `_to_model`: every column from the aggregate, the content serialised to JSON. -/
def toModel (m : Message) : Except Exn MessageModel := modelOf m <$> contentJson m.content

/-- `_update_from_domain`: the lifecycle columns, `updated_at := utcnow()`. -/
def updateFromDomain (r : MessageModel) (m : Message) (now : Nat) : MessageModel :=
  { r with
    status := m.status, channel := m.channel, queuedAt := m.queuedAt, sentAt := m.sentAt,
    deliveredAt := m.deliveredAt, readAt := m.readAt, failedAt := m.failedAt,
    retryCount := m.retryCount, fallbackTriggered := m.fallbackTriggered,
    aggregator := m.aggregator, externalId := m.externalId, failureReason := m.failureReason,
    metadata := m.metadata, updatedAt := now }

/-- `_to_domain`: `Message.__init__` on the row's columns, then the attributes it does not take;
the card and the suggestions stay JSON dicts. -/
def toDomain (r : MessageModel) (now : Nat) : Message :=
  let content : MessageContent :=
    { text := r.content.text, richCard := r.content.richCard.map CardValue.dict,
      suggestions := (r.content.suggestions.getD []).map SuggestionValue.dict }
  { Message.init r.id r.campaignId r.tenantId r.recipientPhone content r.status r.channel
      r.priority r.createdAt now with
    updatedAt := r.updatedAt, queuedAt := r.queuedAt, sentAt := r.sentAt,
    deliveredAt := r.deliveredAt, readAt := r.readAt, failedAt := r.failedAt,
    expiresAt := r.expiresAt, retryCount := r.retryCount, maxRetries := r.maxRetries,
    fallbackEnabled := r.fallbackEnabled, fallbackTriggered := r.fallbackTriggered,
    aggregator := r.aggregator, externalId := r.externalId, failureReason := r.failureReason,
    metadata := r.metadata }

@[simp] theorem toDomain_status (r : MessageModel) (now : Nat) : (toDomain r now).status = r.status := rfl
@[simp] theorem toDomain_channel (r : MessageModel) (now : Nat) :
    (toDomain r now).channel = r.channel := rfl
@[simp] theorem toDomain_retryCount (r : MessageModel) (now : Nat) :
    (toDomain r now).retryCount = r.retryCount := rfl
@[simp] theorem toDomain_maxRetries (r : MessageModel) (now : Nat) :
    (toDomain r now).maxRetries = r.maxRetries := rfl
@[simp] theorem toDomain_fallbackTriggered (r : MessageModel) (now : Nat) :
    (toDomain r now).fallbackTriggered = r.fallbackTriggered := rfl
@[simp] theorem toDomain_campaignId (r : MessageModel) (now : Nat) :
    (toDomain r now).campaignId = r.campaignId := rfl

@[simp] theorem updateFromDomain_status (r : MessageModel) (m : Message) (now : Nat) :
    (updateFromDomain r m now).status = m.status := rfl
@[simp] theorem updateFromDomain_channel (r : MessageModel) (m : Message) (now : Nat) :
    (updateFromDomain r m now).channel = m.channel := rfl
@[simp] theorem updateFromDomain_retryCount (r : MessageModel) (m : Message) (now : Nat) :
    (updateFromDomain r m now).retryCount = m.retryCount := rfl
@[simp] theorem updateFromDomain_maxRetries (r : MessageModel) (m : Message) (now : Nat) :
    (updateFromDomain r m now).maxRetries = r.maxRetries := rfl
@[simp] theorem updateFromDomain_fallbackTriggered (r : MessageModel) (m : Message) (now : Nat) :
    (updateFromDomain r m now).fallbackTriggered = m.fallbackTriggered := rfl
@[simp] theorem updateFromDomain_campaignId (r : MessageModel) (m : Message) (now : Nat) :
    (updateFromDomain r m now).campaignId = r.campaignId := rfl

/-! ## The round trip

`_to_model` writes every column from the aggregate, and `_update_from_domain` the lifecycle
columns; `delivery_attempts` has no column. -/

/-- The content column keeps the text. -/
theorem contentJson_text {c : MessageContent} {cj : ContentJson} (h : contentJson c = .ok cj) :
    cj.text = c.text := by
  simp only [contentJson, bind, Except.bind] at h
  split at h
  · cases h
  · split at h
    · cases h
    · cases h; rfl

/-- `_to_domain` after `_to_model`, and after `_update_from_domain` on such a row. Apart from the
card and the suggestions, the first returns the message with `recipient_phone` normalised once
more and no delivery attempts. The second returns the message that was saved, with the same two
changes, `updated_at` from the save's `utcnow()`, and the columns `_update_from_domain` does not
write as `_to_model` wrote them. -/
theorem message_mappers_round_trip {m : Message} {r : MessageModel} (h : toModel m = .ok r)
    (m' : Message) (now now' : Nat) :
    (toDomain r now).content.text = m.content.text ∧
    { toDomain r now with content := m.content } = { m with
      recipientPhone := normalizePhone m.recipientPhone, deliveryAttempts := [] } ∧
    (toDomain (updateFromDomain r m' now) now').content.text = m.content.text ∧
    { toDomain (updateFromDomain r m' now) now' with content := m'.content } = { m' with
      id := m.id, campaignId := m.campaignId, tenantId := m.tenantId,
      recipientPhone := normalizePhone m.recipientPhone, priority := m.priority,
      createdAt := m.createdAt, updatedAt := now, expiresAt := m.expiresAt,
      maxRetries := m.maxRetries, fallbackEnabled := m.fallbackEnabled, deliveryAttempts := [] } := by
  unfold toModel at h
  cases hc : contentJson m.content with
  | error e => rw [hc] at h; cases h
  | ok cj =>
    rw [hc] at h; cases h
    exact ⟨contentJson_text hc, rfl, contentJson_text hc, rfl⟩

/-- A plain-text message as created, stored, and saved again unchanged. -/
theorem message_mappers_round_trip_text :
    let m := Message.create 1 7 3 "+919876543210" { text := "Hi" } "medium" 0
    let r := modelOf m ⟨"Hi", none, none⟩
    toModel m = .ok r ∧
    ((toDomain r 5).content.text = m.content.text ∧
    { toDomain r 5 with content := m.content } = { m with
      recipientPhone := normalizePhone m.recipientPhone, deliveryAttempts := [] } ∧
    (toDomain (updateFromDomain r m 5) 6).content.text = m.content.text ∧
    { toDomain (updateFromDomain r m 5) 6 with content := m.content } = { m with
      id := m.id, campaignId := m.campaignId, tenantId := m.tenantId,
      recipientPhone := normalizePhone m.recipientPhone, priority := m.priority,
      createdAt := m.createdAt, updatedAt := 5, expiresAt := m.expiresAt,
      maxRetries := m.maxRetries, fallbackEnabled := m.fallbackEnabled, deliveryAttempts := [] }) :=
  have h : toModel (Message.create 1 7 3 "+919876543210" { text := "Hi" } "medium" 0) =
      .ok (modelOf (Message.create 1 7 3 "+919876543210" { text := "Hi" } "medium" 0)
        ⟨"Hi", none, none⟩) := rfl
  ⟨h, message_mappers_round_trip h _ 5 6⟩

/-- A message with a rich card and a URL suggestion, sent once. Read back from its row, the card
and the suggestion are dicts, so `to_sms_text()` raises on it, and the delivery attempt is gone. -/
theorem rich_message_round_trip_loses_objects :
    let m0 := Message.create 1 7 3 "+919876543210"
      { text := "Sale", richCard := some (.card { mediaUrl := some "https://img.example/1.png" }),
        suggestions := [.action { type := "url", text := "Shop", url := some "https://shop.example" }] }
      "medium" 0
    let m := match Message.markSent "gupshup" (some "ext-1") 100 m0 with
      | .ok _ m => m
      | .error _ m => m
    let r := modelOf m ⟨"Sale", some ⟨none, none, some "https://img.example/1.png", none⟩,
      some [{ type := "url", text := "Shop", url := some "https://shop.example" }]⟩
    toModel m = .ok r ∧ (toDomain r 200).content ≠ m.content ∧
      m.deliveryAttempts.length = 1 ∧ (toDomain r 200).deliveryAttempts = [] ∧
      m.content.toSmsText = .ok "Sale\nhttps://img.example/1.png\nShop: https://shop.example" ∧
      (toDomain r 200).content.toSmsText =
        .error (.attributeError "'dict' object has no attribute 'media_url'") :=
  ⟨rfl, by decide, rfl, rfl, rfl, rfl⟩

end MessageRepo

end RcsMessaging

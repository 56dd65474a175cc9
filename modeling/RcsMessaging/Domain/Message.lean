import Mathlib.Logic.Basic

/-!
# `Domain.Message` — the message aggregate and its state machine

Shallow embedding of `apps/core/domain/message.py`. `Message` carries every attribute the
methods read or write. A method that mutates `self` is an `EStateM Exn Message` program: a
mutation made before a `raise` stays on the object, as it does on the Python object (this matters
for `triggerFallback`, which switches the channel before `toSmsText` can raise).

Time is a `Nat` clock reading passed in as `now`; all `datetime.now(timezone.utc)` calls of one
method read the same instant.

## Contents
- the enums, the content types and `MessageContent.toSmsText` (the first `to_sms_text` of the
  file; the second one is indented into `DeliveryAttempt` and nothing calls it);
- the exception type `Exn` shared by the whole pipeline, and `PyDateTime`, whose comparisons
  raise between a naive and an aware value;
- `Message`, `Message.create` and the lifecycle methods; `markFallbackSent` is the *second*
  definition in the class body, the one Python keeps.
-/

namespace RcsMessaging

/-- Message delivery states (`MessageStatus`). -/
inductive MessageStatus
  | pending | queued | sent | delivered | read | failed | fallbackSent | fallbackDelivered | expired
  deriving DecidableEq, Repr

/-- Supported messaging channels (`MessageChannel`). -/
inductive MessageChannel
  | rcs | sms | whatsapp
  deriving DecidableEq, Repr

/-- Categorised failure reasons (`FailureReason`). -/
inductive FailureReason
  | invalidNumber | rcsNotSupported | networkError | rateLimited | blocked | expired | unknown
  deriving DecidableEq, Repr

/-- The member name Python 3.12 prints for a `MessageStatus` in an f-string. -/
def MessageStatus.format : MessageStatus → String
  | .pending => "MessageStatus.PENDING"
  | .queued => "MessageStatus.QUEUED"
  | .sent => "MessageStatus.SENT"
  | .delivered => "MessageStatus.DELIVERED"
  | .read => "MessageStatus.READ"
  | .failed => "MessageStatus.FAILED"
  | .fallbackSent => "MessageStatus.FALLBACK_SENT"
  | .fallbackDelivered => "MessageStatus.FALLBACK_DELIVERED"
  | .expired => "MessageStatus.EXPIRED"

/-- The exceptions the pipeline raises or catches, by Python class. -/
inductive Exn
  /-- `ValueError` from a domain guard. -/
  | valueError (text : String)
  /-- `AggregatorException(message, error_code, retry_after)`. -/
  | aggregator (text : String) (errorCode : Option String) (retryAfter : Option Nat)
  /-- `RateLimitException`, the subclass of `AggregatorException` caught first. -/
  | rateLimit (text : String) (retryAfter : Option Nat)
  /-- `AttributeError` from reading an attribute of a JSON dict. -/
  | attributeError (text : String)
  /-- `QueueException` from a failed publish. -/
  | queue (text : String)
  /-- `InvalidStateTransition` from a campaign state guard. -/
  | invalidStateTransition (text : String)
  /-- Any other exception. -/
  | other (text : String)
  deriving DecidableEq, Repr

/-- `str(exception)`. -/
def Exn.text : Exn → String
  | .valueError t | .aggregator t _ _ | .rateLimit t _ | .attributeError t | .queue t
  | .invalidStateTransition t | .other t => t

/-- `getattr(exception, 'error_code', 'UNKNOWN')`: only aggregator exceptions carry the attribute. -/
def Exn.errorCode : Exn → Option String
  | .aggregator _ c _ => c
  | .rateLimit _ _ => none
  | _ => some "UNKNOWN"

/-- The state an `EStateM` run ends in, whether it returned or raised. -/
def resultState {ε σ α : Type} : EStateM.Result ε σ α → σ
  | .ok _ s => s
  | .error _ s => s

/-! ## `datetime` -/

/-- A `datetime`: its instant, and whether it carries a `tzinfo`. `datetime.utcnow()` is naive;
`datetime.now(timezone.utc)`, and every value a `DateTime(timezone=True)` column gives back, is
aware. -/
structure PyDateTime where
  stamp : Nat
  aware : Bool
  deriving DecidableEq, Repr

/-- `datetime.utcnow()`. -/
def PyDateTime.utcnow (now : Nat) : PyDateTime := ⟨now, false⟩

/-- `datetime.now(timezone.utc)`. -/
def PyDateTime.nowUtc (now : Nat) : PyDateTime := ⟨now, true⟩

/-- An order comparison of two datetimes: Python compares two naive or two aware values, and
raises `TypeError` for a naive and an aware one. -/
def PyDateTime.compare (rel : Nat → Nat → Prop) [DecidableRel rel] (a b : PyDateTime) :
    Except Exn Bool :=
  if a.aware = b.aware then .ok (decide (rel a.stamp b.stamp))
  else .error (.other "can't compare offset-naive and offset-aware datetimes")

/-- `a <= b`. -/
def PyDateTime.le (a b : PyDateTime) : Except Exn Bool := PyDateTime.compare (· ≤ ·) a b

/-- `a < b`. -/
def PyDateTime.lt (a b : PyDateTime) : Except Exn Bool := PyDateTime.compare (· < ·) a b

/-! ## Content -/

/-- Python truthiness of an optional string attribute. -/
def truthy : Option String → Bool
  | some s => !s.isEmpty
  | none => false

/-- RCS suggested action (`SuggestedAction`). -/
structure SuggestedAction where
  type : String
  text : String
  postbackData : Option String := none
  url : Option String := none
  phoneNumber : Option String := none
  deriving DecidableEq, Repr

/-- RCS rich card (`RichCard`). -/
structure RichCard where
  title : Option String := none
  description : Option String := none
  mediaUrl : Option String := none
  mediaType : Option String := none
  mediaHeight : String := "MEDIUM"
  suggestions : List SuggestedAction := []
  deriving DecidableEq, Repr

/-- The JSON object `_to_model` writes for a rich card: four keys, so always truthy. -/
structure RichCardDict where
  title : Option String
  description : Option String
  mediaUrl : Option String
  mediaType : Option String
  deriving DecidableEq, Repr

/-- What `MessageContent.rich_card` holds: a `RichCard` built in memory, or the JSON dict that
`_to_domain` passes through unchanged. -/
inductive CardValue
  | card (c : RichCard)
  | dict (d : RichCardDict)
  deriving DecidableEq, Repr

/-- One entry of `MessageContent.suggestions`: an object, or the JSON dict read back. -/
inductive SuggestionValue
  | action (s : SuggestedAction)
  | dict (d : SuggestedAction)
  deriving DecidableEq, Repr

/-- Message content (`MessageContent`). -/
structure MessageContent where
  text : String
  richCard : Option CardValue := none
  suggestions : List SuggestionValue := []
  deriving DecidableEq, Repr

/-- The suggestion loop of `to_sms_text`; reading `.type` of a dict raises. -/
def appendSuggestionLinks (smsText : String) : List SuggestionValue → Except Exn String
  | [] => .ok smsText
  | .dict _ :: _ => .error (.attributeError "'dict' object has no attribute 'type'")
  | .action s :: rest =>
    appendSuggestionLinks
      (if s.type = "url" ∧ truthy s.url then smsText ++ "\n" ++ s.text ++ ": " ++ s.url.getD ""
        else smsText) rest

/-- `MessageContent.to_sms_text`: the text, the card's media URL, then `text: url` of every URL
suggestion. Attribute access on a JSON dict raises `AttributeError`. -/
def MessageContent.toSmsText (c : MessageContent) : Except Exn String :=
  match c.richCard with
  | some (.dict _) => .error (.attributeError "'dict' object has no attribute 'media_url'")
  | some (.card rc) =>
    appendSuggestionLinks
      (if truthy rc.mediaUrl then c.text ++ "\n" ++ rc.mediaUrl.getD "" else c.text) c.suggestions
  | none => appendSuggestionLinks c.text c.suggestions

/-! ## The aggregate -/

/-- Record of a delivery attempt (`DeliveryAttempt`). -/
structure DeliveryAttempt where
  attemptNumber : Nat
  channel : MessageChannel
  attemptedAt : Nat
  status : MessageStatus
  aggregator : Option String := none
  errorCode : Option String := none
  errorMessage : Option String := none
  externalId : Option String := none
  deriving DecidableEq, Repr

/-- The message aggregate (`Message`), with every attribute `__init__` sets. `metadata` is the
string-valued part of the Python dict, as an association list. -/
structure Message where
  id : Nat
  campaignId : Nat
  tenantId : Nat
  recipientPhone : String
  content : MessageContent
  status : MessageStatus
  channel : MessageChannel
  priority : String
  createdAt : Nat
  updatedAt : Nat
  queuedAt : Option Nat
  sentAt : Option Nat
  deliveredAt : Option Nat
  readAt : Option Nat
  failedAt : Option Nat
  expiresAt : Nat
  retryCount : Nat
  maxRetries : Nat
  fallbackEnabled : Bool
  fallbackTriggered : Bool
  deliveryAttempts : List DeliveryAttempt
  aggregator : Option String
  externalId : Option String
  failureReason : Option FailureReason
  metadata : List (String × String)
  deriving DecidableEq, Repr

/-- `dict[key] = value` on the metadata association list. -/
def setKey (d : List (String × String)) (k v : String) : List (String × String) :=
  (d.filter (·.1 != k)) ++ [(k, v)]

/-- `created_at.replace(hour=23, minute=59)` on a clock counting seconds from a midnight. -/
def endOfDay (t : Nat) : Nat := t - t % 86400 + 86340 + t % 60

/-- `Message._normalize_phone`: keep the digits; without a leading `+`, a 10-digit number gets
the `+91` prefix and any other gets `+`; with one, the input is returned unchanged. -/
def normalizePhone (phone : String) : String :=
  let digits := String.mk (phone.toList.filter Char.isDigit)
  if ['+'].isPrefixOf phone.toList then phone
  else if digits.length = 10 then "+91" ++ digits
  else "+" ++ digits

/-- `Message.__init__` with its defaults. -/
def Message.init (id campaignId tenantId : Nat) (recipientPhone : String) (content : MessageContent)
    (status : MessageStatus) (channel : MessageChannel) (priority : String) (createdAt now : Nat) :
    Message where
  id := id
  campaignId := campaignId
  tenantId := tenantId
  recipientPhone := normalizePhone recipientPhone
  content := content
  status := status
  channel := channel
  priority := priority
  createdAt := createdAt
  updatedAt := now
  queuedAt := none
  sentAt := none
  deliveredAt := none
  readAt := none
  failedAt := none
  expiresAt := endOfDay createdAt
  retryCount := 0
  maxRetries := 3
  fallbackEnabled := true
  fallbackTriggered := false
  deliveryAttempts := []
  aggregator := none
  externalId := none
  failureReason := none
  metadata := []

/-- `Message.create`: a fresh PENDING message on the RCS channel (`id` stands for `uuid4()`). -/
def Message.create (id campaignId tenantId : Nat) (recipientPhone : String)
    (content : MessageContent) (priority : String) (now : Nat) : Message :=
  Message.init id campaignId tenantId recipientPhone content .pending .rcs priority now now

/-- `_record_attempt`: append an attempt numbered one past the current count. -/
def Message.recordAttempt (m : Message) (channel : MessageChannel) (status : MessageStatus)
    (now : Nat) (aggregator externalId errorCode errorMessage : Option String) : Message :=
  { m with deliveryAttempts := m.deliveryAttempts ++
      [{ attemptNumber := m.deliveryAttempts.length + 1, channel, attemptedAt := now, status,
         aggregator, errorCode, errorMessage, externalId }] }

/-! ## Lifecycle methods -/

namespace Message

/-- `queue()`: PENDING → QUEUED; any other status raises `ValueError`. -/
def queue (now : Nat) : EStateM Exn Message Unit := fun m =>
  if m.status = .pending then .ok () { m with status := .queued, queuedAt := some now, updatedAt := now }
  else .error (.valueError ("Cannot queue message in " ++ m.status.format ++ " status")) m

/-- `mark_sent(aggregator, external_id)`: SENT from any status, with a recorded attempt. -/
def markSent (aggregator : String) (externalId : Option String) (now : Nat) :
    EStateM Exn Message Unit := fun m =>
  let m1 : Message := { m with
    status := .sent, sentAt := some now, updatedAt := now, aggregator := some aggregator,
    externalId := externalId }
  .ok () (m1.recordAttempt m.channel .sent now (some aggregator) externalId none none)

/-- `mark_delivered()`: only from SENT or QUEUED. -/
def markDelivered (now : Nat) : EStateM Exn Message Unit := fun m =>
  if m.status = .sent ∨ m.status = .queued then
    let m1 : Message := { m with status := .delivered, deliveredAt := some now, updatedAt := now }
    .ok () (m1.recordAttempt m.channel .delivered now m.aggregator none none none)
  else .error (.valueError ("Cannot mark delivered from " ++ m.status.format ++ " status")) m

/-- `mark_read()`: a no-op off the RCS channel; on RCS only from DELIVERED. -/
def markRead (now : Nat) : EStateM Exn Message Unit := fun m =>
  if m.channel ≠ .rcs then .ok () m
  else if m.status = .delivered then .ok () { m with status := .read, readAt := some now, updatedAt := now }
  else .error (.valueError ("Cannot mark read from " ++ m.status.format ++ " status")) m

/-- `mark_failed(reason, error_code, error_message)`: FAILED from any status, with an attempt. -/
def markFailed (reason : FailureReason) (errorCode errorMessage : Option String) (now : Nat) :
    EStateM Exn Message Unit := fun m =>
  let m1 : Message := { m with
    status := .failed, failedAt := some now, updatedAt := now, failureReason := some reason }
  .ok () (m1.recordAttempt m.channel .failed now m.aggregator none errorCode errorMessage)

/-- `should_retry()`: FAILED, retries left, not expired, and not a permanent failure. -/
def shouldRetry (m : Message) (now : Nat) : Bool :=
  m.status = .failed ∧ m.retryCount < m.maxRetries ∧ ¬ now > m.expiresAt ∧
    m.failureReason ≠ some .invalidNumber ∧ m.failureReason ≠ some .blocked

/-- `should_fallback_to_sms()`: enabled, not yet triggered, not on SMS, and either RCS is
unsupported or the retries are used up. -/
def shouldFallbackToSms (m : Message) : Bool :=
  m.fallbackEnabled ∧ ¬ m.fallbackTriggered ∧ m.channel ≠ .sms ∧
    (m.failureReason = some .rcsNotSupported ∨ m.maxRetries ≤ m.retryCount)

/-- `trigger_fallback()`: raises unless `shouldFallbackToSms`; otherwise switches to SMS,
PENDING, triggered, zero retries, then stores `to_sms_text()`, which may raise *after* the switch. -/
def triggerFallback (now : Nat) : EStateM Exn Message Unit := fun m =>
  if m.shouldFallbackToSms then
    let m1 : Message := { m with
      channel := .sms, status := .pending, fallbackTriggered := true, retryCount := 0,
      updatedAt := now, metadata := setKey m.metadata "original_channel" "rcs" }
    match m1.content.toSmsText with
    | .ok t => .ok () { m1 with metadata := setKey m1.metadata "sms_text" t }
    | .error e => .error e m1
  else .error (.valueError "Cannot trigger fallback for this message") m

/-- `mark_fallback_sent(aggregator, external_id)`, the second definition in the class (the one
Python keeps): FALLBACK_SENT on SMS, triggered, no attempt recorded. -/
def markFallbackSent (aggregator : String) (externalId : Option String) (now : Nat) :
    EStateM Exn Message Unit := fun m =>
  .ok () { m with
    status := .fallbackSent, fallbackTriggered := true, channel := .sms,
    aggregator := some aggregator, externalId := externalId, sentAt := some now, updatedAt := now }

/-- `mark_fallback_delivered()`. -/
def markFallbackDelivered (now : Nat) : EStateM Exn Message Unit := fun m =>
  .ok () { m with status := .fallbackDelivered, deliveredAt := some now, updatedAt := now }

/-- `increment_retry()`. -/
def incrementRetry (now : Nat) : EStateM Exn Message Unit := fun m =>
  .ok () { m with retryCount := m.retryCount + 1, updatedAt := now }

/-- `is_delivered()`. -/
def isDelivered (m : Message) : Bool :=
  m.status = .delivered ∨ m.status = .read ∨ m.status = .fallbackDelivered

/-- `is_failed()`. -/
def isFailed (m : Message) (now : Nat) : Bool := m.status = .failed ∧ ¬ m.shouldRetry now

/-- `is_expired()`. -/
def isExpired (m : Message) (now : Nat) : Bool := now > m.expiresAt

end Message

end RcsMessaging

import RcsMessaging.Domain.Message

/-!
# `Domain.Campaign` — the campaign aggregate and its state machine

Shallow embedding of `apps/core/domain/campaign.py`. A method that mutates `self` is an
`EStateM Exn Campaign` program, as for `Message`. The methods' guards are the source's:

* `schedule` and the `_ensure_status` pair `pause` / `resume` demand one status, and `schedule`
  compares its argument with an aware `now`, so it raises on a naive datetime;
* `activate` accepts DRAFT or SCHEDULED and a positive `recipient_count`;
* `complete` accepts ACTIVE or PAUSED; `cancel` accepts anything but COMPLETED and CANCELLED;
* `add_audience` is DRAFT only and adds an audience id once.

Each transition appends a domain event; the event records its type and aggregate, its `data`
payload is left out. No method touches the statistics counters: the `record_*` methods exist but
nothing calls them, and the counters move only through `update_stats` (`Persistence.CampaignRepo`).
-/

namespace RcsMessaging

/-- Campaign lifecycle states (`CampaignStatus`). -/
inductive CampaignStatus
  | draft | scheduled | active | paused | completed | cancelled | failed
  deriving DecidableEq, Repr

/-- The member name Python 3.12 prints for a `CampaignStatus` in an f-string. -/
def CampaignStatus.format : CampaignStatus → String
  | .draft => "CampaignStatus.DRAFT"
  | .scheduled => "CampaignStatus.SCHEDULED"
  | .active => "CampaignStatus.ACTIVE"
  | .paused => "CampaignStatus.PAUSED"
  | .completed => "CampaignStatus.COMPLETED"
  | .cancelled => "CampaignStatus.CANCELLED"
  | .failed => "CampaignStatus.FAILED"

/-- Types of campaigns (`CampaignType`). -/
inductive CampaignType
  | promotional | transactional | reminder | notification
  deriving DecidableEq, Repr

/-- Message priority levels (`Priority`). -/
inductive Priority
  | low | medium | high | urgent
  deriving DecidableEq, Repr

/-- `Priority.value`. -/
def Priority.value : Priority → String
  | .low => "low"
  | .medium => "medium"
  | .high => "high"
  | .urgent => "urgent"

/-- Campaign delivery statistics (`CampaignStats`). -/
structure CampaignStats where
  totalRecipients : Nat := 0
  messagesSent : Nat := 0
  messagesDelivered : Nat := 0
  messagesFailed : Nat := 0
  messagesRead : Nat := 0
  fallbackTriggered : Nat := 0
  optOuts : Nat := 0
  deriving DecidableEq, Repr

/-- A domain event (`DomainEvent`), without its `data` payload. -/
structure DomainEvent where
  eventType : String
  aggregateId : Nat
  deriving DecidableEq, Repr

/-- The campaign aggregate (`Campaign`), with every attribute `__init__` sets. -/
structure Campaign where
  id : Nat
  tenantId : Nat
  name : String
  campaignType : CampaignType
  templateId : Nat
  status : CampaignStatus
  priority : Priority
  scheduledFor : Option PyDateTime
  createdAt : Nat
  updatedAt : Nat
  audienceIds : List Nat
  recipientCount : Nat
  enableFallback : Bool
  fallbackChannel : String
  rateLimit : Option Nat
  stats : CampaignStats
  metadata : List (String × String)
  tags : List String
  events : List DomainEvent
  deriving DecidableEq, Repr

/-- `Campaign.__init__` with its defaults. -/
def Campaign.init (id tenantId : Nat) (name : String) (campaignType : CampaignType)
    (templateId : Nat) (status : CampaignStatus) (priority : Priority)
    (scheduledFor : Option PyDateTime) (createdAt updatedAt : Nat) : Campaign where
  id := id
  tenantId := tenantId
  name := name
  campaignType := campaignType
  templateId := templateId
  status := status
  priority := priority
  scheduledFor := scheduledFor
  createdAt := createdAt
  updatedAt := updatedAt
  audienceIds := []
  recipientCount := 0
  enableFallback := true
  fallbackChannel := "sms"
  rateLimit := none
  stats := {}
  metadata := []
  tags := []
  events := []

/-- `_add_event(event_type, data)`. -/
def Campaign.addEvent (c : Campaign) (eventType : String) : Campaign :=
  { c with events := c.events ++ [⟨eventType, c.id⟩] }

/-- `Campaign.create`: a DRAFT campaign with a stripped, non-empty name (`id` stands for
`uuid4()`). -/
def Campaign.create (id : Nat) (name : String) (tenantId templateId : Nat)
    (campaignType : CampaignType) (priority : Priority) (now : Nat) : Except Exn Campaign :=
  if name.trim.isEmpty then .error (.valueError "Campaign name cannot be empty")
  else .ok ((Campaign.init id tenantId name.trim campaignType templateId .draft priority none now
    now).addEvent "campaign.created")

namespace Campaign

/-- The `InvalidStateTransition` that `_ensure_status(expected)` raises. -/
def ensureStatusError (expected got : CampaignStatus) : Exn :=
  .invalidStateTransition ("Expected status " ++ expected.format ++ ", got " ++ got.format)

/-- `_ensure_status(expected)`, then a move to `target` with its event: the body of `pause` and
of `resume`. -/
def ensureThenMove (expected target : CampaignStatus) (eventType : String) (now : Nat) :
    EStateM Exn Campaign Unit := fun c =>
  if c.status = expected then
    .ok () ({ c with status := target, updatedAt := now }.addEvent eventType)
  else .error (ensureStatusError expected c.status) c

/-- `pause()`: ACTIVE → PAUSED. -/
def pause (now : Nat) : EStateM Exn Campaign Unit :=
  ensureThenMove .active .paused "campaign.paused" now

/-- `resume()`: PAUSED → ACTIVE. -/
def resume (now : Nat) : EStateM Exn Campaign Unit :=
  ensureThenMove .paused .active "campaign.resumed" now

/-- `schedule(scheduled_for)`: DRAFT only, and the time must lie after
`datetime.now(timezone.utc)`, an aware time, so a naive `scheduled_for` raises `TypeError`. -/
def schedule (scheduledFor : PyDateTime) (now : Nat) : EStateM Exn Campaign Unit := fun c =>
  if c.status ≠ .draft then .error (ensureStatusError .draft c.status) c
  else match scheduledFor.le (PyDateTime.nowUtc now) with
    | .error e => .error e c
    | .ok true => .error (.valueError "Scheduled time must be in the future") c
    | .ok false => .ok () ({ c with
      scheduledFor := some scheduledFor, status := .scheduled, updatedAt := now }.addEvent
        "campaign.scheduled")

/-- `activate()`: from DRAFT or SCHEDULED, with at least one recipient. -/
def activate (now : Nat) : EStateM Exn Campaign Unit := fun c =>
  if c.status ≠ .draft ∧ c.status ≠ .scheduled then
    .error (.invalidStateTransition ("Cannot activate campaign in " ++ c.status.format ++
      " status")) c
  else if c.recipientCount = 0 then
    .error (.valueError "Campaign must have at least one recipient") c
  else .ok () ({ c with status := .active, updatedAt := now }.addEvent "campaign.activated")

/-- `complete()`: from ACTIVE or PAUSED. -/
def complete (now : Nat) : EStateM Exn Campaign Unit := fun c =>
  if c.status ≠ .active ∧ c.status ≠ .paused then
    .error (.invalidStateTransition ("Cannot complete campaign in " ++ c.status.format ++
      " status")) c
  else .ok () ({ c with status := .completed, updatedAt := now }.addEvent "campaign.completed")

/-- `cancel(reason)`: from anything but COMPLETED and CANCELLED; records the reason. -/
def cancel (reason : String) (now : Nat) : EStateM Exn Campaign Unit := fun c =>
  if c.status = .completed ∨ c.status = .cancelled then
    .error (.invalidStateTransition ("Cannot cancel campaign in " ++ c.status.format ++
      " status")) c
  else .ok () ({ c with
    status := .cancelled, updatedAt := now,
    metadata := setKey c.metadata "cancellation_reason" reason }.addEvent "campaign.cancelled")

/-- `add_audience(audience_id, recipient_count)`: DRAFT only; an id already present changes
nothing. -/
def addAudience (audienceId recipientCount now : Nat) : EStateM Exn Campaign Unit := fun c =>
  if c.status ≠ .draft then
    .error (.invalidStateTransition "Cannot modify audience of active campaign") c
  else if audienceId ∈ c.audienceIds then .ok () c
  else .ok () { c with
    audienceIds := c.audienceIds ++ [audienceId],
    recipientCount := c.recipientCount + recipientCount,
    stats := { c.stats with totalRecipients := c.recipientCount + recipientCount },
    updatedAt := now }

/-- `collect_events()`: the pending events, and an empty buffer. -/
def collectEvents : EStateM Exn Campaign (List DomainEvent) := fun c =>
  .ok c.events { c with events := [] }

end Campaign

end RcsMessaging

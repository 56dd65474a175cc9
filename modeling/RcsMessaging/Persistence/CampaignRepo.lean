import RcsMessaging.Domain.Campaign

/-!
# `Persistence.CampaignRepo` — the campaign row, its mappers, and what a flush writes

Shallow embedding of `adapters/db/repositories/campaign_repo.py`. `CampaignModel` is the row of
the `campaigns` table; `toDomain`, `toModel` and `updateFromDomain` are `_to_domain`, `_to_model`
and `_update_from_domain`. The row has no `audience_ids` column, so `_to_domain` leaves the list
empty.

What a `save` of an existing campaign writes follows from two pieces of SQLAlchemy's unit of work:
* `get_by_id` turns the row into a `Campaign` and drops the `CampaignModel`; the session's
  identity map holds its objects weakly, so nothing keeps it, and the `select` at the top of
  `save` reads the row as committed at that moment into a new object;
* the UPDATE a flush emits carries the attributes whose value differs from the one loaded
  (`netChange`). On the object `save` just read, that is every column `_update_from_domain`
  assigns a value the committed row does not have (`save_eq`): the cycle's copy is written over
  whatever was committed since its load.

`scheduled_for` is a `DateTime(timezone=True)` column: it keeps the instant, and gives back an
aware `datetime`. `update_stats` is a single `UPDATE … SET col = col + n`, atomic in the
database.
-/

namespace RcsMessaging

/-- A row of the `campaigns` table (`CampaignModel`). -/
structure CampaignModel where
  id : Nat
  tenantId : Nat
  name : String
  status : CampaignStatus
  campaignType : CampaignType
  priority : Priority
  templateId : Nat
  /-- The instant, read back as an aware `datetime`. -/
  scheduledFor : Option Nat
  enableFallback : Bool
  fallbackChannel : String
  rateLimit : Option Nat
  recipientCount : Nat
  messagesSent : Nat
  messagesDelivered : Nat
  messagesFailed : Nat
  messagesRead : Nat
  fallbackTriggered : Nat
  optOuts : Nat
  metadata : List (String × String)
  tags : List String
  createdAt : Nat
  updatedAt : Nat
  deriving DecidableEq, Repr

namespace CampaignRepo

/-- `_to_domain(model)`: `Campaign.__init__` on the row, then configuration, statistics,
metadata, tags and `recipient_count`. -/
def toDomain (r : CampaignModel) : Campaign :=
  let c := Campaign.init r.id r.tenantId r.name r.campaignType r.templateId r.status r.priority
    (r.scheduledFor.map fun t => ⟨t, true⟩) r.createdAt r.updatedAt
  { c with
    enableFallback := r.enableFallback, fallbackChannel := r.fallbackChannel,
    rateLimit := r.rateLimit,
    stats :=
      { totalRecipients := r.recipientCount, messagesSent := r.messagesSent,
        messagesDelivered := r.messagesDelivered, messagesFailed := r.messagesFailed,
        messagesRead := r.messagesRead, fallbackTriggered := r.fallbackTriggered,
        optOuts := r.optOuts },
    metadata := r.metadata, tags := r.tags, recipientCount := r.recipientCount }

/-- `_to_model(campaign)`: the row of a new campaign. -/
def toModel (c : Campaign) : CampaignModel :=
  { id := c.id, tenantId := c.tenantId, name := c.name, status := c.status,
    campaignType := c.campaignType, priority := c.priority, templateId := c.templateId,
    scheduledFor := c.scheduledFor.map (·.stamp), enableFallback := c.enableFallback,
    fallbackChannel := c.fallbackChannel, rateLimit := c.rateLimit,
    recipientCount := c.recipientCount, messagesSent := c.stats.messagesSent,
    messagesDelivered := c.stats.messagesDelivered, messagesFailed := c.stats.messagesFailed,
    messagesRead := c.stats.messagesRead, fallbackTriggered := c.stats.fallbackTriggered,
    optOuts := c.stats.optOuts, metadata := c.metadata, tags := c.tags,
    createdAt := c.createdAt, updatedAt := c.updatedAt }

/-- `_update_from_domain(model, campaign)`: assign every mapped attribute, and
`updated_at := utcnow()`. -/
def updateFromDomain (r : CampaignModel) (c : Campaign) (now : Nat) : CampaignModel :=
  { r with
    name := c.name, status := c.status, campaignType := c.campaignType, priority := c.priority,
    scheduledFor := c.scheduledFor.map (·.stamp), enableFallback := c.enableFallback,
    fallbackChannel := c.fallbackChannel, rateLimit := c.rateLimit,
    recipientCount := c.recipientCount, messagesSent := c.stats.messagesSent,
    messagesDelivered := c.stats.messagesDelivered, messagesFailed := c.stats.messagesFailed,
    messagesRead := c.stats.messagesRead, fallbackTriggered := c.stats.fallbackTriggered,
    optOuts := c.stats.optOuts, metadata := c.metadata, tags := c.tags, updatedAt := now }

/-- One column of a flushed UPDATE: the new value if the attribute changed since it was loaded
or last flushed, else the column keeps what the database holds. -/
def netChange {α : Type} [DecidableEq α] (before after db : α) : α :=
  if after = before then db else after

/-- On the value just loaded, a flush writes what was assigned. -/
@[simp] theorem netChange_self {α : Type} [DecidableEq α] (before after : α) :
    netChange before after before = after := by
  unfold netChange; split <;> simp_all

/-- The UPDATE a flush of the in-session object emits, applied to the database row `db`:
`before` is the object as last loaded or flushed, `after` as assigned since. -/
def flushOnto (before after db : CampaignModel) : CampaignModel :=
  { db with
    name := netChange before.name after.name db.name,
    status := netChange before.status after.status db.status,
    campaignType := netChange before.campaignType after.campaignType db.campaignType,
    priority := netChange before.priority after.priority db.priority,
    scheduledFor := netChange before.scheduledFor after.scheduledFor db.scheduledFor,
    enableFallback := netChange before.enableFallback after.enableFallback db.enableFallback,
    fallbackChannel := netChange before.fallbackChannel after.fallbackChannel db.fallbackChannel,
    rateLimit := netChange before.rateLimit after.rateLimit db.rateLimit,
    recipientCount := netChange before.recipientCount after.recipientCount db.recipientCount,
    messagesSent := netChange before.messagesSent after.messagesSent db.messagesSent,
    messagesDelivered :=
      netChange before.messagesDelivered after.messagesDelivered db.messagesDelivered,
    messagesFailed := netChange before.messagesFailed after.messagesFailed db.messagesFailed,
    messagesRead := netChange before.messagesRead after.messagesRead db.messagesRead,
    fallbackTriggered :=
      netChange before.fallbackTriggered after.fallbackTriggered db.fallbackTriggered,
    optOuts := netChange before.optOuts after.optOuts db.optOuts,
    metadata := netChange before.metadata after.metadata db.metadata,
    tags := netChange before.tags after.tags db.tags,
    updatedAt := netChange before.updatedAt after.updatedAt db.updatedAt }

/-- `save(campaign)` of a stored campaign, flushed: `select` reads the committed row `db` into a
new object, `_update_from_domain` assigns onto it, and the flush writes what changed. -/
def save (db : CampaignModel) (c : Campaign) (now : Nat) : CampaignModel :=
  flushOnto db (updateFromDomain db c now) db

/-- **A save writes the cycle's copy.** Every column `_update_from_domain` assigns takes the
aggregate's value, whatever the committed row held. -/
theorem save_eq (db : CampaignModel) (c : Campaign) (now : Nat) :
    save db c now = updateFromDomain db c now := by
  simp only [save, flushOnto, netChange_self, updateFromDomain]

/-- One `col = col + increment` of `update_stats`, for the integer columns a key can name;
`hasattr` fails for any other key and the entry is skipped. -/
def bumpColumn (r : CampaignModel) (key : String) (increment : Nat) : CampaignModel :=
  match key with
  | "messages_sent" => { r with messagesSent := r.messagesSent + increment }
  | "messages_delivered" => { r with messagesDelivered := r.messagesDelivered + increment }
  | "messages_failed" => { r with messagesFailed := r.messagesFailed + increment }
  | "messages_read" => { r with messagesRead := r.messagesRead + increment }
  | "fallback_triggered" => { r with fallbackTriggered := r.fallbackTriggered + increment }
  | "opt_outs" => { r with optOuts := r.optOuts + increment }
  | "recipient_count" => { r with recipientCount := r.recipientCount + increment }
  | _ => r

/-- `update_stats(campaign_id, stats_update)`: one UPDATE adding every entry. -/
def updateStats (r : CampaignModel) (statsUpdate : List (String × Nat)) : CampaignModel :=
  statsUpdate.foldl (fun r kv => bumpColumn r kv.1 kv.2) r

end CampaignRepo

/-! ## The statistics counters -/

/-- The six counters the workers bump. -/
structure Counters where
  messagesSent : Nat
  messagesDelivered : Nat
  messagesFailed : Nat
  messagesRead : Nat
  fallbackTriggered : Nat
  optOuts : Nat
  deriving DecidableEq, Repr

/-- A counter by its `update_stats` key. -/
def Counters.get (c : Counters) : String → Nat
  | "messages_sent" => c.messagesSent
  | "messages_delivered" => c.messagesDelivered
  | "messages_failed" => c.messagesFailed
  | "messages_read" => c.messagesRead
  | "fallback_triggered" => c.fallbackTriggered
  | "opt_outs" => c.optOuts
  | _ => 0

/-- The counter columns of a row. -/
def CampaignModel.counters (r : CampaignModel) : Counters :=
  ⟨r.messagesSent, r.messagesDelivered, r.messagesFailed, r.messagesRead, r.fallbackTriggered,
    r.optOuts⟩

/-- The counters of the aggregate's statistics. -/
def CampaignStats.counters (s : CampaignStats) : Counters :=
  ⟨s.messagesSent, s.messagesDelivered, s.messagesFailed, s.messagesRead, s.fallbackTriggered,
    s.optOuts⟩

end RcsMessaging

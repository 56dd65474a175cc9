import RcsMessaging.Persistence.CampaignRepo
import RcsMessaging.Queue.RabbitMQ

/-!
# `Services.CampaignService` — load-modify-save cycles on one campaign

Every `CampaignService` operation on an existing campaign is the same cycle inside
`async with self.uow:` — `get_by_id`, one domain call, `save`, commit — and the orchestrator's
job is a longer cycle of the same kind (`Workers.Orchestrator`). Between the load and the save of
a cycle, any other cycle and any `update_stats` of a worker can commit.

`Store` is what these cycles share: the committed campaign row, the messages and dispatch jobs
created for the campaign, and the next fresh id (`uuid4()`). A `Session` is an open cycle: the
`Campaign` it loaded and works on. Its save re-reads the committed row
(`CampaignRepo.save_eq`), so a cycle writes its own copy of every `_update_from_domain` column
over whatever was committed since its load.

`schedule_campaign` hands the orchestrator job to `queue.schedule` after its save and
`_publish_events`, inside the unit of work; `RabbitMQAdapter.schedule` compares the aware
`scheduled_for` with the naive `datetime.utcnow()`, raises, and the cycle rolls back
(`CampaignOp.queueJob`).
-/

namespace RcsMessaging

/-- The committed state the campaign-side jobs share. -/
structure Store where
  /-- The campaign's committed row. -/
  row : CampaignModel
  /-- Committed messages of the campaign, in creation order. -/
  messages : List Message
  /-- Dispatch jobs published for them, in publication order. -/
  jobs : List QueueMessage
  /-- The next id `uuid4()` hands out. -/
  nextId : Nat
  deriving DecidableEq, Repr

/-- The domain call of a `CampaignService` operation on a stored campaign. -/
inductive CampaignOp
  /-- `add_audience(campaign_id, audience_id, recipient_phones)`, by the phones' count. -/
  | addAudience (audienceId recipientCount : Nat)
  /-- `schedule_campaign(campaign_id, scheduled_for)`. -/
  | schedule (scheduledFor : PyDateTime)
  /-- `activate_campaign(campaign_id)`. -/
  | activate
  /-- `pause_campaign(campaign_id)`. -/
  | pause
  /-- `resume_campaign(campaign_id)`. -/
  | resume
  /-- `cancel_campaign(campaign_id, reason)`. -/
  | cancel (reason : String)
  /-- `complete_campaign(campaign_id)`. -/
  | complete
  deriving DecidableEq, Repr

/-- The domain method each operation calls. -/
def CampaignOp.run : CampaignOp → Nat → EStateM Exn Campaign Unit
  | .addAudience audienceId count, now => Campaign.addAudience audienceId count now
  | .schedule scheduledFor, now => Campaign.schedule scheduledFor now
  | .activate, now => Campaign.activate now
  | .pause, now => Campaign.pause now
  | .resume, now => Campaign.resume now
  | .cancel reason, now => Campaign.cancel reason now
  | .complete, now => Campaign.complete now

/-- The job the operation hands to the queue after its save and `_publish_events`:
`schedule_campaign` calls `queue.schedule` for `campaign-{id}`, `activate_campaign` calls
`queue.enqueue`; only the comparison inside `schedule` can raise. -/
def CampaignOp.queueJob : CampaignOp → Nat → Except Exn Unit
  | .schedule scheduledFor, now => (RabbitMQAdapter.scheduleDelay scheduledFor now).map fun _ => ()
  | _, _ => .ok ()

/-- An open unit of work that loaded the campaign. -/
structure Session where
  /-- The aggregate the cycle works on. -/
  campaign : Campaign
  deriving DecidableEq, Repr

/-- `campaigns.get_by_id(campaign_id)` on the committed row. -/
def Session.load (row : CampaignModel) : Session := ⟨CampaignRepo.toDomain row⟩

/-- `campaigns.save(campaign)` and the commit after it: the committed row with the cycle's
campaign written over it. -/
def Session.save (s : Session) (db : CampaignModel) (now : Nat) : CampaignModel :=
  CampaignRepo.save db s.campaign now

/-- The rest of a service cycle after its load: the domain call, `save`, then the queue call and
commit; a raising call rolls back and writes nothing. -/
def Session.finish (s : Session) (op : CampaignOp) (db : CampaignModel) (now : Nat) :
    CampaignModel :=
  match op.run now s.campaign, op.queueJob now with
  | .ok _ c, .ok _ => Session.save ⟨c⟩ db now
  | _, _ => db

end RcsMessaging

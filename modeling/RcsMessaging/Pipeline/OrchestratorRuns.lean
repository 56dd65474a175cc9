import RcsMessaging.Pipeline.Orchestration

/-!
# `Pipeline.OrchestratorRuns` — redelivery, pause and cancel, and crashes against the orchestrator

What the invariants of `Pipeline.Orchestration` give over every interleaving of service cycles,
workers' increments and deliveries of the orchestrator job, and runs that show where the
orchestrator does less. The runs start from the campaign as `Campaign.create` and the
repository's `save` store it: DRAFT, no recipient, no `scheduled_for` (a scheduled campaign never
runs: `shouldExecuteCampaign_toDomain_scheduled`).

* `process_campaign_job` has no record of what an earlier delivery created: every delivery that
  gets past `_should_execute_campaign` creates one message per recipient again;
* it reads the status once, at its load, and its saves write ACTIVE over whatever was committed
  since, a pause or a cancel included;
* it commits a batch before publishing it, so a delivery that stops in between leaves the rest of
  the batch PENDING with no job, and a redelivery creates new messages instead.
-/

namespace RcsMessaging

open CampaignRepo CampaignOrchestrator

/-! ## Redelivery -/

/-- Each delivery of the orchestrator job creates at most one message per resolved recipient, and
each committed message gets at most one dispatch job: a recipient has at most as many messages as
the job has had deliveries. -/
theorem messages_per_recipient_le_deliveries {cfg : Config} {w : CampaignWorld}
    (hw : CampaignWorld.Reachable cfg w) :
    (∀ p, (w.store.messages.map (·.recipientPhone)).count p ≤ w.deliveries.length) ∧
    ∃ ms : List Message, w.store.jobs = ms.map dispatchQueueMessage ∧ ms.Nodup ∧
      ∀ m ∈ ms, m ∈ w.store.messages :=
  ⟨hw.inv.count_phone_le, hw.inv.published⟩

/-- One complete delivery on an ACTIVE campaign. -/
theorem messages_per_recipient_one_delivery :
    let w := (CampaignWorld.init
      ⟨toModel (Campaign.init 7 3 "Sale" .promotional 5 .active .medium none 0 0), [], [], 100⟩).run
      {} [.orchestratorStart 10, .orchestratorStep 0 10, .orchestratorStep 0 10,
        .orchestratorStep 0 10, .orchestratorStep 0 10, .orchestratorStep 0 10]
    CampaignWorld.Reachable {} w ∧
      ((∀ p, (w.store.messages.map (·.recipientPhone)).count p ≤ w.deliveries.length) ∧
        ∃ ms : List Message, w.store.jobs = ms.map dispatchQueueMessage ∧ ms.Nodup ∧
          ∀ m ∈ ms, m ∈ w.store.messages) :=
  have hw := (CampaignWorld.Reachable.init _ _).run _
  ⟨hw, messages_per_recipient_le_deliveries hw⟩

/-- The job `campaign-7` that `activate_campaign` enqueued is delivered, runs to its end, and is
delivered again (the consumer went away before its ack): the second delivery loads the ACTIVE
campaign and creates and enqueues a message for every recipient again. -/
theorem redelivered_job_duplicates_messages :
    let w := (CampaignWorld.init ⟨createdRow, [], [], 100⟩).run {}
      (activateCreated ++
        [.orchestratorStart 10, .orchestratorStep 0 10, .orchestratorStep 0 10,
          .orchestratorStep 0 10, .orchestratorStep 0 10, .orchestratorStep 0 10,
          .orchestratorStart 11, .orchestratorStep 1 11, .orchestratorStep 1 11,
          .orchestratorStep 1 11, .orchestratorStep 1 11, .orchestratorStep 1 11])
    (w.store.messages.map (·.recipientPhone)).count "+919876543210" = 2 ∧
      (w.store.messages.map (·.recipientPhone)).count "+919876543211" = 2 ∧
      w.store.jobs.map (·.id) = ["100", "101", "102", "103"] := by
  decide

/-! ## Pause and cancel -/

/-- Every committed message has its dispatch job published or waits in the batch of one delivery;
what waits in the batch of a delivery that stopped stays committed, PENDING and without a job
through every continuation, redeliveries of the job included. -/
theorem stranded_batch_never_published {cfg : Config} {w : CampaignWorld}
    (hw : CampaignWorld.Reachable cfg w) :
    (∃ ms : List Message, w.store.jobs = ms.map dispatchQueueMessage ∧
      w.store.messages.Perm (ms ++ (w.deliveries.map (·.unqueued)).flatten)) ∧
    ∀ (i : Nat) (d : Delivery), w.deliveries[i]? = some d → d.phase = .stopped →
      ∀ m ∈ d.unqueued, ∀ es, m ∈ (w.run cfg es).store.messages ∧ m.status = .pending ∧
      ∃ ms : List Message, (w.run cfg es).store.jobs = ms.map dispatchQueueMessage ∧ m ∉ ms :=
  ⟨hw.inv.covered, fun _ _ hd hs _ hm es =>
    (hw.run es).inv.unpublished (List.getElem?_mem (CampaignWorld.stopped_run hd hs es)) hm⟩

/-- A delivery crashes after the checkpoint commit of its batch and before publishing it; the
redelivered job runs to its end. The first two messages stay PENDING with no dispatch job, and
every delivery has stopped. -/
theorem stranded_batch_never_published_crash :
    let w := (CampaignWorld.init ⟨createdRow, [], [], 100⟩).run {}
      (activateCreated ++
        [.orchestratorStart 10, .orchestratorStep 0 10, .orchestratorStop 0,
          .orchestratorStart 11, .orchestratorStep 1 11, .orchestratorStep 1 11,
          .orchestratorStep 1 11, .orchestratorStep 1 11, .orchestratorStep 1 11])
    CampaignWorld.Reachable {} w ∧
      ((∃ ms : List Message, w.store.jobs = ms.map dispatchQueueMessage ∧
        w.store.messages.Perm (ms ++ (w.deliveries.map (·.unqueued)).flatten)) ∧
      ∀ (i : Nat) (d : Delivery), w.deliveries[i]? = some d → d.phase = .stopped →
        ∀ m ∈ d.unqueued, ∀ es, m ∈ (w.run {} es).store.messages ∧ m.status = .pending ∧
        ∃ ms : List Message, (w.run {} es).store.jobs = ms.map dispatchQueueMessage ∧ m ∉ ms) ∧
      w.store.messages.map (fun m => (m.id, m.status)) =
        [(100, .pending), (101, .pending), (102, .pending), (103, .pending)] ∧
      w.store.jobs.map (·.id) = ["102", "103"] ∧
      w.deliveries.map (fun d => (d.phase, d.unqueued.map (·.id))) =
        [(.stopped, [100, 101]), (.stopped, [])] :=
  have hw := (CampaignWorld.Reachable.init _ _).run _
  ⟨hw, stranded_batch_never_published hw, by decide, by decide, by decide⟩

end RcsMessaging

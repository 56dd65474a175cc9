import RcsMessaging.Workers.Orchestrator

/-!
# `Pipeline.CampaignWorld` — every interleaving of the cycles on one campaign

The campaign side as a state machine: the shared `Store`, the `CampaignService` cycles that have
loaded the campaign and not yet saved it, and the deliveries of the orchestrator job. A step is
one atomic piece of one of them:

* a worker's committed `update_stats` (the dispatcher's, the webhook's, the fallback worker's);
* a service cycle's `get_by_id`, or the rest of that cycle (domain call, save, commit);
* a new delivery of the orchestrator job (at-least-once delivery, and both `schedule_campaign`
  and `activate_campaign` enqueue `campaign-{id}`, so a delivery can start at any time), one step
  of a delivery, or a crash that stops it.

A run is any list of steps, so a theorem over every run holds for every interleaving.
-/

namespace RcsMessaging

open CampaignOrchestrator

/-- The campaign side between two steps. -/
structure CampaignWorld where
  store : Store
  /-- Service cycles by the order they loaded; `none` once finished. -/
  sessions : List (Option Session)
  /-- Deliveries of the orchestrator job by the order they started. -/
  deliveries : List Delivery
  deriving DecidableEq, Repr

/-- One step on the campaign side. -/
inductive CampaignEvent
  /-- A worker's `update_stats(campaign_id, stats_update)`, committed. -/
  | increment (statsUpdate : List (String × Nat))
  /-- A `CampaignService` operation loads the campaign. -/
  | serviceLoad
  /-- The `i`-th service cycle makes its domain call, saves and commits. -/
  | serviceFinish (i : Nat) (op : CampaignOp) (now : Nat)
  /-- A delivery of the orchestrator job loads the campaign. -/
  | orchestratorStart (now : Nat)
  /-- The `i`-th delivery takes its next step. -/
  | orchestratorStep (i : Nat) (now : Nat)
  /-- The `i`-th delivery crashes or leaves through an exception. -/
  | orchestratorStop (i : Nat)
  deriving DecidableEq, Repr

/-- A world with nothing in flight. -/
def CampaignWorld.init (st : Store) : CampaignWorld := ⟨st, [], []⟩

/-- One step. -/
def CampaignWorld.step (cfg : Config) (w : CampaignWorld) : CampaignEvent → CampaignWorld
  | .increment su =>
    { w with store := { w.store with row := CampaignRepo.updateStats w.store.row su } }
  | .serviceLoad => { w with sessions := w.sessions ++ [some (Session.load w.store.row)] }
  | .serviceFinish i op now =>
    match w.sessions[i]? with
    | some (some s) =>
      { w with
        store := { w.store with row := s.finish op w.store.row now },
        sessions := w.sessions.set i none }
    | _ => w
  | .orchestratorStart now =>
    { w with deliveries := w.deliveries ++ [Delivery.start cfg w.store.row now] }
  | .orchestratorStep i now =>
    match w.deliveries[i]? with
    | some d =>
      let r := d.step w.store now
      { w with store := r.2, deliveries := w.deliveries.set i r.1 }
    | none => w
  | .orchestratorStop i =>
    match w.deliveries[i]? with
    | some d => { w with deliveries := w.deliveries.set i { d with phase := .stopped } }
    | none => w

/-- A run of steps. -/
def CampaignWorld.run (cfg : Config) (w : CampaignWorld) (es : List CampaignEvent) :
    CampaignWorld :=
  es.foldl (step cfg) w

@[simp] theorem CampaignWorld.run_nil (cfg : Config) (w : CampaignWorld) : w.run cfg [] = w := rfl
@[simp] theorem CampaignWorld.run_cons (cfg : Config) (w : CampaignWorld) (e : CampaignEvent)
    (es : List CampaignEvent) : w.run cfg (e :: es) = (w.step cfg e).run cfg es := rfl

/-- A property of every element survives replacing one by an element that has it. -/
theorem forall_mem_set {α : Type} {p : α → Prop} {l : List α} {i : Nat} {b : α}
    (hl : ∀ x ∈ l, p x) (hb : p b) : ∀ x ∈ l.set i b, p x := fun x hx =>
  (List.mem_or_eq_of_mem_set hx).elim (hl x) fun he => he ▸ hb

/-- The campaign worlds a run reaches from a stored campaign with no message yet. -/
inductive CampaignWorld.Reachable (cfg : Config) : CampaignWorld → Prop
  | init (row : CampaignModel) (nextId : Nat) :
      CampaignWorld.Reachable cfg (CampaignWorld.init ⟨row, [], [], nextId⟩)
  | step {w : CampaignWorld} (e : CampaignEvent) :
      CampaignWorld.Reachable cfg w → CampaignWorld.Reachable cfg (w.step cfg e)

theorem CampaignWorld.Reachable.run {cfg : Config} {w : CampaignWorld}
    (hw : CampaignWorld.Reachable cfg w) :
    ∀ es, CampaignWorld.Reachable cfg (w.run cfg es)
  | [] => hw
  | e :: es => (hw.step e).run es

/-! ## The campaign the runs start from -/

/-- The row of campaign 7 as `Campaign.create` builds it and `SQLAlchemyCampaignRepository.save`
inserts it: DRAFT, no recipient, no `scheduled_for`, no stored event. -/
def createdRow : CampaignModel :=
  CampaignRepo.toModel (Campaign.init 7 3 "Sale" .promotional 5 .draft .medium none 0 0)

/-- `add_audience(7, 1, two phones)`, then `activate_campaign(7)`, each in its own cycle. -/
def activateCreated : List CampaignEvent :=
  [.serviceLoad, .serviceFinish 0 (.addAudience 1 2) 5, .serviceLoad, .serviceFinish 1 .activate 6]

end RcsMessaging

import RcsMessaging.Persistence.EventRepo
import RcsMessaging.Pipeline.Orchestration

/-!
# `Pipeline.EventLog` — the campaign's event log over every interleaving

Each status transition of `Campaign` appends a domain event to an in-memory buffer. A
`CampaignService` operation drains it after its save (`_publish_events`: `collect_events()`, then
`save_event` per event) inside the same unit of work, so the events commit with the transition,
and a raising `save_event` rolls both back. `add_audience` adds no event and does not drain.

Two kinds of commit change the status with no event. A save re-reads the committed row and writes
the cycle's copy of the status over it, so a stale `add_audience` cycle writes back the DRAFT it
loaded. And the orchestrator drains nothing: its final save writes the ACTIVE of its copy, and its
activation checkpoint (unreachable from a stored campaign: a SCHEDULED one has `scheduled_for`
set, and the delivery raises) would commit `activate()` without `campaign.activated`.

`CampaignLog` is `Pipeline.CampaignWorld` with the committed rows of the `events` table. A step is
the world's step, except that a service cycle whose `save_event` or queue call raises closes
without writing.
-/

namespace RcsMessaging

open CampaignRepo CampaignOrchestrator EventRepo

/-- `_publish_events(campaign)` after an operation's save, on the rows the unit of work sees:
one `save_event` per collected event. `add_audience` does not call it. -/
def CampaignOp.publishEvents (op : CampaignOp) (visible : List EventModel) (c : Campaign) :
    Except Exn (List EventModel) :=
  match op with
  | .addAudience _ _ => .ok []
  | _ => saveEvents visible (c.events.map fun e => (e.eventType, e.aggregateId, "campaign"))

/-- The campaign side with the committed rows of the `events` table. -/
structure CampaignLog where
  world : CampaignWorld
  events : List EventModel
  deriving DecidableEq, Repr

/-- One step: the world's, with the events a service cycle saves before its commit. -/
def CampaignLog.step (cfg : Config) (l : CampaignLog) : CampaignEvent → CampaignLog
  | .serviceFinish i op now =>
    match l.world.sessions[i]? with
    | some (some s) =>
      match op.run now s.campaign with
      | .ok _ c =>
        match op.publishEvents l.events c, op.queueJob now with
        | .ok rows, .ok _ => ⟨l.world.step cfg (.serviceFinish i op now), l.events ++ rows⟩
        | _, _ => ⟨{ l.world with sessions := l.world.sessions.set i none }, l.events⟩
      | .error _ _ => ⟨l.world.step cfg (.serviceFinish i op now), l.events⟩
    | _ => ⟨l.world.step cfg (.serviceFinish i op now), l.events⟩
  | e => ⟨l.world.step cfg e, l.events⟩

/-- A run of steps. -/
def CampaignLog.run (cfg : Config) (l : CampaignLog) (es : List CampaignEvent) : CampaignLog :=
  es.foldl (CampaignLog.step cfg) l

/-- The logs a run reaches from a stored campaign and its stored events. -/
inductive CampaignLog.Reachable (cfg : Config) : CampaignLog → Prop
  | init (row : CampaignModel) (nextId : Nat) (events : List EventModel) :
      CampaignLog.Reachable cfg ⟨CampaignWorld.init ⟨row, [], [], nextId⟩, events⟩
  | step {l : CampaignLog} (e : CampaignEvent) :
      CampaignLog.Reachable cfg l → CampaignLog.Reachable cfg (l.step cfg e)

theorem CampaignLog.Reachable.run {cfg : Config} {l : CampaignLog}
    (hl : CampaignLog.Reachable cfg l) : ∀ es, CampaignLog.Reachable cfg (l.run cfg es)
  | [] => hl
  | e :: es => (hl.step e).run es

/-! ## What a step does to the log -/

/-- A step of the log is a step of the world, or a service cycle that closes without writing. -/
theorem CampaignLog.step_world (cfg : Config) (l : CampaignLog) (e : CampaignEvent) :
    (l.step cfg e).world = l.world.step cfg e ∨
      ∃ i op now, e = .serviceFinish i op now ∧
        (l.step cfg e).world = { l.world with sessions := l.world.sessions.set i none } := by
  cases e with
  | serviceFinish i op now =>
    simp only [CampaignLog.step]
    split
    · split
      · split
        · exact .inl rfl
        · exact .inr ⟨i, op, now, rfl, rfl⟩
      · exact .inl rfl
    · exact .inl rfl
  | _ => exact .inl rfl

/-- The world of every reachable log keeps the invariant of `Pipeline.Orchestration`. -/
theorem CampaignLog.Reachable.inv {cfg : Config} {l : CampaignLog}
    (hl : CampaignLog.Reachable cfg l) : l.world.Inv := by
  induction hl with
  | init row nextId => exact CampaignWorld.inv_init row nextId
  | @step l e _ ih =>
    rcases CampaignLog.step_world cfg l e with h | ⟨i, op, now, -, h⟩ <;> rw [h]
    · exact ih.step e
    · exact ih.of_eq rfl rfl rfl rfl

/-- Every transition of an operation other than `add_audience` appends one event. -/
theorem CampaignOp.run_events {op : CampaignOp} (hop : ∀ a n, op ≠ .addAudience a n) {now : Nat}
    {c c' : Campaign} {u : Unit} (h : op.run now c = .ok u c') : ∃ ev, c'.events = c.events ++ [ev] := by
  cases op with
  | addAudience a n => exact absurd rfl (hop a n)
  | pause | resume =>
    simp only [CampaignOp.run, Campaign.pause, Campaign.resume, Campaign.ensureThenMove] at h
    split at h <;> cases h
    exact ⟨_, rfl⟩
  | schedule t =>
    simp only [CampaignOp.run, Campaign.schedule] at h
    split at h
    · cases h
    · split at h <;> cases h
      exact ⟨_, rfl⟩
  | activate =>
    simp only [CampaignOp.run, Campaign.activate] at h
    split at h
    · cases h
    · split at h <;> cases h
      exact ⟨_, rfl⟩
  | complete | cancel _ =>
    simp only [CampaignOp.run, Campaign.complete, Campaign.cancel] at h
    split at h <;> cases h
    exact ⟨_, rfl⟩

theorem saveEvents_length :
    ∀ {visible : List EventModel} {calls : List (String × Nat × String)} {rows : List EventModel},
      saveEvents visible calls = .ok rows → rows.length = calls.length
  | _, [], _, h => by cases h; rfl
  | visible, (t, a, k) :: calls, rows, h => by
    simp only [saveEvents, bind, Except.bind] at h
    split at h
    · cases h
    · split at h
      · cases h
      · rename_i hrest; cases h
        simp [saveEvents_length hrest]

/-- A service cycle that commits `add_audience` writes DRAFT: the domain call succeeds only on a
DRAFT copy and keeps its status. -/
theorem Session.finish_addAudience_status {s : Session} {a n now : Nat} {db : CampaignModel}
    (h : s.finish (.addAudience a n) db now ≠ db) : (s.finish (.addAudience a n) db now).status = .draft := by
  unfold Session.finish at h ⊢
  cases hc : (CampaignOp.addAudience a n).run now s.campaign with
  | error e c => rw [hc] at h; exact absurd rfl h
  | ok u c => exact (status_save _ _ _).trans (status_addAudience hc)

/-- **Where the log misses a status change.** A step that changes the committed status either
appends events in the same commit, or appends none and is one of two stale writes: an
`add_audience` cycle writing back the DRAFT it loaded, or an orchestrator step writing the ACTIVE of
its copy. -/
theorem unlogged_status_changes_are_stale_writes {cfg : Config} {l : CampaignLog}
    (hl : CampaignLog.Reachable cfg l) (e : CampaignEvent)
    (h : (l.step cfg e).world.store.row.status ≠ l.world.store.row.status) :
    (∃ rows, rows ≠ [] ∧ (l.step cfg e).events = l.events ++ rows) ∨
    (l.step cfg e).events = l.events ∧
      ((∃ i a n now, e = .serviceFinish i (.addAudience a n) now ∧
          (l.step cfg e).world.store.row.status = .draft) ∨
        ∃ i now, e = .orchestratorStep i now ∧
          (l.step cfg e).world.store.row.status = .active) := by
  cases e with
  | increment su => exact absurd (status_updateStats _ su) h
  | serviceLoad => exact absurd rfl h
  | orchestratorStart now => exact absurd rfl h
  | orchestratorStop i =>
    refine absurd ?_ h
    simp only [CampaignLog.step, CampaignWorld.step]
    split <;> rfl
  | orchestratorStep i now =>
    refine .inr ⟨rfl, .inr ⟨i, now, rfl, ?_⟩⟩
    match hd : l.world.deliveries[i]? with
    | some d =>
      simp only [CampaignLog.step, CampaignWorld.step, hd] at h ⊢
      exact (((hl.inv.deliveries d (List.getElem?_mem hd)).status_step _ now).resolve_left h).2
    | none =>
      simp only [CampaignLog.step, CampaignWorld.step, hd] at h
      exact absurd rfl h
  | serviceFinish i op now =>
    match hs : l.world.sessions[i]? with
    | some (some s) =>
      match hc : op.run now s.campaign with
      | .ok _ c =>
        match hrows : op.publishEvents l.events c, hq : op.queueJob now with
        | .ok rows, .ok _ =>
          simp only [CampaignLog.step, hs, hc, hrows, hq] at h ⊢
          cases op with
          | addAudience a n =>
            have hfin : s.finish (.addAudience a n) l.world.store.row now ≠ l.world.store.row :=
              fun he => h (by simp only [CampaignWorld.step, hs, he])
            refine .inr ⟨?_, .inl ⟨i, a, n, now, rfl, ?_⟩⟩
            · cases hrows; exact List.append_nil _
            · simp only [CampaignWorld.step, hs]
              exact Session.finish_addAudience_status hfin
          | _ =>
            obtain ⟨ev, hev⟩ := CampaignOp.run_events (by intro a n hn; cases hn) hc
            have := saveEvents_length hrows
            simp only [hev, List.map_append, List.length_append] at this
            exact .inl ⟨rows, by rintro rfl; simp at this, rfl⟩
        | .ok _, .error _ | .error _, _ =>
          simp only [CampaignLog.step, hs, hc, hrows, hq] at h; exact absurd rfl h
      | .error _ _ =>
        simp only [CampaignLog.step, hs, hc, CampaignWorld.step, Session.finish] at h
        exact absurd rfl h
    | none | some none =>
      simp only [CampaignLog.step, hs, CampaignWorld.step] at h
      exact absurd rfl h

/-- Campaign 7 as `create_campaign` commits it (DRAFT, `campaign.created` at version 1) gets two
recipients. Then two cycles load it: `add_audience(7, 2, three phones)` and `activate_campaign(7)`.
The activation commits ACTIVE with `campaign.activated` at version 2; the `add_audience` cycle then
commits its DRAFT copy over it, with no event. -/
theorem unlogged_status_changes_are_stale_writes_add_audience :
    let l := (⟨CampaignWorld.init ⟨createdRow, [], [], 100⟩,
        [⟨"campaign.created", 7, "campaign", 1⟩]⟩ : CampaignLog).run {}
      [.serviceLoad, .serviceFinish 0 (.addAudience 1 2) 5, .serviceLoad, .serviceLoad,
        .serviceFinish 2 .activate 6]
    let e := CampaignEvent.serviceFinish 1 (.addAudience 2 3) 7
    CampaignLog.Reachable {} l ∧ l.world.store.row.status = .active ∧
      (l.step {} e).world.store.row.status = .draft ∧
      (l.step {} e).events.map (·.eventType) = ["campaign.created", "campaign.activated"] ∧
      ((∃ rows, rows ≠ [] ∧ (l.step {} e).events = l.events ++ rows) ∨
        (l.step {} e).events = l.events ∧
          ((∃ i a n now, e = .serviceFinish i (.addAudience a n) now ∧
              (l.step {} e).world.store.row.status = .draft) ∨
            ∃ i now, e = .orchestratorStep i now ∧
              (l.step {} e).world.store.row.status = .active)) := by
  intro l e
  have hl : CampaignLog.Reachable {} l := (CampaignLog.Reachable.init _ _ _).run _
  exact ⟨hl, by decide, by decide, by decide,
    unlogged_status_changes_are_stale_writes hl e (by decide)⟩

end RcsMessaging

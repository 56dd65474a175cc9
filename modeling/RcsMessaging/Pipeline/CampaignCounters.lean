import Mathlib.Algebra.Order.Ring.Nat
import RcsMessaging.Pipeline.CampaignWorld

/-!
# `Pipeline.CampaignCounters` — what a save does to the counters the workers bump

`update_stats` adds to the counters in one atomic UPDATE. A load-modify-save cycle reads the
counters with the campaign, no domain method changes them, and `_update_from_domain` assigns them
back; its save re-reads the committed row, so every one of them differs from the copy once a
worker has bumped it, and the flush writes the copy back. A cycle that spans an `update_stats`
undoes it.

The proof follows one cycle through a run: the `n`-th delivery keeps the counters it loaded
(`Delivery.copy_step`), and so does the `n`-th service session until it finishes.
-/

namespace RcsMessaging

open CampaignRepo CampaignOrchestrator

/-! ## Rows -/

/-! ## No domain call changes a counter -/

theorem stats_activate {now : Nat} {c c' : Campaign} {u : Unit}
    (h : Campaign.activate now c = .ok u c') : c'.stats = c.stats := by
  unfold Campaign.activate at h
  split at h
  · cases h
  · split at h <;> cases h; rfl

theorem counters_run {op : CampaignOp} {now : Nat} {c c' : Campaign} {u : Unit}
    (h : op.run now c = .ok u c') : c'.stats.counters = c.stats.counters := by
  cases op with
  | activate => rw [stats_activate h]
  | addAudience a n =>
    simp only [CampaignOp.run, Campaign.addAudience] at h
    split at h
    · cases h
    · split at h <;> cases h <;> rfl
  | schedule t =>
    simp only [CampaignOp.run, Campaign.schedule] at h
    split at h
    · cases h
    · split at h <;> cases h; rfl
  | pause | resume =>
    simp only [CampaignOp.run, Campaign.pause, Campaign.resume, Campaign.ensureThenMove] at h
    split at h <;> cases h; rfl
  | cancel reason =>
    simp only [CampaignOp.run, Campaign.cancel] at h
    split at h <;> cases h; rfl
  | complete =>
    simp only [CampaignOp.run, Campaign.complete] at h
    split at h <;> cases h; rfl

/-! ## A save writes the cycle's counters -/

@[simp] theorem counters_save (s : Session) (db : CampaignModel) (now : Nat) :
    (s.save db now).counters = s.campaign.stats.counters := by
  rw [Session.save, CampaignRepo.save_eq]; rfl

/-- A service cycle rolls back, or writes the counters it loaded. -/
theorem Session.finish_counters (s : Session) (op : CampaignOp) (db : CampaignModel) (now : Nat) :
    s.finish op db now = db ∨ (s.finish op db now).counters = s.campaign.stats.counters := by
  unfold Session.finish
  split
  · rename_i c _ hrun _
    exact .inr ((counters_save _ _ _).trans (counters_run hrun))
  · exact .inl rfl

/-! ## One delivery keeps its copy -/

theorem Delivery.copy_start (cfg : Config) (row : CampaignModel) (now : Nat) :
    (Delivery.start cfg row now).session.campaign.stats.counters = row.counters := by
  dsimp only [Delivery.start]
  split <;> rfl

theorem Delivery.copy_step (d : Delivery) (st : Store) (now : Nat) :
    (d.step st now).1.session.campaign.stats.counters = d.session.campaign.stats.counters := by
  rcases Delivery.step_cases d st now with
    ⟨-, -, hs⟩ | ⟨-, c, hc, hs⟩ | ⟨-, m, ms, -, hs⟩ | ⟨-, -, b, bs, -, hs⟩ | ⟨-, -, -, hs⟩ |
      ⟨-, hs⟩ | ⟨-, hs⟩ <;> rw [hs]
  all_goals first | rfl | exact congrArg CampaignStats.counters (stats_activate hc)

/-- The final save writes the counters of the delivery's copy. -/
theorem Delivery.counters_finishing {d : Delivery} (hp : d.phase = .finishing) (st : Store)
    (now : Nat) : (d.step st now).2.row.counters = d.session.campaign.stats.counters := by
  simp only [Delivery.step, hp]
  exact counters_save _ _ _

/-! ## Following one cycle through a run -/

section Slot

variable {cfg : Config} {n : Nat} {c : Counters}

/-- The `n`-th delivery exists and its copy holds the counters `c`. -/
def CampaignWorld.CopyAt (n : Nat) (c : Counters) (w : CampaignWorld) : Prop :=
  ∃ d, w.deliveries[n]? = some d ∧ d.session.campaign.stats.counters = c

theorem CampaignWorld.copyAt_step {w : CampaignWorld} (h : w.CopyAt n c) (e : CampaignEvent) :
    (w.step cfg e).CopyAt n c := by
  obtain ⟨d, hd, hc⟩ := h
  have hn := (List.getElem?_eq_some_iff.1 hd).1
  cases e with
  | orchestratorStart now =>
    exact ⟨d, (List.getElem?_append_left hn).trans hd, hc⟩
  | orchestratorStep i now =>
    simp only [CampaignWorld.step]
    split
    · rename_i d' hd'
      by_cases hi : i = n
      · subst hi
        cases hd'.symm.trans hd
        exact ⟨_, List.getElem?_set_self hn, (Delivery.copy_step d _ now).trans hc⟩
      · exact ⟨d, (List.getElem?_set_ne hi).trans hd, hc⟩
    · exact ⟨d, hd, hc⟩
  | orchestratorStop i =>
    simp only [CampaignWorld.step]
    split
    · rename_i d' hd'
      by_cases hi : i = n
      · subst hi
        cases hd'.symm.trans hd
        exact ⟨_, List.getElem?_set_self hn, hc⟩
      · exact ⟨d, (List.getElem?_set_ne hi).trans hd, hc⟩
    · exact ⟨d, hd, hc⟩
  | increment _ | serviceLoad => exact ⟨d, hd, hc⟩
  | serviceFinish i op now =>
    simp only [CampaignWorld.step]
    split <;> exact ⟨d, hd, hc⟩

theorem CampaignWorld.copyAt_run {w : CampaignWorld} (h : w.CopyAt n c) :
    ∀ es, (w.run cfg es).CopyAt n c
  | [] => h
  | e :: es => copyAt_run (copyAt_step h e) es

/-- The `n`-th service session is still the one it loaded, or has finished. -/
def CampaignWorld.SessionAt (n : Nat) (s : Session) (w : CampaignWorld) : Prop :=
  w.sessions[n]? = some (some s) ∨ w.sessions[n]? = some none

theorem CampaignWorld.sessionAt_step {w : CampaignWorld} {s : Session} (h : w.SessionAt n s)
    (e : CampaignEvent) : (w.step cfg e).SessionAt n s := by
  have hn : n < w.sessions.length := by
    rcases h with h | h <;> exact (List.getElem?_eq_some_iff.1 h).1
  cases e with
  | serviceLoad =>
    simp only [CampaignWorld.SessionAt, CampaignWorld.step, List.getElem?_append_left hn]
    exact h
  | serviceFinish i op now =>
    simp only [CampaignWorld.step]
    split
    · by_cases hi : i = n
      · subst hi
        exact .inr (List.getElem?_set_self hn)
      · simp only [CampaignWorld.SessionAt, List.getElem?_set_ne hi]
        exact h
    · exact h
  | increment _ | orchestratorStart _ => exact h
  | orchestratorStep i now | orchestratorStop i =>
    simp only [CampaignWorld.step]
    split <;> exact h

theorem CampaignWorld.sessionAt_run {w : CampaignWorld} {s : Session} (h : w.SessionAt n s) :
    ∀ es, (w.run cfg es).SessionAt n s
  | [] => h
  | e :: es => sessionAt_run (sessionAt_step h e) es

end Slot

/-! ## Every cycle that saves undoes the increments it spans -/

/-- **A cycle's save writes back the counters it loaded.** Start a delivery of the orchestrator
job, or open a service cycle, on any world; run any steps — other cycles, other deliveries,
workers' `update_stats`. The delivery's final save sets the counters to their values at its load,
and the service cycle either rolls back or does the same: every increment committed in between
is lost. -/
theorem cycle_save_drops_increments (cfg : Config) (w : CampaignWorld) (es : List CampaignEvent)
    (now now' : Nat) (op : CampaignOp) :
    (let w' := (w.step cfg (.orchestratorStart now)).run cfg es
      ∀ d, w'.deliveries[w.deliveries.length]? = some d → d.phase = .finishing →
        (w'.step cfg (.orchestratorStep w.deliveries.length now')).store.row.counters =
          w.store.row.counters) ∧
    (let w' := (w.step cfg .serviceLoad).run cfg es
      ∀ s, w'.sessions[w.sessions.length]? = some (some s) →
        (w'.step cfg (.serviceFinish w.sessions.length op now')).store.row = w'.store.row ∨
        (w'.step cfg (.serviceFinish w.sessions.length op now')).store.row.counters =
          w.store.row.counters) := by
  constructor
  · intro w' d hd hp
    have h0 : (w.step cfg (.orchestratorStart now)).CopyAt w.deliveries.length w.store.row.counters :=
      ⟨_, List.getElem?_concat_length .., Delivery.copy_start cfg _ now⟩
    obtain ⟨d', hd', hc⟩ : w'.CopyAt w.deliveries.length w.store.row.counters :=
      CampaignWorld.copyAt_run h0 es
    cases hd.symm.trans hd'
    simp only [CampaignWorld.step, hd]
    exact (Delivery.counters_finishing hp _ now').trans hc
  · intro w' s hs
    have h0 : (w.step cfg .serviceLoad).SessionAt w.sessions.length (Session.load w.store.row) :=
      .inl (List.getElem?_concat_length ..)
    have h1 : w'.SessionAt w.sessions.length (Session.load w.store.row) :=
      CampaignWorld.sessionAt_run h0 es
    rcases h1 with h | h <;> rw [h] at hs <;> cases hs
    simp only [CampaignWorld.step, h]
    exact Session.finish_counters _ op _ now'

/-- The dispatcher's `update_stats(messages_sent=1)` commits while the delivery that
`activate_campaign` enqueued is past its batch loop; the delivery's final save sets
`messages_sent` back to 0. -/
theorem cycle_save_drops_increments_dispatch :
    let w := (CampaignWorld.init ⟨createdRow, [], [], 100⟩).run {} activateCreated
    let w' := (w.step {} (.orchestratorStart 10)).run {}
      [.orchestratorStep 0 10, .orchestratorStep 0 10, .orchestratorStep 0 10,
        .orchestratorStep 0 10, .increment [("messages_sent", 1)]]
    w'.store.row.counters.get "messages_sent" = 1 ∧ w.store.row.counters.get "messages_sent" = 0 ∧
      ∃ d, w'.deliveries[0]? = some d ∧ d.phase = .finishing ∧
        (w'.step {} (.orchestratorStep 0 11)).store.row.counters = w.store.row.counters := by
  intro w w'
  have hd : w'.deliveries[0]? = some ((w'.deliveries[0]?).get (by decide)) :=
    (Option.some_get _).symm
  have hp : ((w'.deliveries[0]?).get (by decide)).phase = .finishing := by decide
  exact ⟨by decide, by decide, _, hd, hp,
    (cycle_save_drops_increments {} w _ 10 11 .pause).1 _ hd hp⟩

end RcsMessaging

import Mathlib.Algebra.Order.Ring.Nat
import RcsMessaging.Pipeline.CampaignWorld

/-!
# `Pipeline.Audiences` — `add_audience` cycles one after the other

`Campaign.add_audience` adds an audience id once: a second call with an id already in
`audience_ids` changes nothing. But `audience_ids` lives only in memory. The `campaigns` table has
no column for it, `_to_model` and `_update_from_domain` do not write it, and `_to_domain` starts
from an empty list. Each `CampaignService.add_audience` loads the campaign afresh, so its
membership test sees no id at all and every call adds its recipients again.

`CampaignService.runAlone` is a service operation with no other cycle between its load and its
commit; `runAlone_eq_step` shows it is the `serviceLoad`, `serviceFinish` pair of
`Pipeline.CampaignWorld`.
-/

namespace RcsMessaging

open CampaignRepo CampaignOrchestrator

/-- A `CampaignService` operation with nothing interleaved: `get_by_id` on the committed row, the
domain call, `save` and commit. -/
def CampaignService.runAlone (row : CampaignModel) (op : CampaignOp) (now : Nat) : CampaignModel :=
  (Session.load row).finish op row now

/-- A load followed at once by the finish of the same cycle is `runAlone`. -/
theorem runAlone_eq_step (cfg : Config) (w : CampaignWorld) (op : CampaignOp) (now : Nat) :
    (((w.step cfg .serviceLoad).step cfg (.serviceFinish w.sessions.length op now)).store.row) =
      CampaignService.runAlone w.store.row op now := by
  simp [CampaignWorld.step, CampaignService.runAlone]

/-- One `add_audience` cycle on a DRAFT row adds the count and stamps `updated_at`, whatever the
audience id: the loaded campaign has no audience ids. -/
theorem runAlone_addAudience {row : CampaignModel} (h : row.status = .draft)
    (audienceId count now : Nat) :
    CampaignService.runAlone row (.addAudience audienceId count) now =
      { row with recipientCount := row.recipientCount + count, updatedAt := now } := by
  simp [CampaignService.runAlone, Session.load, Session.finish, Session.save, CampaignOp.run,
    CampaignOp.queueJob, Campaign.addAudience, toDomain, Campaign.init, h, save_eq,
    updateFromDomain, Option.map_map, Function.comp_def]

/-- `add_audience` calls `(audience_id, len(recipient_phones), now)` one after the other. -/
def CampaignService.addAudiences (row : CampaignModel) (calls : List (Nat × Nat × Nat)) :
    CampaignModel :=
  calls.foldl (fun r c => CampaignService.runAlone r (.addAudience c.1 c.2.1) c.2.2) row

/-- Every sequence of `add_audience` calls on a DRAFT campaign, each in its own cycle: the
campaign stays DRAFT, its `recipient_count` grows by the count of every call, repeated audience
ids included, and the campaign loaded afterwards has no audience ids. -/
theorem add_audience_counts_every_call {row : CampaignModel} (h : row.status = .draft)
    (calls : List (Nat × Nat × Nat)) :
    (CampaignService.addAudiences row calls).status = .draft ∧
    (CampaignService.addAudiences row calls).recipientCount =
      row.recipientCount + (calls.map (·.2.1)).sum ∧
    (toDomain (CampaignService.addAudiences row calls)).audienceIds = [] := by
  induction calls generalizing row with
  | nil => exact ⟨h, rfl, rfl⟩
  | cons c cs ih =>
    have step := runAlone_addAudience h c.1 c.2.1 c.2.2
    obtain ⟨hs, hn, ha⟩ := @ih
      { row with recipientCount := row.recipientCount + c.2.1, updatedAt := c.2.2 } h
    simp only [CampaignService.addAudiences, List.foldl_cons, step] at hs hn ha ⊢
    refine ⟨hs, ?_, ha⟩
    rw [hn, List.map_cons, List.sum_cons, Nat.add_assoc]

/-- Audience 1 with five recipients added twice, in two cycles: the persisted `recipient_count`
is ten, and the campaign loaded afterwards lists no audience. -/
theorem add_audience_counts_every_call_two :
    createdRow.status = .draft ∧
    ((CampaignService.addAudiences createdRow [(1, 5, 10), (1, 5, 20)]).status = .draft ∧
      (CampaignService.addAudiences createdRow [(1, 5, 10), (1, 5, 20)]).recipientCount =
        createdRow.recipientCount + ([(1, 5, 10), (1, 5, 20)].map (·.2.1)).sum ∧
      (toDomain (CampaignService.addAudiences createdRow [(1, 5, 10), (1, 5, 20)])).audienceIds =
        []) ∧
    createdRow.recipientCount = 0 :=
  ⟨rfl, add_audience_counts_every_call rfl _, rfl⟩

end RcsMessaging

import RcsMessaging.Services.CampaignService

/-!
# `Services.CampaignLifecycle` — the campaign state machine over every sequence of operations

The seven operations of `CampaignService` call one domain method each (`CampaignOp.run`). Here
they run one after another on one `Campaign` object, from `Campaign.create`, each on what the
previous one left; a raising operation is caught by its caller and the next one runs on the
same object.

`CampaignOp.run_error` and `CampaignOp.run_ok` say once what one operation can do; everything
else is derived from them:

* a raising operation leaves the whole aggregate as it was, since every guard comes before the
  first assignment;
* a returning operation other than `add_audience` changes the status and appends exactly one
  event; `add_audience` keeps both;
* no operation returns on a COMPLETED or CANCELLED campaign;
* the recipient count moves only in DRAFT, and `activate()` demands a positive one, so every
  ACTIVE, PAUSED or COMPLETED campaign has recipients (`Campaign.counted_runOps`).
-/

namespace RcsMessaging

/-- The campaign after an operation at `now`, whether it returned or raised. -/
def CampaignOp.apply (c : Campaign) (op : CampaignOp × Nat) : Campaign :=
  resultState (op.1.run op.2 c)

/-- The campaign after a sequence of operations. -/
def Campaign.runOps (c : Campaign) (ops : List (CampaignOp × Nat)) : Campaign :=
  ops.foldl CampaignOp.apply c

/-- The statuses only `activate()` leads into: ACTIVE, PAUSED, COMPLETED. -/
def CampaignStatus.Activated (s : CampaignStatus) : Prop :=
  s = .active ∨ s = .paused ∨ s = .completed

/-- COMPLETED and CANCELLED. -/
def CampaignStatus.Terminal (s : CampaignStatus) : Prop := s = .completed ∨ s = .cancelled

/-! ## What one operation can do -/

@[simp] theorem Campaign.addEvent_status (c : Campaign) (t : String) :
    (c.addEvent t).status = c.status := rfl

@[simp] theorem Campaign.addEvent_recipientCount (c : Campaign) (t : String) :
    (c.addEvent t).recipientCount = c.recipientCount := rfl

namespace CampaignOp

variable {op : CampaignOp} {now : Nat} {c c' : Campaign}

/-- A raising operation changes nothing. -/
theorem run_error {e : Exn} (h : op.run now c = .error e c') : c' = c := by
  cases op with
  | addAudience a n =>
    simp only [run, Campaign.addAudience] at h
    split at h
    · cases h; rfl
    · split at h <;> cases h
  | pause | resume =>
    simp only [run, Campaign.pause, Campaign.resume, Campaign.ensureThenMove] at h
    split at h <;> cases h; rfl
  | schedule t | activate =>
    simp only [run, Campaign.schedule, Campaign.activate] at h
    split at h
    · cases h; rfl
    · split at h <;> cases h <;> rfl
  | complete | cancel _ =>
    simp only [run, Campaign.complete, Campaign.cancel] at h
    split at h <;> cases h; rfl

/-- A returning operation: `add_audience` on a DRAFT campaign keeps the status and the events;
any other keeps the recipient count, appends one event and changes a status that is not
terminal, entering an activated status only from one or with recipients. -/
theorem run_ok {u : Unit} (h : op.run now c = .ok u c') :
    (c.status = .draft ∧ c'.status = .draft ∧ c'.events = c.events) ∨
    (c'.recipientCount = c.recipientCount ∧ (∃ ev, c'.events = c.events ++ [ev]) ∧
      c'.status ≠ c.status ∧ ¬ c.status.Terminal ∧
      (c'.status.Activated → c.status.Activated ∨ 0 < c.recipientCount)) := by
  cases op with
  | addAudience a n =>
    simp only [run, Campaign.addAudience] at h
    split at h
    · cases h
    · rename_i hd; rw [not_not] at hd
      split at h <;> cases h
      · exact .inl ⟨hd, hd, rfl⟩
      · exact .inl ⟨hd, hd, rfl⟩
  | pause | resume =>
    simp only [run, Campaign.pause, Campaign.resume, Campaign.ensureThenMove] at h
    split at h <;> cases h
    rename_i hs
    refine .inr ⟨rfl, ⟨_, rfl⟩, ?_, ?_, fun _ => .inl ?_⟩ <;>
      simp [hs, CampaignStatus.Terminal, CampaignStatus.Activated]
  | schedule t =>
    simp only [run, Campaign.schedule] at h
    split at h
    · cases h
    · rename_i hs; rw [not_not] at hs
      split at h <;> cases h
      refine .inr ⟨rfl, ⟨_, rfl⟩, ?_, ?_, fun ha => ?_⟩ <;>
        simp_all [CampaignStatus.Terminal, CampaignStatus.Activated]
  | activate =>
    simp only [run, Campaign.activate] at h
    split at h
    · cases h
    · rename_i hs
      split at h <;> cases h
      rename_i hn
      refine .inr ⟨rfl, ⟨_, rfl⟩, ?_, ?_, fun _ => .inr (Nat.pos_of_ne_zero hn)⟩ <;>
        simp only [not_and_or, not_not] at hs <;>
        rcases hs with hs | hs <;> simp [hs, CampaignStatus.Terminal]
  | complete =>
    simp only [run, Campaign.complete] at h
    split at h <;> cases h
    rename_i hs; simp only [not_and_or, not_not] at hs
    refine .inr ⟨rfl, ⟨_, rfl⟩, ?_, ?_, fun _ => .inl ?_⟩ <;>
      rcases hs with hs | hs <;> simp [hs, CampaignStatus.Terminal, CampaignStatus.Activated]
  | cancel reason =>
    simp only [run, Campaign.cancel] at h
    split at h <;> cases h
    rename_i hs
    refine .inr ⟨rfl, ⟨_, rfl⟩, ?_, hs, fun ha => ?_⟩
    · exact fun he => hs (.inr he.symm)
    · simp [CampaignStatus.Activated] at ha

end CampaignOp

/-! ## Over a whole sequence -/

namespace Campaign

/-- Every activated campaign has recipients. -/
def Counted (c : Campaign) : Prop := c.status.Activated → 0 < c.recipientCount

theorem counted_apply {c : Campaign} (h : c.Counted) (op : CampaignOp × Nat) :
    (CampaignOp.apply c op).Counted := by
  unfold CampaignOp.apply
  cases hr : op.1.run op.2 c with
  | error e c' => show c'.Counted; rw [CampaignOp.run_error hr]; exact h
  | ok u c' =>
    show c'.Counted
    intro ha
    rcases CampaignOp.run_ok hr with ⟨-, hd, -⟩ | ⟨hrc, -, -, -, hact⟩
    · rw [hd] at ha; simp [CampaignStatus.Activated] at ha
    · rw [hrc]; exact (hact ha).elim h fun hp => hp

theorem counted_runOps : ∀ {c : Campaign} (ops : List (CampaignOp × Nat)), c.Counted →
    (c.runOps ops).Counted
  | _, [], h => h
  | _, op :: ops, h => counted_runOps ops (counted_apply h op)

theorem terminal_apply {c : Campaign} (h : c.status.Terminal) (op : CampaignOp × Nat) :
    (CampaignOp.apply c op).status = c.status := by
  unfold CampaignOp.apply
  cases hr : op.1.run op.2 c with
  | error e c' => rw [resultState, CampaignOp.run_error hr]
  | ok u c' =>
    rcases CampaignOp.run_ok hr with ⟨hd, -⟩ | ⟨-, -, -, ht, -⟩
    · rw [hd] at h; simp [CampaignStatus.Terminal] at h
    · exact absurd h ht

/-- `Campaign.create` returns a DRAFT campaign. -/
theorem create_draft {id tenantId templateId now : Nat} {name : String}
    {campaignType : CampaignType} {priority : Priority} {c : Campaign}
    (hc : Campaign.create id name tenantId templateId campaignType priority now = .ok c) :
    c.status = .draft := by
  unfold Campaign.create at hc
  split at hc
  · cases hc
  · cases hc; rfl

/-- What holds of a campaign `c` and the operation `op` at `t` that comes next. -/
structure LifecycleLaws (c : Campaign) (op : CampaignOp) (t : Nat) : Prop where
  /-- A raising operation leaves the aggregate as it was. -/
  raises_unchanged : ∀ e c', op.run t c = .error e c' → c' = c
  /-- A returning operation that changes the status appends exactly one event. -/
  status_change_one_event :
    ∀ u c', op.run t c = .ok u c' → c'.status ≠ c.status → ∃ ev, c'.events = c.events ++ [ev]
  /-- COMPLETED and CANCELLED are kept. -/
  terminal_kept :
    c.status = .completed ∨ c.status = .cancelled → (resultState (op.run t c)).status = c.status
  /-- An ACTIVE, PAUSED or COMPLETED campaign has recipients. -/
  activated_counted :
    c.status = .active ∨ c.status = .paused ∨ c.status = .completed → 0 < c.recipientCount

/-- **The campaign state machine.** After any sequence of operations from a DRAFT campaign,
such as every one `Campaign.create` returns (`create_draft`), the next operation either raises
and changes nothing, or returns; a status change appends one event; COMPLETED and CANCELLED are
never left; and an ACTIVE, PAUSED or COMPLETED campaign has recipients. -/
theorem lifecycle_laws {c₀ : Campaign} (h₀ : c₀.status = .draft)
    (ops : List (CampaignOp × Nat)) (op : CampaignOp) (t : Nat) :
    (c₀.runOps ops).LifecycleLaws op t where
  raises_unchanged _ _ h := CampaignOp.run_error h
  status_change_one_event _ _ h hs := by
    rcases CampaignOp.run_ok h with ⟨hd, hd', -⟩ | ⟨-, hev, -⟩
    · exact absurd (hd'.trans hd.symm) hs
    · exact hev
  terminal_kept h := terminal_apply h (op, t)
  activated_counted :=
    counted_runOps ops fun ha => by simp [CampaignStatus.Activated, h₀] at ha

/-- The laws on a campaign that got an audience of five and was activated, before a pause. -/
theorem lifecycle_laws_sale :
    ((Campaign.init 1 2 "Sale" .promotional 3 .draft .medium none 0 0).addEvent
        "campaign.created").status = .draft ∧
      (((Campaign.init 1 2 "Sale" .promotional 3 .draft .medium none 0 0).addEvent
          "campaign.created").runOps [(.addAudience 7 5, 1), (.activate, 2)]).LifecycleLaws
        .pause 3 :=
  ⟨rfl, lifecycle_laws rfl _ _ _⟩

end Campaign

end RcsMessaging

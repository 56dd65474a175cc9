import Mathlib.Data.List.Nodup
import RcsMessaging.Workers.Orchestrator

/-!
# `Services.Consent` — the opt-in table and the pre-send consent gate

Shallow embedding of `adapters/db/repositories/opt_out_repo.py` and of the creating half of
`DeliveryService.send_message` / `send_message_batch`. The `opt_ins` table has a unique index on
`(tenant_id, phone_number)`, so `OptInTable` carries that invariant and `is_opted_out`'s
`scalar_one_or_none()` finds at most one row.

The gate compares phone strings exactly as they were given: `opt_out` stores the string it is
passed, `is_opted_out` looks up the string it is passed, and only `Message.create` normalises.
The orchestrator's `_create_messages` has no gate at all.
-/

namespace RcsMessaging

/-- Consent states (`ConsentStatus`). -/
inductive ConsentStatus
  | optedIn | optedOut | pending | expired
  deriving DecidableEq, Repr

/-- The columns of an `opt_ins` row that the repository reads and writes. -/
structure OptInRow where
  tenantId : Nat
  phoneNumber : String
  promotionalStatus : ConsentStatus
  deriving DecidableEq, Repr

/-- The key of the unique index `ix_opt_ins_tenant_phone`. -/
def OptInRow.key (r : OptInRow) : Nat × String := (r.tenantId, r.phoneNumber)

/-- The `opt_ins` table, one row per tenant and phone string. -/
structure OptInTable where
  rows : List OptInRow
  unique : (rows.map OptInRow.key).Nodup

/-- The empty table. -/
def OptInTable.empty : OptInTable := ⟨[], List.nodup_nil⟩

namespace OptOutRepo

/-- `is_opted_out(phone_number, tenant_id)`: no row is no opt-out; else the promotional status. -/
def isOptedOut (t : OptInTable) (phoneNumber : String) (tenantId : Nat) : Bool :=
  match t.rows.find? (fun r => r.key = (tenantId, phoneNumber)) with
  | none => false
  | some r => r.promotionalStatus = .optedOut

/-- Set the promotional status of the rows with a key. -/
def setStatus (k : Nat × String) (status : ConsentStatus) (rows : List OptInRow) : List OptInRow :=
  rows.map fun r => if r.key = k then { r with promotionalStatus := status } else r

/-- `setStatus` keeps every key. -/
theorem map_key_setStatus (k : Nat × String) (status : ConsentStatus) (rows : List OptInRow) :
    (setStatus k status rows).map OptInRow.key = rows.map OptInRow.key := by
  rw [setStatus, List.map_map]
  exact List.map_congr_left fun r _ => by simp only [Function.comp]; split <;> rfl

/-- The body shared by `opt_out` and `opt_in`: update the row of that exact phone string, or
insert one. -/
def upsert (t : OptInTable) (phoneNumber : String) (tenantId : Nat) (status : ConsentStatus) :
    OptInTable :=
  if h : (tenantId, phoneNumber) ∈ t.rows.map OptInRow.key then
    ⟨setStatus (tenantId, phoneNumber) status t.rows, by rw [map_key_setStatus]; exact t.unique⟩
  else
    ⟨t.rows ++ [⟨tenantId, phoneNumber, status⟩], by
      rw [List.map_append, List.nodup_append_comm]
      exact List.nodup_cons.2 ⟨h, t.unique⟩⟩

/-- The row `setStatus` makes of a row with its key carries the new status. -/
theorem status_of_mem_setStatus {k : Nat × String} {status : ConsentStatus}
    {rows : List OptInRow} {x : OptInRow} (hx : x ∈ setStatus k status rows) (hk : x.key = k) :
    x.promotionalStatus = status := by
  obtain ⟨y, -, rfl⟩ := List.mem_map.1 hx
  by_cases hy : y.key = k
  · simp [hy]
  · simp only [hy, if_false] at hk

/-- `upsert` leaves exactly its key with the status it was given. -/
theorem isOptedOut_upsert (t : OptInTable) (p : String) (tenantId : Nat) (status : ConsentStatus) :
    isOptedOut (upsert t p tenantId status) p tenantId = decide (status = .optedOut) := by
  unfold upsert
  split
  · rename_i h
    obtain ⟨r, hr, hk⟩ := List.mem_map.1 h
    cases hx : (setStatus (tenantId, p) status t.rows).find? (fun r => r.key = (tenantId, p)) with
    | none =>
      have hmem : { r with promotionalStatus := status } ∈ setStatus (tenantId, p) status t.rows :=
        List.mem_map.2 ⟨r, hr, by simp [hk]⟩
      exact absurd (List.find?_eq_none.1 hx _ hmem) (by simpa [OptInRow.key] using hk)
    | some x =>
      have hk' : x.key = (tenantId, p) :=
        of_decide_eq_true
          (List.find?_some (p := fun r : OptInRow => decide (r.key = (tenantId, p))) hx)
      simp [isOptedOut, hx, status_of_mem_setStatus (List.mem_of_find?_eq_some hx) hk']
  · rename_i h
    have hnone : t.rows.find? (fun r => r.key = (tenantId, p)) = none :=
      List.find?_eq_none.2 fun r hr hk => h (of_decide_eq_true hk ▸ List.mem_map_of_mem _ hr)
    simp only [isOptedOut, List.find?_append, hnone]
    simp [OptInRow.key]

/-- `opt_out(phone_number, tenant_id)`. -/
def optOut (t : OptInTable) (phoneNumber : String) (tenantId : Nat) : OptInTable :=
  upsert t phoneNumber tenantId .optedOut

/-- `opt_in(phone_number, tenant_id)`. -/
def optIn (t : OptInTable) (phoneNumber : String) (tenantId : Nat) : OptInTable :=
  upsert t phoneNumber tenantId .optedIn

end OptOutRepo

namespace DeliveryService

/-- `send_message(...)` up to its save: the consent check on the phone as given, then
`Message.create`, which normalises it (`id` stands for `uuid4()`). -/
def sendMessage (t : OptInTable) (id campaignId tenantId : Nat) (recipientPhone : String)
    (content : MessageContent) (priority : String) (now : Nat) : Except Exn Message :=
  if OptOutRepo.isOptedOut t recipientPhone tenantId then
    .error (.valueError ("Recipient " ++ recipientPhone ++ " has opted out"))
  else .ok (Message.create id campaignId tenantId recipientPhone content priority now)

/-- The creation loop of `send_message_batch`, ids handed out from `id`. -/
def createAll (campaignId tenantId : Nat) (content : MessageContent) (priority : String)
    (now : Nat) : Nat → List String → List Message
  | _, [] => []
  | id, phone :: rest =>
    Message.create id campaignId tenantId phone content priority now ::
      createAll campaignId tenantId content priority now (id + 1) rest

/-- `send_message_batch(...)` up to its save: drop the opted-out phones as given, create the
rest. -/
def sendMessageBatch (t : OptInTable) (id campaignId tenantId : Nat) (recipients : List String)
    (content : MessageContent) (priority : String) (now : Nat) : List Message :=
  createAll campaignId tenantId content priority now id
    (recipients.filter fun phone => !OptOutRepo.isOptedOut t phone tenantId)

end DeliveryService

/-- A number opted out under its E.164 spelling still reaches the pipeline: through
`send_message` and `send_message_batch` under other spellings of the same number, and through
the orchestrator under the very same spelling. -/
theorem opted_out_number_gets_messages :
    let t : OptInTable := OptOutRepo.optOut OptInTable.empty "+919876543210" 3
    let c := Campaign.init 7 3 "Sale" .promotional 5 .active .medium none 0 0
    OptOutRepo.isOptedOut t "+919876543210" 3 = true ∧
    (DeliveryService.sendMessage t 1 7 3 "9876543210" { text := "Hi" } "medium" 0).toOption.map
      (·.recipientPhone) = some "+919876543210" ∧
    (DeliveryService.sendMessageBatch t 2 7 3 ["98765-43210"] { text := "Hi" } "medium" 0).map
      (·.recipientPhone) = ["+919876543210"] ∧
    (CampaignOrchestrator.createMessages c CampaignOrchestrator.getTemplateContent 0 3
      CampaignOrchestrator.getCampaignRecipients).map (·.recipientPhone) =
      ["+919876543210", "+919876543211"] :=
  ⟨OptOutRepo.isOptedOut_upsert _ _ _ _, by decide, by decide, by decide⟩

end RcsMessaging

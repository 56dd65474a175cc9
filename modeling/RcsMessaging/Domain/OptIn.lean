import RcsMessaging.Services.Consent
import RcsMessaging.Domain.Phone
import RcsMessaging.Python.Json

/-!
# `Domain.OptIn` — the consent aggregate and its audit trail

Shallow embedding of `core/domain/opt_in.py`. An `OptIn` keeps, per message type, a current
`ConsentStatus`, the promotional opt-in and opt-out times, the DND flag, the user's preferences
and the `consent_history` that `grant_consent` and `revoke_consent` append to "for audit
compliance". Each `datetime.utcnow()` is the clock reading the operation is given.

The history is meant to be the audit trail of the statuses, and it is one:

* **`consent_history_append_only`**: a run of operations only appends to the history, one record
  per grant or revoke, in order (business rule 4, "consent history cannot be deleted");
* **`opt_in_replays_history`**: in every state reachable from `OptIn.create`, each status is
  the one the last history record covering its type (its own type or `ALL`) gives, or the
  initial default, and the promotional opt-in and opt-out times are those of the last such
  records (`Replays`);
* **`can_send_promotional_iff`**: so a promotional message may go exactly when the number is off
  the DND registry and the last record covering promotional messages is an opt-in — none means
  no consent (business rule 1);
* **`opt_out_honoured_until_regrant`**: after a revoke of a message type, or of `ALL`, nothing
  but a later grant covering it lets such a message through (rule 3); revoking `ALL` so stops
  transactional messages too, although the module's docstring has them "sent regardless of
  opt-out status";
* **`preference_last_write_wins`**: after any run, `get_preference` answers the value of the
  run's last `set_preference` of that key, or what it answered before.
-/

namespace RcsMessaging

/-- `ConsentType`. -/
inductive ConsentType
  | promotional | transactional | informational | all
  deriving DecidableEq, Repr

/-- `ConsentMethod`: how consent was obtained. -/
inductive ConsentMethod
  | webForm | smsReply | rcsReply | customerService | pointOfSale | api
  deriving DecidableEq, Repr

/-- `ConsentRecord`: one consent event of the audit trail. -/
structure ConsentRecord where
  timestamp : Nat
  status : ConsentStatus
  consentType : ConsentType
  method : ConsentMethod
  ipAddress : Option String
  userAgent : Option String
  notes : Option String
  deriving DecidableEq, Repr

/-- `preferences[key] = value` on a `dict`: a key already there keeps its place. -/
def setItem (key : String) (value : PyJson) :
    List (String × PyJson) → List (String × PyJson)
  | [] => [(key, value)]
  | (k, v) :: rest => if k = key then (key, value) :: rest else (k, v) :: setItem key value rest

theorem map_fst_setItem (key : String) (value : PyJson) :
    ∀ l : List (String × PyJson), (setItem key value l).map Prod.fst =
      if key ∈ l.map Prod.fst then l.map Prod.fst else l.map Prod.fst ++ [key]
  | [] => rfl
  | (k, v) :: rest => by
    by_cases hk : k = key
    · subst hk; simp [setItem]
    · have ih := map_fst_setItem key value rest
      by_cases hm : key ∈ rest.map Prod.fst <;>
        simp [setItem, hk, Ne.symm hk, hm, ih]

theorem setItem_nodup {key : String} {value : PyJson} {l : List (String × PyJson)}
    (h : (l.map Prod.fst).Nodup) : ((setItem key value l).map Prod.fst).Nodup := by
  rw [map_fst_setItem]
  split
  · exact h
  · rename_i hk
    exact List.nodup_append.2 ⟨h, List.nodup_singleton _,
      fun a ha hb => hk (List.mem_singleton.1 hb ▸ ha)⟩

theorem lookup_setItem_self (key : String) (value : PyJson) :
    ∀ l : List (String × PyJson), (setItem key value l).lookup key = some value
  | [] => by simp [setItem]
  | (k, v) :: rest => by
    by_cases hk : k = key
    · simp [setItem, hk]
    · simp [setItem, hk, List.lookup_cons, beq_false_of_ne (Ne.symm hk),
        lookup_setItem_self key value rest]

theorem lookup_setItem_of_ne {key k' : String} (value : PyJson) (hne : k' ≠ key) :
    ∀ l : List (String × PyJson), (setItem key value l).lookup k' = l.lookup k'
  | [] => by simp [setItem, List.lookup_cons, beq_false_of_ne hne]
  | (k, v) :: rest => by
    by_cases hk : k = key
    · subst hk; simp [setItem, List.lookup_cons, beq_false_of_ne hne]
    · simp [setItem, hk, List.lookup_cons, lookup_setItem_of_ne value hne rest]

/-- The state of an `OptIn` its methods read and write; `metadata`, which none of them touches,
is left out. The preferences are a `dict`: no key twice. -/
structure OptIn where
  id : Nat
  tenantId : Nat
  phoneNumber : String
  createdAt : Nat
  updatedAt : Nat
  promotionalStatus : ConsentStatus
  transactionalStatus : ConsentStatus
  informationalStatus : ConsentStatus
  promotionalOptedInAt : Option Nat
  promotionalOptedOutAt : Option Nat
  consentHistory : List ConsentRecord
  isOnDndRegistry : Bool
  dndCheckedAt : Option Nat
  preferences : List (String × PyJson)
  preferencesNodup : (preferences.map Prod.fst).Nodup

namespace OptIn

/-- `OptIn(id, tenant_id, phone_number, created_at)`: a `datetime` is always true, so
`created_at or utcnow()` is the given time when there is one. -/
def init (id tenantId : Nat) (phoneNumber : String) (createdAt : Option Nat) (now : Nat) : OptIn where
  id := id
  tenantId := tenantId
  phoneNumber := normalizePhone phoneNumber
  createdAt := createdAt.getD now
  updatedAt := now
  promotionalStatus := .optedOut
  transactionalStatus := .optedIn
  informationalStatus := .optedOut
  promotionalOptedInAt := none
  promotionalOptedOutAt := none
  consentHistory := []
  isOnDndRegistry := false
  dndCheckedAt := none
  preferences := []
  preferencesNodup := List.nodup_nil

/-- `OptIn.create(tenant_id, phone_number)`, `uuid` being what `uuid4()` returns. -/
def create (uuid tenantId : Nat) (phoneNumber : String) (now : Nat) : OptIn :=
  init uuid tenantId phoneNumber none now

/-- `_add_consent_record(...)`. -/
def addConsentRecord (o : OptIn) (timestamp : Nat) (status : ConsentStatus)
    (consentType : ConsentType) (method : ConsentMethod) (ipAddress userAgent notes : Option String) :
    OptIn :=
  { o with consentHistory := o.consentHistory ++
      [⟨timestamp, status, consentType, method, ipAddress, userAgent, notes⟩] }

/-- The status update `grant_consent` and `revoke_consent` share: `status` for each type
`consentType` names, with `stamp` applied where the promotional status changes. -/
def updateStatus (o : OptIn) (consentType : ConsentType) (status : ConsentStatus)
    (stamp : OptIn → OptIn) : OptIn :=
  match consentType with
  | .promotional => stamp { o with promotionalStatus := status }
  | .transactional => { o with transactionalStatus := status }
  | .informational => { o with informationalStatus := status }
  | .all => stamp { o with promotionalStatus := status, transactionalStatus := status,
                           informationalStatus := status }

/-- `grant_consent(consent_type, method, ip_address, user_agent, notes)` at `timestamp`. -/
def grantConsent (o : OptIn) (consentType : ConsentType) (method : ConsentMethod)
    (ipAddress userAgent notes : Option String) (timestamp : Nat) : OptIn :=
  let o := o.updateStatus consentType .optedIn fun o => { o with promotionalOptedInAt := some timestamp }
  { o.addConsentRecord timestamp .optedIn consentType method ipAddress userAgent notes with
    updatedAt := timestamp }

/-- `revoke_consent(consent_type, method, reason)` at `timestamp`: the reason is the record's
`notes`. -/
def revokeConsent (o : OptIn) (consentType : ConsentType) (method : ConsentMethod)
    (reason : Option String) (timestamp : Nat) : OptIn :=
  let o := o.updateStatus consentType .optedOut fun o => { o with promotionalOptedOutAt := some timestamp }
  { o.addConsentRecord timestamp .optedOut consentType method none none reason with
    updatedAt := timestamp }

/-- The check `can_send_promotional` and `can_send_informational` share: never while on the DND
registry, else whether `status` is an opt-in. -/
def canSendGated (o : OptIn) (status : ConsentStatus) : Bool :=
  if o.isOnDndRegistry then false else status == .optedIn

/-- `can_send_promotional()`. -/
def canSendPromotional (o : OptIn) : Bool := o.canSendGated o.promotionalStatus

/-- `can_send_transactional()`: the DND registry is not consulted. -/
def canSendTransactional (o : OptIn) : Bool := o.transactionalStatus == .optedIn

/-- `can_send_informational()`. -/
def canSendInformational (o : OptIn) : Bool := o.canSendGated o.informationalStatus

/-- `can_send_message(message_type)`. -/
def canSendMessage (o : OptIn) (messageType : String) : Bool :=
  if messageType = "promotional" then o.canSendPromotional
  else if messageType = "transactional" then o.canSendTransactional
  else if messageType = "informational" then o.canSendInformational
  else false

/-- The update `mark_on_dnd_registry` and `mark_off_dnd_registry` share. -/
def markDndRegistry (o : OptIn) (onRegistry : Bool) (now : Nat) : OptIn :=
  { o with isOnDndRegistry := onRegistry, dndCheckedAt := some now, updatedAt := now }

/-- `mark_on_dnd_registry()`. -/
def markOnDndRegistry (o : OptIn) (now : Nat) : OptIn := o.markDndRegistry true now

/-- `mark_off_dnd_registry()`. -/
def markOffDndRegistry (o : OptIn) (now : Nat) : OptIn := o.markDndRegistry false now

/-- `get_consent_status(consent_type)`: `ALL` has no status field of its own. -/
def getConsentStatus (o : OptIn) : ConsentType → ConsentStatus
  | .promotional => o.promotionalStatus
  | .transactional => o.transactionalStatus
  | .informational => o.informationalStatus
  | .all => .optedOut

/-- `get_consent_history(consent_type)`: a `ConsentType` is a non-empty `str`, so always true. -/
def getConsentHistory (o : OptIn) : Option ConsentType → List ConsentRecord
  | none => o.consentHistory
  | some t => o.consentHistory.filter (·.consentType == t)

/-- `set_preference(key, value)`. -/
def setPreference (o : OptIn) (key : String) (value : PyJson) (now : Nat) : OptIn :=
  { o with preferences := setItem key value o.preferences, updatedAt := now,
           preferencesNodup := setItem_nodup o.preferencesNodup }

/-- `get_preference(key, default)`. -/
def getPreference (o : OptIn) (key : String) (default : PyJson) : PyJson :=
  (o.preferences.lookup key).getD default

end OptIn

/-- A call of one of `OptIn`'s state-changing methods, with the clock reading it takes. -/
inductive OptInOp
  | grant (consentType : ConsentType) (method : ConsentMethod)
      (ipAddress userAgent notes : Option String) (timestamp : Nat)
  | revoke (consentType : ConsentType) (method : ConsentMethod) (reason : Option String)
      (timestamp : Nat)
  | markOnDnd (now : Nat)
  | markOffDnd (now : Nat)
  | setPreference (key : String) (value : PyJson) (now : Nat)

namespace OptIn

/-- One call. -/
def step (o : OptIn) : OptInOp → OptIn
  | .grant ct m ip ua notes ts => o.grantConsent ct m ip ua notes ts
  | .revoke ct m reason ts => o.revokeConsent ct m reason ts
  | .markOnDnd now => o.markOnDndRegistry now
  | .markOffDnd now => o.markOffDndRegistry now
  | .setPreference key value now => o.setPreference key value now

/-- Calls one after the other. -/
def run (o : OptIn) (ops : List OptInOp) : OptIn := ops.foldl step o

@[simp] theorem run_nil (o : OptIn) : o.run [] = o := rfl

@[simp] theorem run_cons (o : OptIn) (op : OptInOp) (ops : List OptInOp) :
    o.run (op :: ops) = (o.step op).run ops := rfl

end OptIn

/-! ## The audit trail -/

/-- The record a call appends to the consent history, if any. -/
def OptInOp.record : OptInOp → Option ConsentRecord
  | .grant ct m ip ua notes ts => some ⟨ts, .optedIn, ct, m, ip, ua, notes⟩
  | .revoke ct m reason ts => some ⟨ts, .optedOut, ct, m, none, none, reason⟩
  | _ => none

namespace OptIn

theorem updateStatus_history (o : OptIn) (ct : ConsentType) (status : ConsentStatus)
    {stamp : OptIn → OptIn} (hs : ∀ o, (stamp o).consentHistory = o.consentHistory) :
    (o.updateStatus ct status stamp).consentHistory = o.consentHistory := by
  cases ct <;> simp [updateStatus, hs]

theorem updateStatus_preferences (o : OptIn) (ct : ConsentType) (status : ConsentStatus)
    {stamp : OptIn → OptIn} (hs : ∀ o, (stamp o).preferences = o.preferences) :
    (o.updateStatus ct status stamp).preferences = o.preferences := by
  cases ct <;> simp [updateStatus, hs]

theorem step_history (o : OptIn) (op : OptInOp) :
    (o.step op).consentHistory = o.consentHistory ++ op.record.toList := by
  cases op <;>
    simp [OptIn.step, OptIn.grantConsent, OptIn.revokeConsent, OptIn.addConsentRecord,
      updateStatus_history, OptInOp.record, OptIn.markOnDndRegistry, OptIn.markOffDndRegistry,
      OptIn.markDndRegistry, OptIn.setPreference]

/-- A run appends one record per grant or revoke, in order. -/
theorem run_history (o : OptIn) (ops : List OptInOp) :
    (o.run ops).consentHistory = o.consentHistory ++ ops.filterMap OptInOp.record := by
  induction ops generalizing o with
  | nil => simp
  | cons op ops ih =>
    rw [OptIn.run_cons, ih, OptIn.step_history, List.filterMap_cons]
    cases op.record <;> simp

end OptIn

/-- **The consent history is append-only.** A run of calls keeps every record of the history
where it was, and every record it adds is the one a grant or revoke of the run writes. -/
theorem consent_history_append_only (o : OptIn) (ops : List OptInOp) :
    o.consentHistory <+: (o.run ops).consentHistory ∧
      ∀ r ∈ (o.run ops).consentHistory, r ∈ o.consentHistory ∨ ∃ op ∈ ops, op.record = some r := by
  rw [OptIn.run_history]
  refine ⟨List.prefix_append _ _, fun r hr => ?_⟩
  rcases List.mem_append.1 hr with h | h
  · exact .inl h
  · exact .inr (List.mem_filterMap.1 h)

/-! ## What the audit trail says -/

/-- Whether a record of type `ct` speaks for messages of type `t`: its own type, or `ALL`. -/
def ConsentType.covers (ct t : ConsentType) : Bool := ct == t || ct == .all

/-- The status the audit trail gives type `t`: that of its last record covering `t`, or
`default` if there is none. -/
def historyStatus (h : List ConsentRecord) (t : ConsentType) (default : ConsentStatus) :
    ConsentStatus :=
  ((h.filter (·.consentType.covers t)).getLast?.map (·.status)).getD default

/-- When the audit trail last recorded `status` for promotional messages. -/
def historyStamp (h : List ConsentRecord) (status : ConsentStatus) : Option Nat :=
  ((h.filter fun r => r.consentType.covers .promotional && r.status == status).getLast?).map
    (·.timestamp)

theorem historyStatus_append (h : List ConsentRecord) (r : ConsentRecord) (t : ConsentType)
    (default : ConsentStatus) :
    historyStatus (h ++ [r]) t default =
      if r.consentType.covers t then r.status else historyStatus h t default := by
  unfold historyStatus
  rw [List.filter_append]
  split <;> simp [List.filter_cons, *]

theorem historyStamp_append (h : List ConsentRecord) (r : ConsentRecord) (status : ConsentStatus) :
    historyStamp (h ++ [r]) status =
      if r.consentType.covers .promotional && r.status == status then some r.timestamp
      else historyStamp h status := by
  unfold historyStamp
  rw [List.filter_append]
  split <;> simp [List.filter_cons, *]

/-- Records that all give `s` where they speak for `t` leave the answer `s`. -/
theorem historyStatus_append_of_forall {t : ConsentType} {d s : ConsentStatus} :
    ∀ {h : List ConsentRecord} (h' : List ConsentRecord), historyStatus h t d = s →
      (∀ r ∈ h', r.consentType.covers t = true → r.status = s) → historyStatus (h ++ h') t d = s
  | h, [], hs, _ => by rwa [List.append_nil]
  | h, r :: h', hs, hall => by
    rw [← List.singleton_append, ← List.append_assoc]
    refine historyStatus_append_of_forall h' ?_ fun x hx => hall x (List.mem_cons_of_mem _ hx)
    rw [historyStatus_append]
    split
    · exact hall r (List.mem_cons_self r h') ‹_›
    · exact hs

/-- The state is what its audit trail says: each status that of the last record covering its
type, or the initial default, and the promotional opt-in and opt-out times those of the last
such records. -/
structure OptIn.Replays (o : OptIn) : Prop where
  promotional : o.promotionalStatus = historyStatus o.consentHistory .promotional .optedOut
  transactional : o.transactionalStatus = historyStatus o.consentHistory .transactional .optedIn
  informational : o.informationalStatus = historyStatus o.consentHistory .informational .optedOut
  optedInAt : o.promotionalOptedInAt = historyStamp o.consentHistory .optedIn
  optedOutAt : o.promotionalOptedOutAt = historyStamp o.consentHistory .optedOut

namespace OptIn

theorem replays_init (id tenantId : Nat) (phoneNumber : String) (createdAt : Option Nat)
    (now : Nat) : (init id tenantId phoneNumber createdAt now).Replays :=
  ⟨rfl, rfl, rfl, rfl, rfl⟩

/-- Each call keeps the state what its audit trail says: a grant or revoke sets exactly the
statuses and stamp its new record speaks for, and the other calls touch neither. -/
theorem Replays.step {o : OptIn} (h : o.Replays) (op : OptInOp) : (o.step op).Replays := by
  obtain ⟨h₁, h₂, h₃, h₄, h₅⟩ := h
  cases op with
  | grant ct =>
    cases ct <;> constructor <;>
      simp [OptIn.step, OptIn.grantConsent, OptIn.updateStatus, OptIn.addConsentRecord,
        historyStatus_append,
        historyStamp_append, ConsentType.covers, h₁, h₂, h₃, h₄, h₅]
  | revoke ct =>
    cases ct <;> constructor <;>
      simp [OptIn.step, OptIn.revokeConsent, OptIn.updateStatus, OptIn.addConsentRecord,
        historyStatus_append,
        historyStamp_append, ConsentType.covers, h₁, h₂, h₃, h₄, h₅]
  | markOnDnd => exact ⟨h₁, h₂, h₃, h₄, h₅⟩
  | markOffDnd => exact ⟨h₁, h₂, h₃, h₄, h₅⟩
  | setPreference => exact ⟨h₁, h₂, h₃, h₄, h₅⟩

theorem Replays.run {o : OptIn} (h : o.Replays) : ∀ ops, (o.run ops).Replays
  | [] => h
  | op :: ops => (h.step op).run ops

end OptIn

/-- **The state is its audit trail.** In every state a run of calls reaches from
`OptIn.create`, each consent status is the one the last history record covering its type gives
(opted out for promotional and informational messages, opted in for transactional ones, when
there is none), and the promotional opt-in and opt-out times are those of the last records
covering promotional messages with that status. -/
theorem opt_in_replays_history (uuid tenantId : Nat) (phoneNumber : String) (now : Nat)
    (ops : List OptInOp) : ((OptIn.create uuid tenantId phoneNumber now).run ops).Replays :=
  (OptIn.replays_init _ _ _ _ _).run ops

/-- **Promotional messages need an explicit opt-in.** In every state reachable from
`OptIn.create`, `can_send_promotional()` holds exactly when the number is off the DND registry
and the last history record covering promotional messages is an opt-in; with no such record it
fails. -/
theorem can_send_promotional_iff (uuid tenantId : Nat) (phoneNumber : String) (now : Nat)
    (ops : List OptInOp) :
    let o := (OptIn.create uuid tenantId phoneNumber now).run ops
    o.canSendPromotional = true ↔ o.isOnDndRegistry = false ∧
      ∃ r, (o.consentHistory.filter (·.consentType.covers .promotional)).getLast? = some r ∧
        r.status = .optedIn := by
  dsimp only
  have hp := ((OptIn.replays_init uuid tenantId phoneNumber none now).run ops).promotional
  unfold OptIn.canSendPromotional OptIn.canSendGated
  rw [show OptIn.init uuid tenantId phoneNumber none now = OptIn.create uuid tenantId phoneNumber now
    from rfl] at hp
  rw [hp]
  unfold historyStatus
  cases (((OptIn.create uuid tenantId phoneNumber now).run ops).consentHistory.filter
      (·.consentType.covers .promotional)).getLast? with
  | none => simp
  | some r =>
    cases ((OptIn.create uuid tenantId phoneNumber now).run ops).isOnDndRegistry <;>
      cases r.status <;> simp

example : ((OptIn.create 1 7 "9876543210" 0).run
    [.grant .all .webForm none none none 1, .markOnDnd 2]).canSendPromotional = false := by decide

/-- The `str` value of a `ConsentType`. -/
def ConsentType.value : ConsentType → String
  | .promotional => "promotional"
  | .transactional => "transactional"
  | .informational => "informational"
  | .all => "all"

/-- `can_send_message` refuses a message type whose status is an opt-out. -/
theorem OptIn.canSendMessage_of_optedOut {o : OptIn} {t : ConsentType} (ht : t ≠ .all)
    (h : o.getConsentStatus t = .optedOut) : o.canSendMessage t.value = false := by
  cases t with
  | all => exact absurd rfl ht
  | _ =>
    simp only [OptIn.getConsentStatus] at h
    simp [OptIn.canSendMessage, ConsentType.value, OptIn.canSendPromotional, OptIn.canSendTransactional,
      OptIn.canSendInformational, OptIn.canSendGated, h]

/-- **An opt-out holds until a grant covering it.** After a revoke of type `ct`, whatever came
before it, every message type `t` that `ct` covers (itself, or all three for `ALL`) stays opted out
and `can_send_message` refuses it, as long as no later grant covers `t`. Revoking `ALL` so stops
transactional messages too. -/
theorem opt_out_honoured_until_regrant (uuid tenantId : Nat) (phoneNumber : String) (now : Nat)
    (pre post : List OptInOp) (ct : ConsentType) (method : ConsentMethod) (reason : Option String)
    (timestamp : Nat) (t : ConsentType) (ht : t ≠ .all) (hct : ct.covers t = true)
    (hpost : ∀ ct' method' ip ua notes ts, OptInOp.grant ct' method' ip ua notes ts ∈ post →
      ct'.covers t = false) :
    let o := (OptIn.create uuid tenantId phoneNumber now).run
      (pre ++ .revoke ct method reason timestamp :: post)
    o.getConsentStatus t = .optedOut ∧ o.canSendMessage t.value = false := by
  dsimp only
  have hr := (OptIn.replays_init uuid tenantId phoneNumber none now).run
    (pre ++ .revoke ct method reason timestamp :: post)
  have hh : ((OptIn.init uuid tenantId phoneNumber none now).run
      (pre ++ .revoke ct method reason timestamp :: post)).consentHistory =
      (pre.filterMap OptInOp.record ++ [⟨timestamp, .optedOut, ct, method, none, none, reason⟩]) ++
        post.filterMap OptInOp.record := by
    rw [OptIn.run_history, List.filterMap_append, List.filterMap_cons]
    simp [OptInOp.record, OptIn.init]
  have hs : ∀ d, historyStatus ((OptIn.init uuid tenantId phoneNumber none now).run
      (pre ++ .revoke ct method reason timestamp :: post)).consentHistory t d = .optedOut := by
    intro d
    rw [hh]
    refine historyStatus_append_of_forall _ (by rw [historyStatus_append, if_pos hct]) ?_
    intro r hr hc
    obtain ⟨op, hop, he⟩ := List.mem_filterMap.1 hr
    cases op with
    | grant ct' =>
      cases he
      exact absurd hc (by rw [hpost _ _ _ _ _ _ hop]; decide)
    | revoke => cases he; rfl
    | markOnDnd => cases he
    | markOffDnd => cases he
    | setPreference => cases he
  have hstatus : ((OptIn.create uuid tenantId phoneNumber now).run
      (pre ++ .revoke ct method reason timestamp :: post)).getConsentStatus t = .optedOut := by
    cases t with
    | promotional => exact hr.promotional.trans (hs _)
    | transactional => exact hr.transactional.trans (hs _)
    | informational => exact hr.informational.trans (hs _)
    | all => exact absurd rfl ht
  exact ⟨hstatus, OptIn.canSendMessage_of_optedOut ht hstatus⟩

theorem opt_out_honoured_until_regrant_stop_all :
    let o := (OptIn.create 1 7 "+919876543210" 0).run
      ([.grant .all .webForm none none none 1] ++ .revoke .all .smsReply (some "STOP") 2 ::
        [.grant .promotional .webForm none none none 3])
    ConsentType.transactional ≠ .all ∧ ConsentType.all.covers .transactional = true ∧
      (∀ ct' method' ip ua notes ts, OptInOp.grant ct' method' ip ua notes ts ∈
        [OptInOp.grant .promotional .webForm none none none 3] → ct'.covers .transactional = false) ∧
      o.getConsentStatus .transactional = .optedOut ∧
      o.canSendMessage ConsentType.transactional.value = false :=
  have hpost : ∀ ct' method' ip ua notes ts, OptInOp.grant ct' method' ip ua notes ts ∈
      [OptInOp.grant .promotional .webForm none none none 3] → ct'.covers .transactional = false :=
    fun ct' _ _ _ _ _ h => by
      simp only [List.mem_singleton, OptInOp.grant.injEq] at h
      rw [h.1]
      rfl
  ⟨by decide, rfl, hpost, opt_out_honoured_until_regrant 1 7 "+919876543210" 0 _ _ .all .smsReply
    (some "STOP") 2 .transactional (by decide) rfl hpost⟩

/-- The value a call writes under `key`, if it sets that preference. -/
def OptInOp.preferenceWrite (key : String) : OptInOp → Option PyJson
  | .setPreference k value _ => if k = key then some value else none
  | _ => none

theorem OptIn.getPreference_step (o : OptIn) (op : OptInOp) (key : String) (default : PyJson) :
    (o.step op).getPreference key default =
      (op.preferenceWrite key).getD (o.getPreference key default) := by
  cases op with
  | setPreference k value now =>
    by_cases hk : k = key
    · subst hk
      simp [OptIn.step, OptIn.setPreference, OptIn.getPreference, OptInOp.preferenceWrite,
        lookup_setItem_self]
    · simp [OptIn.step, OptIn.setPreference, OptIn.getPreference, OptInOp.preferenceWrite, hk,
        lookup_setItem_of_ne value (Ne.symm hk)]
  | _ =>
    simp [OptIn.step, OptIn.grantConsent, OptIn.revokeConsent, OptIn.addConsentRecord,
      OptIn.updateStatus_preferences, OptIn.markOnDndRegistry, OptIn.markOffDndRegistry,
      OptIn.markDndRegistry, OptIn.getPreference, OptInOp.preferenceWrite]

/-- **The last write of a preference wins.** After any run, `get_preference(key, default)`
answers the value of the run's last `set_preference` of `key`, or, if it has none, what it
answered before the run. -/
theorem preference_last_write_wins (o : OptIn) (ops : List OptInOp) (key : String)
    (default : PyJson) :
    (o.run ops).getPreference key default =
      ((ops.filterMap (OptInOp.preferenceWrite key)).getLast?).getD (o.getPreference key default) := by
  induction ops generalizing o with
  | nil => rfl
  | cons op ops ih =>
    rw [OptIn.run_cons, ih, OptIn.getPreference_step, List.filterMap_cons]
    cases op.preferenceWrite key with
    | none => rfl
    | some v => simp [List.getLast?_cons]

end RcsMessaging

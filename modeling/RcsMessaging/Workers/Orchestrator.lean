import RcsMessaging.Services.CampaignService

/-!
# `Workers.Orchestrator` — `CampaignOrchestrator.process_campaign_job`, step by step

Shallow embedding of `apps/workers/orchestrator/campaign_orchestrator.py`. One delivery of the
orchestrator job loads the campaign and checks `_should_execute_campaign` once; a SCHEDULED
campaign is activated, saved and committed (the activation checkpoint). The check compares the
naive `datetime.utcnow()` with the aware `scheduled_for` the row gives back, so a campaign whose
`scheduled_for` is set makes it raise, and the delivery stops before it writes anything. Then, batch after batch,
`_create_messages` creates one PENDING message per recipient, saves them and commits (the batch
checkpoint), and `_queue_messages_for_dispatch` publishes their dispatch jobs one by one. At the
end `recipient_count := total_created` is saved and committed. Each save re-reads the committed
row and writes the delivery's own copy over it (`CampaignRepo.save_eq`).

A `Delivery` is the job between two of these steps; each step commits or publishes, so nothing of
it is pending when the next one starts, and a crash or an exception between two steps (a failed
publish, a raising `activate()`) just stops the delivery. Other cycles run between the steps: the
delivery never reloads the campaign.

`_get_campaign_recipients` and `_get_template_content` return fixed data in the source, and the
model keeps that data. `Delivery.step_cases` lists what one step can do; proofs about deliveries
go through it rather than through the body of `Delivery.step`.
-/

namespace RcsMessaging

namespace CampaignOrchestrator

/-- A resolved recipient: its `phone`, `name` and template `variables`. -/
structure Recipient where
  phone : String
  name : String
  vars : List (String × String)
  deriving DecidableEq, Repr

/-- `_get_campaign_recipients`: the fixed list the source returns for every campaign. -/
def getCampaignRecipients : List Recipient :=
  [⟨"+919876543210", "John Doe", [("customer_name", "John"), ("order_id", "1234")]⟩,
   ⟨"+919876543211", "Jane Smith", [("customer_name", "Jane"), ("order_id", "1235")]⟩]

/-- `_get_template_content`: the fixed content the source returns for every template. -/
def getTemplateContent : MessageContent :=
  { text :=
      "Hi \x7b\x7bcustomer_name\x7d\x7d, your order \x7b\x7border_id\x7d\x7d has been confirmed!" }

/-- The substitution loop of `_create_messages`: every `{{key}}` replaced by its value. -/
def renderText (text : String) (vars : List (String × String)) : String :=
  vars.foldl (fun t kv => t.replace ("\x7b\x7b" ++ kv.1 ++ "\x7d\x7d") kv.2) text

/-- `_create_messages(campaign, batch, template_content)`: one new message per recipient, with
ids handed out from `id`. There is no consent check. -/
def createMessages (c : Campaign) (tmpl : MessageContent) (now : Nat) :
    Nat → List Recipient → List Message
  | _, [] => []
  | id, r :: rs =>
    Message.create id c.id c.tenantId r.phone { text := renderText tmpl.text r.vars }
      c.priority.value now :: createMessages c tmpl now (id + 1) rs

section CreateMessages

variable (c : Campaign) (tmpl : MessageContent) (now : Nat)

theorem length_createMessages : ∀ id rs, (createMessages c tmpl now id rs).length = rs.length
  | _, [] => rfl
  | id, _ :: rs => congrArg (· + 1) (length_createMessages (id + 1) rs)

/-- One message per recipient, to the recipient's normalised phone. -/
theorem createMessages_phones :
    ∀ id rs, (createMessages c tmpl now id rs).map (·.recipientPhone) =
      rs.map (normalizePhone ∘ Recipient.phone)
  | _, [] => rfl
  | id, r :: rs => by
    simp only [createMessages, List.map_cons, createMessages_phones (id + 1) rs]; rfl

/-- The ids are handed out one after the other from `id`. -/
theorem createMessages_ids :
    ∀ id rs, (createMessages c tmpl now id rs).map (·.id) = List.range' id rs.length
  | _, [] => rfl
  | id, r :: rs => by
    simp only [createMessages, List.map_cons, createMessages_ids (id + 1) rs, List.length_cons,
      List.range'_succ]; rfl

theorem status_of_mem_createMessages :
    ∀ {id rs m}, m ∈ createMessages c tmpl now id rs → m.status = .pending
  | _, [], _, h => absurd h (List.not_mem_nil _)
  | _, _ :: _, _, h => by
    rcases List.mem_cons.1 h with rfl | h
    · rfl
    · exact status_of_mem_createMessages h

end CreateMessages

/-- The orchestrator's `_map_priority`: the exact-string lookup, without lower-casing. -/
def mapPriority (priority : String) : QueuePriority := priorityMapping priority

/-- The dispatch job `_queue_messages_for_dispatch` builds for a message. -/
def dispatchQueueMessage (m : Message) : QueueMessage :=
  { id := toString m.id, queueName := dispatchQueue, payload := [("message_id", toString m.id)],
    priority := mapPriority m.priority }

/-- `_should_execute_campaign(campaign)`: SCHEDULED or ACTIVE, and, when `scheduled_for` is set,
not before it: `datetime.utcnow() < campaign.scheduled_for`, which raises on an aware time. -/
def shouldExecuteCampaign (c : Campaign) (now : Nat) : Except Exn Bool :=
  if c.status ≠ .scheduled ∧ c.status ≠ .active then .ok false
  else
    match c.scheduledFor with
    | some t => (PyDateTime.lt (PyDateTime.utcnow now) t).map (!·)
    | none => .ok true

/-- The orchestrator's `batch_size`; `range(0, n, 0)` raises, so it is positive. -/
structure Config where
  batchSize : Nat := 100
  batchSize_pos : 0 < batchSize := by decide

/-- The slices `recipients[i:i + size]` for `i in range(0, len(recipients), size)`. -/
def batches (size : Nat) (rs : List Recipient) : List (List Recipient) := go rs.length rs
where
  /-- One slice per round; `fuel` bounds the rounds by the length. -/
  go : Nat → List Recipient → List (List Recipient)
  | 0, _ => []
  | _, [] => []
  | fuel + 1, xs => xs.take size :: go fuel (xs.drop size)

theorem batches_go_flatten {size : Nat} (hsize : 0 < size) :
    ∀ fuel (xs : List Recipient), xs.length ≤ fuel → (batches.go size fuel xs).flatten = xs
  | 0, xs, h => by simp_all [batches.go]
  | _ + 1, [], _ => rfl
  | fuel + 1, x :: xs, h => by
    have hlen : ((x :: xs).drop size).length ≤ fuel := by simp at h ⊢; omega
    simp only [batches.go, List.flatten_cons, batches_go_flatten hsize fuel _ hlen,
      List.take_append_drop]

/-- The batches, one after the other, are the recipients. -/
theorem batches_flatten {size : Nat} (hsize : 0 < size) (rs : List Recipient) :
    (batches size rs).flatten = rs :=
  batches_go_flatten hsize _ rs (Nat.le_refl _)

/-- Where a delivery of the orchestrator job stands. -/
inductive Phase
  /-- It loaded a SCHEDULED campaign: `activate()`, save and the checkpoint come next. -/
  | activating
  /-- In the batch loop. -/
  | creating
  /-- After the loop: `recipient_count = total_created`, save and the final commit. -/
  | finishing
  /-- Returned, or left through an exception or a crash. -/
  | stopped
  deriving DecidableEq, Repr

/-- One delivery of the orchestrator job between two of its steps. -/
structure Delivery where
  /-- The job's unit of work, which loaded the campaign once. -/
  session : Session
  /-- Batches of the loop not yet created. -/
  todo : List (List Recipient)
  /-- Messages of the current batch, committed and not yet published. -/
  unqueued : List Message
  /-- `total_created`. -/
  total : Nat
  phase : Phase
  /-- Every message this delivery has created: not a variable of the source, the record the
  proofs count with. -/
  created : List Message
  deriving DecidableEq, Repr

/-- The opening of `process_campaign_job` on the committed row: `get_by_id`, then
`_should_execute_campaign`. A campaign it must not execute returns, and a raising check leaves
through the `except`; either way the delivery stops having written nothing. -/
def Delivery.start (cfg : Config) (row : CampaignModel) (now : Nat) : Delivery :=
  let s := Session.load row
  match shouldExecuteCampaign s.campaign now with
  | .ok true =>
    ⟨s, batches cfg.batchSize getCampaignRecipients, [], 0,
      if s.campaign.status = .scheduled then .activating else .creating, []⟩
  | _ => ⟨s, [], [], 0, .stopped, []⟩

/-- The delivery's next step on the shared store. -/
def Delivery.step (d : Delivery) (st : Store) (now : Nat) : Delivery × Store :=
  match d.phase with
  | .activating =>
    match Campaign.activate now d.session.campaign with
    | .error _ _ => ({ d with phase := .stopped }, st)
    | .ok _ c => ({ d with session := ⟨c⟩, phase := .creating }, { st with row := Session.save ⟨c⟩ st.row now })
  | .creating =>
    match d.unqueued, d.todo with
    | m :: ms, _ =>
      ({ d with unqueued := ms }, { st with jobs := st.jobs ++ [dispatchQueueMessage m] })
    | [], b :: bs =>
      let msgs := createMessages d.session.campaign getTemplateContent now st.nextId b
      ({ d with
          todo := bs, unqueued := msgs, total := d.total + msgs.length,
          created := d.created ++ msgs },
        { st with messages := st.messages ++ msgs, nextId := st.nextId + msgs.length })
    | [], [] => ({ d with phase := .finishing }, st)
  | .finishing =>
    let c := { d.session.campaign with recipientCount := d.total }
    ({ d with session := ⟨c⟩, phase := .stopped }, { st with row := Session.save ⟨c⟩ st.row now })
  | .stopped => (d, st)

/-! ## What one step can do -/

/-- A delivery starts with nothing created and nothing waiting to be published. -/
theorem Delivery.start_created (cfg : Config) (row : CampaignModel) (now : Nat) :
    (Delivery.start cfg row now).created = [] ∧ (Delivery.start cfg row now).unqueued = [] := by
  dsimp only [Delivery.start]
  split <;> exact ⟨rfl, rfl⟩

/-- So does one whose `scheduled_for` is set: the row gives it back aware, and comparing it with
the naive `utcnow()` raises. -/
theorem shouldExecuteCampaign_toDomain_scheduled {row : CampaignModel} {now t : Nat}
    (h : row.scheduledFor = some t) :
    shouldExecuteCampaign (CampaignRepo.toDomain row) now ≠ .ok true := by
  unfold shouldExecuteCampaign
  split
  · exact fun h => nomatch h
  · simp [CampaignRepo.toDomain, Campaign.init, h, PyDateTime.lt, PyDateTime.compare,
      PyDateTime.utcnow, Except.map]

/-- A stopped delivery does nothing. -/
theorem Delivery.step_of_stopped {d : Delivery} (h : d.phase = .stopped) (st : Store) (now : Nat) :
    d.step st now = (d, st) := by
  unfold Delivery.step; rw [h]

/-- What one step of a delivery can do: one case per branch of `Delivery.step`. -/
theorem Delivery.step_cases (d : Delivery) (st : Store) (now : Nat) :
    (d.phase = .activating ∧ (∃ e c, Campaign.activate now d.session.campaign = .error e c) ∧
      d.step st now = ({ d with phase := .stopped }, st)) ∨
    (d.phase = .activating ∧ ∃ c, Campaign.activate now d.session.campaign = .ok () c ∧
      d.step st now =
        ({ d with session := ⟨c⟩, phase := .creating }, { st with row := Session.save ⟨c⟩ st.row now })) ∨
    (d.phase = .creating ∧ ∃ m ms, d.unqueued = m :: ms ∧
      d.step st now =
        ({ d with unqueued := ms }, { st with jobs := st.jobs ++ [dispatchQueueMessage m] })) ∨
    (d.phase = .creating ∧ d.unqueued = [] ∧ ∃ b bs, d.todo = b :: bs ∧
      d.step st now =
        ({ d with
            todo := bs,
            unqueued := createMessages d.session.campaign getTemplateContent now st.nextId b,
            total := d.total + b.length,
            created := d.created ++ createMessages d.session.campaign getTemplateContent now
              st.nextId b },
          { st with
            messages := st.messages ++
              createMessages d.session.campaign getTemplateContent now st.nextId b,
            nextId := st.nextId + b.length })) ∨
    (d.phase = .creating ∧ d.unqueued = [] ∧ d.todo = [] ∧
      d.step st now = ({ d with phase := .finishing }, st)) ∨
    (d.phase = .finishing ∧
      d.step st now =
        ({ d with
            session := ⟨{ d.session.campaign with recipientCount := d.total }⟩
            phase := .stopped },
          { st with
            row := Session.save ⟨{ d.session.campaign with recipientCount := d.total }⟩ st.row
              now })) ∨
    (d.phase = .stopped ∧ d.step st now = (d, st)) := by
  unfold Delivery.step
  cases d.phase with
  | activating =>
    cases Campaign.activate now d.session.campaign with
    | error e c => exact .inl ⟨rfl, ⟨e, c, rfl⟩, rfl⟩
    | ok u c => exact .inr (.inl ⟨rfl, c, rfl, rfl⟩)
  | creating =>
    cases d.unqueued with
    | cons m ms => exact .inr (.inr (.inl ⟨rfl, m, ms, rfl, rfl⟩))
    | nil =>
      cases d.todo with
      | cons b bs =>
        refine .inr (.inr (.inr (.inl ⟨rfl, rfl, b, bs, rfl, ?_⟩)))
        simp only [length_createMessages]
      | nil => exact .inr (.inr (.inr (.inr (.inl ⟨rfl, rfl, rfl, rfl⟩))))
  | finishing => exact .inr (.inr (.inr (.inr (.inr (.inl ⟨rfl, rfl⟩)))))
  | stopped => exact .inr (.inr (.inr (.inr (.inr (.inr ⟨rfl, rfl⟩)))))

end CampaignOrchestrator

end RcsMessaging

import RcsMessaging.Workers.Orchestrator

/-!
# `Pipeline.Batching` — the orchestrator's batch loop, run to its end

`process_campaign_job` slices the resolved recipients into `batch_size` slices; for each it
creates one message per recipient and publishes one dispatch job per created message; after the
loop it saves `recipient_count = total_created`. Here one delivery in its loop runs alone, step
after step, for every recipient list (the source resolves a fixed list, `Workers.Orchestrator`
keeps it; the loop itself reads only its `todo`).

## Contents
- `Delivery.runAlone` and its composition law `runAlone_add`.
- One batch: `runAlone_publish` (the waiting messages are published, one job each) and
  `runAlone_batch` (create, then publish).
- The loop: `runAlone_loop`, by induction on the batches still to do, with the message ids
  handed out across batches by `createMessages_append`.
- **`batching_one_message_per_recipient`**: after `|batches| + |R| + 2` steps the delivery has
  stopped; the batches concatenate to `R`; the created messages are, in order, one per recipient,
  to its normalised phone, for the campaign and tenant; the store gained exactly them and one
  dispatch job per message; and the recipient count, in the aggregate and in the committed row,
  is `|R|`.
-/

namespace RcsMessaging

namespace CampaignOrchestrator

/-- `n` steps of a delivery, with no other step in between. -/
def Delivery.runAlone (d : Delivery) (st : Store) (now : Nat) : Nat → Delivery × Store
  | 0 => (d, st)
  | n + 1 => (d.step st now).1.runAlone (d.step st now).2 now n

section CreateMessages

variable (c : Campaign) (tmpl : MessageContent) (now : Nat)

/-- Creating two slices one after the other hands the ids out as for their concatenation. -/
theorem createMessages_append :
    ∀ id (b bs : List Recipient), createMessages c tmpl now id (b ++ bs) =
      createMessages c tmpl now id b ++ createMessages c tmpl now (id + b.length) bs
  | _, [], _ => rfl
  | id, r :: b, bs => by
    rw [List.cons_append, createMessages, createMessages_append (id + 1) b bs, createMessages,
      List.length_cons, Nat.add_right_comm, Nat.add_assoc]
    rfl

/-- Every created message is for the campaign and its tenant. -/
theorem campaign_of_mem_createMessages :
    ∀ {id rs m}, m ∈ createMessages c tmpl now id rs → m.campaignId = c.id ∧ m.tenantId = c.tenantId
  | _, [], _, h => absurd h (List.not_mem_nil _)
  | _, _ :: _, _, h => by
    rcases List.mem_cons.1 h with rfl | h
    · exact ⟨rfl, rfl⟩
    · exact campaign_of_mem_createMessages h

end CreateMessages

namespace Delivery

variable {d : Delivery} {st : Store} {now : Nat}

theorem runAlone_one (d : Delivery) (st : Store) (now : Nat) :
    d.runAlone st now 1 = d.step st now := rfl

theorem runAlone_add (now n : Nat) :
    ∀ m (d : Delivery) (st : Store), d.runAlone st now (m + n) =
      (d.runAlone st now m).1.runAlone (d.runAlone st now m).2 now n
  | 0, d, st => by rw [Nat.zero_add]; rfl
  | m + 1, d, st => by rw [Nat.succ_add]; exact runAlone_add now n m _ _

/-- The messages waiting in the loop are published, one dispatch job each, in order. -/
theorem runAlone_publish (now : Nat) : ∀ (ms : List Message) (d : Delivery) (st : Store),
    d.phase = .creating → d.unqueued = ms →
    d.runAlone st now ms.length =
      ({ d with unqueued := [] }, { st with jobs := st.jobs ++ ms.map dispatchQueueMessage })
  | [], d, st, _, hu => by
    rw [List.map_nil, List.append_nil]
    obtain ⟨_, _, _, _, _, _⟩ := d
    cases hu; rfl
  | m :: ms, d, st, hp, hu => by
    have hs : d.step st now =
        ({ d with unqueued := ms }, { st with jobs := st.jobs ++ [dispatchQueueMessage m] }) := by
      unfold step; rw [hp, hu]
    rw [List.length_cons, runAlone, hs]
    dsimp only
    rw [runAlone_publish now ms { d with unqueued := ms } _ hp rfl]
    simp only [List.map_cons, List.append_assoc, List.singleton_append]

/-- One batch: its messages are created and committed, then published. -/
theorem runAlone_batch {b : List Recipient} {bs : List (List Recipient)}
    (hp : d.phase = .creating) (hu : d.unqueued = []) (ht : d.todo = b :: bs) :
    d.runAlone st now (1 + b.length) =
      ({ d with
          todo := bs, total := d.total + b.length,
          created := d.created ++ createMessages d.session.campaign getTemplateContent now
            st.nextId b },
        { st with
          messages := st.messages ++ createMessages d.session.campaign getTemplateContent now
            st.nextId b,
          nextId := st.nextId + b.length,
          jobs := st.jobs ++ (createMessages d.session.campaign getTemplateContent now
            st.nextId b).map dispatchQueueMessage }) := by
  have hs : d.step st now =
      ({ d with
          todo := bs, unqueued := createMessages d.session.campaign getTemplateContent now
            st.nextId b,
          total := d.total + b.length,
          created := d.created ++ createMessages d.session.campaign getTemplateContent now
            st.nextId b },
        { st with
          messages := st.messages ++ createMessages d.session.campaign getTemplateContent now
            st.nextId b,
          nextId := st.nextId + b.length }) := by
    unfold step; rw [hp, hu, ht]; simp only [length_createMessages]
  have hpub := runAlone_publish now _ (d.step st now).1 (d.step st now).2
    (by rw [hs]; exact hp) (by rw [hs])
  rw [hs, length_createMessages] at hpub
  rw [runAlone_add, runAlone_one, hs, hpub, hu]

/-- The loop over the batches still to do. -/
theorem runAlone_loop (now : Nat) : ∀ (todo : List (List Recipient)) (d : Delivery) (st : Store),
    d.phase = .creating → d.unqueued = [] → d.todo = todo →
    d.runAlone st now (todo.length + todo.flatten.length) =
      ({ d with
          todo := [], total := d.total + todo.flatten.length,
          created := d.created ++ createMessages d.session.campaign getTemplateContent now
            st.nextId todo.flatten },
        { st with
          messages := st.messages ++ createMessages d.session.campaign getTemplateContent now
            st.nextId todo.flatten,
          nextId := st.nextId + todo.flatten.length,
          jobs := st.jobs ++ (createMessages d.session.campaign getTemplateContent now
            st.nextId todo.flatten).map dispatchQueueMessage })
  | [], d, st, _, _, ht => by
    obtain ⟨_, _, _, _, _, _⟩ := d
    cases ht
    simp only [List.flatten_nil, List.length_nil, createMessages, List.append_nil, List.map_nil,
      Nat.add_zero]
    rfl
  | b :: bs, d, st, hp, hu, ht => by
    have hlen : (b :: bs).length + (b :: bs).flatten.length =
        (1 + b.length) + (bs.length + bs.flatten.length) := by
      simp only [List.length_cons, List.flatten_cons, List.length_append]; omega
    rw [hlen, runAlone_add, runAlone_batch hp hu ht]
    refine (runAlone_loop now bs _ _ ?_ ?_ rfl).trans ?_
    · exact hp
    · exact hu
    simp only [List.flatten_cons, createMessages_append, List.length_append, List.append_assoc,
      List.map_append, Nat.add_assoc]

end Delivery

/-- **Batching neither drops nor duplicates recipients.** A delivery entering its loop with the
batches of any recipient list `R`, on any session and store, and run alone:
after `|batches| + |R| + 2` steps it has stopped; the batches concatenate to `R`; the messages it
created are one per recipient, in order, to the recipient's normalised phone, for the campaign
and its tenant; the store gained exactly those messages and one dispatch job per message, in
order; and `recipient_count` is `|R|` in the aggregate and in the committed row. -/
theorem batching_one_message_per_recipient (cfg : Config) (s : Session) (st : Store) (now : Nat)
    (R : List Recipient) :
    let r := Delivery.runAlone ⟨s, batches cfg.batchSize R, [], 0, .creating, []⟩ st now
      ((batches cfg.batchSize R).length + R.length + 2)
    (batches cfg.batchSize R).flatten = R ∧ r.1.phase = .stopped ∧
      r.1.created.map (·.recipientPhone) = R.map (normalizePhone ∘ Recipient.phone) ∧
      (∀ m ∈ r.1.created, m.campaignId = s.campaign.id ∧ m.tenantId = s.campaign.tenantId) ∧
      r.2.messages = st.messages ++ r.1.created ∧
      r.2.jobs = st.jobs ++ r.1.created.map dispatchQueueMessage ∧
      r.1.session.campaign.recipientCount = R.length ∧ r.2.row.recipientCount = R.length := by
  have hflat := batches_flatten cfg.batchSize_pos R
  have hloop := Delivery.runAlone_loop now (batches cfg.batchSize R)
    ⟨s, batches cfg.batchSize R, [], 0, .creating, []⟩ st rfl rfl rfl
  rw [hflat] at hloop
  dsimp only
  rw [Delivery.runAlone_add, hloop]
  simp only [Delivery.runAlone, Delivery.step, Session.save, CampaignRepo.save_eq,
    CampaignRepo.updateFromDomain, Nat.zero_add, List.nil_append]
  exact ⟨hflat, trivial, createMessages_phones _ _ _ _ _,
    fun m hm => campaign_of_mem_createMessages _ _ _ hm, trivial, trivial, trivial, trivial⟩

/-- The batches of the source's own recipients, on a stored ACTIVE campaign. -/
theorem batching_one_message_per_recipient_fixed :
    let row : CampaignModel :=
      CampaignRepo.toModel (Campaign.init 7 3 "Sale" .promotional 5 .active .medium none 0 0)
    let r := Delivery.runAlone ⟨Session.load row, batches 100 getCampaignRecipients, [], 0,
      .creating, []⟩ ⟨row, [], [], 0⟩ 0
      ((batches 100 getCampaignRecipients).length + getCampaignRecipients.length + 2)
    (batches 100 getCampaignRecipients).flatten = getCampaignRecipients ∧
      r.1.phase = .stopped ∧
      r.1.created.map (·.recipientPhone) =
        getCampaignRecipients.map (normalizePhone ∘ Recipient.phone) ∧
      (∀ m ∈ r.1.created, m.campaignId = (Session.load row).campaign.id ∧
        m.tenantId = (Session.load row).campaign.tenantId) ∧
      r.2.messages = [] ++ r.1.created ∧
      r.2.jobs = [] ++ r.1.created.map dispatchQueueMessage ∧
      r.1.session.campaign.recipientCount = getCampaignRecipients.length ∧
      r.2.row.recipientCount = getCampaignRecipients.length :=
  batching_one_message_per_recipient {} _ ⟨_, [], [], 0⟩ 0 getCampaignRecipients

/-- `_create_messages` normalises: a recipient given as `9876543210` gets a message to
`+919876543210`. -/
theorem created_phone_normalised :
    (createMessages (Campaign.init 1 2 "Sale" .promotional 3 .active .medium none 0 0)
      getTemplateContent 0 0 [⟨"9876543210", "A", []⟩]).map (·.recipientPhone) =
      ["+919876543210"] := by
  decide

end CampaignOrchestrator

end RcsMessaging

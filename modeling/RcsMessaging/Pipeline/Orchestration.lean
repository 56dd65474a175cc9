import Mathlib.Data.List.Nodup
import RcsMessaging.Pipeline.CampaignWorld

/-!
# `Pipeline.Orchestration` — what the deliveries of the orchestrator job create, publish and write

`Delivery.step_cases`, beside `Delivery.step`, says once what one step of a delivery can do, and
every fact of this module is derived from it:

* a delivery keeps `Delivery.Inv`: its copy of the campaign is ACTIVE in the batch loop and at
  its final save, and what it has created and has still to create are resolved recipients, each
  once; so its saves write ACTIVE, and it creates and publishes only while its copy is ACTIVE;
* the world keeps `CampaignWorld.Inv`: message ids are fresh, every committed message was created
  by one delivery, and every committed message has its dispatch job published or waits, PENDING,
  in the batch of one delivery (`unqueued`: committed at the batch checkpoint, not yet published);
* a stopped delivery never moves again, so what waits in its batch waits for good.
-/

namespace RcsMessaging

open CampaignRepo CampaignOrchestrator

/-! ## The recipients and the status -/

/-- The normalised phones of the resolved recipients. -/
def plannedPhones : List String := getCampaignRecipients.map (normalizePhone ∘ Recipient.phone)

theorem plannedPhones_nodup : plannedPhones.Nodup := by decide

/-- A save writes the cycle's status, whatever was committed since its load. -/
@[simp] theorem status_save (s : Session) (db : CampaignModel) (now : Nat) :
    (s.save db now).status = s.campaign.status := by
  rw [Session.save, CampaignRepo.save_eq]; rfl

theorem status_updateStats (r : CampaignModel) (su : List (String × Nat)) :
    (CampaignRepo.updateStats r su).status = r.status := by
  induction su generalizing r with
  | nil => rfl
  | cons kv su ih =>
    simp only [CampaignRepo.updateStats, List.foldl_cons] at ih ⊢
    rw [ih]
    unfold bumpColumn
    split <;> rfl

theorem status_activate {now : Nat} {c c' : Campaign} {u : Unit}
    (h : Campaign.activate now c = .ok u c') : c'.status = .active := by
  unfold Campaign.activate at h
  split at h
  · cases h
  · split at h <;> cases h; rfl

theorem status_addAudience {a n now : Nat} {c c' : Campaign} {u : Unit}
    (h : Campaign.addAudience a n now c = .ok u c') : c'.status = .draft := by
  unfold Campaign.addAudience at h
  split at h
  · cases h
  · rename_i hs
    split at h <;> cases h <;> exact Classical.not_not.1 hs

theorem status_of_shouldExecuteCampaign {c : Campaign} {now : Nat}
    (h : shouldExecuteCampaign c now = .ok true) : c.status = .scheduled ∨ c.status = .active := by
  unfold shouldExecuteCampaign at h
  split at h
  · cases h
  · rename_i hs
    by_cases h1 : c.status = .scheduled
    · exact .inl h1
    · exact .inr (Classical.not_not.1 fun h2 => hs ⟨h1, h2⟩)

/-! ## One delivery -/

namespace CampaignOrchestrator.Delivery

/-- What a delivery keeps true from its load on. -/
structure Inv (d : Delivery) : Prop where
  /-- Only a delivery that loaded a SCHEDULED campaign activates it. -/
  activating : d.phase = .activating → d.session.campaign.status = .scheduled
  /-- In the batch loop and after it, the delivery's copy is ACTIVE. -/
  running : d.phase = .creating ∨ d.phase = .finishing → d.session.campaign.status = .active
  /-- What it has created and what it has still to create are resolved recipients, each once. -/
  planned : (d.created.map (·.recipientPhone) ++
    d.todo.flatten.map (normalizePhone ∘ Recipient.phone)).Sublist plannedPhones

theorem inv_start (cfg : Config) (row : CampaignModel) (now : Nat) : (start cfg row now).Inv := by
  dsimp only [start]
  split
  · rename_i hx
    refine ⟨fun h => ?_, fun h => ?_, ?_⟩
    · by_contra hs
      simp only [hs, if_false] at h
      cases h
    · by_cases hs : (Session.load row).campaign.status = .scheduled
      · simp only [hs, if_true] at h
        rcases h with h | h <;> cases h
      · exact (status_of_shouldExecuteCampaign hx).resolve_left hs
    · simp only [List.map_nil, List.nil_append, batches_flatten cfg.batchSize_pos]
      exact List.Sublist.refl _
  · exact ⟨nofun, nofun, List.nil_sublist _⟩

/-- A delivery keeps its invariant when it stops. -/
theorem Inv.stop {d : Delivery} (h : d.Inv) : { d with phase := .stopped }.Inv :=
  ⟨nofun, nofun, h.planned⟩

/-- Every step of a delivery keeps its invariant. -/
theorem Inv.step {d : Delivery} (h : d.Inv) (st : Store) (now : Nat) : (d.step st now).1.Inv := by
  rcases step_cases d st now with
    ⟨-, -, hs⟩ | ⟨-, c, hc, hs⟩ | ⟨-, m, ms, -, hs⟩ | ⟨-, -, b, bs, ht, hs⟩ | ⟨hp, -, -, hs⟩ |
      ⟨-, hs⟩ | ⟨-, hs⟩ <;> rw [hs]
  · exact h.stop
  · exact ⟨nofun, fun _ => status_activate hc, h.planned⟩
  · exact ⟨h.activating, h.running, h.planned⟩
  · refine ⟨h.activating, h.running, ?_⟩
    have hp := h.planned
    rw [ht, List.flatten_cons, List.map_append] at hp
    simpa only [List.map_append, createMessages_phones, List.append_assoc] using hp
  · exact ⟨nofun, fun _ => h.running (.inl hp), h.planned⟩
  · exact ⟨nofun, nofun, h.planned⟩
  · exact h

/-- A delivery writes the status at its activation checkpoint and at its final save, and writes
ACTIVE there, over whatever was committed since its load. -/
theorem Inv.status_step {d : Delivery} (h : d.Inv) (st : Store) (now : Nat) :
    (d.step st now).2.row.status = st.row.status ∨
      (d.phase = .activating ∨ d.phase = .finishing) ∧ (d.step st now).2.row.status = .active := by
  rcases step_cases d st now with
    ⟨-, -, hs⟩ | ⟨hp, c, hc, hs⟩ | ⟨-, m, ms, -, hs⟩ | ⟨-, -, b, bs, -, hs⟩ | ⟨-, -, -, hs⟩ |
      ⟨hp, hs⟩ | ⟨-, hs⟩ <;> rw [hs]
  · exact .inl rfl
  · exact .inr ⟨.inl hp, (status_save _ _ _).trans (status_activate hc)⟩
  · exact .inl rfl
  · exact .inl rfl
  · exact .inl rfl
  · exact .inr ⟨.inr hp, (status_save _ _ _).trans (h.running (.inr hp))⟩
  · exact .inl rfl

/-- A delivery creates at most one message per recipient. -/
theorem Inv.count_created_le_one {d : Delivery} (h : d.Inv) (p : String) :
    (d.created.map (·.recipientPhone)).count p ≤ 1 :=
  calc (d.created.map (·.recipientPhone)).count p
      ≤ plannedPhones.count p := ((List.sublist_append_left _ _).trans h.planned).count_le p
    _ ≤ 1 := List.nodup_iff_count_le_one.1 plannedPhones_nodup p

/-- What one step of a delivery does to the messages and the jobs. -/
inductive Effect (d d' : Delivery) (st st' : Store) : Prop
  /-- Neither the messages nor the jobs change. -/
  | quiet : st'.messages = st.messages → st'.jobs = st.jobs → st'.nextId = st.nextId →
      d'.created = d.created → d'.unqueued = d.unqueued → Effect d d' st st'
  /-- The head of the batch is published. -/
  | publish (m : Message) : d.unqueued = m :: d'.unqueued →
      st'.jobs = st.jobs ++ [dispatchQueueMessage m] → st'.messages = st.messages →
      st'.nextId = st.nextId → d'.created = d.created → Effect d d' st st'
  /-- A batch of PENDING messages with fresh ids is created and committed. -/
  | create (msgs : List Message) : d.unqueued = [] → d'.unqueued = msgs →
      d'.created = d.created ++ msgs → st'.messages = st.messages ++ msgs → st'.jobs = st.jobs →
      st'.nextId = st.nextId + msgs.length →
      msgs.map (·.id) = List.range' st.nextId msgs.length →
      (∀ m ∈ msgs, m.status = .pending) → Effect d d' st st'

theorem step_effect (d : Delivery) (st : Store) (now : Nat) :
    Effect d (d.step st now).1 st (d.step st now).2 := by
  rcases step_cases d st now with
    ⟨-, -, hs⟩ | ⟨-, c, -, hs⟩ | ⟨-, m, ms, hu, hs⟩ | ⟨-, hu, b, bs, -, hs⟩ | ⟨-, -, -, hs⟩ |
      ⟨-, hs⟩ | ⟨-, hs⟩ <;> rw [hs]
  · exact .quiet rfl rfl rfl rfl rfl
  · exact .quiet rfl rfl rfl rfl rfl
  · exact .publish m hu rfl rfl rfl rfl
  · refine .create _ hu rfl rfl rfl rfl ?_ ?_ fun _ => status_of_mem_createMessages _ _ _
    all_goals rw [length_createMessages]
    exact createMessages_ids _ _ _ _ _
  · exact .quiet rfl rfl rfl rfl rfl
  · exact .quiet rfl rfl rfl rfl rfl
  · exact .quiet rfl rfl rfl rfl rfl

end CampaignOrchestrator.Delivery

/-! ## Replacing one delivery in the list -/

section SetFlatten

variable {α β : Type} [DecidableEq β] {l : List α} {i : Nat} {a : α}

/-- Replacing one element replaces its part of the flattened list. -/
theorem perm_flatten_set (h : l[i]? = some a) (f : α → List β) (b : α) :
    (((l.set i b).map f).flatten ++ f a).Perm ((l.map f).flatten ++ f b) := by
  induction l generalizing i with
  | nil => cases h
  | cons x xs ih =>
    cases i with
    | zero =>
      simp only [List.getElem?_cons_zero, Option.some.injEq] at h
      subst h
      simp only [List.set_cons_zero, List.map_cons, List.flatten_cons]
      exact List.perm_iff_count.2 fun y => by simp only [List.count_append]; omega
    | succ i =>
      simp only [List.getElem?_cons_succ] at h
      simp only [List.set_cons_succ, List.map_cons, List.flatten_cons, List.append_assoc]
      exact (ih h).append_left (f x)

theorem perm_flatten_set_append (h : l[i]? = some a) (f : α → List β) {b : α} {x : List β}
    (hx : f b = f a ++ x) : ((l.set i b).map f).flatten.Perm ((l.map f).flatten ++ x) := by
  have hp := perm_flatten_set h f b
  rw [hx] at hp
  exact (List.perm_append_right_iff (f a)).1
    (hp.trans (List.perm_iff_count.2 fun y => by simp only [List.count_append]; omega))

theorem perm_flatten_set_of_eq (h : l[i]? = some a) (f : α → List β) {b : α} (hb : f b = f a) :
    ((l.set i b).map f).flatten.Perm (l.map f).flatten := by
  simpa only [List.append_nil] using
    perm_flatten_set_append h f (x := []) (by rw [hb, List.append_nil])

theorem perm_flatten_set_cons (h : l[i]? = some a) (f : α → List β) {b : α} {y : β}
    (hy : f a = y :: f b) : (l.map f).flatten.Perm (y :: ((l.set i b).map f).flatten) := by
  have hp := perm_flatten_set h f b
  rw [hy] at hp
  exact ((List.perm_append_right_iff (f b)).1
    (List.perm_middle.symm.trans hp)).symm

/-- Writing an element back in its own place leaves the list as it was there. -/
theorem getElem?_set_of_self {j : Nat} {b : α} (h : l[i]? = some a) (hb : j = i → b = a) :
    (l.set j b)[i]? = some a := by
  by_cases hji : j = i
  · subst hji
    rw [hb rfl, List.getElem?_set_self (List.getElem?_eq_some_iff.1 h).1]
  · rw [List.getElem?_set_ne hji]
    exact h

/-- Lists that each hold `y` at most once hold it, together, at most once per list. -/
theorem count_flatten_le_length {y : β} :
    ∀ {L : List (List β)}, (∀ x ∈ L, x.count y ≤ 1) → L.flatten.count y ≤ L.length
  | [], _ => by simp
  | x :: L, h => by
    have hx := h x (List.mem_cons_self _ _)
    have hL := count_flatten_le_length fun x' hx' => h x' (List.mem_cons_of_mem _ hx')
    rw [List.flatten_cons, List.count_append, List.length_cons]
    omega

end SetFlatten

/-! ## The world -/

/-- What every reachable campaign world keeps true. -/
structure CampaignWorld.Inv (w : CampaignWorld) : Prop where
  deliveries : ∀ d ∈ w.deliveries, d.Inv
  /-- Every message id was handed out before `nextId`, and no two messages share one. -/
  fresh : ∀ m ∈ w.store.messages, m.id < w.store.nextId
  ids : (w.store.messages.map (·.id)).Nodup
  /-- The orchestrator creates its messages PENDING, and nothing on this side changes them. -/
  pending : ∀ m ∈ w.store.messages, m.status = .pending
  /-- Every committed message was created by one delivery. -/
  created : w.store.messages.Perm (w.deliveries.map (·.created)).flatten
  /-- Every committed message has its dispatch job published or waits in one delivery's batch. -/
  covered : ∃ ms, w.store.jobs = ms.map dispatchQueueMessage ∧
    w.store.messages.Perm (ms ++ (w.deliveries.map (·.unqueued)).flatten)

namespace CampaignWorld

theorem inv_init (row : CampaignModel) (nextId : Nat) : (init ⟨row, [], [], nextId⟩).Inv :=
  ⟨fun _ h => absurd h (List.not_mem_nil _), fun _ h => absurd h (List.not_mem_nil _),
    List.nodup_nil, fun _ h => absurd h (List.not_mem_nil _), List.Perm.nil, [], rfl,
    List.Perm.nil⟩

/-- A step that leaves the messages, the jobs and the deliveries keeps the invariant. -/
theorem Inv.of_eq {w w' : CampaignWorld} (h : w.Inv) (hm : w'.store.messages = w.store.messages)
    (hj : w'.store.jobs = w.store.jobs) (hn : w'.store.nextId = w.store.nextId)
    (hd : w'.deliveries = w.deliveries) : w'.Inv := by
  obtain ⟨ms, hjobs, hperm⟩ := h.covered
  refine ⟨hd ▸ h.deliveries, hm ▸ hn ▸ h.fresh, hm ▸ h.ids, hm ▸ h.pending, hm ▸ hd ▸ h.created,
    ms, hj ▸ hjobs, hm ▸ hd ▸ hperm⟩

theorem Inv.start {w : CampaignWorld} (h : w.Inv) (d : Delivery) (hd : d.Inv)
    (hc : d.created = []) (hu : d.unqueued = []) :
    ({ w with deliveries := w.deliveries ++ [d] } : CampaignWorld).Inv := by
  obtain ⟨ms, hjobs, hperm⟩ := h.covered
  refine ⟨List.forall_mem_append.2 ⟨h.deliveries, List.forall_mem_singleton.2 hd⟩, h.fresh, h.ids,
    h.pending, ?_, ms, hjobs, ?_⟩
  · simpa only [List.map_append, List.flatten_append, List.map_singleton, List.flatten_singleton,
      hc, List.append_nil] using h.created
  · simpa only [List.map_append, List.flatten_append, List.map_singleton, List.flatten_singleton,
      hu, List.append_nil] using hperm

section DeliveryStep

variable {w : CampaignWorld} (h : w.Inv) {i : Nat} {d d' : Delivery}
  (hd : w.deliveries[i]? = some d) (hd' : d'.Inv) {st : Store}
include h hd hd'

/-- Replacing a delivery by one that keeps what it created and its batch, over a store with the
same messages, jobs and ids, keeps the invariant. -/
theorem Inv.replace (hc : d'.created = d.created) (hu : d'.unqueued = d.unqueued)
    (hm : st.messages = w.store.messages) (hj : st.jobs = w.store.jobs)
    (hn : st.nextId = w.store.nextId) :
    ({ w with store := st, deliveries := w.deliveries.set i d' } : CampaignWorld).Inv := by
  obtain ⟨ms, hjobs, hperm⟩ := h.covered
  exact ⟨forall_mem_set h.deliveries hd', hm ▸ hn ▸ h.fresh, hm ▸ h.ids, hm ▸ h.pending,
    hm ▸ h.created.trans (perm_flatten_set_of_eq hd _ hc).symm, ms, hj ▸ hjobs,
    hm ▸ hperm.trans ((perm_flatten_set_of_eq hd _ hu).symm.append_left ms)⟩

/-- Publishing the head `m` of a delivery's batch keeps the invariant. -/
theorem Inv.publish {m : Message} (hu : d.unqueued = m :: d'.unqueued)
    (hc : d'.created = d.created) (hm : st.messages = w.store.messages)
    (hj : st.jobs = w.store.jobs ++ [dispatchQueueMessage m]) (hn : st.nextId = w.store.nextId) :
    ({ w with store := st, deliveries := w.deliveries.set i d' } : CampaignWorld).Inv := by
  obtain ⟨ms, hjobs, hperm⟩ := h.covered
  refine ⟨forall_mem_set h.deliveries hd', hm ▸ hn ▸ h.fresh, hm ▸ h.ids, hm ▸ h.pending,
    hm ▸ h.created.trans (perm_flatten_set_of_eq hd _ hc).symm, ms ++ [m], ?_, ?_⟩
  · rw [hj, hjobs, List.map_append, List.map_singleton]
  · rw [hm, List.append_assoc, List.singleton_append]
    exact hperm.trans ((perm_flatten_set_cons hd (·.unqueued) hu).append_left ms)

/-- Creating and committing a batch of PENDING messages with fresh ids keeps the invariant. -/
theorem Inv.create {msgs : List Message} (hu0 : d.unqueued = []) (hu : d'.unqueued = msgs)
    (hc : d'.created = d.created ++ msgs) (hm : st.messages = w.store.messages ++ msgs)
    (hj : st.jobs = w.store.jobs) (hn : st.nextId = w.store.nextId + msgs.length)
    (hids : msgs.map (·.id) = List.range' w.store.nextId msgs.length)
    (hpend : ∀ m ∈ msgs, m.status = .pending) :
    ({ w with store := st, deliveries := w.deliveries.set i d' } : CampaignWorld).Inv := by
  obtain ⟨ms, hjobs, hperm⟩ := h.covered
  have hnew : ∀ m ∈ msgs, w.store.nextId ≤ m.id ∧ m.id < w.store.nextId + msgs.length :=
    fun m hmem => List.mem_range'_1.1 (hids ▸ List.mem_map_of_mem _ hmem)
  have hx : d'.unqueued = d.unqueued ++ msgs := by rw [hu, hu0, List.nil_append]
  refine ⟨forall_mem_set h.deliveries hd', ?_, ?_, hm ▸ List.forall_mem_append.2 ⟨h.pending, hpend⟩,
    hm ▸ (h.created.append_right msgs).trans (perm_flatten_set_append hd _ hc).symm, ms,
    hj ▸ hjobs, ?_⟩
  · rw [hm, hn]
    exact List.forall_mem_append.2
      ⟨fun m hmem => Nat.lt_add_right _ (h.fresh m hmem), fun m hmem => (hnew m hmem).2⟩
  · rw [hm, List.map_append, List.nodup_append]
    refine ⟨h.ids, hids ▸ List.nodup_range' _ _, fun x hx hy => ?_⟩
    obtain ⟨m1, hm1, rfl⟩ := List.mem_map.1 hx
    obtain ⟨m2, hm2, he⟩ := List.mem_map.1 hy
    have := (hnew m2 hm2).1
    have := h.fresh m1 hm1
    omega
  · rw [hm]
    exact (hperm.append_right msgs).trans
      (List.append_assoc .. ▸ (perm_flatten_set_append hd _ hx).symm.append_left ms)

end DeliveryStep

/-- One step of the `i`-th delivery keeps the invariant. -/
theorem Inv.deliveryStep {w : CampaignWorld} (h : w.Inv) {i : Nat} {d : Delivery}
    (hd : w.deliveries[i]? = some d) (now : Nat) :
    ({ w with
        store := (d.step w.store now).2,
        deliveries := w.deliveries.set i (d.step w.store now).1 } : CampaignWorld).Inv := by
  have hinv := (h.deliveries d (List.getElem?_mem hd)).step w.store now
  rcases Delivery.step_effect d w.store now with
    ⟨hm, hj, hn, hc, hu⟩ | ⟨m, hu, hj, hm, hn, hc⟩ | ⟨msgs, hu0, hu, hc, hm, hj, hn, hids, hpend⟩
  · exact h.replace hd hinv hc hu hm hj hn
  · exact h.publish hd hinv hu hc hm hj hn
  · exact h.create hd hinv hu0 hu hc hm hj hn hids hpend

/-- Every step keeps the invariant. -/
theorem Inv.step {cfg : Config} {w : CampaignWorld} (h : w.Inv) :
    ∀ e : CampaignEvent, (w.step cfg e).Inv
  | .increment _ | .serviceLoad => h.of_eq rfl rfl rfl rfl
  | .serviceFinish i _ _ => by
    simp only [CampaignWorld.step]
    split <;> exact h.of_eq rfl rfl rfl rfl
  | .orchestratorStart now =>
    h.start _ (Delivery.inv_start cfg _ now) (Delivery.start_created cfg _ now).1
      (Delivery.start_created cfg _ now).2
  | .orchestratorStep i now => by
    simp only [CampaignWorld.step]
    split
    · exact h.deliveryStep ‹_› now
    · exact h
  | .orchestratorStop i => by
    simp only [CampaignWorld.step]
    split
    · rename_i d hd
      exact h.replace hd (h.deliveries d (List.getElem?_mem hd)).stop rfl rfl rfl rfl rfl
    · exact h

theorem Inv.nodup_messages {w : CampaignWorld} (h : w.Inv) : w.store.messages.Nodup :=
  List.Nodup.of_map _ h.ids

/-- A message waiting in a delivery's batch is committed, PENDING, and has no dispatch job. -/
theorem Inv.unpublished {w : CampaignWorld} (h : w.Inv) {d : Delivery} (hd : d ∈ w.deliveries)
    {m : Message} (hm : m ∈ d.unqueued) :
    m ∈ w.store.messages ∧ m.status = .pending ∧
      ∃ ms : List Message, w.store.jobs = ms.map dispatchQueueMessage ∧ m ∉ ms := by
  obtain ⟨ms, hjobs, hperm⟩ := h.covered
  have hu : m ∈ (w.deliveries.map (·.unqueued)).flatten :=
    List.mem_flatten.2 ⟨_, List.mem_map_of_mem _ hd, hm⟩
  have hmem : m ∈ w.store.messages := hperm.mem_iff.2 (List.mem_append_right ms hu)
  exact ⟨hmem, h.pending m hmem, ms, hjobs, fun hms =>
    List.disjoint_of_nodup_append (hperm.nodup_iff.1 h.nodup_messages) hms hu⟩

/-- No recipient has more messages than the orchestrator job has had deliveries. -/
theorem Inv.count_phone_le {w : CampaignWorld} (h : w.Inv) (p : String) :
    (w.store.messages.map (·.recipientPhone)).count p ≤ w.deliveries.length :=
  calc (w.store.messages.map (·.recipientPhone)).count p
      = ((w.deliveries.map fun d => d.created.map (·.recipientPhone)).flatten).count p := by
        rw [(h.created.map _).count_eq, List.map_flatten, List.map_map]; rfl
    _ ≤ (w.deliveries.map fun d => d.created.map (·.recipientPhone)).length :=
        count_flatten_le_length fun x hx => by
          obtain ⟨d, hd, rfl⟩ := List.mem_map.1 hx
          exact (h.deliveries d hd).count_created_le_one p
    _ = w.deliveries.length := List.length_map _ _

/-- The jobs are the dispatch jobs of distinct committed messages. -/
theorem Inv.published {w : CampaignWorld} (h : w.Inv) :
    ∃ ms : List Message, w.store.jobs = ms.map dispatchQueueMessage ∧ ms.Nodup ∧
      ∀ m ∈ ms, m ∈ w.store.messages := by
  obtain ⟨ms, hjobs, hperm⟩ := h.covered
  exact ⟨ms, hjobs, (hperm.nodup_iff.1 h.nodup_messages).of_append_left,
    fun m hm => hperm.mem_iff.2 (List.mem_append_left _ hm)⟩

/-- Every reachable world keeps the invariant. -/
theorem Reachable.inv {cfg : Config} {w : CampaignWorld} (hw : Reachable cfg w) : w.Inv := by
  induction hw with
  | init row nextId => exact inv_init row nextId
  | step e _ ih => exact ih.step e

/-! ## Stopped deliveries -/

/-- A stopped delivery stays as it is through every step. -/
theorem stopped_step {cfg : Config} {w : CampaignWorld} {i : Nat} {d : Delivery}
    (hd : w.deliveries[i]? = some d) (hs : d.phase = .stopped) :
    ∀ e : CampaignEvent, (w.step cfg e).deliveries[i]? = some d
  | .increment _ | .serviceLoad => hd
  | .serviceFinish .. => by
    simp only [CampaignWorld.step]
    split <;> exact hd
  | .orchestratorStart _ => by
    simp only [CampaignWorld.step]
    rw [List.getElem?_append_left (List.getElem?_eq_some_iff.1 hd).1]
    exact hd
  | .orchestratorStep j now => by
    simp only [CampaignWorld.step]
    split
    · rename_i d' hd'
      refine getElem?_set_of_self hd fun hji => ?_
      cases hji
      cases hd'.symm.trans hd
      rw [Delivery.step_of_stopped hs]
    · exact hd
  | .orchestratorStop j => by
    simp only [CampaignWorld.step]
    split
    · rename_i d' hd'
      refine getElem?_set_of_self hd fun hji => ?_
      cases hji
      cases hd'.symm.trans hd
      cases d
      cases hs
      rfl
    · exact hd

theorem stopped_run {cfg : Config} {w : CampaignWorld} {i : Nat} {d : Delivery}
    (hd : w.deliveries[i]? = some d) (hs : d.phase = .stopped) :
    ∀ es, (w.run cfg es).deliveries[i]? = some d
  | [] => hd
  | e :: es => stopped_run (stopped_step hd hs e) hs es

end CampaignWorld

end RcsMessaging

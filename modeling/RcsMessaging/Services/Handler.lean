import RcsMessaging.Persistence.MessageRepo
import RcsMessaging.Ports

/-!
# `Services.Handler` — one worker job as a program over a unit of work

A queue handler of this repository opens a unit of work (`async with uow:`), loads one message,
calls its methods, flushes it with `save`, bumps campaign counters with `update_stats`, calls the
aggregator and publishes jobs, then commits (or rolls back on an escaping exception). `Handler`
is `EStateM Exn Ctx`: the context holds the aggregate in memory, the message row as flushed and
as last committed, the pending and committed counter increments, and the two effects that no
rollback can take back — aggregator sends and broker publishes. The database accepts every flush
and commit, and a job runs to its end: the failures a job meets are the aggregator's answers, a
failing publish and a failing `update_stats` (`Faults`).

`Triple P x Q` says that from a context in `P`, `x` ends in `Q` on every outcome, normal or
raised; `Keeps P x` is `Triple P x P`. The `triple_*` lemmas build it along the program's own
structure, so an invariant of the whole pipeline needs one lemma per primitive and one short
structural proof per handler.
-/

namespace RcsMessaging

/-- One `update_stats(campaign_id, {key: increment})` entry. -/
structure StatsIncrement where
  campaignId : Nat
  key : String
  increment : Nat
  deriving DecidableEq, Repr

/-- The state of one worker job. -/
structure Ctx where
  /-- The `Message` object the handler works on. -/
  msg : Message
  /-- The message row as flushed in the open transaction. -/
  row : MessageModel
  /-- The message row as last committed. -/
  durable : MessageModel
  /-- `update_stats` increments flushed in the open transaction. -/
  stats : List StatsIncrement
  /-- `update_stats` increments committed by this job. -/
  durableStats : List StatsIncrement
  /-- Aggregator sends issued, in order. -/
  sends : List SendCall
  /-- Jobs published to the broker, in order. -/
  published : List QueueMessage
  deriving DecidableEq, Repr

/-- A worker job's program. -/
abbrev Handler := EStateM Exn Ctx

/-- A job's context on a committed row: nothing flushed, nothing sent yet. -/
def Ctx.start (row : MessageModel) (now : Nat) : Ctx :=
  ⟨MessageRepo.toDomain row now, row, row, [], [], [], []⟩

/-! ## Primitives -/

/-- `messages.get_by_id` / `get_by_external_id` on the job's message. -/
def loadMsg (now : Nat) : Handler Unit := fun c =>
  .ok () { c with msg := MessageRepo.toDomain c.row now }

/-- Read the message object. -/
def getMsg : Handler Message := fun c => .ok c.msg c

/-- Call a method of the message object; its mutations stay even when it raises. -/
def onMsg (op : EStateM Exn Message Unit) : Handler Unit := fun c =>
  match op c.msg with
  | .ok _ m => .ok () { c with msg := m }
  | .error e m => .error e { c with msg := m }

/-- `messages.save(message)` of an existing row: `_update_from_domain`, then flush. -/
def saveMsg (now : Nat) : Handler Unit := fun c =>
  .ok () { c with row := MessageRepo.updateFromDomain c.row c.msg now }

/-- `campaigns.update_stats(campaign_id, {key: 1})`: one atomic increment, or a database error. -/
def updateStats (faults : Faults) (campaignId : Nat) (key : String) : Handler Unit := fun c =>
  if faults.stats then .error (.other "update_stats failed") c
  else .ok () { c with stats := c.stats ++ [⟨campaignId, key, 1⟩] }

/-- `queue.enqueue(job)`: a publish, or `QueueException("Enqueue failed: ...")`. -/
def publish (faults : Faults) (job : QueueMessage) : Handler Unit := fun c =>
  if faults.publish then .error (.queue "Enqueue failed: publish failed") c
  else .ok () { c with published := c.published ++ [job] }

/-- One aggregator send: it is issued whatever the aggregator then answers. -/
def callSend (agg : AggregatorAnswers) (call : SendCall) : Handler SendMessageResponse := fun c =>
  let c' := { c with sends := c.sends ++ [call] }
  match agg.send with
  | .returns r => .ok r c'
  | .raises e => .error e c'

/-- `uow.commit()`: the flushed row and increments become durable. -/
def commit : Handler Unit := fun c =>
  .ok () { c with durable := c.row, durableStats := c.durableStats ++ c.stats, stats := [] }

/-- `uow.rollback()`: back to the last commit; sends and publishes stay. -/
def Ctx.rollback (c : Ctx) : Ctx := { c with row := c.durable, stats := [] }

/-- `async with uow:` around `body`: commit on normal exit, roll back and re-raise otherwise. -/
def transaction (body : Handler Unit) : Handler Unit := fun c =>
  match body c with
  | .ok _ c' => commit c'
  | .error e c' => .error e c'.rollback

/-! ## Running a handler on a context

One equation per combinator and per primitive, so that a handler on a concrete context
evaluates by `simp` without unfolding the monad. -/

section Apply

variable {α β : Type} (c : Ctx)

@[simp] theorem bind_apply (x : Handler α) (f : α → Handler β) :
    (x >>= f) c = match x c with
      | .ok a s => f a s
      | .error e s => .error e s := by
  cases hx : x c <;> simp [bind, EStateM.bind, hx]

@[simp] theorem tryCatch_apply (x : Handler α) (h : Exn → Handler α) :
    (tryCatch x h) c = match x c with
      | .ok a s => .ok a s
      | .error e s => h e s := by
  cases hx : x c <;> simp [tryCatch, tryCatchThe, MonadExceptOf.tryCatch, EStateM.tryCatch, hx,
    EStateM.Backtrackable.restore, EStateM.dummyRestore]

@[simp] theorem pure_apply (a : α) : (pure a : Handler α) c = .ok a c := rfl

@[simp] theorem throw_apply (e : Exn) : (throw e : Handler α) c = .error e c := rfl

@[simp] theorem getMsg_apply : getMsg c = .ok c.msg c := rfl

@[simp] theorem loadMsg_apply (now : Nat) :
    loadMsg now c = .ok () { c with msg := MessageRepo.toDomain c.row now } := rfl

@[simp] theorem onMsg_apply (op : EStateM Exn Message Unit) :
    onMsg op c = match op c.msg with
      | .ok _ m => .ok () { c with msg := m }
      | .error e m => .error e { c with msg := m } := rfl

@[simp] theorem saveMsg_apply (now : Nat) :
    saveMsg now c = .ok () { c with row := MessageRepo.updateFromDomain c.row c.msg now } := rfl

@[simp] theorem publish_apply (faults : Faults) (job : QueueMessage) :
    publish faults job c = if faults.publish then .error (.queue "Enqueue failed: publish failed") c
      else .ok () { c with published := c.published ++ [job] } := rfl

@[simp] theorem updateStats_apply (faults : Faults) (cid : Nat) (key : String) :
    updateStats faults cid key c = if faults.stats then .error (.other "update_stats failed") c
      else .ok () { c with stats := c.stats ++ [⟨cid, key, 1⟩] } := rfl

@[simp] theorem callSend_apply (agg : AggregatorAnswers) (call : SendCall) :
    callSend agg call c = match agg.send with
      | .returns r => .ok r { c with sends := c.sends ++ [call] }
      | .raises e => .error e { c with sends := c.sends ++ [call] } := rfl

@[simp] theorem commit_apply :
    commit c = .ok () { c with durable := c.row, durableStats := c.durableStats ++ c.stats,
                               stats := [] } := rfl

@[simp] theorem transaction_apply (body : Handler Unit) :
    transaction body c = match body c with
      | .ok _ c' => commit c'
      | .error e c' => .error e c'.rollback := rfl

@[simp] theorem resultState_ok (a : α) : resultState (EStateM.Result.ok a c : EStateM.Result Exn Ctx α) = c := rfl

@[simp] theorem resultState_error (e : Exn) :
    resultState (EStateM.Result.error e c : EStateM.Result Exn Ctx α) = c := rfl

end Apply

/-! ## Triples over a job -/

/-- From a context satisfying `P`, `x` ends, whether it returns or raises, in one satisfying
`Q`. -/
def Triple {α : Type} (P : Ctx → Prop) (x : Handler α) (Q : Ctx → Prop) : Prop :=
  ∀ c, P c → Q (resultState (x c))

/-- `x` keeps `P` on every outcome. -/
abbrev Keeps {α : Type} (P : Ctx → Prop) (x : Handler α) : Prop := Triple P x P

section Triple

variable {α β : Type} {P Q : Ctx → Prop}

theorem triple_weaken {P' : Ctx → Prop} {x : Handler α} (h : ∀ c, P' c → P c)
    (hx : Triple P x Q) : Triple P' x Q := fun c hc => hx c (h c hc)

theorem keeps_pure (a : α) : Keeps P (pure a) := fun _ h => h

theorem keeps_throw (e : Exn) : Keeps P (throw e : Handler α) := fun _ h => h

theorem triple_bind {x : Handler α} {f : α → Handler β} (hx : Triple P x Q)
    (hf : ∀ a, Keeps Q (f a)) : Triple P (x >>= f) Q := by
  intro c hc
  show Q (resultState (EStateM.bind x f c))
  unfold EStateM.bind
  have h := hx c hc
  cases hxc : x c with
  | ok a s => rw [hxc] at h; exact hf a s h
  | error e s => rw [hxc] at h; exact h

/-- Sequencing through an intermediate `R`: a raise of `x` ends in `R`, which must imply `Q`. -/
theorem triple_bind_of {R : Ctx → Prop} {x : Handler α} {f : α → Handler β} (hx : Triple P x R)
    (hRQ : ∀ c, R c → Q c) (hf : ∀ a, Triple R (f a) Q) : Triple P (x >>= f) Q := by
  intro c hc
  show Q (resultState (EStateM.bind x f c))
  unfold EStateM.bind
  have h := hx c hc
  cases hxc : x c with
  | ok a s => rw [hxc] at h; exact hf a s h
  | error e s => rw [hxc] at h; exact hRQ s h

theorem keeps_getMsg : Keeps P getMsg := fun _ h => h

/-- Reading the message: the continuation may use that the value read is the context's. -/
theorem triple_getMsg_bind {f : Message → Handler β}
    (hf : ∀ m, Triple (fun c => P c ∧ c.msg = m) (f m) Q) : Triple P (getMsg >>= f) Q :=
  fun c hc => hf c.msg c ⟨hc, rfl⟩

theorem triple_tryCatch {x : Handler α} {h : Exn → Handler α} (hx : Triple P x Q)
    (hh : ∀ e, Keeps Q (h e)) : Triple P (tryCatch x h) Q := by
  intro c hc
  show Q (resultState (EStateM.tryCatch x h c))
  unfold EStateM.tryCatch
  have hxc' := hx c hc
  cases hxc : x c with
  | ok a s => rw [hxc] at hxc'; exact hxc'
  | error e s => rw [hxc] at hxc'; exact hh e s hxc'

theorem triple_ite {p : Prop} [Decidable p] {x y : Handler α} (hx : p → Triple P x Q)
    (hy : ¬ p → Triple P y Q) : Triple P (if p then x else y) Q := by
  split
  · exact hx ‹_›
  · exact hy ‹_›

/-- A method call ends in `Q` when `Q` holds of the context with whatever message the method
leaves behind. -/
theorem triple_onMsg {op : EStateM Exn Message Unit}
    (h : ∀ c, P c → Q { c with msg := resultState (op c.msg) }) : Triple P (onMsg op) Q := by
  intro c hc
  have := h c hc
  unfold onMsg
  cases hop : op c.msg <;> simpa [resultState, hop] using this

/-- A transaction ends in `Q` when its body does from `P`, and the commit and the rollback keep
`Q`. -/
theorem triple_transaction {body : Handler Unit} (hb : Triple P body Q) (hc : Keeps Q commit)
    (hr : ∀ c, Q c → Q c.rollback) : Triple P (transaction body) Q := by
  intro c h
  unfold transaction
  have := hb c h
  cases hbc : body c with
  | ok _ s => rw [hbc] at this; exact hc s this
  | error e s => rw [hbc] at this; exact hr s this

/-- A transaction keeps `P` when its body, the commit and the rollback do. -/
theorem keeps_transaction {body : Handler Unit} (hb : Keeps P body) (hc : Keeps P commit)
    (hr : ∀ c, P c → P c.rollback) : Keeps P (transaction body) := by
  intro c h
  unfold transaction
  have := hb c h
  cases hbc : body c with
  | ok _ s => rw [hbc] at this; exact hc s this
  | error e s => rw [hbc] at this; exact hr s this

end Triple

end RcsMessaging

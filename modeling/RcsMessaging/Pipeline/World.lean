import RcsMessaging.Workers.Fallback

/-!
# `Pipeline.World` — one message through the pipeline, step by step

The three workers touch a message one job at a time, and a job only ever touches its own message
row, its campaign's counters, the aggregator and the broker. So the pipeline, seen from one
message, is a state machine: `World` is the committed row together with everything that has
escaped the database so far (committed counter increments, aggregator sends, published jobs), and
an `Event` is one delivery of one of its jobs or one status webhook.

Deliveries are *arbitrary*: at-least-once delivery means a job can be processed again after it
was processed and committed (its acknowledgement lost), so a run is any sequence of events, not
only the one the published jobs would produce. Each event carries what the environment answers
during it (aggregator answers, failing infrastructure calls, the clock).

`Reachable` is generated by `Message.create` stored through `_to_model`, and `World.step`.
-/

namespace RcsMessaging

/-- One message's committed row and the effects its jobs have had. -/
structure World where
  row : MessageModel
  stats : List StatsIncrement
  sends : List SendCall
  published : List QueueMessage
  deriving DecidableEq, Repr

/-- One pipeline step on the message. -/
inductive Event
  /-- A delivery of a dispatch job to `MessageDispatcher.process_message_job`. -/
  | dispatch (agg : AggregatorAnswers) (faults : Faults) (now : Nat)
  /-- A parsed delivery-status webhook for `externalId`. -/
  | statusUpdate (externalId status : String) (errorCode errorMessage : Option String)
      (faults : Faults) (now : Nat)
  /-- A delivery of a fallback job to `SMSFallbackWorker.process_fallback_job`. -/
  | fallbackJob (agg : AggregatorAnswers) (faults : Faults) (now : Nat)
  deriving DecidableEq, Repr

/-- The clock reading of an event. -/
def Event.now : Event → Nat
  | .dispatch _ _ now | .statusUpdate _ _ _ _ _ now | .fallbackJob _ _ now => now

/-- The worker program an event runs. -/
def Event.handler : Event → Handler Unit
  | .dispatch agg f now => MessageDispatcher.processMessageJob agg f now
  | .statusUpdate _ status code text f now => WebhookProcessor.processWebhookJob status code text f now
  | .fallbackJob agg f now => SMSFallbackWorker.processFallbackJob agg f now

/-- A status update reaches the message only when `get_by_external_id` finds it. -/
def Event.applies (w : World) : Event → Bool
  | .statusUpdate ext .. => w.row.externalId = some ext
  | _ => true

/-- A fresh world on a just-inserted row. -/
def World.init (row : MessageModel) : World := ⟨row, [], [], []⟩

/-- Fold a finished job into the world: its committed row and everything it let escape. -/
def World.absorb (w : World) (c : Ctx) : World :=
  ⟨c.durable, w.stats ++ c.durableStats, w.sends ++ c.sends, w.published ++ c.published⟩

/-- One step: run the event's handler on the committed row. -/
def World.step (w : World) (e : Event) : World :=
  if e.applies w then w.absorb (resultState (e.handler (Ctx.start w.row e.now))) else w

/-- A run of events. -/
def World.run (w : World) (es : List Event) : World := es.foldl World.step w

@[simp] theorem World.run_nil (w : World) : w.run [] = w := rfl
@[simp] theorem World.run_cons (w : World) (e : Event) (es : List Event) :
    w.run (e :: es) = (w.step e).run es := rfl

/-- The worlds a message can be in: stored by `Message.create` and `_to_model`, then stepped. -/
inductive Reachable : World → Prop
  | create {id campaignId tenantId now : Nat} {phone priority : String}
      {content : MessageContent} {row : MessageModel} :
      MessageRepo.toModel (Message.create id campaignId tenantId phone content priority now) =
        .ok row → Reachable (World.init row)
  | step {w : World} (e : Event) : Reachable w → Reachable (w.step e)

end RcsMessaging

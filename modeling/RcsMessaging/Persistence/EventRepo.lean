import RcsMessaging.Domain.Campaign

/-!
# `Persistence.EventRepo` — `save_event` and the `events` table

Shallow embedding of `adapters/db/repositories/event_repo.py`. `save_event` selects every event
of the aggregate, takes `scalar_one_or_none()` of the result as "the last event", stores version
`1` if there is none and `last.version + 1` otherwise, then adds and flushes the row.
`scalar_one_or_none()` raises `MultipleResultsFound` once two events of the aggregate are
visible, so the `order_by(version.desc())` of the query never decides anything and is left out.

A unit of work sees the committed rows and its own flushed rows (PostgreSQL's READ COMMITTED).
`EventTable` runs units of work side by side. The `(aggregate_id, version)` index is not unique,
so a commit never fails on a repeated version.
-/

namespace RcsMessaging

/-- A row of the `events` table (`EventModel`), without `id`, `data`, `metadata_` and
`created_at`. -/
structure EventModel where
  eventType : String
  aggregateId : Nat
  aggregateType : String
  version : Nat
  deriving DecidableEq, Repr

/-- The `MultipleResultsFound` that `scalar_one_or_none()` raises. -/
def multipleResultsFound : Exn :=
  .other "Multiple rows were found when one or none was required"

/-- `result.scalar_one_or_none()`: the only row, `None`, or `MultipleResultsFound`. -/
def scalarOneOrNone {α : Type} : List α → Except Exn (Option α)
  | [] => .ok none
  | [a] => .ok (some a)
  | _ :: _ :: _ => .error multipleResultsFound

namespace EventRepo

/-- The rows of `select(EventModel).where(EventModel.aggregate_id == aggregate_id)` among the rows
a unit of work sees. -/
def selectByAggregate (visible : List EventModel) (aggregateId : Nat) : List EventModel :=
  visible.filter (·.aggregateId = aggregateId)

/-- `save_event(event_type, aggregate_id, aggregate_type, data)` in a unit of work that sees
`visible`: the row it adds and flushes. -/
def saveEvent (visible : List EventModel) (eventType : String) (aggregateId : Nat)
    (aggregateType : String) : Except Exn EventModel := do
  let lastEvent ← scalarOneOrNone (selectByAggregate visible aggregateId)
  let version := match lastEvent with
    | none => 1
    | some e => e.version + 1
  pure ⟨eventType, aggregateId, aggregateType, version⟩

/-- `save_event` calls `(event_type, aggregate_id, aggregate_type)` one after the other, each
seeing the rows flushed before it: the rows flushed, or the first exception. -/
def saveEvents (visible : List EventModel) :
    List (String × Nat × String) → Except Exn (List EventModel)
  | [] => .ok []
  | (eventType, aggregateId, aggregateType) :: calls => do
    let row ← saveEvent visible eventType aggregateId aggregateType
    let rows ← saveEvents (visible ++ [row]) calls
    pure (row :: rows)

/-! ## One call -/

section SaveEvent

variable {visible : List EventModel} {eventType aggregateType : String} {aggregateId : Nat}

end SaveEvent

/-- The `events` table under concurrent units of work. -/
structure EventTable where
  committed : List EventModel
  /-- The rows each unit of work has flushed, by the order they began; `none` once it ended. -/
  sessions : List (Option (List EventModel))
  deriving DecidableEq, Repr

/-- One step of one unit of work. -/
inductive EventTableEvent
  /-- A unit of work begins. -/
  | begin
  /-- The `i`-th unit of work runs `save_event`. -/
  | saveEvent (i : Nat) (eventType : String) (aggregateId : Nat) (aggregateType : String)
  /-- The `i`-th unit of work commits. -/
  | commit (i : Nat)
  deriving DecidableEq, Repr

/-- One step; a raising `save_event` ends its unit of work, which rolls back. -/
def EventTable.step (t : EventTable) : EventTableEvent → EventTable
  | .begin => { t with sessions := t.sessions ++ [some []] }
  | .saveEvent i eventType aggregateId aggregateType =>
    match t.sessions[i]? with
    | some (some flushed) =>
      match saveEvent (t.committed ++ flushed) eventType aggregateId aggregateType with
      | .ok row => { t with sessions := t.sessions.set i (some (flushed ++ [row])) }
      | .error _ => { t with sessions := t.sessions.set i none }
    | _ => t
  | .commit i =>
    match t.sessions[i]? with
    | some (some flushed) => ⟨t.committed ++ flushed, t.sessions.set i none⟩
    | _ => t

/-- A run of steps. -/
def EventTable.run (t : EventTable) (es : List EventTableEvent) : EventTable := es.foldl step t

end EventRepo

end RcsMessaging

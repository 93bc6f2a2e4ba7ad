import Split402.Base.Sort
import Split402.Store.Schema

/-! # The outbox store

`PostgresOutboxEventStore`, as the worker that verifies receipts uses it: an event is claimed, then
marked delivered or failed. Each is one SQL update; the row it returns is read back afterwards, and
a row that cannot be read throws although the update is committed. -/

namespace Split402

open Base (Table sortBy)

/-- A row with the columns only the outbox store writes. -/
structure OutboxRow extends OutboxEventRow where
  lockedAt : Option Int
  lastError : Option String

abbrev Outbox := Table (fun row : OutboxRow => row.id)

structure OutboxEventRecord where
  id : String
  eventType : String
  aggregateType : String
  aggregateId : String
  payload : List (String × Json)
  status : OutboxEventStatus
  attempts : Nat
  availableAt : String
  lockedAt : Option String
  lastError : Option String
  createdAt : String

def parseOutboxPayload : Json → Except PayoutError (List (String × Json))
  | .obj fields => pure fields
  | _ => throw (.other "outbox payload must be an object")

def mapOutboxEvent (host : Host) (row : OutboxRow) : Except PayoutError OutboxEventRecord := do
  let payload ← parseOutboxPayload row.payload
  pure ⟨row.id, row.eventType, row.aggregateType, row.aggregateId, payload, row.status, row.attempts,
    host.toISOString row.availableAt, row.lockedAt.map host.toISOString, row.lastError,
    host.toISOString row.createdAt⟩

namespace Outbox

variable (host : Host)

/-- `order by available_at, created_at, id`. -/
def order (a b : OutboxRow) : Ordering :=
  (compare a.availableAt b.availableAt).then
    ((compare a.createdAt b.createdAt).then (compareUtf16 a.id b.id))

/-- The events that can be claimed, the first one first. -/
def claimable (outbox : Outbox) (now : Int) (eventTypes : List String) : List OutboxRow :=
  sortBy order (outbox.rows.filter (fun row =>
    row.status == .pending && decide (row.availableAt ≤ now) && row.eventType ∈ eventTypes))

/-- The row a claim leaves. -/
def claimed (row : OutboxRow) (now : Int) : OutboxRow :=
  { row with
    status := .processing
    attempts := row.attempts + 1
    lockedAt := some now
    lastError := none }

/-- What is committed comes first, then what the call returns or throws. -/
def claimNext (outbox : Outbox) (now : String) (eventTypes : List String) :
    Outbox × Except PayoutError (Option OutboxEventRecord) :=
  match timestamptz host now with
  | .error e => (outbox, .error e)
  | .ok lockedAt =>
      match outbox.claimable lockedAt eventTypes with
      | [] => (outbox, .ok none)
      | row :: _ =>
          (outbox.upsert (claimed row lockedAt), some <$> mapOutboxEvent host (claimed row lockedAt))

/-- `update … where id = $1 and status = 'processing'`. -/
def settle (outbox : Outbox) (eventId : String) (change : OutboxRow → OutboxRow) :
    Outbox × Except PayoutError (Option OutboxEventRecord) :=
  match (outbox.find? eventId).filter (fun row => row.status == .processing) with
  | none => (outbox, .ok none)
  | some row => (outbox.upsert (change row), some <$> mapOutboxEvent host (change row))

def markDelivered (outbox : Outbox) (eventId : String) :
    Outbox × Except PayoutError (Option OutboxEventRecord) :=
  outbox.settle host eventId (fun row =>
    { row with status := .delivered, lockedAt := none, lastError := none })

def markFailed (outbox : Outbox) (eventId lastError availableAt : String) (deadLetter : Bool) :
    Outbox × Except PayoutError (Option OutboxEventRecord) :=
  match timestamptz host availableAt with
  | .error e => (outbox, .error e)
  | .ok availableAt =>
      outbox.settle host eventId (fun row =>
        { row with
          status := if deadLetter then .deadLetter else .pending
          availableAt := availableAt
          lockedAt := none
          lastError := some lastError })

end Outbox

end Split402

import Split402.Base.Async
import Split402.Base.Sort
import Split402.Base.Table
import Split402.Host
import Split402.Protocol.Signing

/-! # The merchant's receipt outbox

The merchant SDK keeps the receipts it has issued in an outbox and submits them to the control plane.
`dispatchNext` claims a pending record, submits its receipt, and marks the record with the answer. A
claim takes nothing: it returns a copy of the record. Errors are their messages. -/

namespace Split402

open Base (Table sortBy Async Pool System)

inductive MerchantReceiptOutboxStatus
  | pending | accepted | deadLetter
  deriving DecidableEq, Repr

structure MerchantReceiptOutboxRecord where
  id : String
  receiptId : String
  receiptHash : String
  receiptJson : Split402ReceiptV1
  attempts : Nat
  nextAttemptAt : String
  status : MerchantReceiptOutboxStatus
  createdAt : String
  updatedAt : String
  lastError : Option String
  deriving DecidableEq

/-- `drawnId` is the id that is drawn when the input names none, `clock` the time. -/
structure EnqueueMerchantReceiptInput where
  id : Option String
  receipt : Split402ReceiptV1
  now : Option String
  nextAttemptAt : Option String
  drawnId : String
  clock : Int

inductive MerchantReceiptSubmissionResult
  | accepted
  | retry (error : String)
  | rejected (error : String)

inductive MerchantReceiptOutboxDispatchResult
  | idle
  | accepted (record : MerchantReceiptOutboxRecord)
  | retryScheduled (record : MerchantReceiptOutboxRecord) (lastError nextAttemptAt : String)
  | deadLetter (record : MerchantReceiptOutboxRecord) (lastError : String)

/-- `InMemoryMerchantReceiptOutboxStore`. -/
structure MerchantOutbox where
  recordsById : Table MerchantReceiptOutboxRecord.id
  recordIdByReceiptId : Table (Prod.fst : String × String → String)

namespace MerchantOutbox

variable (host : Host)

def empty : MerchantOutbox := ⟨Table.empty, Table.empty⟩

def assertUtc (value label : String) : Except String String :=
  if value.toList.getLast? ≠ some 'Z' ∨ (host.dateParse value).isNone then
    throw (label ++ " must be a UTC timestamp")
  else pure value

section Enqueue

variable {ν : Type} (runtime : Runtime ν) (zod : Zod)

def enqueueReceipt (store : MerchantOutbox) (input : EnqueueMerchantReceiptInput) :
    Except String (MerchantReceiptOutboxRecord × MerchantOutbox) :=
  if !split402ReceiptV1Schema zod input.receipt then throw "invalid receipt"
  else do
    let receiptHash ← hashReceipt runtime input.receipt
    match store.recordIdByReceiptId.find? input.receipt.receiptId with
    | some (_, existingId) =>
        match (store.recordsById.find? existingId).filter (·.receiptHash = receiptHash) with
        | some existing => pure (existing, store)
        | none =>
            throw ("receipt already enqueued with different hash: " ++ input.receipt.receiptId)
    | none =>
        let now ← assertUtc host (input.now.getD (host.toISOString input.clock)) "now"
        let nextAttemptAt ← assertUtc host (input.nextAttemptAt.getD now) "nextAttemptAt"
        let record : MerchantReceiptOutboxRecord :=
          ⟨input.id.getD input.drawnId, input.receipt.receiptId, receiptHash, input.receipt, 0,
            nextAttemptAt, .pending, now, now, none⟩
        pure (record, ⟨store.recordsById.upsert record,
          store.recordIdByReceiptId.upsert (record.receiptId, record.id)⟩)

end Enqueue

/-- The sign of `Date.parse(left) - Date.parse(right)`; `none` is `NaN`. -/
def compareDates (left right : String) : Option Ordering :=
  match host.dateParse left, host.dateParse right with
  | some left, some right => some (compare left right)
  | _, _ => none

def comparePendingRecords (left right : MerchantReceiptOutboxRecord) : Ordering :=
  match compareDates host left.nextAttemptAt right.nextAttemptAt with
  | some .eq =>
      match compareDates host left.createdAt right.createdAt with
      | some .eq => host.localeCompare left.id right.id
      | createdAtComparison => createdAtComparison.getD .eq
  | nextAttemptComparison => nextAttemptComparison.getD .eq

def claimNextPending (store : MerchantOutbox) (now : String) :
    Except String (Option MerchantReceiptOutboxRecord) := do
  let now ← assertUtc host now "now"
  pure (sortBy (comparePendingRecords host) (store.recordsById.rows.filter (fun candidate =>
    candidate.status = .pending &&
      (host.dateParse candidate.nextAttemptAt).any (fun at' =>
        (host.dateParse now).any (at' ≤ ·))))).head?

/-- The record of an id, when there is one, is changed and returned. -/
def mark (store : MerchantOutbox) (id : String)
    (change : MerchantReceiptOutboxRecord → Except String MerchantReceiptOutboxRecord) :
    Except String (Option MerchantReceiptOutboxRecord × MerchantOutbox) :=
  match store.recordsById.find? id with
  | none => pure (none, store)
  | some record => do
      let updated ← change record
      pure (some updated, { store with recordsById := store.recordsById.upsert updated })

def markAccepted (store : MerchantOutbox) (id : String) (attempts : Nat) (now : String) :
    Except String (Option MerchantReceiptOutboxRecord × MerchantOutbox) :=
  store.mark id fun record => do
    let updatedAt ← assertUtc host now "now"
    pure { record with
      attempts := attempts
      status := .accepted
      updatedAt := updatedAt
      lastError := none }

def markRetry (store : MerchantOutbox) (id : String) (attempts : Nat)
    (lastError nextAttemptAt now : String) :
    Except String (Option MerchantReceiptOutboxRecord × MerchantOutbox) :=
  store.mark id fun record => do
    let nextAttemptAt ← assertUtc host nextAttemptAt "nextAttemptAt"
    let updatedAt ← assertUtc host now "now"
    pure { record with
      attempts := attempts
      nextAttemptAt := nextAttemptAt
      status := .pending
      updatedAt := updatedAt
      lastError := some lastError }

def markDeadLetter (store : MerchantOutbox) (id : String) (attempts : Nat)
    (lastError now : String) :
    Except String (Option MerchantReceiptOutboxRecord × MerchantOutbox) :=
  store.mark id fun record => do
    let updatedAt ← assertUtc host now "now"
    pure { record with
      attempts := attempts
      status := .deadLetter
      updatedAt := updatedAt
      lastError := some lastError }

end MerchantOutbox

/-- `MerchantReceiptOutboxDispatcher`; its constructor throws on options that are not positive. -/
structure MerchantReceiptOutboxDispatcher where
  maxAttempts : Nat
  retryDelayMs : Nat
  maxAttempts_pos : 0 < maxAttempts
  retryDelayMs_pos : 0 < retryDelayMs

/-- One call: the dispatcher it is made of, the reading of its clock, and the submitter's answer. -/
structure DispatchCall where
  dispatcher : MerchantReceiptOutboxDispatcher
  clock : Int
  submission : Except String MerchantReceiptSubmissionResult

namespace MerchantDispatch

/-- What a call awaits. -/
inductive Op
  | claimNextPending (now : String)
  | submitReceipt (receipt : Split402ReceiptV1)
  | markAccepted (id : String) (attempts : Nat) (now : String)
  | markRetry (id : String) (attempts : Nat) (lastError nextAttemptAt now : String)
  | markDeadLetter (id : String) (attempts : Nat) (lastError now : String)

abbrev Op.Answer : Op → Type
  | .submitReceipt _ => MerchantReceiptSubmissionResult
  | _ => Option MerchantReceiptOutboxRecord

/-- A program that awaits these. -/
abbrev Await (α : Type) : Type := Async Op Op.Answer String α

namespace Await

def claimNextPending (now : String) : Await (Option MerchantReceiptOutboxRecord) :=
  Async.call (Op.claimNextPending now)

def submitReceipt (receipt : Split402ReceiptV1) : Await MerchantReceiptSubmissionResult :=
  Async.call (Op.submitReceipt receipt)

def markAccepted (id : String) (attempts : Nat) (now : String) :
    Await (Option MerchantReceiptOutboxRecord) :=
  Async.call (Op.markAccepted id attempts now)

def markRetry (id : String) (attempts : Nat) (lastError nextAttemptAt now : String) :
    Await (Option MerchantReceiptOutboxRecord) :=
  Async.call (Op.markRetry id attempts lastError nextAttemptAt now)

def markDeadLetter (id : String) (attempts : Nat) (lastError now : String) :
    Await (Option MerchantReceiptOutboxRecord) :=
  Async.call (Op.markDeadLetter id attempts lastError now)

/-- What throws at once, without an await. -/
def ofExcept {α : Type} (result : Except String α) : Await α := Async.done result

end Await

variable (host : Host)

/-- `new Date(Date.parse(now) + delay).toISOString()`: a time out of range throws. -/
def nextAttemptAt (call : DispatchCall) (now : String) : Except String String :=
  match host.dateParse now with
  | none => throw "Invalid time value"
  | some ms =>
      let attemptAt := ms + call.dispatcher.retryDelayMs
      if attemptAt.natAbs ≤ 8640000000000000 then pure (host.toISOString attemptAt)
      else throw "Invalid time value"

def deadLetter (record : MerchantReceiptOutboxRecord) (lastError now : String) :
    Await MerchantReceiptOutboxDispatchResult := do
  let deadLetter ← Await.markDeadLetter record.id (record.attempts + 1) lastError now
  pure (.deadLetter (deadLetter.getD record) lastError)

/-- What is done with a submission. -/
def settle (call : DispatchCall) (now : String) (record : MerchantReceiptOutboxRecord) :
    MerchantReceiptSubmissionResult → Await MerchantReceiptOutboxDispatchResult
  | .accepted => do
      let accepted ← Await.markAccepted record.id (record.attempts + 1) now
      pure (.accepted (accepted.getD record))
  | .rejected lastError => deadLetter record lastError now
  | .retry lastError =>
      if call.dispatcher.maxAttempts ≤ record.attempts + 1 then deadLetter record lastError now
      else do
        let nextAttemptAt ← Await.ofExcept (nextAttemptAt host call now)
        let retry ← Await.markRetry record.id (record.attempts + 1) lastError nextAttemptAt now
        pure (.retryScheduled (retry.getD record) lastError nextAttemptAt)

def dispatchNext (call : DispatchCall) : Await MerchantReceiptOutboxDispatchResult := do
  let now := host.toISOString call.clock
  match ← Await.claimNextPending now with
  | none => pure .idle
  | some record => do
      let submission ← Await.submitReceipt record.receiptJson
      settle host call now record submission

/-! ## Calls over an outbox -/

/-- What a store operation leaves and answers. -/
def served {α : Type} (store : MerchantOutbox) (result : Except String (α × MerchantOutbox)) :
    MerchantOutbox × Except String α :=
  match result with
  | .ok (answer, store') => (store', .ok answer)
  | .error e => (store, .error e)

/-- How an operation of a call is served. -/
def serve (call : DispatchCall) (store : MerchantOutbox) :
    (op : Op) → MerchantOutbox × Except String op.Answer
  | .claimNextPending now => (store, store.claimNextPending host now)
  | .submitReceipt _ => (store, call.submission)
  | .markAccepted id attempts now => served store (store.markAccepted host id attempts now)
  | .markRetry id attempts lastError nextAttemptAt now =>
      served store (store.markRetry host id attempts lastError nextAttemptAt now)
  | .markDeadLetter id attempts lastError now =>
      served store (store.markDeadLetter host id attempts lastError now)

/-- Dispatches under way over an outbox. -/
abbrev Dispatches : Type :=
  Pool DispatchCall MerchantOutbox Op Op.Answer String MerchantReceiptOutboxDispatchResult

variable {ν : Type} (runtime : Runtime ν) (zod : Zod)

/-- Any number of dispatches over an outbox, while receipts are enqueued. -/
def dispatchSystem : System Dispatches (Pool.Event DispatchCall EnqueueMerchantReceiptInput) :=
  Pool.system (fun call s op t answer => serve host call s op = (t, answer))
    (fun s input t => ∃ record, s.enqueueReceipt host runtime zod input = .ok (record, t))
    (dispatchNext host) (fun s => s = MerchantOutbox.empty)

/-- The id, attempts and status an operation marks a record with. -/
def Op.marks : Op → Option (String × Nat × MerchantReceiptOutboxStatus)
  | .claimNextPending _ | .submitReceipt _ => none
  | .markAccepted id attempts _ => some (id, attempts, .accepted)
  | .markRetry id attempts _ _ _ => some (id, attempts, .pending)
  | .markDeadLetter id attempts _ _ => some (id, attempts, .deadLetter)

/-- A mark comes too late: by now another dispatch has marked the record, with more attempts or for
good and otherwise. -/
def tooLate (store : MerchantOutbox) (op : Op) : Bool :=
  op.marks.any (fun (id, attempts, status) =>
    (store.recordsById.find? id).any (fun record =>
      decide (attempts < record.attempts) || (record.status != .pending && record.status != status)))

/-- The step is a mark that comes too late, or enqueues a receipt under the id of another. -/
def overtaken (pool : Dispatches) : Pool.Event DispatchCall EnqueueMerchantReceiptInput → Bool
  | .start _ => false
  | .resume i =>
      match pool.calls[i]? with
      | some (_, .await op _) => tooLate pool.shared op
      | _ => false
  | .outside input =>
      !pool.shared.recordIdByReceiptId.has input.receipt.receiptId &&
        pool.shared.recordsById.has (input.id.getD input.drawnId)

end MerchantDispatch

end Split402

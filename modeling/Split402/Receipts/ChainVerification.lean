import Split402.Base.Async
import Split402.Payouts.Types
import Split402.Store.Outbox

/-! # Chain verification

`ReceiptChainVerificationWorker.processNext`: claim an event of the outbox, look its receipt up,
verify it on chain, mark it, and mark the event. Every operation may throw, and nothing here
catches. What a call sees of its clock, the receipt store, the verifier and the connection to the
outbox comes with the call; the outbox itself is shared by all calls. -/

namespace Split402

open Base

inductive ReceiptChainVerificationResult
  | confirmed (verifiedAt : Option String)
  | retry (error : String) (availableAt : Option String)
  | rejected (error : String)

inductive ReceiptChainVerificationWorkerResult
  | idle
  | verified (event : OutboxEventRecord) (snapshot : ReceiptIngestionSnapshot)
  | retryScheduled (event : OutboxEventRecord) (lastError availableAt : String)
  | deadLetter (event : OutboxEventRecord) (lastError : String)

def RECEIPT_ACCEPTED_EVENT_TYPE : String := "receipt.accepted.v1"

def DEFAULT_RETRY_DELAY_MS : Int := 60000

/-- How a query goes: it is answered, or it fails before or after it has run. -/
inductive QueryOutcome
  | answered
  | failedBefore (error : PayoutError)
  | failedAfter (error : PayoutError)

/-- What a query commits and answers. -/
def QueryOutcome.run {α : Type} (outcome : QueryOutcome) (outbox : Outbox)
    (query : Outbox × Except PayoutError α) : Outbox × Except PayoutError α :=
  match outcome with
  | .answered => query
  | .failedBefore error => (outbox, .error error)
  | .failedAfter error => (query.1, .error error)

/-- One call of `processNext`: the readings of its clock in order, the option of its worker, what
the receipt store and the verifier answer, and how its queries of the outbox go. -/
structure VerificationCall where
  clock : Nat → Int
  retryDelayMs : Option Int
  receipt : String → Except PayoutError (Option ReceiptIngestionSnapshot)
  verification : Split402ReceiptV1 → Except PayoutError ReceiptChainVerificationResult
  verified : Except PayoutError (Option ReceiptIngestionSnapshot)
  rejected : Except PayoutError (Option ReceiptIngestionSnapshot)
  claim : QueryOutcome
  mark : QueryOutcome

namespace ChainVerification

/-- What a call awaits. -/
inductive Op
  | claimNext (now : String) (eventTypes : List String)
  | markDelivered (eventId : String)
  | markFailed (eventId lastError availableAt : String) (deadLetter : Bool)
  | getReceiptForChainVerification (receiptId : String)
  | verify (receipt : Split402ReceiptV1)
  | markReceiptChainVerified (receiptId verifiedAt : String)
  | markReceiptChainRejected (receiptId rejectedAt reason : String)

abbrev Op.Answer : Op → Type
  | .claimNext _ _ | .markDelivered _ | .markFailed _ _ _ _ => Option OutboxEventRecord
  | .getReceiptForChainVerification _ | .markReceiptChainVerified _ _ |
    .markReceiptChainRejected _ _ _ => Option ReceiptIngestionSnapshot
  | .verify _ => ReceiptChainVerificationResult

/-- A program that awaits these. -/
abbrev Await (α : Type) : Type := Async Op Op.Answer PayoutError α

namespace Await

def claimNext (now : String) (eventTypes : List String) : Await (Option OutboxEventRecord) :=
  Async.call (Op.claimNext now eventTypes)

def markDelivered (eventId : String) : Await (Option OutboxEventRecord) :=
  Async.call (Op.markDelivered eventId)

def markFailed (eventId lastError availableAt : String) (deadLetter : Bool) :
    Await (Option OutboxEventRecord) :=
  Async.call (Op.markFailed eventId lastError availableAt deadLetter)

def getReceiptForChainVerification (receiptId : String) : Await (Option ReceiptIngestionSnapshot) :=
  Async.call (Op.getReceiptForChainVerification receiptId)

def verify (receipt : Split402ReceiptV1) : Await ReceiptChainVerificationResult :=
  Async.call (Op.verify receipt)

def markReceiptChainVerified (receiptId verifiedAt : String) :
    Await (Option ReceiptIngestionSnapshot) :=
  Async.call (Op.markReceiptChainVerified receiptId verifiedAt)

def markReceiptChainRejected (receiptId rejectedAt reason : String) :
    Await (Option ReceiptIngestionSnapshot) :=
  Async.call (Op.markReceiptChainRejected receiptId rejectedAt reason)

/-- What throws at once, without an await. -/
def ofExcept {α : Type} (result : Except PayoutError α) : Await α := Async.done result

end Await

variable (host : Host)

def readReceiptId (event : OutboxEventRecord) : Option String :=
  match (event.payload.find? (fun field => field.1 == "receiptId")).map Prod.snd with
  | some (.str receiptId) => if isBlank receiptId then none else some receiptId
  | _ => none

/-- `new Date(Date.parse(now) + delay).toISOString()`: a time out of range throws. -/
def nextRetryAt (call : VerificationCall) (now : String) : Except PayoutError String :=
  match host.dateParse now with
  | none => throw (.other "Invalid time value")
  | some ms =>
      let retryAt := ms + call.retryDelayMs.getD DEFAULT_RETRY_DELAY_MS
      if retryAt.natAbs ≤ 8640000000000000 then pure (host.toISOString retryAt)
      else throw (.other "Invalid time value")

def deadLetter (call : VerificationCall) (event : OutboxEventRecord) (lastError : String) :
    Await ReceiptChainVerificationWorkerResult := do
  let _ ← Await.markFailed event.id lastError (host.toISOString (call.clock 1)) true
  pure (.deadLetter event lastError)

/-- What is done with a verification. -/
def settleVerification (call : VerificationCall) (now receiptId : String)
    (event : OutboxEventRecord) : ReceiptChainVerificationResult →
    Await ReceiptChainVerificationWorkerResult
  | .confirmed verifiedAt => do
      match ← Await.markReceiptChainVerified receiptId (verifiedAt.getD now) with
      | none =>
          deadLetter host call event s!"receipt disappeared during chain verification: {receiptId}"
      | some verified => do
          let _ ← Await.markDelivered event.id
          pure (.verified event verified)
  | .retry error availableAt => do
      let availableAt ← match availableAt with
        | some availableAt => pure availableAt
        | none => Await.ofExcept (nextRetryAt host call now)
      let _ ← Await.markFailed event.id error availableAt false
      pure (.retryScheduled event error availableAt)
  | .rejected error => do
      match ← Await.markReceiptChainRejected receiptId now error with
      | none =>
          deadLetter host call event s!"receipt disappeared during chain rejection: {receiptId}"
      | some _ => deadLetter host call event error

/-- What is done with a claimed event. -/
def processEvent (call : VerificationCall) (now : String) (event : OutboxEventRecord) :
    Await ReceiptChainVerificationWorkerResult :=
  if event.eventType != RECEIPT_ACCEPTED_EVENT_TYPE then
    deadLetter host call event s!"unsupported outbox event type: {event.eventType}"
  else
    match readReceiptId event with
    | none => deadLetter host call event "receipt.accepted.v1 payload is missing receiptId"
    | some receiptId => do
        match ← Await.getReceiptForChainVerification receiptId with
        | none => deadLetter host call event s!"receipt not found: {receiptId}"
        | some snapshot => do
            let verification ← Await.verify snapshot.receipt.receipt
            settleVerification host call now receiptId event verification

def processNext (call : VerificationCall) : Await ReceiptChainVerificationWorkerResult := do
  let now := host.toISOString (call.clock 0)
  match ← Await.claimNext now [RECEIPT_ACCEPTED_EVENT_TYPE] with
  | none => pure .idle
  | some event => processEvent host call now event

/-! ## Calls over an outbox -/

/-- How an operation of a call is served. -/
def serve (call : VerificationCall) (outbox : Outbox) : (op : Op) →
    Outbox × Except PayoutError op.Answer
  | .claimNext now eventTypes =>
      QueryOutcome.run call.claim outbox (outbox.claimNext host now eventTypes)
  | .markDelivered eventId =>
      QueryOutcome.run call.mark outbox (outbox.markDelivered host eventId)
  | .markFailed eventId lastError availableAt deadLetter =>
      QueryOutcome.run call.mark outbox
        (outbox.markFailed host eventId lastError availableAt deadLetter)
  | .getReceiptForChainVerification receiptId => (outbox, call.receipt receiptId)
  | .verify receipt => (outbox, call.verification receipt)
  | .markReceiptChainVerified _ _ => (outbox, call.verified)
  | .markReceiptChainRejected _ _ _ => (outbox, call.rejected)

/-- Calls under way over an outbox. -/
abbrev Calls : Type :=
  Pool VerificationCall Outbox Op Op.Answer PayoutError ReceiptChainVerificationWorkerResult

/-- What others do to the outbox: whatever they write, no event of a receipt is `processing` by
their doing. Receipts are saved with pending events, webhook workers claim webhook events. -/
def others (s t : Outbox) : Prop :=
  ∀ row ∈ t, row.eventType = RECEIPT_ACCEPTED_EVENT_TYPE → row.status = .processing →
    ∃ row' ∈ s, row'.id = row.id ∧ row'.eventType = row.eventType ∧ row'.status = row.status

/-- Any number of calls over an outbox that starts without an event in `processing`. -/
def workerSystem : System Calls (Pool.Event VerificationCall Unit) :=
  Pool.system (fun call s op t answer => serve host call s op = (t, answer))
    (fun s _ t => others s t) (processNext host) (fun s => ∀ row ∈ s, row.status ≠ .processing)

/-- The operation leaves a claimed event without a way back: it throws after the claim, or is the
claim of a row and throws when that is committed, or answers a retry at a time out of range. -/
def Op.strands (call : VerificationCall) (outbox : Outbox) (op : Op) : Bool :=
  match op with
  | .claimNext now eventTypes =>
      match call.claim, timestamptz host now with
      | .failedBefore _, _ | _, .error _ => false
      | .failedAfter _, .ok now => !(outbox.claimable now eventTypes).isEmpty
      | .answered, .ok now =>
          (outbox.claimable now eventTypes).head?.any (fun row =>
            !(mapOutboxEvent host (Outbox.claimed row now)).isOk)
  | .verify receipt =>
      match call.verification receipt with
      | .error _ => true
      | .ok (.retry _ none) => !(nextRetryAt host call (host.toISOString (call.clock 0))).isOk
      | .ok _ => false
  | op => !(serve host call outbox op).2.isOk

/-- The step resumes a call with such an operation. -/
def strands (pool : Calls) : Pool.Event VerificationCall Unit → Bool
  | .resume i =>
      match pool.calls[i]? with
      | some (call, .await op _) => op.strands host call pool.shared
      | _ => false
  | _ => false

end ChainVerification

end Split402

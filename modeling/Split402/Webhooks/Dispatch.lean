import Split402.Base.Utf16
import Split402.Receipts.ChainVerification

/-! # Webhook dispatch

`WebhookDispatchWorker.processNext`: claim an event of the outbox, dispatch it, and mark it with the
answer. Any number of workers share the outbox; a merchant may put an event that has been given up
back into it. What goes out is written down next to the outbox: nothing in the source keeps such a
log, and no worker reads it. -/

namespace Split402

open Base
open Base.Utf16 (ofString toChars)

def WEBHOOK_RECEIPT_ACCEPTED_EVENT_TYPE : String := "webhook.receipt.accepted.v1"
def WEBHOOK_PAYOUT_SUBMITTED_EVENT_TYPE : String := "webhook.payout.submitted.v1"
def WEBHOOK_PAYOUT_CONFIRMED_EVENT_TYPE : String := "webhook.payout.confirmed.v1"
def WEBHOOK_PAYOUT_FINALIZED_EVENT_TYPE : String := "webhook.payout.finalized.v1"
def WEBHOOK_PAYOUT_FAILED_EVENT_TYPE : String := "webhook.payout.failed.v1"
def WEBHOOK_PAYOUT_OUTCOME_UNKNOWN_EVENT_TYPE : String := "webhook.payout.outcome_unknown.v1"

def DEFAULT_WEBHOOK_EVENT_TYPES : List String :=
  [WEBHOOK_RECEIPT_ACCEPTED_EVENT_TYPE, WEBHOOK_PAYOUT_SUBMITTED_EVENT_TYPE,
    WEBHOOK_PAYOUT_CONFIRMED_EVENT_TYPE, WEBHOOK_PAYOUT_FINALIZED_EVENT_TYPE,
    WEBHOOK_PAYOUT_FAILED_EVENT_TYPE, WEBHOOK_PAYOUT_OUTCOME_UNKNOWN_EVENT_TYPE]

inductive WebhookDeliveryResult
  | delivered (statusCode : Option Int)
  | retry (error : String) (availableAt : Option String) (statusCode : Option Int)
  | rejected (error : String) (statusCode : Option Int)
  deriving DecidableEq, Repr

inductive WebhookDispatchWorkerResult
  | idle
  | delivered (event : OutboxEventRecord) (statusCode : Option Int)
  | retryScheduled (event : OutboxEventRecord) (lastError availableAt : String)
      (statusCode : Option Int)
  | deadLetter (event : OutboxEventRecord) (lastError : String) (statusCode : Option Int)

/-! ## The HTTP dispatcher -/

/-- What `fetch` gives: a status, and the text of the body where it can be read. -/
structure WebhookFetchResponse where
  status : Int
  text : Option String

def readWebhookResponseError (response : WebhookFetchResponse) : String :=
  match response.text.filter (fun text => !isBlank text) with
  | some text =>
      s!"webhook returned {response.status}: " ++ String.ofList (toChars ((ofString text).take 200))
  | none => s!"webhook returned {response.status}"

def isRetryableWebhookStatus (status : Int) : Bool :=
  status = 408 || status = 409 || status = 425 || status = 429 || 500 ≤ status

/-- What `HttpWebhookDispatcher.dispatch` makes of the answer of the endpoint; `error` is the message
of what `fetch` throws. -/
def readWebhookDelivery : Except String WebhookFetchResponse → WebhookDeliveryResult
  | .error error => .retry error none none
  | .ok response =>
      if 200 ≤ response.status ∧ response.status < 300 then .delivered (some response.status)
      else
        let error := readWebhookResponseError response
        if isRetryableWebhookStatus response.status then .retry error none (some response.status)
        else .rejected error (some response.status)

/-! ## The merchant's way back -/

/-- `payload ->> name`: a string as it is, another value as Postgres prints it. -/
def payloadText (print : Json → String) (payload : Json) (name : String) : Option String :=
  match payload with
  | .obj fields =>
      match (fields.find? (fun field => field.1 == name)).map Prod.snd with
      | some (.str s) => some s
      | some .null | none => none
      | some value => some (print value)
  | _ => none

structure RequeueDeadLetterWebhookEventInput where
  merchantId : String
  eventId : String
  now : String

def OutboxEventStatus.text : OutboxEventStatus → String
  | .pending => "pending"
  | .processing => "processing"
  | .delivered => "delivered"
  | .deadLetter => "dead_letter"

namespace Outbox

variable (host : Host) (print : Json → String)

/-- The event of the merchant. -/
def ofMerchant (outbox : Outbox) (input : RequeueDeadLetterWebhookEventInput) : Option OutboxRow :=
  (outbox.find? input.eventId).filter fun row =>
    payloadText print row.payload "merchantId" = some input.merchantId

/-- The row a requeue leaves. -/
def requeued (row : OutboxRow) (now : Int) : OutboxRow :=
  { row with
    status := .pending
    attempts := 0
    availableAt := now
    lockedAt := none
    lastError := none }

def requeueDeadLetterWebhookEvent (outbox : Outbox) (input : RequeueDeadLetterWebhookEventInput) :
    Outbox × Except PayoutError (Option OutboxEventRecord) :=
  if isBlank input.merchantId then
    (outbox, .error (.other "merchantId must be a non-empty string"))
  else if isBlank input.eventId then
    (outbox, .error (.other "eventId must be a non-empty string"))
  else
    match timestamptz host input.now with
    | .error e => (outbox, .error e)
    | .ok now =>
        match outbox.ofMerchant print input with
        | none => (outbox, .ok none)
        | some row =>
            if row.status = .deadLetter then
              (outbox.upsert (requeued row now), some <$> mapOutboxEvent host (requeued row now))
            else
              (outbox, .error (.other
                s!"webhook event is {row.status.text}; only dead_letter events can be requeued"))

end Outbox

/-! ## A call -/

/-- One call of `processNext`: its clock, the options of its worker, what the dispatcher answers or
throws, and how its queries of the outbox go. -/
structure WebhookCall where
  clock : Int
  eventTypes : Option (List String)
  maxAttempts : Option Int
  retryDelayMs : Option Int
  delivery : OutboxEventRecord → Except PayoutError WebhookDeliveryResult
  claim : QueryOutcome
  mark : QueryOutcome

namespace WebhookDispatch

def DEFAULT_MAX_ATTEMPTS : Int := 10

/-- What a call awaits. -/
inductive Op
  | claimNext (now : String) (eventTypes : List String)
  | dispatch (event : OutboxEventRecord)
  | markDelivered (eventId : String)
  | markFailed (eventId lastError availableAt : String) (deadLetter : Bool)

abbrev Op.Answer : Op → Type
  | .claimNext _ _ | .markDelivered _ | .markFailed _ _ _ _ => Option OutboxEventRecord
  | .dispatch _ => WebhookDeliveryResult

/-- A program that awaits these. -/
abbrev Await (α : Type) : Type := Async Op Op.Answer PayoutError α

namespace Await

def claimNext (now : String) (eventTypes : List String) : Await (Option OutboxEventRecord) :=
  Async.call (Op.claimNext now eventTypes)

def dispatch (event : OutboxEventRecord) : Await WebhookDeliveryResult :=
  Async.call (Op.dispatch event)

def markDelivered (eventId : String) : Await (Option OutboxEventRecord) :=
  Async.call (Op.markDelivered eventId)

def markFailed (eventId lastError availableAt : String) (deadLetter : Bool) :
    Await (Option OutboxEventRecord) :=
  Async.call (Op.markFailed eventId lastError availableAt deadLetter)

/-- What throws at once, without an await. -/
def ofExcept {α : Type} (result : Except PayoutError α) : Await α := Async.done result

end Await

def readErrorMessage : PayoutError → String
  | .previewValidation message | .batchValidation message | .batchConflict message => message
  | .releaseBlocked message _ => message
  | .persistenceConflict => "receipt ingestion persistence conflict"
  | .database message | .other message => message

variable (host : Host)

def eventTypes (call : WebhookCall) : List String :=
  call.eventTypes.getD DEFAULT_WEBHOOK_EVENT_TYPES

def maxAttempts (call : WebhookCall) : Int := call.maxAttempts.getD DEFAULT_MAX_ATTEMPTS

def hasExhaustedAttempts (call : WebhookCall) (event : OutboxEventRecord) : Bool :=
  maxAttempts call ≤ event.attempts

/-- `new Date(Date.parse(now) + delay).toISOString()`: a time out of range throws. -/
def nextRetryAt (call : WebhookCall) (now : String) : Except PayoutError String :=
  match host.dateParse now with
  | none => throw (.other "Invalid time value")
  | some ms =>
      let retryAt := ms + call.retryDelayMs.getD DEFAULT_RETRY_DELAY_MS
      if retryAt.natAbs ≤ 8640000000000000 then pure (host.toISOString retryAt)
      else throw (.other "Invalid time value")

/-- `delivery.availableAt ?? this.nextRetryAt(now)`. -/
def retryAt (call : WebhookCall) (now : String) (availableAt : Option String) :
    Except PayoutError String :=
  match availableAt with
  | some availableAt => pure availableAt
  | none => nextRetryAt host call now

/-- What is done with an event that is given up. -/
def giveUp (now : String) (event : OutboxEventRecord) (lastError : String)
    (statusCode : Option Int) : Await WebhookDispatchWorkerResult := do
  let _ ← Await.markFailed event.id lastError now true
  pure (.deadLetter event lastError statusCode)

/-- What is done with the answer of the dispatcher. -/
def settleDelivery (call : WebhookCall) (now : String) (event : OutboxEventRecord) :
    WebhookDeliveryResult → Await WebhookDispatchWorkerResult
  | .delivered statusCode => do
      let _ ← Await.markDelivered event.id
      pure (.delivered event statusCode)
  | .retry error availableAt statusCode =>
      if hasExhaustedAttempts call event then
        giveUp now event ("webhook delivery attempts exhausted: " ++ error) statusCode
      else do
        let availableAt ← Await.ofExcept (retryAt host call now availableAt)
        let _ ← Await.markFailed event.id error availableAt false
        pure (.retryScheduled event error availableAt statusCode)
  | .rejected error statusCode => giveUp now event error statusCode

/-- What is done with a claimed event: what the dispatcher throws counts as a retry. -/
def deliver (call : WebhookCall) (now : String) (event : OutboxEventRecord) :
    Await WebhookDispatchWorkerResult := do
  let delivery ← tryCatch (Await.dispatch event) fun error =>
    pure (.retry (readErrorMessage error) none none)
  settleDelivery host call now event delivery

def processNext (call : WebhookCall) : Await WebhookDispatchWorkerResult := do
  let now := host.toISOString call.clock
  match ← Await.claimNext now (eventTypes call) with
  | none => pure .idle
  | some event => deliver host call now event

/-! ## Calls over an outbox -/

/-- What happens to an event: it is dispatched, for the how-manieth time since it was put in and by a
worker with which bound, and is answered; or it is put back. -/
inductive Entry
  | dispatched (attempts : Nat) (maxAttempts : Int) (answer : WebhookDeliveryResult)
  | requeued
  deriving DecidableEq, Repr

/-- An outbox, and what has happened to its events so far. -/
abbrev Observed : Type := Outbox × List (String × Entry)

/-- What the worker takes for the answer. -/
def taken : Except PayoutError WebhookDeliveryResult → WebhookDeliveryResult
  | .ok delivery => delivery
  | .error error => .retry (readErrorMessage error) none none

/-- `normalizeOutboxEventTypes`, then the query. -/
def claimNormalized (outbox : Outbox) (now : String) (eventTypes : List String) :
    Outbox × Except PayoutError (Option OutboxEventRecord) :=
  if eventTypes.isEmpty then (outbox, .error (.other "eventTypes must not be empty"))
  else outbox.claimNext host now eventTypes

/-- How an operation of a call is served. -/
def serve (call : WebhookCall) (s : Observed) : (op : Op) → Observed × Except PayoutError op.Answer
  | .claimNext now eventTypes =>
      let served := call.claim.run s.1 (claimNormalized host s.1 now eventTypes)
      ((served.1, s.2), served.2)
  | .dispatch event =>
      ((s.1, s.2 ++ [(event.id, .dispatched event.attempts (maxAttempts call)
        (taken (call.delivery event)))]), call.delivery event)
  | .markDelivered eventId =>
      let served := call.mark.run s.1 (s.1.markDelivered host eventId)
      ((served.1, s.2), served.2)
  | .markFailed eventId lastError availableAt deadLetter =>
      let served := call.mark.run s.1 (s.1.markFailed host eventId lastError availableAt deadLetter)
      ((served.1, s.2), served.2)

/-- Calls under way over an outbox. -/
abbrev Calls : Type :=
  Pool WebhookCall Observed Op Op.Answer PayoutError WebhookDispatchWorkerResult

/-- What happens beside the calls: a merchant puts an event back (a query that fails before it is
committed is none), or others write. -/
inductive Beside
  | requeue (input : RequeueDeadLetterWebhookEventInput)
  | others

/-- What others write: new events, pending and not tried yet, and the state of the events that the
webhook workers do not claim. Nothing deletes an event or changes its type. -/
structure Others (types : List String) (s t : Outbox) : Prop where
  keeps : ∀ row ∈ s, ∃ row' ∈ t, row'.id = row.id ∧ row'.eventType = row.eventType
  same : ∀ row ∈ s, row.eventType ∈ types → row ∈ t
  new : ∀ row ∈ t, row.eventType ∈ types → row ∈ s ∨ (row.status = .pending ∧ row.attempts = 0)

variable (print : Json → String) (types : List String)

/-- The event that a request puts back. -/
def requeues (outbox : Outbox) (input : RequeueDeadLetterWebhookEventInput) :
    Option (OutboxRow × Int) :=
  if isBlank input.merchantId || isBlank input.eventId then none
  else
    match timestamptz host input.now with
    | .error _ => none
    | .ok now => ((outbox.ofMerchant print input).filter (·.status = .deadLetter)).map (·, now)

def requeue (s : Observed) (input : RequeueDeadLetterWebhookEventInput) : Observed :=
  ((s.1.requeueDeadLetterWebhookEvent host print input).1,
    s.2 ++ ((requeues host print s.1 input).map fun found => (found.1.id, Entry.requeued)).toList)

def beside (s : Observed) (x : Beside) (t : Observed) : Prop :=
  match x with
  | .requeue input => t = requeue host print s input
  | .others => Others types s.1 t.1 ∧ t.2 = s.2

/-- Any number of calls over an outbox whose events have not been tried yet. -/
def workerSystem : System Calls (Pool.Event WebhookCall Beside) :=
  Pool.system (fun call s op t answer => serve host call s op = (t, answer))
    (beside host print types) (processNext host)
    (fun s => s.2 = [] ∧ ∀ row ∈ s.1, row.status = .pending ∧ row.attempts = 0)

/-- The workers claim events of these types only, and try an event at most so often. -/
def bounded (limit : Nat) : Pool.Event WebhookCall Beside → Bool
  | .start call => (eventTypes call).all (· ∈ types) && decide (maxAttempts call ≤ limit)
  | _ => true

end WebhookDispatch

end Split402

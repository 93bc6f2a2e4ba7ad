import Split402.Base.Sort
import Split402.Base.Table
import Split402.Payouts.Checks

/-! # Finality rollup

`summarizePayoutBatchTransactionItemFinality` computes the status of a batch and of its items
from the latest attempt of every sequence. It reads the statuses the items had, but not the
status of the batch. -/

namespace Split402

open Base (Table sortBy)

variable (host : Host)

/-- The order in which the stores list the transactions of a batch. -/
def comparePayoutTransactions (left right : PayoutTransactionRecord) : Ordering :=
  (compare left.sequence right.sequence).then
    ((compare left.attempt right.attempt).then
      ((host.localeCompare left.createdAt right.createdAt).then
        (host.localeCompare left.id right.id)))

/-- `transaction` replaces the attempt `existing` of its sequence. -/
def supersedes (transaction existing : PayoutTransactionRecord) : Bool :=
  existing.attempt < transaction.attempt ||
    (transaction.attempt == existing.attempt &&
      host.localeCompare transaction.createdAt existing.createdAt == .gt)

/-- The attempts kept so far, by sequence. -/
abbrev AttemptMap := Table PayoutTransactionRecord.sequence

def keepLatest (bySequence : AttemptMap) (transaction : PayoutTransactionRecord) : AttemptMap :=
  match bySequence.find? transaction.sequence with
  | none => bySequence.upsert transaction
  | some existing =>
      if supersedes host transaction existing then bySequence.upsert transaction
      else bySequence

def latestAttemptBySequence (transactions : List PayoutTransactionRecord) :
    List PayoutTransactionRecord :=
  sortBy (comparePayoutTransactions host)
    (transactions.foldl (keepLatest host) Table.empty).rows

def payoutItemStatusForTransactionStatus : PayoutTransactionStatus → Option PayoutItemStatus
  | .submitted => some .submitted
  | .confirmed => some .confirmed
  | .finalized => some .finalized
  | .failed => some .failed
  | .planned | .signed | .expired | .outcomeUnknown => none

/-- `transaction.error?.message` when it is a string that is not empty. -/
def readPayoutTransactionFailureMessage (transaction : PayoutTransactionRecord) : String :=
  match (transaction.error.getD []).lookup "message" with
  | some (.str message) =>
      if message = "" then s!"payout transaction failed: {transaction.id}" else message
  | _ => s!"payout transaction failed: {transaction.id}"

/-- The failure code and message a transaction gives its batch. -/
def failureOf (transaction : PayoutTransactionRecord) : Option (String × String) :=
  match transaction.status with
  | .failed =>
      some ("payout_transaction_failed", readPayoutTransactionFailureMessage transaction)
  | .expired =>
      some ("payout_transaction_expired",
        s!"payout transaction expired before safe finality: {transaction.id}")
  | .outcomeUnknown =>
      some ("payout_transaction_outcome_unknown",
        s!"payout transaction outcome is unknown: {transaction.id}")
  | _ => none

/-- A map from item ids to statuses. -/
abbrev ItemStatuses := String → Option PayoutItemStatus

/-- `new Map(batch.items.map((item) => [item.id, item.status]))`. -/
def initialItemStatuses (batch : PayoutBatchRecord) : ItemStatuses := fun id =>
  (batch.items.reverse.find? (fun item => item.id = id)).map PayoutItemRecord.status

/-- The transaction pays the item. -/
def PayoutTransactionRecord.covers (transaction : PayoutTransactionRecord)
    (payoutItemId : String) : Bool :=
  transaction.items.any (fun item => item.payoutItemId = payoutItemId)

/-- Write the status a transaction gives to the items it pays. -/
def applyItemStatus (statuses : ItemStatuses) (transaction : PayoutTransactionRecord) :
    ItemStatuses :=
  match payoutItemStatusForTransactionStatus transaction.status with
  | none => statuses
  | some status => fun id =>
      if transaction.covers id then (statuses id).map (fun _ => status) else statuses id

structure PayoutBatchItemStatusUpdate where
  payoutItemId : String
  status : PayoutItemStatus
  deriving DecidableEq, Repr

structure PayoutBatchTransactionItemRollup where
  batchStatus : PayoutBatchStatus
  updatedItems : List PayoutBatchItemStatusUpdate
  failureCode : Option String
  failureMessage : Option String
  deriving DecidableEq, Repr

/-- The batch status that follows from the first latest attempt that failed, expired or has an
unknown outcome, and otherwise from the item statuses. -/
def rollupBatchStatus (terminalFailure : Option PayoutTransactionStatus)
    (nextItemStatuses : List PayoutItemStatus) : PayoutBatchStatus :=
  match terminalFailure with
  | some .failed => .failed
  | some .expired | some .outcomeUnknown => .outcomeUnknown
  | _ =>
      if nextItemStatuses.all (· == .finalized) then .finalized
      else if !nextItemStatuses.isEmpty &&
          nextItemStatuses.all (fun status => status == .confirmed || status == .finalized) then
        .confirmed
      else if nextItemStatuses.any (fun status =>
          status == .submitted || status == .confirmed || status == .finalized) then
        .submitted
      else .signing

/-- A status that fails a batch or leaves its outcome unknown. -/
def PayoutTransactionStatus.isTerminalFailure (status : PayoutTransactionStatus) : Bool :=
  status == .failed || status == .expired || status == .outcomeUnknown

def summarizePayoutBatchTransactionItemFinality (batch : PayoutBatchRecord)
    (transactions : List PayoutTransactionRecord) : Option PayoutBatchTransactionItemRollup :=
  if transactions = [] then none
  else
    let activeTransactions := latestAttemptBySequence host transactions
    let itemStatusById := activeTransactions.foldl applyItemStatus (initialItemStatuses batch)
    let failure := activeTransactions.findSome? failureOf
    let nextItemStatuses :=
      batch.items.map (fun item => (itemStatusById item.id).getD item.status)
    let terminalFailure := (activeTransactions.find? (fun transaction =>
      transaction.status.isTerminalFailure)).map PayoutTransactionRecord.status
    some {
      batchStatus := rollupBatchStatus terminalFailure nextItemStatuses
      updatedItems :=
        (batch.items.map (fun item =>
          ⟨item.id, (itemStatusById item.id).getD item.status⟩)).filter (fun update =>
            (batch.items.find? (fun item => item.id = update.payoutItemId)).any
              (fun existing => existing.status ≠ update.status))
      failureCode := failure.map Prod.fst
      failureMessage := failure.map Prod.snd }

end Split402

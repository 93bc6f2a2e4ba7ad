import Split402.Store.Memory

/-! # Reconciling a batch of unknown outcome

`reconcilePayoutBatch` asks a monitor about every transaction of the batch whose outcome is unknown
and writes what it answers, one transaction after the other; every write rolls the batch up. The
report it returns reads the batch that is left. A call that throws on the way leaves what it has
written by then. -/

namespace Split402

open Base (sortBy)

variable (host : Host) (env : CallEnv)

/-- A chain check's status as the source spells it. -/
def PayoutBatchReleaseChainCheckStatus.text : PayoutBatchReleaseChainCheckStatus → String
  | .confirmed => "confirmed"
  | .finalized => "finalized"
  | .failed => "failed"
  | .expired => "expired"
  | .outcomeUnknown => "outcome_unknown"
  | .retry => "retry"

/-- `isPersistablePayoutFinalityStatus`, with the status it lets through. -/
def persistablePayoutFinalityStatus :
    PayoutBatchReleaseChainCheckStatus → Option PayoutTransactionFinalityStatus
  | .confirmed => some .confirmed
  | .finalized => some .finalized
  | .failed => some .failed
  | .expired => some .expired
  | .outcomeUnknown => some .outcomeUnknown
  | .retry => none

/-- What the monitor answers; its statuses are those of a chain check. -/
structure PayoutReconciliationFinalityResult where
  transactionId : String
  status : PayoutBatchReleaseChainCheckStatus
  signature : Option String
  rpcUrl : Option String
  confirmationStatus : Option String
  confirmations : Option Int
  retryAt : Option String
  error : Option String
  deriving DecidableEq, Repr

inductive PayoutReconciliationRecommendedAction
  | closeLedgerIfFinalized | waitForFinality | manualReviewBeforeRetry | requeryChainBeforeRetry
  deriving DecidableEq, Repr

structure PayoutBatchReconciliationReport where
  batchBefore : PayoutBatchRecord
  batchAfter : PayoutBatchRecord
  observedTransactions : List PayoutReconciliationFinalityResult
  updatedTransactions : List PayoutTransactionRecord
  recommendedAction : PayoutReconciliationRecommendedAction
  retryPaymentAllowed : Bool

/-- What the monitor of a call answers about a transaction, or throws. -/
abbrev PayoutFinalityMonitor : Type :=
  PayoutTransactionRecord → Except PayoutError PayoutReconciliationFinalityResult

def isPayoutTransactionOutcomeUnknown (transaction : PayoutTransactionRecord) : Bool :=
  transaction.status == .outcomeUnknown || transaction.status == .expired

def createPayoutReconciliationError (result : PayoutReconciliationFinalityResult)
    (message : String) : List (String × Json) :=
  [("message", .str message), ("status", .str result.status.text)] ++
    (result.signature.map (fun signature => ("signature", Json.str signature))).toList ++
    (result.rpcUrl.map (fun rpcUrl => ("rpcUrl", Json.str rpcUrl))).toList

def recommendPayoutReconciliationAction (batch : PayoutBatchRecord)
    (results : List PayoutReconciliationFinalityResult) : PayoutReconciliationRecommendedAction :=
  if batch.status = .finalized then .closeLedgerIfFinalized
  else if batch.status = .failed then .manualReviewBeforeRetry
  else if batch.status = .confirmed || batch.status = .submitted then .waitForFinality
  else if results.any (fun result => result.status = .confirmed) then .waitForFinality
  else .requeryChainBeforeRetry

/-- The finality mark an answer about a transaction asks for; `retry` asks for none. -/
def reconciliationMark (transaction : PayoutTransactionRecord)
    (result : PayoutReconciliationFinalityResult) (observedAt : String) :
    Option MarkPayoutTransactionFinalityInput :=
  (persistablePayoutFinalityStatus result.status).map (fun status =>
    { id := transaction.id
      status := status
      observedAt := some observedAt
      error := result.error.map (createPayoutReconciliationError result)
      expectedStatus := none })

namespace Memory

/-- The loop over the candidates: the answers and the transactions that were updated, with the store
that is left. -/
def reconcileTransactions (monitor : PayoutFinalityMonitor) (observedAt : String) :
    List PayoutTransactionRecord → Memory → Memory × Except PayoutError
      (List PayoutReconciliationFinalityResult × List PayoutTransactionRecord)
  | [], store => (store, .ok ([], []))
  | transaction :: rest, store =>
      match monitor transaction with
      | .error error => (store, .error error)
      | .ok result =>
          match reconciliationMark transaction result observedAt with
          | none =>
              let (left, outcome) := reconcileTransactions monitor observedAt rest store
              (left, outcome.map (fun (results, updates) => (result :: results, updates)))
          | some input =>
              match store.markPayoutTransactionFinality host env input with
              | .error error => (store, .error error)
              | .ok (updated, marked) =>
                  let (left, outcome) := reconcileTransactions monitor observedAt rest marked
                  (left, outcome.map (fun (results, updates) =>
                    (result :: results, updated.toList ++ updates)))

def reconcilePayoutBatch (store : Memory) (batch : PayoutBatchRecord)
    (monitor : PayoutFinalityMonitor) (observedAt : Option String) :
    Memory × Except PayoutError PayoutBatchReconciliationReport :=
  if batch.status ≠ .outcomeUnknown then
    (store, .error (.batchConflict "payout batch does not require reconciliation"))
  else
    let candidates :=
      (store.listPayoutTransactions host batch.id).filter isPayoutTransactionOutcomeUnknown
    if candidates = [] then
      (store, .error
        (.batchConflict "payout batch has no outcome-unknown transactions to reconcile"))
    else
      match normalizeOptionalTimestamp host env observedAt "timestamp must be an ISO timestamp" with
      | .error error => (store, .error error)
      | .ok observedAt =>
          let (left, outcome) := reconcileTransactions host env monitor observedAt candidates store
          (left, outcome.map (fun (results, updates) =>
            let batchAfter := (left.payoutBatchesById.find? batch.id).getD batch
            { batchBefore := batch
              batchAfter := batchAfter
              observedTransactions := results
              updatedTransactions := updates
              recommendedAction := recommendPayoutReconciliationAction batchAfter results
              retryPaymentAllowed := batchAfter.status = .failed }))

end Memory

/-! ## The list of batches to reconcile -/

structure ListPayoutReconciliationItemsInput where
  merchantId : String
  asset : Option String
  limit : Option Int

inductive PayoutReconciliationReason
  | outcomeUnknown
  deriving DecidableEq, Repr

structure PayoutReconciliationItem where
  batch : PayoutBatchRecord
  transactions : List PayoutTransactionRecord
  reason : PayoutReconciliationReason
  recommendedAction : PayoutReconciliationRecommendedAction

def createPayoutReconciliationItem (batch : PayoutBatchRecord)
    (transactions : List PayoutTransactionRecord) : Option PayoutReconciliationItem :=
  if batch.status ≠ .outcomeUnknown then none
  else
    let reconciliationTransactions := transactions.filter isPayoutTransactionOutcomeUnknown
    if reconciliationTransactions = [] then none
    else some ⟨batch, reconciliationTransactions, .outcomeUnknown, .requeryChainBeforeRetry⟩

def comparePayoutBatchesForReconciliation (left right : PayoutBatchRecord) : Ordering :=
  (host.localeCompare left.updatedAt right.updatedAt).then (host.localeCompare left.id right.id)

/-- `list.slice(0, end)`; a negative end counts from the back. -/
def sliceTo {α : Type} (list : List α) (stop : Int) : List α :=
  if stop < 0 then list.take (list.length - stop.natAbs) else list.take stop.toNat

/-- The batch is one the listing asks for. -/
def ListPayoutReconciliationItemsInput.selects (input : ListPayoutReconciliationItemsInput)
    (batch : PayoutBatchRecord) : Bool :=
  batch.merchantId == input.merchantId && input.asset.all (batch.asset == ·)

def Memory.listPayoutReconciliationItems (store : Memory)
    (input : ListPayoutReconciliationItemsInput) : List PayoutReconciliationItem :=
  let batches := store.payoutBatchesById.rows.filter (fun batch => batch.status = .outcomeUnknown)
  let sorted := sortBy (comparePayoutBatchesForReconciliation host) (batches.filter input.selects)
  (sliceTo sorted (input.limit.getD 50)).filterMap (fun batch =>
    createPayoutReconciliationItem batch (store.listPayoutTransactions host batch.id))

end Split402

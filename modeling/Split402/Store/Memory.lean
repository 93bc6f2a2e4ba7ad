import Mathlib.Data.List.Dedup
import Split402.Payouts.Finality
import Split402.Payouts.Ledger
import Split402.Payouts.Preview
import Split402.Payouts.Release
import Split402.Payouts.Signed
import Split402.Store.Ops

/-! # The in-memory store

`InMemoryReceiptIngestionStore`, one definition for each of its operations. An operation
returns its result with the store it leaves, or the error it throws; every error is thrown
before the first write, so a failed operation leaves the store as it was. -/

namespace Split402

open Base (Table sortBy)

abbrev SnapshotTable := Table (fun snapshot : ReceiptIngestionSnapshot => snapshot.receipt.id)

/-- A map from a receipt hash, payment id or settlement signature to a receipt id. -/
abbrev ReceiptIndex := Table (Prod.fst : String × String → String)

structure Memory where
  receiptsById : SnapshotTable
  receiptIdByHash : ReceiptIndex
  receiptIdByPaymentId : ReceiptIndex
  receiptIdBySettlementTx : ReceiptIndex
  payoutBatchesById : Table PayoutBatchRecord.id
  payoutTransactionsById : Table PayoutTransactionRecord.id
  payoutLedgerTransactionsByBatchId : Table LedgerTransaction.sourceId

/-- The snapshot with its accrual, if it has one, in a new status. -/
def ReceiptIngestionSnapshot.withAccrualStatus (snapshot : ReceiptIngestionSnapshot)
    (status : AccrualStatus) : ReceiptIngestionSnapshot :=
  { snapshot with accrual := snapshot.accrual.map ({ · with status := status }) }

/-- `new Date(value).toISOString()` or the clock; an invalid date is an error. -/
def normalizeOptionalTimestamp (host : Host) (env : CallEnv) (value : Option String)
    (message : String) : Except PayoutError String :=
  match value with
  | none => pure (host.toISOString env.clock)
  | some value =>
      match host.dateParse value with
      | none => throw (.other message)
      | some timestamp => pure (host.toISOString timestamp)

/-- The compare-and-set guard of a finality mark lets it write. -/
def MarkPayoutTransactionFinalityInput.admits
    (input : MarkPayoutTransactionFinalityInput) (existing : PayoutTransactionRecord) : Bool :=
  input.expectedStatus.all (· == existing.status)

namespace Memory

variable (host : Host) (env : CallEnv)

def empty : Memory :=
  ⟨Table.empty, Table.empty, Table.empty, Table.empty, Table.empty, Table.empty, Table.empty⟩

/-! ## Receipts -/

def getByReceiptId (store : Memory) (receiptId : String) : Option ReceiptIngestionSnapshot :=
  store.receiptsById.find? receiptId

def getByReceiptHash (store : Memory) (receiptHash : String) : Option ReceiptIngestionSnapshot :=
  (store.receiptIdByHash.find? receiptHash).bind (fun entry => store.receiptsById.find? entry.2)

def getByPaymentId (store : Memory) (paymentId : String) : Option ReceiptIngestionSnapshot :=
  (store.receiptIdByPaymentId.find? paymentId).bind (fun entry => store.receiptsById.find? entry.2)

def getBySettlementTxSignature (store : Memory) (signature : String) :
    Option ReceiptIngestionSnapshot :=
  (store.receiptIdBySettlementTx.find? signature).bind
    (fun entry => store.receiptsById.find? entry.2)

def save (store : Memory) (snapshot : ReceiptIngestionSnapshot) : Memory :=
  { store with
    receiptsById := store.receiptsById.upsert snapshot
    receiptIdByHash :=
      store.receiptIdByHash.upsert (snapshot.receipt.receiptHash, snapshot.receipt.id)
    receiptIdByPaymentId :=
      store.receiptIdByPaymentId.upsert (snapshot.receipt.receipt.paymentId, snapshot.receipt.id)
    receiptIdBySettlementTx :=
      store.receiptIdBySettlementTx.upsert
        (snapshot.receipt.receipt.settlementTxSignature, snapshot.receipt.id) }

/-- A verified receipt: only what is pending changes. -/
def verifiedSnapshot (snapshot : ReceiptIngestionSnapshot) (verifiedAt : String) :
    ReceiptIngestionSnapshot :=
  { snapshot with
    receipt := { snapshot.receipt with
      verificationState :=
        if snapshot.receipt.verificationState = .pendingChainVerification then .signatureVerified
        else snapshot.receipt.verificationState }
    accrual := snapshot.accrual.map (fun accrual =>
      if accrual.status = .pendingChainVerification then
        { accrual with status := .available, availableAt := some verifiedAt }
      else accrual) }

/-- A rejected receipt: the reason is written whatever the state was. -/
def rejectedSnapshot (snapshot : ReceiptIngestionSnapshot) (reason : String) :
    ReceiptIngestionSnapshot :=
  { snapshot with
    receipt := { snapshot.receipt with
      verificationState :=
        if snapshot.receipt.verificationState = .pendingChainVerification then .chainRejected
        else snapshot.receipt.verificationState
      verificationReason := some reason }
    accrual := snapshot.accrual.map (fun accrual =>
      if accrual.status = .pendingChainVerification then { accrual with status := .rejected }
      else accrual) }

def markReceiptChainVerified (store : Memory) (input : MarkReceiptChainVerifiedInput) :
    Option ReceiptIngestionSnapshot × Memory :=
  match store.getByReceiptId input.receiptId with
  | none => (none, store)
  | some snapshot =>
      let updated := verifiedSnapshot snapshot input.verifiedAt
      (some updated, store.save updated)

def markReceiptChainRejected (store : Memory) (input : MarkReceiptChainRejectedInput) :
    Option ReceiptIngestionSnapshot × Memory :=
  match store.getByReceiptId input.receiptId with
  | none => (none, store)
  | some snapshot =>
      let updated := rejectedSnapshot snapshot input.reason
      (some updated, store.save updated)

def listAccruals (store : Memory) : List CommissionAccrual :=
  store.receiptsById.rows.filterMap ReceiptIngestionSnapshot.accrual

def listPayoutEligibleAccruals (store : Memory) (input : ListPayoutEligibleAccrualsInput) :
    Except PayoutError (List CommissionAccrual) :=
  filterPayoutEligibleAccruals host store.listAccruals input

/-- The loop over `receiptsById.values()` that saves every selected snapshot with its accrual
in a new status. -/
def setAccrualStatus (store : Memory) (select : CommissionAccrual → Bool)
    (status : AccrualStatus) : Memory :=
  ((store.receiptsById.rows.filter (fun snapshot => snapshot.accrual.any select)).map
    (fun snapshot => snapshot.withAccrualStatus status)).foldl save store

/-! ## Batches -/

def createPayoutBatch (store : Memory) (input : CreatePayoutBatchInput) :
    Except PayoutError (PayoutBatchRecord × Memory) := do
  let batch ← createPayoutBatchPlan host env input
  let selectedAccrualIds := batch.accrualIds.dedup
  let selected := store.listAccruals.filter (fun accrual => accrual.id ∈ selectedAccrualIds)
  match selected.find? (fun accrual => accrual.status ≠ .available) with
  | some accrual =>
      throw (.batchConflict s!"accrual is not available for payout: {accrual.id}")
  | none =>
      if selected.length ≠ selectedAccrualIds.length then
        throw (.batchConflict "one or more selected accruals were not found")
      else
        let allocated :=
          store.setAccrualStatus (fun accrual => accrual.id ∈ selectedAccrualIds) .allocated
        pure (batch,
          { allocated with payoutBatchesById := allocated.payoutBatchesById.upsert batch })

def createPayoutBatchFromAvailableAccruals (store : Memory)
    (input : CreatePayoutBatchFromAvailableAccrualsInput) :
    Except PayoutError (PayoutBatchRecord × Memory) := do
  let accruals ← store.listPayoutEligibleAccruals host input.listInput
  store.createPayoutBatch host env (input.planInput accruals)

def listPayoutTransactions (store : Memory) (payoutBatchId : String) :
    List PayoutTransactionRecord :=
  sortBy (comparePayoutTransactions host)
    (store.payoutTransactionsById.rows.filter
      (fun transaction => transaction.payoutBatchId = payoutBatchId))

def releasePayoutBatchAllocations (store : Memory) (input : ReleasePayoutBatchAllocationsInput) :
    Except PayoutError (Option PayoutBatchRecord × Memory) :=
  match store.payoutBatchesById.find? input.payoutBatchId with
  | none => pure (none, store)
  | some batch => do
      let transactions := store.listPayoutTransactions host batch.id
      let released ← planRelease host env batch
        (transactions.map PayoutTransactionRecord.guard) input
      let updated :=
        { store with payoutBatchesById := store.payoutBatchesById.upsert released }
      pure (some released, updated.setAccrualStatus (fun accrual =>
        accrual.status = .allocated && accrual.id ∈ released.accrualIds) .available)

/-! ## Transactions -/

/-- The checks of a saving call against one of its records. -/
def checkNewTransaction (store : Memory) (record : PayoutTransactionRecord) :
    Except PayoutError Unit :=
  if store.payoutTransactionsById.has record.id then
    throw (.batchConflict s!"payout transaction already exists: {record.id}")
  else if (store.listPayoutTransactions host record.payoutBatchId).any (fun existing =>
      existing.sequence == record.sequence && existing.attempt == record.attempt) then
    throw (.batchConflict
      s!"payout transaction already exists for sequence {record.sequence} attempt {record.attempt}")
  else
    match record.expectedSignature with
    | none => pure ()
    | some signature =>
        if store.payoutTransactionsById.rows.any
            (fun existing => existing.expectedSignature == some signature) then
          throw (.batchConflict
            s!"payout transaction expected signature already exists: {signature}")
        else pure ()

def saveSignedPayoutTransactions (store : Memory) (input : SaveSignedPayoutTransactionsInput) :
    Except PayoutError (List PayoutTransactionRecord × Memory) :=
  match store.payoutBatchesById.find? input.payoutBatchId with
  | none => throw (.batchConflict s!"unknown payout batch: {input.payoutBatchId}")
  | some batch => do
      let records ← planSignedPayoutTransactions host env input batch
      records.forM (store.checkNewTransaction host)
      pure (records,
        { store with payoutTransactionsById := store.payoutTransactionsById.upsertAll records })

def markPayoutTransactionSubmitted (store : Memory)
    (input : MarkPayoutTransactionSubmittedInput) :
    Except PayoutError (Option PayoutTransactionRecord × Memory) :=
  match store.payoutTransactionsById.find? input.id with
  | none => pure (none, store)
  | some existing =>
      if input.expectedSignature.isSome && existing.expectedSignature.isSome &&
          existing.expectedSignature != input.expectedSignature then
        throw (.batchConflict
          "submitted payout transaction signature does not match expected signature")
      else do
        let submittedAt ←
          normalizeOptionalTimestamp host env input.submittedAt "Invalid time value"
        let submitted := { existing with
          status := .submitted
          expectedSignature := input.expectedSignature.or existing.expectedSignature
          submittedAt := some submittedAt }
        pure (some submitted,
          { store with payoutTransactionsById := store.payoutTransactionsById.upsert submitted })

/-- The batch a rollup leaves: its status, the failure it reports, and its item statuses. -/
def rolledUpBatch (batch : PayoutBatchRecord) (rollup : PayoutBatchTransactionItemRollup)
    (updatedAt : String) : PayoutBatchRecord :=
  { batch with
    status := rollup.batchStatus
    failureCode := rollup.failureCode.or batch.failureCode
    failureMessage := rollup.failureMessage.or batch.failureMessage
    updatedAt := updatedAt
    items := batch.items.map (fun item =>
      { item with
        status := ((rollup.updatedItems.find? (fun update =>
          update.payoutItemId = item.id)).map PayoutBatchItemStatusUpdate.status).getD
            item.status }) }

def rollUpPayoutBatchFinality (store : Memory) (payoutBatchId updatedAt : String) : Memory :=
  match store.payoutBatchesById.find? payoutBatchId with
  | none => store
  | some batch =>
      match summarizePayoutBatchTransactionItemFinality host batch
          (store.listPayoutTransactions host payoutBatchId) with
      | none => store
      | some rollup =>
          { store with
            payoutBatchesById :=
              store.payoutBatchesById.upsert (rolledUpBatch batch rollup updatedAt) }

/-- The transaction a finality mark writes. -/
def finalityTransaction (existing : PayoutTransactionRecord)
    (input : MarkPayoutTransactionFinalityInput) (observedAt : String) :
    PayoutTransactionRecord :=
  { existing with
    status := input.status.toStatus
    confirmedAt :=
      match input.status with
      | .confirmed => some observedAt
      | .finalized => some (existing.confirmedAt.getD observedAt)
      | _ => existing.confirmedAt
    finalizedAt :=
      match input.status with
      | .finalized => some observedAt
      | _ => existing.finalizedAt
    error := input.error.or existing.error }

def markPayoutTransactionFinality (store : Memory) (input : MarkPayoutTransactionFinalityInput) :
    Except PayoutError (Option PayoutTransactionRecord × Memory) :=
  match store.payoutTransactionsById.find? input.id with
  | none => pure (none, store)
  | some existing =>
      if !input.admits existing then pure (none, store)
      else do
        let observedAt ← normalizeOptionalTimestamp host env input.observedAt
          "timestamp must be an ISO timestamp"
        let updated := finalityTransaction existing input observedAt
        let written :=
          { store with payoutTransactionsById := store.payoutTransactionsById.upsert updated }
        pure (some updated,
          written.rollUpPayoutBatchFinality host updated.payoutBatchId observedAt)

/-! ## Ledger closure -/

def closeFinalizedPayoutBatchLedger (store : Memory) (input : ClosePayoutBatchLedgerInput) :
    Except PayoutError (Option LedgerTransaction × Memory) :=
  match store.payoutLedgerTransactionsByBatchId.find? input.payoutBatchId with
  | some existing => pure (some existing, store)
  | none =>
      match store.payoutBatchesById.find? input.payoutBatchId with
      | none => pure (none, store)
      | some batch => do
          verifyPayoutFinalizedTransfersBeforeLedgerClosure input.verification
          let transaction ← createPayoutFinalizationLedgerTransaction host env batch input
          let closed :=
            { store with
              payoutLedgerTransactionsByBatchId :=
                store.payoutLedgerTransactionsByBatchId.upsert transaction }
          pure (some transaction, closed.setAccrualStatus (fun accrual =>
            accrual.status = .allocated && accrual.id ∈ batch.finalizedAccrualIds) .paid)

/-! ## Calls -/

/-- The store a call leaves, or the error it throws. -/
def exec (store : Memory) (call : StoreCall) : Except PayoutError Memory :=
  match call.op with
  | .save snapshot => pure (store.save snapshot)
  | .markReceiptChainVerified input => pure (store.markReceiptChainVerified input).2
  | .markReceiptChainRejected input => pure (store.markReceiptChainRejected input).2
  | .createPayoutBatchFromAvailableAccruals input =>
      Prod.snd <$> store.createPayoutBatchFromAvailableAccruals host call.env input
  | .releasePayoutBatchAllocations input =>
      Prod.snd <$> store.releasePayoutBatchAllocations host call.env input
  | .saveSignedPayoutTransactions input =>
      Prod.snd <$> store.saveSignedPayoutTransactions host call.env input
  | .markPayoutTransactionSubmitted input =>
      Prod.snd <$> store.markPayoutTransactionSubmitted host call.env input
  | .markPayoutTransactionFinality input =>
      Prod.snd <$> store.markPayoutTransactionFinality host call.env input
  | .closeFinalizedPayoutBatchLedger input =>
      Prod.snd <$> store.closeFinalizedPayoutBatchLedger host call.env input

end Memory

end Split402

import Split402.Payouts.Finality
import Split402.Payouts.Ledger
import Split402.Payouts.Preview
import Split402.Payouts.Release
import Split402.Payouts.Signed
import Split402.Store.Ops
import Split402.Store.Schema

/-! # The Postgres store

`PostgresReceiptIngestionStore`, one definition for each of its operations. A SQL transaction
is one function from a database to the database it commits, or the error that rolls it back.
An operation that reads before its transaction takes the database it reads, `reads`, apart from
the database its transaction runs on: other transactions may commit in between. -/

namespace Split402

open Base (Table)

/-- `normalizeDateInput`. -/
def normalizeDateInput (host : Host) (env : CallEnv) (value : Option String) (label : String) :
    Except PayoutError String :=
  match value with
  | none => pure (host.toISOString env.clock)
  | some value =>
      match host.dateParse value with
      | none => throw (.other s!"{label} must be an ISO timestamp")
      | some timestamp => pure (host.toISOString timestamp)

/-! ## Outbox events -/

/-- An optional string in a payload: absent is `null`. -/
def Json.optional : Option String → Json
  | none => .null
  | some value => .str value

def ReceiptIngestSource.text : ReceiptIngestSource → String
  | .buyer => "buyer"
  | .merchant => "merchant"
  | .relay => "relay"
  | .unknown => "unknown"

def ReceiptVerificationState.text : ReceiptVerificationState → String
  | .signatureVerified => "signature_verified"
  | .pendingChainVerification => "pending_chain_verification"
  | .chainRejected => "chain_rejected"

def PayoutItemStatus.text : PayoutItemStatus → String
  | .allocated => "allocated"
  | .submitted => "submitted"
  | .confirmed => "confirmed"
  | .finalized => "finalized"
  | .failed => "failed"
  | .released => "released"

def PayoutTransactionStatus.text : PayoutTransactionStatus → String
  | .planned => "planned"
  | .signed => "signed"
  | .submitted => "submitted"
  | .confirmed => "confirmed"
  | .finalized => "finalized"
  | .expired => "expired"
  | .failed => "failed"
  | .outcomeUnknown => "outcome_unknown"

inductive PayoutLifecycleEventKind
  | submitted | confirmed | failed | outcomeUnknown
  deriving DecidableEq, Repr

def PayoutLifecycleEventKind.text : PayoutLifecycleEventKind → String
  | .submitted => "submitted"
  | .confirmed => "confirmed"
  | .failed => "failed"
  | .outcomeUnknown => "outcome_unknown"

def payoutLifecycleKindForFinalityStatus :
    PayoutTransactionFinalityStatus → Option PayoutLifecycleEventKind
  | .confirmed => some .confirmed
  | .failed => some .failed
  | .expired | .outcomeUnknown => some .outcomeUnknown
  | .finalized => none

def doesBatchMatchPayoutLifecycleKind (batch : PayoutBatchRecord)
    (kind : PayoutLifecycleEventKind) : Bool :=
  match kind with
  | .submitted => batch.status == .submitted
  | .confirmed => batch.status == .confirmed
  | .failed => batch.status == .failed
  | .outcomeUnknown => batch.status == .outcomeUnknown

/-- A pending event as it is inserted. -/
def pendingEvent (host : Host) (id eventType aggregateType aggregateId : String) (payload : Json)
    (occurredAt : String) : Except PayoutError OutboxEventRow := do
  let timestamp ← timestamptz host occurredAt
  pure ⟨id, eventType, aggregateType, aggregateId, payload, .pending, 0, timestamp, timestamp⟩

def receiptEventPayload (snapshot : ReceiptIngestionSnapshot) : Json :=
  let receipt := snapshot.receipt.receipt
  .obj [("receiptId", .str snapshot.receipt.id),
    ("receiptHash", .str snapshot.receipt.receiptHash),
    ("merchantId", .str receipt.merchantId),
    ("campaignId", .str receipt.campaignId),
    ("routeId", .optional receipt.routeId),
    ("paymentId", .str receipt.paymentId),
    ("settlementTxSignature", .str receipt.settlementTxSignature),
    ("network", .str receipt.network),
    ("asset", .str receipt.asset),
    ("source", .str snapshot.receipt.source.text),
    ("verificationState", .str snapshot.receipt.verificationState.text),
    ("accrualId", .optional (snapshot.accrual.map CommissionAccrual.id)),
    ("ledgerTransactionId", .optional (snapshot.ledgerTransaction.map LedgerTransaction.id))]

def payoutFinalizedPayload (batch : PayoutBatchRecord) (transaction : LedgerTransaction) : Json :=
  .obj [("payoutBatchId", .str batch.id),
    ("merchantId", .str batch.merchantId),
    ("payoutWalletId", .str batch.payoutWalletId),
    ("network", .str batch.network),
    ("asset", .str batch.asset),
    ("status", .str batch.status.text),
    ("totalAmountAtomic", .str batch.totalAmountAtomic),
    ("itemCount", .num batch.itemCount),
    ("accrualCount", .num batch.accrualCount),
    ("ledgerTransactionId", .str transaction.id),
    ("finalizedAt", .str transaction.createdAt),
    ("items", .arr (batch.items.map (fun item =>
      .obj [("payoutItemId", .str item.id),
        ("destinationWallet", .str item.destinationWallet),
        ("destinationTokenAccount", .optional item.destinationTokenAccount),
        ("amountAtomic", .str item.amountAtomic),
        ("status", .str item.status.text),
        ("accrualIds", .arr (item.allocations.map (fun allocation =>
          .str allocation.accrualId)))])))]

def payoutLifecyclePayload (batch : PayoutBatchRecord) (transaction : PayoutTransactionRecord)
    (occurredAt : String) : Json :=
  .obj [("payoutBatchId", .str batch.id),
    ("payoutTransactionId", .str transaction.id),
    ("merchantId", .str batch.merchantId),
    ("payoutWalletId", .str batch.payoutWalletId),
    ("network", .str batch.network),
    ("asset", .str batch.asset),
    ("status", .str batch.status.text),
    ("transactionStatus", .str transaction.status.text),
    ("totalAmountAtomic", .str batch.totalAmountAtomic),
    ("itemCount", .num batch.itemCount),
    ("accrualCount", .num batch.accrualCount),
    ("expectedSignature", .optional transaction.expectedSignature),
    ("submittedAt", .optional transaction.submittedAt),
    ("confirmedAt", .optional transaction.confirmedAt),
    ("finalizedAt", .optional transaction.finalizedAt),
    ("failureCode", .optional batch.failureCode),
    ("failureMessage", .optional batch.failureMessage),
    ("transactionError", (transaction.error.map Json.obj).getD .null),
    ("occurredAt", .str occurredAt)]

namespace Db

variable (host : Host) (env : CallEnv)

/-- The unique constraint `(event_type, aggregate_type, aggregate_id)`. -/
def hasEvent (db : Db) (event : OutboxEventRow) : Bool :=
  db.outboxEvents.rows.any (fun row => row.eventType = event.eventType &&
    row.aggregateType = event.aggregateType && row.aggregateId = event.aggregateId)

def insertOutboxEvent (db : Db) (event : OutboxEventRow) : Except PayoutError Db := do
  let outboxEvents ← insertRow db.outboxEvents event true (!db.hasEvent event)
  pure { db with outboxEvents := outboxEvents }

/-- `on conflict (event_type, aggregate_type, aggregate_id) do nothing`. -/
def insertOutboxEventOnce (db : Db) (event : OutboxEventRow) : Except PayoutError Db :=
  if db.hasEvent event then pure db else db.insertOutboxEvent event

/-- The lifecycle event of a transaction and its webhook copy. -/
def insertPayoutLifecycleEventsIfBatchMatches (db : Db) (transaction : PayoutTransactionRecord)
    (kind : PayoutLifecycleEventKind) (occurredAt : String) : Except PayoutError Db :=
  match db.loadPayoutBatch host transaction.payoutBatchId with
  | none => pure db
  | some batch =>
      if !doesBatchMatchPayoutLifecycleKind batch kind then pure db
      else do
        let kindText := kind.text
        let payload := payoutLifecyclePayload batch transaction occurredAt
        let event ← pendingEvent host (env.eventId 0) s!"payout.{kindText}.v1" "payout_batch"
          batch.id payload occurredAt
        let db ← db.insertOutboxEventOnce event
        let webhook ← pendingEvent host (env.eventId 1) s!"webhook.payout.{kindText}.v1"
          "payout_batch" batch.id payload occurredAt
        db.insertOutboxEventOnce webhook

/-- The lifecycle events of a finality mark, when its status has a kind. -/
def insertPayoutLifecycleEvents (db : Db) (transaction : PayoutTransactionRecord)
    (kind : Option PayoutLifecycleEventKind) (occurredAt : String) : Except PayoutError Db :=
  match kind with
  | none => pure db
  | some kind =>
      db.insertPayoutLifecycleEventsIfBatchMatches host env transaction kind occurredAt

/-! ## Receipts -/

def insertLedgerTransaction (db : Db) (transaction : LedgerTransaction) :
    Except PayoutError Db := do
  let createdAt ← timestamptz host transaction.createdAt
  let ledgerTransactions ← insertRow db.ledgerTransactions
    ⟨transaction.id, transaction.sourceType, transaction.sourceId, transaction.asset, createdAt⟩
    true
    (db.ledgerTransactions.rows.all (fun row =>
      row.sourceType ≠ transaction.sourceType || row.sourceId ≠ transaction.sourceId))
  pure { db with ledgerTransactions := ledgerTransactions }

def insertLedgerEntry (db : Db) (entry : LedgerEntry) : Except PayoutError Db := do
  let ledgerEntries ← insertRow db.ledgerEntries entry
    (db.ledgerTransactions.has entry.transactionId) true
  pure { db with ledgerEntries := ledgerEntries }

/-- A ledger transaction with its entries. -/
def insertLedger (db : Db) (transaction : LedgerTransaction) : Except PayoutError Db := do
  let db ← db.insertLedgerTransaction host transaction
  transaction.entries.foldlM insertLedgerEntry db

def insertReceipt (db : Db) (receiptRecord : ReceiptRecord) : Except PayoutError Db := do
  let createdAt ← timestamptz host receiptRecord.createdAt
  let receipt := receiptRecord.receipt
  let paymentReceipts ← insertRow db.paymentReceipts
    ⟨receiptRecord.id, receiptRecord.receiptHash, receipt, receiptRecord.source,
      receiptRecord.verificationState, receiptRecord.verificationReason, createdAt⟩
    (isInt4 receipt.campaignVersion)
    (db.paymentReceipts.rows.all (fun row =>
      row.receiptHash ≠ receiptRecord.receiptHash &&
        row.receiptJson.paymentId ≠ receipt.paymentId &&
        row.receiptJson.settlementTxSignature ≠ receipt.settlementTxSignature))
  pure { db with paymentReceipts := paymentReceipts }

/-- The insertion leaves `available_at` null whatever the accrual says. -/
def insertAccrual (db : Db) (accrual : CommissionAccrual) : Except PayoutError Db := do
  let createdAt ← timestamptz host accrual.createdAt
  let commissionAccruals ← insertRow db.commissionAccruals
    ⟨accrual.id, accrual.receiptId, accrual.merchantId, accrual.campaignId, accrual.routeId,
      accrual.referrerWallet, accrual.payoutWallet, accrual.asset, accrual.amountAtomic,
      accrual.status, none, createdAt⟩
    (db.paymentReceipts.has accrual.receiptId)
    (db.commissionAccruals.rows.all (fun row => row.receiptId ≠ accrual.receiptId))
  pure { db with commissionAccruals := commissionAccruals }

/-- The accrual of a snapshot with its ledger transaction, when it has them. -/
def insertSnapshotAccrual (db : Db) (snapshot : ReceiptIngestionSnapshot) :
    Except PayoutError Db :=
  match snapshot.accrual, snapshot.ledgerTransaction with
  | none, _ => pure db
  | some accrual, none => db.insertAccrual host accrual
  | some accrual, some transaction => do
      let db ← db.insertAccrual host accrual
      db.insertLedger host transaction

def save (db : Db) (snapshot : ReceiptIngestionSnapshot) : Except PayoutError Db := do
  let db ← db.insertReceipt host snapshot.receipt
  let db ← db.insertSnapshotAccrual host snapshot
  let payload := receiptEventPayload snapshot
  let accepted ← pendingEvent host (env.eventId 0) "receipt.accepted.v1" "receipt"
    snapshot.receipt.id payload snapshot.receipt.createdAt
  let db ← db.insertOutboxEvent accepted
  let webhook ← pendingEvent host (env.eventId 1) "webhook.receipt.accepted.v1" "receipt"
    snapshot.receipt.id payload snapshot.receipt.createdAt
  db.insertOutboxEvent webhook

/-- `update commission_accruals set status = ... where ...`. -/
def setAccrualStatus (db : Db) (select : CommissionAccrualRow → Bool) (status : AccrualStatus) :
    Db :=
  { db with
    commissionAccruals :=
      updateWhere db.commissionAccruals select ({ · with status := status }) (fun _ => rfl) }

def markReceiptChainVerified (db : Db) (input : MarkReceiptChainVerifiedInput) :
    Except PayoutError (Option ReceiptIngestionSnapshot × Db) := do
  let verifiedAt ← timestamptz host input.verifiedAt
  let db := { db with
    paymentReceipts := updateWhere db.paymentReceipts
      (fun row => row.id = input.receiptId && row.verificationState = .pendingChainVerification)
      ({ · with verificationState := .signatureVerified, verificationReason := none })
      (fun _ => rfl)
    commissionAccruals := updateWhere db.commissionAccruals
      (fun row => row.receiptId = input.receiptId && row.status = .pendingChainVerification)
      ({ · with status := .available, availableAt := some verifiedAt })
      (fun _ => rfl) }
  pure (db.getByReceiptId host input.receiptId, db)

def markReceiptChainRejected (db : Db) (input : MarkReceiptChainRejectedInput) :
    Option ReceiptIngestionSnapshot × Db :=
  let db := { db with
    paymentReceipts := updateWhere db.paymentReceipts
      (fun row => row.id = input.receiptId && row.verificationState = .pendingChainVerification)
      ({ · with verificationState := .chainRejected, verificationReason := some input.reason })
      (fun _ => rfl)
    commissionAccruals := updateWhere db.commissionAccruals
      (fun row => row.receiptId = input.receiptId && row.status = .pendingChainVerification)
      ({ · with status := .rejected })
      (fun _ => rfl) }
  (db.getByReceiptId host input.receiptId, db)

/-! ## Batches -/

/-- `update commission_accruals set status = 'allocated' ... returning id`. -/
def allocateAccrual (batch : PayoutBatchRecord) (db : Db) (accrualId : String) :
    Except PayoutError Db :=
  let select := fun row : CommissionAccrualRow => row.id = accrualId &&
    row.merchantId = batch.merchantId && row.assetMint = batch.asset && row.status = .available
  if db.commissionAccruals.rows.any select then pure (db.setAccrualStatus select .allocated)
  else throw (.batchConflict s!"accrual is not available for payout: {accrualId}")

def insertPayoutBatch (db : Db) (batch : PayoutBatchRecord) : Except PayoutError Db := do
  let createdAt ← timestamptz host batch.createdAt
  let updatedAt ← timestamptz host batch.updatedAt
  let payoutBatches ← insertRow db.payoutBatches
    ⟨batch.id, batch.merchantId, batch.payoutWalletId, batch.network, batch.asset, batch.status,
      batch.totalAmountAtomic, batch.itemCount, batch.accrualCount, batch.failureCode,
      batch.failureMessage, createdAt, updatedAt⟩
    (isNumeral batch.totalAmountAtomic && isInt4 batch.itemCount && isInt4 batch.accrualCount &&
      decide (batch.merchantId ∈ db.merchants) &&
      decide (batch.payoutWalletId ∈ db.merchantPayoutWallets))
    true
  pure { db with payoutBatches := payoutBatches }

def insertPayoutAllocation (db : Db) (allocation : PayoutAllocationRecord) :
    Except PayoutError Db := do
  let payoutAllocations ← insertRow db.payoutAllocations allocation
    (isPositiveNumeral allocation.amountAtomic && db.payoutItems.has allocation.payoutItemId &&
      db.commissionAccruals.has allocation.accrualId)
    true
  pure { db with payoutAllocations := payoutAllocations }

def insertPayoutItem (db : Db) (item : PayoutItemRecord) : Except PayoutError Db := do
  let createdAt ← timestamptz host item.createdAt
  let payoutItems ← insertRow db.payoutItems
    ⟨item.id, item.payoutBatchId, item.destinationWallet, item.destinationTokenAccount,
      item.amountAtomic, item.status, createdAt⟩
    (isPositiveNumeral item.amountAtomic && db.payoutBatches.has item.payoutBatchId)
    (db.payoutItems.rows.all (fun row =>
      row.payoutBatchId ≠ item.payoutBatchId || row.destinationWallet ≠ item.destinationWallet))
  pure { db with payoutItems := payoutItems }

/-- An item with its allocations. -/
def insertItemWithAllocations (db : Db) (item : PayoutItemRecord) : Except PayoutError Db := do
  let db ← db.insertPayoutItem host item
  item.allocations.foldlM insertPayoutAllocation db

def allocateAndInsertPayoutBatch (db : Db) (batch : PayoutBatchRecord) :
    Except PayoutError Db := do
  let db ← batch.items.foldlM (fun db item =>
    (item.allocations.map PayoutAllocationRecord.accrualId).foldlM (allocateAccrual batch) db) db
  let db ← db.insertPayoutBatch host batch
  batch.items.foldlM (insertItemWithAllocations host) db

def createPayoutBatch (db : Db) (input : CreatePayoutBatchInput) :
    Except PayoutError (PayoutBatchRecord × Db) := do
  let batch ← createPayoutBatchPlan host env input
  let db ← db.allocateAndInsertPayoutBatch host batch
  pure (batch, db)

def createPayoutBatchFromAvailableAccruals (db : Db)
    (input : CreatePayoutBatchFromAvailableAccrualsInput) :
    Except PayoutError (PayoutBatchRecord × Db) := do
  let accruals ← db.selectPayoutEligibleAccruals host env input.listInput
  let batch ← createPayoutBatchPlan host env (input.planInput accruals)
  let db ← db.allocateAndInsertPayoutBatch host batch
  pure (batch, db)

/-- The writes of a releasing transaction. -/
def markPayoutBatchAllocationsReleased (db : Db) (batch : PayoutBatchRecord) :
    Except PayoutError Db := do
  let updatedAt ← timestamptz host batch.updatedAt
  let itemIds := (db.payoutItems.rows.filter (fun item => item.payoutBatchId = batch.id)).map
    PayoutItemRow.id
  let ofBatch := fun allocation : PayoutAllocationRecord => decide (allocation.payoutItemId ∈ itemIds)
  let accrualIds := (db.payoutAllocations.rows.filter ofBatch).map PayoutAllocationRecord.accrualId
  let freed := db.setAccrualStatus
    (fun row => decide (row.id ∈ accrualIds) && row.status = .allocated) .available
  pure { freed with
    payoutBatches := updateWhere db.payoutBatches (fun row => row.id = batch.id)
      ({ · with
        status := batch.status
        failureCode := batch.failureCode
        failureMessage := batch.failureMessage
        updatedAt := updatedAt })
      (fun _ => rfl)
    payoutItems := updateWhere db.payoutItems (fun row => row.payoutBatchId = batch.id)
      ({ · with status := .released })
      (fun _ => rfl)
    payoutAllocations := db.payoutAllocations.filter (fun allocation => !ofBatch allocation) }

/-- What the release guard reads of the transactions of a batch. -/
def guardTransactions (db : Db) (batchId : String) :
    List PayoutBatchAllocationReleaseGuardTransaction :=
  (db.payoutTransactions.rows.filter (fun row => row.payoutBatchId = batchId)).map
    (fun row => ⟨row.id, row.status, row.expectedSignature⟩)

def releasePayoutBatchAllocations (db : Db) (input : ReleasePayoutBatchAllocationsInput) :
    Except PayoutError (Option PayoutBatchRecord × Db) :=
  match db.loadPayoutBatch host input.payoutBatchId with
  | none => pure (none, db)
  | some batch => do
      let released ← planRelease host env batch (db.guardTransactions batch.id) input
      let db ← db.markPayoutBatchAllocationsReleased host released
      pure (some released, db)

/-! ## Transactions -/

def insertPayoutTransaction (db : Db) (transaction : PayoutTransactionRecord) :
    Except PayoutError Db := do
  let submittedAt ← optionalTimestamptz host transaction.submittedAt
  let confirmedAt ← optionalTimestamptz host transaction.confirmedAt
  let finalizedAt ← optionalTimestamptz host transaction.finalizedAt
  let createdAt ← timestamptz host transaction.createdAt
  let payoutTransactions ← insertRow db.payoutTransactions
    ⟨transaction.id, transaction.payoutBatchId, transaction.sequence, transaction.attempt,
      transaction.recentBlockhash, transaction.lastValidBlockHeight,
      transaction.signedTransactionBase64, transaction.expectedSignature, transaction.status,
      submittedAt, confirmedAt, finalizedAt, transaction.error, createdAt⟩
    (isInt4 transaction.sequence && isInt4 transaction.attempt &&
      transaction.lastValidBlockHeight.all isInt8 && 0 ≤ transaction.sequence &&
      0 < transaction.attempt && db.payoutBatches.has transaction.payoutBatchId)
    (db.payoutTransactions.rows.all (fun row =>
      (row.payoutBatchId ≠ transaction.payoutBatchId || row.sequence ≠ transaction.sequence ||
          row.attempt ≠ transaction.attempt) &&
        (transaction.expectedSignature.isNone ||
          row.expectedSignature ≠ transaction.expectedSignature)))
  pure { db with payoutTransactions := payoutTransactions }

def insertPayoutTransactionItem (db : Db) (item : PayoutTransactionItemRecord) :
    Except PayoutError Db := do
  let payoutTransactionItems ← insertRow db.payoutTransactionItems item
    (isPositiveNumeral item.amountAtomic && db.payoutTransactions.has item.payoutTransactionId &&
      db.payoutItems.has item.payoutItemId)
    true
  pure { db with payoutTransactionItems := payoutTransactionItems }

/-- A transaction with its item mappings. -/
def insertTransactionWithItems (db : Db) (transaction : PayoutTransactionRecord) :
    Except PayoutError Db := do
  let db ← db.insertPayoutTransaction host transaction
  transaction.items.foldlM insertPayoutTransactionItem db

/-- The records a saving call makes from what it reads before its transaction. -/
def readSignedPayoutTransactions (reads : Db) (input : SaveSignedPayoutTransactionsInput) :
    Except PayoutError (List PayoutTransactionRecord) :=
  match reads.loadPayoutBatch host input.payoutBatchId with
  | none => throw (.batchConflict s!"unknown payout batch: {input.payoutBatchId}")
  | some batch => do
      let records ← planSignedPayoutTransactions host env input batch
      let existingRecords := reads.listPayoutTransactions host input.payoutBatchId
      match records.find? (fun record => existingRecords.any (fun existing =>
          existing.sequence = record.sequence && existing.attempt = record.attempt)) with
      | some record =>
          throw (.batchConflict
            s!"payout transaction already exists for sequence {record.sequence} attempt {record.attempt}")
      | none => pure records

def saveSignedPayoutTransactions (reads db : Db) (input : SaveSignedPayoutTransactionsInput) :
    Except PayoutError (List PayoutTransactionRecord × Db) := do
  let records ← reads.readSignedPayoutTransactions host env input
  let db ← records.foldlM (insertTransactionWithItems host) db
  pure (records, db)

/-- The writes of a rollup. -/
def writeRollup (db : Db) (payoutBatchId : String) (rollup : PayoutBatchTransactionItemRollup)
    (updatedAt : Int) : Db :=
  { db with
    payoutBatches := updateWhere db.payoutBatches (fun row => row.id = payoutBatchId)
      ({ · with
        status := rollup.batchStatus
        failureCode := rollup.failureCode
        failureMessage := rollup.failureMessage
        updatedAt := updatedAt })
      (fun _ => rfl)
    payoutItems := rollup.updatedItems.foldl (fun payoutItems update =>
      updateWhere payoutItems (fun row => row.id = update.payoutItemId)
        ({ · with status := update.status }) (fun _ => rfl)) db.payoutItems }

def rollUpPayoutBatchFinality (db : Db) (payoutBatchId updatedAt : String) :
    Except PayoutError Db :=
  match db.loadPayoutBatch host payoutBatchId with
  | none => pure db
  | some batch =>
      match summarizePayoutBatchTransactionItemFinality host batch
          (db.listPayoutTransactions host payoutBatchId) with
      | none => pure db
      | some rollup => do
          let updatedAt ← timestamptz host updatedAt
          pure (db.writeRollup payoutBatchId rollup updatedAt)

/-- Write a transaction row; `none` when no row matches the `where` clause. -/
def updateTransactionRow (db : Db) (id : String) (expectedStatus : Option PayoutTransactionStatus)
    (unique : Bool) (change : PayoutTransactionRow → PayoutTransactionRow)
    (hkey : ∀ row, (change row).id = row.id) :
    Except PayoutError (Option PayoutTransactionRecord × Db) :=
  let select := fun row : PayoutTransactionRow =>
    row.id = id && expectedStatus.all (· = row.status)
  if !db.payoutTransactions.rows.any select then pure (none, db)
  else if !unique then throw .persistenceConflict
  else
    let db := { db with
      payoutTransactions := updateWhere db.payoutTransactions select change hkey }
    pure (db.getPayoutTransaction host id, db)

def markPayoutTransactionSubmitted (reads db : Db) (input : MarkPayoutTransactionSubmittedInput) :
    Except PayoutError (Option PayoutTransactionRecord × Db) :=
  match reads.getPayoutTransaction host input.id with
  | none => pure (none, db)
  | some existing =>
      if input.expectedSignature.isSome && existing.expectedSignature.isSome &&
          existing.expectedSignature != input.expectedSignature then
        throw (.batchConflict
          "submitted payout transaction signature does not match expected signature")
      else do
        let submittedAt ← normalizeDateInput host env input.submittedAt "submittedAt"
        let expectedSignature := input.expectedSignature.or existing.expectedSignature
        let submittedMs ← timestamptz host submittedAt
        let unique := expectedSignature.isNone || db.payoutTransactions.rows.all (fun row =>
          row.id = input.id || row.expectedSignature ≠ expectedSignature)
        let (written, db) ← db.updateTransactionRow host input.id none unique
          ({ · with
            status := .submitted
            submittedAt := some submittedMs
            expectedSignature := expectedSignature })
          (fun _ => rfl)
        match written with
        | none => pure (none, db)
        | some transaction => do
            let db ← db.rollUpPayoutBatchFinality host transaction.payoutBatchId submittedAt
            let db ← db.insertPayoutLifecycleEventsIfBatchMatches host env transaction .submitted
              submittedAt
            pure (some transaction, db)

/-- `confirmed_at` of a finality mark, from the transaction read before. -/
def finalityConfirmedAt (existing : PayoutTransactionRecord)
    (status : PayoutTransactionFinalityStatus) (observedAt : String) : Option String :=
  match status with
  | .confirmed => some observedAt
  | .finalized => some (existing.confirmedAt.getD observedAt)
  | _ => existing.confirmedAt

/-- `finalized_at` of a finality mark, from the transaction read before. -/
def finalityFinalizedAt (existing : PayoutTransactionRecord)
    (status : PayoutTransactionFinalityStatus) (observedAt : String) : Option String :=
  match status with
  | .finalized => some observedAt
  | _ => existing.finalizedAt

def markPayoutTransactionFinality (reads db : Db) (input : MarkPayoutTransactionFinalityInput) :
    Except PayoutError (Option PayoutTransactionRecord × Db) :=
  match reads.getPayoutTransaction host input.id with
  | none => pure (none, db)
  | some existing => do
      let observedAt ← normalizeDateInput host env input.observedAt "observedAt"
      let confirmedAt ←
        optionalTimestamptz host (finalityConfirmedAt existing input.status observedAt)
      let finalizedAt ←
        optionalTimestamptz host (finalityFinalizedAt existing input.status observedAt)
      let (written, db) ← db.updateTransactionRow host input.id input.expectedStatus true
        ({ · with
          status := input.status.toStatus
          confirmedAt := confirmedAt
          finalizedAt := finalizedAt
          errorJson := input.error.or existing.error })
        (fun _ => rfl)
      match written with
      | none => pure (none, db)
      | some transaction => do
          let db ← db.rollUpPayoutBatchFinality host transaction.payoutBatchId observedAt
          let db ← db.insertPayoutLifecycleEvents host env transaction
            (payoutLifecycleKindForFinalityStatus input.status) observedAt
          pure (some transaction, db)

/-! ## Ledger closure -/

/-- What a closing call finds before its transaction. -/
inductive ClosureRead
  | unknownBatch
  | alreadyClosed (transaction : LedgerTransaction)
  | ready (batch : PayoutBatchRecord) (transaction : LedgerTransaction)

/-- Everything a closing call does before its transaction: read, verify, and make the ledger
transaction. -/
def readClosure (reads : Db) (input : ClosePayoutBatchLedgerInput) :
    Except PayoutError ClosureRead :=
  match reads.loadLedgerTransactionBySource host .payoutBatch input.payoutBatchId with
  | some existing => pure (.alreadyClosed existing)
  | none =>
      match reads.loadPayoutBatch host input.payoutBatchId with
      | none => pure .unknownBatch
      | some batch => do
          verifyPayoutFinalizedTransfersBeforeLedgerClosure input.verification
          let transaction ← createPayoutFinalizationLedgerTransaction host env batch input
          pure (.ready batch transaction)

/-- `markBatchAccrualsPaid`. -/
def markBatchAccrualsPaid (db : Db) (batch : PayoutBatchRecord) : Db :=
  batch.finalizedAccrualIds.foldl (fun db accrualId =>
    db.setAccrualStatus (fun row => row.id = accrualId && row.status = .allocated) .paid) db

/-- The transaction of a closing call. -/
def commitClosure (db : Db) (batch : PayoutBatchRecord) (transaction : LedgerTransaction) :
    Except PayoutError Db := do
  let db ← db.insertLedger host transaction
  let db := db.markBatchAccrualsPaid batch
  let payload := payoutFinalizedPayload batch transaction
  let finalized ← pendingEvent host (env.eventId 0) "payout.finalized.v1" "payout_batch" batch.id
    payload transaction.createdAt
  let db ← db.insertOutboxEvent finalized
  let webhook ← pendingEvent host (env.eventId 1) "webhook.payout.finalized.v1" "payout_batch"
    batch.id payload transaction.createdAt
  db.insertOutboxEvent webhook

def closeFinalizedPayoutBatchLedger (reads db : Db) (input : ClosePayoutBatchLedgerInput) :
    Except PayoutError (Option LedgerTransaction × Db) := do
  match ← reads.readClosure host env input with
  | .unknownBatch => pure (none, db)
  | .alreadyClosed transaction => pure (some transaction, db)
  | .ready batch transaction => do
      let db ← db.commitClosure host env batch transaction
      pure (some transaction, db)

/-! ## Calls -/

/-- The database a call leaves, or the error it throws. What the call reads before its
transaction comes from `reads`. -/
def exec (reads db : Db) (call : StoreCall) : Except PayoutError Db :=
  match call.op with
  | .save snapshot => db.save host call.env snapshot
  | .markReceiptChainVerified input => Prod.snd <$> db.markReceiptChainVerified host input
  | .markReceiptChainRejected input => pure (db.markReceiptChainRejected host input).2
  | .createPayoutBatchFromAvailableAccruals input =>
      Prod.snd <$> db.createPayoutBatchFromAvailableAccruals host call.env input
  | .releasePayoutBatchAllocations input =>
      Prod.snd <$> db.releasePayoutBatchAllocations host call.env input
  | .saveSignedPayoutTransactions input =>
      Prod.snd <$> saveSignedPayoutTransactions host call.env reads db input
  | .markPayoutTransactionSubmitted input =>
      Prod.snd <$> markPayoutTransactionSubmitted host call.env reads db input
  | .markPayoutTransactionFinality input =>
      Prod.snd <$> markPayoutTransactionFinality host call.env reads db input
  | .closeFinalizedPayoutBatchLedger input =>
      Prod.snd <$> closeFinalizedPayoutBatchLedger host call.env reads db input

end Db

end Split402

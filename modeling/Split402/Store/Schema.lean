import Split402.Base.Sort
import Split402.Base.Table
import Split402.Payouts.Checks

/-! # The database

The tables the Postgres store uses, with the constraints of the migrations. A timestamp column
holds milliseconds. A primary key is the key of its `Table`; further unique, check and foreign
key constraints are conditions of the insertion. `payout_allocations` is keyed by `accrual_id`,
which is unique there, so that its primary key `(payout_item_id, accrual_id)` follows. -/

namespace Split402

open Base (Table sortBy)

variable (host : Host)

/-! ## Rows -/

structure PaymentReceiptRow where
  id : String
  receiptHash : String
  receiptJson : Split402ReceiptV1
  source : ReceiptIngestSource
  verificationState : ReceiptVerificationState
  verificationReason : Option String
  createdAt : Int
  deriving DecidableEq, Repr

structure CommissionAccrualRow where
  id : String
  receiptId : String
  merchantId : String
  campaignId : String
  routeId : String
  referrerWallet : String
  payoutWallet : String
  assetMint : String
  amountAtomic : String
  status : AccrualStatus
  availableAt : Option Int
  createdAt : Int
  deriving DecidableEq, Repr

structure LedgerTransactionRow where
  id : String
  sourceType : LedgerSourceType
  sourceId : String
  assetMint : String
  createdAt : Int
  deriving DecidableEq, Repr

structure PayoutBatchRow where
  id : String
  merchantId : String
  payoutWalletId : String
  network : String
  assetMint : String
  status : PayoutBatchStatus
  totalAmountAtomic : String
  itemCount : Nat
  accrualCount : Nat
  failureCode : Option String
  failureMessage : Option String
  createdAt : Int
  updatedAt : Int
  deriving DecidableEq, Repr

structure PayoutItemRow where
  id : String
  payoutBatchId : String
  destinationWallet : String
  destinationTokenAccount : Option String
  amountAtomic : String
  status : PayoutItemStatus
  createdAt : Int
  deriving DecidableEq, Repr

structure PayoutTransactionRow where
  id : String
  payoutBatchId : String
  sequence : Int
  attempt : Int
  recentBlockhash : Option String
  lastValidBlockHeight : Option Int
  signedTransactionBase64 : Option String
  expectedSignature : Option String
  status : PayoutTransactionStatus
  submittedAt : Option Int
  confirmedAt : Option Int
  finalizedAt : Option Int
  errorJson : Option (List (String × Json))
  createdAt : Int

inductive OutboxEventStatus
  | pending | processing | delivered | deadLetter
  deriving DecidableEq, Repr

structure OutboxEventRow where
  id : String
  eventType : String
  aggregateType : String
  aggregateId : String
  payload : Json
  status : OutboxEventStatus
  attempts : Nat
  availableAt : Int
  createdAt : Int

/-- The tables of the receipt and payout store. `merchants` and `merchantPayoutWallets` are the
ids other stores keep; batches refer to them. -/
structure Db where
  paymentReceipts : Table PaymentReceiptRow.id
  commissionAccruals : Table CommissionAccrualRow.id
  ledgerTransactions : Table LedgerTransactionRow.id
  ledgerEntries : Table LedgerEntry.id
  payoutBatches : Table PayoutBatchRow.id
  payoutItems : Table PayoutItemRow.id
  payoutAllocations : Table PayoutAllocationRecord.accrualId
  payoutTransactions : Table PayoutTransactionRow.id
  payoutTransactionItems :
    Table (fun row : PayoutTransactionItemRecord => (row.payoutTransactionId, row.payoutItemId))
  outboxEvents : Table OutboxEventRow.id
  merchants : List String
  merchantPayoutWallets : List String

namespace Db

/-- The migrated database before its first write. -/
def empty (merchants merchantPayoutWallets : List String) : Db :=
  ⟨Table.empty, Table.empty, Table.empty, Table.empty, Table.empty, Table.empty, Table.empty,
    Table.empty, Table.empty, Table.empty, merchants, merchantPayoutWallets⟩

end Db

/-! ## Writing -/

/-- A string in a `timestamptz` column. -/
def timestamptz (value : String) : Except PayoutError Int :=
  match host.parseTimestamptz value with
  | none => throw (.database "invalid input syntax for type timestamp with time zone")
  | some timestamp => pure timestamp

def optionalTimestamptz (value : Option String) : Except PayoutError (Option Int) :=
  checkOptional value (timestamptz host)

/-- Insert a row. `valid` are its check and foreign key constraints, `unique` its unique
constraints beside the primary key. -/
def insertRow {ρ κ : Type} [DecidableEq κ] {key : ρ → κ} (table : Table key) (row : ρ)
    (valid unique : Bool) : Except PayoutError (Table key) :=
  if !valid then throw (.database "new row violates a constraint")
  else if !unique then throw .persistenceConflict
  else
    match table.insert? row with
    | none => throw .persistenceConflict
    | some table => pure table

/-- `update ... set ... where ...` by a change that keeps the primary key. -/
def updateWhere {ρ κ : Type} {key : ρ → κ} (table : Table key) (select : ρ → Bool)
    (change : ρ → ρ) (hkey : ∀ row, key (change row) = key row) : Table key :=
  table.mapRows (fun row => if select row then change row else row) (by
    intro row
    split
    · exact hkey row
    · rfl)

/-- `'^(0|[1-9][0-9]*)$'`. -/
def isNumeral (value : String) : Bool := (parseAtomicAmount value).isSome

/-- `'^[1-9][0-9]*$'`. -/
def isPositiveNumeral (value : String) : Bool := (parseAtomicAmount value).any (0 < ·)

/-- The range of `integer`. -/
def isInt4 (value : Int) : Bool := -2147483648 ≤ value && value ≤ 2147483647

/-- The range of `bigint`. -/
def isInt8 (value : Int) : Bool := -9223372036854775808 ≤ value && value ≤ 9223372036854775807

/-! ## Reading rows back -/

def mapReceiptRecord (row : PaymentReceiptRow) : ReceiptRecord :=
  ⟨row.id, row.receiptHash, row.receiptJson, row.source, row.verificationState,
    row.verificationReason, host.toISOString row.createdAt⟩

def mapAccrual (row : CommissionAccrualRow) : CommissionAccrual :=
  ⟨row.id, row.receiptId, row.merchantId, row.campaignId, row.routeId, row.referrerWallet,
    row.payoutWallet, row.assetMint, row.amountAtomic, row.status,
    row.availableAt.map host.toISOString, host.toISOString row.createdAt⟩

def mapLedgerTransaction (row : LedgerTransactionRow) (entries : List LedgerEntry) :
    LedgerTransaction :=
  ⟨row.id, row.sourceType, row.sourceId, row.assetMint, entries, host.toISOString row.createdAt⟩

def mapPayoutItem (row : PayoutItemRow) (allocations : List PayoutAllocationRecord) :
    PayoutItemRecord :=
  ⟨row.id, row.payoutBatchId, row.destinationWallet, row.destinationTokenAccount,
    row.amountAtomic, row.status, host.toISOString row.createdAt, allocations⟩

/-- The batch of a row, with its items and their allocations in the order the rows come. -/
def mapPayoutBatch (batch : PayoutBatchRow) (itemRows : List PayoutItemRow)
    (allocationRows : List PayoutAllocationRecord) : PayoutBatchRecord where
  id := batch.id
  merchantId := batch.merchantId
  payoutWalletId := batch.payoutWalletId
  network := batch.network
  asset := batch.assetMint
  status := batch.status
  totalAmountAtomic := batch.totalAmountAtomic
  itemCount := batch.itemCount
  accrualCount := batch.accrualCount
  failureCode := batch.failureCode
  failureMessage := batch.failureMessage
  createdAt := host.toISOString batch.createdAt
  updatedAt := host.toISOString batch.updatedAt
  items := itemRows.map (fun item =>
    mapPayoutItem host item
      (allocationRows.filter (fun allocation => allocation.payoutItemId = item.id)))

def mapPayoutTransaction (row : PayoutTransactionRow)
    (items : List PayoutTransactionItemRecord) : PayoutTransactionRecord where
  id := row.id
  payoutBatchId := row.payoutBatchId
  sequence := row.sequence
  attempt := row.attempt
  recentBlockhash := row.recentBlockhash
  lastValidBlockHeight := row.lastValidBlockHeight
  signedTransactionBase64 := row.signedTransactionBase64
  expectedSignature := row.expectedSignature
  status := row.status
  submittedAt := row.submittedAt.map host.toISOString
  confirmedAt := row.confirmedAt.map host.toISOString
  finalizedAt := row.finalizedAt.map host.toISOString
  error := row.errorJson
  createdAt := host.toISOString row.createdAt
  items := items

def mapPayoutTransactionsWithItems (rows : List PayoutTransactionRow)
    (itemRows : List PayoutTransactionItemRecord) : List PayoutTransactionRecord :=
  rows.map (fun row =>
    mapPayoutTransaction host row
      (itemRows.filter (fun item => item.payoutTransactionId = row.id)))

/-! ## Queries -/

namespace Db

def loadAccrual (db : Db) (receiptId : String) : Option CommissionAccrual :=
  (db.commissionAccruals.rows.find? (fun row => row.receiptId = receiptId)).map (mapAccrual host)

/-- The ledger transaction of a source. The entries of a transaction are inserted together and
share their `created_at`, so they come in the order of their ids. -/
def loadLedgerTransactionBySource (db : Db) (sourceType : LedgerSourceType) (sourceId : String) :
    Option LedgerTransaction :=
  (db.ledgerTransactions.rows.find? (fun row =>
    row.sourceType = sourceType && row.sourceId = sourceId)).map (fun row =>
      mapLedgerTransaction host row
        (sortBy (fun left right => host.collate left.id right.id)
          (db.ledgerEntries.rows.filter (fun entry => entry.transactionId = row.id))))

def getByReceiptId (db : Db) (receiptId : String) : Option ReceiptIngestionSnapshot :=
  (db.paymentReceipts.find? receiptId).map (fun row =>
    match db.loadAccrual host row.id with
    | none => ⟨mapReceiptRecord host row, none, none⟩
    | some accrual =>
        ⟨mapReceiptRecord host row, some accrual,
          db.loadLedgerTransactionBySource host .commissionAccrual accrual.id⟩)

/-- `order by created_at, id`. -/
def itemRows (db : Db) (batchId : String) : List PayoutItemRow :=
  sortBy (fun left right =>
    (compare left.createdAt right.createdAt).then (host.collate left.id right.id))
    (db.payoutItems.rows.filter (fun item => item.payoutBatchId = batchId))

/-- `where payout_item_id = any($1) order by payout_item_id, accrual_id`. -/
def allocationRows (db : Db) (itemIds : List String) : List PayoutAllocationRecord :=
  sortBy (fun left right =>
    (host.collate left.payoutItemId right.payoutItemId).then
      (host.collate left.accrualId right.accrualId))
    (db.payoutAllocations.rows.filter (fun allocation => allocation.payoutItemId ∈ itemIds))

def loadPayoutBatch (db : Db) (batchId : String) : Option PayoutBatchRecord :=
  (db.payoutBatches.find? batchId).map (fun row =>
    let itemRows := db.itemRows host batchId
    mapPayoutBatch host row itemRows (db.allocationRows host (itemRows.map PayoutItemRow.id)))

/-- `order by payout_transaction_id, payout_item_id`. -/
def listPayoutTransactionItems (db : Db) (payoutTransactionIds : List String) :
    List PayoutTransactionItemRecord :=
  sortBy (fun left right =>
    (host.collate left.payoutTransactionId right.payoutTransactionId).then
      (host.collate left.payoutItemId right.payoutItemId))
    (db.payoutTransactionItems.rows.filter (fun item =>
      item.payoutTransactionId ∈ payoutTransactionIds))

def getPayoutTransaction (db : Db) (id : String) : Option PayoutTransactionRecord :=
  (db.payoutTransactions.find? id).map (fun row =>
    mapPayoutTransaction host row ((db.listPayoutTransactionItems host [row.id]).filter
      (fun item => item.payoutTransactionId = row.id)))

/-- `order by sequence, attempt, created_at, id`. -/
def transactionRows (db : Db) (payoutBatchId : String) : List PayoutTransactionRow :=
  sortBy (fun left right =>
    (compare left.sequence right.sequence).then
      ((compare left.attempt right.attempt).then
        ((compare left.createdAt right.createdAt).then (host.collate left.id right.id))))
    (db.payoutTransactions.rows.filter (fun row => row.payoutBatchId = payoutBatchId))

def listPayoutTransactions (db : Db) (payoutBatchId : String) : List PayoutTransactionRecord :=
  let rows := db.transactionRows host payoutBatchId
  mapPayoutTransactionsWithItems host rows
    (db.listPayoutTransactionItems host (rows.map PayoutTransactionRow.id))

/-- `nulls first`. -/
def compareNullsFirst : Option Int → Option Int → Ordering
  | none, none => .eq
  | none, some _ => .lt
  | some _, none => .gt
  | some left, some right => compare left right

/-- The `where` clause of the eligible accruals. -/
def isEligibleRow (input : ListPayoutEligibleAccrualsInput) (nowMs : Int)
    (row : CommissionAccrualRow) : Bool :=
  row.merchantId = input.merchantId && row.status = .available &&
    row.availableAt.all (· ≤ nowMs) && input.asset.all (· = row.assetMint) &&
    input.campaignId.all (· = row.campaignId) && input.routeId.all (· = row.routeId)

/-- `order by asset_mint, payout_wallet, available_at nulls first, created_at, id`. -/
def compareEligibleRows (left right : CommissionAccrualRow) : Ordering :=
  (host.collate left.assetMint right.assetMint).then
    ((host.collate left.payoutWallet right.payoutWallet).then
      ((compareNullsFirst left.availableAt right.availableAt).then
        ((compare left.createdAt right.createdAt).then (host.collate left.id right.id))))

/-- `selectPayoutEligibleAccruals`. -/
def selectPayoutEligibleAccruals (db : Db) (env : CallEnv)
    (input : ListPayoutEligibleAccrualsInput) : Except PayoutError (List CommissionAccrual) :=
  let now := nowOrClock host env input.now
  if host.dateParse now = none then throw (.other "now must be an ISO timestamp")
  else if input.limit.any (· ≤ 0) then throw (.other "limit must be a positive integer")
  else do
    let nowMs ← timestamptz host now
    let ordered := sortBy (compareEligibleRows host)
      (db.commissionAccruals.rows.filter (isEligibleRow input nowMs))
    let limited := match input.limit with
      | none => ordered
      | some limit => ordered.take limit.toNat
    pure (limited.map (mapAccrual host))

end Db

end Split402

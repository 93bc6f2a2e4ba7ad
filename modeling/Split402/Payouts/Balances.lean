import Split402.Base.Tally
import Split402.Payouts.Preview

/-! # Balances and obligations

What a referrer has earned and what a merchant owes, by asset: every accrual that has not been
rejected or reversed is put in a bucket, by its status and by the status of the payout item that
allocates it. -/

namespace Split402

open Base (Table Tally tallyM sortBy)

variable (host : Host)

inductive ReferrerPayoutHistoryStatus
  | pending | available | held | inFlight | paid
  deriving DecidableEq, Repr

structure ReferrerPayoutHistoryItem where
  accrualId : String
  receiptId : String
  merchantId : String
  campaignId : String
  routeId : String
  referrerWallet : String
  payoutWallet : String
  asset : String
  amountAtomic : String
  status : ReferrerPayoutHistoryStatus
  accrualStatus : AccrualStatus
  createdAt : String
  availableAt : Option String
  payoutBatchId : Option String
  payoutItemId : Option String
  payoutStatus : Option PayoutItemStatus
  deriving DecidableEq, Repr

/-! ## Buckets -/

/-- An amount, or a number, for each bucket. -/
structure StatusAmounts where
  pending : Nat
  available : Nat
  held : Nat
  inFlight : Nat
  paid : Nat
  deriving DecidableEq, Repr

def StatusAmounts.zero : StatusAmounts := ⟨0, 0, 0, 0, 0⟩

/-- `bucket.… += amount`, in the bucket of a status. -/
def StatusAmounts.credit (amounts : StatusAmounts) (status : ReferrerPayoutHistoryStatus)
    (amount : Nat) : StatusAmounts :=
  match status with
  | .pending => { amounts with pending := amounts.pending + amount }
  | .available => { amounts with available := amounts.available + amount }
  | .held => { amounts with held := amounts.held + amount }
  | .inFlight => { amounts with inFlight := amounts.inFlight + amount }
  | .paid => { amounts with paid := amounts.paid + amount }

abbrev PayoutAllocationIndex : Type :=
  Table (Prod.fst : String × (PayoutBatchRecord × PayoutItemRecord) → String)

/-- Of several allocations of one accrual the map has the last. -/
def buildPayoutAllocationIndex (batches : List PayoutBatchRecord) : PayoutAllocationIndex :=
  Table.empty.upsertAll (batches.flatMap fun batch => batch.items.flatMap fun item =>
    item.allocations.map fun allocation => (allocation.accrualId, (batch, item)))

def readReferrerPayoutHistoryStatus (accrual : CommissionAccrual)
    (payout : Option (PayoutBatchRecord × PayoutItemRecord)) : ReferrerPayoutHistoryStatus :=
  if payout.any (fun payout => payout.2.status = .finalized) then .paid
  else
    match accrual.status with
    | .paid => .paid
    | .pendingChainVerification => .pending
    | .available => .available
    | .held => .held
    | .allocated | .rejected | .reversed => .inFlight

def readMerchantObligationStatus (accrual : CommissionAccrual)
    (payout : Option (PayoutBatchRecord × PayoutItemRecord)) : ReferrerPayoutHistoryStatus :=
  readReferrerPayoutHistoryStatus accrual payout

/-! ## Referrers -/

structure ReferrerBalanceAsset where
  asset : String
  pendingAmountAtomic : String
  availableAmountAtomic : String
  heldAmountAtomic : String
  inFlightAmountAtomic : String
  paidAmountAtomic : String
  totalEarnedAmountAtomic : String
  deriving DecidableEq, Repr

structure ReferrerBalanceSummary where
  referrerWallet : String
  generatedAt : String
  assets : List ReferrerBalanceAsset
  deriving DecidableEq, Repr

structure CreateReferrerPayoutHistoryItemsInput where
  referrerWallet : String
  accruals : List CommissionAccrual
  payoutBatches : List PayoutBatchRecord
  asset : Option String
  limit : Option Int

structure CreateReferrerBalanceSummaryInput where
  referrerWallet : String
  accruals : List CommissionAccrual
  payoutBatches : List PayoutBatchRecord
  asset : Option String
  now : Option String

def normalizeReferrerPayoutHistoryLimit (limit : Int) : Except PayoutError Nat :=
  if limit ≤ 0 ∨ 500 < limit then
    throw (.batchValidation "referrer payout history limit must be between 1 and 500")
  else pure limit.toNat

/-- The accruals that a view is about: neither rejected nor reversed, and of the asset if one is
asked for. -/
def isCounted (asset : Option String) (accrual : CommissionAccrual) : Bool :=
  asset.all (accrual.asset = ·) && accrual.status != .rejected && accrual.status != .reversed

def createReferrerPayoutHistoryItem (payoutIndex : PayoutAllocationIndex)
    (accrual : CommissionAccrual) : Except PayoutError ReferrerPayoutHistoryItem := do
  let payout := (payoutIndex.find? accrual.id).map Prod.snd
  let createdAt ← normalizeTimestamp host accrual.createdAt "createdAt"
  let availableAt ← checkOptional accrual.availableAt fun availableAt =>
    normalizeTimestamp host availableAt "availableAt"
  pure
    { accrualId := accrual.id
      receiptId := accrual.receiptId
      merchantId := accrual.merchantId
      campaignId := accrual.campaignId
      routeId := accrual.routeId
      referrerWallet := accrual.referrerWallet
      payoutWallet := accrual.payoutWallet
      asset := accrual.asset
      amountAtomic := accrual.amountAtomic
      status := readReferrerPayoutHistoryStatus accrual payout
      accrualStatus := accrual.status
      createdAt := createdAt
      availableAt := availableAt
      payoutBatchId := payout.map fun payout => payout.1.id
      payoutItemId := payout.map fun payout => payout.2.id
      payoutStatus := payout.map fun payout => payout.2.status }

/-- The newest one first. -/
def compareReferrerPayoutHistoryItems (left right : ReferrerPayoutHistoryItem) : Ordering :=
  (compareMs (host.dateParse right.createdAt) (host.dateParse left.createdAt)).then
    (host.localeCompare left.accrualId right.accrualId)

def createReferrerPayoutHistoryItems (input : CreateReferrerPayoutHistoryItemsInput) :
    Except PayoutError (List ReferrerPayoutHistoryItem) := do
  let referrerWallet ← assertNonEmptyString input.referrerWallet "referrerWallet"
  let limit ← checkOptional input.limit normalizeReferrerPayoutHistoryLimit
  let payoutIndex := buildPayoutAllocationIndex input.payoutBatches
  let counted := input.accruals.filter fun accrual =>
    accrual.referrerWallet = referrerWallet && isCounted input.asset accrual
  let items ← counted.mapM (createReferrerPayoutHistoryItem host payoutIndex)
  let sorted := sortBy (compareReferrerPayoutHistoryItems host) items
  pure (limit.elim sorted sorted.take)

structure ReferrerTotals where
  amounts : StatusAmounts
  total : Nat
  deriving DecidableEq, Repr

def addHistoryItem (totals : ReferrerTotals) (item : ReferrerPayoutHistoryItem) :
    Except PayoutError ReferrerTotals := do
  let amount ← readAtomicAmount item.amountAtomic "amountAtomic"
  pure ⟨totals.amounts.credit item.status amount, totals.total + amount⟩

def toReferrerBalanceAsset (entry : String × ReferrerTotals) : ReferrerBalanceAsset where
  asset := entry.1
  pendingAmountAtomic := serializeAtomicAmount entry.2.amounts.pending
  availableAmountAtomic := serializeAtomicAmount entry.2.amounts.available
  heldAmountAtomic := serializeAtomicAmount entry.2.amounts.held
  inFlightAmountAtomic := serializeAtomicAmount entry.2.amounts.inFlight
  paidAmountAtomic := serializeAtomicAmount entry.2.amounts.paid
  totalEarnedAmountAtomic := serializeAtomicAmount entry.2.total

def createReferrerBalanceSummary (env : CallEnv) (input : CreateReferrerBalanceSummaryInput) :
    Except PayoutError ReferrerBalanceSummary := do
  let referrerWallet ← assertNonEmptyString input.referrerWallet "referrerWallet"
  let generatedAt ← normalizeTimestamp host (nowOrClock host env input.now) "now"
  let items ← createReferrerPayoutHistoryItems host
    ⟨referrerWallet, input.accruals, input.payoutBatches, input.asset, none⟩
  let assetsByMint ← tallyM ReferrerPayoutHistoryItem.asset ⟨.zero, 0⟩ addHistoryItem items
  let entries := sortBy (fun left right => host.localeCompare left.1 right.1) assetsByMint.rows
  pure ⟨referrerWallet, generatedAt, entries.map toReferrerBalanceAsset⟩

/-! ## Merchants -/

structure MerchantObligationAssetSummary where
  asset : String
  fundingStatus : PayoutFundingStatus
  fundingAmountAtomic : Option String
  fundingDeficitAtomic : Option String
  pendingAmountAtomic : String
  availableAmountAtomic : String
  heldAmountAtomic : String
  inFlightAmountAtomic : String
  paidAmountAtomic : String
  outstandingAmountAtomic : String
  totalAccruedAmountAtomic : String
  accrualCount : Nat
  pendingAccrualCount : Nat
  availableAccrualCount : Nat
  heldAccrualCount : Nat
  inFlightAccrualCount : Nat
  paidAccrualCount : Nat
  deriving DecidableEq, Repr

structure MerchantObligationSummary where
  schema : String
  merchantId : String
  generatedAt : String
  assets : List MerchantObligationAssetSummary
  deriving DecidableEq, Repr

structure CreateMerchantObligationSummaryInput where
  merchantId : String
  accruals : List CommissionAccrual
  payoutBatches : List PayoutBatchRecord
  asset : Option String
  now : Option String
  fundingBalances : Option (List PayoutFundingBalance)

structure MerchantTotals where
  amounts : StatusAmounts
  counts : StatusAmounts
  accrualCount : Nat
  deriving DecidableEq, Repr

def addAccrual (payoutIndex : PayoutAllocationIndex) (totals : MerchantTotals)
    (accrual : CommissionAccrual) : Except PayoutError MerchantTotals := do
  let amount ← readAtomicAmount accrual.amountAtomic "amountAtomic"
  let status := readMerchantObligationStatus accrual ((payoutIndex.find? accrual.id).map Prod.snd)
  pure ⟨totals.amounts.credit status amount, totals.counts.credit status 1, totals.accrualCount + 1⟩

/-- What is owed and not paid yet. -/
def StatusAmounts.outstanding (amounts : StatusAmounts) : Nat :=
  amounts.pending + amounts.available + amounts.held + amounts.inFlight

def toMerchantObligationAssetSummary
    (fundingByAsset : Option (Table (Prod.fst : String × Nat → String)))
    (entry : String × MerchantTotals) : MerchantObligationAssetSummary :=
  let outstanding := entry.2.amounts.outstanding
  let fundingAmount := fundingByAsset.bind fun byAsset => (byAsset.find? entry.1).map Prod.snd
  let fundingDeficit := fundingAmount.map fun fundingAmount =>
    if outstanding ≤ fundingAmount then 0 else outstanding - fundingAmount
  { asset := entry.1
    fundingStatus :=
      match fundingDeficit with
      | none => .unknown
      | some 0 => .covered
      | some _ => .deficit
    fundingAmountAtomic := fundingAmount.map serializeAtomicAmount
    fundingDeficitAtomic := fundingDeficit.map serializeAtomicAmount
    pendingAmountAtomic := serializeAtomicAmount entry.2.amounts.pending
    availableAmountAtomic := serializeAtomicAmount entry.2.amounts.available
    heldAmountAtomic := serializeAtomicAmount entry.2.amounts.held
    inFlightAmountAtomic := serializeAtomicAmount entry.2.amounts.inFlight
    paidAmountAtomic := serializeAtomicAmount entry.2.amounts.paid
    outstandingAmountAtomic := serializeAtomicAmount outstanding
    totalAccruedAmountAtomic := serializeAtomicAmount (outstanding + entry.2.amounts.paid)
    accrualCount := entry.2.accrualCount
    pendingAccrualCount := entry.2.counts.pending
    availableAccrualCount := entry.2.counts.available
    heldAccrualCount := entry.2.counts.held
    inFlightAccrualCount := entry.2.counts.inFlight
    paidAccrualCount := entry.2.counts.paid }

def createMerchantObligationSummary (env : CallEnv) (input : CreateMerchantObligationSummaryInput) :
    Except PayoutError MerchantObligationSummary := do
  let merchantId ← assertNonEmptyString input.merchantId "merchantId"
  let generatedAt ← normalizeTimestamp host (nowOrClock host env input.now) "now"
  let payoutIndex := buildPayoutAllocationIndex input.payoutBatches
  let fundingByAsset ← buildFundingBalanceMap input.fundingBalances
  let counted := input.accruals.filter fun accrual =>
    accrual.merchantId = merchantId && isCounted input.asset accrual
  let assetsByMint ← tallyM CommissionAccrual.asset ⟨.zero, .zero, 0⟩ (addAccrual payoutIndex) counted
  let entries := sortBy (fun left right => host.localeCompare left.1 right.1) assetsByMint.rows
  pure ⟨"split402.merchant_obligation_summary.v1", merchantId, generatedAt,
    entries.map (toMerchantObligationAssetSummary fundingByAsset)⟩

end Split402

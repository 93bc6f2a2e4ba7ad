import Split402.Base.Sort
import Split402.Base.Table
import Split402.Payouts.Checks

/-! # Payout preview and batch plan

`createPayoutPreview` sorts the accruals, skips those that cannot be paid and groups the rest
by asset and payout wallet; `createPayoutBatchPlan` turns the group of one asset into a planned
batch with its allocations. -/

namespace Split402

open Base (Table selectM sortBy sortM)

variable (host : Host)

/-! ## The preview's records -/

inductive PayoutFundingStatus
  | unknown | covered | deficit
  deriving DecidableEq, Repr

inductive PayoutSkippedAccrualReason
  | merchantMismatch | notAvailable | availableInFuture | zeroAmount | belowMinimumThreshold
  | recipientLimit
  deriving DecidableEq, Repr

structure PayoutFundingBalance where
  asset : String
  amountAtomic : String

structure CreatePayoutPreviewInput where
  merchantId : String
  accruals : List CommissionAccrual
  now : Option String
  minimumPayoutAmountAtomic : Option String
  maxRecipients : Option Int
  fundingBalances : Option (List PayoutFundingBalance)

structure PayoutPreviewSkippedAccrual where
  accrualId : String
  reason : PayoutSkippedAccrualReason
  deriving DecidableEq, Repr

structure PayoutPreviewItem where
  destinationWallet : String
  referrerWallets : List String
  amountAtomic : String
  accrualIds : List String
  oldestAvailableAt : Option String
  newestAvailableAt : Option String
  deriving DecidableEq, Repr

structure PayoutPreviewBatch where
  merchantId : String
  asset : String
  totalAmountAtomic : String
  itemCount : Nat
  accrualCount : Nat
  fundingStatus : PayoutFundingStatus
  fundingAmountAtomic : Option String
  fundingDeficitAtomic : Option String
  items : List PayoutPreviewItem
  deriving DecidableEq, Repr

structure PayoutPreview where
  merchantId : String
  generatedAt : String
  batches : List PayoutPreviewBatch
  eligibleAccrualCount : Nat
  skippedAccrualCount : Nat
  skippedAccruals : List PayoutPreviewSkippedAccrual
  totalAmountAtomicByAsset : List (String × String)
  deriving DecidableEq, Repr

/-- The item being built for one wallet. Sets are lists in insertion order. -/
structure MutablePayoutItem where
  destinationWallet : String
  referrerWallets : List String
  amount : Nat
  accrualIds : List String
  availableTimes : List String
  deriving DecidableEq, Repr

/-- The items of one asset by payout wallet. -/
abbrev ItemMap := Table MutablePayoutItem.destinationWallet

/-- The item maps by asset. -/
abbrev AssetMap := Table (Prod.fst : String × ItemMap → String)

/-! ## Order -/

/-- The sign of `left - right`; a difference with a `NaN` is falsy. -/
def compareMs : Option Int → Option Int → Ordering
  | some left, some right => compare left right
  | _, _ => .eq

/-- `left > right`, which is false as soon as one of them is `NaN`. -/
def isAfterMs : Option Int → Option Int → Bool
  | some left, some right => right < left
  | _, _ => false

def compareOptionalTimestamp (left right : Option String) : Except PayoutError Ordering :=
  match left, right with
  | none, none => pure .eq
  | none, some _ => pure .lt
  | some _, none => pure .gt
  | some left, some right => do
      let left ← normalizeTimestamp host left "timestamp"
      let right ← normalizeTimestamp host right "timestamp"
      pure (compareMs (host.dateParse left) (host.dateParse right))

def compareAccrualsForPayout (left right : CommissionAccrual) : Except PayoutError Ordering :=
  match (host.localeCompare left.asset right.asset).then
      (host.localeCompare left.payoutWallet right.payoutWallet) with
  | .eq => do
      match ← compareOptionalTimestamp host left.availableAt right.availableAt with
      | .eq => do
          match ← compareOptionalTimestamp host (some left.createdAt) (some right.createdAt) with
          | .eq => pure (host.localeCompare left.id right.id)
          | o => pure o
      | o => pure o
  | o => pure o

def oldestTime (item : MutablePayoutItem) : Option String :=
  (sortBy compareUtf16 item.availableTimes).head?

def comparePayoutItems (left right : MutablePayoutItem) : Except PayoutError Ordering := do
  match ← compareOptionalTimestamp host (oldestTime left) (oldestTime right) with
  | .eq =>
      if right.amount ≠ left.amount then
        pure (if right.amount > left.amount then .gt else .lt)
      else pure (host.localeCompare left.destinationWallet right.destinationWallet)
  | o => pure o

/-! ## Selection -/

/-- `accrual.availableAt` lies after `nowMs`. -/
def isAvailableInFuture (availableAt : Option String) (nowMs : Option Int) :
    Except PayoutError Bool :=
  match availableAt with
  | none => pure false
  | some at_ => do
      let normalized ← normalizeTimestamp host at_ "availableAt"
      pure (isAfterMs (host.dateParse normalized) nowMs)

/-- Whether an accrual passes the filters of a listing. -/
def isPayoutEligible (input : ListPayoutEligibleAccrualsInput) (nowMs : Option (Option Int))
    (accrual : CommissionAccrual) : Except PayoutError Bool :=
  if accrual.merchantId ≠ input.merchantId ∨ accrual.status ≠ .available then pure false
  else if input.asset.any (· ≠ accrual.asset) then pure false
  else if input.campaignId.any (· ≠ accrual.campaignId) then pure false
  else if input.routeId.any (· ≠ accrual.routeId) then pure false
  else
    match nowMs with
    | none => pure true
    | some nowMs => do
        let future ← isAvailableInFuture host accrual.availableAt nowMs
        pure (!future)

/-- `filterPayoutEligibleAccruals`; the predicate of its `filter` may throw. -/
def filterPayoutEligibleAccruals (accruals : List CommissionAccrual)
    (input : ListPayoutEligibleAccrualsInput) : Except PayoutError (List CommissionAccrual) := do
  let _ ← assertNonEmptyString input.merchantId "merchantId"
  let limit ← readOptionalPositiveInteger input.limit "limit"
  let nowMs ← checkOptional input.now (fun now => do
    let normalized ← normalizeTimestamp host now "now"
    pure (host.dateParse normalized))
  let filtered ← selectM (isPayoutEligible host input nowMs) accruals
  let sorted ← sortM (compareAccrualsForPayout host) filtered
  pure (match limit with
    | none => sorted
    | some limit => sorted.take limit)

/-! ## Grouping -/

/-- What the preview does with one accrual: skip it, or take its amount and its normalized
availability time. -/
inductive AccrualVerdict
  | skip (reason : PayoutSkippedAccrualReason)
  | take (amount : Nat) (availableTime : Option String)

def judgeAccrual (merchantId : String) (nowMs : Option Int) (accrual : CommissionAccrual) :
    Except PayoutError AccrualVerdict :=
  if accrual.merchantId ≠ merchantId then pure (.skip .merchantMismatch)
  else if accrual.status ≠ .available then pure (.skip .notAvailable)
  else do
    let future ← isAvailableInFuture host accrual.availableAt nowMs
    if future then pure (.skip .availableInFuture)
    else do
      let amount ← readAtomicAmount accrual.amountAtomic "amountAtomic"
      if amount = 0 then pure (.skip .zeroAmount)
      else
        match accrual.availableAt with
        | none => pure (.take amount none)
        | some at_ => do
            let normalized ← normalizeTimestamp host at_ "availableAt"
            pure (.take amount (some normalized))

/-- Add an accrual to the item of its payout wallet. -/
def MutablePayoutItem.add (item : MutablePayoutItem) (accrual : CommissionAccrual) (amount : Nat)
    (availableTime : Option String) : MutablePayoutItem :=
  { item with
    amount := item.amount + amount
    referrerWallets :=
      if accrual.referrerWallet ∈ item.referrerWallets then item.referrerWallets
      else item.referrerWallets ++ [accrual.referrerWallet]
    accrualIds := item.accrualIds ++ [accrual.id]
    availableTimes := item.availableTimes ++ availableTime.toList }

/-- The item map of an asset, empty when the asset was not seen yet. -/
def itemsOf (itemsByAsset : AssetMap) (asset : String) : ItemMap :=
  match itemsByAsset.find? asset with
  | some entry => entry.2
  | none => Table.empty

/-- The item of a payout wallet, empty when the wallet was not seen yet. -/
def itemOf (assetItems : ItemMap) (payoutWallet : String) : MutablePayoutItem :=
  (assetItems.find? payoutWallet).getD ⟨payoutWallet, [], 0, [], []⟩

def takeAccrual (itemsByAsset : AssetMap) (accrual : CommissionAccrual) (amount : Nat)
    (availableTime : Option String) : AssetMap :=
  let assetItems := itemsOf itemsByAsset accrual.asset
  let item := itemOf assetItems accrual.payoutWallet
  itemsByAsset.upsert
    (accrual.asset, assetItems.upsert (item.add accrual amount availableTime))

structure PreviewState where
  skippedAccruals : List PayoutPreviewSkippedAccrual
  itemsByAsset : AssetMap

/-- One turn of the loop over the sorted accruals. -/
def visitAccrual (merchantId : String) (nowMs : Option Int) (state : PreviewState)
    (accrual : CommissionAccrual) : Except PayoutError PreviewState := do
  match ← judgeAccrual host merchantId nowMs accrual with
  | .skip reason =>
      pure { state with skippedAccruals := state.skippedAccruals ++ [⟨accrual.id, reason⟩] }
  | .take amount availableTime =>
      pure { state with
        itemsByAsset := takeAccrual state.itemsByAsset accrual amount availableTime }

/-! ## Preview batches -/

def toPreviewItem (item : MutablePayoutItem) : PayoutPreviewItem :=
  let sortedAvailableTimes := sortBy compareUtf16 item.availableTimes
  { destinationWallet := item.destinationWallet
    referrerWallets := sortBy compareUtf16 item.referrerWallets
    amountAtomic := serializeAtomicAmount item.amount
    accrualIds := sortBy compareUtf16 item.accrualIds
    oldestAvailableAt := sortedAvailableTimes.head?
    newestAvailableAt := sortedAvailableTimes.getLast? }

def buildFundingBalanceMap (balances : Option (List PayoutFundingBalance)) :
    Except PayoutError (Option (Table (Prod.fst : String × Nat → String))) :=
  match balances with
  | none => pure none
  | some balances => do
      let byAsset ← balances.foldlM (fun byAsset balance => do
        let asset ← assertNonEmptyString balance.asset "fundingBalances.asset"
        let amount ← readAtomicAmount balance.amountAtomic "fundingBalances.amountAtomic"
        let known := ((byAsset.find? asset).map Prod.snd).getD 0
        pure (byAsset.upsert (asset, known + amount))) Table.empty
      pure (some byAsset)

/-- The accruals of the given items, skipped for one reason. -/
def skipItems (items : List MutablePayoutItem) (reason : PayoutSkippedAccrualReason) :
    List PayoutPreviewSkippedAccrual :=
  items.flatMap (fun item => item.accrualIds.map (⟨·, reason⟩))

/-- The items the preview selects from an item map, and the accruals it skips there. -/
def selectItems (minimumPayoutAmount : Nat) (maxRecipients : Option Nat) (itemMap : ItemMap) :
    Except PayoutError (List MutablePayoutItem × List PayoutPreviewSkippedAccrual) := do
  let sorted ← sortM (comparePayoutItems host) itemMap.rows
  let thresholdedItems := sorted.filter (fun item => minimumPayoutAmount ≤ item.amount)
  let belowMinimum := sorted.filter (fun item => ¬ minimumPayoutAmount ≤ item.amount)
  match maxRecipients with
  | none => pure (thresholdedItems, skipItems belowMinimum .belowMinimumThreshold)
  | some maxRecipients =>
      pure (thresholdedItems.take maxRecipients,
        skipItems belowMinimum .belowMinimumThreshold ++
          skipItems (thresholdedItems.drop maxRecipients) .recipientLimit)

/-- The preview batch of an asset; `none` when no item is selected. -/
def createPreviewBatch (merchantId asset : String) (minimumPayoutAmount : Nat)
    (maxRecipients : Option Nat)
    (fundingByAsset : Option (Table (Prod.fst : String × Nat → String))) (itemMap : ItemMap) :
    Except PayoutError (Option PayoutPreviewBatch × List PayoutPreviewSkippedAccrual) := do
  let (selectedItems, skipped) ← selectItems host minimumPayoutAmount maxRecipients itemMap
  if selectedItems = [] then pure (none, skipped)
  else
    let totalAmount := (selectedItems.map MutablePayoutItem.amount).sum
    let fundingAmount :=
      fundingByAsset.map (fun byAsset => ((byAsset.find? asset).map Prod.snd).getD 0)
    let fundingDeficit := fundingAmount.map (totalAmount - ·)
    pure (some {
      merchantId := merchantId
      asset := asset
      totalAmountAtomic := serializeAtomicAmount totalAmount
      itemCount := selectedItems.length
      accrualCount := (selectedItems.map (fun item => item.accrualIds.length)).sum
      fundingStatus :=
        match fundingDeficit with
        | none => .unknown
        | some 0 => .covered
        | some _ => .deficit
      fundingAmountAtomic := fundingAmount.map serializeAtomicAmount
      fundingDeficitAtomic := fundingDeficit.map serializeAtomicAmount
      items := selectedItems.map toPreviewItem }, skipped)

def createPayoutPreview (env : CallEnv) (input : CreatePayoutPreviewInput) :
    Except PayoutError PayoutPreview := do
  let merchantId ← assertNonEmptyString input.merchantId "merchantId"
  let generatedAt ← normalizeTimestamp host (nowOrClock host env input.now) "now"
  let nowMs := host.dateParse generatedAt
  let minimumPayoutAmount ←
    readAtomicAmount (input.minimumPayoutAmountAtomic.getD "0") "minimumPayoutAmountAtomic"
  let maxRecipients ← readOptionalPositiveInteger input.maxRecipients "maxRecipients"
  let fundingByAsset ← buildFundingBalanceMap input.fundingBalances
  let sorted ← sortM (compareAccrualsForPayout host) input.accruals
  let state ← sorted.foldlM (visitAccrual host merchantId nowMs) ⟨[], Table.empty⟩
  let entries :=
    sortBy (fun left right => host.localeCompare left.1 right.1) state.itemsByAsset.rows
  let results ← entries.mapM (fun entry =>
    createPreviewBatch host merchantId entry.1 minimumPayoutAmount maxRecipients fundingByAsset
      entry.2)
  let batches := results.filterMap Prod.fst
  let skippedAccruals := state.skippedAccruals ++ results.flatMap Prod.snd
  pure {
    merchantId := merchantId
    generatedAt := generatedAt
    batches := batches
    eligibleAccrualCount := (batches.map PayoutPreviewBatch.accrualCount).sum
    skippedAccrualCount := skippedAccruals.length
    skippedAccruals := skippedAccruals
    totalAmountAtomicByAsset :=
      batches.map (fun batch => (batch.asset, batch.totalAmountAtomic)) }

/-! ## Batch plan -/

/-- `new Map(accruals.map((accrual) => [accrual.id, accrual])).get(id)`: the last entry wins. -/
def accrualById (accruals : List CommissionAccrual) (id : String) : Option CommissionAccrual :=
  accruals.reverse.find? (fun accrual => accrual.id = id)

def createAllocation (accruals : List CommissionAccrual) (itemId accrualId : String) :
    Except PayoutError PayoutAllocationRecord :=
  match accrualById accruals accrualId with
  | none => throw (.batchValidation s!"missing selected accrual: {accrualId}")
  | some accrual => pure ⟨itemId, accrualId, accrual.amountAtomic⟩

/-- The item of a planned batch for one preview item. -/
def createPlannedItem (accruals : List CommissionAccrual) (batchId createdAt itemId : String)
    (previewItem : PayoutPreviewItem) : Except PayoutError PayoutItemRecord := do
  let itemId ← assertSplit402Id itemId "payoutItemId"
  let allocations ← previewItem.accrualIds.mapM (createAllocation accruals itemId)
  pure {
    id := itemId
    payoutBatchId := batchId
    destinationWallet := previewItem.destinationWallet
    destinationTokenAccount := none
    amountAtomic := previewItem.amountAtomic
    status := .allocated
    createdAt := createdAt
    allocations := allocations }

/-- The batch id of a creating call: the given one, or the first id it draws. -/
def batchIdOrDrawn (env : CallEnv) (batchId : Option String) : String :=
  batchId.getD (createPayoutBatchId env 0)

/-- The id the `n`th call of the item id factory gives. -/
def CreatePayoutBatchInput.itemIdOrDrawn (env : CallEnv) (input : CreatePayoutBatchInput)
    (n : Nat) : String :=
  match input.itemIdFactory with
  | some factory => factory n
  | none => createPayoutItemId env (n + 1)

def createPayoutBatchPlan (env : CallEnv) (input : CreatePayoutBatchInput) :
    Except PayoutError PayoutBatchRecord := do
  let merchantId ← assertNonEmptyString input.merchantId "merchantId"
  let payoutWalletId ← assertSplit402Id input.payoutWalletId "payoutWalletId"
  let network ← assertNonEmptyString input.network "network"
  let asset ← assertNonEmptyString input.asset "asset"
  let createdAt ← normalizeTimestamp host (nowOrClock host env input.now) "now"
  let batchId ← assertSplit402Id (batchIdOrDrawn env input.batchId) "batchId"
  let accruals := input.accruals.filter (fun accrual => accrual.asset = asset)
  let preview ← createPayoutPreview host env {
    merchantId := merchantId
    accruals := accruals
    now := some createdAt
    minimumPayoutAmountAtomic := input.minimumPayoutAmountAtomic
    maxRecipients := input.maxRecipients
    fundingBalances := none }
  match preview.batches.find? (fun batch => batch.asset = asset) with
  | none => throw (.batchValidation "no payout items selected")
  | some previewBatch =>
      if previewBatch.items = [] then throw (.batchValidation "no payout items selected")
      else do
        let items ← previewBatch.items.zipIdx.mapM (fun (previewItem, n) =>
          createPlannedItem accruals batchId createdAt (input.itemIdOrDrawn env n) previewItem)
        pure {
          id := batchId
          merchantId := merchantId
          payoutWalletId := payoutWalletId
          network := network
          asset := asset
          status := .planned
          totalAmountAtomic := previewBatch.totalAmountAtomic
          itemCount := items.length
          accrualCount := (items.map (fun item => item.allocations.length)).sum
          failureCode := none
          failureMessage := none
          createdAt := createdAt
          updatedAt := createdAt
          items := items }

end Split402

import Split402.Base.Table
import Split402.Payouts.Checks

/-! # Ledger closure

The ledger transaction that closes a finalized batch: one credit of the merchant's commission
liability and one debit of the referrer payable for every item. -/

namespace Split402

variable (host : Host)

/-- `BigInt(value)` on the amounts a ledger entry holds: a numeral or a negated numeral. -/
def readLedgerAmount (value : String) : Except PayoutError Int :=
  match value.toList with
  | '-' :: digits =>
      match parseAtomicAmount (String.ofList digits) with
      | some amount => pure (-(amount : Int))
      | none => throw (.other "cannot convert to a BigInt")
  | _ =>
      match parseAtomicAmount value with
      | some amount => pure (amount : Int)
      | none => throw (.other "cannot convert to a BigInt")

def negatePositiveAtomic (value : String) : Except PayoutError String := do
  let amount ← readPositiveAtomicAmount value "amountAtomic"
  pure ("-" ++ toString amount)

/-- Sum the entries of every asset; each sum must be zero. -/
def assertPayoutLedgerBalances (entries : List LedgerEntry) : Except PayoutError Unit := do
  let byAsset ← entries.foldlM (fun byAsset entry => do
    let amount ← readLedgerAmount entry.amountAtomic
    let known := ((byAsset.find? entry.asset).map Prod.snd).getD 0
    pure (byAsset.upsert (entry.asset, known + amount)))
    (Base.Table.empty : Base.Table (Prod.fst : String × Int → String))
  if byAsset.rows.any (fun row => row.2 ≠ 0) then
    throw (.batchValidation "payout ledger transaction is not balanced")
  else pure ()

def verifyPayoutFinalizedTransfersBeforeLedgerClosure
    (result : PayoutFinalizedTransferVerificationResult) : Except PayoutError Unit :=
  if result.ok then pure ()
  else
    let errors := "; ".intercalate result.errors
    throw (.batchValidation s!"finalized payout transfer verification failed: {errors}")

/-- The debit of one payout item. -/
def createPayableEntry (batch : PayoutBatchRecord) (transactionId entryId : String)
    (item : PayoutItemRecord) : Except PayoutError LedgerEntry := do
  let id ← assertSplit402Id entryId "ledger entry id"
  let amountAtomic ← negatePositiveAtomic item.amountAtomic
  pure ⟨id, transactionId, .referrerPayable, item.destinationWallet, batch.asset, amountAtomic⟩

/-- The id the `n`th call of the entry id factory gives; the transaction id is drawn first. -/
def ClosePayoutBatchLedgerInput.entryIdOrDrawn (env : CallEnv)
    (input : ClosePayoutBatchLedgerInput) (n : Nat) : String :=
  match input.entryIdFactory with
  | some factory => factory n
  | none => createLedgerEntryId env (n + 1)

def createPayoutFinalizationLedgerTransaction (env : CallEnv) (batch : PayoutBatchRecord)
    (input : ClosePayoutBatchLedgerInput) : Except PayoutError LedgerTransaction :=
  if batch.status ≠ .finalized then
    throw (.batchValidation "payout batch must be finalized before ledger closure")
  else if batch.items = [] then
    throw (.batchValidation "payout batch must contain items")
  else if batch.items.any (fun item => item.status ≠ .finalized) then
    throw (.batchValidation "all payout items must be finalized before ledger closure")
  else do
    let createdAt ← normalizeTimestamp host (nowOrClock host env input.now) "now"
    let transactionId ← assertSplit402Id
      (input.transactionId.getD (createLedgerTransactionId env 0)) "ledger transaction id"
    let amounts ← batch.items.mapM (fun item =>
      readPositiveAtomicAmount item.amountAtomic "item.amountAtomic")
    let itemTotal := amounts.sum
    if toString itemTotal ≠ batch.totalAmountAtomic then
      throw (.batchValidation "payout batch total does not match finalized item total")
    else do
      let liabilityId ← assertSplit402Id (input.entryIdOrDrawn env 0) "ledger entry id"
      let payables ← batch.items.zipIdx.mapM (fun (item, n) =>
        createPayableEntry batch transactionId (input.entryIdOrDrawn env (n + 1)) item)
      let entries :=
        ⟨liabilityId, transactionId, .merchantCommissionLiability, batch.merchantId, batch.asset,
          toString itemTotal⟩ :: payables
      assertPayoutLedgerBalances entries
      pure ⟨transactionId, .payoutBatch, batch.id, batch.asset, entries, createdAt⟩

end Split402

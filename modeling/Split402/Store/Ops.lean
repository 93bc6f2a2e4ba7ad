import Split402.Payouts.Types

/-! # Store operations

The operations both stores offer, as data. A call is an operation together with the clock and
the random ids it sees. -/

namespace Split402

inductive StoreOp
  | save (snapshot : ReceiptIngestionSnapshot)
  | markReceiptChainVerified (input : MarkReceiptChainVerifiedInput)
  | markReceiptChainRejected (input : MarkReceiptChainRejectedInput)
  | createPayoutBatchFromAvailableAccruals (input : CreatePayoutBatchFromAvailableAccrualsInput)
  | releasePayoutBatchAllocations (input : ReleasePayoutBatchAllocationsInput)
  | saveSignedPayoutTransactions (input : SaveSignedPayoutTransactionsInput)
  | markPayoutTransactionSubmitted (input : MarkPayoutTransactionSubmittedInput)
  | markPayoutTransactionFinality (input : MarkPayoutTransactionFinalityInput)
  | closeFinalizedPayoutBatchLedger (input : ClosePayoutBatchLedgerInput)

/-- The operation is a save. -/
def StoreOp.isSave : StoreOp → Bool
  | .save _ => true
  | _ => false

structure StoreCall where
  env : CallEnv
  op : StoreOp

/-- The input `createPayoutBatchFromAvailableAccruals` lists the accruals with. -/
def CreatePayoutBatchFromAvailableAccrualsInput.listInput
    (input : CreatePayoutBatchFromAvailableAccrualsInput) : ListPayoutEligibleAccrualsInput :=
  ⟨input.merchantId, some input.asset, input.campaignId, input.routeId, input.now, input.limit⟩

/-- The input it plans the batch with. -/
def CreatePayoutBatchFromAvailableAccrualsInput.planInput
    (input : CreatePayoutBatchFromAvailableAccrualsInput) (accruals : List CommissionAccrual) :
    CreatePayoutBatchInput :=
  ⟨input.merchantId, input.payoutWalletId, input.network, input.asset, accruals, input.now,
    input.batchId, input.itemIdFactory, input.minimumPayoutAmountAtomic, input.maxRecipients⟩

/-! ## A sample of calls

Concrete calls for the runs that show where a promise is broken, and that the hypotheses of the
theorems can be met. Ids are numbered. -/

namespace Sample

def idOf (kind : String) (n : Nat) : String :=
  kind ++ "_0000000000000000000000000000000" ++ toString n

def now : String := "2026-01-01T00:00:00.000Z"

/-- The environment of the `k`th call: the clock stands still, and its events have new ids. -/
def env (k : Nat) : CallEnv :=
  ⟨1767225600000, fun _ => "00000000000000000000000000000000",
    fun n => toString k ++ "." ++ toString n⟩

/-- The operations as calls, one after the other, after `n` calls. -/
def callsFrom (n : Nat) (ops : List StoreOp) : List StoreCall :=
  (ops.zipIdx n).map (fun p => ⟨env p.2, p.1⟩)

/-- The operations as calls, one after the other. -/
def calls (ops : List StoreOp) : List StoreCall := callsFrom 0 ops

/-- The `n`th receipt: a sale that earns ten units of commission. -/
def receipt (n : Nat) : Split402ReceiptV1 where
  receiptId := idOf "rct" n
  merchantId := idOf "mrc" 1
  merchantOrigin := "https://merchant.example"
  operationId := "GET /v1/quote"
  requestDigest := "sha256:request"
  campaignId := idOf "cmp" 1
  campaignVersion := 1
  campaignTermsHash := "sha256:terms"
  routeId := some (idOf "rte" 1)
  referralClaimHash := none
  referrerWallet := some "referrer"
  payoutWallet := some "payout"
  paymentId := idOf "pay" n
  network := "solana:devnet"
  asset := "USDC"
  payerWallet := "payer"
  payToWallet := "merchant"
  requiredAmountAtomic := "100"
  settledAmountAtomic := none
  settlementTxSignature := idOf "settlement" n
  commissionBps := 1000
  protocolFeeBpsOfCommission := 0
  commissionBaseAtomic := "100"
  commissionAmountAtomic := "10"
  protocolFeeAtomic := "0"
  referrerCreditAtomic := "10"
  offerNonce := "nonce"
  settledAt := now
  issuedAt := now
  recordingAccepted := true
  eventId := none
  kid := "key"
  signature := "signature"

/-- Its snapshot, with an accrual that waits for the chain. -/
def snapshot (n : Nat) : ReceiptIngestionSnapshot where
  receipt := ⟨idOf "rct" n, idOf "sha256:receipt" n, receipt n, .buyer, .pendingChainVerification,
    none, now⟩
  accrual := some ⟨idOf "acr" n, idOf "rct" n, idOf "mrc" 1, idOf "cmp" 1, idOf "rte" 1,
    "referrer", "payout", "USDC", "10", .pendingChainVerification, none, now⟩
  ledgerTransaction := none

/-- Save the `n`th snapshot and verify it on chain. -/
def accrue (n : Nat) : List StoreOp :=
  [.save (snapshot n), .markReceiptChainVerified ⟨idOf "rct" n, now⟩]

/-- Allocate what is available to batch `n`, whose item gets the same number. -/
def createBatch (n : Nat) : StoreOp :=
  .createPayoutBatchFromAvailableAccruals
    ⟨idOf "mrc" 1, idOf "mpw" 1, "solana:devnet", "USDC", none, none, some now, none,
      some (idOf "pbt" n), some (fun _ => idOf "pit" n), none, none⟩

/-- Save signed transaction `n` of batch `b` in a sequence and attempt. -/
def saveSigned (b n : Nat) (sequence attempt : Int) (expectedSignature : Option String) : StoreOp :=
  .saveSignedPayoutTransactions ⟨idOf "pbt" b,
    [⟨some (idOf "ptx" n), sequence, some attempt, none, none, "AAAA", expectedSignature, none⟩],
    some now, none⟩

def markSubmitted (n : Nat) : StoreOp :=
  .markPayoutTransactionSubmitted ⟨idOf "ptx" n, some now, none⟩

def markFinality (n : Nat) (status : PayoutTransactionFinalityStatus)
    (expectedStatus : Option PayoutTransactionStatus) : StoreOp :=
  .markPayoutTransactionFinality ⟨idOf "ptx" n, status, some now, none, expectedStatus⟩

def releaseInput (b : Nat) (chainChecks : Option (List PayoutBatchReleaseChainCheck)) :
    ReleasePayoutBatchAllocationsInput := ⟨idOf "pbt" b, "stop", some now, none, chainChecks⟩

def release (b : Nat) (chainChecks : Option (List PayoutBatchReleaseChainCheck)) : StoreOp :=
  .releasePayoutBatchAllocations (releaseInput b chainChecks)

/-- Close batch `b` after the verifier agreed. -/
def closeInput (b : Nat) : ClosePayoutBatchLedgerInput :=
  ⟨idOf "pbt" b, some now, some (idOf "ltx" b), some (fun n => idOf "len" n), ⟨true, []⟩⟩

/-- One accrual is allocated to batch 1, whose transaction is signed. -/
def signOne (expectedSignature : Option String) : List StoreOp :=
  accrue 1 ++ [createBatch 1, saveSigned 1 1 0 1 expectedSignature]

/-- One accrual is paid: allocate, sign, submit, finalize. -/
def payOne : List StoreOp :=
  accrue 1 ++ [createBatch 1, saveSigned 1 1 0 1 none, markSubmitted 1,
    markFinality 1 .finalized (some .submitted)]

/-- A batch is released while its signed transaction is out. -/
def releaseSigned : List StoreOp := signOne none ++ [release 1 none]

/-- And the transaction lands. -/
def landsAfterRelease : List StoreOp := releaseSigned ++ [markFinality 1 .finalized none]

end Sample

end Split402

import Split402.Host

/-! # Records of the receipt and payout store

The records both stores keep, under the source's names. An optional field is an `Option`. Amounts
are the decimal strings the source stores; timestamps are the strings it stores. -/

namespace Split402

/-- A JSON value. -/
inductive Json
  | null
  | bool (b : Bool)
  | num (n : Int)
  | str (s : String)
  | arr (xs : List Json)
  | obj (fields : List (String × Json))

/-! ## Statuses -/

inductive ReceiptIngestSource
  | buyer | merchant | relay | unknown
  deriving DecidableEq, Repr

inductive ReceiptVerificationState
  | signatureVerified | pendingChainVerification | chainRejected
  deriving DecidableEq, Repr

inductive AccrualStatus
  | pendingChainVerification | available | held | allocated | paid | rejected | reversed
  deriving DecidableEq, Repr

inductive LedgerAccountType
  | merchantCommissionLiability | referrerPayable | protocolFeePayable
  deriving DecidableEq, Repr

inductive LedgerSourceType
  | commissionAccrual | payoutBatch
  deriving DecidableEq, Repr

inductive PayoutBatchStatus
  | draft | planned | signing | submitted | confirmed | finalized | failed | cancelled
  | outcomeUnknown
  deriving DecidableEq, Repr

inductive PayoutItemStatus
  | allocated | submitted | confirmed | finalized | failed | released
  deriving DecidableEq, Repr

inductive PayoutTransactionStatus
  | planned | signed | submitted | confirmed | finalized | expired | failed | outcomeUnknown
  deriving DecidableEq, Repr

/-- The statuses a finality mark may write. -/
inductive PayoutTransactionFinalityStatus
  | confirmed | finalized | failed | expired | outcomeUnknown
  deriving DecidableEq, Repr

/-- The statuses a chain check of a release may report. -/
inductive PayoutBatchReleaseChainCheckStatus
  | confirmed | finalized | failed | expired | outcomeUnknown | retry
  deriving DecidableEq, Repr

/-- A finality status is a transaction status. -/
def PayoutTransactionFinalityStatus.toStatus :
    PayoutTransactionFinalityStatus → PayoutTransactionStatus
  | .confirmed => .confirmed
  | .finalized => .finalized
  | .failed => .failed
  | .expired => .expired
  | .outcomeUnknown => .outcomeUnknown

/-- The status as the source spells it. -/
def PayoutBatchStatus.text : PayoutBatchStatus → String
  | .draft => "draft"
  | .planned => "planned"
  | .signing => "signing"
  | .submitted => "submitted"
  | .confirmed => "confirmed"
  | .finalized => "finalized"
  | .failed => "failed"
  | .cancelled => "cancelled"
  | .outcomeUnknown => "outcome_unknown"

/-! ## Receipts and accruals -/

structure Split402ReceiptV1 where
  receiptId : String
  merchantId : String
  merchantOrigin : String
  operationId : String
  requestDigest : String
  campaignId : String
  campaignVersion : Nat
  campaignTermsHash : String
  routeId : Option String
  referralClaimHash : Option String
  referrerWallet : Option String
  payoutWallet : Option String
  paymentId : String
  network : String
  asset : String
  payerWallet : String
  payToWallet : String
  requiredAmountAtomic : String
  settledAmountAtomic : Option String
  settlementTxSignature : String
  commissionBps : Nat
  protocolFeeBpsOfCommission : Nat
  commissionBaseAtomic : String
  commissionAmountAtomic : String
  protocolFeeAtomic : String
  referrerCreditAtomic : String
  offerNonce : String
  settledAt : String
  issuedAt : String
  recordingAccepted : Bool
  eventId : Option String
  kid : String
  signature : String
  deriving DecidableEq, Repr

structure ReceiptRecord where
  id : String
  receiptHash : String
  receipt : Split402ReceiptV1
  source : ReceiptIngestSource
  verificationState : ReceiptVerificationState
  verificationReason : Option String
  createdAt : String
  deriving DecidableEq, Repr

structure CommissionAccrual where
  id : String
  receiptId : String
  merchantId : String
  campaignId : String
  routeId : String
  referrerWallet : String
  payoutWallet : String
  asset : String
  amountAtomic : String
  status : AccrualStatus
  availableAt : Option String
  createdAt : String
  deriving DecidableEq, Repr

structure LedgerEntry where
  id : String
  transactionId : String
  accountType : LedgerAccountType
  accountReference : String
  asset : String
  amountAtomic : String
  deriving DecidableEq, Repr

structure LedgerTransaction where
  id : String
  sourceType : LedgerSourceType
  sourceId : String
  asset : String
  entries : List LedgerEntry
  createdAt : String
  deriving DecidableEq, Repr

structure ReceiptIngestionSnapshot where
  receipt : ReceiptRecord
  accrual : Option CommissionAccrual
  ledgerTransaction : Option LedgerTransaction
  deriving DecidableEq, Repr

/-! ## Payout batches -/

structure PayoutAllocationRecord where
  payoutItemId : String
  accrualId : String
  amountAtomic : String
  deriving DecidableEq, Repr

structure PayoutItemRecord where
  id : String
  payoutBatchId : String
  destinationWallet : String
  destinationTokenAccount : Option String
  amountAtomic : String
  status : PayoutItemStatus
  createdAt : String
  allocations : List PayoutAllocationRecord
  deriving DecidableEq, Repr

structure PayoutBatchRecord where
  id : String
  merchantId : String
  payoutWalletId : String
  network : String
  asset : String
  status : PayoutBatchStatus
  totalAmountAtomic : String
  itemCount : Nat
  accrualCount : Nat
  failureCode : Option String
  failureMessage : Option String
  createdAt : String
  updatedAt : String
  items : List PayoutItemRecord
  deriving DecidableEq, Repr

/-- The accrual ids a batch allocates, item by item. -/
def PayoutBatchRecord.accrualIds (batch : PayoutBatchRecord) : List String :=
  batch.items.flatMap (fun item => item.allocations.map PayoutAllocationRecord.accrualId)

/-- The accrual ids the finalized items of a batch allocate. -/
def PayoutBatchRecord.finalizedAccrualIds (batch : PayoutBatchRecord) : List String :=
  (batch.items.filter (fun item => item.status = .finalized)).flatMap
    (fun item => item.allocations.map PayoutAllocationRecord.accrualId)

structure PayoutTransactionItemRecord where
  payoutTransactionId : String
  payoutItemId : String
  amountAtomic : String
  destinationWallet : String
  destinationTokenAccount : Option String
  deriving DecidableEq, Repr

structure PayoutTransactionRecord where
  id : String
  payoutBatchId : String
  sequence : Int
  attempt : Int
  recentBlockhash : Option String
  lastValidBlockHeight : Option Int
  signedTransactionBase64 : Option String
  expectedSignature : Option String
  status : PayoutTransactionStatus
  submittedAt : Option String
  confirmedAt : Option String
  finalizedAt : Option String
  error : Option (List (String × Json))
  createdAt : String
  items : List PayoutTransactionItemRecord

/-! ## Inputs of the operations -/

structure MarkReceiptChainVerifiedInput where
  receiptId : String
  verifiedAt : String

structure MarkReceiptChainRejectedInput where
  receiptId : String
  rejectedAt : String
  reason : String

structure ListPayoutEligibleAccrualsInput where
  merchantId : String
  asset : Option String
  campaignId : Option String
  routeId : Option String
  now : Option String
  limit : Option Int

/-- `itemIdFactory` gives the answers of the source's factory, in the order it is called. -/
structure CreatePayoutBatchInput where
  merchantId : String
  payoutWalletId : String
  network : String
  asset : String
  accruals : List CommissionAccrual
  now : Option String
  batchId : Option String
  itemIdFactory : Option (Nat → String)
  minimumPayoutAmountAtomic : Option String
  maxRecipients : Option Int

structure CreatePayoutBatchFromAvailableAccrualsInput where
  merchantId : String
  payoutWalletId : String
  network : String
  asset : String
  campaignId : Option String
  routeId : Option String
  now : Option String
  limit : Option Int
  batchId : Option String
  itemIdFactory : Option (Nat → String)
  minimumPayoutAmountAtomic : Option String
  maxRecipients : Option Int

structure PayoutBatchReleaseChainCheck where
  transactionId : String
  status : PayoutBatchReleaseChainCheckStatus
  deriving DecidableEq, Repr

/-- `override` is the operator's reason. -/
structure ReleasePayoutBatchAllocationsInput where
  payoutBatchId : String
  reason : String
  now : Option String
  override : Option String
  chainChecks : Option (List PayoutBatchReleaseChainCheck)

structure SaveSignedPayoutTransactionItemInput where
  payoutItemId : String
  amountAtomic : String
  destinationWallet : String
  destinationTokenAccount : Option String

structure SaveSignedPayoutTransactionInput where
  id : Option String
  sequence : Int
  attempt : Option Int
  recentBlockhash : Option String
  lastValidBlockHeight : Option Int
  signedTransactionBase64 : String
  expectedSignature : Option String
  items : Option (List SaveSignedPayoutTransactionItemInput)

structure SaveSignedPayoutTransactionsInput where
  payoutBatchId : String
  transactions : List SaveSignedPayoutTransactionInput
  now : Option String
  idFactory : Option (Nat → String)

structure MarkPayoutTransactionSubmittedInput where
  id : String
  submittedAt : Option String
  expectedSignature : Option String

structure MarkPayoutTransactionFinalityInput where
  id : String
  status : PayoutTransactionFinalityStatus
  observedAt : Option String
  error : Option (List (String × Json))
  expectedStatus : Option PayoutTransactionStatus

/-- What the finalized-transfer verifier answers. -/
structure PayoutFinalizedTransferVerificationResult where
  ok : Bool
  errors : List String

/-- `verification` is the answer the verifier gives in this call. -/
structure ClosePayoutBatchLedgerInput where
  payoutBatchId : String
  now : Option String
  transactionId : Option String
  entryIdFactory : Option (Nat → String)
  verification : PayoutFinalizedTransferVerificationResult

/-! ## Errors -/

structure PayoutBatchReleaseHazardDetail where
  transactionId : String
  status : PayoutTransactionStatus
  expectedSignature : Option String
  chainStatus : Option PayoutBatchReleaseChainCheckStatus
  deriving DecidableEq, Repr

/-- The error classes the stores throw, with their messages. `persistenceConflict` is what the
Postgres store makes of a unique violation, `database` any other error the database raises, and
`other` any error of another class. -/
inductive PayoutError
  | previewValidation (message : String)
  | batchValidation (message : String)
  | batchConflict (message : String)
  | releaseBlocked (message : String) (hazards : List PayoutBatchReleaseHazardDetail)
  | persistenceConflict
  | database (message : String)
  | other (message : String)
  deriving DecidableEq, Repr

end Split402

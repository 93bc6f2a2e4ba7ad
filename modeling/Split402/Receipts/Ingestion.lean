import Split402.Base.Async
import Split402.Payouts.Ledger
import Split402.Protocol.Verification

/-! # Receipt ingestion

`ReceiptIngestor.ingest`, as the call it is: it awaits lookups of the store, the merchant's key, the
policy verifier and the save, and other calls run in between. A call carries what the key directory
and the policy verifier answer it. -/

namespace Split402

open Base Base.Utf16

variable {ν : Type}

/-! ## Results -/

/-- The field two receipts share. -/
inductive ConflictField
  | receiptId | paymentId | settlementTxSignature
  deriving DecidableEq, Repr

inductive ReceiptIngestResult
  | created (snapshot : ReceiptIngestionSnapshot)
  | duplicate (snapshot : ReceiptIngestionSnapshot)
  | conflict (conflictField : ConflictField) (existingReceiptId receiptHash : String)
  | rejected (errors : List String)

/-- One call: the receipt as the schema reads it (`none` for what has not the shape of one), the
source, the clock, the answers of the id factory in the order it is called, and what the key
directory and the policy verifier (`none` when there is no verifier) answer. -/
structure IngestCall where
  receipt : Option Split402ReceiptV1
  source : Option ReceiptIngestSource
  env : CallEnv
  idFactory : Option (Nat → String)
  merchantPublicKey : Except PayoutError (Option String)
  policy : Except PayoutError (Option ProtocolVerificationResult)

/-- What ingestion needs from around it: the host, the engine, the schema library and the messages
of its issues. -/
structure ReceiptIngestor (ν : Type) where
  host : Host
  runtime : Runtime ν
  zod : Zod
  issues : Option Split402ReceiptV1 → List String

/-! ## The snapshot -/

/-- The totals of the entries by asset; each must be zero. -/
def assertLedgerBalances (entries : List LedgerEntry) : Except PayoutError Unit := do
  let totals ← entries.foldlM (fun totals entry => do
    let amount ← readLedgerAmount entry.amountAtomic
    let known := ((totals.find? entry.asset).map Prod.snd).getD 0
    pure (totals.upsert (entry.asset, known + amount)))
    (Table.empty : Table (Prod.fst : String × Int → String))
  let unbalanced := totals.rows.filter (fun row => row.2 ≠ 0)
  if unbalanced = [] then pure ()
  else
    let listed := ", ".intercalate (unbalanced.map (fun row => row.1 ++ "=" ++ toString row.2))
    throw (.other s!"ledger transaction is not balanced: {listed}")

def negateAtomic (value : String) : Except PayoutError String := do
  let amount ← readLedgerAmount value
  pure (if amount = 0 then "0" else "-" ++ toString amount)

namespace ReceiptIngestor

variable (ingestor : ReceiptIngestor ν)

/-- A thrown `Error` of the protocol package. -/
def ofProtocol {α : Type} (result : Except String α) : Except PayoutError α :=
  match result with
  | .ok a => .ok a
  | .error message => .error (.other message)

/-- The `n`th id of a call: the factory's, or one derived from the receipt id. -/
def nextId (call : IngestCall) (n : Nat) (idPrefix receiptId purpose : String) : String :=
  match call.idFactory with
  | some factory => factory n
  | none =>
      let digest := ingestor.runtime.sha256Hex
        (utf8Bytes (ofString (idPrefix ++ ":" ++ purpose ++ ":" ++ receiptId)))
      idPrefix ++ "_" ++ String.ofList (digest.toList.take 32)

def createAccrual (call : IngestCall) (receipt : Split402ReceiptV1) (createdAt : String) :
    Except PayoutError (Option CommissionAccrual) :=
  match receipt.routeId, receipt.referrerWallet, receipt.payoutWallet with
  | some routeId, some referrerWallet, some payoutWallet => do
      let referrerCredit ← readLedgerAmount receipt.referrerCreditAtomic
      if referrerCredit ≤ 0 then pure none
      else
        pure (some
          { id := ingestor.nextId call 0 "acr" receipt.receiptId "accrual"
            receiptId := receipt.receiptId
            merchantId := receipt.merchantId
            campaignId := receipt.campaignId
            routeId := routeId
            referrerWallet := referrerWallet
            payoutWallet := payoutWallet
            asset := receipt.asset
            amountAtomic := receipt.referrerCreditAtomic
            status := .pendingChainVerification
            availableAt := none
            createdAt := createdAt })
  | _, _, _ => pure none

def createLedgerTransaction (call : IngestCall) (receipt : Split402ReceiptV1)
    (accrual : CommissionAccrual) (createdAt : String) : Except PayoutError LedgerTransaction := do
  let transactionId := ingestor.nextId call 1 "ldg" receipt.receiptId "commission_accrual"
  let liability ← negateAtomic receipt.commissionAmountAtomic
  let entries : List LedgerEntry :=
    [⟨ingestor.nextId call 2 "lde" receipt.receiptId "merchant_commission_liability",
        transactionId, .merchantCommissionLiability, receipt.merchantId, receipt.asset, liability⟩,
      ⟨ingestor.nextId call 3 "lde" receipt.receiptId "referrer_payable", transactionId,
        .referrerPayable, accrual.payoutWallet, receipt.asset, receipt.referrerCreditAtomic⟩,
      ⟨ingestor.nextId call 4 "lde" receipt.receiptId "protocol_fee_payable", transactionId,
        .protocolFeePayable, "split402", receipt.asset, receipt.protocolFeeAtomic⟩]
  assertLedgerBalances entries
  pure ⟨transactionId, .commissionAccrual, accrual.id, receipt.asset, entries, createdAt⟩

def createSnapshot (call : IngestCall) (receipt : Split402ReceiptV1) (receiptHash : String)
    (source : ReceiptIngestSource) : Except PayoutError ReceiptIngestionSnapshot := do
  let createdAt := ingestor.host.toISOString call.env.clock
  let receiptRecord : ReceiptRecord :=
    ⟨receipt.receiptId, receiptHash, receipt, source, .pendingChainVerification, none, createdAt⟩
  let accrual ← ingestor.createAccrual call receipt createdAt
  let ledgerTransaction ← match accrual with
    | none => pure none
    | some accrual => some <$> ingestor.createLedgerTransaction call receipt accrual createdAt
  pure ⟨receiptRecord, accrual, ledgerTransaction⟩

/-! ## The call -/

/-- What a call awaits. -/
inductive Op
  | getByReceiptHash (receiptHash : String)
  | getByReceiptId (receiptId : String)
  | getByPaymentId (paymentId : String)
  | getBySettlementTxSignature (signature : String)
  | resolveMerchantPublicKey (receipt : Split402ReceiptV1)
  | verifyPolicy (receipt : Split402ReceiptV1)
  | save (snapshot : ReceiptIngestionSnapshot)

abbrev Op.Answer : Op → Type
  | .getByReceiptHash _ | .getByReceiptId _ | .getByPaymentId _ | .getBySettlementTxSignature _ =>
      Option ReceiptIngestionSnapshot
  | .resolveMerchantPublicKey _ => Option String
  | .verifyPolicy _ => Option ProtocolVerificationResult
  | .save _ => Unit

/-- A program that awaits these. -/
abbrev Await (α : Type) : Type := Async Op Op.Answer PayoutError α

namespace Await

def getByReceiptHash (receiptHash : String) : Await (Option ReceiptIngestionSnapshot) :=
  Async.call (Op.getByReceiptHash receiptHash)

def getByReceiptId (receiptId : String) : Await (Option ReceiptIngestionSnapshot) :=
  Async.call (Op.getByReceiptId receiptId)

def getByPaymentId (paymentId : String) : Await (Option ReceiptIngestionSnapshot) :=
  Async.call (Op.getByPaymentId paymentId)

def getBySettlementTxSignature (signature : String) : Await (Option ReceiptIngestionSnapshot) :=
  Async.call (Op.getBySettlementTxSignature signature)

def resolveMerchantPublicKey (receipt : Split402ReceiptV1) : Await (Option String) :=
  Async.call (Op.resolveMerchantPublicKey receipt)

def verifyPolicy (receipt : Split402ReceiptV1) : Await (Option ProtocolVerificationResult) :=
  Async.call (Op.verifyPolicy receipt)

def save (snapshot : ReceiptIngestionSnapshot) : Await Unit := Async.call (Op.save snapshot)

/-- What throws at once, without an await. -/
def ofExcept {α : Type} (result : Except PayoutError α) : Await α := Async.done result

end Await

def findConflict (receipt : Split402ReceiptV1) (receiptHash : String) :
    Await (Option ReceiptIngestResult) := do
  match ← Await.getByReceiptId receipt.receiptId with
  | some byReceiptId => pure (some (.conflict .receiptId byReceiptId.receipt.id receiptHash))
  | none =>
      match ← Await.getByPaymentId receipt.paymentId with
      | some byPaymentId => pure (some (.conflict .paymentId byPaymentId.receipt.id receiptHash))
      | none =>
          match ← Await.getBySettlementTxSignature receipt.settlementTxSignature with
          | some bySettlementTx =>
              pure (some (.conflict .settlementTxSignature bySettlementTx.receipt.id receiptHash))
          | none => pure none

def isReceiptIngestionPersistenceConflict : PayoutError → Bool
  | .persistenceConflict => true
  | _ => false

/-- The save, and what is answered when it reports a conflict. -/
def saveSnapshot (receipt : Split402ReceiptV1) (receiptHash : String)
    (snapshot : ReceiptIngestionSnapshot) : Await ReceiptIngestResult :=
  tryCatch (do
    Await.save snapshot
    pure (ReceiptIngestResult.created snapshot))
    (fun error => do
      if !isReceiptIngestionPersistenceConflict error then throw error
      else
        match ← Await.getByReceiptHash receiptHash with
        | some duplicateAfterConflict => pure (.duplicate duplicateAfterConflict)
        | none =>
            match ← findConflict receipt receiptHash with
            | some writeConflict => pure writeConflict
            | none => throw error)

/-- What is done with a receipt that is neither known nor in conflict: the merchant's key, the
receipt's own verification, the policy, the save. -/
def verifyAndSave (call : IngestCall) (receipt : Split402ReceiptV1) (receiptHash : String) :
    Await ReceiptIngestResult := do
  match ← Await.resolveMerchantPublicKey receipt with
  | none => pure (.rejected [s!"unknown merchant public key for {receipt.merchantId}"])
  | some merchantPublicKey =>
      let verification ← Await.ofExcept
        (ofProtocol (verifySplit402ReceiptObject ingestor.runtime receipt merchantPublicKey))
      if !verification.ok then pure (.rejected verification.errors)
      else
        let policyVerification ← Await.verifyPolicy receipt
        if policyVerification.any (fun result => !result.ok) then
          pure (.rejected ((policyVerification.map ProtocolVerificationResult.errors).getD []))
        else
          let snapshot ← Await.ofExcept
            (ingestor.createSnapshot call receipt receiptHash (call.source.getD .unknown))
          saveSnapshot receipt receiptHash snapshot

/-- The receipt a call is about, when the schema admits it. -/
def safeParse (call : IngestCall) : Option Split402ReceiptV1 :=
  call.receipt.filter (split402ReceiptV1Schema ingestor.zod)

def ingest (call : IngestCall) : Await ReceiptIngestResult :=
  match ingestor.safeParse call with
  | none => pure (.rejected (ingestor.issues call.receipt))
  | some receipt => do
      let receiptHash ← Await.ofExcept (ofProtocol (hashReceipt ingestor.runtime receipt))
      match ← Await.getByReceiptHash receiptHash with
      | some duplicate => pure (.duplicate duplicate)
      | none =>
          match ← findConflict receipt receiptHash with
          | some conflict => pure conflict
          | none => ingestor.verifyAndSave call receipt receiptHash

end ReceiptIngestor

end Split402

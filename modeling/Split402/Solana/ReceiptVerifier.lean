import Split402.Payouts.Checks
import Split402.Receipts.ChainVerification
import Split402.Solana.Rpc

/-! # Verification of receipts on chain

`SolanaRpcReceiptVerifier` asks every node for the status of the settlement of a receipt, and for
the transaction once the status has the commitment of the options. The first confirmation counts;
without one a retry comes before a rejection. -/

namespace Split402

/-- The options of the verifier, the answers of the nodes in one call of it, and the address format
with the derivation of associated token accounts (of an owner, a program and a mint; `none` when it
throws). -/
structure SolanaRpcReceiptVerifier (ν : Type) where
  numbers : RpcNumbers ν
  fetch : SolanaRpcFetch ν
  isAddress : String → Bool
  findAssociatedTokenPda : String → String → String → Option String
  network : String
  rpcUrl : Option String
  rpcUrls : Option (List String)
  commitmentOption : Option SolanaRpcCommitment

namespace SolanaRpcReceiptVerifier

variable {ν : Type} (verifier : SolanaRpcReceiptVerifier ν) (receipt : Split402ReceiptV1)

/-- `this.rpcUrls()`. -/
def urls : List String := Split402.rpcUrls verifier.rpcUrl verifier.rpcUrls

def commitment : SolanaRpcCommitment := verifier.commitmentOption.getD .confirmed

/-- `BigInt(value)` of an amount of a receipt, a numeral. -/
def readAmount (value : String) : Except String Nat :=
  match parseAtomicAmount value with
  | some amount => pure amount
  | none => throw s!"Cannot convert {value} to a BigInt"

/-- The greater amount; the amount is compared only with one that is there. -/
def maxAtomicAmount (left : String) : Option String → Except String Nat
  | none => readAmount left
  | some right => do
      let l ← readAmount left
      let r ← readAmount right
      pure (if l ≥ r then l else r)

def isAssociatedTokenAccount (account owner mint : String) (tokenProgramId : Option String) : Bool :=
  match tokenProgramId with
  | none => false
  | some tokenProgramId =>
      decide (tokenProgramId ∈ TOKEN_PROGRAM_IDS) && verifier.isAddress owner &&
        verifier.isAddress tokenProgramId && verifier.isAddress mint &&
        verifier.findAssociatedTokenPda owner tokenProgramId mint == some account

def transferSatisfiesReceipt (transfer : SolanaTokenTransfer) (requiredAmount : Nat)
    (tokenAccounts : String → Option SolanaTokenAccountEvidence) : Bool :=
  if transfer.programId.any (· ∉ TOKEN_PROGRAM_IDS) then false
  else if transfer.mint ≠ receipt.asset then false
  else if transfer.authority ≠ receipt.payerWallet then false
  else if (parseAtomicAmount transfer.amount).any (· < requiredAmount) then false
  else
    let destination := tokenAccounts transfer.destination
    let destinationProgramMatches := destination.all (fun evidence =>
      evidence.programId.isNone || evidence.programId == transfer.programId)
    let destinationMintMatches := destination.all (fun evidence => evidence.mint == receipt.asset)
    let destinationOwnerMatches :=
      destination.any (fun evidence => evidence.owner == some receipt.payToWallet)
    let destinationIsAssociatedTokenAccount := verifier.isAssociatedTokenAccount
      transfer.destination receipt.payToWallet receipt.asset transfer.programId
    destinationMintMatches && destinationProgramMatches &&
      (destinationOwnerMatches || destinationIsAssociatedTokenAccount)

/-- `none` is a transaction that satisfies the receipt. -/
def verifyReceiptTransaction (transaction : SolanaConfirmedTransaction) :
    Except String (Option ReceiptChainVerificationResult) :=
  if receipt.settlementTxSignature ∉ transaction.signatures then
    pure (some (.rejected
      "settlement transaction signatures do not include receipt signature"))
  else
    match transaction.metaErr with
    | some metaErr => pure (some (.rejected ("settlement transaction failed: " ++ metaErr)))
    | none => do
        let requiredAmount ←
          maxAtomicAmount receipt.requiredAmountAtomic receipt.settledAmountAtomic
        if transaction.transfers.any (fun transfer =>
            verifier.transferSatisfiesReceipt receipt transfer requiredAmount
              transaction.tokenAccounts) then
          pure none
        else
          pure (some (.rejected ("settlement transaction does not contain a matching token " ++
            "transfer for receipt asset, payTo wallet, payer wallet, and amount")))

def statusRequest : RpcRequest :=
  .getSignatureStatuses "split402-chain-verification" receipt.settlementTxSignature

def transactionRequest : RpcRequest :=
  .getTransaction "split402-chain-verification" receipt.settlementTxSignature verifier.commitment

def requestSignatureStatus (rpcUrl : String) : Except String (Option (SolanaSignatureStatus ν)) :=
  readAnswer verifier.numbers readSignatureStatus (verifier.fetch rpcUrl (statusRequest receipt))

def requestConfirmedTransaction (rpcUrl : String) :
    Except String (Option SolanaConfirmedTransaction) :=
  readAnswer verifier.numbers (readConfirmedTransaction verifier.numbers)
    (verifier.fetch rpcUrl (verifier.transactionRequest receipt))

/-- What is done with the answer for the transaction. -/
def verifyTransactionAnswer :
    Except String (Option SolanaConfirmedTransaction) →
    Except String ReceiptChainVerificationResult
  | .error error => pure (.retry error none)
  | .ok none =>
      pure (.retry s!"settlement transaction details not found: {receipt.settlementTxSignature}"
        none)
  | .ok (some transaction) => do
      let transactionVerification ← verifier.verifyReceiptTransaction receipt transaction
      pure (transactionVerification.getD (.confirmed none))

/-- What is done with a status the node has. -/
def verifyStatus (rpcUrl : String) (signatureStatus : SolanaSignatureStatus ν) :
    Except String ReceiptChainVerificationResult :=
  match signatureStatus.err with
  | some .null =>
      if !hasRequiredCommitment signatureStatus verifier.commitment then
        pure (.retry
          s!"settlement transaction has not reached {verifier.commitment.text} commitment" none)
      else
        verifier.verifyTransactionAnswer receipt
          (verifier.requestConfirmedTransaction receipt rpcUrl)
  | err =>
      pure (.rejected ("settlement transaction failed: " ++
        stringifyOptional verifier.numbers err))

def verifyWithRpcUrl (rpcUrl : String) : Except String ReceiptChainVerificationResult :=
  match verifier.requestSignatureStatus receipt rpcUrl with
  | .error error => pure (.retry error none)
  | .ok none =>
      pure (.retry s!"settlement transaction not found: {receipt.settlementTxSignature}" none)
  | .ok (some signatureStatus) => verifier.verifyStatus receipt rpcUrl signatureStatus

/-- The URLs in turn, with the last retry and the last rejection so far. -/
def verifyUrls : List String → Option ReceiptChainVerificationResult →
    Option ReceiptChainVerificationResult → Except String ReceiptChainVerificationResult
  | [], lastRetry, lastRejected =>
      pure ((lastRetry.or lastRejected).getD (.retry "no Solana RPC URLs configured" none))
  | rpcUrl :: rest, lastRetry, lastRejected => do
      let result ← verifier.verifyWithRpcUrl receipt rpcUrl
      match result with
      | .confirmed _ => pure result
      | .rejected _ => verifyUrls rest lastRetry (some result)
      | .retry _ _ => verifyUrls rest (some result) lastRejected

def verify : Except String ReceiptChainVerificationResult :=
  if receipt.network ≠ verifier.network then
    pure (.rejected (s!"receipt network {receipt.network} does not match verifier network " ++
      s!"{verifier.network}"))
  else verifier.verifyUrls receipt verifier.urls none none

end SolanaRpcReceiptVerifier

end Split402

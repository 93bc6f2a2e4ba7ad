import Split402.Payouts.Checks

/-! # Verification of finalized transfers

Before the ledger of a finalized batch is closed, every stored transaction of the batch is looked up
on chain, and the token transfers out of the funding account are matched with the payout items the
transaction is mapped to. The RPC nodes, the address format and the derivation of associated token
accounts are a `Solana`. -/

namespace Split402

/-! ## What is read from the chain -/

structure SolanaTokenTransfer where
  programId : Option String
  source : Option String
  mint : String
  destination : String
  authority : String
  amount : String
  deriving DecidableEq

structure SolanaTokenAccountEvidence where
  mint : String
  owner : Option String
  programId : Option String

/-- A transaction as it is read from an RPC answer. `metaErr` is printed; `none` is `null`. -/
structure SolanaConfirmedTransaction where
  signatures : List String
  metaErr : Option String
  tokenAccounts : String → Option SolanaTokenAccountEvidence
  transfers : List SolanaTokenTransfer

/-- How a request for a transaction is answered. -/
inductive SolanaTransactionAnswer
  | throws (message : String)
  | httpStatus (status : Nat)
  | rpcError (error : String)
  | notFound
  | found (transaction : SolanaConfirmedTransaction)

/-- What is around the verifier: `address` takes the value, `findAssociatedTokenPda` of an owner, a
program and a mint (`none` when it throws), and the answer of a URL for a finalized signature. -/
structure Solana where
  isAddress : String → Bool
  findAssociatedTokenPda : String → String → String → Option String
  getTransaction : String → String → SolanaTransactionAnswer

/-! ## The verifier -/

def SOLANA_TOKEN_PROGRAM_ID : String := "TokenkegQfeZyiNwAJbNbGKPFXCWuBvf9Ss623VQ5DA"

def SOLANA_TOKEN_2022_PROGRAM_ID : String := "TokenzQdBNbLqP5VEhdkAS6EPFLC1PHnBqCXEpPxuEb"

def TOKEN_PROGRAM_IDS : List String := [SOLANA_TOKEN_PROGRAM_ID, SOLANA_TOKEN_2022_PROGRAM_ID]

/-- `value.trim()`. -/
def jsTrim (value : String) : String :=
  String.ofList
    ((value.toList.dropWhile isJsWhitespace).reverse.dropWhile isJsWhitespace).reverse

/-- The URLs of the options, trimmed, without what is empty and without repetitions. -/
def rpcUrls (rpcUrl : Option String) (rpcUrls : Option (List String)) : List String :=
  (((rpcUrl.toList ++ rpcUrls.getD []).map jsTrim).filter (· != "")).eraseDups

structure SolanaRpcPayoutFinalizedTransferVerifier where
  solana : Solana
  rpcUrl : Option String
  rpcUrls : Option (List String)
  network : String
  fundingWallet : String
  sourceTokenAccount : String
  tokenProgramId : Option String

namespace SolanaRpcPayoutFinalizedTransferVerifier

variable (verifier : SolanaRpcPayoutFinalizedTransferVerifier)

/-- `this.options.tokenProgramId ?? SOLANA_TOKEN_PROGRAM_ID`. -/
def programId : String := verifier.tokenProgramId.getD SOLANA_TOKEN_PROGRAM_ID

def assertSolanaAddress (value label : String) : Except String Unit :=
  if verifier.solana.isAddress value then pure ()
  else throw s!"{label} must be a valid Solana address"

def assertSupportedTokenProgramId (value : String) : Except String Unit := do
  verifier.assertSolanaAddress value "tokenProgramId"
  if value ∈ TOKEN_PROGRAM_IDS then pure ()
  else throw "tokenProgramId must be a supported SPL token program"

def validateBatch (batch : PayoutBatchRecord) : List String :=
  (if batch.network ≠ verifier.network then
    [s!"payout batch network {batch.network} does not match verifier network {verifier.network}"]
    else []) ++
  (if batch.status ≠ .finalized then
    ["payout batch must be finalized before transfer verification"] else []) ++
  (match (do
      verifier.assertSolanaAddress verifier.fundingWallet "fundingWallet"
      verifier.assertSolanaAddress verifier.sourceTokenAccount "sourceTokenAccount"
      verifier.assertSupportedTokenProgramId verifier.programId : Except String Unit) with
    | .ok () => []
    | .error message => [message])

/-- The URLs in turn, until one has the transaction; what the others answered is an error each. -/
def requestFrom (signature : String) :
    List String → List String → Except (List String) SolanaConfirmedTransaction
  | [], errors => throw (if errors.isEmpty then ["no Solana RPC URLs configured"] else errors)
  | rpcUrl :: rest, errors =>
      match verifier.solana.getTransaction rpcUrl signature with
      | .found transaction => pure transaction
      | .throws message =>
          requestFrom signature rest
            (errors ++ ["Solana RPC finalized transaction lookup failed: " ++ message])
      | .httpStatus status =>
          requestFrom signature rest (errors ++ [s!"Solana RPC {rpcUrl} returned HTTP {status}"])
      | .rpcError error =>
          requestFrom signature rest (errors ++ [s!"Solana RPC {rpcUrl} returned error: {error}"])
      | .notFound =>
          requestFrom signature rest
            (errors ++ [s!"finalized transaction details not found: {signature}"])

def requestFinalizedTransaction (signature : String) :
    Except (List String) SolanaConfirmedTransaction :=
  verifier.requestFrom signature (Split402.rpcUrls verifier.rpcUrl verifier.rpcUrls) []

def isAssociatedTokenAccount (account owner mint tokenProgramId : String) : Bool :=
  decide (tokenProgramId ∈ TOKEN_PROGRAM_IDS) && verifier.solana.isAddress owner &&
    verifier.solana.isAddress tokenProgramId && verifier.solana.isAddress mint &&
    verifier.solana.findAssociatedTokenPda owner tokenProgramId mint == some account

def transferRecipientMatchesPayoutItem (transfer : SolanaTokenTransfer)
    (item : PayoutTransactionItemRecord)
    (tokenAccounts : String → Option SolanaTokenAccountEvidence) (mint : String) : Bool :=
  if item.destinationTokenAccount.any (transfer.destination != ·) then false
  else
    let destination := tokenAccounts transfer.destination
    let ownerMatches := destination.any (fun evidence => evidence.owner == some item.destinationWallet)
    let mintMatches := destination.all (fun evidence => evidence.mint == mint)
    let programMatches := destination.all (fun evidence =>
      evidence.programId.isNone || evidence.programId == transfer.programId)
    let ataMatches := verifier.isAssociatedTokenAccount transfer.destination item.destinationWallet
      mint verifier.programId
    mintMatches && programMatches && (ownerMatches || ataMatches)

/-- The transfers out of the funding account. -/
def payoutTransfers (batch : PayoutBatchRecord) (confirmed : SolanaConfirmedTransaction) :
    List SolanaTokenTransfer :=
  confirmed.transfers.filter (fun transfer =>
    transfer.mint == batch.asset && transfer.source == some verifier.sourceTokenAccount &&
      transfer.authority == verifier.fundingWallet)

/-- The amount of the transfer, and its destination where the item names one. -/
def fits (transfer : SolanaTokenTransfer) (item : PayoutTransactionItemRecord) : Bool :=
  item.amountAtomic == transfer.amount &&
    item.destinationTokenAccount.all (· == transfer.destination)

structure TransferMatching where
  errors : List String
  matchedItemIds : List String

/-- One turn of the loop over the transfers. -/
def matchTransfer (batch : PayoutBatchRecord) (expectedItems : List PayoutTransactionItemRecord)
    (confirmed : SolanaConfirmedTransaction) (matching : TransferMatching)
    (transfer : SolanaTokenTransfer) : TransferMatching :=
  if transfer.programId ≠ some verifier.programId then
    { matching with errors := matching.errors ++
      ["finalized transfer token program does not match funding policy"] }
  else
    match expectedItems.find? (fun candidate =>
      decide (candidate.payoutItemId ∉ matching.matchedItemIds) && fits transfer candidate) with
    | none =>
        { matching with errors := matching.errors ++
          ["extra payout transfer from funding account to " ++ transfer.destination ++ " for " ++
            transfer.amount] }
    | some item =>
        { matchedItemIds := matching.matchedItemIds ++ [item.payoutItemId]
          errors := matching.errors ++
            if verifier.transferRecipientMatchesPayoutItem transfer item confirmed.tokenAccounts
                batch.asset then []
            else ["recipient owner does not match payout item destination wallet: " ++
              item.payoutItemId] }

def verifyFinalizedPayoutTransfersForTransaction (batch : PayoutBatchRecord)
    (transaction : PayoutTransactionRecord) (confirmed : SolanaConfirmedTransaction) :
    List String :=
  let expectedItems := transaction.items
  let matching := (verifier.payoutTransfers batch confirmed).foldl
    (verifier.matchTransfer batch expectedItems confirmed) ⟨[], []⟩
  matching.errors ++
    (expectedItems.filter (fun item => item.payoutItemId ∉ matching.matchedItemIds)).map
      (fun item => s!"missing finalized payout transfer for item {item.payoutItemId}")

def verifyTransaction (batch : PayoutBatchRecord) (transaction : PayoutTransactionRecord) :
    List String :=
  let errors :=
    if transaction.status ≠ .finalized then
      [s!"payout transaction {transaction.id} is not finalized"] else []
  match transaction.expectedSignature with
  | none => errors ++ [s!"payout transaction {transaction.id} is missing expectedSignature"]
  | some signature =>
      if transaction.items = [] then
        errors ++ [s!"payout transaction {transaction.id} has no mapped payout items"]
      else
        match verifier.requestFinalizedTransaction signature with
        | .error lookupErrors => errors ++ lookupErrors
        | .ok confirmed =>
            (errors ++
              (if signature ∉ confirmed.signatures then
                [s!"finalized transaction {signature} does not include expected signature"]
                else []) ++
              (match confirmed.metaErr with
                | none => []
                | some error => [s!"finalized transaction {signature} failed: {error}"]) ++
              verifier.verifyFinalizedPayoutTransfersForTransaction batch transaction
                confirmed).map (fun error => s!"{transaction.id}: {error}")

def verifyFinalizedPayout (batch : PayoutBatchRecord)
    (transactions : List PayoutTransactionRecord) : PayoutFinalizedTransferVerificationResult :=
  let setupErrors := verifier.validateBatch batch
  if setupErrors ≠ [] then ⟨false, setupErrors⟩
  else
    let errors := transactions.flatMap (verifier.verifyTransaction batch)
    ⟨errors.isEmpty, errors⟩

end SolanaRpcPayoutFinalizedTransferVerifier

end Split402

import Split402.Solana.ByteCursor
import Split402.Solana.TransactionPlan

/-! # The payout signer

`SolanaPolicyEnforcedPayoutSigner` holds a plan against its policy and hands each serialized
transaction of it to a delegate. The delegates decode the bytes and compare them with the plan before
they sign. -/

namespace Split402

open Base SolanaPlan

/-! ## What is signed, and under which policy -/

structure SolanaPayoutSignerPolicy where
  network : String
  signerReference : String
  fundingWallet : String
  sourceTokenAccount : String
  mint : String
  allowedTokenProgramIds : Option (List String)
  maxTransactionAmountAtomic : Option String
  maxBatchAmountAtomic : Option String
  requireSuccessfulSimulation : Option Bool
  expectedDestinationAmountListHash : Option String

structure SolanaSerializedPayoutTransaction where
  index : Nat
  transactionBase64 : String

inductive SolanaPayoutSimulationStatus
  | succeeded | failed | retry
  deriving DecidableEq, Repr

structure SolanaPayoutSimulationTransactionResult where
  index : Nat
  status : SolanaPayoutSimulationStatus

structure SolanaPayoutSimulationReport where
  batchId : String
  network : String
  status : SolanaPayoutSimulationStatus
  transactionResults : List SolanaPayoutSimulationTransactionResult

structure SignSolanaPayoutTransactionsInput where
  plan : SolanaPayoutTransactionPlan
  transactions : List SolanaSerializedPayoutTransaction
  simulationReport : Option SolanaPayoutSimulationReport

structure SolanaSignedPayoutTransaction where
  index : Nat
  signedTransactionBase64 : String
  expectedSignature : Option String

structure SolanaPayoutSigningReport where
  batchId : String
  network : String
  signerReference : String
  destinationAmountListHash : String
  signedTransactions : List SolanaSignedPayoutTransaction

structure SolanaPayoutTransactionSigningDelegateInput where
  batchId : String
  network : String
  signerReference : String
  destinationAmountListHash : String
  plannedTransaction : SolanaPayoutPlannedTransaction
  transactionBase64 : String
  amountAtomic : String

structure SolanaPayoutTransactionSigningDelegateResult where
  signedTransactionBase64 : String
  expectedSignature : Option String

abbrev SolanaPayoutTransactionSigningDelegate : Type :=
  SolanaPayoutTransactionSigningDelegateInput →
    Except String SolanaPayoutTransactionSigningDelegateResult

/-! ## The bytes against the plan -/

def assertBase64Transaction (value label : String) : Except String String :=
  if isBase64 value then pure value else throw s!"{label} must be a base64 serialized transaction"

section Bytes

variable (library : SolanaLibrary) (policy : SolanaPayoutSignerPolicy)

def decodeSolanaTransactionMessageBytes (transactionBase64 : String) :
    Except String DecodedSolanaTransactionMessage := do
  let transactionBase64 ← assertBase64Transaction transactionBase64 "transactionBase64"
  let messageBytes ← library.decodeTransaction (bufferFromBase64 transactionBase64.toList)
  decodeCompiledSolanaMessage messageBytes

def readAllowedTokenProgramIds : Option (List String) → Except String (List String)
  | none => pure TOKEN_PROGRAM_IDS
  | some [] => throw "policy.allowedTokenProgramIds must not be empty"
  | some value => value.mapM (assertSupportedTokenProgramId library)

/-- The error of an account that is not as expected. -/
def compareAccount (index : Nat) (label : String) (actual : Option String) (expected : String) :
    List String :=
  if actual ≠ some expected then [s!"instruction {index} {label} does not match approved plan"] else []

/-- The accounts of an instruction, when they are all there and as many as they should be. -/
def instructionAccounts (accountKeys : List String) (actual : DecodedCompiledInstruction)
    (count : Nat) : Option (List String) :=
  (actual.accountIndexes.mapM fun accountIndex => accountKeys[accountIndex.toNat]?).filter
    fun accounts => accounts.length = count

def verifyCompiledCreateAssociatedTokenInstruction (index : Nat) (actual : DecodedCompiledInstruction)
    (actualProgram : String) (accountKeys : List String)
    (planned : SolanaCreateAssociatedTokenInstructionPlan) : List String :=
  (if actualProgram ≠ ASSOCIATED_TOKEN_PROGRAM_ID then
    [s!"instruction {index} uses unsupported ATA program"] else []) ++
  (if actual.data ≠ [1] then [s!"instruction {index} is not idempotent ATA creation"] else []) ++
  match instructionAccounts accountKeys actual 6 with
  | none => [s!"instruction {index} ATA account layout is unsupported"]
  | some accounts =>
      compareAccount index "ATA payer" accounts[0]? planned.payer ++
      compareAccount index "ATA account" accounts[1]? planned.associatedTokenAccount ++
      compareAccount index "ATA owner" accounts[2]? planned.owner ++
      compareAccount index "ATA mint" accounts[3]? planned.mint ++
      compareAccount index "ATA system program" accounts[4]? "11111111111111111111111111111111" ++
      compareAccount index "ATA token program" accounts[5]? planned.tokenProgramId ++
      (if planned.payer ≠ policy.fundingWallet then
        [s!"instruction {index} ATA payer does not match policy funding wallet"] else []) ++
      (if planned.mint ≠ policy.mint then
        [s!"instruction {index} ATA mint does not match policy mint"] else [])

/-- The amount, eight bytes with the low one first, and the decimals. -/
def decodeTransferCheckedInstructionData : List UInt8 → Option (Nat × Nat)
  | [12, b₀, b₁, b₂, b₃, b₄, b₅, b₆, b₇, decimals] =>
      some ((([b₀, b₁, b₂, b₃, b₄, b₅, b₆, b₇].zipIdx).map fun (byte, index) =>
        byte.toNat <<< (index * 8)).sum, decimals.toNat)
  | _ => none

def verifyTransferData (index : Nat) (actual : DecodedCompiledInstruction)
    (planned : SolanaTransferCheckedInstructionPlan) : List String :=
  match decodeTransferCheckedInstructionData actual.data with
  | none => [s!"instruction {index} is not transferChecked"]
  | some (amount, decimals) =>
      (if serializeAtomicAmount amount ≠ planned.amountAtomic then
        [s!"instruction {index} transfer amount does not match approved plan"] else []) ++
      (if decimals ≠ planned.decimals then
        [s!"instruction {index} transfer decimals do not match approved plan"] else [])

def verifyPlannedItem (index : Nat) (planned : SolanaTransferCheckedInstructionPlan) :
    Option SolanaPayoutPlannedItem → List String
  | none => [s!"instruction {index} transfer payout item is missing from plan"]
  | some item =>
      compareAccount index "payout item destination token account" (some planned.destination)
        item.destinationTokenAccount ++
      (if planned.amountAtomic ≠ item.amountAtomic then
        [s!"instruction {index} transfer amount does not match payout item"] else [])

/-- `allowed` is what `readAllowedTokenProgramIds` gives, which throws before any error is found. -/
def verifyCompiledTransferCheckedInstruction (allowed : List String) (index : Nat)
    (actual : DecodedCompiledInstruction) (actualProgram : String) (accountKeys : List String)
    (planned : SolanaTransferCheckedInstructionPlan) (plannedItem : Option SolanaPayoutPlannedItem) :
    List String :=
  (if actualProgram ∉ allowed then
    [s!"instruction {index} uses a token program outside signer policy"] else []) ++
  (if actualProgram ≠ planned.programId then
    [s!"instruction {index} token program does not match approved plan"] else []) ++
  match instructionAccounts accountKeys actual 4 with
  | none => [s!"instruction {index} transfer account layout is unsupported"]
  | some accounts =>
      compareAccount index "transfer source" accounts[0]? planned.source ++
      compareAccount index "transfer mint" accounts[1]? planned.mint ++
      compareAccount index "transfer destination" accounts[2]? planned.destination ++
      compareAccount index "transfer authority" accounts[3]? planned.authority ++
      compareAccount index "policy source token account" (some planned.source)
        policy.sourceTokenAccount ++
      compareAccount index "policy mint" (some planned.mint) policy.mint ++
      compareAccount index "policy funding authority" (some planned.authority) policy.fundingWallet ++
      verifyPlannedItem index planned plannedItem ++
      verifyTransferData index actual planned

/-- The fee payer, who is the only signer. -/
def verifySigners (message : DecodedSolanaTransactionMessage) : List String :=
  if library.isAddress policy.fundingWallet then
    (if message.numRequiredSignatures ≠ 1 ∨ message.accountKeys[0]? ≠ some policy.fundingWallet then
      ["transaction must require exactly the approved funding wallet signer"] else []) ++
    (if message.accountKeys[0]? ≠ some policy.fundingWallet then
      ["transaction fee payer must be the approved funding wallet"] else [])
  else ["policy funding wallet is not a valid Solana address"]

def verifyInstruction (plannedTransaction : SolanaPayoutPlannedTransaction) (index : Nat)
    (accountKeys : List String) (actual : DecodedCompiledInstruction)
    (planned : SolanaPayoutInstructionPlan) : Except String (List String) :=
  match accountKeys[actual.programIdIndex.toNat]? with
  | none => pure [s!"instruction {index} references an unknown program account"]
  | some actualProgram =>
      match planned with
      | .createAssociatedTokenIdempotent planned =>
          pure (verifyCompiledCreateAssociatedTokenInstruction policy index actual actualProgram
            accountKeys planned)
      | .transferChecked planned => do
          let allowed ← readAllowedTokenProgramIds library policy.allowedTokenProgramIds
          -- of several items with one id the map has the last
          pure (verifyCompiledTransferCheckedInstruction policy allowed index actual actualProgram
            accountKeys planned
            (plannedTransaction.items.reverse.find? (·.payoutItemId = planned.payoutItemId)))

def verifySolanaPayoutTransactionBytesAgainstPlan (transactionBase64 : String)
    (plannedTransaction : SolanaPayoutPlannedTransaction) :
    Except String ProtocolVerificationResult :=
  match decodeSolanaTransactionMessageBytes library transactionBase64 with
  | .error error =>
      pure (resultOf [s!"transaction bytes are not a supported Solana transaction: {error}"])
  | .ok message => do
      let instructionErrors ←
        (message.instructions.zip plannedTransaction.instructions).zipIdx.mapM
          fun ((actual, planned), index) =>
            verifyInstruction library policy plannedTransaction index message.accountKeys actual planned
      pure (resultOf (verifySigners library policy message ++
        (if message.addressTableLookupCount ≠ 0 then
          ["address lookup tables are not supported for payout signing"] else []) ++
        (if message.instructions.length ≠ plannedTransaction.instructions.length then
          ["transaction instruction count does not match approved plan"] else []) ++
        instructionErrors.flatten))

def assertSolanaPayoutTransactionBytesMatchPlan (transactionBase64 : String)
    (plannedTransaction : SolanaPayoutPlannedTransaction) : Except String Unit := do
  let result ← verifySolanaPayoutTransactionBytesAgainstPlan library policy transactionBase64
    plannedTransaction
  if result.ok then pure ()
  else throw ("serialized payout transaction does not match approved plan: " ++
    "; ".intercalate result.errors)

/-- A delegate that compares the bytes with the plan, and then has them signed by a key pair or by a
remote signer. -/
def guardedDelegate (signerReference label : String) (sign : SolanaPayoutTransactionSigningDelegate) :
    SolanaPayoutTransactionSigningDelegate := fun input => do
  require (input.signerReference = signerReference)
    s!"{label} signer received an unexpected signerReference"
  assertSolanaPayoutTransactionBytesMatchPlan library policy input.transactionBase64
    input.plannedTransaction
  sign input

end Bytes

/-! ## The plan against the policy -/

section Policy

variable {ν : Type} (runtime : Runtime ν) (library : SolanaLibrary)
  (policy : SolanaPayoutSignerPolicy) (plan : SolanaPayoutTransactionPlan)

def plannedItemJson (item : SolanaPayoutPlannedItem) : JsValue ν :=
  .object true [stringField "payoutItemId" item.payoutItemId,
    stringField "destinationWallet" item.destinationWallet,
    stringField "destinationTokenAccount" item.destinationTokenAccount,
    stringField "amountAtomic" item.amountAtomic]

def hashSolanaPayoutDestinationAmountList : Except String String :=
  hashProtocolObject runtime.numbers runtime.sha256Hex (.object true [
    stringField "schema" "split402.solana.payout.destination_amount_list.v1",
    stringField "batchId" plan.batchId,
    stringField "network" plan.network,
    stringField "asset" plan.asset,
    stringField "tokenProgramId" plan.tokenProgramId,
    stringField "sourceTokenAccount" plan.sourceTokenAccount,
    (Base.Utf16.ofString "transactions", .array (plan.transactions.map fun transaction =>
      .object true [(Base.Utf16.ofString "index", .number (runtime.ofNat transaction.index)),
        (Base.Utf16.ofString "items", .array (transaction.items.map plannedItemJson))]))])

def assertInstructionPolicy (allowed : List String) (transaction : SolanaPayoutPlannedTransaction) :
    SolanaPayoutInstructionPlan → Except String Unit
  | .createAssociatedTokenIdempotent instruction => do
      require (instruction.programId = ASSOCIATED_TOKEN_PROGRAM_ID)
        "payout signer policy rejects unsupported ATA program"
      require (instruction.payer = plan.fundingWallet) "payout signer policy rejects ATA payer mismatch"
      require (instruction.mint = plan.asset) "payout signer policy rejects ATA mint mismatch"
      require (instruction.tokenProgramId ∈ allowed) "payout signer policy rejects ATA token program"
  | .transferChecked instruction => do
      require (instruction.programId ∈ allowed) "payout signer policy rejects transfer token program"
      require (instruction.source = plan.sourceTokenAccount)
        "payout signer policy rejects transfer source"
      require (instruction.authority = plan.fundingWallet)
        "payout signer policy rejects transfer authority"
      require (instruction.mint = plan.asset) "payout signer policy rejects transfer mint"
      require (instruction.decimals = plan.tokenDecimals)
        "payout signer policy rejects transfer decimals"
      assertPositiveAtomicAmount instruction.amountAtomic
        s!"payout transaction {transaction.index} transfer amountAtomic"

def assertPayoutSignerInstructionPolicy (allowed : List String) : Except String Unit :=
  plan.transactions.forM fun transaction =>
    transaction.instructions.forM (assertInstructionPolicy plan allowed transaction)

def readOptionalAtomicLimit (value : Option String) (label : String) :
    Except String (Option Nat) :=
  match value with
  | none => pure none
  | some value => do
      assertPositiveAtomicAmount value label
      some <$> readBigInt value

def sumPlannedTransactionAmount (transaction : SolanaPayoutPlannedTransaction) :
    Except String Nat := do
  let amounts ← transaction.items.mapM fun item => readBigInt item.amountAtomic
  pure amounts.sum

def assertPayoutSignerAmountLimits : Except String Unit := do
  let maxTransactionAmount ← readOptionalAtomicLimit policy.maxTransactionAmountAtomic
    "policy.maxTransactionAmountAtomic"
  let maxBatchAmount ← readOptionalAtomicLimit policy.maxBatchAmountAtomic
    "policy.maxBatchAmountAtomic"
  let batchAmount ← readBigInt plan.totalAmountAtomic
  require (maxBatchAmount.all (batchAmount ≤ ·))
    "payout batch amount exceeds signer maxBatchAmountAtomic"
  match maxTransactionAmount with
  | none => pure ()
  | some maxTransactionAmount =>
      plan.transactions.forM fun transaction => do
        let amount ← sumPlannedTransactionAmount transaction
        require (amount ≤ maxTransactionAmount) (s!"payout transaction {transaction.index} " ++
          "amount exceeds signer maxTransactionAmountAtomic")

/-- `resultsByIndex`: of several results for one index the last one counts. -/
def assertSuccessfulPayoutSimulation (report : Option SolanaPayoutSimulationReport) :
    Except String Unit :=
  match report with
  | none => throw "successful payout simulation is required before signing"
  | some report => do
      require (report.batchId = plan.batchId ∧ report.network = plan.network)
        "payout simulation report does not match plan"
      require (report.status = .succeeded) "successful payout simulation is required before signing"
      plan.transactions.forM fun transaction =>
        require ((report.transactionResults.reverse.find? (·.index = transaction.index)).any
            (·.status = .succeeded))
          s!"successful payout simulation is required for transaction {transaction.index}"
      require ((report.transactionResults.map (·.index)).dedup.length = plan.transactions.length)
        "payout simulation report must cover every planned transaction"

def assertPayoutSignerPolicy (destinationAmountListHash : String)
    (simulationReport : Option SolanaPayoutSimulationReport) : Except String Unit := do
  let network ← SolanaPlan.assertNonEmptyString policy.network "policy.network"
  require (plan.network = network)
    s!"payout plan network {plan.network} does not match signer policy network {network}"
  let _ ← SolanaPlan.assertNonEmptyString policy.signerReference "policy.signerReference"
  let fundingWallet ← assertSolanaAddress library policy.fundingWallet "policy.fundingWallet"
  require (plan.fundingWallet = fundingWallet)
    "payout signer policy fundingWallet does not match plan"
  let sourceTokenAccount ← assertSolanaAddress library policy.sourceTokenAccount
    "policy.sourceTokenAccount"
  require (plan.sourceTokenAccount = sourceTokenAccount)
    "payout signer policy sourceTokenAccount does not match plan"
  let mint ← assertSolanaAddress library policy.mint "policy.mint"
  require (plan.asset = mint) "payout signer policy mint does not match plan asset"
  let allowed ← readAllowedTokenProgramIds library policy.allowedTokenProgramIds
  require (plan.tokenProgramId ∈ allowed) "payout signer policy does not allow plan token program"
  require (policy.expectedDestinationAmountListHash.all (· = destinationAmountListHash))
    "payout signer policy destination amount list hash mismatch"
  assertPayoutSignerInstructionPolicy plan allowed
  assertPayoutSignerAmountLimits policy plan
  if policy.requireSuccessfulSimulation.getD true then
    assertSuccessfulPayoutSimulation plan simulationReport
  else pure ()

/-! ## Signing -/

/-- One round of the loop: a transaction of the plan that has not been read yet. -/
def readSerializedPayoutTransaction (plan : SolanaPayoutTransactionPlan)
    (serialized : List SolanaSerializedPayoutTransaction)
    (transaction : SolanaSerializedPayoutTransaction) :
    Except String (List SolanaSerializedPayoutTransaction) := do
  require (plan.transactions.any (·.index = transaction.index))
    s!"serialized transaction index {transaction.index} is not in payout plan"
  require (!serialized.any (·.index = transaction.index))
    s!"duplicate serialized transaction for payout plan index {transaction.index}"
  let transactionBase64 ← assertBase64Transaction transaction.transactionBase64
    s!"serialized transaction {transaction.index}"
  pure (serialized ++ [⟨transaction.index, transactionBase64⟩])

/-- The serialized transactions by their index, each index of the plan once. -/
def readSerializedPayoutTransactions (input : SignSolanaPayoutTransactionsInput) :
    Except String (List SolanaSerializedPayoutTransaction) := do
  let serialized ← input.transactions.foldlM (readSerializedPayoutTransaction input.plan) []
  require (serialized.length = input.plan.transactions.length)
    "serialized transactions must cover every planned transaction"
  pure serialized

/-- One round of the loop: the delegate signs the transaction of the plan. -/
def signPlannedTransaction (signTransaction : SolanaPayoutTransactionSigningDelegate)
    (destinationAmountListHash : String) (serialized : List SolanaSerializedPayoutTransaction)
    (plannedTransaction : SolanaPayoutPlannedTransaction) :
    Except String SolanaSignedPayoutTransaction :=
  match serialized.find? (·.index = plannedTransaction.index) with
  | none =>
      throw s!"missing serialized transaction for payout plan index {plannedTransaction.index}"
  | some transaction => do
      let amount ← sumPlannedTransactionAmount plannedTransaction
      let signed ← signTransaction
        { batchId := plan.batchId
          network := plan.network
          signerReference := policy.signerReference
          destinationAmountListHash := destinationAmountListHash
          plannedTransaction := plannedTransaction
          transactionBase64 := transaction.transactionBase64
          amountAtomic := serializeAtomicAmount amount }
      let signedTransactionBase64 ← assertBase64Transaction signed.signedTransactionBase64
        s!"signed transaction {plannedTransaction.index}"
      let expectedSignature ← signed.expectedSignature.mapM fun signature =>
        SolanaPlan.assertNonEmptyString signature
          s!"signed transaction {plannedTransaction.index} expectedSignature"
      pure ⟨plannedTransaction.index, signedTransactionBase64, expectedSignature⟩

end Policy

/-- `sign` of the signer with a policy and a delegate. -/
def SolanaPolicyEnforcedPayoutSigner.sign {ν : Type} (runtime : Runtime ν) (library : SolanaLibrary)
    (policy : SolanaPayoutSignerPolicy) (signTransaction : SolanaPayoutTransactionSigningDelegate)
    (input : SignSolanaPayoutTransactionsInput) : Except String SolanaPayoutSigningReport := do
  let serialized ← readSerializedPayoutTransactions input
  let destinationAmountListHash ← hashSolanaPayoutDestinationAmountList runtime input.plan
  assertPayoutSignerPolicy library policy input.plan destinationAmountListHash input.simulationReport
  let signedTransactions ← input.plan.transactions.mapM
    (signPlannedTransaction policy input.plan signTransaction destinationAmountListHash serialized)
  pure ⟨input.plan.batchId, input.plan.network, policy.signerReference, destinationAmountListHash,
    signedTransactions⟩

end Split402

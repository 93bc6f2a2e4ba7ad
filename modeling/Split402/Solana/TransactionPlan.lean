import Split402.Payouts.TransferVerification
import Split402.Protocol.Numbers
import Split402.Protocol.Signing

/-! # Plans of payout transactions

`createSolanaPayoutTransactionPlan` splits the items of a planned batch into transactions, and writes
down the instructions of each: for every item a transfer to its token account, with the creation of
that account before it when the item does not name one. -/

namespace Split402

/-- The functions of the Solana library: whether `address` takes a value, the associated token account
of an owner, a program and a mint, and the message bytes of a serialized transaction. -/
structure SolanaLibrary where
  isAddress : String → Bool
  findAssociatedTokenPda : String → String → String → Except String String
  decodeTransaction : List UInt8 → Except String (List UInt8)

def ASSOCIATED_TOKEN_PROGRAM_ID : String := "ATokenGPvbdGVxr1b2hvZbsiqW5xWH25efTNsLJA8knL"

/-! ## Plans -/

structure SolanaCreateAssociatedTokenInstructionPlan where
  programId : String
  payer : String
  associatedTokenAccount : String
  owner : String
  mint : String
  tokenProgramId : String
  deriving DecidableEq, Repr

structure SolanaTransferCheckedInstructionPlan where
  programId : String
  source : String
  mint : String
  destination : String
  authority : String
  amountAtomic : String
  decimals : Nat
  payoutItemId : String
  deriving DecidableEq, Repr

inductive SolanaPayoutInstructionPlan
  | createAssociatedTokenIdempotent (plan : SolanaCreateAssociatedTokenInstructionPlan)
  | transferChecked (plan : SolanaTransferCheckedInstructionPlan)
  deriving DecidableEq, Repr

structure SolanaPayoutPlannedItem where
  payoutItemId : String
  destinationWallet : String
  destinationTokenAccount : String
  amountAtomic : String
  createAssociatedTokenAccount : Bool
  deriving DecidableEq, Repr

structure SolanaPayoutPlannedTransaction where
  index : Nat
  items : List SolanaPayoutPlannedItem
  instructions : List SolanaPayoutInstructionPlan
  deriving DecidableEq, Repr

structure SolanaPayoutTransactionPlan where
  batchId : String
  network : String
  asset : String
  tokenProgramId : String
  tokenDecimals : Nat
  fundingWallet : String
  sourceTokenAccount : String
  totalAmountAtomic : String
  itemCount : Nat
  transactionCount : Nat
  transactions : List SolanaPayoutPlannedTransaction
  deriving DecidableEq, Repr

structure CreateSolanaPayoutTransactionPlanInput where
  batch : PayoutBatchRecord
  fundingWallet : String
  tokenDecimals : JsNumber
  tokenProgramId : Option String
  sourceTokenAccount : Option String
  maxItemsPerTransaction : Option JsNumber

/-! ## Checks -/

/-- An `Error` with the message unless the condition holds. -/
def require (condition : Bool) (message : String) : Except String Unit :=
  if condition then pure () else throw message

namespace SolanaPlan

/-- `assertNonEmptyString` of this file. -/
def assertNonEmptyString (value label : String) : Except String String :=
  if isBlank value then throw s!"{label} must be a non-empty string" else pure value

/-- `BigInt(value)` of a numeral. -/
def readBigInt (value : String) : Except String Nat :=
  match parseAtomicAmount value with
  | some amount => pure amount
  | none => throw s!"Cannot convert {value} to a BigInt"

def assertTokenDecimals (value : JsNumber) : Except String Nat :=
  match value.toInteger.filter (fun n => 0 ≤ n ∧ n ≤ 255) with
  | some n => pure n.toNat
  | none => throw "tokenDecimals must be an integer between 0 and 255"

def assertPositiveInteger (value : JsNumber) (label : String) : Except String Nat :=
  match value.toInteger.filter (fun n => 0 < n) with
  | some n => pure n.toNat
  | none => throw s!"{label} must be a positive integer"

/-- `/^[1-9][0-9]*$/`. -/
def assertPositiveAtomicAmount (value label : String) : Except String Unit :=
  if (parseAtomicAmount value).any (0 < ·) then pure ()
  else throw s!"{label} must be a positive atomic amount"

section Addresses

variable (library : SolanaLibrary)

def assertSolanaAddress (value label : String) : Except String String :=
  if library.isAddress value then pure value else throw s!"{label} must be a valid Solana address"

def assertSupportedTokenProgramId (value : String) : Except String String := do
  let tokenProgramId ← assertSolanaAddress library value "tokenProgramId"
  if tokenProgramId ∈ TOKEN_PROGRAM_IDS then pure tokenProgramId
  else throw "tokenProgramId must be a supported SPL token program"

end Addresses

end SolanaPlan

open SolanaPlan

/-- The slices of `size` items, from the front; the last one may be shorter. -/
def chunkItems {α : Type} (items : List α) (size : Nat) : List (List α) :=
  (List.range ((items.length + size - 1) / size)).map fun chunk =>
    (items.drop (chunk * size)).take size

section Planning

variable (library : SolanaLibrary)

/-- The account that is named, or the one that is derived from its owner. -/
def namedOrDerivedAccount (named : Option String) (owner asset tokenProgramId label : String) :
    Except String String :=
  match named with
  | none => library.findAssociatedTokenPda owner tokenProgramId asset
  | some account => assertSolanaAddress library account label

def planSolanaPayoutItem (item : PayoutItemRecord) (asset tokenProgramId : String) :
    Except String SolanaPayoutPlannedItem := do
  require (item.status = .allocated) s!"payout item {item.id} must be allocated"
  let destinationWallet ← assertSolanaAddress library item.destinationWallet
    s!"payout item {item.id} destinationWallet"
  let destinationTokenAccount ← namedOrDerivedAccount library item.destinationTokenAccount
    destinationWallet asset tokenProgramId s!"payout item {item.id} destinationTokenAccount"
  assertPositiveAtomicAmount item.amountAtomic s!"payout item {item.id} amountAtomic"
  pure ⟨item.id, destinationWallet, destinationTokenAccount, item.amountAtomic,
    item.destinationTokenAccount.isNone⟩

/-- The transfer of an item, after the creation of its account if that is to be created. -/
def createSolanaPayoutInstructions (item : SolanaPayoutPlannedItem) (asset fundingWallet
    sourceTokenAccount : String) (tokenDecimals : Nat) (tokenProgramId : String) :
    List SolanaPayoutInstructionPlan :=
  (if item.createAssociatedTokenAccount then
    [.createAssociatedTokenIdempotent ⟨ASSOCIATED_TOKEN_PROGRAM_ID, fundingWallet,
      item.destinationTokenAccount, item.destinationWallet, asset, tokenProgramId⟩] else []) ++
  [.transferChecked ⟨tokenProgramId, sourceTokenAccount, asset, item.destinationTokenAccount,
    fundingWallet, item.amountAtomic, tokenDecimals, item.payoutItemId⟩]

/-- `maxItemsPerTransaction`, or the number of all items. -/
def readMaxItemsPerTransaction (input : CreateSolanaPayoutTransactionPlanInput) :
    Except String Nat :=
  match input.maxItemsPerTransaction with
  | none => pure input.batch.items.length
  | some value => SolanaPlan.assertPositiveInteger value "maxItemsPerTransaction"

def createSolanaPayoutTransactionPlan (input : CreateSolanaPayoutTransactionPlanInput) :
    Except String SolanaPayoutTransactionPlan := do
  let tokenProgramId := input.tokenProgramId.getD SOLANA_TOKEN_PROGRAM_ID
  let _ ← assertSupportedTokenProgramId library tokenProgramId
  let tokenDecimals ← assertTokenDecimals input.tokenDecimals
  let fundingWallet ← assertSolanaAddress library input.fundingWallet "fundingWallet"
  let asset ← assertSolanaAddress library input.batch.asset "batch.asset"
  require (input.batch.network.startsWith "solana:")
    "payout batch network must be a Solana network"
  require (input.batch.status = .planned)
    "payout batch must be planned before transaction planning"
  let maxItemsPerTransaction ← readMaxItemsPerTransaction input
  require (0 < maxItemsPerTransaction) "payout batch must contain at least one item"
  let sourceTokenAccount ← namedOrDerivedAccount library input.sourceTokenAccount fundingWallet asset
    tokenProgramId "sourceTokenAccount"
  let plannedItems ← input.batch.items.mapM fun item =>
    planSolanaPayoutItem library item asset tokenProgramId
  let amounts ← plannedItems.mapM fun item => readBigInt item.amountAtomic
  let totalAmount := serializeAtomicAmount amounts.sum
  require (totalAmount = input.batch.totalAmountAtomic)
    "payout batch total does not match planned item total"
  let transactions := (chunkItems plannedItems maxItemsPerTransaction).zipIdx.map fun (items, index) =>
    (⟨index, items, items.flatMap fun item =>
      createSolanaPayoutInstructions item asset fundingWallet sourceTokenAccount tokenDecimals
        tokenProgramId⟩ : SolanaPayoutPlannedTransaction)
  pure
    { batchId := input.batch.id
      network := input.batch.network
      asset := asset
      tokenProgramId := tokenProgramId
      tokenDecimals := tokenDecimals
      fundingWallet := fundingWallet
      sourceTokenAccount := sourceTokenAccount
      totalAmountAtomic := totalAmount
      itemCount := plannedItems.length
      transactionCount := transactions.length
      transactions := transactions }

end Planning

end Split402

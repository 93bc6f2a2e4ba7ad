import Mathlib.Data.List.Sort
import Split402.Base.Sort
import Split402.Payouts.Checks

/-! # Signed transaction records

`createSignedPayoutTransactionRecords` checks the signed transactions of one call and makes
their records; `attachPayoutTransactionItemMappings` ties each record to the payout items of
the batch it pays. Both remember what they have seen so far in this call only. -/

namespace Split402

open Base (sortBy)

variable (host : Host)

def readAttempt (transaction : SaveSignedPayoutTransactionInput) : Int :=
  transaction.attempt.getD 1

def readSignedPayoutTransactionItem (payoutTransactionId : String)
    (item : SaveSignedPayoutTransactionItemInput) :
    Except PayoutError PayoutTransactionItemRecord := do
  let payoutItemId ← assertSplit402Id item.payoutItemId "payout transaction payoutItemId"
  let amount ←
    readPositiveAtomicAmount item.amountAtomic "payout transaction item amountAtomic"
  let destinationWallet ←
    assertNonEmptyString item.destinationWallet "payout transaction item destinationWallet"
  let destinationTokenAccount ← checkOptional item.destinationTokenAccount (fun account =>
    assertNonEmptyString account "payout transaction item destinationTokenAccount")
  pure ⟨payoutTransactionId, payoutItemId, toString amount, destinationWallet,
    destinationTokenAccount⟩

/-- What the loop of `createSignedPayoutTransactionRecords` has seen: the sequence and attempt
pairs, the expected signatures, and how many ids it has drawn. -/
structure SignedRecordsState where
  sequenceAttempts : List (Int × Int)
  expectedSignatures : List String
  draws : Nat

/-- `transaction.id ?? idFactory()`, and the number of ids drawn after it. -/
def transactionIdOrDrawn (env : CallEnv) (idFactory : Option (Nat → String))
    (id : Option String) (draws : Nat) : String × Nat :=
  match id, idFactory with
  | some id, _ => (id, draws)
  | none, some factory => (factory draws, draws + 1)
  | none, none => (createPayoutTransactionId env draws, draws + 1)

/-- One turn of the loop: the record of one signed transaction. -/
def createSignedPayoutTransactionRecord (env : CallEnv) (idFactory : Option (Nat → String))
    (payoutBatchId createdAt : String) (state : SignedRecordsState)
    (transaction : SaveSignedPayoutTransactionInput) :
    Except PayoutError (PayoutTransactionRecord × SignedRecordsState) := do
  let sequence ← assertNonNegativeInteger transaction.sequence "payout transaction sequence"
  let attempt ← assertPositiveInteger (readAttempt transaction) "payout transaction attempt"
  if (sequence, attempt) ∈ state.sequenceAttempts then
    throw (.batchValidation
      s!"duplicate payout transaction sequence and attempt: {sequence}:{attempt}")
  else
    let expectedSignature ← checkOptional transaction.expectedSignature (fun signature => do
      let signature ← assertNonEmptyString signature "payout transaction expectedSignature"
      if signature ∈ state.expectedSignatures then
        throw (.batchValidation "duplicate payout transaction expectedSignature")
      else pure signature)
    let (drawn, draws) := transactionIdOrDrawn env idFactory transaction.id state.draws
    let id ← assertSplit402Id drawn "payout transaction id"
    let recentBlockhash ← checkOptional transaction.recentBlockhash (fun blockhash =>
      assertNonEmptyString blockhash "payout transaction recentBlockhash")
    let lastValidBlockHeight ← checkOptional transaction.lastValidBlockHeight (fun height =>
      assertNonNegativeInteger height "payout transaction lastValidBlockHeight")
    let signedTransactionBase64 ← assertBase64String transaction.signedTransactionBase64
      "payout transaction signedTransactionBase64"
    let items ← (transaction.items.getD []).mapM (readSignedPayoutTransactionItem id)
    pure ({
      id := id
      payoutBatchId := payoutBatchId
      sequence := sequence
      attempt := attempt
      recentBlockhash := recentBlockhash
      lastValidBlockHeight := lastValidBlockHeight
      signedTransactionBase64 := some signedTransactionBase64
      expectedSignature := expectedSignature
      status := .signed
      submittedAt := none
      confirmedAt := none
      finalizedAt := none
      error := none
      createdAt := createdAt
      items := items },
      ⟨(sequence, attempt) :: state.sequenceAttempts,
        expectedSignature.toList ++ state.expectedSignatures, draws⟩)

/-- The loop over the sorted transactions. -/
def createSignedRecords (env : CallEnv) (idFactory : Option (Nat → String))
    (payoutBatchId createdAt : String) :
    SignedRecordsState → List SaveSignedPayoutTransactionInput →
      Except PayoutError (List PayoutTransactionRecord)
  | _, [] => pure []
  | state, transaction :: rest => do
      let (record, state) ← createSignedPayoutTransactionRecord env idFactory payoutBatchId
        createdAt state transaction
      let records ← createSignedRecords env idFactory payoutBatchId createdAt state rest
      pure (record :: records)

def createSignedPayoutTransactionRecords (env : CallEnv)
    (input : SaveSignedPayoutTransactionsInput) :
    Except PayoutError (List PayoutTransactionRecord) := do
  let payoutBatchId ← assertSplit402Id input.payoutBatchId "payoutBatchId"
  let createdAt ← normalizeTimestamp host (nowOrClock host env input.now) "now"
  if input.transactions = [] then
    throw (.batchValidation "signed payout transactions are required")
  else
    createSignedRecords env input.idFactory payoutBatchId createdAt ⟨[], [], 0⟩
      (sortBy (fun left right =>
        (compare left.sequence right.sequence).then
          (compare (readAttempt left) (readAttempt right))) input.transactions)

/-! ## Item mappings -/

/-- The mapping that pays a whole payout item. -/
def wholeItemMapping (payoutTransactionId : String) (item : PayoutItemRecord) :
    PayoutTransactionItemRecord :=
  ⟨payoutTransactionId, item.id, item.amountAtomic, item.destinationWallet,
    item.destinationTokenAccount⟩

/-- What the mapping loop has seen: the items of this transaction, and the sequence each item
of this call is mapped to. -/
structure MappingState where
  seenInTransaction : List String
  sequenceByPayoutItemId : List (String × Int)

/-- `new Map(batch.items.map((item) => [item.id, item])).get(id)`. -/
def batchItemById (batch : PayoutBatchRecord) (id : String) : Option PayoutItemRecord :=
  batch.items.reverse.find? (fun item => item.id = id)

/-- Check one mapping against its payout item. -/
def attachMapping (batch : PayoutBatchRecord) (transaction : PayoutTransactionRecord)
    (state : MappingState) (mapping : PayoutTransactionItemRecord) :
    Except PayoutError (PayoutTransactionItemRecord × MappingState) :=
  let payoutItemId := mapping.payoutItemId
  match batchItemById batch payoutItemId with
  | none =>
      throw (.batchValidation
        s!"payout transaction references unknown payout item: {payoutItemId}")
  | some payoutItem =>
      if payoutItemId ∈ state.seenInTransaction then
        throw (.batchValidation s!"duplicate payout item mapping: {payoutItemId}")
      else if (state.sequenceByPayoutItemId.lookup payoutItemId).any
          (· ≠ transaction.sequence) then
        throw (.batchValidation
          s!"payout item is mapped to multiple transaction sequences: {payoutItemId}")
      else if mapping.amountAtomic ≠ payoutItem.amountAtomic then
        throw (.batchValidation s!"payout transaction item amount mismatch: {payoutItemId}")
      else if mapping.destinationWallet ≠ payoutItem.destinationWallet then
        throw (.batchValidation
          s!"payout transaction item destination wallet mismatch: {payoutItemId}")
      else if mapping.destinationTokenAccount ≠ payoutItem.destinationTokenAccount then
        throw (.batchValidation
          s!"payout transaction item destination token account mismatch: {payoutItemId}")
      else
        pure ({ mapping with payoutTransactionId := transaction.id },
          ⟨payoutItemId :: state.seenInTransaction,
            (payoutItemId, transaction.sequence) :: state.sequenceByPayoutItemId⟩)

/-- The loop over the mappings of one transaction. -/
def attachMappings (batch : PayoutBatchRecord) (transaction : PayoutTransactionRecord) :
    MappingState → List PayoutTransactionItemRecord →
      Except PayoutError (List PayoutTransactionItemRecord × MappingState)
  | state, [] => pure ([], state)
  | state, mapping :: rest => do
      let (item, state) ← attachMapping batch transaction state mapping
      let (items, state) ← attachMappings batch transaction state rest
      pure (item :: items, state)

/-- The loop over the transactions. -/
def attachTransactions (batch : PayoutBatchRecord) (defaultAllItems : Bool) :
    List (String × Int) → List PayoutTransactionRecord →
      Except PayoutError (List PayoutTransactionRecord)
  | _, [] => pure []
  | sequenceByPayoutItemId, transaction :: rest => do
      let rawItems :=
        if defaultAllItems then batch.items.map (wholeItemMapping transaction.id)
        else transaction.items
      if rawItems = [] then
        throw (.batchValidation "payout transaction item mappings are required")
      else
        let (items, state) ←
          attachMappings batch transaction ⟨[], sequenceByPayoutItemId⟩ rawItems
        let transactions ←
          attachTransactions batch defaultAllItems state.sequenceByPayoutItemId rest
        pure ({ transaction with items := items } :: transactions)

def attachPayoutTransactionItemMappings (transactions : List PayoutTransactionRecord)
    (batch : PayoutBatchRecord) : Except PayoutError (List PayoutTransactionRecord) :=
  attachTransactions batch
    (match transactions with
      | [transaction] => transaction.items.isEmpty
      | _ => false)
    [] transactions

/-- The records one saving call makes for a batch. Both stores start with these lines. -/
def planSignedPayoutTransactions (env : CallEnv) (input : SaveSignedPayoutTransactionsInput)
    (batch : PayoutBatchRecord) : Except PayoutError (List PayoutTransactionRecord) := do
  let records ← createSignedPayoutTransactionRecords host env input
  attachPayoutTransactionItemMappings records batch

end Split402

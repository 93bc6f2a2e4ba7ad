import Split402.Base.Except
import Split402.Base.JsonString
import Split402.Payouts.TransferVerification

/-! # RPC answers

What a Solana RPC node answers is untyped JSON. The readers take the signature status and the
confirmed transaction out of it, field by field, and throw at what they cannot read. How the engine
represents a number is left open. -/

namespace Split402

open Base.JsonString (quote)
open Base.Utf16 (ofString toChars)

/-- What `response.json()` gives. An object has its own properties in their order, each name
once. -/
inductive RpcJson (ν : Type)
  | null
  | bool (b : Bool)
  | number (n : ν)
  | string (s : String)
  | array (items : List (RpcJson ν))
  | object (fields : List (String × RpcJson ν))

/-- `Number.isInteger(value)` with the integer, and `String(value)`. -/
structure RpcNumbers (ν : Type) where
  toInteger : ν → Option Int
  text : ν → String

abbrev RpcRecord (ν : Type) : Type := List (String × RpcJson ν)

variable {ν : Type} (numbers : RpcNumbers ν)

/-! ## Printing -/

mutual

/-- `JSON.stringify`. -/
def RpcJson.stringify : RpcJson ν → String
  | .null => "null"
  | .bool b => if b then "true" else "false"
  | .number n => numbers.text n
  | .string s => String.ofList (toChars (quote (ofString s)))
  | .array items => "[" ++ String.intercalate "," (stringifyItems items) ++ "]"
  | .object fields => "\x7b" ++ String.intercalate "," (stringifyFields fields) ++ "\x7d"

def RpcJson.stringifyItems : List (RpcJson ν) → List String
  | [] => []
  | item :: rest => item.stringify :: RpcJson.stringifyItems rest

def RpcJson.stringifyFields : RpcRecord ν → List String
  | [] => []
  | (name, value) :: rest =>
      (String.ofList (toChars (quote (ofString name))) ++ ":" ++ value.stringify) ::
        RpcJson.stringifyFields rest

end

/-- What a template prints of `JSON.stringify(value)`; `none` is `undefined`. -/
def stringifyOptional : Option (RpcJson ν) → String
  | none => "undefined"
  | some value => value.stringify numbers

/-! ## Readers -/

def readOptionalRecord : Option (RpcJson ν) → Option (RpcRecord ν)
  | some (.object fields) => some fields
  | _ => none

def readRecord (value : Option (RpcJson ν)) : Except String (RpcRecord ν) :=
  match readOptionalRecord value with
  | some record => pure record
  | none => throw "expected object"

def readArray (value : Option (RpcJson ν)) (label : String) : Except String (List (RpcJson ν)) :=
  match value with
  | some (.array items) => pure items
  | _ => throw s!"{label} must be an array"

def readOptionalArray (value : Option (RpcJson ν)) (label : String) :
    Except String (List (RpcJson ν)) :=
  match value with
  | none | some .null => pure []
  | value => readArray value label

def readInteger (value : Option (RpcJson ν)) (label : String) : Except String Int :=
  match value with
  | some (.number n) =>
      match numbers.toInteger n with
      | some integer => pure integer
      | none => throw s!"{label} must be an integer"
  | _ => throw s!"{label} must be an integer"

def readRequiredString (value : Option (RpcJson ν)) (label : String) : Except String String :=
  match value with
  | some (.string s) =>
      if s = "" then throw s!"{label} must be a non-empty string" else pure s
  | _ => throw s!"{label} must be a non-empty string"

def readOptionalString : Option (RpcJson ν) → Option String
  | some (.string s) => if s = "" then none else some s
  | _ => none

def readStringArray (value : Option (RpcJson ν)) (label : String) :
    Except String (List String) := do
  let items ← readArray value label
  items.mapM (fun item => readRequiredString (some item) label)

/-- The error a node answers with, printed. -/
def readRpcError (body : RpcJson ν) : Except String (Option String) := do
  let record ← readRecord (some body)
  pure ((record.lookup "error").map (RpcJson.stringify numbers))

/-- `result` of `getBlockHeight`, with its value. -/
def readBlockHeightResult (body : RpcJson ν) : Except String (ν × Int) := do
  let record ← readRecord (some body)
  match record.lookup "result" with
  | some (.number result) =>
      match numbers.toInteger result with
      | some height =>
          if height < 0 then
            throw "Solana RPC getBlockHeight result must be a non-negative integer"
          else pure (result, height)
      | none => throw "Solana RPC getBlockHeight result must be a non-negative integer"
  | _ => throw "Solana RPC getBlockHeight result must be a non-negative integer"

/-! ## Signature statuses -/

inductive SolanaSignatureConfirmationStatus
  | processed | confirmed | finalized
  deriving DecidableEq

inductive SolanaRpcCommitment
  | confirmed | finalized
  deriving DecidableEq

def SolanaRpcCommitment.text : SolanaRpcCommitment → String
  | .confirmed => "confirmed"
  | .finalized => "finalized"

/-- `err` is `none` when the status has no such field; `confirmations` may be `null`. -/
structure SolanaSignatureStatus (ν : Type) where
  err : Option (RpcJson ν)
  confirmationStatus : Option SolanaSignatureConfirmationStatus
  confirmations : Option (Option ν)

def readConfirmationStatus (value : String) : Except String SolanaSignatureConfirmationStatus :=
  if value = "processed" then pure .processed
  else if value = "confirmed" then pure .confirmed
  else if value = "finalized" then pure .finalized
  else throw s!"unsupported Solana confirmation status: {value}"

/-- The confirmation status of a status object: a field that is no string is as good as none. -/
def readOptionalConfirmationStatus :
    Option (RpcJson ν) → Except String (Option SolanaSignatureConfirmationStatus)
  | some (.string value) => do
      let status ← readConfirmationStatus value
      pure (some status)
  | _ => pure none

def readConfirmations : Option (RpcJson ν) → Option (Option ν)
  | some (.number n) => some (some n)
  | some .null => some none
  | _ => none

def readSignatureStatus (body : RpcJson ν) :
    Except String (Option (SolanaSignatureStatus ν)) := do
  let record ← readRecord (some body)
  let result ← readRecord (record.lookup "result")
  match result.lookup "value" with
  | some (.array value) =>
      match value.head? with
      | some .null => pure none
      | first => do
          let status ← readRecord first
          let confirmationStatus ←
            readOptionalConfirmationStatus (status.lookup "confirmationStatus")
          pure (some ⟨status.lookup "err", confirmationStatus,
            readConfirmations (status.lookup "confirmations")⟩)
  | _ => throw "Solana RPC getSignatureStatuses result.value must be an array"

def hasRequiredCommitment (status : SolanaSignatureStatus ν) (required : SolanaRpcCommitment) :
    Bool :=
  status.confirmationStatus == some .finalized ||
    (required == .confirmed && status.confirmationStatus == some .confirmed)

/-! ## Confirmed transactions -/

def readAccountKeys (value : Option (RpcJson ν)) : Except String (List String) := do
  let items ← readArray value "transaction.message.accountKeys"
  items.mapM (fun item =>
    match item with
    | .string key => pure key
    | item => do
        let record ← readRecord (some item)
        readRequiredString (record.lookup "pubkey") "accountKey.pubkey")

/-- `accountKeys[accountIndex]`. -/
def accountKeyAt (accountKeys : List String) (accountIndex : Int) : Option String :=
  if accountIndex < 0 then none else accountKeys[accountIndex.toNat]?

/-- One turn of the loop over the token balances. -/
def readTokenBalance (accountKeys : List String)
    (accounts : String → Option SolanaTokenAccountEvidence) (balance : RpcJson ν) :
    Except String (String → Option SolanaTokenAccountEvidence) := do
  let record ← readRecord (some balance)
  let accountIndex ← readInteger numbers (record.lookup "accountIndex") "tokenBalance.accountIndex"
  match accountKeyAt accountKeys accountIndex, readOptionalString (record.lookup "mint") with
  | some account, some mint =>
      let existing := accounts account
      let owner := (readOptionalString (record.lookup "owner")).or
        (existing.bind SolanaTokenAccountEvidence.owner)
      let programId := (readOptionalString (record.lookup "programId")).or
        (existing.bind SolanaTokenAccountEvidence.programId)
      pure (fun key => if key = account then some ⟨mint, owner, programId⟩ else accounts key)
  | _, _ => pure accounts

def readTokenAccountEvidence (metaRecord : RpcRecord ν) (accountKeys : List String) :
    Except String (String → Option SolanaTokenAccountEvidence) := do
  let preTokenBalances ← readOptionalArray (metaRecord.lookup "preTokenBalances")
    "transaction.meta.preTokenBalances"
  let postTokenBalances ← readOptionalArray (metaRecord.lookup "postTokenBalances")
    "transaction.meta.postTokenBalances"
  (preTokenBalances ++ postTokenBalances).foldlM (readTokenBalance numbers accountKeys)
    (fun _ => none)

def readTransfer (instruction : RpcJson ν) : Option SolanaTokenTransfer := do
  let record ← readOptionalRecord (some instruction)
  let parsed ← readOptionalRecord (record.lookup "parsed")
  let type ← readOptionalString (parsed.lookup "type")
  if type ≠ "transferChecked" then none
  else do
    let info ← readOptionalRecord (parsed.lookup "info")
    let tokenAmount := readOptionalRecord (info.lookup "tokenAmount")
    let amount ← (tokenAmount.bind (fun record => readOptionalString (record.lookup "amount"))).or
      (readOptionalString (info.lookup "amount"))
    let programId ← readOptionalString (record.lookup "programId")
    let mint ← readOptionalString (info.lookup "mint")
    let destination ← readOptionalString (info.lookup "destination")
    let authority ← (readOptionalString (info.lookup "authority")).or
      (readOptionalString (info.lookup "owner"))
    let transfer : SolanaTokenTransfer :=
      { programId := some programId
        source := readOptionalString (info.lookup "source")
        mint := mint
        destination := destination
        authority := authority
        amount := amount }
    (if (parseAtomicAmount amount).isNone ∨ programId ∉ TOKEN_PROGRAM_IDS then none
      else some transfer)

def readTransfers (instructions : List (RpcJson ν)) : List SolanaTokenTransfer :=
  instructions.filterMap readTransfer

def readInnerTransfers (groups : List (RpcJson ν)) : Except String (List SolanaTokenTransfer) := do
  let transfers ← groups.mapM (fun group => do
    let record ← readRecord (some group)
    let instructions ← readOptionalArray (record.lookup "instructions")
      "innerInstructions.instructions"
    pure (readTransfers instructions))
  pure transfers.flatten

/-- What `metaErr` is printed as when it is not `null`. -/
def printMetaErr : Option (RpcJson ν) → Option String
  | some .null => none
  | err => some (stringifyOptional numbers err)

def readConfirmedTransaction (body : RpcJson ν) :
    Except String (Option SolanaConfirmedTransaction) := do
  let record ← readRecord (some body)
  match record.lookup "result" with
  | some .null => pure none
  | result => do
      let transactionResult ← readRecord result
      let metaRecord ← readRecord (transactionResult.lookup "meta")
      let transaction ← readRecord (transactionResult.lookup "transaction")
      let message ← readRecord (transaction.lookup "message")
      let accountKeys ← readAccountKeys (message.lookup "accountKeys")
      let topLevelInstructions ← readArray (message.lookup "instructions")
        "transaction.message.instructions"
      let innerInstructionGroups ← readOptionalArray (metaRecord.lookup "innerInstructions")
        "transaction.meta.innerInstructions"
      let signatures ← readStringArray (transaction.lookup "signatures") "transaction.signatures"
      let tokenAccounts ← readTokenAccountEvidence numbers metaRecord accountKeys
      let innerTransfers ← readInnerTransfers innerInstructionGroups
      pure (some ⟨signatures, printMetaErr numbers (metaRecord.lookup "err"), tokenAccounts,
        readTransfers topLevelInstructions ++ innerTransfers⟩)

/-! ## Requests -/

/-- What a node is asked; `id` is the id of the request. -/
inductive RpcRequest
  | getSignatureStatuses (id signature : String)
  | getBlockHeight (id : String)
  | getTransaction (id signature : String) (commitment : SolanaRpcCommitment)
  deriving DecidableEq

/-- How a request goes: it throws, the status of the response is no success, its body is no JSON,
or it has a body. -/
inductive RpcAnswer (ν : Type)
  | throws (message : String)
  | httpStatus (status : Nat)
  | invalid (message : String)
  | body (body : RpcJson ν)

/-- `SolanaRpcFetch`, by the URL. -/
abbrev SolanaRpcFetch (ν : Type) : Type := String → RpcRequest → RpcAnswer ν

/-- What a reader makes of an answer, or the error that is retried. -/
def readAnswer {α : Type} (read : RpcJson ν → Except String α) : RpcAnswer ν → Except String α
  | .throws message => throw ("Solana RPC request failed: " ++ message)
  | .httpStatus status => throw s!"Solana RPC returned HTTP {status}"
  | .invalid message => throw ("Solana RPC response was invalid: " ++ message)
  | .body body =>
      match readRpcError numbers body with
      | .error message => throw ("Solana RPC response was invalid: " ++ message)
      | .ok (some rpcError) => throw ("Solana RPC returned error: " ++ rpcError)
      | .ok none =>
          match read body with
          | .error message => throw ("Solana RPC response was invalid: " ++ message)
          | .ok value => pure value

end Split402

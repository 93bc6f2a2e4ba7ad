import Split402.Solana.PayoutSigner
import Split402.Solana.Rpc

/-! # The remote signer

The delegate of a remote signer writes down a transaction with its plan and its policy and sends them
to an appliance that holds the key. The appliance reads the request, checks it against its own
configuration and the bytes against the plan, and signs. A request carries the keyed hash of its text.

Both sides speak JSON. What one side writes the other parses to the value it is the text of, so a
body is that value. -/

namespace Split402

variable {ν : Type}

/-! ## Trimmed strings -/

/-- A string that is not blank and has no white space around it. -/
def Trimmed (s : String) : Prop := isBlank s = false ∧ jsTrim s = s

instance (s : String) : Decidable (Trimmed s) :=
  inferInstanceAs (Decidable (isBlank s = false ∧ jsTrim s = s))

theorem dropWhile_eq_self {α : Type} {p : α → Bool} {x : α} {xs : List α} (h : p x = false) :
    (x :: xs).dropWhile p = x :: xs := by
  rw [List.dropWhile_cons, h, if_neg Bool.false_ne_true]

/-- What is left after trimming has nothing to trim. -/
theorem trimmed_jsTrim {s : String} (h : isBlank s = false) : Trimmed (jsTrim s) := by
  obtain ⟨c, hc, hblank⟩ := List.all_eq_false.mp h
  -- the string from its first character that is no white space
  obtain ⟨x, xs, hfront⟩ := List.exists_cons_of_ne_nil
    (List.dropWhile_eq_nil_iff.not.mpr fun hall => hblank (hall c hc))
  have hx : isJsWhitespace x = false := by
    have := List.head?_dropWhile_not isJsWhitespace s.toList
    rw [hfront] at this
    simpa using this
  -- and up to its last one
  obtain ⟨y, ys, hback⟩ := List.exists_cons_of_ne_nil
    (@List.dropWhile_eq_nil_iff _ isJsWhitespace (x :: xs).reverse |>.not.mpr fun hall => by
      rw [hall x (List.mem_reverse.mpr List.mem_cons_self)] at hx
      cases hx)
  have hy : isJsWhitespace y = false := by
    have := List.head?_dropWhile_not isJsWhitespace (x :: xs).reverse
    rw [hback] at this
    simpa using this
  have htrim : jsTrim s = String.ofList (y :: ys).reverse := by
    rw [jsTrim, hfront, hback]
  have hhead : ∃ zs, (y :: ys).reverse = x :: zs := by
    have hsplit := List.takeWhile_append_dropWhile (p := isJsWhitespace) (l := (x :: xs).reverse)
    rw [hback] at hsplit
    have hxs := congrArg List.reverse hsplit
    rw [List.reverse_append, List.reverse_reverse] at hxs
    cases hrev : (y :: ys).reverse with
    | nil => simp at hrev
    | cons z zs =>
        rw [hrev, List.cons_append, List.cons.injEq] at hxs
        exact ⟨zs, by rw [hxs.1]⟩
  obtain ⟨zs, hzs⟩ := hhead
  rw [htrim]
  constructor
  · rw [isBlank, String.toList_ofList, hzs, List.all_cons, hx, Bool.false_and]
  · rw [jsTrim, String.toList_ofList, hzs, dropWhile_eq_self hx, ← hzs, List.reverse_reverse,
      dropWhile_eq_self hy]

abbrev TrimmedString : Type := { s : String // Trimmed s }

/-! ## The request -/

/-- A planned transaction as it is on the wire: its index is a number of the engine. -/
structure RemotePlannedTransaction (ν : Type) where
  index : ν
  items : List SolanaPayoutPlannedItem
  instructions : List SolanaPayoutInstructionPlan

structure RemotePayoutSignRequest (ν : Type) where
  batchId : String
  network : String
  signerReference : String
  destinationAmountListHash : String
  transactionIndex : ν
  amountAtomic : String
  transactionBase64 : String
  plannedTransaction : RemotePlannedTransaction ν
  policy : SolanaPayoutSignerPolicy

/-- The headers of a request that the appliance reads. -/
structure RemoteSignerHeaders where
  signerKeyId : Option String
  signatureTimestamp : Option String
  signature : Option String

structure RemoteSignerRequest (ν : Type) where
  headers : RemoteSignerHeaders
  body : RpcJson ν

/-- An answer over HTTP; `none` is a body that is no JSON. -/
structure RemoteSignerResponse (ν : Type) where
  status : Nat
  body : Option (RpcJson ν)

def REMOTE_PAYOUT_SIGN_REQUEST_SCHEMA : String := "split402.solana.remote_payout_sign_request.v1"

/-- An object as `JSON.stringify` has it: without what is `undefined`. -/
def RpcJson.record (fields : List (String × Option (RpcJson ν))) : RpcJson ν :=
  .object (fields.filterMap fun field => field.2.map fun value => (field.1, value))

namespace RemoteSigner

section Writing

variable (runtime : Runtime ν)

def plannedItemJson (item : SolanaPayoutPlannedItem) : RpcJson ν :=
  .record [("payoutItemId", some (.string item.payoutItemId)),
    ("destinationWallet", some (.string item.destinationWallet)),
    ("destinationTokenAccount", some (.string item.destinationTokenAccount)),
    ("amountAtomic", some (.string item.amountAtomic)),
    ("createAssociatedTokenAccount", some (.bool item.createAssociatedTokenAccount))]

def instructionJson : SolanaPayoutInstructionPlan → RpcJson ν
  | .createAssociatedTokenIdempotent plan =>
      .record [("kind", some (.string "createAssociatedTokenIdempotent")),
        ("programId", some (.string plan.programId)),
        ("payer", some (.string plan.payer)),
        ("associatedTokenAccount", some (.string plan.associatedTokenAccount)),
        ("owner", some (.string plan.owner)),
        ("mint", some (.string plan.mint)),
        ("tokenProgramId", some (.string plan.tokenProgramId))]
  | .transferChecked plan =>
      .record [("kind", some (.string "transferChecked")),
        ("programId", some (.string plan.programId)),
        ("source", some (.string plan.source)),
        ("mint", some (.string plan.mint)),
        ("destination", some (.string plan.destination)),
        ("authority", some (.string plan.authority)),
        ("amountAtomic", some (.string plan.amountAtomic)),
        ("decimals", some (.number (runtime.ofNat plan.decimals))),
        ("payoutItemId", some (.string plan.payoutItemId))]

def plannedTransactionJson (transaction : RemotePlannedTransaction ν) : RpcJson ν :=
  .record [("index", some (.number transaction.index)),
    ("items", some (.array (transaction.items.map plannedItemJson))),
    ("instructions", some (.array (transaction.instructions.map (instructionJson runtime))))]

def policyFields (policy : SolanaPayoutSignerPolicy) : List (String × Option (RpcJson ν)) :=
  [("network", some (.string policy.network)),
    ("signerReference", some (.string policy.signerReference)),
    ("fundingWallet", some (.string policy.fundingWallet)),
    ("sourceTokenAccount", some (.string policy.sourceTokenAccount)),
    ("mint", some (.string policy.mint)),
    ("allowedTokenProgramIds", policy.allowedTokenProgramIds.map fun ids =>
      .array (ids.map RpcJson.string)),
    ("maxTransactionAmountAtomic", policy.maxTransactionAmountAtomic.map RpcJson.string),
    ("maxBatchAmountAtomic", policy.maxBatchAmountAtomic.map RpcJson.string),
    ("requireSuccessfulSimulation", policy.requireSuccessfulSimulation.map RpcJson.bool),
    ("expectedDestinationAmountListHash",
      policy.expectedDestinationAmountListHash.map RpcJson.string)]

def policyJson (policy : SolanaPayoutSignerPolicy) : RpcJson ν := .record (policyFields policy)

def requestJson (request : RemotePayoutSignRequest ν) : RpcJson ν :=
  .record [("schema", some (.string REMOTE_PAYOUT_SIGN_REQUEST_SCHEMA)),
    ("batchId", some (.string request.batchId)),
    ("network", some (.string request.network)),
    ("signerReference", some (.string request.signerReference)),
    ("destinationAmountListHash", some (.string request.destinationAmountListHash)),
    ("transactionIndex", some (.number request.transactionIndex)),
    ("amountAtomic", some (.string request.amountAtomic)),
    ("transactionBase64", some (.string request.transactionBase64)),
    ("plannedTransaction", some (plannedTransactionJson runtime request.plannedTransaction)),
    ("policy", some (policyJson request.policy))]

end Writing

/-! ## The delegate -/

structure Options where
  signerReference : String
  keyId : Option String
  sharedSecret : Option String
  clock : Int

/-- `createRequestSignature`, which both sides have: `hmac` is the lowercase hexadecimal HMAC-SHA-256
of a text under a secret. -/
def createRequestSignature (hmac : String → String → String) (timestamp body sharedSecret : String) :
    String :=
  "v1=" ++ hmac sharedSecret (timestamp ++ "." ++ body)

section Sending

variable (runtime : Runtime ν) (numbers : RpcNumbers ν) (host : Host)
  (hmac : String → String → String)

def headersOf (options : Options) (body : RpcJson ν) : RemoteSignerHeaders where
  signerKeyId := options.keyId
  signatureTimestamp := options.sharedSecret.map fun _ => host.toISOString options.clock
  signature := options.sharedSecret.map fun sharedSecret =>
    createRequestSignature hmac (host.toISOString options.clock) (body.stringify numbers) sharedSecret

def readOptionalInteger (value : Option (RpcJson ν)) (label : String) : Except String (Option Int) :=
  match value with
  | none | some .null => pure none
  | value => some <$> readInteger numbers value label

/-- The optional signature that the appliance sends along. -/
def readExpectedSignature (value : Option (RpcJson ν)) : Except String (Option String) :=
  match value with
  | none => pure none
  | value => some <$> readRequiredString value "expectedSignature"

def readRemoteSignerResponse (body : RpcJson ν) (transactionIndex : Nat) :
    Except String SolanaPayoutTransactionSigningDelegateResult := do
  let record ← readRecord (some body)
  let responseIndex ← readOptionalInteger numbers (record.lookup "transactionIndex")
    "transactionIndex"
  require (responseIndex.all (· = (transactionIndex : Int)))
    "remote payout signer returned mismatched transactionIndex"
  let signed ← readRequiredString (record.lookup "signedTransactionBase64") "signedTransactionBase64"
  let signedTransactionBase64 ← assertBase64Transaction signed "signedTransactionBase64"
  let expectedSignature ← readExpectedSignature (record.lookup "expectedSignature")
  pure ⟨signedTransactionBase64, expectedSignature⟩

/-- `fetch` answers, or fails with a message. -/
def fetchRemoteSigner (fetch : RemoteSignerRequest ν → Except String (RemoteSignerResponse ν))
    (request : RemoteSignerRequest ν) : Except String (RpcJson ν) :=
  match fetch request with
  | .error message => throw s!"remote payout signer request failed: {message}"
  | .ok response =>
      if 200 ≤ response.status ∧ response.status < 300 then
        match response.body with
        | some body => pure body
        | none => throw "remote payout signer response was invalid JSON"
      else
        throw ("remote payout signer request failed: remote payout signer returned HTTP " ++
          toString response.status)

def payload (policy : SolanaPayoutSignerPolicy) (input : SolanaPayoutTransactionSigningDelegateInput) :
    RemotePayoutSignRequest ν where
  batchId := input.batchId
  network := input.network
  signerReference := input.signerReference
  destinationAmountListHash := input.destinationAmountListHash
  transactionIndex := runtime.ofNat input.plannedTransaction.index
  amountAtomic := input.amountAtomic
  transactionBase64 := input.transactionBase64
  plannedTransaction := ⟨runtime.ofNat input.plannedTransaction.index,
    input.plannedTransaction.items, input.plannedTransaction.instructions⟩
  policy := policy

/-- What the delegate sends. -/
def requestOf (policy : SolanaPayoutSignerPolicy) (options : Options)
    (input : SolanaPayoutTransactionSigningDelegateInput) : RemoteSignerRequest ν :=
  let body := requestJson runtime (payload runtime policy input)
  ⟨headersOf numbers host hmac options body, body⟩

def createRemoteSolanaPayoutSigningDelegate (library : SolanaLibrary)
    (policy : SolanaPayoutSignerPolicy) (options : Options)
    (fetch : RemoteSignerRequest ν → Except String (RemoteSignerResponse ν)) :
    SolanaPayoutTransactionSigningDelegate :=
  guardedDelegate library policy options.signerReference "remote" fun input => do
    let body ← fetchRemoteSigner fetch (requestOf runtime numbers host hmac policy options input)
    readRemoteSignerResponse numbers body input.plannedTransaction.index

end Sending

end RemoteSigner

/-! ## The appliance -/

inductive PayoutSignerAuthKeyStatus
  | active | retired
  deriving DecidableEq, Repr

structure PayoutSignerAuthKeyInput where
  keyId : String
  sharedSecret : String
  status : Option PayoutSignerAuthKeyStatus

structure PayoutSignerConfigInput where
  signerReference : String
  network : String
  expectedFundingWallet : String
  sharedSecret : Option String
  sharedSecretKeyId : Option String
  authKeys : Option (List PayoutSignerAuthKeyInput)
  signatureToleranceSeconds : Option JsNumber

structure PayoutSignerAuthKey where
  keyId : TrimmedString
  sharedSecret : TrimmedString
  status : PayoutSignerAuthKeyStatus

/-- Keys with different ids, one of them active. -/
structure AuthKeys where
  keys : List PayoutSignerAuthKey
  keyIds : (keys.map (·.keyId)).Nodup
  active : ∃ key ∈ keys, key.status = .active

/-- A normalized configuration. -/
structure PayoutSignerConfig where
  signerReference : TrimmedString
  network : TrimmedString
  expectedFundingWallet : TrimmedString
  authKeys : AuthKeys
  signatureToleranceSeconds : Nat

/-- The errors of the appliance, each with its message; `other` is an error of another class. -/
inductive SignerError
  | unauthorized (message : String)
  | forbidden (message : String)
  | invalidRequest (message : String)
  | other (message : String)
  deriving DecidableEq, Repr

namespace PayoutSignerApp

/-! ### Configuration -/

def assertNonEmptyString (value label : String) : Except String TrimmedString :=
  if h : isBlank value = false then pure ⟨jsTrim value, trimmed_jsTrim h⟩
  else throw s!"{label} must be a non-empty string"

def assertSolanaNetwork (value : String) : Except String TrimmedString := do
  let network ← assertNonEmptyString value "network"
  require (network.val.startsWith "solana:") "network must start with solana:"
  pure network

def normalizeAuthKey (key : PayoutSignerAuthKeyInput) : Except String PayoutSignerAuthKey := do
  let keyId ← assertNonEmptyString key.keyId "authKey.keyId"
  let sharedSecret ← assertNonEmptyString key.sharedSecret s!"authKey {key.keyId} sharedSecret"
  pure ⟨keyId, sharedSecret, key.status.getD .active⟩

/-- The keys of the options, and the shared secret as one more. -/
def authKeyInputs (config : PayoutSignerConfigInput) : List PayoutSignerAuthKeyInput :=
  config.authKeys.getD [] ++
    (config.sharedSecret.map fun sharedSecret =>
      (⟨config.sharedSecretKeyId.getD "default", sharedSecret, some .active⟩ :
        PayoutSignerAuthKeyInput)).toList

/-- The first key whose id an earlier one has. -/
def firstDuplicate (seen : List String) : List PayoutSignerAuthKey → Option PayoutSignerAuthKey
  | [] => none
  | key :: rest =>
      if key.keyId.val ∈ seen then some key else firstDuplicate (key.keyId.val :: seen) rest

def normalizeAuthKeys (config : PayoutSignerConfigInput) : Except String AuthKeys := do
  let keys ← (authKeyInputs config).mapM normalizeAuthKey
  require (!keys.isEmpty) "payout signer service requires at least one auth key"
  if keyIds : (keys.map (·.keyId)).Nodup then
    if active : ∃ key ∈ keys, key.status = .active then pure ⟨keys, keyIds, active⟩
    else throw "payout signer service requires at least one active auth key"
  else
    throw ("duplicate payout signer auth key id: " ++
      ((firstDuplicate [] keys).map (·.keyId.val)).getD "")

def normalizePayoutSignerConfig (config : PayoutSignerConfigInput) :
    Except String PayoutSignerConfig := do
  let signerReference ← assertNonEmptyString config.signerReference "signerReference"
  let network ← assertSolanaNetwork config.network
  let expectedFundingWallet ← assertNonEmptyString config.expectedFundingWallet
    "expectedFundingWallet"
  let authKeys ← normalizeAuthKeys config
  let signatureToleranceSeconds ← SolanaPlan.assertPositiveInteger
    (config.signatureToleranceSeconds.getD (.finite 300)) "signatureToleranceSeconds"
  pure ⟨signerReference, network, expectedFundingWallet, authKeys, signatureToleranceSeconds⟩

/-- The error unless the condition holds. -/
def ensure (condition : Bool) (error : SignerError) : Except SignerError Unit :=
  if condition then pure () else throw error

/-- What a function of the control plane throws is an `Error`. -/
def ofControlPlane {α : Type} : Except String α → Except SignerError α
  | .ok a => .ok a
  | .error message => .error (.other message)

/-! ### Readers -/

def readRecord (value : Option (RpcJson ν)) : Except SignerError (RpcRecord ν) :=
  match value with
  | some (.object fields) => pure fields
  | _ => throw (.invalidRequest "request body must be an object")

def readArray (value : Option (RpcJson ν)) (label : String) : Except SignerError (List (RpcJson ν)) :=
  match value with
  | some (.array items) => pure items
  | _ => throw (.invalidRequest s!"{label} must be an array")

/-- A string that is not blank, trimmed. -/
def readRequiredString (value : Option (RpcJson ν)) (label : String) : Except SignerError String :=
  match value with
  | some (.string s) =>
      if isBlank s then throw (.invalidRequest s!"{label} must be a non-empty string")
      else pure (jsTrim s)
  | _ => throw (.invalidRequest s!"{label} must be a non-empty string")

def readBoolean (value : Option (RpcJson ν)) (label : String) : Except SignerError Bool :=
  match value with
  | some (.bool b) => pure b
  | _ => throw (.invalidRequest s!"{label} must be a boolean")

/-- `/^(0|[1-9][0-9]*)$/`. -/
def readAtomicAmount (value : Option (RpcJson ν)) (label : String) : Except SignerError String := do
  let amount ← readRequiredString value label
  ensure (decimalAmountRegex amount) (.invalidRequest s!"{label} must be atomic")
  pure amount

def readHash (value : Option (RpcJson ν)) (label : String) : Except SignerError String := do
  let hash ← readRequiredString value label
  ensure (sha256Regex hash) (.invalidRequest s!"{label} must be a sha256 hash")
  pure hash

/-- The character of a sextet. -/
def base64Char (sextet : Nat) : Char :=
  ("ABCDEFGHIJKLMNOPQRSTUVWXYZabcdefghijklmnopqrstuvwxyz0123456789+/".toList)[sextet]?.getD '='

/-- `bytes.toString("base64")`. -/
def base64Text (bytes : List UInt8) : String :=
  let chars := (Base.Base64.encode (bytes.map UInt8.toNat)).map base64Char
  String.ofList (padEnd chars (chars.length + (4 - chars.length % 4) % 4))

def readBase64String (value : Option (RpcJson ν)) (label : String) : Except SignerError String := do
  let raw ← readRequiredString value label
  let bytes := bufferFromBase64 raw.toList
  ensure (!bytes.isEmpty && base64Text bytes == raw) (.invalidRequest s!"{label} must be base64")
  pure raw

section Numbers

variable (numbers : RpcNumbers ν)

/-- A number that is an integer. -/
def readInteger (value : Option (RpcJson ν)) (label : String) : Except SignerError ν :=
  match value with
  | some (.number n) =>
      if (numbers.toInteger n).isSome then pure n
      else throw (.invalidRequest s!"{label} must be an integer")
  | _ => throw (.invalidRequest s!"{label} must be an integer")

def readNonNegativeInteger (value : Option (RpcJson ν)) (label : String) :
    Except SignerError Nat := do
  let integer ← readInteger numbers value label
  match (numbers.toInteger integer).filter (0 ≤ ·) with
  | some n => pure n.toNat
  | none => throw (.invalidRequest s!"{label} must be non-negative")

def readPlannedItem (value : RpcJson ν) : Except SignerError SolanaPayoutPlannedItem := do
  let record ← readRecord (some value)
  let payoutItemId ← readRequiredString (record.lookup "payoutItemId") "payoutItemId"
  let destinationWallet ← readRequiredString (record.lookup "destinationWallet") "destinationWallet"
  let destinationTokenAccount ← readRequiredString (record.lookup "destinationTokenAccount")
    "destinationTokenAccount"
  let amountAtomic ← readAtomicAmount (record.lookup "amountAtomic") "amountAtomic"
  let createAssociatedTokenAccount ← readBoolean (record.lookup "createAssociatedTokenAccount")
    "createAssociatedTokenAccount"
  pure ⟨payoutItemId, destinationWallet, destinationTokenAccount, amountAtomic,
    createAssociatedTokenAccount⟩

def readTransferChecked (record : RpcRecord ν) : Except SignerError SolanaPayoutInstructionPlan := do
  let programId ← readRequiredString (record.lookup "programId") "programId"
  let source ← readRequiredString (record.lookup "source") "source"
  let mint ← readRequiredString (record.lookup "mint") "mint"
  let destination ← readRequiredString (record.lookup "destination") "destination"
  let authority ← readRequiredString (record.lookup "authority") "authority"
  let amountAtomic ← readAtomicAmount (record.lookup "amountAtomic") "amountAtomic"
  let decimals ← readNonNegativeInteger numbers (record.lookup "decimals") "decimals"
  let payoutItemId ← readRequiredString (record.lookup "payoutItemId") "payoutItemId"
  pure (.transferChecked ⟨programId, source, mint, destination, authority, amountAtomic, decimals,
    payoutItemId⟩)

def readCreateAssociatedToken (record : RpcRecord ν) :
    Except SignerError SolanaPayoutInstructionPlan := do
  let programId ← readRequiredString (record.lookup "programId") "programId"
  let payer ← readRequiredString (record.lookup "payer") "payer"
  let associatedTokenAccount ← readRequiredString (record.lookup "associatedTokenAccount")
    "associatedTokenAccount"
  let owner ← readRequiredString (record.lookup "owner") "owner"
  let mint ← readRequiredString (record.lookup "mint") "mint"
  let tokenProgramId ← readRequiredString (record.lookup "tokenProgramId") "tokenProgramId"
  pure (.createAssociatedTokenIdempotent ⟨programId, payer, associatedTokenAccount, owner, mint,
    tokenProgramId⟩)

def readInstructionOfKind (record : RpcRecord ν) (kind : String) :
    Except SignerError SolanaPayoutInstructionPlan :=
  if kind = "transferChecked" then readTransferChecked numbers record
  else if kind = "createAssociatedTokenIdempotent" then readCreateAssociatedToken record
  else throw (.invalidRequest "unsupported instruction kind")

def readInstruction (value : RpcJson ν) : Except SignerError SolanaPayoutInstructionPlan := do
  let record ← readRecord (some value)
  let kind ← readRequiredString (record.lookup "kind") "instruction.kind"
  readInstructionOfKind numbers record kind

def readPlannedTransaction (value : Option (RpcJson ν)) :
    Except SignerError (RemotePlannedTransaction ν) := do
  let record ← readRecord value
  let index ← readInteger numbers (record.lookup "index") "plannedTransaction.index"
  let items ← readArray (record.lookup "items") "plannedTransaction.items"
  let items ← items.mapM readPlannedItem
  let instructions ← readArray (record.lookup "instructions") "plannedTransaction.instructions"
  let instructions ← instructions.mapM (readInstruction numbers)
  pure ⟨index, items, instructions⟩

/-- A field that may be absent. -/
def readOptional {α : Type} (value : Option (RpcJson ν))
    (read : Option (RpcJson ν) → Except SignerError α) : Except SignerError (Option α) :=
  match value with
  | none => pure none
  | value => some <$> read value

def readTokenProgramIds (value : Option (RpcJson ν)) : Except SignerError (List String) := do
  let ids ← readArray value "policy.allowedTokenProgramIds"
  ids.mapM fun id => readRequiredString (some id) "allowedTokenProgramId"

def readSignerPolicy (value : Option (RpcJson ν)) : Except SignerError SolanaPayoutSignerPolicy := do
  let record ← readRecord value
  let network ← readRequiredString (record.lookup "network") "policy.network"
  let signerReference ← readRequiredString (record.lookup "signerReference") "policy.signerReference"
  let fundingWallet ← readRequiredString (record.lookup "fundingWallet") "policy.fundingWallet"
  let sourceTokenAccount ← readRequiredString (record.lookup "sourceTokenAccount")
    "policy.sourceTokenAccount"
  let mint ← readRequiredString (record.lookup "mint") "policy.mint"
  let allowedTokenProgramIds ← readOptional (record.lookup "allowedTokenProgramIds")
    readTokenProgramIds
  let maxTransactionAmountAtomic ← readOptional (record.lookup "maxTransactionAmountAtomic")
    (readAtomicAmount · "policy.maxTransactionAmountAtomic")
  let maxBatchAmountAtomic ← readOptional (record.lookup "maxBatchAmountAtomic")
    (readAtomicAmount · "policy.maxBatchAmountAtomic")
  let requireSuccessfulSimulation ← readOptional (record.lookup "requireSuccessfulSimulation")
    (readBoolean · "policy.requireSuccessfulSimulation")
  let expectedDestinationAmountListHash ← readOptional
    (record.lookup "expectedDestinationAmountListHash")
    (readHash · "policy.expectedDestinationAmountListHash")
  pure ⟨network, signerReference, fundingWallet, sourceTokenAccount, mint, allowedTokenProgramIds,
    maxTransactionAmountAtomic, maxBatchAmountAtomic, requireSuccessfulSimulation,
    expectedDestinationAmountListHash⟩

def readRemotePayoutSignRequest (value : RpcJson ν) :
    Except SignerError (RemotePayoutSignRequest ν) := do
  let record ← readRecord (some value)
  let schema ← readRequiredString (record.lookup "schema") "schema"
  ensure (schema = REMOTE_PAYOUT_SIGN_REQUEST_SCHEMA) (.invalidRequest "unsupported schema")
  let batchId ← readRequiredString (record.lookup "batchId") "batchId"
  let network ← readRequiredString (record.lookup "network") "network"
  let signerReference ← readRequiredString (record.lookup "signerReference") "signerReference"
  let destinationAmountListHash ← readHash (record.lookup "destinationAmountListHash")
    "destinationAmountListHash"
  let transactionIndex ← readInteger numbers (record.lookup "transactionIndex") "transactionIndex"
  let amountAtomic ← readAtomicAmount (record.lookup "amountAtomic") "amountAtomic"
  let transactionBase64 ← readBase64String (record.lookup "transactionBase64") "transactionBase64"
  let plannedTransaction ← readPlannedTransaction numbers (record.lookup "plannedTransaction")
  let policy ← readSignerPolicy (record.lookup "policy")
  pure ⟨batchId, network, signerReference, destinationAmountListHash, transactionIndex, amountAtomic,
    transactionBase64, plannedTransaction, policy⟩

end Numbers

/-! ### Authentication -/

def readHeader (value : Option String) (name : String) : Except SignerError String :=
  match value.filter fun value => !isBlank value with
  | some value => pure (jsTrim value)
  | none => throw (.unauthorized s!"{name} header is required")

def readOptionalHeader (value : Option String) : Option String :=
  (value.filter fun value => !isBlank value).map jsTrim

def assertActive : Option PayoutSignerAuthKey → Except SignerError PayoutSignerAuthKey
  | some key =>
      if key.status = .active then pure key else throw (.unauthorized "auth key is not active")
  | none => throw (.unauthorized "auth key is not active")

def selectAuthKey (headers : RemoteSignerHeaders) (authKeys : List PayoutSignerAuthKey) :
    Except SignerError PayoutSignerAuthKey :=
  match readOptionalHeader headers.signerKeyId with
  | some keyId => assertActive (authKeys.find? (·.keyId.val = keyId))
  | none =>
      if authKeys.length ≠ 1 then
        throw (.unauthorized "x-split402-signer-key-id header is required")
      else assertActive authKeys[0]?

def assertFreshSignatureTimestamp (host : Host) (config : PayoutSignerConfig) (now : Int)
    (timestamp : String) : Except SignerError Unit :=
  match host.dateParse timestamp with
  | none =>
      throw (.unauthorized "x-split402-signature-timestamp must be an ISO timestamp")
  | some observedAt =>
      ensure ((now - observedAt).natAbs ≤ config.signatureToleranceSeconds * 1000)
        (.unauthorized "request signature timestamp is outside tolerance")

def assertRequestSignature (host : Host) (hmac : String → String → String)
    (config : PayoutSignerConfig) (now : Int) (headers : RemoteSignerHeaders) (body : String) :
    Except SignerError PayoutSignerAuthKey := do
  let timestamp ← readHeader headers.signatureTimestamp "x-split402-signature-timestamp"
  let signature ← readHeader headers.signature "x-split402-signature"
  assertFreshSignatureTimestamp host config now timestamp
  let authKey ← selectAuthKey headers config.authKeys.keys
  ensure (signature = RemoteSigner.createRequestSignature hmac timestamp body authKey.sharedSecret.val)
    (.unauthorized "invalid request signature")
  pure authKey

/-! ### The request against the configuration -/

def transferOf : SolanaPayoutInstructionPlan → Option SolanaTransferCheckedInstructionPlan
  | .transferChecked plan => some plan
  | .createAssociatedTokenIdempotent _ => none

def readSingleTransfer (instructions : List SolanaPayoutInstructionPlan) :
    Except SignerError SolanaTransferCheckedInstructionPlan :=
  match instructions.filterMap transferOf with
  | [transfer] => pure transfer
  | _ => throw (.invalidRequest
      "plannedTransaction must include exactly one transferChecked instruction")

end PayoutSignerApp

/-- What the hash of the destinations reads of a plan. -/
structure DestinationAmountList (ν : Type) where
  batchId : String
  network : String
  asset : String
  tokenProgramId : String
  sourceTokenAccount : String
  transactions : List (ν × List SolanaPayoutPlannedItem)

namespace PayoutSignerApp

section Check

variable (runtime : Runtime ν) (numbers : RpcNumbers ν) (library : SolanaLibrary)

def destinationAmountListJson (list : DestinationAmountList ν) : JsValue ν :=
  .object true [
    stringField "schema" "split402.solana.payout.destination_amount_list.v1",
    stringField "batchId" list.batchId,
    stringField "network" list.network,
    stringField "asset" list.asset,
    stringField "tokenProgramId" list.tokenProgramId,
    stringField "sourceTokenAccount" list.sourceTokenAccount,
    (Base.Utf16.ofString "transactions", .array (list.transactions.map fun transaction =>
      .object true [(Base.Utf16.ofString "index", .number transaction.1),
        (Base.Utf16.ofString "items", .array (transaction.2.map Split402.plannedItemJson))]))]

/-- The plan that has the transaction of the request only. -/
def createSingleTransactionPlan (request : RemotePayoutSignRequest ν)
    (transfer : SolanaTransferCheckedInstructionPlan) : DestinationAmountList ν where
  batchId := request.batchId
  network := request.network
  asset := request.policy.mint
  tokenProgramId := transfer.programId
  sourceTokenAccount := request.policy.sourceTokenAccount
  transactions := [(request.plannedTransaction.index, request.plannedTransaction.items)]

/-- The amount against the limit: both have been read as numerals. -/
def assertTransactionAmount (amountAtomic : String) (limit : Option String) :
    Except SignerError Unit :=
  match limit with
  | none => pure ()
  | some limit => do
      let amount ← ofControlPlane (SolanaPlan.readBigInt amountAtomic)
      let limit ← ofControlPlane (SolanaPlan.readBigInt limit)
      ensure (amount ≤ limit) (.forbidden "transaction amount exceeds signer policy")

def assertTransfer (policy : SolanaPayoutSignerPolicy) (amountAtomic : String)
    (transfer : SolanaTransferCheckedInstructionPlan) : Except SignerError Unit := do
  ensure (transfer.source = policy.sourceTokenAccount)
    (.forbidden "transfer source is not allowed by policy")
  ensure (transfer.authority = policy.fundingWallet)
    (.forbidden "transfer authority is not allowed by policy")
  ensure (transfer.mint = policy.mint) (.forbidden "transfer mint is not allowed by policy")
  ensure (policy.allowedTokenProgramIds.all (transfer.programId ∈ ·))
    (.forbidden "transfer token program is not allowed by policy")
  ensure (transfer.amountAtomic = amountAtomic)
    (.invalidRequest "transfer amount does not match request amount")
  assertTransactionAmount amountAtomic policy.maxTransactionAmountAtomic

def assertRemotePayoutSignRequest (config : PayoutSignerConfig)
    (request : RemotePayoutSignRequest ν) : Except SignerError Unit := do
  ensure (request.signerReference = config.signerReference.val)
    (.forbidden "signerReference is not allowed by this signer")
  ensure (request.policy.signerReference = config.signerReference.val)
    (.forbidden "policy signerReference is not allowed by this signer")
  ensure (request.network = config.network.val ∧ request.policy.network = config.network.val)
    (.forbidden "network is not allowed by this signer")
  ensure (request.policy.fundingWallet = config.expectedFundingWallet.val)
    (.forbidden "funding wallet is not allowed by this signer")
  ensure (numbers.toInteger request.plannedTransaction.index =
      numbers.toInteger request.transactionIndex)
    (.invalidRequest "plannedTransaction index does not match transactionIndex")
  let transfer ← readSingleTransfer request.plannedTransaction.instructions
  assertTransfer request.policy request.amountAtomic transfer
  let hash ← ofControlPlane (hashProtocolObject runtime.numbers runtime.sha256Hex
    (destinationAmountListJson (createSingleTransactionPlan request transfer)))
  ensure (hash = request.destinationAmountListHash)
    (.invalidRequest "destination amount list hash mismatch")
  ensure (request.policy.expectedDestinationAmountListHash.all (· = hash))
    (.forbidden "policy destination amount list hash mismatch")

/-- The check of the bytes does not read the index. -/
def RemotePlannedTransaction.toPlanned (transaction : RemotePlannedTransaction ν) :
    SolanaPayoutPlannedTransaction :=
  ⟨0, transaction.items, transaction.instructions⟩

def assertRequestTransactionBytesMatchPlan (request : RemotePayoutSignRequest ν) :
    Except SignerError Unit := do
  let verification ← ofControlPlane (verifySolanaPayoutTransactionBytesAgainstPlan library
    request.policy request.transactionBase64 (RemotePlannedTransaction.toPlanned
      request.plannedTransaction))
  ensure verification.ok (.invalidRequest ("transaction bytes do not match approved payout plan: " ++
    "; ".intercalate verification.errors))

end Check

/-! ### The route -/

/-- The appliance: its configuration, the engine, and the key, which signs the bytes of a transaction
and prints the result with its signature, or is not there. -/
structure Appliance (ν : Type) where
  runtime : Runtime ν
  numbers : RpcNumbers ν
  library : SolanaLibrary
  host : Host
  hmac : String → String → String
  config : PayoutSignerConfig
  signTransaction : List UInt8 → Except String (String × String)

variable (appliance : Appliance ν)

/-- What is checked before anything is signed. -/
def checkedRequest (now : Int) (request : RemoteSignerRequest ν) :
    Except SignerError (RemotePayoutSignRequest ν) := do
  let _ ← assertRequestSignature appliance.host appliance.hmac appliance.config now request.headers
    (request.body.stringify appliance.numbers)
  let signRequest ← readRemotePayoutSignRequest appliance.numbers request.body
  assertRemotePayoutSignRequest appliance.runtime appliance.numbers appliance.config signRequest
  assertRequestTransactionBytesMatchPlan appliance.library signRequest
  pure signRequest

/-- `POST /v1/solana/payouts/sign`. -/
def signPayout (now : Int) (request : RemoteSignerRequest ν) : Except SignerError (RpcJson ν) := do
  let signRequest ← checkedRequest appliance now request
  let (signedTransactionBase64, expectedSignature) ← ofControlPlane
    (appliance.signTransaction (bufferFromBase64 signRequest.transactionBase64.toList))
  pure (.record [("transactionIndex", some (.number signRequest.transactionIndex)),
    ("signedTransactionBase64", some (.string signedTransactionBase64)),
    ("expectedSignature", some (.string expectedSignature))])

/-- The status, the code and the message of an error. -/
def readSignerErrorResponse : SignerError → Nat × String × String
  | .unauthorized message => (401, "unauthorized", message)
  | .forbidden message => (403, "forbidden", message)
  | .invalidRequest message => (400, "invalid_request", message)
  | .other message => (500, "internal_server_error", message)

/-- What the appliance answers over HTTP. -/
def respond (now : Int) (request : RemoteSignerRequest ν) : RemoteSignerResponse ν :=
  match signPayout appliance now request with
  | .ok body => ⟨200, some body⟩
  | .error error =>
      let (statusCode, code, message) := readSignerErrorResponse error
      ⟨statusCode, some (.record [("error", some (.string code)),
        ("message", some (.string message))])⟩

end PayoutSignerApp

end Split402

import Split402.Base.Async
import Split402.Router.Providers

/-! # Executions

An execution asks the executor for one provider of the quote after the other. The executor pays the
provider and answers data and a receipt; the router verifies the receipt, records it and checks the
data. What fails is tried with the next provider when its error is one to retry after. -/

namespace Split402

open Base (Async)

variable {ν : Type}

/-! ## Errors -/

/-- What a property of a thrown value is, as far as its status is read. -/
inductive ThrownProperty
  | nullish
  | number (value : JsNumber)
  | other
  deriving DecidableEq, Repr

structure Split402RouterProviderError where
  message : String
  statusCode : Option JsNumber
  retryable : Option Bool
  receiptId : Option String
  deriving DecidableEq, Repr

/-- A value that is thrown: an error of a provider, or any other value, with what is read of it. Of
a `response` that is an object, `response` is its `status`. A value without a message has no text:
`String` throws when it is given the value. -/
inductive RouterThrown
  | provider (error : Split402RouterProviderError)
  | other (status statusCode : ThrownProperty) (response : Option ThrownProperty)
      (message : Option String)
  deriving DecidableEq, Repr

/-- An `Error` with a message. -/
def RouterThrown.ofMessage (message : String) : RouterThrown :=
  .other .nullish .nullish none (some message)

/-- The `TypeError` of `String` for a value that has no text. -/
def noTextError : RouterThrown := .ofMessage "Cannot convert object to primitive value"

def RouterThrown.errorMessage : RouterThrown → Except RouterThrown String
  | .provider error => pure error.message
  | .other _ _ _ (some message) => pure message
  | .other _ _ _ none => throw noTextError

def RouterThrown.receiptId : RouterThrown → Option String
  | .provider error => error.receiptId
  | .other _ _ _ _ => none

def isRetryableStatus : JsNumber → Bool
  | .finite status => 500 ≤ status || status == 408 || status == 425 || status == 429
  | .infinity => true
  | .negativeInfinity | .nan => false

def readErrorStatus : RouterThrown → Option JsNumber
  | .provider error => error.statusCode
  | .other status statusCode response _ =>
      match (if status = .nullish then statusCode else status), response with
      | .number value, _ => some value
      | _, some (.number value) => some value
      | _, _ => none

def isRetryableProviderError (error : RouterThrown) : Bool :=
  let own := match error with
    | .provider error => error.retryable.orElse fun _ => error.statusCode.map isRetryableStatus
    | .other _ _ _ _ => none
  match own with
  | some retryable => retryable
  | none =>
      match readErrorStatus error with
      | some status => isRetryableStatus status
      | none => true

/-! ## Receipts of a provider -/

/-- `value` without the slashes it ends in. -/
def trimTrailingSlashes (value : String) : String :=
  String.ofList (value.toList.reverse.dropWhile (· = '/')).reverse

/-- The fields of an offer or of a receipt that are compared with the record of a provider. -/
structure OfferTerms where
  resourceOrigin : String
  operationId : String
  campaignId : String
  network : String
  asset : String
  payToWallet : String
  requiredAmountAtomic : String
  deriving DecidableEq, Repr

def Split402OfferV1.terms (offer : Split402OfferV1) : OfferTerms :=
  ⟨offer.resourceOrigin, offer.operationId, offer.campaignId, offer.network, offer.asset,
    offer.payToWallet, offer.requiredAmountAtomic⟩

def Split402ReceiptV1.terms (receipt : Split402ReceiptV1) : OfferTerms :=
  ⟨receipt.merchantOrigin, receipt.operationId, receipt.campaignId, receipt.network, receipt.asset,
    receipt.payToWallet, receipt.requiredAmountAtomic⟩

/-- `subject` is what the terms are of. -/
def validateTermsMatchProvider (subject : String) (terms : OfferTerms)
    (provider : Split402CapabilityProvider ν) : List String :=
  (if trimTrailingSlashes terms.resourceOrigin ≠ trimTrailingSlashes provider.merchantOrigin then
    [subject ++ " resourceOrigin does not match provider merchantOrigin"] else []) ++
  (if terms.operationId ≠ provider.operationId then
    [subject ++ " operationId does not match provider operationId"] else []) ++
  (if terms.campaignId ≠ provider.campaignId then
    [subject ++ " campaignId does not match provider campaignId"] else []) ++
  (if terms.network ≠ provider.network then
    [subject ++ " network does not match provider network"] else []) ++
  (if terms.asset ≠ provider.asset then
    [subject ++ " asset does not match provider asset"] else []) ++
  (if terms.payToWallet ≠ provider.payToWallet then
    [subject ++ " payToWallet does not match provider payToWallet"] else []) ++
  (if terms.requiredAmountAtomic ≠ provider.amountAtomic then
    [subject ++ " requiredAmountAtomic does not match provider amountAtomic"] else [])

def validateOfferMatchesProvider (offer : Split402OfferV1)
    (provider : Split402CapabilityProvider ν) : List String :=
  validateTermsMatchProvider "offer" offer.terms provider

def validateReceiptMatchesProvider (receipt : Split402ReceiptV1)
    (provider : Split402CapabilityProvider ν) : List String :=
  validateTermsMatchProvider "receipt" receipt.terms provider

def validateReceiptMatchesProviderRouteMetadata (receipt : Split402ReceiptV1)
    (provider : Split402CapabilityProvider ν) : List String :=
  (if provider.routeId.any (receipt.routeId ≠ some ·) then
    ["receipt routeId does not match provider routeId"] else []) ++
  (if (provider.metadata.bind (·.referrerWallet)).any (receipt.referrerWallet ≠ some ·) then
    ["receipt referrerWallet does not match provider referrerWallet"] else []) ++
  (if (provider.metadata.bind (·.payoutWallet)).any (receipt.payoutWallet ≠ some ·) then
    ["receipt payoutWallet does not match provider payoutWallet"] else [])

variable (runtime : RouterRuntime ν)

def validateReceiptMatchesReferralClaim (receipt : Split402ReceiptV1)
    (referralClaim : Option ReferralClaimV1) : Except String (List String) :=
  match referralClaim with
  | none => pure []
  | some claim => do
      let expectedHash ← hashReferralClaim runtime.toRuntime claim
      pure (
        (if receipt.routeId ≠ some claim.routeId then
          ["receipt routeId does not match referralClaim routeId"] else []) ++
        (if receipt.referralClaimHash ≠ some expectedHash then
          ["receipt referralClaimHash does not match referralClaim"] else []) ++
        (if receipt.referrerWallet ≠ some claim.referrerWallet then
          ["receipt referrerWallet does not match referralClaim referrerWallet"] else []) ++
        (if receipt.payoutWallet ≠ some claim.payoutWallet then
          ["receipt payoutWallet does not match referralClaim payoutWallet"] else []))

/-- The error of a provider whose receipt is not one to take. -/
def receiptError (message : String) : RouterThrown :=
  .provider ⟨message, none, some true, none⟩

/-- What a protocol check throws is an `Error`. -/
def ofProtocolCheck {α : Type} : Except String α → Except RouterThrown α
  | .ok a => .ok a
  | .error message => .error (.ofMessage message)

theorem ofProtocolCheck_eq_ok {α : Type} {result : Except String α} {a : α} :
    ofProtocolCheck result = .ok a ↔ result = .ok a := by
  cases result with
  | ok b => simp [ofProtocolCheck]
  | error message => simp [ofProtocolCheck]

/-- The errors of the verification of a receipt, which a router may leave out. -/
def receiptVerificationErrors (verifyReceipts : Bool) (provider : Split402CapabilityProvider ν)
    (receipt : Split402ReceiptV1) : Except RouterThrown (List String) :=
  if !verifyReceipts then pure []
  else
    match provider.merchantPublicKey with
    | none => pure ["provider merchantPublicKey is required for receipt verification"]
    | some merchantPublicKey => do
        let verification ← ofProtocolCheck (verifySplit402Receipt runtime.toRuntime
          runtime.zod runtime.receiptIssues (some receipt) merchantPublicKey)
        pure verification.errors

/-- `value` is `none` when it is `undefined`, and `some none` when it has not the shape of a
receipt. -/
def verifyProviderReceipt (verifyReceipts : Bool) (provider : Split402CapabilityProvider ν)
    (value : Option (Option Split402ReceiptV1)) (referralClaim : Option ReferralClaimV1) :
    Except RouterThrown Split402ReceiptV1 :=
  match value with
  | none => throw (receiptError "missing Split402 receipt")
  | some value =>
      match value.filter (split402ReceiptV1Schema runtime.zod) with
      | none =>
          throw (receiptError
            ("invalid Split402 receipt schema: " ++ "; ".intercalate (runtime.receiptIssues value)))
      | some receipt => do
          let claimErrors ← ofProtocolCheck
            (validateReceiptMatchesReferralClaim runtime receipt referralClaim)
          let errors := validateReceiptMatchesProvider receipt provider ++
            validateReceiptMatchesProviderRouteMetadata receipt provider ++ claimErrors
          let verificationErrors ←
            receiptVerificationErrors runtime verifyReceipts provider receipt
          let errors := errors ++ verificationErrors
          if errors.isEmpty then pure receipt
          else throw (receiptError ("invalid Split402 receipt: " ++ "; ".intercalate errors))

/-- The output violates the schema of the provider: the receipt stands, and nothing is retried. -/
def validateOutputAgainstProviderSchema (provider : Split402CapabilityProvider ν)
    (output : JsValue ν) (receipt : Split402ReceiptV1) : Except RouterThrown Unit := do
  let errors ← ofProtocolCheck
    (validateAgainstSchema runtime (provider.metadata.map (·.outputSchema)) output "output")
  if errors.isEmpty then pure ()
  else throw (.provider ⟨"invalid provider output: " ++ "; ".intercalate errors, none, some false,
    some receipt.receiptId⟩)

/-! ## The execution -/

/-- What the executor and the recorder are asked for. -/
structure ExecutorInput (ν : Type) where
  provider : Split402CapabilityProvider ν
  body : JsValue ν
  referralClaim : Option ReferralClaimV1

structure ReceiptRecorderInput (ν : Type) where
  provider : Split402CapabilityProvider ν
  receipt : Split402ReceiptV1
  referralClaim : Option ReferralClaimV1

structure Split402RouterExecutorResult (ν : Type) where
  data : JsValue ν
  receipt : Option (Option Split402ReceiptV1)

inductive ReceiptRecordingStatus
  | created | duplicate
  deriving DecidableEq, Repr

structure Split402ReceiptRecordingResult where
  status : ReceiptRecordingStatus
  source : ReceiptIngestSource

inductive RouterOp (ν : Type)
  | execute (input : ExecutorInput ν)
  | record (input : ReceiptRecorderInput ν)

def RouterOp.Ans : RouterOp ν → Type
  | .execute _ => Split402RouterExecutorResult ν
  | .record _ => Option Split402ReceiptRecordingResult

/-- A part of an execution, which may throw anything. -/
abbrev RouterAwait (ν α : Type) := Async (RouterOp ν) RouterOp.Ans RouterThrown α

structure Split402RouterExecuteResult (ν : Type) where
  provider : Split402CapabilityProvider ν
  data : JsValue ν
  receipt : Split402ReceiptV1
  receiptRecording : Option Split402ReceiptRecordingResult
  attempts : List Split402RouterAttempt

/-- The router: its providers, and whether it verifies receipts and records them. -/
structure Split402Router (ν : Type) where
  providers : List (Split402CapabilityProvider ν)
  verifyReceipts : Bool
  recordsReceipts : Bool

namespace Split402Router

variable (router : Split402Router ν)

def recordProviderReceipt (provider : Split402CapabilityProvider ν) (receipt : Split402ReceiptV1)
    (referralClaim : Option ReferralClaimV1) :
    RouterAwait ν (Option Split402ReceiptRecordingResult) :=
  if !router.recordsReceipts then pure none
  else
    tryCatch (Async.call (RouterOp.record ⟨provider, receipt, referralClaim⟩)) fun error => do
      let message ← .done error.errorMessage
      throw (.provider ⟨"failed to record Split402 receipt: " ++ message, none, some false,
        some receipt.receiptId⟩)

/-- One attempt: pay, verify, record, check. -/
def attempt (input : Split402RouterExecuteInput ν) (provider : Split402CapabilityProvider ν) :
    RouterAwait ν
      (JsValue ν × Split402ReceiptV1 × Option Split402ReceiptRecordingResult) := do
  let referralClaim := input.referralClaim.orElse fun _ => provider.referralClaim
  let result ← Async.call (RouterOp.execute ⟨provider, input.input, referralClaim⟩)
  let receipt ← .done (verifyProviderReceipt runtime router.verifyReceipts provider result.receipt
    referralClaim)
  let receiptRecording ← router.recordProviderReceipt provider receipt referralClaim
  .done (validateOutputAgainstProviderSchema runtime provider result.data receipt)
  pure (result.data, receipt, receiptRecording)

/-- The attempt that has succeeded. -/
def successAttempt (provider : Split402CapabilityProvider ν) (receipt : Split402ReceiptV1) :
    Split402RouterAttempt :=
  ⟨provider.providerId, provider.capability, .success, false, none, some receipt.receiptId⟩

/-- The attempt that has failed with an error, whose text is the message. -/
def failedAttempt (provider : Split402CapabilityProvider ν) (error : RouterThrown)
    (message : String) : Split402RouterAttempt :=
  ⟨provider.providerId, provider.capability, .failed, isRetryableProviderError error,
    some message, error.receiptId⟩

/-- The attempts with the providers that are left, after `attempts`. A failure is caught; the
executions answer `Except` so that what they throw themselves is not. What the handler throws is
not an answer: it rejects the execution. -/
def tryProviders (input : Split402RouterExecuteInput ν) (attempts : List Split402RouterAttempt) :
    List (Split402CapabilityProvider ν) →
      RouterAwait ν (Except Split402RouterError (Split402RouterExecuteResult ν))
  | [] => pure (.error ⟨.executionFailed,
      s!"all attempted providers failed for {input.capability}", attempts⟩)
  | provider :: rest => do
      let outcome ← tryCatch (Except.ok <$> router.attempt runtime input provider)
        (fun error => pure (.error error))
      match outcome with
      | .ok (data, receipt, receiptRecording) =>
          pure (.ok ⟨provider, data, receipt, receiptRecording,
            attempts ++ [successAttempt provider receipt]⟩)
      | .error error =>
          match error.errorMessage with
          | .error thrown => throw thrown
          | .ok message =>
              let attempts := attempts ++ [failedAttempt provider error message]
              if isRetryableProviderError error then tryProviders input attempts rest
              else
                pure (.error ⟨.executionFailed, s!"provider {provider.providerId} failed with a " ++
                  s!"non-retryable error: {message}", attempts⟩)

def execute (input : Split402RouterExecuteInput ν) :
    RouterAwait ν (Except Split402RouterError (Split402RouterExecuteResult ν)) :=
  match quoteExecution runtime router.providers input with
  | .error (.router error) => pure (.error error)
  | .error (.other message) => throw (.ofMessage message)
  | .ok quote => router.tryProviders runtime input [] (quote.rankedProviders.map (·.provider))

end Split402Router

end Split402

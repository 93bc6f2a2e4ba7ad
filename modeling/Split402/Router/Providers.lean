import Split402.Protocol.Numbers
import Split402.X402.Client

/-! # Providers and quotes

The router knows providers of capabilities, each at a price. A quote filters them by the capability,
the network, the asset and the budget, ranks what is left, and keeps the providers that an execution
will try, in the order in which it tries them. -/

namespace Split402

open Base (selectM sortBy)

variable {ν : Type}

/-- The engine and its libraries, as the router uses them: the messages of the schema library for
what is not a receipt, and the validator of JSON schemas, which answers its errors. The validator
throws what `JSON.stringify` throws of a value that it compares. -/
structure RouterRuntime (ν : Type) extends Runtime ν where
  host : Host
  zod : Zod
  receiptIssues : Option Split402ReceiptV1 → List String
  validateJsonSchemaValue : JsValue ν → JsValue ν → String → Except String (List String)

abbrev Split402ProviderHttpMethod := Split402HttpMethod

structure ProviderReliability where
  successRateBps : Option JsNumber
  medianLatencyMs : Option JsNumber
  deriving DecidableEq, Repr

/-- A schema that is not there is `undefined`. -/
structure ProviderMetadata (ν : Type) where
  inputSchema : JsValue ν
  outputSchema : JsValue ν
  referrerWallet : Option String
  payoutWallet : Option String

structure Split402CapabilityProvider (ν : Type) where
  providerId : String
  capability : String
  routeId : Option String
  merchantOrigin : String
  path : String
  method : Split402ProviderHttpMethod
  operationId : String
  campaignId : String
  referralClaim : Option ReferralClaimV1
  merchantPublicKey : Option String
  network : String
  asset : String
  payToWallet : String
  amountAtomic : String
  reliability : Option ProviderReliability
  metadata : Option (ProviderMetadata ν)

structure Split402RouterBudget where
  network : String
  asset : String
  maxAmountAtomic : String
  deriving DecidableEq, Repr

/-- The input of a quote and of an execution. -/
structure Split402RouterExecuteInput (ν : Type) where
  capability : String
  input : JsValue ν
  budget : Split402RouterBudget
  referralClaim : Option ReferralClaimV1
  maxAttempts : Option JsNumber

inductive Split402RouterAttemptStatus
  | success | failed
  deriving DecidableEq, Repr

structure Split402RouterAttempt where
  providerId : String
  capability : String
  status : Split402RouterAttemptStatus
  retryable : Bool
  error : Option String
  receiptId : Option String
  deriving DecidableEq, Repr

inductive Split402RouterErrorCode
  | invalidRequest | unsupportedCapability | budgetExceeded | executionFailed
  deriving DecidableEq, Repr

structure Split402RouterError where
  code : Split402RouterErrorCode
  message : String
  attempts : List Split402RouterAttempt
  deriving DecidableEq, Repr

/-- What a quote throws: a `Split402RouterError`, or an error of another class. -/
inductive QuoteError
  | router (error : Split402RouterError)
  | other (message : String)
  deriving DecidableEq, Repr

structure Split402RouterQuoteProvider (ν : Type) where
  rank : Nat
  providerId : String
  provider : Split402CapabilityProvider ν
  amountAtomic : String
  reliability : Option ProviderReliability

structure Split402RouterQuoteResult (ν : Type) where
  capability : String
  budget : Split402RouterBudget
  selectedProviderId : String
  selectedProvider : Split402CapabilityProvider ν
  quotedAmountAtomic : String
  maxAttempts : Nat
  rankedProviders : List (Split402RouterQuoteProvider ν)

/-! ## Checks of an input -/

def readRouterAtomicAmount (value label : String) : Except Split402RouterError Nat :=
  match parseAtomicAmount value with
  | none => throw ⟨.invalidRequest, s!"{label} must be a non-negative atomic amount string", []⟩
  | some amount => pure amount

def readProviderAtomicAmount (provider : Split402CapabilityProvider ν) : Option Nat :=
  parseAtomicAmount provider.amountAtomic

def assertQuoteInput (input : Split402RouterExecuteInput ν) : Except Split402RouterError Unit := do
  if isBlank input.capability then throw ⟨.invalidRequest, "capability is required", []⟩
  if input.budget.network = "" then throw ⟨.invalidRequest, "budget.network is required", []⟩
  if input.budget.asset = "" then throw ⟨.invalidRequest, "budget.asset is required", []⟩
  let _ ← readRouterAtomicAmount input.budget.maxAmountAtomic "budget.maxAmountAtomic"

def normalizeMaxAttempts (value : Option JsNumber) (providerCount : Nat) :
    Except Split402RouterError Nat :=
  match value with
  | none => pure providerCount
  | some value =>
      match value.toInteger.filter (0 < ·) with
      | none => throw ⟨.invalidRequest, "maxAttempts must be a positive integer", []⟩
      | some attempts => pure (min attempts.toNat providerCount)

/-! ## Ranking -/

/-- A rate that is not a whole number of basis points counts as none. -/
def normalizeBps (value : JsNumber) : Int :=
  (value.toInteger.filter (fun bps => 0 ≤ bps ∧ bps ≤ 10000)).getD 0

def readReliabilityBps (provider : Split402CapabilityProvider ν) : Int :=
  normalizeBps ((provider.reliability.bind (·.successRateBps)).getD (.finite 0))

/-- `Number.MAX_SAFE_INTEGER` stands for a latency that is not known. -/
def readMedianLatency (provider : Split402CapabilityProvider ν) : Rat :=
  match provider.reliability.bind (·.medianLatencyMs) with
  | some (.finite latency) => if 0 ≤ latency then latency else 9007199254740991
  | _ => 9007199254740991

section Ranking

variable (runtime : RouterRuntime ν)

def compareAtomicAmount (left right : String) : Ordering :=
  match parseAtomicAmount left, parseAtomicAmount right with
  | none, none => runtime.host.localeCompare left right
  | none, some _ => .gt
  | some _, none => .lt
  | some leftAmount, some rightAmount => compare leftAmount rightAmount

def compareProviders (left right : Split402CapabilityProvider ν) : Ordering :=
  (compare (readReliabilityBps right) (readReliabilityBps left)).then
    ((compareAtomicAmount runtime left.amountAtomic right.amountAtomic).then
      ((compare (readMedianLatency left) (readMedianLatency right)).then
        (runtime.host.localeCompare left.providerId right.providerId)))

end Ranking

/-! ## What a provider admits -/

def validateProviderAcceptsReferralClaim (provider : Split402CapabilityProvider ν)
    (referralClaim : Option ReferralClaimV1) : List String :=
  match referralClaim with
  | none => []
  | some claim =>
      (if provider.routeId.any (· ≠ claim.routeId) then
        ["provider routeId does not match referralClaim routeId"] else []) ++
      (if (provider.metadata.bind (·.referrerWallet)).any (· ≠ claim.referrerWallet) then
        ["provider referrerWallet does not match referralClaim referrerWallet"] else []) ++
      (if (provider.metadata.bind (·.payoutWallet)).any (· ≠ claim.payoutWallet) then
        ["provider payoutWallet does not match referralClaim payoutWallet"] else [])

/-- `value === undefined`. -/
def JsValue.isUndefined : JsValue ν → Bool
  | .undefined => true
  | _ => false

variable (runtime : RouterRuntime ν)

def validateAgainstSchema (schema : Option (JsValue ν)) (value : JsValue ν) (path : String) :
    Except String (List String) :=
  match schema.filter (!·.isUndefined) with
  | none => pure []
  | some schema => runtime.validateJsonSchemaValue value schema path

def validateInputAgainstProviderSchema (provider : Split402CapabilityProvider ν)
    (input : JsValue ν) : Except String (List String) :=
  validateAgainstSchema runtime (provider.metadata.map (·.inputSchema)) input "input"

/-! ## Quotes -/

section Quote

variable (providers : List (Split402CapabilityProvider ν)) (input : Split402RouterExecuteInput ν)

def rankProviders : Except Split402RouterError (List (Split402CapabilityProvider ν)) := do
  assertQuoteInput input
  let maxAmount ← readRouterAtomicAmount input.budget.maxAmountAtomic "budget.maxAmountAtomic"
  pure (sortBy (compareProviders runtime) (((providers.filter
    (·.capability = input.capability)).filter
    (·.network = input.budget.network)).filter
    (·.asset = input.budget.asset) |>.filter
    (fun provider => (readProviderAtomicAmount provider).any (· ≤ maxAmount))))

/-- A failed attempt that stands for a provider that is not tried. -/
def refusedAttempt (provider : Split402CapabilityProvider ν) (error : String) :
    Split402RouterAttempt :=
  ⟨provider.providerId, provider.capability, .failed, false, some error, none⟩

/-- The eligible providers whose `inputSchema` admits the input. -/
def inputEligibleProviders (eligibleProviders : List (Split402CapabilityProvider ν)) :
    Except String (List (Split402CapabilityProvider ν)) :=
  if input.input.isUndefined then pure eligibleProviders
  else
    selectM (fun provider =>
      List.isEmpty <$> validateInputAgainstProviderSchema runtime provider input.input)
      eligibleProviders

def quoteExecution : Except QuoteError (Split402RouterQuoteResult ν) := do
  (assertQuoteInput input).mapError .router
  let availableForCapability := providers.filter (fun provider =>
    provider.capability = input.capability ∧ provider.network = input.budget.network ∧
      provider.asset = input.budget.asset)
  if availableForCapability.isEmpty then
    throw (.router ⟨.unsupportedCapability,
      s!"no providers support {input.capability} on {input.budget.network}/{input.budget.asset}", []⟩)
  let ranked ← (rankProviders runtime providers input).mapError .router
  if ranked.isEmpty then
    throw (.router ⟨.budgetExceeded,
      s!"all providers for {input.capability} exceed the requested budget", []⟩)
  let eligibleProviders := ranked.filter (fun provider =>
    (validateProviderAcceptsReferralClaim provider input.referralClaim).isEmpty)
  if eligibleProviders.isEmpty then
    throw (.router ⟨.executionFailed,
      s!"no providers match the supplied referralClaim for {input.capability}",
      ranked.map (fun provider => refusedAttempt provider
        ("provider does not match referralClaim: " ++
          "; ".intercalate (validateProviderAcceptsReferralClaim provider input.referralClaim)))⟩)
  let inputEligible ← (inputEligibleProviders runtime input eligibleProviders).mapError .other
  if inputEligible.isEmpty then
    let attempts ← (eligibleProviders.mapM (fun provider => do
      let errors ← validateInputAgainstProviderSchema runtime provider input.input
      pure (refusedAttempt provider ("; ".intercalate errors)))).mapError .other
    throw (.router ⟨.invalidRequest,
      s!"input does not match any provider inputSchema for {input.capability}", attempts⟩)
  let maxAttempts ←
    (normalizeMaxAttempts input.maxAttempts inputEligible.length).mapError .router
  let rankedProviders := (inputEligible.take maxAttempts).zipIdx.map (fun entry =>
    { rank := entry.2 + 1
      providerId := entry.1.providerId
      provider := entry.1
      amountAtomic := entry.1.amountAtomic
      reliability := entry.1.reliability : Split402RouterQuoteProvider ν })
  match rankedProviders with
  -- there is one: some provider is eligible and `maxAttempts` is positive
  | [] => throw (.router ⟨.invalidRequest, "", []⟩)
  | first :: _ =>
      pure
        { capability := input.capability
          budget := input.budget
          selectedProviderId := first.provider.providerId
          selectedProvider := first.provider
          quotedAmountAtomic := first.provider.amountAtomic
          maxAttempts := maxAttempts
          rankedProviders := rankedProviders }

end Quote

end Split402

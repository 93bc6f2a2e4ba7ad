import Split402.Router.Execution

/-! # The executor of the agent SDK

The executor asks the merchant for its offer with one request and pays with another. The first is
answered by a challenge whose offer is verified and compared with the record of the provider; the
second is answered by a challenge too, and what the payment client pays is in that one. -/

namespace Split402

open Base (Async)

variable {ν : Type}

/-! ## Challenges -/

/-- An entry of `accepts`. -/
structure AcceptsEntry extends PaymentRequirements where
  scheme : String
  deriving DecidableEq, Repr

/-- What a 402 asks for: the offer and the resource, the method the resource names, and how it can
be paid. -/
structure PaymentChallenge extends PaymentRequired where
  resourceMethod : Option String
  accepts : List AcceptsEntry

/-- A scheme that a payment client has for a network. -/
structure Registration where
  scheme : String
  network : String
  deriving DecidableEq, Repr

/-- The x402 client around the extension: the schemes it registers for EVM networks, the payment a
scheme makes with a signer's wallet, whether it lets the extension enrich the payment of a
challenge, and its message when it has no scheme for one. The schema library's issues of an offer
are here with their paths. -/
structure AgentRuntime (ν : Type) extends X402Runtime ν where
  receiptIssues : Option Split402ReceiptV1 → List String
  offerIssuesWithPaths : Option Split402OfferV1 → List String
  exactEvmSchemes : List String → List Registration
  createSchemePayload : String → AcceptsEntry → Except String String
  appliesExtension : PaymentChallenge → Bool
  unregisteredMessage : PaymentChallenge → String

/-! ## What is asked -/

structure InspectOfferInput (ν : Type) where
  path : String
  method : Split402HttpMethod
  body : JsValue ν
  query : JsValue ν

/-- The answer to a fetch: its status, and what its payment header is decoded to. -/
structure FetchResponse where
  status : Nat
  paymentRequired : Option (Except String PaymentChallenge)

/-- The answer to a request that is not asked to pay: its data, and what its headers are decoded to.
A settlement may carry a receipt; `none` has not the shape of one. -/
structure AxiosResponse (ν : Type) where
  data : JsValue ν
  paymentRequired : Option (Except String PaymentChallenge)
  settlement : Option (Except String (Option Split402ReceiptV1))

/-- A request is answered, or asked to pay. -/
inductive SendAnswer (ν : Type)
  | response (response : AxiosResponse ν)
  | challenge (challenge : PaymentChallenge)

/-- The unpaid request of the inspection, the unpaid one of the paid request, and the paid one. -/
inductive AgentOp (ν : Type)
  | fetch (merchantOrigin : String) (input : InspectOfferInput ν)
  | send (merchantOrigin : String) (input : PaidJsonRequestInput ν)
  | pay (entry : AcceptsEntry) (payload : PaymentPayload)

def AgentOp.Ans : AgentOp ν → Type
  | .fetch _ _ => FetchResponse
  | .send _ _ => SendAnswer ν
  | .pay _ _ => AxiosResponse ν

abbrev AgentAwait (ν α : Type) := Async (AgentOp ν) AgentOp.Ans RouterThrown α

/-- A check within a call. -/
def AgentAwait.ofExcept {α : Type} (result : Except RouterThrown α) : AgentAwait ν α :=
  Async.done result

/-! ## The client -/

/-- The signers are known by their wallets. -/
structure Split402AgentClient where
  merchantOrigin : String
  merchantPublicKey : Option String
  signer : Option String
  evmSigner : Option String
  evmNetworks : Option (List String)
  network : String

structure InspectOfferResult where
  offer : Split402OfferV1
  /-- `none` is not checked. -/
  verification : Option ProtocolVerificationResult

structure PaidJsonResult (ν : Type) where
  data : JsValue ν
  receipt : Option Split402ReceiptV1
  /-- `none` is not checked. -/
  receiptVerification : Option ProtocolVerificationResult

def isEvmNetwork (network : String) : Bool := network.toList.take 7 == "eip155:".toList

/-- `merchantOrigin.replace(/\/$/u, "")`. -/
def withoutTrailingSlash (value : String) : String :=
  match value.toList.reverse with
  | '/' :: rest => String.ofList rest.reverse
  | _ => value

/-- The registered entry that is paid: the first of the challenge. -/
def selectPaymentRequirements (registrations : List Registration) (accepts : List AcceptsEntry) :
    Option AcceptsEntry :=
  accepts.find? (fun entry => ⟨entry.scheme, entry.network⟩ ∈ registrations)

namespace Split402AgentClient

variable (runtime : AgentRuntime ν) (client : Split402AgentClient)

/-- `extractSplit402Offer`. -/
def extractSplit402Offer (value : Option (Option Split402OfferV1)) :
    Except RouterThrown Split402OfferV1 :=
  match value with
  | none => throw (.ofMessage "expected object")
  | some info =>
      match info.filter (split402OfferV1Schema runtime.zod) with
      | none => throw (.ofMessage ("invalid Split402 offer in x402 response: " ++
          "; ".intercalate (runtime.offerIssuesWithPaths info)))
      | some offer => pure offer

def verifyOffer (offer : Split402OfferV1) :
    Except RouterThrown (Option ProtocolVerificationResult) :=
  match client.merchantPublicKey with
  | none => pure none
  | some merchantPublicKey =>
      some <$> ofProtocolCheck (verifySplit402Offer runtime.toRuntime runtime.zod
        runtime.offerIssues (some offer) merchantPublicKey)

/-- What an inspection makes of the answer of the merchant. -/
def readInspection (response : FetchResponse) : Except RouterThrown InspectOfferResult := do
  let paymentRequired ← match (if response.status = 402 then response.paymentRequired else none) with
    | none => throw (.ofMessage ("expected x402 402 response with PAYMENT-REQUIRED header, got " ++
        toString response.status))
    | some decoded => ofProtocolCheck decoded
  let offer ← extractSplit402Offer runtime paymentRequired.extension
  let verification ← client.verifyOffer runtime offer
  pure ⟨offer, verification⟩

def inspectOffer (input : InspectOfferInput ν) : AgentAwait ν InspectOfferResult := do
  let response ← Async.call (AgentOp.fetch client.merchantOrigin input)
  AgentAwait.ofExcept (client.readInspection runtime response)

/-- The wallet that pays and the schemes that are registered. -/
def createPaymentClient : Except RouterThrown (String × List Registration) :=
  if isEvmNetwork client.network then
    match client.evmSigner with
    | none => throw (.ofMessage "an EVM signer is required to make a paid x402 request")
    | some signer =>
        pure (signer, runtime.exactEvmSchemes (client.evmNetworks.getD [client.network]))
  else
    match client.signer with
    | none => throw (.ofMessage "a Solana signer is required to make a paid x402 request")
    | some signer => pure (signer, [⟨"exact", client.network⟩])

/-- The payment of a challenge: of its first registered entry, enriched by the extension. -/
def createPaymentPayload (signer : String) (registrations : List Registration)
    (input : PaidJsonRequestInput ν) (randomHex : String) (challenge : PaymentChallenge) :
    Except String (AcceptsEntry × PaymentPayload) := do
  match selectPaymentRequirements registrations challenge.accepts with
  | none => throw (runtime.unregisteredMessage challenge)
  | some entry => do
      let payment ← runtime.createSchemePayload signer entry
      let payload : PaymentPayload := ⟨payment, challenge.resourceMethod, none⟩
      if runtime.appliesExtension challenge then
        let enriched ← enrichPaymentPayload runtime.toX402Runtime (split402ExtensionOptions input)
          randomHex payload challenge.toPaymentRequired
        pure (entry, enriched)
      else pure (entry, payload)

def verifyReceipt (receipt : Option Split402ReceiptV1) :
    Except RouterThrown (Option ProtocolVerificationResult) :=
  match client.merchantPublicKey with
  | none => pure none
  | some merchantPublicKey =>
      match receipt with
      | none => pure (some ⟨false, ["missing Split402 receipt"]⟩)
      | some receipt => some <$> ofProtocolCheck (verifySplit402Receipt runtime.toRuntime
          runtime.zod runtime.receiptIssues (some receipt) merchantPublicKey)

/-- What a request makes of the answer it gets in the end. -/
def readResponse (response : AxiosResponse ν) : Except RouterThrown (PaidJsonResult ν) := do
  let settlement ← match response.settlement with
    | none => pure none
    | some decoded => ofProtocolCheck decoded
  let _ ← match response.paymentRequired with
    | none => pure none
    | some decoded => some <$> ofProtocolCheck decoded
  let receipt := settlement.filter (split402ReceiptV1Schema runtime.zod)
  let receiptVerification ← client.verifyReceipt runtime receipt
  pure ⟨response.data, receipt, receiptVerification⟩

/-- The wrapped request: a challenge to it is paid, once. -/
def requestJson (randomHex : String) (input : PaidJsonRequestInput ν) :
    AgentAwait ν (PaidJsonResult ν) := do
  let (signer, registrations) ← AgentAwait.ofExcept (client.createPaymentClient runtime)
  let answer ← Async.call (AgentOp.send client.merchantOrigin input)
  match answer with
  | .response response => AgentAwait.ofExcept (client.readResponse runtime response)
  | .challenge challenge => do
      let (entry, payload) ← AgentAwait.ofExcept (ofProtocolCheck
        (createPaymentPayload runtime signer registrations input randomHex challenge))
      let response ← Async.call (AgentOp.pay entry payload)
      AgentAwait.ofExcept (client.readResponse runtime response)

end Split402AgentClient

/-! ## The executor -/

/-- The signers of the router. -/
structure RouterSigners where
  signer : Option String
  evmSigner : Option String
  evmNetworks : Option (List String)

def inputToQuery : JsValue ν → JsValue ν
  | .object plain fields => .object plain fields
  | _ => .undefined

namespace Split402AgentSdkExecutor

variable (runtime : AgentRuntime ν) (signers : RouterSigners)

/-- The client of an execution. -/
def client (provider : Split402CapabilityProvider ν) : Split402AgentClient where
  merchantOrigin := withoutTrailingSlash provider.merchantOrigin
  merchantPublicKey := provider.merchantPublicKey
  signer := signers.signer
  evmSigner := signers.evmSigner
  evmNetworks := signers.evmNetworks
  network := provider.network

/-- The request of the inspection. -/
def inspection (input : ExecutorInput ν) : InspectOfferInput ν where
  path := input.provider.path
  method := input.provider.method
  body := if input.provider.method = .GET then .undefined else input.body
  query := if input.provider.method = .GET then inputToQuery input.body else .undefined

/-- The request that is paid. -/
def paidRequest (input : ExecutorInput ν) : PaidJsonRequestInput ν where
  method := input.provider.method
  path := input.provider.path
  body := if input.provider.method = .GET then .undefined else input.body
  referralClaim := input.referralClaim
  pathTemplate := none
  pathParams := .undefined
  query := if input.provider.method = .GET then inputToQuery input.body else .undefined
  paymentId := none

/-- The inspected offer is one to pay for. -/
def checkOffer (provider : Split402CapabilityProvider ν) (result : InspectOfferResult) :
    Except RouterThrown Unit := do
  let verificationErrors := match result.verification with
    | some verification => if verification.ok then none else some verification.errors
    | none => none
  match verificationErrors with
  | some errors => throw (receiptError ("invalid Split402 offer: " ++ "; ".intercalate errors))
  | none =>
      let offerErrors := validateOfferMatchesProvider result.offer provider
      if offerErrors.isEmpty then pure ()
      else throw (receiptError
        ("Split402 offer does not match provider: " ++ "; ".intercalate offerErrors))

def execute (randomHex : String) (input : ExecutorInput ν) :
    AgentAwait ν (Split402RouterExecutorResult ν) := do
  let agent := client signers input.provider
  let offer ← agent.inspectOffer runtime (inspection input)
  AgentAwait.ofExcept (checkOffer input.provider offer)
  let result ← agent.requestJson runtime randomHex (paidRequest input)
  pure ⟨result.data, result.receipt.map some⟩

end Split402AgentSdkExecutor

end Split402

import Split402.X402.Payment

/-! # The merchant

`createSplit402ResourceServerExtension`: the offer of a declared route, the check of a payment before
it is verified, and the receipt of a settled one. -/

namespace Split402

open Base

variable {ν : Type}

/-! ## Configuration -/

structure Split402RouteDeclaration where
  campaignId : String
  operationId : String
  deriving DecidableEq, Repr

structure Split402CampaignConfig where
  campaignId : String
  campaignVersion : Nat
  campaignTermsHash : String
  commissionBps : Nat
  protocolFeeBpsOfCommission : Nat
  attributionRequired : Bool
  allowSelfReferral : Bool
  deriving DecidableEq, Repr

structure Split402ServiceSigningKey where
  kid : String
  privateSeed : List UInt8

structure Split402ServiceKeyProvider where
  current : Split402ServiceSigningKey
  resolvePublicKey : String → Option String

/-- `resolveCampaign` may throw. -/
structure Split402ServerExtensionOptions where
  merchantId : String
  merchantOrigin : String
  serviceKeyProvider : Split402ServiceKeyProvider
  resolveCampaign : Split402RouteDeclaration → Except String Split402CampaignConfig

/-- What one call sees of the outside: the time in milliseconds and the random bytes of its id. -/
structure ServerCall where
  now : Int
  randomHex : String

/-- A declared value, as the fields that are strings of the object it is or nests; `none` when it is
no object. -/
structure RouteDeclarationRecord where
  campaignId : Option String
  operationId : Option String

def parseDeclaration (value : Option RouteDeclarationRecord) :
    Except String Split402RouteDeclaration := do
  let record ← asRecord value
  match record.campaignId, record.operationId with
  | some campaignId, some operationId => pure ⟨campaignId, operationId⟩
  | _, _ => throw "Split402 route declaration requires campaignId and operationId"

def parseDeclarationOrOffer (value : Option RouteDeclarationRecord) (offer : Split402OfferV1) :
    Split402RouteDeclaration where
  campaignId := (value.bind RouteDeclarationRecord.campaignId).getD offer.campaignId
  operationId := (value.bind RouteDeclarationRecord.operationId).getD offer.operationId

/-! ## Signatures -/

/-- `base64UrlEncode`. -/
def base64UrlEncode (bytes : List UInt8) : String :=
  let alphabet := "ABCDEFGHIJKLMNOPQRSTUVWXYZabcdefghijklmnopqrstuvwxyz0123456789-_".toList
  String.ofList ((Base64.encode (bytes.map UInt8.toNat)).map (fun sextet => alphabet.getD sextet 'A'))

variable (runtime : X402Runtime ν)

/-- The signature of `signEd25519Message`. -/
def signEd25519Message (message : ByteArray) (privateSeedOrSecretKey : List UInt8) :
    Except String String := do
  let seed := if privateSeedOrSecretKey.length = 64 then privateSeedOrSecretKey.take 32
    else privateSeedOrSecretKey
  assertByteLength seed 32 "Ed25519 private seed"
  pure (base64UrlEncode (runtime.nodeSign seed message))

def signOffer (offer : Split402OfferV1) (privateSeed : List UInt8) :
    Except String Split402OfferV1 := do
  let message ← buildOfferSigningBytes runtime.toRuntime offer
  let signature ← signEd25519Message runtime message privateSeed
  pure { offer with signature := signature }

def signReceipt (receipt : Split402ReceiptV1) (privateSeed : List UInt8) :
    Except String Split402ReceiptV1 := do
  let message ← buildReceiptSigningBytes runtime.toRuntime receipt
  let signature ← signEd25519Message runtime message privateSeed
  pure { receipt with signature := signature }

/-! ## Offers -/

/-- `value.toISOString().replace(/\.\d{3}Z$/u, "Z")`. -/
def toRfc3339Utc (value : Int) : String :=
  let text := (runtime.host.toISOString value).toList.reverse
  match text with
  | 'Z' :: a :: b :: c :: '.' :: rest =>
      if a.isDigit && b.isDigit && c.isDigit then String.ofList ('Z' :: rest).reverse
      else String.ofList text.reverse
  | _ => String.ofList text.reverse

def firstRequirement (requirements : List PaymentRequirements) :
    Except String PaymentRequirements :=
  match requirements with
  | [] => throw "Split402 requires at least one x402 payment requirement"
  | requirement :: _ => pure requirement

/-- The offer without its signature, which is valid for 90 seconds. -/
def buildOffer (options : Split402ServerExtensionOptions) (campaign : Split402CampaignConfig)
    (operationId : String) (requirement : PaymentRequirements) (call : ServerCall) :
    Split402OfferV1 where
  campaignId := campaign.campaignId
  campaignVersion := campaign.campaignVersion
  campaignTermsHash := campaign.campaignTermsHash
  merchantId := options.merchantId
  resourceOrigin := options.merchantOrigin
  operationId := operationId
  network := requirement.network
  asset := requirement.asset
  requiredAmountAtomic := requirement.amount
  payToWallet := requirement.payTo
  commissionBps := campaign.commissionBps
  protocolFeeBpsOfCommission := campaign.protocolFeeBpsOfCommission
  attributionRequired := campaign.attributionRequired
  allowSelfReferral := campaign.allowSelfReferral
  offerNonce := "ofn_" ++ call.randomHex
  issuedAt := toRfc3339Utc runtime call.now
  validUntil := toRfc3339Utc runtime (call.now + 90000)
  kid := options.serviceKeyProvider.current.kid
  signature := ""

def enrichPaymentRequiredResponse (options : Split402ServerExtensionOptions)
    (declaration : Option RouteDeclarationRecord) (requirements : List PaymentRequirements)
    (call : ServerCall) : Except String Split402OfferV1 := do
  let route ← parseDeclaration declaration
  let requirement ← firstRequirement requirements
  let campaign ← options.resolveCampaign route
  signOffer runtime (buildOffer runtime options campaign route.operationId requirement call)
    options.serviceKeyProvider.current.privateSeed

/-! ## Attribution -/

inductive ClaimStatus
  | valid | missing | invalid
  deriving DecidableEq, Repr

structure ValidatedSplit402Attribution where
  offer : Split402OfferV1
  paymentId : String
  requestDigest : String
  referralClaim : Option ReferralClaimV1
  claimStatus : ClaimStatus
  claimErrors : List String
  deriving DecidableEq

/-- `requirements` are those of the route the payment is for; `transportContext` is `none` when there
is no HTTP request. -/
structure VerifyContext (ν : Type) where
  paymentPayload : PaymentPayload
  requirements : PaymentRequirements
  transportContext : Option (HttpRequest ν)

def validateOfferAgainstRequirements (offer : Split402OfferV1) (requirement : PaymentRequirements) :
    List String :=
  (if offer.network ≠ requirement.network then
    ["offer network does not match x402 requirement"] else []) ++
  (if offer.asset ≠ requirement.asset then
    ["offer asset does not match x402 requirement"] else []) ++
  (if offer.requiredAmountAtomic ≠ requirement.amount then
    ["offer amount does not match x402 requirement"] else []) ++
  (if offer.payToWallet ≠ requirement.payTo then
    ["offer payToWallet does not match x402 requirement"] else [])

def validateOfferTiming (offer : Split402OfferV1) (now : Int) : List String :=
  match runtime.host.dateParse offer.validUntil with
  | none => ["offer validUntil is invalid"]
  | some validUntil => if validUntil < now then ["offer is expired"] else []

/-- The digest input of the server; without a route pattern the path is the template. -/
def serverDigestInput (request : HttpRequest ν) (offer : Split402OfferV1) (paymentId : String) :
    CalculateOperationDigestInput ν where
  merchantId := offer.merchantId
  operationId := offer.operationId
  method := request.method
  pathTemplate := request.routePattern.getD request.path
  pathParams := .undefined
  query := request.query
  body := request.body
  paymentId := paymentId
  offerNonce := offer.offerNonce

def calculateServerRequestDigest (context : VerifyContext ν) (offer : Split402OfferV1)
    (paymentId : String) : Except String (Option String) :=
  match context.transportContext with
  | none => pure none
  | some request =>
      some <$> calculateOperationDigest runtime.toRuntime runtime.toUpperCase
        (serverDigestInput request offer paymentId)

def validateClaimAgainstOffer (claim : ReferralClaimV1) (offer : Split402OfferV1)
    (merchantOrigin : String) (now : Int) : List String :=
  (if claim.campaignId ≠ offer.campaignId then ["claim campaignId does not match offer"] else []) ++
  (if claim.campaignVersionMin > offer.campaignVersion then
    ["claim requires a newer campaign version"] else []) ++
  (if claim.resourceOrigin ≠ merchantOrigin then
    ["claim resourceOrigin does not match merchant origin"] else []) ++
  (if !claim.operationIds.any (fun operationId =>
      operationId == "*" || operationId == offer.operationId) then
    ["claim does not cover offer operationId"] else []) ++
  -- `NaN < now` is false
  (if (runtime.host.dateParse claim.expiresAt).any (· < now) then ["claim is expired"] else [])

/-- The status, the errors, and the claim when it is valid. -/
def parseReferralClaim (value : Option (Option ReferralClaimV1)) (offer : Split402OfferV1)
    (merchantOrigin : String) (now : Int) :
    Except String (ClaimStatus × List String × Option ReferralClaimV1) :=
  match value with
  | none => pure (.missing, [], none)
  | some value =>
      match value.filter (referralClaimV1Schema runtime.zod) with
      | none => pure (.invalid, (runtime.claimIssues value).map ("claim " ++ ·), none)
      | some claim => do
          let verification ← verifyReferralClaimObject runtime.toRuntime claim
          if !verification.ok then pure (.invalid, verification.errors, none)
          else
            let semanticErrors := validateClaimAgainstOffer runtime claim offer merchantOrigin now
            if !semanticErrors.isEmpty then pure (.invalid, semanticErrors, none)
            else pure (.valid, [], some claim)

/-- The errors of the signature of an offer, under the key its `kid` names. -/
def validateOfferSignature (options : Split402ServerExtensionOptions) (offer : Split402OfferV1) :
    Except String (List String) :=
  match options.serviceKeyProvider.resolvePublicKey offer.kid with
  | none => pure ["unknown merchant service key kid: " ++ offer.kid]
  | some merchantPublicKey => do
      let signatureCheck ← verifySplit402OfferObject runtime.toRuntime offer merchantPublicKey
      pure signatureCheck.errors

/-- The errors of the digest, when there is one and a payment id, against the HTTP request. -/
def validateRequestDigest (context : VerifyContext ν) (offer : Split402OfferV1)
    (info : AttributionInfo) : Except String (List String) :=
  match info.paymentId, info.requestDigest with
  | some paymentId, some requestDigest => do
      let expectedDigest ← calculateServerRequestDigest runtime context offer paymentId
      pure (if expectedDigest.any (· != requestDigest) then
        ["requestDigest does not match the HTTP request context"] else [])
  | _, _ => pure []

/-- The attribution of a payment, or its errors. -/
def validateAttributionPayload (options : Split402ServerExtensionOptions)
    (context : VerifyContext ν) (now : Int) :
    Except String (Except (List String) ValidatedSplit402Attribution) := do
  let info ← asRecord context.paymentPayload.extension
  match info.offer.filter (split402OfferV1Schema runtime.zod) with
  | none => pure (.error ((runtime.offerIssues info.offer).map ("offer " ++ ·)))
  | some offer =>
      let signatureErrors ← validateOfferSignature runtime options offer
      let digestErrors ← validateRequestDigest runtime context offer info
      let errors := signatureErrors ++ validateOfferAgainstRequirements offer context.requirements ++
        validateOfferTiming runtime offer now ++
        (if offer.resourceOrigin ≠ options.merchantOrigin then
          ["offer resourceOrigin does not match merchant origin"] else []) ++
        (if info.paymentId.isNone then ["missing paymentId"] else []) ++
        (if !info.requestDigest.any (fun digest => "sha256:".toList.isPrefixOf digest.toList) then
          ["missing requestDigest"] else []) ++ digestErrors
      match errors, info.paymentId, info.requestDigest with
      | [], some paymentId, some requestDigest =>
          let (claimStatus, claimErrors, referralClaim) ←
            parseReferralClaim runtime info.referralClaim offer options.merchantOrigin now
          pure (.ok ⟨offer, paymentId, requestDigest, referralClaim, claimStatus, claimErrors⟩)
      | errors, _, _ => pure (.error errors)

/-- The verify hook aborts with a reason and a message, or lets the payment through with the
attribution it has stored under its payment id. -/
inductive BeforeVerify
  | abort (reason message : String)
  | proceed (attribution : ValidatedSplit402Attribution)

/-- The hook; the declaration of the route is not read. -/
def onBeforeVerify (options : Split402ServerExtensionOptions)
    (_declaration : Option RouteDeclarationRecord) (context : VerifyContext ν) (now : Int) :
    Except String BeforeVerify := do
  match ← validateAttributionPayload runtime options context now with
  | .error errors => pure (.abort "split402_invalid_attribution" ("; ".intercalate errors))
  | .ok attribution =>
      if attribution.claimStatus = .invalid ∧ attribution.offer.attributionRequired = true then
        pure (.abort "split402_invalid_referral_claim" ("; ".intercalate attribution.claimErrors))
      else pure (.proceed attribution)

end Split402

import Split402.Protocol.Verification

/-! # Offers and referral claims

The signed objects a payment carries besides its amounts: the offer of the merchant for an operation
and the claim of a referrer. Fields of a constant value are not part of the records; they are in the
objects that are signed. -/

namespace Split402

open Base.Utf16 (Text ofString)

variable {ν : Type}

/-! ## Offers -/

structure Split402OfferV1 where
  campaignId : String
  campaignVersion : Nat
  campaignTermsHash : String
  merchantId : String
  resourceOrigin : String
  operationId : String
  network : String
  asset : String
  requiredAmountAtomic : String
  payToWallet : String
  commissionBps : Nat
  protocolFeeBpsOfCommission : Nat
  attributionRequired : Bool
  allowSelfReferral : Bool
  offerNonce : String
  issuedAt : String
  validUntil : String
  kid : String
  signature : String
  deriving DecidableEq, Repr

/-- The checks on the fields of an offer. -/
def split402OfferV1Schema (zod : Zod) (offer : Split402OfferV1) : Bool :=
  isSplit402Id offer.campaignId && decide (0 < offer.campaignVersion) &&
    decide (offer.campaignVersion ≤ 9007199254740991) && sha256Regex offer.campaignTermsHash &&
    isSplit402Id offer.merchantId && zod.isUrl offer.resourceOrigin && offer.operationId != "" &&
    offer.network != "" && paymentIdentifierSchema offer.asset &&
    decimalAmountRegex offer.requiredAmountAtomic && paymentIdentifierSchema offer.payToWallet &&
    decide (offer.commissionBps ≤ 10000) && decide (offer.protocolFeeBpsOfCommission ≤ 10000) &&
    isSplit402Id offer.offerNonce && rfc3339UtcSchema zod offer.issuedAt &&
    rfc3339UtcSchema zod offer.validUntil && offer.kid != "" && base64UrlRegex offer.signature

def boolField (name : String) (value : Bool) : Text × JsValue ν := (ofString name, .bool value)

def Split402OfferV1.unsignedFields (ofNat : Nat → ν) (offer : Split402OfferV1) :
    List (Text × JsValue ν) :=
  [stringField "protocolVersion" "0.1",
    stringField "campaignId" offer.campaignId,
    (ofString "campaignVersion", .number (ofNat offer.campaignVersion)),
    stringField "campaignTermsHash" offer.campaignTermsHash,
    stringField "merchantId" offer.merchantId,
    stringField "resourceOrigin" offer.resourceOrigin,
    stringField "operationId" offer.operationId,
    stringField "network" offer.network,
    stringField "asset" offer.asset,
    stringField "requiredAmountAtomic" offer.requiredAmountAtomic,
    stringField "payToWallet" offer.payToWallet,
    (ofString "commissionBps", .number (ofNat offer.commissionBps)),
    (ofString "protocolFeeBpsOfCommission", .number (ofNat offer.protocolFeeBpsOfCommission)),
    stringField "commissionBase" "required_amount",
    stringField "settlementMode" "accrual",
    boolField "attributionRequired" offer.attributionRequired,
    boolField "allowSelfReferral" offer.allowSelfReferral,
    stringField "offerNonce" offer.offerNonce,
    stringField "issuedAt" offer.issuedAt,
    stringField "validUntil" offer.validUntil,
    stringField "kid" offer.kid]

def Split402OfferV1.toJson (ofNat : Nat → ν) (offer : Split402OfferV1) : JsValue ν :=
  .object true (offer.unsignedFields ofNat ++ [stringField "signature" offer.signature])

/-! ## Referral claims -/

structure SolanaEd25519Signature where
  publicKey : String
  value : String
  deriving DecidableEq, Repr

structure ReferralClaimV1 where
  routeId : String
  campaignId : String
  campaignVersionMin : Nat
  referrerWallet : String
  payoutWallet : String
  resourceOrigin : String
  operationIds : List String
  issuedAt : String
  expiresAt : String
  nonce : String
  metadataHash : Option String
  signature : SolanaEd25519Signature
  deriving DecidableEq, Repr

/-- The checks on the fields of a claim. -/
def referralClaimV1Schema (zod : Zod) (claim : ReferralClaimV1) : Bool :=
  isSplit402Id claim.routeId && isSplit402Id claim.campaignId &&
    decide (0 < claim.campaignVersionMin) &&
    decide (claim.campaignVersionMin ≤ 9007199254740991) && base58Regex claim.referrerWallet &&
    base58Regex claim.payoutWallet && zod.isUrl claim.resourceOrigin &&
    !claim.operationIds.isEmpty && claim.operationIds.all (· != "") &&
    rfc3339UtcSchema zod claim.issuedAt && rfc3339UtcSchema zod claim.expiresAt &&
    decide (16 ≤ (ofString claim.nonce).length) && decide ((ofString claim.nonce).length ≤ 128) &&
    claim.metadataHash.all sha256Regex && base58Regex claim.signature.publicKey &&
    base64UrlRegex claim.signature.value

def ReferralClaimV1.unsignedFields (ofNat : Nat → ν) (claim : ReferralClaimV1) :
    List (Text × JsValue ν) :=
  [stringField "version" "1",
    stringField "routeId" claim.routeId,
    stringField "campaignId" claim.campaignId,
    (ofString "campaignVersionMin", .number (ofNat claim.campaignVersionMin)),
    stringField "referrerWallet" claim.referrerWallet,
    stringField "payoutWallet" claim.payoutWallet,
    stringField "resourceOrigin" claim.resourceOrigin,
    (ofString "operationIds", .array (claim.operationIds.map (fun id => .string (ofString id)))),
    stringField "issuedAt" claim.issuedAt,
    stringField "expiresAt" claim.expiresAt,
    stringField "nonce" claim.nonce,
    optionalField "metadataHash" claim.metadataHash]

def ReferralClaimV1.toJson (ofNat : Nat → ν) (claim : ReferralClaimV1) : JsValue ν :=
  .object true (claim.unsignedFields ofNat ++
    [(ofString "signature", .object true
      [stringField "type" "solana-ed25519",
        stringField "publicKey" claim.signature.publicKey,
        stringField "value" claim.signature.value])])

/-! ## Verification -/

variable (runtime : Runtime ν)

def buildOfferSigningBytes (offer : Split402OfferV1) : Except String ByteArray :=
  buildDomainSeparatedSigningBytes runtime.numbers (ofString "split402:offer:v1")
    (omitKeys ["signature"] (offer.toJson runtime.ofNat))

def buildReferralClaimSigningBytes (claim : ReferralClaimV1) : Except String ByteArray :=
  buildDomainSeparatedSigningBytes runtime.numbers (ofString "split402:referral-claim:v1")
    (omitKeys ["signature"] (claim.toJson runtime.ofNat))

def verifySplit402OfferObject (offer : Split402OfferV1) (merchantPublicKey : String) :
    Except String ProtocolVerificationResult := do
  let message ← buildOfferSigningBytes runtime offer
  pure (if safeVerify runtime message merchantPublicKey offer.signature then ⟨true, []⟩
    else ⟨false, ["invalid offer signature"]⟩)

/-- `issues` are the messages of the schema library for what it does not admit; what has not the
shape of an offer is `none`. -/
def verifySplit402Offer (zod : Zod) (issues : Option Split402OfferV1 → List String)
    (value : Option Split402OfferV1) (merchantPublicKey : String) :
    Except String ProtocolVerificationResult :=
  match value.filter (split402OfferV1Schema zod) with
  | none => pure ⟨false, issues value⟩
  | some offer => verifySplit402OfferObject runtime offer merchantPublicKey

def verifyReferralClaimObject (claim : ReferralClaimV1) :
    Except String ProtocolVerificationResult := do
  let message ← buildReferralClaimSigningBytes runtime claim
  pure (resultOf (
    (if claim.signature.publicKey ≠ claim.referrerWallet then
      ["signature.publicKey must equal referrerWallet"] else []) ++
    (if !safeVerify runtime message claim.signature.publicKey claim.signature.value then
      ["invalid referral claim signature"] else [])))

def hashReferralClaim (claim : ReferralClaimV1) : Except String String :=
  hashProtocolObject runtime.numbers runtime.sha256Hex (claim.toJson runtime.ofNat)

/-! ## Self-referrals -/

structure SelfReferralPolicyInput where
  allowSelfReferral : Bool
  payerWallet : String
  referrerWallet : Option String
  payoutWallet : Option String
  merchantOwnerWallet : Option String

inductive SelfReferralReason
  | payerIsReferrer | payerIsPayoutWallet | merchantOwnerIsReferrer | merchantOwnerIsPayoutWallet
  deriving DecidableEq, Repr

/-- `none` is allowed; otherwise the reason why not. -/
def evaluateSelfReferralPolicy (input : SelfReferralPolicyInput) : Option SelfReferralReason :=
  if input.allowSelfReferral then none
  else if input.referrerWallet.isNone && input.payoutWallet.isNone then none
  else if input.referrerWallet == some input.payerWallet then some .payerIsReferrer
  else if input.payoutWallet == some input.payerWallet then some .payerIsPayoutWallet
  else if input.merchantOwnerWallet.isSome && input.merchantOwnerWallet == input.referrerWallet then
    some .merchantOwnerIsReferrer
  else if input.merchantOwnerWallet.isSome && input.merchantOwnerWallet == input.payoutWallet then
    some .merchantOwnerIsPayoutWallet
  else none

end Split402

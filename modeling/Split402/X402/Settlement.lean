import Split402.Base.Table
import Split402.Base.Run
import Split402.X402.Server

/-! # Settlements

The receipt of a settled payment. The extension keeps the attribution of every payment that it has
let through under its payment id; when the payment is settled it looks the campaign up again, and
signs a receipt of the stored offer and of the settlement. -/

namespace Split402

open Base

variable {ν : Type}

/-! ## The receipt -/

/-- What a settlement answers; a field that is no string is `none`. -/
structure SettleResponse where
  success : Bool
  payer : Option String
  transaction : Option String
  network : String
  amount : Option String

def requiredString (value : Option String) (label : String) : Except String String :=
  match value with
  | none => throw s!"missing {label}"
  | some value => if value = "" then throw s!"missing {label}" else pure value

/-- `serializeAtomicAmount` of a `bigint`. -/
def serializeAtomicBigint (value : Int) : Except String String :=
  if value < 0 then throw "atomic amount cannot be negative"
  else pure (serializeAtomicAmount value.toNat)

/-- The claim a commission is paid for: a valid one, unless the policy of the offer forbids it. The
merchant does not name its owner's wallet. -/
def commissionedClaim (attribution : ValidatedSplit402Attribution) (settlement : SettleResponse) :
    Except String (Option ReferralClaimV1) :=
  match attribution.claimStatus, attribution.referralClaim with
  | .valid, some claim => do
      let payerWallet ← requiredString settlement.payer "settlement payer"
      match evaluateSelfReferralPolicy
          { allowSelfReferral := attribution.offer.allowSelfReferral
            payerWallet := payerWallet
            referrerWallet := some claim.referrerWallet
            payoutWallet := some claim.payoutWallet
            merchantOwnerWallet := none } with
      | none => pure (some claim)
      | some _ => pure none
  | _, _ => pure none

variable (runtime : X402Runtime ν)

/-- The receipt with the fields of its route, if a commission is paid. -/
def withRoute (receipt : Split402ReceiptV1) :
    Option ReferralClaimV1 → Except String Split402ReceiptV1
  | none => pure receipt
  | some claim => do
      let referralClaimHash ← hashReferralClaim runtime.toRuntime claim
      pure
        { receipt with
          routeId := some claim.routeId
          referralClaimHash := some referralClaimHash
          referrerWallet := some claim.referrerWallet
          payoutWallet := some claim.payoutWallet }

/-- The receipt without its signature. -/
def buildReceipt (attribution : ValidatedSplit402Attribution) (campaign : Split402CampaignConfig)
    (merchantId merchantOrigin : String) (settlement : SettleResponse) (kid : String)
    (call : ServerCall) : Except String Split402ReceiptV1 := do
  let offer := attribution.offer
  let requiredAmount ← atomicAmount offer.requiredAmountAtomic
  let claim ← commissionedClaim attribution settlement
  let commissionBps := if claim.isSome then offer.commissionBps else 0
  let protocolFeeBpsOfCommission := if claim.isSome then offer.protocolFeeBpsOfCommission else 0
  let commission ← calculateCommission requiredAmount commissionBps protocolFeeBpsOfCommission
  let timestamp := toRfc3339Utc runtime call.now
  let payerWallet ← requiredString settlement.payer "settlement payer"
  let settlementTxSignature ← requiredString settlement.transaction "settlement transaction"
  let commissionAmountAtomic ← serializeAtomicBigint commission.commission
  let protocolFeeAtomic ← serializeAtomicBigint commission.protocolFee
  let referrerCreditAtomic ← serializeAtomicBigint commission.referrerCredit
  withRoute runtime
    { receiptId := "rcp_" ++ call.randomHex
      merchantId := merchantId
      merchantOrigin := merchantOrigin
      operationId := offer.operationId
      requestDigest := attribution.requestDigest
      campaignId := offer.campaignId
      campaignVersion := offer.campaignVersion
      campaignTermsHash := campaign.campaignTermsHash
      routeId := none
      referralClaimHash := none
      referrerWallet := none
      payoutWallet := none
      paymentId := attribution.paymentId
      network := settlement.network
      asset := offer.asset
      payerWallet := payerWallet
      payToWallet := offer.payToWallet
      requiredAmountAtomic := offer.requiredAmountAtomic
      settledAmountAtomic := some (settlement.amount.getD offer.requiredAmountAtomic)
      settlementTxSignature := settlementTxSignature
      commissionBps := commissionBps
      protocolFeeBpsOfCommission := protocolFeeBpsOfCommission
      commissionBaseAtomic := offer.requiredAmountAtomic
      commissionAmountAtomic := commissionAmountAtomic
      protocolFeeAtomic := protocolFeeAtomic
      referrerCreditAtomic := referrerCreditAtomic
      offerNonce := offer.offerNonce
      settledAt := timestamp
      issuedAt := timestamp
      recordingAccepted := true
      eventId := none
      kid := kid
      signature := "" } claim

/-! ## The extension -/

structure SettleResultContext where
  paymentPayload : PaymentPayload
  result : SettleResponse

/-- The attributions of the payments that were let through. -/
structure Split402ResourceServer where
  validatedByPaymentId : Table ValidatedSplit402Attribution.paymentId

namespace Split402ResourceServer

variable (options : Split402ServerExtensionOptions) (server : Split402ResourceServer)

/-- The hook, with what it stores. -/
def beforeVerify (declaration : Option RouteDeclarationRecord) (context : VerifyContext ν)
    (now : Int) : Except String (BeforeVerify × Split402ResourceServer) := do
  let answer ← onBeforeVerify runtime options declaration context now
  match answer with
  | .abort reason message => pure (.abort reason message, server)
  | .proceed attribution =>
      pure (.proceed attribution,
        { validatedByPaymentId := server.validatedByPaymentId.upsert attribution })

def getValidatedAttribution (context : SettleResultContext) :
    Except String (Option ValidatedSplit402Attribution) := do
  let info ← asRecord context.paymentPayload.extension
  pure (info.paymentId.bind server.validatedByPaymentId.find?)

/-- The receipt that the sink is handed and the client gets. -/
def enrichSettlementResponse (declaration : Option RouteDeclarationRecord)
    (context : SettleResultContext) (call : ServerCall) :
    Except String (Option Split402ReceiptV1) := do
  let attribution ← server.getValidatedAttribution context
  match attribution.filter (fun _ => context.result.success) with
  | none => pure none
  | some attribution => do
      let serviceKey := options.serviceKeyProvider.current
      let campaign ←
        options.resolveCampaign (parseDeclarationOrOffer declaration attribution.offer)
      let receipt ← buildReceipt runtime attribution campaign options.merchantId
        options.merchantOrigin context.result serviceKey.kid call
      some <$> signReceipt runtime receipt serviceKey.privateSeed

/-- A payment that is verified; what the options say may change from one call to the next. -/
structure VerifyCall (ν : Type) where
  options : Split402ServerExtensionOptions
  declaration : Option RouteDeclarationRecord
  context : VerifyContext ν
  now : Int

/-- The extension over its payments, which it verifies in any order. A settlement stores nothing. -/
def system : System Split402ResourceServer (VerifyCall ν) where
  init server := server = ⟨Table.empty⟩
  step server call server' := ∃ answer,
    server.beforeVerify runtime call.options call.declaration call.context call.now =
      .ok (answer, server')

end Split402ResourceServer

end Split402

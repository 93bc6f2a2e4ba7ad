import Split402.Registry.Campaigns
import Split402.Registry.Merchants
import Split402.Registry.Routes

/-! # The policy of receipts

`ControlPlaneReceiptPolicyVerifier`: a receipt is held against what the registries of merchants,
campaigns and routes say when it is verified. -/

namespace Split402

variable {ν : Type}

/-- The registries of the control plane. -/
structure Registries (ν : Type) where
  merchants : MerchantRegistry
  campaigns : CampaignRegistry ν
  routes : RouteRegistry

namespace ReceiptPolicy

variable (runtime : RegistryRuntime ν) (registries : Registries ν) (receipt : Split402ReceiptV1)

/-- `expectReceiptField`. -/
def expectReceiptField {α : Type} [DecidableEq α] (label : String) (actual expected : α) :
    List String :=
  if actual ≠ expected then [label ++ " does not match campaign policy"] else []

def merchantErrors (merchant : Option MerchantProfile) : Except RegistryError (List String) :=
  match merchant with
  | none => pure ["merchant does not exist"]
  | some merchant => do
      let serviceKey ← registries.merchants.resolveKey runtime receipt.merchantId receipt.kid
        .offerReceipt receipt.issuedAt
      pure (
        (if merchant.merchant.status ≠ .active then ["merchant is not active"] else []) ++
        (if merchant.origins.any
            (fun origin => origin.origin = receipt.merchantOrigin ∧ origin.status = .verified) then
          [] else ["merchant origin is not verified"]) ++
        (if serviceKey.isNone then ["merchant service key is not active for receipt kid"] else []))

def campaignErrors (campaign : Option (CampaignProfile ν)) : List String :=
  match campaign with
  | none => ["campaign does not exist"]
  | some campaign =>
      (if campaign.campaign.merchantId ≠ receipt.merchantId then
        ["campaign merchantId does not match receipt merchantId"] else []) ++
      (if campaign.campaign.status ≠ .active then ["campaign is not active"] else [])

/-- The settlement mode is the same for all receipts and terms. -/
def versionErrors (version : Option (CampaignVersionRecord ν)) : List String :=
  match version with
  | none => ["campaign version does not exist"]
  | some version =>
      (if version.termsHash ≠ receipt.campaignTermsHash then
        ["campaign terms hash does not match receipt"] else []) ++
      (if version.terms.operations.any (·.operationId = receipt.operationId) then []
        else ["operationId is not in campaign version terms"]) ++
      expectReceiptField "merchantOrigin" receipt.merchantOrigin version.terms.resourceOrigin ++
      expectReceiptField "network" receipt.network version.terms.network ++
      expectReceiptField "asset" receipt.asset version.terms.asset ++
      expectReceiptField "payToWallet" receipt.payToWallet version.terms.payToWallet ++
      expectReceiptField "requiredAmountAtomic" receipt.requiredAmountAtomic
        version.terms.requiredAmountAtomic ++
      (if receipt.routeId.isSome then
        expectReceiptField "commissionBps" receipt.commissionBps version.terms.commissionBps ++
        expectReceiptField "protocolFeeBpsOfCommission" receipt.protocolFeeBpsOfCommission
          version.terms.protocolFeeBpsOfCommission
      else [])

def unattributedErrors : List String :=
  if receipt.commissionAmountAtomic ≠ "0" ∨ receipt.protocolFeeAtomic ≠ "0" ∨
      receipt.referrerCreditAtomic ≠ "0" then
    ["unattributed receipt must have zero commission amounts"]
  else []

/-- `routeCoversOperation`. -/
def routeCoversOperation (operationIds : List String) (operationId : String) : Bool :=
  operationIds.any (fun candidate => candidate = "*" ∨ candidate = operationId)

def routeErrors (route : RouteRecord) : List String :=
  (if route.campaignId ≠ receipt.campaignId then
    ["route campaignId does not match receipt campaignId"] else []) ++
  (if route.status ≠ .active then ["route is not active"] else []) ++
  (if Registry.parsesAfter runtime route.activatedAt receipt.issuedAt ∨
      Registry.parsesAfter runtime route.issuedAt receipt.issuedAt ∨
      Registry.parsesNotAfter runtime route.expiresAt receipt.issuedAt then
    ["route is not active at receipt time"] else []) ++
  (if route.resourceOrigin ≠ receipt.merchantOrigin then
    ["route resourceOrigin does not match receipt merchantOrigin"] else []) ++
  (if !routeCoversOperation route.operationIds receipt.operationId then
    ["route does not cover receipt operationId"] else [])

def routeVersionErrors (routeVersions : List RouteVersionRecord) : List String :=
  match routeVersions.find? (fun version => some version.claimHash = receipt.referralClaimHash) with
  | none => ["receipt referralClaimHash does not match route claim hash"]
  | some version =>
      (if receipt.campaignVersion < version.campaignVersionMin then
        ["route campaignVersionMin is greater than receipt campaignVersion"] else []) ++
      expectReceiptField "payoutWallet" receipt.payoutWallet (some version.payoutWallet)

def selfReferralText : SelfReferralReason → String
  | .payerIsReferrer => "payer_is_referrer"
  | .payerIsPayoutWallet => "payer_is_payout_wallet"
  | .merchantOwnerIsReferrer => "merchant_owner_is_referrer"
  | .merchantOwnerIsPayoutWallet => "merchant_owner_is_payout_wallet"

def selfReferralErrors (merchant : Option MerchantProfile)
    (version : Option (CampaignVersionRecord ν)) : List String :=
  match version with
  | none => []
  | some version =>
      match evaluateSelfReferralPolicy
          { allowSelfReferral := version.terms.allowSelfReferral
            payerWallet := receipt.payerWallet
            referrerWallet := receipt.referrerWallet
            payoutWallet := receipt.payoutWallet
            merchantOwnerWallet := merchant.map (·.merchant.ownerWallet) } with
      | none => []
      | some reason =>
          ["self-referral policy violation: " ++ selfReferralText reason]

/-- The errors of what a receipt with a route says of it. -/
def attributionErrors (merchant : Option MerchantProfile)
    (version : Option (CampaignVersionRecord ν)) (routeId : String) :
    Except RegistryError (List String) :=
  match registries.routes.getRoute routeId with
  | none => pure ["route does not exist"]
  | some route => do
      let routeVersions ← registries.routes.listRouteVersions routeId
      pure (routeErrors runtime receipt route ++ routeVersionErrors receipt routeVersions ++
        expectReceiptField "referrerWallet" receipt.referrerWallet (some route.referrerWallet) ++
        selfReferralErrors receipt merchant version)

def verify : Except RegistryError ProtocolVerificationResult := do
  let merchant := registries.merchants.getMerchantProfile receipt.merchantId
  let merchantErrors ← merchantErrors runtime registries receipt merchant
  let campaign ← registries.campaigns.getCampaign receipt.campaignId
  let version ← registries.campaigns.getCampaignVersion receipt.campaignId
    (.finite receipt.campaignVersion)
  let errors := merchantErrors ++ campaignErrors receipt campaign ++ versionErrors receipt version ++
    (if receipt.offerNonce = "" then ["offerNonce is empty"] else [])
  match receipt.routeId with
  | none => pure (resultOf (errors ++ unattributedErrors receipt))
  | some routeId => do
      let attributionErrors ← attributionErrors runtime registries receipt merchant version routeId
      pure (resultOf (errors ++ attributionErrors))

end ReceiptPolicy

end Split402

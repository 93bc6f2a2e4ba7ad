import Mathlib
import Split402.Proof.Formats
import Split402.Proof.ReceiptPolicy
import Split402.Proof.Settlement

/-! # Receipts across an update of the campaign

A receipt takes the version and the rates of its campaign from the stored offer, and the hash of the
terms from the campaign as it is looked up when the payment is settled. So it names one version of
the campaign exactly when the terms have kept their hash since the offer. -/

namespace Split402

open Base

variable {ν : Type}

/-- What an offer or a receipt says of the version of its campaign. -/
structure CampaignTuple where
  campaignVersion : Nat
  campaignTermsHash : String
  commissionBps : Nat
  protocolFeeBpsOfCommission : Nat
  deriving DecidableEq, Repr

def Split402OfferV1.campaignTuple (offer : Split402OfferV1) : CampaignTuple :=
  ⟨offer.campaignVersion, offer.campaignTermsHash, offer.commissionBps,
    offer.protocolFeeBpsOfCommission⟩

def Split402ReceiptV1.campaignTuple (receipt : Split402ReceiptV1) : CampaignTuple :=
  ⟨receipt.campaignVersion, receipt.campaignTermsHash, receipt.commissionBps,
    receipt.protocolFeeBpsOfCommission⟩

/-- The receipt names the offer's version of the campaign. Without a route it has no rates, and the
control plane compares none. -/
def NamesVersion (receipt : Split402ReceiptV1) (offer : Split402OfferV1) : Prop :=
  receipt.campaignVersion = offer.campaignVersion ∧
    receipt.campaignTermsHash = offer.campaignTermsHash ∧
    (receipt.routeId.isSome → receipt.campaignTuple = offer.campaignTuple)

/-- The payment has a valid claim, whose wallets the offer's policy allows for the payer. -/
def CommissionDue (attribution : ValidatedSplit402Attribution) (settlement : SettleResponse) : Prop :=
  attribution.claimStatus = .valid ∧ ∃ claim payerWallet,
    attribution.referralClaim = some claim ∧ settlement.payer = some payerWallet ∧
      evaluateSelfReferralPolicy
        { allowSelfReferral := attribution.offer.allowSelfReferral
          payerWallet := payerWallet
          referrerWallet := some claim.referrerWallet
          payoutWallet := some claim.payoutWallet
          merchantOwnerWallet := none } = none

section Receipts

variable {runtime : X402Runtime ν} {attribution : ValidatedSplit402Attribution}
  {campaign : Split402CampaignConfig} {merchantId merchantOrigin kid : String}
  {settlement : SettleResponse} {call : ServerCall} {receipt : Split402ReceiptV1}
  {claim : Option ReferralClaimV1}

theorem commissionDue_iff (h : commissionedClaim attribution settlement = .ok claim) :
    CommissionDue attribution settlement ↔ claim.isSome := by
  constructor
  · rintro ⟨hstatus, validated, payerWallet, hclaim, hpayer, hallowed⟩
    cases claim with
    | some _ => rfl
    | none =>
        obtain ⟨payer, hpayer', hforbidden⟩ := commissionedClaim_eq_none hstatus hclaim h
        rw [hpayer, Option.some.injEq] at hpayer'
        rw [hpayer'] at hallowed
        exact absurd hallowed hforbidden
  · intro hsome
    obtain ⟨validated, rfl⟩ := Option.isSome_iff_exists.mp hsome
    obtain ⟨hstatus, hclaim, payerWallet, hpayer, hallowed⟩ := commissionedClaim_eq_some h
    exact ⟨hstatus, validated, payerWallet, hclaim, hpayer, hallowed⟩

/-- The rates of a receipt are the offer's, unless no commission is due and the offer has one. -/
theorem Built.rates_iff (h : Built runtime attribution campaign merchantId merchantOrigin settlement
    kid call receipt claim) :
    receipt.commissionBps = attribution.offer.commissionBps ∧
        receipt.protocolFeeBpsOfCommission = attribution.offer.protocolFeeBpsOfCommission ↔
      CommissionDue attribution settlement ∨
        attribution.offer.commissionBps = 0 ∧ attribution.offer.protocolFeeBpsOfCommission = 0 := by
  rw [commissionDue_iff h.commissioned, h.commissionBps, h.protocolFeeBpsOfCommission]
  cases claim with
  | some claim => simp
  | none =>
      simp only [Option.isSome_none, Bool.false_eq_true, if_false, false_or]
      constructor
      · rintro ⟨hcommission, hfee⟩
        exact ⟨hcommission.symm, hfee.symm⟩
      · rintro ⟨hcommission, hfee⟩
        exact ⟨hcommission.symm, hfee.symm⟩

theorem Built.campaignTuple_iff (h : Built runtime attribution campaign merchantId merchantOrigin
    settlement kid call receipt claim) :
    receipt.campaignTuple = attribution.offer.campaignTuple ↔
      campaign.campaignTermsHash = attribution.offer.campaignTermsHash ∧
        (CommissionDue attribution settlement ∨
          attribution.offer.commissionBps = 0 ∧
            attribution.offer.protocolFeeBpsOfCommission = 0) := by
  rw [← h.rates_iff, Split402ReceiptV1.campaignTuple, Split402OfferV1.campaignTuple,
    CampaignTuple.mk.injEq, h.campaignVersion, h.campaignTermsHash]
  simp

end Receipts

namespace Split402ResourceServer

variable {runtime : X402Runtime ν} {options : Split402ServerExtensionOptions}
  {server : Split402ResourceServer} {declaration : Option RouteDeclarationRecord}
  {context : SettleResultContext} {call : ServerCall} {receipt : Split402ReceiptV1}
  {attribution : ValidatedSplit402Attribution} {campaign : Split402CampaignConfig}

/-- **A receipt names the offer's version of the campaign exactly when the campaign has the offer's
terms when the payment is settled**, and the control plane's check of the terms hash refuses all
others. The rates of a receipt without a commission are zero. -/
theorem receipt_campaign_iff (hreachable : (system runtime).Reachable (fun _ _ => True) server)
    (hattribution : server.getValidatedAttribution context = .ok (some attribution))
    (hcampaign : options.resolveCampaign (parseDeclarationOrOffer declaration attribution.offer) =
      .ok campaign)
    (hreceipt : server.enrichSettlementResponse runtime options declaration context call =
      .ok (some receipt)) :
    LetThrough runtime attribution ∧
    (NamesVersion receipt attribution.offer ↔
      campaign.campaignTermsHash = attribution.offer.campaignTermsHash) ∧
    (receipt.campaignTuple = attribution.offer.campaignTuple ↔
      campaign.campaignTermsHash = attribution.offer.campaignTermsHash ∧
        (CommissionDue attribution context.result ∨
          attribution.offer.commissionBps = 0 ∧
            attribution.offer.protocolFeeBpsOfCommission = 0)) ∧
    ∀ (registry : RegistryRuntime ν) (registries : Registries ν) (version : CampaignVersionRecord ν)
      (result : ProtocolVerificationResult),
      registries.campaigns.getCampaignVersion attribution.offer.campaignId
        (.finite attribution.offer.campaignVersion) = .ok (some version) →
      version.termsHash = attribution.offer.campaignTermsHash →
      ReceiptPolicy.verify registry registries receipt = .ok result →
      ("campaign terms hash does not match receipt" ∉ result.errors ↔
        campaign.campaignTermsHash = attribution.offer.campaignTermsHash) := by
  obtain ⟨attribution', campaign', claim, hattribution', -, hcampaign', hbuilt⟩ :=
    enrichSettlementResponse_eq_some hreceipt
  rw [hattribution, Except.ok.injEq, Option.some.injEq] at hattribution'
  subst hattribution'
  rw [hcampaign, Except.ok.injEq] at hcampaign'
  subst hcampaign'
  refine ⟨storesLetThrough_reachable hreachable _ (mem_of_getValidatedAttribution hattribution), ?_,
    hbuilt.campaignTuple_iff, ?_⟩
  · constructor
    · intro hnames
      rw [← hbuilt.campaignTermsHash]
      exact hnames.2.1
    · intro hhash
      refine ⟨hbuilt.campaignVersion, hbuilt.campaignTermsHash.trans hhash, ?_⟩
      intro hroute
      rw [hbuilt.routeId, Option.isSome_map] at hroute
      have hdue := (commissionDue_iff hbuilt.commissioned).mpr hroute
      exact hbuilt.campaignTuple_iff.mpr ⟨hhash, .inl hdue⟩
  · intro registry registries version result hversion hterms hverify
    rw [← hbuilt.campaignId, ← hbuilt.campaignVersion] at hversion
    have hmem := ReceiptPolicy.termsHash_mem_errors hverify hversion
    rw [ReceiptPolicy.termsHashText, hbuilt.campaignTermsHash, hterms] at hmem
    rw [hmem, not_not]
    exact eq_comm

end Split402ResourceServer

/-! ## A sale across an update -/

namespace Sample

/-- The offer under the first terms of the campaign, signed by the merchant. -/
def saleOffer : Split402OfferV1 :=
  { offer with
    campaignTermsHash := "sha256:" ++ firstTermsHash
    operationId := "GET /v1/quote"
    attributionRequired := false
    signature := "FnZNjg5Kum6KFqu69VSvqJCQzkz3SKBZr2kaHGrmSorjO80GFox-ddcBECv7HiCj7US9eWF6P14eszfpuX9zDg" }

def saleOfferSignature : List UInt8 :=
  [22, 118, 77, 142, 14, 74, 186, 110, 138, 22, 171, 186, 245, 84, 175, 168, 144, 144, 206, 76, 247,
    72, 160, 89, 175, 105, 26, 28, 106, 230, 74, 138, 227, 59, 205, 6, 22, 140, 126, 117, 215, 1, 16,
    43, 251, 30, 32, 163, 237, 68, 189, 121, 97, 122, 63, 94, 30, 179, 55, 233, 185, 127, 115, 14]

/-- The receipt of the sale with the terms hash of the campaign as it then is. -/
def settledSale (termsHash signature : String) : Split402ReceiptV1 :=
  { routeSale with
    receiptId := "rcp_00000000000000000000000000000001"
    campaignTermsHash := "sha256:" ++ termsHash
    settledAmountAtomic := some "100"
    signature := signature }

/-- The receipt of the sale after the update, signed by the merchant. -/
def movedSale : Split402ReceiptV1 := settledSale secondTermsHash
  "ZQtGQtfu9E0M0mXThFr5pHp7EZGlYN2MZdEbMuDuAGSujRU-apwUU-Hz1JDkxjRTzU7Ad234lzoNzuHbmqKXBA"

def movedSaleSignature : List UInt8 :=
  [101, 11, 70, 66, 215, 238, 244, 77, 12, 210, 101, 211, 132, 90, 249, 164, 122, 123, 17, 145, 165,
    96, 221, 140, 101, 209, 27, 50, 224, 238, 0, 100, 174, 141, 21, 62, 106, 156, 20, 83, 225, 243,
    212, 144, 228, 198, 52, 83, 205, 78, 192, 119, 109, 248, 151, 58, 13, 206, 225, 219, 154, 162,
    151, 4]

/-- The merchant has signed the offer of which these are the bytes that are signed. -/
def isSaleOfferSignature (message : ByteArray) (signature : List UInt8) : Bool :=
  signature == saleOfferSignature && decide (message = offerSigningBytes saleRuntime saleOffer)

/-- The signature of the one receipt that there is to sign. -/
def signSale (receipt : Split402ReceiptV1) (signature : List UInt8) (message : ByteArray) :
    List UInt8 :=
  if buildReceiptSigningBytes saleRuntime receipt = .ok message then signature else []

/-- An engine of the merchant's that has one receipt to sign, and verifies offers and claims. -/
def settlementRuntime (receipt : Split402ReceiptV1) (signature : List UInt8) : X402Runtime Whole where
  numbers := wholeNumbers
  ofNat := .nat
  sha256Hex := registryDigest
  nodeVerify publicKey message signature :=
    registryVerify publicKey message signature ||
      (publicKey == merchantKeyBytes && isSaleOfferSignature message signature)
  host := secondsHost
  zod := zod
  toUpperCase := upper
  urlPathname _ := none
  nodeSign _ message := signSale receipt signature message
  offerIssues _ := []
  claimIssues _ := []

theorem settlementRuntime_standard (receipt : Split402ReceiptV1) (signature : List UInt8) :
    (settlementRuntime receipt signature).toRuntime.Standard :=
  ⟨wholeNumbers_standard, fun _ => rfl⟩

/-- The campaign with its first terms and after the update. -/
def firstCampaign : Split402CampaignConfig :=
  ⟨campaignId, 1, "sha256:" ++ firstTermsHash, 1000, 0, false, false⟩

def secondCampaign : Split402CampaignConfig :=
  ⟨campaignId, 2, "sha256:" ++ secondTermsHash, 500, 0, false, false⟩

def settlementOptions (campaign : Split402CampaignConfig) : Split402ServerExtensionOptions :=
  { offerOptions with resolveCampaign := fun _ => .ok campaign }

def saleRequestDigest : String :=
  "sha256:aaaaaaaaaaaaaaaaaaaaaaaaaaaaaaaaaaaaaaaaaaaaaaaaaaaaaaaaaaaaaaaa"

def salePaymentId : String := "pay_00000000000000000000000000000001"

def salePayload : PaymentPayload :=
  ⟨"payment", none, some ⟨some saleOffer, some salePaymentId, some saleRequestDigest,
    some (some firstClaim)⟩⟩

/-- The payment comes over a transport that is not HTTP. -/
def saleVerify (campaign : Split402CampaignConfig) :
    Split402ResourceServer.VerifyCall Whole where
  options := settlementOptions campaign
  declaration := none
  context := ⟨salePayload, offerRequirement, none⟩
  now := 1767225600000

def saleAttribution : ValidatedSplit402Attribution :=
  ⟨saleOffer, salePaymentId, saleRequestDigest, some firstClaim, .valid, []⟩

def saleSettlement : SettleResponse :=
  ⟨true, some wallet, some "settlement_00000000000000000000000000000001", "solana:devnet", none⟩

def saleContext : SettleResultContext := ⟨salePayload, saleSettlement⟩

/-- The extension once the payment is let through. -/
def saleServer : Split402ResourceServer := ⟨Table.empty.upsert saleAttribution⟩

def saleCall : ServerCall := ⟨1767225600000, "00000000000000000000000000000001"⟩

section Verify

variable (receipt : Split402ReceiptV1) (signature : List UInt8)

theorem firstTermsHash_regex : sha256Regex ("sha256:" ++ firstTermsHash) = true := by
  rw [sha256Regex, String.toList_append, firstTermsHash]
  decide

theorem saleOffer_schema : split402OfferV1Schema zod saleOffer = true :=
  offer_schema_of firstTermsHash_regex (by decide) (base64UrlRegex_ofList (by decide))

theorem settlementRuntime_nodeVerify (publicKey : List UInt8) (message : ByteArray)
    (value : List UInt8) : (settlementRuntime receipt signature).nodeVerify publicKey message value =
      (registryVerify publicKey message value ||
        (publicKey == merchantKeyBytes && isSaleOfferSignature message value)) := rfl

theorem settlementRuntime_nodeSign (seed : List UInt8) (message : ByteArray) :
    (settlementRuntime receipt signature).nodeSign seed message =
      signSale receipt signature message := by
  simp only [settlementRuntime]

theorem saleOffer_verifies (campaign : Split402CampaignConfig) :
    validateOfferSignature (settlementRuntime receipt signature) (settlementOptions campaign)
      saleOffer = .ok [] := by
  have hmessage := buildOfferSigningBytes_eq (settlementRuntime_standard receipt signature) saleOffer
  have hbytes : offerSigningBytes (settlementRuntime receipt signature).toRuntime saleOffer =
      offerSigningBytes saleRuntime saleOffer := rfl
  rw [hbytes] at hmessage
  have hdecodes : base64UrlDecode saleOffer.signature = .ok saleOfferSignature :=
    base64UrlDecode_ofList (by decide) (by decide +kernel)
  have hknown : isSaleOfferSignature (offerSigningBytes saleRuntime saleOffer) saleOfferSignature =
      true := by
    rw [isSaleOfferSignature, beq_self_eq_true, Bool.true_and, decide_eq_true_eq]
  have hverify : (settlementRuntime receipt signature).nodeVerify merchantKeyBytes
      (offerSigningBytes saleRuntime saleOffer) saleOfferSignature = true := by
    rw [settlementRuntime_nodeVerify, hknown, beq_self_eq_true, Bool.and_self, Bool.or_true]
  have hsafe : safeVerify (settlementRuntime receipt signature).toRuntime
      (offerSigningBytes saleRuntime saleOffer) merchantPublicKey saleOffer.signature = true :=
    safeVerify_of_decodes merchantKey_decodes ⟨hdecodes, rfl⟩ hverify
  have hkey : (settlementOptions campaign).serviceKeyProvider.resolvePublicKey saleOffer.kid =
      some merchantPublicKey := rfl
  rw [validateOfferSignature, hkey]
  refine bind_eq_ok.mpr ⟨⟨true, []⟩, bind_eq_ok.mpr ⟨_, hmessage, ?_⟩, rfl⟩
  rw [hsafe]
  rfl

theorem firstClaim_parses : parseReferralClaim (settlementRuntime receipt signature)
    (some (some firstClaim)) saleOffer "https://merchant.example" 1767225600000 =
      .ok (.valid, [], some firstClaim) := by
  have hschema : (some firstClaim).filter
      (referralClaimV1Schema (settlementRuntime receipt signature).zod) = some firstClaim := by
    rw [Option.filter_some]
    exact if_pos firstClaim_schema
  have hbytes : claimSigningBytes (settlementRuntime receipt signature).toRuntime firstClaim =
      claimSigningBytes registryRuntime.toRuntime firstClaim := rfl
  obtain ⟨key, bytes, hkey, hdecodes, hlength, hverify⟩ := signed_of_safeVerify firstClaim_verifies
  have hkeyLength : key.length = 32 := by
    have hreferrer := referrerKey_decodes
    rw [show base58Decode referrerWallet = .ok key from hkey, Except.ok.injEq] at hreferrer
    rw [hreferrer.1]
    exact hreferrer.2
  have hverified : safeVerify (settlementRuntime receipt signature).toRuntime
      (claimSigningBytes (settlementRuntime receipt signature).toRuntime firstClaim)
      firstClaim.signature.publicKey firstClaim.signature.value = true := by
    refine safeVerify_of_decodes ⟨hkey, hkeyLength⟩ ⟨hdecodes, hlength⟩ ?_
    have hclaim : registryVerify key (claimSigningBytes registryRuntime.toRuntime firstClaim) bytes =
        true := hverify
    rw [settlementRuntime_nodeVerify, hbytes, hclaim, Bool.true_or]
  obtain ⟨result, hresult, hok⟩ := (verifyReferralClaimObject_iff
    (settlementRuntime_standard receipt signature)).mpr ⟨rfl, hverified⟩
  have hcovers : validateClaimAgainstOffer offerRuntime firstClaim saleOffer
      "https://merchant.example" 1767225600000 = [] := by
    decide
  have hhost : validateClaimAgainstOffer (settlementRuntime receipt signature) firstClaim saleOffer
      "https://merchant.example" 1767225600000 = validateClaimAgainstOffer offerRuntime firstClaim
        saleOffer "https://merchant.example" 1767225600000 := rfl
  rw [parseReferralClaim, hschema]
  refine bind_eq_ok.mpr ⟨result, hresult, ?_⟩
  rw [hok, hhost, hcovers]
  rfl

theorem sale_letThrough (campaign : Split402CampaignConfig) :
    onBeforeVerify (settlementRuntime receipt signature) (saleVerify campaign).options
      (saleVerify campaign).declaration (saleVerify campaign).context (saleVerify campaign).now =
      .ok (.proceed saleAttribution) := by
  have hoffer : (some saleOffer).filter
      (split402OfferV1Schema (settlementRuntime receipt signature).zod) = some saleOffer := by
    rw [Option.filter_some]
    exact if_pos saleOffer_schema
  have hrequirements : validateOfferAgainstRequirements saleOffer offerRequirement = [] := by
    decide
  have htiming : validateOfferTiming offerRuntime saleOffer 1767225600000 = [] := by
    decide
  have hhost : validateOfferTiming (settlementRuntime receipt signature) saleOffer 1767225600000 =
      validateOfferTiming offerRuntime saleOffer 1767225600000 := rfl
  have hvalid : validateAttributionPayload (settlementRuntime receipt signature)
      (saleVerify campaign).options (saleVerify campaign).context (saleVerify campaign).now =
      .ok (.ok saleAttribution) := by
    refine bind_eq_ok.mpr ⟨_, rfl, ?_⟩
    dsimp only [saleVerify, salePayload]
    rw [hoffer]
    refine bind_eq_ok.mpr ⟨[], saleOffer_verifies receipt signature campaign, ?_⟩
    refine bind_eq_ok.mpr ⟨[], rfl, ?_⟩
    rw [hrequirements, hhost, htiming]
    exact bind_eq_ok.mpr ⟨_, firstClaim_parses receipt signature, rfl⟩
  refine bind_eq_ok.mpr ⟨_, hvalid, ?_⟩
  rfl

theorem saleServer_reachable (campaign : Split402CampaignConfig) :
    (Split402ResourceServer.system (settlementRuntime receipt signature)).Reachable
      (fun _ _ => True) saleServer := by
  refine .step (.init rfl) trivial (i := saleVerify campaign) ⟨.proceed saleAttribution, ?_⟩
  exact bind_eq_ok.mpr ⟨_, sale_letThrough receipt signature campaign, rfl⟩

end Verify

theorem firstClaim_commissioned : commissionedClaim saleAttribution saleSettlement =
    .ok (some firstClaim) := by
  have hallowed : evaluateSelfReferralPolicy
      { allowSelfReferral := saleAttribution.offer.allowSelfReferral
        payerWallet := wallet
        referrerWallet := some firstClaim.referrerWallet
        payoutWallet := some firstClaim.payoutWallet
        merchantOwnerWallet := none } = none := by decide
  refine bind_eq_ok.mpr ⟨wallet, rfl, ?_⟩
  rw [hallowed]
  rfl

/-- The receipt of the sale is built with the terms hash of the campaign. -/
theorem settledSale_built (receipt : Split402ReceiptV1) (signature : List UInt8)
    {campaign : Split402CampaignConfig} {termsHash : String}
    (hterms : campaign.campaignTermsHash = "sha256:" ++ termsHash) :
    buildReceipt (settlementRuntime receipt signature) saleAttribution campaign offer.merchantId
      offer.resourceOrigin saleSettlement "key" saleCall = .ok (settledSale termsHash "") := by
  have hamount : atomicAmount saleOffer.requiredAmountAtomic = .ok 100 := by decide
  have hcommission : calculateCommission 100 1000 0 = .ok ⟨10, 0, 10⟩ := by decide
  have htime : toRfc3339Utc offerRuntime saleCall.now = "2026-01-01T00:00:00Z" := by decide
  have hhost : toRfc3339Utc (settlementRuntime receipt signature) saleCall.now =
      toRfc3339Utc offerRuntime saleCall.now := by
    have hsame : (settlementRuntime receipt signature).host = offerRuntime.host := rfl
    rw [toRfc3339Utc, toRfc3339Utc, hsame]
  have hten : serializeAtomicBigint 10 = .ok "10" := by decide
  have hzero : serializeAtomicBigint 0 = .ok "0" := by decide
  have hhash : hashReferralClaim (settlementRuntime receipt signature).toRuntime firstClaim =
      .ok ("sha256:" ++ firstClaimHash) := by
    have hbytes : claimBytes (settlementRuntime receipt signature).toRuntime firstClaim =
        claimBytes saleRuntime firstClaim := rfl
    have hdigest : (settlementRuntime receipt signature).sha256Hex = registryDigest := rfl
    rw [hashReferralClaim_eq (settlementRuntime_standard receipt signature), hbytes, hdigest,
      digest_firstClaim]
  refine bind_eq_ok.mpr ⟨100, hamount, bind_eq_ok.mpr ⟨_, firstClaim_commissioned, ?_⟩⟩
  refine bind_eq_ok.mpr ⟨_, hcommission, bind_eq_ok.mpr ⟨wallet, rfl, ?_⟩⟩
  refine bind_eq_ok.mpr ⟨"settlement_00000000000000000000000000000001", rfl, ?_⟩
  refine bind_eq_ok.mpr ⟨"10", hten, bind_eq_ok.mpr ⟨"0", hzero, bind_eq_ok.mpr ⟨"10", hten, ?_⟩⟩⟩
  refine bind_eq_ok.mpr ⟨_, hhash, ?_⟩
  rw [hhost, htime, hterms]
  rfl

/-- The extension issues the receipt of the sale, signed. -/
theorem settledSale_issued {campaign : Split402CampaignConfig} {termsHash text : String}
    {signature : List UInt8} (hterms : campaign.campaignTermsHash = "sha256:" ++ termsHash)
    (hencode : base64UrlEncode signature = text) :
    saleServer.enrichSettlementResponse (settlementRuntime (settledSale termsHash text) signature)
      (settlementOptions campaign) none saleContext saleCall =
        .ok (some (settledSale termsHash text)) := by
  obtain ⟨message, hmessage⟩ := buildReceiptSigningBytes_eq saleRuntime_standard
    (settledSale termsHash text)
  have hunsigned : buildReceiptSigningBytes
      (settlementRuntime (settledSale termsHash text) signature).toRuntime (settledSale termsHash "") =
        .ok message := hmessage ""
  have hknown : (settlementRuntime (settledSale termsHash text) signature).nodeSign
      (List.replicate 32 7) message = signature := by
    have hsame : buildReceiptSigningBytes saleRuntime (settledSale termsHash text) = .ok message :=
      hmessage text
    rw [settlementRuntime_nodeSign, signSale, if_pos hsame]
  have hsigned : signEd25519Message (settlementRuntime (settledSale termsHash text) signature)
      message (List.replicate 32 7) = .ok text := by
    rw [← hencode]
    refine bind_eq_ok.mpr ⟨(), rfl, ?_⟩
    rw [pure_eq_ok]
    exact congrArg base64UrlEncode hknown
  have hstored : saleServer.getValidatedAttribution saleContext = .ok (some saleAttribution) := rfl
  have hresign : signReceipt (settlementRuntime (settledSale termsHash text) signature)
      (settledSale termsHash "") (List.replicate 32 7) = .ok (settledSale termsHash text) := by
    refine bind_eq_ok.mpr ⟨message, hunsigned, bind_eq_ok.mpr ⟨text, hsigned, ?_⟩⟩
    rw [pure_eq_ok, settledSale, settledSale]
  have hfilter : (some saleAttribution).filter (fun _ => saleContext.result.success) =
      some saleAttribution := rfl
  refine bind_eq_ok.mpr ⟨some saleAttribution, hstored, ?_⟩
  rw [hfilter]
  dsimp only
  refine bind_eq_ok.mpr ⟨campaign, rfl, ?_⟩
  refine bind_eq_ok.mpr ⟨_, settledSale_built _ signature hterms, ?_⟩
  exact map_eq_ok.mpr ⟨_, hresign, rfl⟩

theorem movedSale_issued : saleServer.enrichSettlementResponse
    (settlementRuntime movedSale movedSaleSignature) (settlementOptions secondCampaign) none
      saleContext saleCall = .ok (some movedSale) :=
  settledSale_issued rfl (by decide)

end Sample

/-- The campaign has moved to other terms before the sale is settled. -/
theorem receipt_campaign_iff_movedSale : ¬ NamesVersion Sample.movedSale Sample.saleOffer := by
  have hiff := Split402ResourceServer.receipt_campaign_iff
    (Sample.saleServer_reachable Sample.movedSale Sample.movedSaleSignature Sample.firstCampaign) rfl
    rfl Sample.movedSale_issued
  intro hnames
  exact absurd (hiff.2.1.mp hnames) (by decide)

/-- The receipt of a sale that is settled after the update names no version of the campaign. -/
theorem not_receipts_name_version : ¬ ∀ (runtime : X402Runtime Whole)
    (options : Split402ServerExtensionOptions) (server : Split402ResourceServer)
    (declaration : Option RouteDeclarationRecord) (context : SettleResultContext) (call : ServerCall)
    (receipt : Split402ReceiptV1) (attribution : ValidatedSplit402Attribution)
    (campaign : Split402CampaignConfig),
    (Split402ResourceServer.system runtime).Reachable (fun _ _ => True) server →
    server.getValidatedAttribution context = .ok (some attribution) →
    options.resolveCampaign (parseDeclarationOrOffer declaration attribution.offer) =
      .ok campaign →
    server.enrichSettlementResponse runtime options declaration context call = .ok (some receipt) →
    NamesVersion receipt attribution.offer := by
  intro h
  have hnames := h _ _ _ _ _ _ _ _ _
    (Sample.saleServer_reachable Sample.movedSale Sample.movedSaleSignature Sample.firstCampaign) rfl
    rfl Sample.movedSale_issued
  exact absurd hnames.2.1 (by decide)

end Split402

import Split402.Base.Except
import Split402.Proof.OfferBinding
import Split402.X402.Settlement

/-! # Receipts of settled payments

What a receipt that the extension builds says, field by field, and where it comes from: of the
stored attribution, of the campaign that is looked up when the payment is settled, and of the
settlement. -/

namespace Split402

open Base

variable {ν : Type} {runtime : X402Runtime ν} {attribution : ValidatedSplit402Attribution}
  {campaign : Split402CampaignConfig} {merchantId merchantOrigin kid : String}
  {settlement : SettleResponse} {call : ServerCall} {receipt : Split402ReceiptV1}

theorem requiredString_eq_ok {value : Option String} {label text : String} :
    requiredString value label = .ok text ↔ value = some text ∧ text ≠ "" := by
  cases value with
  | none => simp [requiredString]
  | some value =>
      rw [requiredString]
      by_cases h : value = ""
      · subst h
        simp only [if_pos, throw_ne_ok, Option.some.injEq, false_iff, not_and, not_not]
        exact fun h => h.symm
      · simp only [if_neg h, pure_eq_ok, Option.some.injEq]
        constructor
        · rintro rfl
          exact ⟨rfl, h⟩
        · rintro ⟨rfl, -⟩
          rfl

/-- The claim a commission is paid for is the one that was validated, and its payer is not one the
policy of the offer forbids. -/
theorem commissionedClaim_eq_some {claim : ReferralClaimV1}
    (h : commissionedClaim attribution settlement = .ok (some claim)) :
    attribution.claimStatus = .valid ∧ attribution.referralClaim = some claim ∧
      ∃ payerWallet, settlement.payer = some payerWallet ∧
        evaluateSelfReferralPolicy
          { allowSelfReferral := attribution.offer.allowSelfReferral
            payerWallet := payerWallet
            referrerWallet := some claim.referrerWallet
            payoutWallet := some claim.payoutWallet
            merchantOwnerWallet := none } = none := by
  unfold commissionedClaim at h
  split at h
  · rename_i validated hstatus hclaim
    obtain ⟨payerWallet, hpayer, h⟩ := bind_eq_ok.mp h
    split at h
    · rename_i hallowed
      rw [pure_eq_ok, Option.some.injEq] at h
      subst h
      exact ⟨hstatus, hclaim, payerWallet, (requiredString_eq_ok.mp hpayer).1, hallowed⟩
    · rw [pure_eq_ok] at h
      cases h
  · rw [pure_eq_ok] at h
    cases h

/-- A valid claim no commission is paid for is one of a payer that the policy forbids. -/
theorem commissionedClaim_eq_none {claim : ReferralClaimV1}
    (hstatus : attribution.claimStatus = .valid) (hclaim : attribution.referralClaim = some claim)
    (h : commissionedClaim attribution settlement = .ok none) :
    ∃ payerWallet, settlement.payer = some payerWallet ∧
      evaluateSelfReferralPolicy
        { allowSelfReferral := attribution.offer.allowSelfReferral
          payerWallet := payerWallet
          referrerWallet := some claim.referrerWallet
          payoutWallet := some claim.payoutWallet
          merchantOwnerWallet := none } ≠ none := by
  rw [commissionedClaim, hstatus, hclaim] at h
  obtain ⟨payerWallet, hpayer, h⟩ := bind_eq_ok.mp h
  refine ⟨payerWallet, (requiredString_eq_ok.mp hpayer).1, ?_⟩
  intro hallowed
  rw [hallowed, pure_eq_ok] at h
  cases h

/-- What a receipt that has been built says. -/
structure Built (runtime : X402Runtime ν) (attribution : ValidatedSplit402Attribution)
    (campaign : Split402CampaignConfig) (merchantId merchantOrigin : String)
    (settlement : SettleResponse) (kid : String) (call : ServerCall) (receipt : Split402ReceiptV1)
    (claim : Option ReferralClaimV1) : Prop where
  commissioned : commissionedClaim attribution settlement = .ok claim
  receiptId : receipt.receiptId = "rcp_" ++ call.randomHex
  merchantId : receipt.merchantId = merchantId
  merchantOrigin : receipt.merchantOrigin = merchantOrigin
  operationId : receipt.operationId = attribution.offer.operationId
  requestDigest : receipt.requestDigest = attribution.requestDigest
  campaignId : receipt.campaignId = attribution.offer.campaignId
  campaignVersion : receipt.campaignVersion = attribution.offer.campaignVersion
  campaignTermsHash : receipt.campaignTermsHash = campaign.campaignTermsHash
  routeId : receipt.routeId = claim.map ReferralClaimV1.routeId
  referralClaimHash : ∀ c, claim = some c → ∃ hash, hashReferralClaim runtime.toRuntime c = .ok hash ∧
    receipt.referralClaimHash = some hash
  noClaimHash : claim = none → receipt.referralClaimHash = none
  referrerWallet : receipt.referrerWallet = claim.map ReferralClaimV1.referrerWallet
  payoutWallet : receipt.payoutWallet = claim.map ReferralClaimV1.payoutWallet
  paymentId : receipt.paymentId = attribution.paymentId
  network : receipt.network = settlement.network
  asset : receipt.asset = attribution.offer.asset
  payerWallet : settlement.payer = some receipt.payerWallet ∧ receipt.payerWallet ≠ ""
  payToWallet : receipt.payToWallet = attribution.offer.payToWallet
  requiredAmountAtomic : receipt.requiredAmountAtomic = attribution.offer.requiredAmountAtomic
  settledAmountAtomic : receipt.settledAmountAtomic =
    some (settlement.amount.getD attribution.offer.requiredAmountAtomic)
  settlementTxSignature : settlement.transaction = some receipt.settlementTxSignature ∧
    receipt.settlementTxSignature ≠ ""
  commissionBps : receipt.commissionBps = if claim.isSome then attribution.offer.commissionBps else 0
  protocolFeeBpsOfCommission : receipt.protocolFeeBpsOfCommission =
    if claim.isSome then attribution.offer.protocolFeeBpsOfCommission else 0
  commissionBaseAtomic : receipt.commissionBaseAtomic = attribution.offer.requiredAmountAtomic
  amounts : ∃ requiredAmount commission,
    atomicAmount attribution.offer.requiredAmountAtomic = .ok requiredAmount ∧
    calculateCommission requiredAmount receipt.commissionBps receipt.protocolFeeBpsOfCommission =
      .ok commission ∧
    serializeAtomicBigint commission.commission = .ok receipt.commissionAmountAtomic ∧
    serializeAtomicBigint commission.protocolFee = .ok receipt.protocolFeeAtomic ∧
    serializeAtomicBigint commission.referrerCredit = .ok receipt.referrerCreditAtomic
  offerNonce : receipt.offerNonce = attribution.offer.offerNonce
  settledAt : receipt.settledAt = toRfc3339Utc runtime call.now
  issuedAt : receipt.issuedAt = toRfc3339Utc runtime call.now
  recordingAccepted : receipt.recordingAccepted = true
  eventId : receipt.eventId = none
  kid : receipt.kid = kid

theorem buildReceipt_eq_ok (h : buildReceipt runtime attribution campaign merchantId merchantOrigin
    settlement kid call = .ok receipt) :
    ∃ claim, Built runtime attribution campaign merchantId merchantOrigin settlement kid call receipt
      claim := by
  obtain ⟨requiredAmount, hrequired, h⟩ := bind_eq_ok.mp h
  obtain ⟨claim, hclaim, h⟩ := bind_eq_ok.mp h
  dsimp only at h
  obtain ⟨commission, hcommission, h⟩ := bind_eq_ok.mp h
  obtain ⟨payerWallet, hpayer, h⟩ := bind_eq_ok.mp h
  obtain ⟨transaction, htransaction, h⟩ := bind_eq_ok.mp h
  obtain ⟨commissionAmount, hamount, h⟩ := bind_eq_ok.mp h
  obtain ⟨protocolFee, hfee, h⟩ := bind_eq_ok.mp h
  obtain ⟨referrerCredit, hcredit, h⟩ := bind_eq_ok.mp h
  have hpayer := requiredString_eq_ok.mp hpayer
  have htransaction := requiredString_eq_ok.mp htransaction
  refine ⟨claim, ?_⟩
  cases claim with
  | none =>
      rw [withRoute, pure_eq_ok] at h
      subst h
      exact { commissioned := hclaim, receiptId := rfl, merchantId := rfl, merchantOrigin := rfl
              operationId := rfl, requestDigest := rfl, campaignId := rfl, campaignVersion := rfl
              campaignTermsHash := rfl, routeId := rfl, referralClaimHash := nofun
              noClaimHash := fun _ => rfl, referrerWallet := rfl, payoutWallet := rfl
              paymentId := rfl, network := rfl, asset := rfl, payerWallet := hpayer
              payToWallet := rfl, requiredAmountAtomic := rfl, settledAmountAtomic := rfl
              settlementTxSignature := htransaction, commissionBps := rfl
              protocolFeeBpsOfCommission := rfl, commissionBaseAtomic := rfl
              amounts := ⟨requiredAmount, commission, hrequired, hcommission, hamount, hfee, hcredit⟩
              offerNonce := rfl, settledAt := rfl, issuedAt := rfl, recordingAccepted := rfl
              eventId := rfl, kid := rfl }
  | some claim =>
      obtain ⟨hash, hhash, h⟩ := bind_eq_ok.mp h
      rw [pure_eq_ok] at h
      subst h
      have hclaimHash : ∀ c, some claim = some c → ∃ hash',
          hashReferralClaim runtime.toRuntime c = .ok hash' ∧ some hash = some hash' := by
        intro c hc
        cases hc
        exact ⟨hash, hhash, rfl⟩
      exact { commissioned := hclaim, receiptId := rfl, merchantId := rfl, merchantOrigin := rfl
              operationId := rfl, requestDigest := rfl, campaignId := rfl, campaignVersion := rfl
              campaignTermsHash := rfl, routeId := rfl, referralClaimHash := hclaimHash
              noClaimHash := nofun, referrerWallet := rfl, payoutWallet := rfl
              paymentId := rfl, network := rfl, asset := rfl, payerWallet := hpayer
              payToWallet := rfl, requiredAmountAtomic := rfl, settledAmountAtomic := rfl
              settlementTxSignature := htransaction, commissionBps := rfl
              protocolFeeBpsOfCommission := rfl, commissionBaseAtomic := rfl
              amounts := ⟨requiredAmount, commission, hrequired, hcommission, hamount, hfee, hcredit⟩
              offerNonce := rfl, settledAt := rfl, issuedAt := rfl, recordingAccepted := rfl
              eventId := rfl, kid := rfl }

/-! ## Receipts of the extension -/

theorem signReceipt_eq_ok {signed : Split402ReceiptV1} {seed : List UInt8}
    (h : signReceipt runtime receipt seed = .ok signed) :
    ∃ signature, signed = { receipt with signature := signature } := by
  obtain ⟨message, -, h⟩ := bind_eq_ok.mp h
  obtain ⟨signature, -, h⟩ := bind_eq_ok.mp h
  rw [pure_eq_ok] at h
  exact ⟨signature, h.symm⟩

/-- The signature is no field that is built. -/
theorem Built.signed {claim : Option ReferralClaimV1}
    (h : Built runtime attribution campaign merchantId merchantOrigin settlement kid call receipt
      claim) (signature : String) :
    Built runtime attribution campaign merchantId merchantOrigin settlement kid call
      { receipt with signature := signature } claim := by
  obtain ⟨⟩ := h
  constructor <;> assumption

namespace Split402ResourceServer

variable {options : Split402ServerExtensionOptions} {server : Split402ResourceServer}
  {declaration : Option RouteDeclarationRecord} {context : SettleResultContext}

/-- A receipt that the extension issues is of a payment it has stored, and of the campaign as it is
looked up then. -/
theorem enrichSettlementResponse_eq_some
    (h : server.enrichSettlementResponse runtime options declaration context call =
      .ok (some receipt)) :
    ∃ attribution campaign claim, server.getValidatedAttribution context = .ok (some attribution) ∧
      context.result.success = true ∧
      options.resolveCampaign (parseDeclarationOrOffer declaration attribution.offer) =
        .ok campaign ∧
      Built runtime attribution campaign options.merchantId options.merchantOrigin context.result
        options.serviceKeyProvider.current.kid call receipt claim := by
  obtain ⟨stored, hstored, h⟩ := bind_eq_ok.mp h
  split at h
  · rw [pure_eq_ok] at h
    cases h
  · rename_i attribution hfilter
    obtain ⟨rfl, hsuccess⟩ := Option.filter_eq_some_iff.mp hfilter
    obtain ⟨campaign, hcampaign, h⟩ := bind_eq_ok.mp h
    obtain ⟨built, hbuild, h⟩ := bind_eq_ok.mp h
    obtain ⟨signed, hsigned, hreceipt⟩ := map_eq_ok.mp h
    rw [← Option.some.inj hreceipt]
    obtain ⟨signature, rfl⟩ := signReceipt_eq_ok hsigned
    obtain ⟨claim, hbuilt⟩ := buildReceipt_eq_ok hbuild
    exact ⟨attribution, campaign, claim, hstored, hsuccess, hcampaign, hbuilt.signed signature⟩

/-- The payment has been let through by a call of the hook. -/
def LetThrough (runtime : X402Runtime ν) (attribution : ValidatedSplit402Attribution) : Prop :=
  ∃ verify : VerifyCall ν, onBeforeVerify runtime verify.options verify.declaration verify.context
    verify.now = .ok (.proceed attribution)

/-- Whatever is stored has been let through. -/
def StoresLetThrough (runtime : X402Runtime ν) (server : Split402ResourceServer) : Prop :=
  ∀ attribution ∈ server.validatedByPaymentId, LetThrough runtime attribution

theorem storesLetThrough_step {verify : VerifyCall ν} {server' : Split402ResourceServer}
    (hstored : StoresLetThrough runtime server)
    (hstep : (system runtime).step server verify server') : StoresLetThrough runtime server' := by
  obtain ⟨answer, hstep⟩ := hstep
  obtain ⟨answer', hanswer, hstep⟩ := bind_eq_ok.mp hstep
  cases answer' with
  | abort reason message =>
      rw [pure_eq_ok, Prod.mk.injEq] at hstep
      rw [← hstep.2]
      exact hstored
  | proceed attribution =>
      rw [pure_eq_ok, Prod.mk.injEq] at hstep
      rw [← hstep.2]
      intro stored hmem
      -- the payment that is let through replaces an older one of its id
      rcases Table.mem_upsert.mp hmem with rfl | ⟨hmem, -⟩
      · exact ⟨verify, hanswer⟩
      · exact hstored stored hmem

theorem storesLetThrough_reachable (h : (system runtime).Reachable (fun _ _ => True) server) :
    StoresLetThrough runtime server := by
  refine h.invariant (P := StoresLetThrough runtime) ?_ ?_
  · rintro _ rfl attribution hmem
    exact absurd hmem Table.not_mem_empty
  · intro before verify after _ hbefore _ hstep
    exact storesLetThrough_step hbefore hstep

theorem mem_of_getValidatedAttribution
    (h : server.getValidatedAttribution context = .ok (some attribution)) :
    attribution ∈ server.validatedByPaymentId := by
  obtain ⟨info, -, h⟩ := bind_eq_ok.mp h
  rw [pure_eq_ok] at h
  obtain ⟨paymentId, -, hfind⟩ := Option.bind_eq_some_iff.mp h
  exact Table.mem_of_find? hfind

end Split402ResourceServer

end Split402

import Split402.Proof.CampaignUpdate

/-! # Self-referrals

The extension and the control plane ask one policy about the wallets of a payment. The extension does
not know the wallet of the merchant's owner, and the control plane does, so they answer differently
exactly when the owner is the referrer or is paid out. -/

namespace Split402

open Base ReceiptPolicy

variable {ν : Type}

/-- The policy allows the wallets when it allows self-referrals at all, or when neither the payer nor
the merchant's owner, where it is known, is the referrer or is paid out. -/
theorem evaluateSelfReferralPolicy_eq_none {input : SelfReferralPolicyInput} :
    evaluateSelfReferralPolicy input = none ↔ input.allowSelfReferral = true ∨
      (input.referrerWallet ≠ some input.payerWallet ∧
        input.payoutWallet ≠ some input.payerWallet) ∧
      ∀ owner, input.merchantOwnerWallet = some owner →
        input.referrerWallet ≠ some owner ∧ input.payoutWallet ≠ some owner := by
  obtain ⟨allowed, payer, referrer, payout, owner⟩ := input
  unfold evaluateSelfReferralPolicy
  dsimp only
  by_cases hallowed : allowed = true
  · simp [hallowed]
  · rw [Bool.not_eq_true] at hallowed
    -- one case for each test, in the order of the tests
    by_cases hreferrer : referrer = some payer
    · simp [hallowed, hreferrer]
    · by_cases hpayout : payout = some payer
      · simp [hallowed, hreferrer, hpayout]
      · cases owner with
        | none => simp [hallowed, hreferrer, hpayout]
        | some owner =>
            by_cases hownerReferrer : referrer = some owner
            · have hne : owner ≠ payer := fun h => hreferrer (h ▸ hownerReferrer)
              simp [hallowed, hownerReferrer, hpayout, hne]
            · by_cases hownerPayout : payout = some owner
              · have hne : owner ≠ payer := fun h => hpayout (h ▸ hownerPayout)
                simp [hallowed, hownerPayout, hreferrer, hne, hownerReferrer, Ne.symm hownerReferrer]
              · simp [hallowed, hreferrer, hpayout, hownerReferrer, hownerPayout,
                  Ne.symm hownerReferrer, Ne.symm hownerPayout]

/-- The policy as it is asked for a receipt with a route. -/
def receiptPolicy (allowSelfReferral : Bool) (receipt : Split402ReceiptV1)
    (merchantOwnerWallet : Option String) : SelfReferralPolicyInput where
  allowSelfReferral := allowSelfReferral
  payerWallet := receipt.payerWallet
  referrerWallet := receipt.referrerWallet
  payoutWallet := receipt.payoutWallet
  merchantOwnerWallet := merchantOwnerWallet

/-- A verification names a self-referral as an error. -/
def RejectsSelfReferral (result : ProtocolVerificationResult) : Prop :=
  ∃ error ∈ result.errors, IsSelfReferral error

/-- The owner of the receipt's merchant is the referrer of the receipt or is paid out. -/
def OwnerReferred (registries : Registries ν) (receipt : Split402ReceiptV1) : Prop :=
  ∃ profile, registries.merchants.getMerchantProfile receipt.merchantId = some profile ∧
    (receipt.referrerWallet = some profile.merchant.ownerWallet ∨
      receipt.payoutWallet = some profile.merchant.ownerWallet)

section Policy

variable {receipt : Split402ReceiptV1} {registry : RegistryRuntime ν} {registries : Registries ν}
  {version : CampaignVersionRecord ν} {result : ProtocolVerificationResult} {routeId : String}

/-- A receipt that the policy allows without the owner is a self-referral only by the owner. -/
theorem rejectsSelfReferral_iff_owner
    (hversion : registries.campaigns.getCampaignVersion receipt.campaignId
      (.finite receipt.campaignVersion) = .ok (some version))
    (hverify : verify registry registries receipt = .ok result)
    (hroute : receipt.routeId = some routeId)
    (hallowed : evaluateSelfReferralPolicy
      (receiptPolicy version.terms.allowSelfReferral receipt none) = none) :
    RejectsSelfReferral result ↔ version.terms.allowSelfReferral = false ∧
      (registries.routes.getRoute routeId).isSome ∧ OwnerReferred registries receipt := by
  rw [RejectsSelfReferral, selfReferral_mem_errors hverify hversion]
  rw [evaluateSelfReferralPolicy_eq_none] at hallowed
  constructor
  · rintro ⟨id, hid, hfound, hforbidden⟩
    rw [hroute, Option.some.injEq] at hid
    subst hid
    rw [ne_eq, evaluateSelfReferralPolicy_eq_none, not_or] at hforbidden
    obtain ⟨hflag, hforbidden⟩ := hforbidden
    refine ⟨Bool.not_eq_true _ ▸ hflag, hfound, ?_⟩
    rcases hallowed with hallowed | ⟨hpayer, -⟩
    · exact absurd hallowed hflag
    · by_contra howner
      apply hforbidden
      refine ⟨hpayer, ?_⟩
      intro owner hknown
      obtain ⟨profile, hprofile, rfl⟩ := Option.map_eq_some_iff.mp hknown
      constructor
      · intro hreferrer
        exact howner ⟨profile, hprofile, .inl hreferrer⟩
      · intro hpayout
        exact howner ⟨profile, hprofile, .inr hpayout⟩
  · rintro ⟨hflag, hfound, profile, hprofile, howner⟩
    refine ⟨routeId, hroute, hfound, ?_⟩
    rw [ne_eq, evaluateSelfReferralPolicy_eq_none, not_or]
    refine ⟨by simp [hflag], ?_⟩
    rintro ⟨-, hforbidden⟩
    have hneither := hforbidden profile.merchant.ownerWallet (by rw [hprofile]; rfl)
    rcases howner with hreferrer | hpayout
    · exact hneither.1 hreferrer
    · exact hneither.2 hpayout

/-- What the policy forbids without the owner it forbids with every owner. -/
theorem forbidden_with_owner {allowSelfReferral : Bool} {owner : Option String}
    (h : evaluateSelfReferralPolicy (receiptPolicy allowSelfReferral receipt none) ≠ none) :
    evaluateSelfReferralPolicy (receiptPolicy allowSelfReferral receipt owner) ≠ none := by
  rw [ne_eq, evaluateSelfReferralPolicy_eq_none] at h ⊢
  intro hallowed
  apply h
  rcases hallowed with hallowed | ⟨hpayer, -⟩
  · exact .inl hallowed
  · exact .inr ⟨hpayer, nofun⟩

/-- A receipt with a route that the policy forbids is rejected for it, where its route and its
version are registered. -/
theorem rejectsSelfReferral_of_forbidden
    (hversion : registries.campaigns.getCampaignVersion receipt.campaignId
      (.finite receipt.campaignVersion) = .ok (some version))
    (hverify : verify registry registries receipt = .ok result)
    (hroute : receipt.routeId = some routeId)
    (hfound : (registries.routes.getRoute routeId).isSome)
    (hforbidden : evaluateSelfReferralPolicy
      (receiptPolicy version.terms.allowSelfReferral receipt none) ≠ none) :
    RejectsSelfReferral result := by
  rw [RejectsSelfReferral, selfReferral_mem_errors hverify hversion]
  exact ⟨routeId, hroute, hfound, forbidden_with_owner hforbidden⟩

/-- A receipt with a route that the policy forbids is not accepted. -/
theorem not_accepts_of_forbidden (hroute : receipt.routeId = some routeId)
    (hforbidden : ∀ version, registries.campaigns.getCampaignVersion receipt.campaignId
      (.finite receipt.campaignVersion) = .ok (some version) →
      evaluateSelfReferralPolicy (receiptPolicy version.terms.allowSelfReferral receipt none) ≠
        none) :
    ¬ Accepts registry registries receipt := by
  intro haccepts
  obtain ⟨campaign, version, -, -, -, hversion, hversionErrors, -, hattribution⟩ := haccepts.checks
  obtain ⟨result, hverify, hok⟩ := haccepts
  have hattribution := hattribution routeId hroute
  cases version with
  | none => exact absurd hversionErrors (List.cons_ne_nil _ _)
  | some version =>
      have hfound : (registries.routes.getRoute routeId).isSome := by
        by_contra hnone
        rw [Option.not_isSome_iff_eq_none] at hnone
        unfold attributionErrors at hattribution
        rw [hnone] at hattribution
        exact absurd (Except.ok.inj hattribution) (List.cons_ne_nil _ _)
      obtain ⟨error, hmem, -⟩ := rejectsSelfReferral_of_forbidden hversion hverify hroute hfound
        (hforbidden version hversion)
      obtain ⟨_, _, _, _, -, -, -, -, -, rfl⟩ := verify_eq_ok hverify
      have hnil := resultOf_ok.mp hok
      rw [resultOf, hnil] at hmem
      cases hmem

end Policy

/-! ## Receipts of the extension -/

/-- A receipt for the payer of another one that has the fields of the claim's route. -/
structure Routed (receipt : Split402ReceiptV1) (claim : ReferralClaimV1) (routed : Split402ReceiptV1) :
    Prop where
  routeId : routed.routeId = some claim.routeId
  referrerWallet : routed.referrerWallet = some claim.referrerWallet
  payoutWallet : routed.payoutWallet = some claim.payoutWallet
  payerWallet : routed.payerWallet = receipt.payerWallet

namespace Split402ResourceServer

variable {runtime : X402Runtime ν} {options : Split402ServerExtensionOptions}
  {server : Split402ResourceServer} {declaration : Option RouteDeclarationRecord}
  {context : SettleResultContext} {call : ServerCall} {receipt : Split402ReceiptV1}
  {attribution : ValidatedSplit402Attribution}

/-- **Of the receipts that the extension issues with a route, the control plane rejects for a
self-referral exactly those of a merchant whose owner is the referrer or is paid out. It accepts none
of the receipts that the extension issues without a route because of a self-referral, were they to
have their route.** -/
theorem self_referrals_agree
    (hattribution : server.getValidatedAttribution context = .ok (some attribution))
    (hreceipt : server.enrichSettlementResponse runtime options declaration context call =
      .ok (some receipt)) :
    (∀ (registry : RegistryRuntime ν) (registries : Registries ν) (version : CampaignVersionRecord ν)
      (result : ProtocolVerificationResult) (routeId : String), receipt.routeId = some routeId →
      registries.campaigns.getCampaignVersion receipt.campaignId
        (.finite receipt.campaignVersion) = .ok (some version) →
      version.terms.allowSelfReferral = attribution.offer.allowSelfReferral →
      verify registry registries receipt = .ok result →
      (RejectsSelfReferral result ↔ attribution.offer.allowSelfReferral = false ∧
        (registries.routes.getRoute routeId).isSome ∧ OwnerReferred registries receipt)) ∧
    ∀ (claim : ReferralClaimV1) (routed : Split402ReceiptV1) (registry : RegistryRuntime ν)
      (registries : Registries ν), receipt.routeId = none → attribution.claimStatus = .valid →
      attribution.referralClaim = some claim → Routed receipt claim routed →
      (∀ version, registries.campaigns.getCampaignVersion routed.campaignId
        (.finite routed.campaignVersion) = .ok (some version) →
        version.terms.allowSelfReferral = attribution.offer.allowSelfReferral) →
      ¬ Accepts registry registries routed ∧
      ∀ (version : CampaignVersionRecord ν) (result : ProtocolVerificationResult),
        registries.campaigns.getCampaignVersion routed.campaignId
          (.finite routed.campaignVersion) = .ok (some version) →
        (registries.routes.getRoute claim.routeId).isSome →
        verify registry registries routed = .ok result → RejectsSelfReferral result := by
  obtain ⟨attribution', campaign, commissioned, hattribution', -, -, hbuilt⟩ :=
    enrichSettlementResponse_eq_some hreceipt
  rw [hattribution, Except.ok.injEq, Option.some.injEq] at hattribution'
  subst hattribution'
  refine ⟨?_, ?_⟩
  · intro registry registries version result routeId hroute hversion hshared hverify
    have hclaim := hbuilt.routeId
    rw [hroute] at hclaim
    obtain ⟨claim, rfl, -⟩ := Option.map_eq_some_iff.mp hclaim.symm
    obtain ⟨-, -, payerWallet, hpayer, hallowed⟩ := commissionedClaim_eq_some hbuilt.commissioned
    have hpayerWallet : payerWallet = receipt.payerWallet :=
      Option.some.inj (hpayer.symm.trans hbuilt.payerWallet.1)
    rw [← hshared]
    refine rejectsSelfReferral_iff_owner hversion hverify hroute ?_
    rw [receiptPolicy, hshared, ← hpayerWallet, hbuilt.referrerWallet, hbuilt.payoutWallet]
    exact hallowed
  · intro claim routed registry registries hroute hstatus hclaim hrouted hshared
    have hnone := hbuilt.routeId
    rw [hroute] at hnone
    have hcommissioned := hbuilt.commissioned
    rw [Option.map_eq_none_iff.mp hnone.symm] at hcommissioned
    obtain ⟨payerWallet, hpayer, hforbidden⟩ := commissionedClaim_eq_none hstatus hclaim hcommissioned
    have hpayerWallet : payerWallet = routed.payerWallet :=
      (Option.some.inj (hpayer.symm.trans hbuilt.payerWallet.1)).trans hrouted.payerWallet.symm
    rw [hpayerWallet] at hforbidden
    have hrejected : ∀ version, registries.campaigns.getCampaignVersion routed.campaignId
        (.finite routed.campaignVersion) = .ok (some version) →
        evaluateSelfReferralPolicy (receiptPolicy version.terms.allowSelfReferral routed none) ≠
          none := by
      intro version hversion
      rw [receiptPolicy, hshared version hversion, hrouted.referrerWallet, hrouted.payoutWallet]
      exact hforbidden
    refine ⟨not_accepts_of_forbidden hrouted.routeId hrejected, ?_⟩
    intro version result hversion hfound hverify
    exact rejectsSelfReferral_of_forbidden hversion hverify hrouted.routeId hfound
      (hrejected version hversion)

end Split402ResourceServer

/-! ## A merchant who refers its own buyers -/

namespace Sample

/-- The receipt of the sale under the first terms, signed by the merchant. -/
def keptSale : Split402ReceiptV1 := settledSale firstTermsHash
  "Eaq_JDOq4I_fobP--yCdR34E63veRQ-TnUUFWN491RXyG8mWxVuS3Vpu3GgO-n76i78Ty8C3AYOPaRpSuElkDw"

def keptSaleSignature : List UInt8 :=
  [17, 170, 191, 36, 51, 170, 224, 143, 223, 161, 179, 254, 251, 32, 157, 71, 126, 4, 235, 123, 222,
    69, 15, 147, 157, 69, 5, 88, 222, 61, 213, 21, 242, 27, 201, 150, 197, 91, 146, 221, 90, 110, 220,
    104, 14, 250, 126, 250, 139, 191, 19, 203, 192, 183, 1, 131, 143, 105, 26, 82, 184, 73, 100, 15]

theorem keptSale_issued : saleServer.enrichSettlementResponse
    (settlementRuntime keptSale keptSaleSignature) (settlementOptions firstCampaign) none
      saleContext saleCall = .ok (some keptSale) :=
  settledSale_issued rfl (by decide)

/-- The registries with the referrer as the owner of the merchant. -/
def ownedRegistries : Registries Whole :=
  { sampleRegistries with
    merchants := { sampleMerchants with
      merchants := Table.empty.upsert ⟨campaignMerchantId, referrerWallet, .active⟩ } }

theorem keptSale_rejected : verify registryRuntime ownedRegistries keptSale =
    .ok ⟨false, ["self-referral policy violation: merchant_owner_is_referrer"]⟩ := by
  decide

theorem ownedRegistries_version : ownedRegistries.campaigns.getCampaignVersion keptSale.campaignId
    (.finite keptSale.campaignVersion) =
      .ok (some (firstVersion.activated "key" firstTermsSignature registryNow)) := rfl

end Sample

/-- The extension issues the sale with its route, for it does not know the owner. -/
theorem self_referrals_agree_keptSale :
    RejectsSelfReferral ⟨false, ["self-referral policy violation: merchant_owner_is_referrer"]⟩ := by
  have hagree := Split402ResourceServer.self_referrals_agree rfl Sample.keptSale_issued
  exact (hagree.1 _ _ _ _ _ rfl Sample.ownedRegistries_version rfl Sample.keptSale_rejected).mpr
    ⟨rfl, rfl, _, rfl, .inl rfl⟩

/-- A receipt that the extension issues with a route may be rejected for a self-referral. -/
theorem not_self_referrals_agree : ¬ ∀ (runtime : X402Runtime Whole)
    (options : Split402ServerExtensionOptions) (server : Split402ResourceServer)
    (declaration : Option RouteDeclarationRecord) (context : SettleResultContext) (call : ServerCall)
    (receipt : Split402ReceiptV1) (attribution : ValidatedSplit402Attribution)
    (registry : RegistryRuntime Whole) (registries : Registries Whole)
    (version : CampaignVersionRecord Whole) (result : ProtocolVerificationResult),
    (Split402ResourceServer.system runtime).Reachable (fun _ _ => True) server →
    server.getValidatedAttribution context = .ok (some attribution) →
    server.enrichSettlementResponse runtime options declaration context call = .ok (some receipt) →
    receipt.routeId.isSome →
    registries.campaigns.getCampaignVersion receipt.campaignId (.finite receipt.campaignVersion) =
      .ok (some version) →
    version.terms.allowSelfReferral = attribution.offer.allowSelfReferral →
    verify registry registries receipt = .ok result → ¬ RejectsSelfReferral result := by
  intro h
  refine h _ _ _ _ _ _ _ _ _ _ _ _ (Sample.saleServer_reachable Sample.keptSale
    Sample.keptSaleSignature Sample.firstCampaign) rfl Sample.keptSale_issued rfl
    Sample.ownedRegistries_version rfl Sample.keptSale_rejected ?_
  exact ⟨_, List.mem_singleton_self _, .merchantOwnerIsReferrer, rfl⟩

end Split402

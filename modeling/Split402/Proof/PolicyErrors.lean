import Split402.Base.Except
import Split402.Registry.ReceiptPolicy

/-! # The errors of the receipt policy

What a verification of a receipt puts together, and which checks its errors come from: the terms hash
of the campaign version, the policy of self-referrals, or one of the others, whose texts are told
apart from those two. -/

namespace Split402

open Base

namespace ReceiptPolicy

variable {ν : Type} {runtime : RegistryRuntime ν} {registries : Registries ν}
  {receipt : Split402ReceiptV1} {merchant : Option MerchantProfile}
  {campaign : Option (CampaignProfile ν)} {version : Option (CampaignVersionRecord ν)}
  {result : ProtocolVerificationResult} {error : String}

/-- A verification that ends has read the merchant, the campaign and its version, and its errors are
those of each check, in order. -/
theorem verify_eq_ok (h : verify runtime registries receipt = .ok result) :
    ∃ merchantErrs campaign version lastErrs,
      merchantErrors runtime registries receipt
        (registries.merchants.getMerchantProfile receipt.merchantId) = .ok merchantErrs ∧
      registries.campaigns.getCampaign receipt.campaignId = .ok campaign ∧
      registries.campaigns.getCampaignVersion receipt.campaignId (.finite receipt.campaignVersion) =
        .ok version ∧
      (receipt.routeId = none → lastErrs = unattributedErrors receipt) ∧
      (∀ routeId, receipt.routeId = some routeId →
        attributionErrors runtime registries receipt
          (registries.merchants.getMerchantProfile receipt.merchantId) version routeId =
            .ok lastErrs) ∧
      result = resultOf (merchantErrs ++ campaignErrors receipt campaign ++
        versionErrors receipt version ++
        (if receipt.offerNonce = "" then ["offerNonce is empty"] else []) ++ lastErrs) := by
  unfold verify at h
  obtain ⟨merchantErrs, hmerchant, h⟩ := bind_eq_ok.mp h
  obtain ⟨campaign, hcampaign, h⟩ := bind_eq_ok.mp h
  obtain ⟨version, hversion, h⟩ := bind_eq_ok.mp h
  refine ⟨merchantErrs, campaign, version, ?_⟩
  cases hroute : receipt.routeId with
  | none =>
      rw [hroute] at h
      dsimp only at h
      rw [pure_eq_ok] at h
      exact ⟨_, hmerchant, hcampaign, hversion, fun _ => rfl, nofun, h.symm⟩
  | some routeId =>
      rw [hroute] at h
      dsimp only at h
      obtain ⟨attribution, hattribution, h⟩ := bind_eq_ok.mp h
      rw [pure_eq_ok] at h
      refine ⟨attribution, hmerchant, hcampaign, hversion, nofun, ?_, h.symm⟩
      intro id hid
      rw [← Option.some.inj hid]
      exact hattribution

/-! ## Texts -/

def termsHashText : String := "campaign terms hash does not match receipt"

def policyFieldText (label : String) : String := label ++ " does not match campaign policy"

def merchantTexts : List String :=
  ["merchant does not exist", "merchant is not active", "merchant origin is not verified",
    "merchant service key is not active for receipt kid"]

def campaignTexts : List String :=
  ["campaign does not exist", "campaign merchantId does not match receipt merchantId",
    "campaign is not active", "campaign version does not exist",
    "operationId is not in campaign version terms", "offerNonce is empty",
    "unattributed receipt must have zero commission amounts"] ++
  ["merchantOrigin", "network", "asset", "payToWallet", "requiredAmountAtomic", "commissionBps",
    "protocolFeeBpsOfCommission"].map policyFieldText

def routeTexts : List String :=
  ["route does not exist", "route campaignId does not match receipt campaignId",
    "route is not active", "route is not active at receipt time",
    "route resourceOrigin does not match receipt merchantOrigin",
    "route does not cover receipt operationId",
    "receipt referralClaimHash does not match route claim hash",
    "route campaignVersionMin is greater than receipt campaignVersion"] ++
  ["payoutWallet", "referrerWallet"].map policyFieldText

/-- The texts of the checks other than those of the terms hash and of self-referrals. -/
def otherTexts : List String := merchantTexts ++ campaignTexts ++ routeTexts

theorem mem_expectReceiptField {α : Type} [DecidableEq α] {label : String} {actual expected : α} :
    error ∈ expectReceiptField label actual expected ↔
      actual ≠ expected ∧ error = policyFieldText label := by
  rw [expectReceiptField, List.mem_ite_nil_right, List.mem_singleton, policyFieldText]

theorem mem_merchantErrors {errors : List String}
    (h : merchantErrors runtime registries receipt merchant = .ok errors) (hmem : error ∈ errors) :
    error ∈ merchantTexts := by
  unfold merchantErrors at h
  cases merchant with
  | none =>
      rw [← Except.ok.inj h, List.mem_singleton] at hmem
      rw [hmem]
      exact List.mem_cons_self
  | some merchant =>
      obtain ⟨serviceKey, -, h⟩ := bind_eq_ok.mp h
      rw [pure_eq_ok] at h
      rw [← h] at hmem
      simp only [List.mem_append, List.mem_ite_nil_right, List.mem_ite_nil_left, List.mem_singleton]
        at hmem
      rcases hmem with (⟨-, rfl⟩ | ⟨-, rfl⟩) | ⟨-, rfl⟩ <;> simp [merchantTexts]

theorem mem_campaignErrors (hmem : error ∈ campaignErrors receipt campaign) :
    error ∈ campaignTexts := by
  unfold campaignErrors at hmem
  cases campaign with
  | none =>
      rw [List.mem_singleton.mp hmem]
      exact List.mem_cons_self
  | some campaign =>
      simp only [List.mem_append, List.mem_ite_nil_right, List.mem_singleton] at hmem
      rcases hmem with ⟨-, rfl⟩ | ⟨-, rfl⟩ <;> simp [campaignTexts]

/-- An error of the campaign version is of another check, or of the hash of the terms. -/
theorem mem_versionErrors (hmem : error ∈ versionErrors receipt version) :
    error ∈ campaignTexts ∨ error = termsHashText ∧
      ∃ found, version = some found ∧ found.termsHash ≠ receipt.campaignTermsHash := by
  unfold versionErrors at hmem
  cases version with
  | none =>
      rw [List.mem_singleton.mp hmem]
      exact .inl (by simp [campaignTexts])
  | some version =>
      simp only [List.mem_append, List.mem_ite_nil_right, List.mem_ite_nil_left, List.mem_singleton,
        mem_expectReceiptField] at hmem
      rcases hmem with ((((((⟨hhash, rfl⟩ | ⟨-, rfl⟩) | ⟨-, rfl⟩) | ⟨-, rfl⟩) | ⟨-, rfl⟩) |
        ⟨-, rfl⟩) | ⟨-, rfl⟩) | ⟨-, ⟨-, rfl⟩ | ⟨-, rfl⟩⟩
      · exact .inr ⟨rfl, version, rfl, hhash⟩
      all_goals exact .inl (by simp [campaignTexts])

theorem mem_unattributedErrors (hmem : error ∈ unattributedErrors receipt) :
    error ∈ campaignTexts := by
  rw [unattributedErrors, List.mem_ite_nil_right, List.mem_singleton] at hmem
  rw [hmem.2]
  simp [campaignTexts]

theorem mem_routeErrors {route : RouteRecord} (hmem : error ∈ routeErrors runtime receipt route) :
    error ∈ routeTexts := by
  simp only [routeErrors, List.mem_append, List.mem_ite_nil_right, List.mem_singleton] at hmem
  rcases hmem with (((⟨-, rfl⟩ | ⟨-, rfl⟩) | ⟨-, rfl⟩) | ⟨-, rfl⟩) | ⟨-, rfl⟩ <;> simp [routeTexts]

theorem mem_routeVersionErrors {routeVersions : List RouteVersionRecord}
    (hmem : error ∈ routeVersionErrors receipt routeVersions) : error ∈ routeTexts := by
  unfold routeVersionErrors at hmem
  split at hmem
  · rw [List.mem_singleton.mp hmem]
    simp [routeTexts]
  · simp only [List.mem_append, List.mem_ite_nil_right, List.mem_singleton,
      mem_expectReceiptField] at hmem
    rcases hmem with ⟨-, rfl⟩ | ⟨-, rfl⟩ <;> simp [routeTexts]

/-- An error of what a receipt says of its route is of another check, or of the policy of
self-referrals, which is asked about registered routes only. -/
theorem mem_attributionErrors {routeId : String} {errors : List String}
    (h : attributionErrors runtime registries receipt merchant version routeId = .ok errors)
    (hmem : error ∈ errors) : error ∈ routeTexts ∨
      (registries.routes.getRoute routeId).isSome ∧
        error ∈ selfReferralErrors receipt merchant version := by
  unfold attributionErrors at h
  cases hroute : registries.routes.getRoute routeId with
  | none =>
      rw [hroute] at h
      rw [← Except.ok.inj h, List.mem_singleton] at hmem
      rw [hmem]
      exact .inl List.mem_cons_self
  | some route =>
      rw [hroute] at h
      obtain ⟨routeVersions, -, h⟩ := bind_eq_ok.mp h
      rw [pure_eq_ok] at h
      rw [← h] at hmem
      simp only [List.mem_append, mem_expectReceiptField] at hmem
      rcases hmem with ((hroute | hversion) | ⟨-, rfl⟩) | hself
      · exact .inl (mem_routeErrors hroute)
      · exact .inl (mem_routeVersionErrors hversion)
      · exact .inl (by simp [routeTexts])
      · exact .inr ⟨rfl, hself⟩

/-! ## The hash of the terms -/

theorem termsHashText_not_mem : termsHashText ∉ otherTexts := by
  decide

/-- A text about a self-referral. -/
def IsSelfReferral (error : String) : Prop :=
  ∃ reason, error = "self-referral policy violation: " ++ selfReferralText reason

theorem isSelfReferral_of_mem (h : error ∈ selfReferralErrors receipt merchant version) :
    IsSelfReferral error := by
  unfold selfReferralErrors at h
  cases version with
  | none => cases h
  | some version =>
      dsimp only at h
      split at h
      · cases h
      · rename_i reason _
        exact ⟨reason, List.mem_singleton.mp h⟩

theorem not_isSelfReferral_termsHashText : ¬ IsSelfReferral termsHashText := by
  rintro ⟨reason, hreason⟩
  cases reason <;> exact absurd hreason (by decide)

theorem not_isSelfReferral_of_mem (hmem : error ∈ otherTexts) : ¬ IsSelfReferral error := by
  rintro ⟨reason, rfl⟩
  cases reason <;> exact absurd hmem (by decide)

/-- Where an error of a verification comes from. -/
theorem mem_errors_cases (h : verify runtime registries receipt = .ok result)
    (hversion : registries.campaigns.getCampaignVersion receipt.campaignId
      (.finite receipt.campaignVersion) = .ok version) (hmem : error ∈ result.errors) :
    error ∈ otherTexts ∨
    (error = termsHashText ∧
      ∃ found, version = some found ∧ found.termsHash ≠ receipt.campaignTermsHash) ∨
    ∃ routeId, receipt.routeId = some routeId ∧ (registries.routes.getRoute routeId).isSome ∧
      error ∈ selfReferralErrors receipt
        (registries.merchants.getMerchantProfile receipt.merchantId) version := by
  obtain ⟨merchantErrs, campaign, version', lastErrs, hmerchant, -, hversion', hnone, hsome, rfl⟩ :=
    verify_eq_ok h
  rw [hversion, Except.ok.injEq] at hversion'
  subst hversion'
  have hmerchants : merchantTexts ⊆ otherTexts := fun _ h => by simp [otherTexts, h]
  have hcampaigns : campaignTexts ⊆ otherTexts := fun _ h => by simp [otherTexts, h]
  have hroutes : routeTexts ⊆ otherTexts := fun _ h => by simp [otherTexts, h]
  simp only [resultOf, List.mem_append, List.mem_ite_nil_right, List.mem_singleton] at hmem
  rcases hmem with (((hmem | hmem) | hmem) | ⟨-, rfl⟩) | hmem
  · exact .inl (hmerchants (mem_merchantErrors hmerchant hmem))
  · exact .inl (hcampaigns (mem_campaignErrors hmem))
  · rcases mem_versionErrors hmem with hmem | hmem
    · exact .inl (hcampaigns hmem)
    · exact .inr (.inl hmem)
  · exact .inl (hcampaigns (by simp [campaignTexts]))
  · cases hroute : receipt.routeId with
    | none =>
        rw [hnone hroute] at hmem
        exact .inl (hcampaigns (mem_unattributedErrors hmem))
    | some routeId =>
        rcases mem_attributionErrors (hsome routeId hroute) hmem with hmem | ⟨hfound, hmem⟩
        · exact .inl (hroutes hmem)
        · exact .inr (.inr ⟨routeId, rfl, hfound, hmem⟩)

/-- The check of the terms hash fails exactly when the version has another one. -/
theorem termsHash_mem_errors (h : verify runtime registries receipt = .ok result)
    {found : CampaignVersionRecord ν}
    (hversion : registries.campaigns.getCampaignVersion receipt.campaignId
      (.finite receipt.campaignVersion) = .ok (some found)) :
    termsHashText ∈ result.errors ↔ found.termsHash ≠ receipt.campaignTermsHash := by
  constructor
  · intro hmem
    rcases mem_errors_cases h hversion hmem with hother | ⟨-, found', hfound, hhash⟩ |
      ⟨routeId, -, -, hself⟩
    · exact absurd hother termsHashText_not_mem
    · rw [Option.some.inj hfound]
      exact hhash
    · exact absurd (isSelfReferral_of_mem hself) not_isSelfReferral_termsHashText
  · intro hhash
    obtain ⟨_, _, version', _, -, -, hversion', -, -, rfl⟩ := verify_eq_ok h
    rw [hversion, Except.ok.injEq] at hversion'
    subst hversion'
    simp [resultOf, versionErrors, termsHashText, hhash]

/-! ## Self-referrals -/

/-- A self-referral is an error exactly when the route and the version are registered and the policy
forbids the wallets, the merchant owner's among them. -/
theorem selfReferral_mem_errors (h : verify runtime registries receipt = .ok result)
    {found : CampaignVersionRecord ν}
    (hversion : registries.campaigns.getCampaignVersion receipt.campaignId
      (.finite receipt.campaignVersion) = .ok (some found)) :
    (∃ error ∈ result.errors, IsSelfReferral error) ↔
      ∃ routeId, receipt.routeId = some routeId ∧ (registries.routes.getRoute routeId).isSome ∧
        evaluateSelfReferralPolicy
          { allowSelfReferral := found.terms.allowSelfReferral
            payerWallet := receipt.payerWallet
            referrerWallet := receipt.referrerWallet
            payoutWallet := receipt.payoutWallet
            merchantOwnerWallet := (registries.merchants.getMerchantProfile receipt.merchantId).map
              (·.merchant.ownerWallet) } ≠ none := by
  constructor
  · rintro ⟨error, hmem, herror⟩
    rcases mem_errors_cases h hversion hmem with hother | ⟨rfl, -⟩ | ⟨routeId, hroute, hfound, hself⟩
    · exact absurd herror (not_isSelfReferral_of_mem hother)
    · exact absurd herror not_isSelfReferral_termsHashText
    · refine ⟨routeId, hroute, hfound, ?_⟩
      intro hallowed
      rw [selfReferralErrors, hallowed] at hself
      cases hself
  · rintro ⟨routeId, hroute, hfound, hforbidden⟩
    obtain ⟨_, _, version', lastErrs, -, -, hversion', -, hsome, rfl⟩ := verify_eq_ok h
    rw [hversion, Except.ok.injEq] at hversion'
    subst hversion'
    have hlast := hsome routeId hroute
    obtain ⟨route, hroute⟩ := Option.isSome_iff_exists.mp hfound
    obtain ⟨reason, hreason⟩ := Option.ne_none_iff_exists'.mp hforbidden
    unfold attributionErrors at hlast
    rw [hroute] at hlast
    obtain ⟨routeVersions, -, hlast⟩ := bind_eq_ok.mp hlast
    rw [pure_eq_ok, selfReferralErrors, hreason] at hlast
    refine ⟨"self-referral policy violation: " ++ selfReferralText reason, ?_, reason, rfl⟩
    rw [← hlast]
    simp [resultOf]

end ReceiptPolicy

end Split402

import Split402.Proof.PolicyErrors
import Split402.Proof.RegistryForms
import Split402.Proof.RegistryOps

/-! # What an accepted receipt says

The policy of receipts is a list of errors, and a receipt is accepted when it is empty. So whatever
one of the checks looks at is as the receipt says. A new version of a campaign makes the campaign a
draft, and the check of its status then refuses every receipt of it. -/

namespace Split402

open Base

variable {ν : Type}

namespace ReceiptPolicy

/-- The policy accepts the receipt. -/
def Accepts (runtime : RegistryRuntime ν) (registries : Registries ν) (receipt : Split402ReceiptV1) :
    Prop :=
  ∃ result, verify runtime registries receipt = .ok result ∧ result.ok = true

variable {runtime : RegistryRuntime ν} {registries : Registries ν} {receipt : Split402ReceiptV1}

instance : Decidable (Accepts runtime registries receipt) :=
  match h : verify runtime registries receipt with
  | .ok result => decidable_of_iff (result.ok = true) (by simp [Accepts, h])
  | .error _ => .isFalse (by simp [Accepts, h])

theorem resultOf_ok {errors : List String} : (resultOf errors).ok = true ↔ errors = [] := by
  rw [resultOf, List.isEmpty_iff]

/-- An accepted receipt has passed every check. -/
theorem Accepts.checks (h : Accepts runtime registries receipt) : ∃ campaign version,
    merchantErrors runtime registries receipt
      (registries.merchants.getMerchantProfile receipt.merchantId) = .ok [] ∧
    registries.campaigns.getCampaign receipt.campaignId = .ok campaign ∧
    campaignErrors receipt campaign = [] ∧
    registries.campaigns.getCampaignVersion receipt.campaignId (.finite receipt.campaignVersion) =
      .ok version ∧
    versionErrors receipt version = [] ∧
    (receipt.routeId = none → unattributedErrors receipt = []) ∧
    ∀ routeId, receipt.routeId = some routeId → attributionErrors runtime registries receipt
      (registries.merchants.getMerchantProfile receipt.merchantId) version routeId = .ok [] := by
  obtain ⟨result, hverify, hok⟩ := h
  obtain ⟨merchantErrs, campaign, version, lastErrs, hmerchant, hcampaign, hversion, hnone, hsome,
    rfl⟩ := verify_eq_ok hverify
  rw [resultOf_ok] at hok
  simp only [List.append_eq_nil_iff] at hok
  obtain ⟨⟨⟨⟨rfl, hcampaignErrors⟩, hversionErrors⟩, -⟩, rfl⟩ := hok
  exact ⟨campaign, version, hmerchant, hcampaign, hcampaignErrors, hversion, hversionErrors,
    fun hroute => (hnone hroute).symm, hsome⟩

/-- The campaign of an accepted receipt is active. -/
theorem Accepts.campaign (h : Accepts runtime registries receipt) :
    ∃ campaign, registries.campaigns.campaigns.find? receipt.campaignId = some campaign ∧
      campaign.status = .active := by
  obtain ⟨profile, _, -, hget, hcampaign, -⟩ := h.checks
  unfold CampaignRegistry.getCampaign at hget
  cases hfind : registries.campaigns.campaigns.find? receipt.campaignId with
  | none =>
      rw [hfind] at hget
      have hnone : profile = none := (Except.ok.inj hget).symm
      rw [hnone] at hcampaign
      simp [campaignErrors] at hcampaign
  | some campaign =>
      rw [hfind] at hget
      obtain ⟨current, hprofile, hget⟩ := bind_eq_ok.mp hget
      have hsome : profile = some current := (Except.ok.inj hget).symm
      have hcurrent : current.campaign = campaign := by
        unfold CampaignRegistry.profile at hprofile
        split at hprofile
        · exact absurd hprofile throw_ne_ok
        · rw [← Except.ok.inj hprofile]
      rw [hsome] at hcampaign
      unfold campaignErrors at hcampaign
      rw [List.append_eq_nil_iff, hcurrent] at hcampaign
      refine ⟨campaign, rfl, ?_⟩
      by_contra hactive
      rw [if_pos hactive] at hcampaign
      exact absurd hcampaign.2 (List.cons_ne_nil _ _)

/-- The version that an accepted receipt names is there. -/
theorem Accepts.version (h : Accepts runtime registries receipt) :
    ∃ version, registries.campaigns.versions.find? (receipt.campaignId, receipt.campaignVersion) =
      some version := by
  obtain ⟨_, version, -, -, -, hget, hversion, -⟩ := h.checks
  unfold CampaignRegistry.getCampaignVersion at hget
  obtain ⟨number, hnumber, hget⟩ := bind_eq_ok.mp hget
  have hsame := assertPositiveVersion_eq_ok hnumber
  rw [pure_eq_ok, hsame] at hget
  cases hfind : registries.campaigns.versions.find? (receipt.campaignId, receipt.campaignVersion) with
  | none =>
      rw [← hget, hfind] at hversion
      simp [versionErrors] at hversion
  | some version => exact ⟨version, rfl⟩

/-- An accepted receipt says when it was issued. -/
theorem Accepts.issuedAt (h : Accepts runtime registries receipt) :
    ∃ time, runtime.host.dateParse receipt.issuedAt = some time := by
  obtain ⟨_, _, hmerchant, -⟩ := h.checks
  unfold merchantErrors at hmerchant
  split at hmerchant
  · exact absurd (Except.ok.inj hmerchant) (List.cons_ne_nil _ _)
  · obtain ⟨key, hkey, hmerchant⟩ := bind_eq_ok.mp hmerchant
    rw [pure_eq_ok] at hmerchant
    simp only [List.append_eq_nil_iff] at hmerchant
    have hsome : key.isNone = false := by
      by_contra hnone
      rw [Bool.not_eq_false] at hnone
      rw [if_pos hnone] at hmerchant
      exact absurd hmerchant.2 (List.cons_ne_nil _ _)
    unfold MerchantRegistry.resolveKey at hkey
    split at hkey
    · rw [pure_eq_ok] at hkey
      rw [← hkey] at hsome
      cases hsome
    · obtain ⟨valid, hvalid, -⟩ := bind_eq_ok.mp hkey
      unfold MerchantRegistry.isKeyValidAt at hvalid
      obtain ⟨time, htime, -⟩ := bind_eq_ok.mp hvalid
      unfold MerchantRegistry.assertUtcTimestamp at htime
      split at htime
      · exact absurd htime throw_ne_ok
      · rename_i parsed hparsed
        exact ⟨parsed, (Option.filter_eq_some_iff.mp hparsed).1⟩

/-- A receipt with a commission is accepted only for its route. -/
theorem Accepts.routeId (h : Accepts runtime registries receipt)
    (hcommission : receipt.commissionAmountAtomic ≠ "0") : ∃ routeId, receipt.routeId = some routeId := by
  obtain ⟨_, _, -, -, -, -, -, hnone, -⟩ := h.checks
  cases hroute : receipt.routeId with
  | some routeId => exact ⟨routeId, rfl⟩
  | none =>
      have hzero := hnone hroute
      rw [unattributedErrors, if_pos (.inl hcommission)] at hzero
      exact absurd hzero (List.cons_ne_nil _ _)

/-- What a receipt's route has passed. -/
structure RouteAccepted (runtime : RegistryRuntime ν) (registries : Registries ν)
    (receipt : Split402ReceiptV1) (route : RouteRecord) (version : RouteVersionRecord) : Prop where
  campaignId : route.campaignId = receipt.campaignId
  active : route.status = .active
  activated : Registry.parsesAfter runtime route.activatedAt receipt.issuedAt = false
  issued : Registry.parsesAfter runtime route.issuedAt receipt.issuedAt = false
  unexpired : Registry.parsesNotAfter runtime route.expiresAt receipt.issuedAt = false
  mem : version ∈ registries.routes.versionsOf route.id
  claimHash : receipt.referralClaimHash = some version.claimHash
  campaignVersionMin : version.campaignVersionMin ≤ receipt.campaignVersion

theorem Accepts.route (h : Accepts runtime registries receipt) {routeId : String}
    (hroute : receipt.routeId = some routeId) : ∃ route version,
      registries.routes.routesById.find? routeId = some route ∧
      RouteAccepted runtime registries receipt route version := by
  obtain ⟨_, _, -, -, -, -, -, -, hattribution⟩ := h.checks
  have h := hattribution routeId hroute
  unfold attributionErrors RouteRegistry.getRoute at h
  cases hfind : registries.routes.routesById.find? routeId with
  | none =>
      rw [hfind] at h
      exact absurd (Except.ok.inj h) (List.cons_ne_nil _ _)
  | some route =>
      rw [hfind] at h
      dsimp only at h
      obtain ⟨versions, hversions, h⟩ := bind_eq_ok.mp h
      rw [pure_eq_ok] at h
      simp only [List.append_eq_nil_iff] at h
      obtain ⟨⟨⟨hrouteErrors, hversionErrors⟩, -⟩, -⟩ := h
      unfold RouteRegistry.listRouteVersions at hversions
      obtain ⟨id, hid, hversions⟩ := bind_eq_ok.mp hversions
      obtain ⟨-, rfl⟩ := assertThat_eq_ok.mp hid
      rw [pure_eq_ok] at hversions
      have hkey : route.id = routeId := Table.key_of_find? hfind
      unfold routeErrors at hrouteErrors
      simp only [List.append_eq_nil_iff, ite_eq_right_iff, List.cons_ne_nil, imp_false, not_or,
        Bool.not_eq_true, not_not] at hrouteErrors
      obtain ⟨⟨⟨⟨hcampaign, hactive⟩, hactivated, hissued, hexpires⟩, -⟩, -⟩ := hrouteErrors
      unfold routeVersionErrors at hversionErrors
      split at hversionErrors
      · exact absurd hversionErrors (List.cons_ne_nil _ _)
      · rename_i version hversion
        rw [List.append_eq_nil_iff] at hversionErrors
        have hmin : ¬ receipt.campaignVersion < version.campaignVersionMin := by
          intro hlt
          rw [if_pos hlt] at hversionErrors
          exact absurd hversionErrors.1 (List.cons_ne_nil _ _)
        refine ⟨route, version, rfl, hcampaign, hactive, hactivated, hissued, hexpires, ?_, ?_, ?_⟩
        · rw [hkey, hversions]
          exact List.mem_of_find?_eq_some hversion
        · have hhash := List.find?_some hversion
          exact (of_decide_eq_true hhash).symm
        · omega

end ReceiptPolicy

/-! ## New versions -/

namespace CampaignRegistry

open ReceiptPolicy

variable {runtime : RegistryRuntime ν} {env : CallEnv} {receipt : Split402ReceiptV1}

/-- A receipt of a campaign that is a draft is not accepted. -/
theorem not_accepts_drafted {registry : CampaignRegistry ν} {registries : Registries ν}
    {campaign : CampaignRecord} {version : CampaignVersionRecord ν} {updatedAt : String}
    (hcampaign : registry.campaigns.find? receipt.campaignId = some campaign)
    (h : registries.campaigns.campaigns =
      registry.campaigns.upsert (campaign.drafted version updatedAt)) :
    ¬ Accepts runtime registries receipt := by
  intro haccepts
  obtain ⟨found, hfound, hactive⟩ := haccepts.campaign
  have hid : campaign.id = receipt.campaignId := Table.key_of_find? hcampaign
  have hdrafted : (campaign.drafted version updatedAt).id = receipt.campaignId := hid
  rw [h, Table.find?_upsert, if_pos hdrafted] at hfound
  rw [← Option.some.inj hfound] at hactive
  cases hactive

/-- **After a new version of its campaign no accepted receipt is accepted any more**, with either
registry. -/
theorem not_accepts_after_version {registries : Registries ν} {after : CampaignRegistry ν}
    {input : CreateCampaignVersionInput ν} {version : CampaignVersionRecord ν}
    (_ : Accepts runtime registries receipt) (hcampaign : input.campaignId = receipt.campaignId)
    (h : registries.campaigns.createCampaignVersion runtime env input = .ok (version, after) ∨
      registries.campaigns.createCampaignVersionPostgres runtime env input = .ok (version, after)) :
    ¬ Accepts runtime { registries with campaigns := after } receipt := by
  have hdrafted : ∃ campaign, registries.campaigns.campaigns.find? input.campaignId = some campaign ∧
      after.campaigns = registries.campaigns.campaigns.upsert
        (campaign.drafted version (now runtime env)) := by
    rcases h with h | h
    · obtain ⟨campaign, hfind, -, -, -, hafter⟩ := createCampaignVersion_eq_ok h
      exact ⟨campaign, hfind, by rw [hafter]⟩
    · exact createCampaignVersionPostgres_eq_ok h
  obtain ⟨campaign, hfind, hafter⟩ := hdrafted
  rw [hcampaign] at hfind
  exact not_accepts_drafted hfind hafter

end CampaignRegistry

namespace Sample

theorem routeSale_accepted :
    ReceiptPolicy.Accepts registryRuntime sampleRegistries routeSale := by
  decide

/-- The campaigns after the merchant has drafted other terms. -/
def redraftedCampaigns : CampaignRegistry Whole where
  campaigns := activeCampaigns.campaigns.upsert
    ((draftCampaign.moved .active registryNow).drafted secondVersion registryNow)
  versions := activeCampaigns.versions.upsert secondVersion

theorem redraft_sample : activeCampaigns.createCampaignVersion registryRuntime registryEnv
    versionInput = .ok (secondVersion, redraftedCampaigns) := by
  refine createCampaignVersion_sample rfl nofun rfl rfl ?_
  intro version hmem
  have hhash : version.termsHash = firstVersion.termsHash := by
    rcases Table.mem_upsert.mp hmem with rfl | ⟨hmem, -⟩
    · rfl
    · rcases Table.mem_upsert.mp hmem with rfl | ⟨hmem, -⟩
      · rfl
      · exact absurd hmem Table.not_mem_empty
  rw [hhash]
  decide

end Sample

/-- The sale is accepted, and not any more when the merchant drafts other terms. -/
theorem not_accepts_after_version_routeSale :
    ReceiptPolicy.Accepts Sample.registryRuntime Sample.sampleRegistries Sample.routeSale ∧
    ¬ ReceiptPolicy.Accepts Sample.registryRuntime
      { Sample.sampleRegistries with campaigns := Sample.redraftedCampaigns } Sample.routeSale :=
  ⟨Sample.routeSale_accepted, CampaignRegistry.not_accepts_after_version
    Sample.routeSale_accepted rfl (.inl Sample.redraft_sample)⟩

/-- An accepted receipt does not stay accepted. -/
theorem not_accepted_stays : ¬ ∀ (runtime : RegistryRuntime Whole)
    (registries : Registries Whole) (receipt : Split402ReceiptV1) (env : CallEnv)
    (input : CreateCampaignVersionInput Whole) (version : CampaignVersionRecord Whole)
    (after : CampaignRegistry Whole),
    (Registries.system runtime).Reachable (fun _ _ => True) registries →
    ReceiptPolicy.Accepts runtime registries receipt → input.campaignId = receipt.campaignId →
    registries.campaigns.createCampaignVersion runtime env input = .ok (version, after) →
    ReceiptPolicy.Accepts runtime { registries with campaigns := after } receipt := by
  intro hall
  have haccepts := hall Sample.registryRuntime Sample.sampleRegistries Sample.routeSale
    Sample.registryEnv Sample.versionInput _ _ Sample.reachable_sampleRegistries
    Sample.routeSale_accepted rfl Sample.redraft_sample
  obtain ⟨campaign, hfind, -, -, -, hafter⟩ :=
    CampaignRegistry.createCampaignVersion_eq_ok Sample.redraft_sample
  exact CampaignRegistry.not_accepts_drafted hfind
    (congrArg CampaignRegistry.campaigns hafter) haccepts

end Split402

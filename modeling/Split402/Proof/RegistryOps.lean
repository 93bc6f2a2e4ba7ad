import Split402.Registry.Runs

/-! # What the registries do

One lemma for each operation of a registry: what it has found and what it has written when it
returns. -/

namespace Split402

open Base

variable {ν : Type} {runtime : RegistryRuntime ν}

/-- A number that is a version is that version. -/
theorem assertPositiveVersion_eq_ok {number version : Nat}
    (h : Registry.assertPositiveVersion (.finite (number : Rat)) = .ok version) :
    version = number := by
  have hinteger : (JsNumber.finite (number : Rat)).toInteger = some (number : Int) := by
    simp [JsNumber.toInteger]
  unfold Registry.assertPositiveVersion at h
  rw [hinteger] at h
  split at h
  · exact absurd h throw_ne_ok
  · rename_i value hvalue
    obtain ⟨heq, -⟩ := Option.filter_eq_some_iff.mp hvalue
    rw [pure_eq_ok, ← Option.some.inj heq] at h
    rw [← h, Int.toNat_natCast]

/-! ## Campaigns -/

/-- A new version is a draft under its number, without a signature. -/
structure DraftVersion (campaignId : String) (number : Nat) (version : CampaignVersionRecord ν) :
    Prop where
  campaignId : version.campaignId = campaignId
  number : version.version = number
  kid : version.merchantKid = none
  signature : version.merchantSignature = none
  activatedAt : version.activatedAt = none

theorem DraftVersion.key {campaignId : String} {number : Nat} {version : CampaignVersionRecord ν}
    (h : DraftVersion campaignId number version) : version.key = (campaignId, number) := by
  rw [CampaignVersionRecord.key, h.campaignId, h.number]

theorem createCampaignVersionRecord_eq_ok {campaignId merchantId createdAt : String} {number : Nat}
    {input : CampaignTermsInput ν} {version : CampaignVersionRecord ν}
    (h : createCampaignVersionRecord runtime campaignId merchantId number input createdAt =
      .ok version) : DraftVersion campaignId number version := by
  unfold createCampaignVersionRecord at h
  obtain ⟨_, _, h⟩ := bind_eq_ok.mp h
  obtain ⟨_, _, h⟩ := bind_eq_ok.mp h
  obtain ⟨_, _, h⟩ := bind_eq_ok.mp h
  obtain ⟨_, _, h⟩ := bind_eq_ok.mp h
  obtain ⟨_, _, h⟩ := bind_eq_ok.mp h
  obtain ⟨_, _, h⟩ := bind_eq_ok.mp h
  obtain ⟨_, _, h⟩ := bind_eq_ok.mp h
  obtain ⟨_, _, h⟩ := bind_eq_ok.mp h
  obtain ⟨_, _, h⟩ := bind_eq_ok.mp h
  obtain ⟨_, _, h⟩ := bind_eq_ok.mp h
  obtain ⟨_, _, h⟩ := bind_eq_ok.mp h
  obtain ⟨_, _, h⟩ := bind_eq_ok.mp h
  obtain ⟨_, _, h⟩ := bind_eq_ok.mp h
  obtain ⟨_, _, h⟩ := bind_eq_ok.mp h
  obtain ⟨_, _, h⟩ := bind_eq_ok.mp h
  rw [pure_eq_ok] at h
  rw [← h]
  exact ⟨rfl, rfl, rfl, rfl, rfl⟩

namespace CampaignRegistry

variable {registry after : CampaignRegistry ν} {env : CallEnv}

theorem createCampaign_eq_ok {input : CreateCampaignInput ν} {profile : CampaignProfile ν}
    (h : registry.createCampaign runtime env input = .ok (profile, after)) :
    ∃ campaign version, registry.campaigns.has campaign.id = false ∧ campaign.status = .draft ∧
      campaign.currentVersion = 1 ∧ DraftVersion campaign.id 1 version ∧
      after = { campaigns := registry.campaigns.upsert campaign
                versions := (registry.versions.filter (·.campaignId ≠ campaign.id)).upsert version } := by
  unfold createCampaign at h
  obtain ⟨campaignId, _, h⟩ := bind_eq_ok.mp h
  obtain ⟨_, hhas, h⟩ := bind_eq_ok.mp h
  obtain ⟨_, _, h⟩ := bind_eq_ok.mp h
  obtain ⟨_, _, h⟩ := bind_eq_ok.mp h
  obtain ⟨version, hversion, h⟩ := bind_eq_ok.mp h
  rw [pure_eq_ok, Prod.mk.injEq] at h
  rw [throwIf_eq_ok, Bool.not_eq_true] at hhas
  exact ⟨_, version, hhas, rfl, rfl, createCampaignVersionRecord_eq_ok hversion, h.2.symm⟩

/-- A new version makes its campaign a draft. -/
theorem createCampaignVersion_eq_ok {input : CreateCampaignVersionInput ν}
    {version : CampaignVersionRecord ν}
    (h : registry.createCampaignVersion runtime env input = .ok (version, after)) :
    ∃ campaign, registry.campaigns.find? input.campaignId = some campaign ∧
      campaign.status ≠ .closed ∧ DraftVersion campaign.id (campaign.currentVersion + 1) version ∧
      (∀ other ∈ registry.versions, other.campaignId = campaign.id →
        other.termsHash ≠ version.termsHash) ∧
      after =
        { campaigns := registry.campaigns.upsert (campaign.drafted version (now runtime env))
          versions := registry.versions.upsert version } := by
  unfold createCampaignVersion at h
  cases hcampaign : registry.campaigns.find? input.campaignId with
  | none =>
      rw [hcampaign] at h
      exact absurd h throw_ne_ok
  | some campaign =>
      rw [hcampaign] at h
      dsimp only at h
      obtain ⟨_, hopen, h⟩ := bind_eq_ok.mp h
      obtain ⟨version', hversion, h⟩ := bind_eq_ok.mp h
      obtain ⟨_, hnew, h⟩ := bind_eq_ok.mp h
      rw [pure_eq_ok, Prod.mk.injEq] at h
      rw [h.1] at hversion hnew
      refine ⟨campaign, rfl, throwIf_eq_ok.mp hopen, createCampaignVersionRecord_eq_ok hversion, ?_,
        ?_⟩
      · intro other hother hof hsame
        rw [throwIf_eq_ok, Bool.not_eq_true, List.any_eq_false] at hnew
        refine hnew other (Table.mem_filter.mpr ⟨hother, ?_⟩) ?_
        · exact decide_eq_true hof
        · exact decide_eq_true hsame
      · rw [← h.2, h.1]

theorem createCampaignVersionPostgres_eq_ok {input : CreateCampaignVersionInput ν}
    {version : CampaignVersionRecord ν}
    (h : registry.createCampaignVersionPostgres runtime env input = .ok (version, after)) :
    ∃ campaign, registry.campaigns.find? input.campaignId = some campaign ∧
      after.campaigns =
        registry.campaigns.upsert (campaign.drafted version (now runtime env)) := by
  unfold createCampaignVersionPostgres at h
  cases hcampaign : registry.campaigns.find? input.campaignId with
  | none =>
      rw [hcampaign] at h
      exact absurd h throw_ne_ok
  | some campaign =>
      rw [hcampaign] at h
      dsimp only at h
      obtain ⟨_, _, h⟩ := bind_eq_ok.mp h
      obtain ⟨version', hversion, h⟩ := bind_eq_ok.mp h
      obtain ⟨_, _, h⟩ := bind_eq_ok.mp h
      split at h
      · exact absurd h throw_ne_ok
      · rw [pure_eq_ok, Prod.mk.injEq] at h
        refine ⟨campaign, rfl, ?_⟩
        rw [← h.2, h.1]

theorem versionToActivate_eq_ok {campaign : CampaignRecord} {input : ActivateCampaignVersionInput}
    {version : CampaignVersionRecord ν} (h : registry.versionToActivate campaign input = .ok version) :
    registry.versions.find? (campaign.id, campaign.currentVersion) = some version := by
  unfold versionToActivate at h
  obtain ⟨number, _, h⟩ := bind_eq_ok.mp h
  obtain ⟨_, hnumber, h⟩ := bind_eq_ok.mp h
  rw [throwIf_eq_ok, not_not] at hnumber
  rw [hnumber] at h
  cases hversion : registry.versions.find? (campaign.id, campaign.currentVersion) with
  | none =>
      rw [hversion] at h
      exact absurd h throw_ne_ok
  | some version' =>
      rw [hversion] at h
      rw [pure_eq_ok] at h
      rw [h]

/-- What an activation that signs a version has found: the campaign is open, and its current version
is not signed and carries the terms that the signature verifies over. -/
structure Signs (runtime : RegistryRuntime ν) (registry : CampaignRegistry ν)
    (input : ActivateCampaignVersionInput) (campaign : CampaignRecord)
    (version : CampaignVersionRecord ν) : Prop where
  found : registry.campaigns.find? input.campaignId = some campaign
  isOpen : campaign.status ≠ .closed
  current : registry.versions.find? (campaign.id, campaign.currentVersion) = some version
  unsigned : version.merchantKid = none ∧ version.merchantSignature = none
  verified : verifyCampaignTermsSignature runtime version.terms input.merchantPublicKey
    input.merchantSignature = true

/-- An activation changes nothing, or signs the current version and makes the campaign active. -/
theorem activateCampaignVersion_eq_ok {input : ActivateCampaignVersionInput}
    {profile : CampaignProfile ν}
    (h : registry.activateCampaignVersion runtime env input = .ok (profile, after)) :
    after = registry ∨ ∃ campaign version, Signs runtime registry input campaign version ∧
      after =
        { campaigns := registry.campaigns.upsert (campaign.moved .active (now runtime env))
          versions := registry.versions.upsert
            (version.activated input.merchantKid input.merchantSignature (now runtime env)) } := by
  unfold activateCampaignVersion at h
  cases hcampaign : registry.campaigns.find? input.campaignId with
  | none =>
      rw [hcampaign] at h
      exact absurd h throw_ne_ok
  | some campaign =>
      rw [hcampaign] at h
      dsimp only at h
      obtain ⟨_, hopen, h⟩ := bind_eq_ok.mp h
      obtain ⟨version, hversion, h⟩ := bind_eq_ok.mp h
      obtain ⟨kid, hkid, h⟩ := bind_eq_ok.mp h
      obtain ⟨publicKey, hkey, h⟩ := bind_eq_ok.mp h
      obtain ⟨signature, hsignature, h⟩ := bind_eq_ok.mp h
      obtain ⟨-, rfl⟩ := assertThat_eq_ok.mp hkid
      obtain ⟨-, rfl⟩ := assertThat_eq_ok.mp hkey
      obtain ⟨-, rfl⟩ := assertThat_eq_ok.mp hsignature
      split at h
      · -- signed before
        split at h
        · rw [pure_eq_ok, Prod.mk.injEq] at h
          exact .inl h.2.symm
        · exact absurd h throw_ne_ok
      · rename_i hunsigned
        split at h
        · exact absurd h throw_ne_ok
        · rename_i hverified
          rw [Bool.not_eq_true', Bool.not_eq_false] at hverified
          rw [not_or, Option.not_isSome_iff_eq_none, Option.not_isSome_iff_eq_none] at hunsigned
          rw [pure_eq_ok, Prod.mk.injEq] at h
          exact .inr ⟨campaign, version, ⟨hcampaign, throwIf_eq_ok.mp hopen,
            versionToActivate_eq_ok hversion, hunsigned, hverified⟩, h.2.symm⟩

/-- A campaign becomes active only from being paused, and paused only from being active. -/
theorem updateCampaignStatus_eq_ok {campaignId : String} {status : CampaignStatusTransition}
    {profile : Option (CampaignProfile ν)}
    (h : registry.updateCampaignStatus runtime env campaignId status = .ok (profile, after)) :
    after = registry ∨ ∃ campaign, registry.campaigns.find? campaignId = some campaign ∧
      (status = .closed ∨ campaign.status = .active ∨ campaign.status = .paused) ∧
      after =
        { registry with
          campaigns := registry.campaigns.upsert
            (campaign.moved status.status (now runtime env)) } := by
  unfold updateCampaignStatus at h
  cases hcampaign : registry.campaigns.find? campaignId with
  | none =>
      rw [hcampaign, pure_eq_ok, Prod.mk.injEq] at h
      exact .inl h.2.symm
  | some campaign =>
      rw [hcampaign] at h
      dsimp only at h
      obtain ⟨_, htransition, h⟩ := bind_eq_ok.mp h
      obtain ⟨_, _, h⟩ := bind_eq_ok.mp h
      rw [pure_eq_ok, Prod.mk.injEq] at h
      refine .inr ⟨campaign, rfl, ?_, h.2.symm⟩
      cases status with
      | closed => exact .inl rfl
      | paused =>
          simp only [assertCampaignStatusTransition, throwIf_eq_ok, ne_eq, not_not] at htransition
          exact .inr (.inl htransition)
      | active =>
          simp only [assertCampaignStatusTransition, throwIf_eq_ok, ne_eq, not_not] at htransition
          exact .inr (.inr htransition)

end CampaignRegistry

/-! ## Routes -/

namespace RouteRegistry

variable {registry after : RouteRegistry} {env : CallEnv} {route : RouteRecord}

/-- A claim that is let in has the shape of one and verifies. -/
theorem parseVerifiedRouteClaim_eq_ok {claimInput : Option ReferralClaimV1} {claim : ReferralClaimV1}
    (h : parseVerifiedRouteClaim runtime claimInput = .ok claim) :
    claimInput = some claim ∧ referralClaimV1Schema runtime.zod claim = true ∧
      ∃ result, verifyReferralClaimObject runtime.toRuntime claim = .ok result ∧ result.ok = true := by
  unfold parseVerifiedRouteClaim at h
  cases hparsed : claimInput.filter (referralClaimV1Schema runtime.zod) with
  | none =>
      rw [hparsed] at h
      exact absurd h throw_ne_ok
  | some parsed =>
      rw [hparsed] at h
      dsimp only at h
      obtain ⟨result, hresult, h⟩ := bind_eq_ok.mp h
      obtain ⟨_, hok, h⟩ := bind_eq_ok.mp h
      rw [throwIf_eq_ok, Bool.not_eq_true', Bool.not_eq_false] at hok
      rw [pure_eq_ok] at h
      subst h
      obtain ⟨hinput, hschema⟩ := Option.filter_eq_some_iff.mp hparsed
      exact ⟨hinput, hschema, result, ofProtocolError_eq_ok.mp hresult, hok⟩

/-- The claim of a route that is new: it verifies and lives, and neither its hash nor its id is
known. -/
structure IsNewRoute (runtime : RegistryRuntime ν) (registry : RouteRegistry) (env : CallEnv)
    (claimInput : Option ReferralClaimV1) (claim : ReferralClaimV1) (claimHash : String) : Prop where
  parsed : parseVerifiedRouteClaim runtime claimInput = .ok claim
  range : assertClaimRange runtime claim.issuedAt claim.expiresAt = .ok ()
  unexpired : assertNotExpired runtime env claim = .ok ()
  hashed : hashReferralClaim runtime.toRuntime claim = .ok claimHash
  unknown : (registry.routeIdByClaimHash.find? claimHash).bind
    (fun entry => registry.routesById.find? entry.routeId) = none
  fresh : registry.routesById.has claim.routeId = false

/-- An activation changes nothing, or adds a new route under the id of its claim. -/
theorem activateRoute_new {claimInput : Option ReferralClaimV1}
    (h : registry.activateRoute runtime env claimInput = .ok (route, after)) :
    after = registry ∨ ∃ claim claimHash version,
      IsNewRoute runtime registry env claimInput claim claimHash ∧
      route = activatedRoute runtime env claim claimHash ∧
      version = createRouteVersionRecord route claim 1 route.createdAt ∧
      after =
        { routesById := registry.routesById.upsert route
          routeIdByClaimHash := registry.routeIdByClaimHash.upsert ⟨claimHash, route.id⟩
          versionsByRouteId := registry.versionsByRouteId.upsert ⟨route.id, [version]⟩ } := by
  unfold activateRoute at h
  obtain ⟨claim, hclaim, h⟩ := bind_eq_ok.mp h
  obtain ⟨_, hrange, h⟩ := bind_eq_ok.mp h
  obtain ⟨_, hunexpired, h⟩ := bind_eq_ok.mp h
  obtain ⟨claimHash, hhash, h⟩ := bind_eq_ok.mp h
  dsimp only at h
  split at h
  · rw [pure_eq_ok, Prod.mk.injEq] at h
    exact .inl h.2.symm
  · rename_i hunknown
    obtain ⟨_, hhas, h⟩ := bind_eq_ok.mp h
    obtain ⟨_, _, h⟩ := bind_eq_ok.mp h
    rw [throwIf_eq_ok, Bool.not_eq_true] at hhas
    rw [pure_eq_ok, Prod.mk.injEq] at h
    obtain ⟨rfl, rfl⟩ := h
    exact .inr ⟨claim, claimHash, _, ⟨hclaim, hrange, hunexpired, ofProtocolError_eq_ok.mp hhash,
      hunknown, hhas⟩, rfl, rfl, rfl⟩

theorem activateRoute_eq_ok {claimInput : Option ReferralClaimV1}
    (h : registry.activateRoute runtime env claimInput = .ok (route, after)) :
    after = registry ∨ ∃ claim claimHash version,
      parseVerifiedRouteClaim runtime claimInput = .ok claim ∧
      registry.routesById.has claim.routeId = false ∧
      route = activatedRoute runtime env claim claimHash ∧
      version = createRouteVersionRecord route claim 1 route.createdAt ∧
      after =
        { routesById := registry.routesById.upsert route
          routeIdByClaimHash := registry.routeIdByClaimHash.upsert ⟨claimHash, route.id⟩
          versionsByRouteId := registry.versionsByRouteId.upsert ⟨route.id, [version]⟩ } := by
  rcases activateRoute_new h with hsame | ⟨claim, claimHash, version, hnew, hroute, hversion, hafter⟩
  · exact .inl hsame
  · exact .inr ⟨claim, claimHash, version, hnew.parsed, hnew.fresh, hroute, hversion, hafter⟩

/-- What a rotation has checked: the claim agrees with the route in all it does not rotate. -/
structure RotationChecked (runtime : RegistryRuntime ν) (registry : RouteRegistry)
    (routeId : String) (claimInput : Option ReferralClaimV1) (existing : RouteRecord)
    (claim : ReferralClaimV1) (claimHash : String) : Prop where
  found : registry.routesById.find? routeId = some existing
  active : existing.status = .active
  parsed : parseVerifiedRouteClaim runtime claimInput = .ok claim
  sameRoute : claim.routeId = existing.id
  campaignId : claim.campaignId = existing.campaignId
  campaignVersionMin : claim.campaignVersionMin = existing.campaignVersionMin
  referrerWallet : claim.referrerWallet = existing.referrerWallet
  resourceOrigin : claim.resourceOrigin = existing.resourceOrigin
  operationIds : claim.operationIds = existing.operationIds
  hashed : hashReferralClaim runtime.toRuntime claim = .ok claimHash
  notOthers : ∀ entry, registry.routeIdByClaimHash.find? claimHash = some entry →
    entry.routeId = routeId

theorem assertRoutePayoutRotation_eq_ok {existing : RouteRecord} {claim : ReferralClaimV1} {u : Unit}
    (h : assertRoutePayoutRotation existing claim = .ok u) :
    claim.routeId = existing.id ∧ claim.campaignId = existing.campaignId ∧
      claim.campaignVersionMin = existing.campaignVersionMin ∧
      claim.referrerWallet = existing.referrerWallet ∧
      claim.resourceOrigin = existing.resourceOrigin ∧
      claim.operationIds = existing.operationIds := by
  unfold assertRoutePayoutRotation at h
  by_cases hid : claim.routeId = existing.id
  · by_cases hcampaign : claim.campaignId = existing.campaignId
    · by_cases hmin : claim.campaignVersionMin = existing.campaignVersionMin
      · by_cases hreferrer : claim.referrerWallet = existing.referrerWallet
        · by_cases horigin : claim.resourceOrigin = existing.resourceOrigin
          · by_cases hscope : claim.operationIds = existing.operationIds
            · exact ⟨hid, hcampaign, hmin, hreferrer, horigin, hscope⟩
            · simp [hid, hcampaign, hmin, hreferrer, horigin, hscope] at h
          · simp [hid, hcampaign, hmin, hreferrer, horigin] at h
        · simp [hid, hcampaign, hmin, hreferrer] at h
      · simp [hid, hcampaign, hmin] at h
    · simp [hid, hcampaign] at h
  · simp [hid] at h

theorem checkRotation_eq_ok {routeId : String} {claimInput : Option ReferralClaimV1}
    {existing : RouteRecord} {claim : ReferralClaimV1} {claimHash : String}
    (h : registry.checkRotation runtime env routeId claimInput = .ok (existing, claim, claimHash)) :
    RotationChecked runtime registry routeId claimInput existing claim claimHash := by
  unfold checkRotation at h
  obtain ⟨id, hid, h⟩ := bind_eq_ok.mp h
  obtain ⟨-, rfl⟩ := assertThat_eq_ok.mp hid
  cases hroute : registry.routesById.find? routeId with
  | none =>
      rw [hroute] at h
      exact absurd h throw_ne_ok
  | some existing' =>
      rw [hroute] at h
      dsimp only at h
      obtain ⟨_, hactive, h⟩ := bind_eq_ok.mp h
      obtain ⟨claim', hclaim, h⟩ := bind_eq_ok.mp h
      obtain ⟨_, hrotation, h⟩ := bind_eq_ok.mp h
      obtain ⟨_, _, h⟩ := bind_eq_ok.mp h
      obtain ⟨_, _, h⟩ := bind_eq_ok.mp h
      obtain ⟨claimHash', hhash, h⟩ := bind_eq_ok.mp h
      rw [throwIf_eq_ok, not_not] at hactive
      obtain ⟨h1, h2, h3, h4, h5, h6⟩ := assertRoutePayoutRotation_eq_ok hrotation
      have hresult : (existing', claim', claimHash') = (existing, claim, claimHash) ∧
          ∀ entry, registry.routeIdByClaimHash.find? claimHash' = some entry →
            entry.routeId = routeId := by
        split at h
        · rename_i entry hentry
          obtain ⟨_, hown, h⟩ := bind_eq_ok.mp h
          rw [throwIf_eq_ok, not_not] at hown
          refine ⟨pure_eq_ok.mp h, ?_⟩
          intro entry' hentry'
          rw [hentry, Option.some.injEq] at hentry'
          rw [← hentry', hown]
        · rename_i hentry
          refine ⟨pure_eq_ok.mp h, ?_⟩
          intro entry' hentry'
          rw [hentry] at hentry'
          cases hentry'
      obtain ⟨htriple, hothers⟩ := hresult
      rw [Prod.mk.injEq, Prod.mk.injEq] at htriple
      obtain ⟨rfl, rfl, rfl⟩ := htriple
      exact ⟨hroute, hactive, hclaim, h1, h2, h3, h4, h5, h6, ofProtocolError_eq_ok.mp hhash,
        hothers⟩

/-- The claim of a rotation is not one the route has had. -/
def IsNewClaim (registry : RouteRegistry) (routeId : String) (existing : RouteRecord)
    (claimHash : String) : Prop :=
  (registry.versionsOf routeId).any (·.claimHash = claimHash) = false ∧
    claimHash ≠ existing.claimHash

/-- A rotation changes nothing, or makes a new claim the current one. -/
theorem rotateRoutePayout_eq_ok {routeId : String} {claimInput : Option ReferralClaimV1}
    (h : registry.rotateRoutePayout runtime env routeId claimInput = .ok (route, after)) :
    after = registry ∨ ∃ existing claim claimHash version,
      registry.checkRotation runtime env routeId claimInput = .ok (existing, claim, claimHash) ∧
      IsNewClaim registry routeId existing claimHash ∧
      route = rotatedRoute existing claim claimHash ∧
      version = createRouteVersionRecord route claim route.currentVersion
        (runtime.host.toISOString env.clock) ∧
      after =
        { routesById := registry.routesById.upsert route
          routeIdByClaimHash := registry.routeIdByClaimHash.upsert ⟨claimHash, routeId⟩
          versionsByRouteId := registry.versionsByRouteId.upsert
            ⟨routeId, registry.versionsOf routeId ++ [version]⟩ } := by
  unfold rotateRoutePayout at h
  obtain ⟨⟨existing, claim, claimHash⟩, hcheck, h⟩ := bind_eq_ok.mp h
  dsimp only at h
  split at h
  · rw [pure_eq_ok, Prod.mk.injEq] at h
    exact .inl h.2.symm
  · rename_i hnew
    split at h
    · rw [pure_eq_ok, Prod.mk.injEq] at h
      exact .inl h.2.symm
    · rename_i hne
      obtain ⟨_, _, h⟩ := bind_eq_ok.mp h
      rw [pure_eq_ok, Prod.mk.injEq] at h
      obtain ⟨rfl, rfl⟩ := h
      rw [Bool.not_eq_true] at hnew
      exact .inr ⟨existing, claim, claimHash, _, hcheck, ⟨hnew, hne⟩, rfl, rfl, rfl⟩

/-- A route that is suspended or resumed changes only its status. -/
theorem moveRoute_eq_ok {source target : RouteStatus} {verb routeId : String}
    {moved : Option RouteRecord}
    (h : registry.moveRoute source target verb routeId = .ok (moved, after)) :
    after = registry ∨ ∃ existing, registry.routesById.find? routeId = some existing ∧
      after = { registry with
        routesById := registry.routesById.upsert { existing with status := target } } := by
  unfold moveRoute at h
  obtain ⟨id, hid, h⟩ := bind_eq_ok.mp h
  obtain ⟨-, rfl⟩ := assertThat_eq_ok.mp hid
  cases hroute : registry.routesById.find? routeId with
  | none =>
      rw [hroute, pure_eq_ok, Prod.mk.injEq] at h
      exact .inl h.2.symm
  | some existing =>
      rw [hroute] at h
      dsimp only at h
      split at h
      · rw [pure_eq_ok, Prod.mk.injEq] at h
        exact .inl h.2.symm
      · split at h
        · exact absurd h throw_ne_ok
        · rw [pure_eq_ok, Prod.mk.injEq] at h
          exact .inr ⟨existing, rfl, h.2.symm⟩

theorem versionsOf_upsert {routesById : Table RouteRecord.id}
    {routeIdByClaimHash : Table ClaimHashEntry.claimHash}
    {versionsByRouteId : Table RouteVersions.routeId} {entry : RouteVersions} (routeId : String) :
    versionsOf ⟨routesById, routeIdByClaimHash, versionsByRouteId.upsert entry⟩ routeId =
      if entry.routeId = routeId then entry.versions
      else versionsOf ⟨routesById, routeIdByClaimHash, versionsByRouteId⟩ routeId := by
  rw [versionsOf, Table.find?_upsert]
  by_cases hid : entry.routeId = routeId
  · rw [if_pos hid, if_pos hid]
    rfl
  · rw [if_neg hid, if_neg hid]
    rfl

end RouteRegistry

/-! ## One call -/

namespace Registries

open RouteRegistry

variable {s s' : Registries ν}

/-- A call that throws leaves the registries as they are. -/
theorem after_cases (call : RegistryCall ν) :
    s.after runtime call = s ∨ s.apply runtime call = .ok (s.after runtime call) := by
  unfold after
  cases s.apply runtime call with
  | error error => exact .inl rfl
  | ok s' => exact .inr rfl

/-- What a call does to the routes: nothing, or what one of their operations does. -/
inductive ChangesRoutes (runtime : RegistryRuntime ν) (s : Registries ν) :
    RegistryCall ν → RouteRegistry → Prop
  | none (call : RegistryCall ν) : ChangesRoutes runtime s call s.routes
  | activate {env : CallEnv} {claim : Option ReferralClaimV1} {route : RouteRecord}
      {routes : RouteRegistry} :
      s.routes.activateRoute runtime env claim = .ok (route, routes) →
      ChangesRoutes runtime s (.activateRoute env claim) routes
  | rotate {env : CallEnv} {routeId : String} {claim : Option ReferralClaimV1}
      {route : RouteRecord} {routes : RouteRegistry} :
      s.routes.rotateRoutePayout runtime env routeId claim = .ok (route, routes) →
      ChangesRoutes runtime s (.rotateRoutePayout env routeId claim) routes
  | move {call : RegistryCall ν} {source target : RouteStatus} {verb routeId : String}
      {moved : Option RouteRecord} {routes : RouteRegistry} :
      s.routes.moveRoute source target verb routeId = .ok (moved, routes) →
      ChangesRoutes runtime s call routes

theorem changesRoutes_apply {call : RegistryCall ν} (h : s.apply runtime call = .ok s') :
    ChangesRoutes runtime s call s'.routes := by
  cases call with
  | createCampaign env input =>
      obtain ⟨result, -, h⟩ := bind_eq_ok.mp h
      rw [← pure_eq_ok.mp h]
      exact .none _
  | createCampaignVersion env input =>
      obtain ⟨result, -, h⟩ := bind_eq_ok.mp h
      rw [← pure_eq_ok.mp h]
      exact .none _
  | activateCampaignVersion env input =>
      obtain ⟨result, -, h⟩ := bind_eq_ok.mp h
      rw [← pure_eq_ok.mp h]
      exact .none _
  | updateCampaignStatus env campaignId status =>
      obtain ⟨result, -, h⟩ := bind_eq_ok.mp h
      rw [← pure_eq_ok.mp h]
      exact .none _
  | activateRoute env claim =>
      obtain ⟨result, hresult, h⟩ := bind_eq_ok.mp h
      rw [← pure_eq_ok.mp h]
      exact .activate hresult
  | rotateRoutePayout env routeId claim =>
      obtain ⟨result, hresult, h⟩ := bind_eq_ok.mp h
      rw [← pure_eq_ok.mp h]
      exact .rotate hresult
  | suspendRoute routeId =>
      obtain ⟨result, hresult, h⟩ := bind_eq_ok.mp h
      rw [← pure_eq_ok.mp h]
      exact .move hresult
  | resumeRoute routeId =>
      obtain ⟨result, hresult, h⟩ := bind_eq_ok.mp h
      rw [← pure_eq_ok.mp h]
      exact .move hresult
  | changeMerchants merchants =>
      unfold Registries.apply at h
      rw [← pure_eq_ok.mp h]
      exact .none _

theorem changesRoutes_after (call : RegistryCall ν) :
    ChangesRoutes runtime s call (s.after runtime call).routes := by
  rcases @after_cases ν runtime s call with hsame | happly
  · rw [hsame]
    exact .none call
  · exact changesRoutes_apply happly

/-- What a call does to the campaigns: nothing, or what one of their operations does. -/
inductive ChangesCampaigns (runtime : RegistryRuntime ν) (s : Registries ν) :
    RegistryCall ν → CampaignRegistry ν → Prop
  | none (call : RegistryCall ν) : ChangesCampaigns runtime s call s.campaigns
  | create {env : CallEnv} {input : CreateCampaignInput ν} {profile : CampaignProfile ν}
      {campaigns : CampaignRegistry ν} :
      s.campaigns.createCampaign runtime env input = .ok (profile, campaigns) →
      ChangesCampaigns runtime s (.createCampaign env input) campaigns
  | version {env : CallEnv} {input : CreateCampaignVersionInput ν}
      {version : CampaignVersionRecord ν} {campaigns : CampaignRegistry ν} :
      s.campaigns.createCampaignVersion runtime env input = .ok (version, campaigns) →
      ChangesCampaigns runtime s (.createCampaignVersion env input) campaigns
  | activate {env : CallEnv} {input : ActivateCampaignVersionInput} {profile : CampaignProfile ν}
      {campaigns : CampaignRegistry ν} :
      s.campaigns.activateCampaignVersion runtime env input = .ok (profile, campaigns) →
      ChangesCampaigns runtime s (.activateCampaignVersion env input) campaigns
  | move {env : CallEnv} {campaignId : String} {status : CampaignStatusTransition}
      {profile : Option (CampaignProfile ν)} {campaigns : CampaignRegistry ν} :
      s.campaigns.updateCampaignStatus runtime env campaignId status = .ok (profile, campaigns) →
      ChangesCampaigns runtime s (.updateCampaignStatus env campaignId status) campaigns

theorem changesCampaigns_apply {call : RegistryCall ν} (h : s.apply runtime call = .ok s') :
    ChangesCampaigns runtime s call s'.campaigns := by
  cases call with
  | createCampaign env input =>
      obtain ⟨result, hresult, h⟩ := bind_eq_ok.mp h
      rw [← pure_eq_ok.mp h]
      exact .create hresult
  | createCampaignVersion env input =>
      obtain ⟨result, hresult, h⟩ := bind_eq_ok.mp h
      rw [← pure_eq_ok.mp h]
      exact .version hresult
  | activateCampaignVersion env input =>
      obtain ⟨result, hresult, h⟩ := bind_eq_ok.mp h
      rw [← pure_eq_ok.mp h]
      exact .activate hresult
  | updateCampaignStatus env campaignId status =>
      obtain ⟨result, hresult, h⟩ := bind_eq_ok.mp h
      rw [← pure_eq_ok.mp h]
      exact .move hresult
  | activateRoute env claim =>
      obtain ⟨result, -, h⟩ := bind_eq_ok.mp h
      rw [← pure_eq_ok.mp h]
      exact .none _
  | rotateRoutePayout env routeId claim =>
      obtain ⟨result, -, h⟩ := bind_eq_ok.mp h
      rw [← pure_eq_ok.mp h]
      exact .none _
  | suspendRoute routeId =>
      obtain ⟨result, -, h⟩ := bind_eq_ok.mp h
      rw [← pure_eq_ok.mp h]
      exact .none _
  | resumeRoute routeId =>
      obtain ⟨result, -, h⟩ := bind_eq_ok.mp h
      rw [← pure_eq_ok.mp h]
      exact .none _
  | changeMerchants merchants =>
      unfold Registries.apply at h
      rw [← pure_eq_ok.mp h]
      exact .none _

theorem changesCampaigns_after (call : RegistryCall ν) :
    ChangesCampaigns runtime s call (s.after runtime call).campaigns := by
  rcases @after_cases ν runtime s call with hsame | happly
  · rw [hsame]
    exact .none call
  · exact changesCampaigns_apply happly

end Registries

end Split402

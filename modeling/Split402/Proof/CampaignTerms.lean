import Split402.Proof.ReceiptPolicy

/-! # The terms of accepted receipts

A campaign that is active, or paused, has no draft among its versions while every activation finds
the other versions of its campaign activated. So a receipt that names a version of an active campaign
names one whose terms the merchant has signed. Whether these are in force is not checked when a
receipt is verified; they are when the route of the receipt lives no longer than they do. -/

namespace Split402

open Base

variable {ν : Type} {runtime : RegistryRuntime ν}

/-! ## Versions -/

/-- The version has been activated: its terms carry a signature that has verified. -/
structure CampaignVersionRecord.Activated (runtime : RegistryRuntime ν)
    (version : CampaignVersionRecord ν) : Prop where
  activatedAt : version.activatedAt.isSome
  merchantKid : version.merchantKid.isSome
  signed : ∃ publicKey signature, version.merchantSignature = some signature ∧
    verifyCampaignTermsSignature runtime version.terms publicKey signature = true

/-- The terms are in force at a time. -/
def CampaignTerms.InForceAt (runtime : RegistryRuntime ν) (terms : CampaignTerms ν) (time : Int) :
    Prop :=
  (∃ start, runtime.host.dateParse terms.startsAt = some start ∧ start ≤ time) ∧
    ∀ endsAt, terms.endsAt = some endsAt →
      ∃ «end», runtime.host.dateParse endsAt = some «end» ∧ time < «end»

namespace CampaignRegistry

/-- Versions are activated by signatures that verify, and a campaign in use has no drafts. -/
structure InUse (runtime : RegistryRuntime ν) (registry : CampaignRegistry ν) : Prop where
  activated : ∀ version ∈ registry.versions, version.activatedAt.isSome →
    version.Activated runtime
  noDrafts : ∀ campaign ∈ registry.campaigns,
    campaign.status = .active ∨ campaign.status = .paused →
    ∀ version ∈ registry.versions, version.campaignId = campaign.id → version.activatedAt.isSome

theorem inUse_empty : InUse runtime (CampaignRegistry.empty (ν := ν)) where
  activated := fun _ h => absurd h Table.not_mem_empty
  noDrafts := fun _ h => absurd h Table.not_mem_empty

variable {registry after : CampaignRegistry ν} {env : CallEnv}

theorem InUse.createCampaign (h : InUse runtime registry) {input : CreateCampaignInput ν}
    {profile : CampaignProfile ν}
    (hcall : registry.createCampaign runtime env input = .ok (profile, after)) :
    InUse runtime after := by
  obtain ⟨campaign, version, hnew, hstatus, -, hdraft, rfl⟩ := createCampaign_eq_ok hcall
  refine ⟨?_, ?_⟩
  · intro v hv hactivated
    rcases Table.mem_upsert.mp hv with rfl | ⟨hv, -⟩
    · rw [hdraft.activatedAt] at hactivated
      cases hactivated
    · exact h.activated v (Table.mem_filter.mp hv).1 hactivated
  · intro c hc huse v hv hof
    rcases Table.mem_upsert.mp hc with rfl | ⟨hc, hid⟩
    · -- the new campaign is a draft
      rw [hstatus] at huse
      rcases huse with huse | huse <;> cases huse
    · rcases Table.mem_upsert.mp hv with rfl | ⟨hv, -⟩
      · exact absurd (hof.symm.trans hdraft.campaignId) hid
      · exact h.noDrafts c hc huse v (Table.mem_filter.mp hv).1 hof

theorem InUse.createCampaignVersion (h : InUse runtime registry)
    {input : CreateCampaignVersionInput ν} {version : CampaignVersionRecord ν}
    (hcall : registry.createCampaignVersion runtime env input = .ok (version, after)) :
    InUse runtime after := by
  obtain ⟨campaign, -, -, hdraft, -, rfl⟩ := createCampaignVersion_eq_ok hcall
  refine ⟨?_, ?_⟩
  · intro v hv hactivated
    rcases Table.mem_upsert.mp hv with rfl | ⟨hv, -⟩
    · rw [hdraft.activatedAt] at hactivated
      cases hactivated
    · exact h.activated v hv hactivated
  · intro c hc huse v hv hof
    rcases Table.mem_upsert.mp hc with rfl | ⟨hc, hid⟩
    · -- the campaign is a draft again
      rcases huse with huse | huse <;> cases huse
    · rcases Table.mem_upsert.mp hv with rfl | ⟨hv, -⟩
      · exact absurd (hof.symm.trans hdraft.campaignId) hid
      · exact h.noDrafts c hc huse v hv hof

/-- All versions of the campaign but the current one have been activated. -/
def OthersActivated (registry : CampaignRegistry ν) (campaignId : String) : Prop :=
  ∀ campaign, registry.campaigns.find? campaignId = some campaign →
    ∀ version ∈ registry.versions, version.campaignId = campaign.id →
      version.version ≠ campaign.currentVersion → version.activatedAt.isSome

theorem InUse.activateCampaignVersion (h : InUse runtime registry)
    {input : ActivateCampaignVersionInput} {profile : CampaignProfile ν}
    (hothers : registry.OthersActivated input.campaignId)
    (hcall : registry.activateCampaignVersion runtime env input = .ok (profile, after)) :
    InUse runtime after := by
  rcases activateCampaignVersion_eq_ok hcall with
    rfl | ⟨campaign, version, hsigns, rfl⟩
  · exact h
  have hkey : version.key = (campaign.id, campaign.currentVersion) :=
    Table.key_of_find? hsigns.current
  rw [CampaignVersionRecord.key, Prod.mk.injEq] at hkey
  refine ⟨?_, ?_⟩
  · intro v hv hactivated
    rcases Table.mem_upsert.mp hv with rfl | ⟨hv, -⟩
    · exact ⟨rfl, rfl, _, _, rfl, hsigns.verified⟩
    · exact h.activated v hv hactivated
  · intro c hc huse v hv hof
    rcases Table.mem_upsert.mp hv with rfl | ⟨hv, hne⟩
    · rfl
    · rcases Table.mem_upsert.mp hc with rfl | ⟨hc, -⟩
      · -- a version of the campaign itself, and not the one that is signed
        have hof' : v.campaignId = campaign.id := hof
        refine hothers campaign hsigns.found v hv hof' ?_
        intro hcurrent
        refine hne ?_
        show (v.campaignId, v.version) = (version.campaignId, version.version)
        rw [hof', hcurrent, hkey.1, hkey.2]
      · exact h.noDrafts c hc huse v hv hof

theorem InUse.updateCampaignStatus (h : InUse runtime registry) {campaignId : String}
    {status : CampaignStatusTransition} {profile : Option (CampaignProfile ν)}
    (hcall : registry.updateCampaignStatus runtime env campaignId status = .ok (profile, after)) :
    InUse runtime after := by
  rcases updateCampaignStatus_eq_ok hcall with rfl | ⟨campaign, hcampaign, hbefore, rfl⟩
  · exact h
  refine ⟨h.activated, ?_⟩
  intro c hc huse v hv hof
  rcases Table.mem_upsert.mp hc with rfl | ⟨hc, -⟩
  · rcases hbefore with rfl | hbefore
    · rcases huse with huse | huse <;> cases huse
    · exact h.noDrafts campaign (Table.mem_of_find? hcampaign) hbefore v hv hof
  · exact h.noDrafts c hc huse v hv hof

end CampaignRegistry

/-! ## Routes -/

/-- The route is live at a time, as far as its timestamps can be read. -/
def RouteRecord.LivesAt (runtime : RegistryRuntime ν) (route : RouteRecord) (time : Int) : Prop :=
  (∀ activatedAt, runtime.host.dateParse route.activatedAt = some activatedAt →
    activatedAt ≤ time) ∧
  (∀ issuedAt, runtime.host.dateParse route.issuedAt = some issuedAt → issuedAt ≤ time) ∧
  ∀ expiresAt, runtime.host.dateParse route.expiresAt = some expiresAt → time < expiresAt

theorem Registry.parsesAfter_eq_false {left right : String} {l r : Int}
    (hl : runtime.host.dateParse left = some l) (hr : runtime.host.dateParse right = some r) :
    Registry.parsesAfter runtime left right = false ↔ l ≤ r := by
  rw [Registry.parsesAfter, hl, hr, decide_eq_false_iff_not, not_lt]

theorem Registry.parsesNotAfter_eq_false {left right : String} {l r : Int}
    (hl : runtime.host.dateParse left = some l) (hr : runtime.host.dateParse right = some r) :
    Registry.parsesNotAfter runtime left right = false ↔ r < l := by
  rw [Registry.parsesNotAfter, hl, hr, decide_eq_false_iff_not, not_le]

/-- An accepted receipt is issued while its route is live. -/
theorem ReceiptPolicy.RouteAccepted.livesAt {registries : Registries ν}
    {receipt : Split402ReceiptV1} {route : RouteRecord} {version : RouteVersionRecord} {time : Int}
    (h : RouteAccepted runtime registries receipt route version)
    (htime : runtime.host.dateParse receipt.issuedAt = some time) : route.LivesAt runtime time := by
  refine ⟨?_, ?_, ?_⟩
  · intro activatedAt hparse
    exact (Registry.parsesAfter_eq_false hparse htime).mp h.activated
  · intro issuedAt hparse
    exact (Registry.parsesAfter_eq_false hparse htime).mp h.issued
  · intro expiresAt hparse
    exact (Registry.parsesNotAfter_eq_false hparse htime).mp h.unexpired

namespace RouteRegistry

/-- The versions of a route are for the campaign versions the route is for. -/
def SameMinimum (registry : RouteRegistry) : Prop :=
  ∀ route ∈ registry.routesById, ∀ version ∈ registry.versionsOf route.id,
    version.campaignVersionMin = route.campaignVersionMin

theorem sameMinimum_empty : SameMinimum .empty := fun _ h => absurd h Table.not_mem_empty

variable {registry after : RouteRegistry} {env : CallEnv} {route : RouteRecord}

theorem SameMinimum.activateRoute (h : registry.SameMinimum) {claimInput : Option ReferralClaimV1}
    (hcall : registry.activateRoute runtime env claimInput = .ok (route, after)) :
    after.SameMinimum := by
  rcases activateRoute_eq_ok hcall with rfl | ⟨claim, claimHash, version, -, -, hroute, hversion, rfl⟩
  · exact h
  intro r hr v hv
  rw [versionsOf_upsert] at hv
  rcases Table.mem_upsert.mp hr with rfl | ⟨hr, hne⟩
  · rw [if_pos rfl, List.mem_singleton] at hv
    rw [hv, hversion, hroute]
    rfl
  · rw [if_neg hne.symm] at hv
    exact h r hr v hv

theorem SameMinimum.rotateRoutePayout (h : registry.SameMinimum) {routeId : String}
    {claimInput : Option ReferralClaimV1}
    (hcall : registry.rotateRoutePayout runtime env routeId claimInput = .ok (route, after)) :
    after.SameMinimum := by
  rcases rotateRoutePayout_eq_ok hcall with
    rfl | ⟨existing, claim, claimHash, version, hcheck, -, hroute, hversion, rfl⟩
  · exact h
  have hchecked := checkRotation_eq_ok hcheck
  have hid : existing.id = routeId := Table.key_of_find? hchecked.found
  have hroute' : route.id = routeId := by
    rw [hroute]
    exact hid
  intro r hr v hv
  rw [versionsOf_upsert] at hv
  rcases Table.mem_upsert.mp hr with rfl | ⟨hr, hne⟩
  · rw [if_pos hroute'.symm] at hv
    have hmin : r.campaignVersionMin = existing.campaignVersionMin := by
      rw [hroute]
      exact hchecked.campaignVersionMin
    rcases List.mem_append.mp hv with hv | hv
    · rw [hmin]
      refine h existing (Table.mem_of_find? hchecked.found) v ?_
      rw [hid]
      exact hv
    · rw [List.mem_singleton.mp hv, hversion, hroute]
      rfl
  · rw [if_neg (fun heq => hne (heq.symm.trans hroute'.symm))] at hv
    exact h r hr v hv

theorem SameMinimum.moveRoute (h : registry.SameMinimum) {source target : RouteStatus}
    {verb routeId : String} {moved : Option RouteRecord}
    (hcall : registry.moveRoute source target verb routeId = .ok (moved, after)) :
    after.SameMinimum := by
  rcases moveRoute_eq_ok hcall with rfl | ⟨existing, hexisting, rfl⟩
  · exact h
  intro r hr v hv
  rcases Table.mem_upsert.mp hr with rfl | ⟨hr, -⟩
  · exact h existing (Table.mem_of_find? hexisting) v hv
  · exact h r hr v hv

end RouteRegistry

/-! ## Runs -/

namespace Registries

/-- An activation that succeeds leaves no draft behind: the other versions of its campaign have been
activated. -/
def LeavesNoDraft (runtime : RegistryRuntime ν) (s : Registries ν) : RegistryCall ν → Prop
  | .activateCampaignVersion env input =>
      (s.campaigns.activateCampaignVersion runtime env input).isOk = true →
        s.campaigns.OthersActivated input.campaignId
  | _ => True

/-- Wherever an active route of an active campaign lives, the terms of the versions it is for are in
force. -/
def RoutesWithinTerms (runtime : RegistryRuntime ν) (s : Registries ν) : Prop :=
  ∀ route ∈ s.routes.routesById, route.status = .active →
    ∀ campaign ∈ s.campaigns.campaigns, campaign.id = route.campaignId →
    campaign.status = .active →
    ∀ version ∈ s.campaigns.versions, version.campaignId = route.campaignId →
    route.campaignVersionMin ≤ version.version →
    ∀ time, route.LivesAt runtime time → version.terms.InForceAt runtime time

/-- A receipt with a commission is accepted only under terms that the merchant has signed and that
are in force when the receipt is issued. -/
def CommissionsUnderTerms (runtime : RegistryRuntime ν) (s : Registries ν) : Prop :=
  ∀ receipt commission, parseAtomicAmount receipt.commissionAmountAtomic = some commission →
    0 < commission → ReceiptPolicy.Accepts runtime s receipt →
    ∃ version issuedAt,
      s.campaigns.versions.find? (receipt.campaignId, receipt.campaignVersion) = some version ∧
      runtime.host.dateParse receipt.issuedAt = some issuedAt ∧
      version.Activated runtime ∧ version.terms.InForceAt runtime issuedAt

variable {s s' : Registries ν}

/-- The campaigns are in use as they should be, and so are the routes. -/
structure Kept (runtime : RegistryRuntime ν) (s : Registries ν) : Prop where
  campaigns : s.campaigns.InUse runtime
  routes : s.routes.SameMinimum

theorem Kept.apply (h : s.Kept runtime) {call : RegistryCall ν}
    (hcall : s.apply runtime call = .ok s') (hok : s.LeavesNoDraft runtime call) :
    s'.Kept runtime := by
  cases call with
  | createCampaign env input =>
      obtain ⟨result, hresult, h'⟩ := bind_eq_ok.mp hcall
      rw [pure_eq_ok] at h'
      subst h'
      exact ⟨h.campaigns.createCampaign hresult, h.routes⟩
  | createCampaignVersion env input =>
      obtain ⟨result, hresult, h'⟩ := bind_eq_ok.mp hcall
      rw [pure_eq_ok] at h'
      subst h'
      exact ⟨h.campaigns.createCampaignVersion hresult, h.routes⟩
  | activateCampaignVersion env input =>
      obtain ⟨result, hresult, h'⟩ := bind_eq_ok.mp hcall
      rw [pure_eq_ok] at h'
      subst h'
      have hothers : s.campaigns.OthersActivated input.campaignId := by
        refine hok ?_
        rw [hresult]
        rfl
      exact ⟨h.campaigns.activateCampaignVersion hothers hresult, h.routes⟩
  | updateCampaignStatus env campaignId status =>
      obtain ⟨result, hresult, h'⟩ := bind_eq_ok.mp hcall
      rw [pure_eq_ok] at h'
      subst h'
      exact ⟨h.campaigns.updateCampaignStatus hresult, h.routes⟩
  | activateRoute env claim =>
      obtain ⟨result, hresult, h'⟩ := bind_eq_ok.mp hcall
      rw [pure_eq_ok] at h'
      subst h'
      exact ⟨h.campaigns, h.routes.activateRoute hresult⟩
  | rotateRoutePayout env routeId claim =>
      obtain ⟨result, hresult, h'⟩ := bind_eq_ok.mp hcall
      rw [pure_eq_ok] at h'
      subst h'
      exact ⟨h.campaigns, h.routes.rotateRoutePayout hresult⟩
  | suspendRoute routeId =>
      obtain ⟨result, hresult, h'⟩ := bind_eq_ok.mp hcall
      rw [pure_eq_ok] at h'
      subst h'
      exact ⟨h.campaigns, h.routes.moveRoute hresult⟩
  | resumeRoute routeId =>
      obtain ⟨result, hresult, h'⟩ := bind_eq_ok.mp hcall
      rw [pure_eq_ok] at h'
      subst h'
      exact ⟨h.campaigns, h.routes.moveRoute hresult⟩
  | changeMerchants merchants =>
      unfold Registries.apply at hcall
      rw [pure_eq_ok] at hcall
      subst hcall
      exact ⟨h.campaigns, h.routes⟩

theorem kept_of_reachable (h : (system runtime).Reachable (LeavesNoDraft runtime) s) :
    s.Kept runtime := by
  refine h.invariant ?_ ?_
  · intro s hs
    rw [show s = empty from hs]
    exact ⟨CampaignRegistry.inUse_empty, RouteRegistry.sameMinimum_empty⟩
  · intro s call s' _ hkept hok hstep
    rw [show s' = s.after runtime call from hstep]
    rcases after_cases call with hsame | happly
    · rw [hsame]
      exact hkept
    · exact hkept.apply happly hok

/-- **Commissions accrue under terms that are signed and in force**, in runs in which no activation
leaves a draft behind, and when no route lives beyond the terms it is for. -/
theorem commissions_under_terms (hrun : (system runtime).Reachable (LeavesNoDraft runtime) s)
    (hroutes : s.RoutesWithinTerms runtime) : s.CommissionsUnderTerms runtime := by
  intro receipt commission hparse hpositive haccepts
  have hkept := kept_of_reachable hrun
  have hnonzero : receipt.commissionAmountAtomic ≠ "0" := by
    intro hzero
    have hvalue : parseAtomicAmount "0" = some 0 := by decide +kernel
    rw [hzero, hvalue, Option.some.injEq] at hparse
    omega
  obtain ⟨campaign, hcampaign, hactive⟩ := haccepts.campaign
  obtain ⟨version, hversion⟩ := haccepts.version
  obtain ⟨issuedAt, hissuedAt⟩ := haccepts.issuedAt
  obtain ⟨routeId, hrouteId⟩ := haccepts.routeId hnonzero
  obtain ⟨route, routeVersion, hroute, hrouteAccepted⟩ := haccepts.route hrouteId
  have hmem : version ∈ s.campaigns.versions := Table.mem_of_find? hversion
  have hkey : version.key = (receipt.campaignId, receipt.campaignVersion) :=
    Table.key_of_find? hversion
  rw [CampaignVersionRecord.key, Prod.mk.injEq] at hkey
  have hid : campaign.id = receipt.campaignId := Table.key_of_find? hcampaign
  have hmemRoute : route ∈ s.routes.routesById := Table.mem_of_find? hroute
  refine ⟨version, issuedAt, hversion, hissuedAt, ?_, ?_⟩
  · refine hkept.campaigns.activated version hmem ?_
    exact hkept.campaigns.noDrafts campaign (Table.mem_of_find? hcampaign) (.inl hactive) version hmem
      (hkey.1.trans hid.symm)
  · have hmin : route.campaignVersionMin ≤ version.version := by
      rw [← hkept.routes route hmemRoute routeVersion hrouteAccepted.mem, hkey.2]
      exact hrouteAccepted.campaignVersionMin
    exact hroutes route hmemRoute hrouteAccepted.active campaign (Table.mem_of_find? hcampaign)
      (hid.trans hrouteAccepted.campaignId.symm) hactive version hmem
      (hkey.1.trans hrouteAccepted.campaignId.symm) hmin issuedAt (hrouteAccepted.livesAt hissuedAt)

end Registries

/-! ## Two versions -/

namespace Sample

theorem campaigns_within_terms : sampleRegistries.RoutesWithinTerms registryRuntime := by
  intro route hroute _ campaign _ _ _ version hversion _ _ time hlives
  have hactivated : registryRuntime.host.dateParse route.activatedAt = some 1767225600000 := by
    rcases Table.mem_upsert.mp hroute with rfl | ⟨hroute, -⟩
    · decide
    · exact absurd hroute Table.not_mem_empty
  have hterms : version.terms = sampleTerms 1 1000 := by
    rcases Table.mem_upsert.mp hversion with rfl | ⟨hversion, -⟩
    · rfl
    · rcases Table.mem_upsert.mp hversion with rfl | ⟨hversion, -⟩
      · rfl
      · exact absurd hversion Table.not_mem_empty
  rw [hterms]
  refine ⟨⟨1767225600000, by decide, hlives.1 _ hactivated⟩, nofun⟩

theorem reachable_leavesNoDraft : (Registries.system registryRuntime).Reachable
    (Registries.LeavesNoDraft registryRuntime) sampleRegistries := by
  have hothers : draftedCampaigns.OthersActivated campaignId := by
    intro campaign hcampaign version hversion _ hother
    have hfirst : some draftCampaign = some campaign := hcampaign
    rw [← Option.some.inj hfirst] at hother
    rcases Table.mem_upsert.mp hversion with rfl | ⟨hversion, -⟩
    · exact absurd rfl hother
    · exact absurd hversion Table.not_mem_empty
  have hstep : ∀ {s s' : Registries Whole} {call : RegistryCall Whole},
      (Registries.system registryRuntime).Reachable (Registries.LeavesNoDraft registryRuntime) s →
      s.apply registryRuntime call = .ok s' → s.LeavesNoDraft registryRuntime call →
      (Registries.system registryRuntime).Reachable (Registries.LeavesNoDraft registryRuntime) s' :=
    fun hs happly hok => .step hs hok (Registries.after_of_apply happly).symm
  have hcreated := hstep (.init rfl) apply_campaignInput trivial
  have hsigned := hstep hcreated apply_activation (fun _ => hothers)
  have hrouted := hstep hsigned (apply_claim firstClaim_sample) trivial
  have hmerchants : Registries.apply registryRuntime
      ⟨.empty, activeCampaigns, activatedRoutes firstClaim firstClaimHash⟩
      (.changeMerchants sampleMerchants) = .ok sampleRegistries := rfl
  exact hstep hrouted hmerchants trivial

end Sample

/-- The sale is accepted under terms that are signed and in force. -/
theorem Registries.commissions_under_terms_routeSale :
    ReceiptPolicy.Accepts Sample.registryRuntime Sample.sampleRegistries Sample.routeSale ∧
    Sample.sampleRegistries.CommissionsUnderTerms Sample.registryRuntime :=
  ⟨Sample.routeSale_accepted, Registries.commissions_under_terms Sample.reachable_leavesNoDraft
    Sample.campaigns_within_terms⟩

namespace Sample

/-- Two versions are drafted, and the second is signed. -/
def twoDrafts : CampaignRegistry Whole where
  campaigns := draftedCampaigns.campaigns.upsert (draftCampaign.drafted secondVersion registryNow)
  versions := draftedCampaigns.versions.upsert secondVersion

def secondActive : CampaignRegistry Whole where
  campaigns := twoDrafts.campaigns.upsert
    ((draftCampaign.drafted secondVersion registryNow).moved .active registryNow)
  versions := twoDrafts.versions.upsert
    (secondVersion.activated "key" secondTermsSignature registryNow)

/-- The first version of the terms is never signed. -/
def unsignedRegistries : Registries Whole :=
  ⟨sampleMerchants, secondActive, activatedRoutes firstClaim firstClaimHash⟩

def unsignedCalls : List (RegistryCall Whole) :=
  [.createCampaign registryEnv campaignInput, .createCampaignVersion registryEnv versionInput,
    .activateCampaignVersion registryEnv (activation secondTermsSignature),
    .activateRoute registryEnv (some firstClaim), .changeMerchants sampleMerchants]

theorem apply_versionInput : Registries.apply registryRuntime ⟨.empty, draftedCampaigns, .empty⟩
    (.createCampaignVersion registryEnv versionInput) = .ok ⟨.empty, twoDrafts, .empty⟩ := by
  have hcreate : draftedCampaigns.createCampaignVersion registryRuntime registryEnv versionInput =
      .ok (secondVersion, twoDrafts) := by
    refine createCampaignVersion_sample rfl nofun rfl rfl ?_
    intro version hmem
    rcases Table.mem_upsert.mp hmem with rfl | ⟨hmem, -⟩
    · decide
    · exact absurd hmem Table.not_mem_empty
  exact bind_eq_ok.mpr ⟨_, hcreate, rfl⟩

theorem apply_secondActivation : Registries.apply registryRuntime ⟨.empty, twoDrafts, .empty⟩
    (.activateCampaignVersion registryEnv (activation secondTermsSignature)) =
      .ok ⟨.empty, secondActive, .empty⟩ := by
  have hverified : verifyCampaignTermsSignature registryRuntime (sampleTerms 2 500)
      merchantPublicKey secondTermsSignature = true := by
    refine terms_verify (List.mem_cons_of_mem _ List.mem_cons_self)
      (jsonSchemas_sampleTerms 2 500) ?_
    decide +kernel
  have hactivate : ∃ profile, twoDrafts.activateCampaignVersion registryRuntime registryEnv
      (activation secondTermsSignature) = .ok (profile, secondActive) := by
    refine activateCampaignVersion_sample rfl nofun rfl ?_ ⟨rfl, rfl⟩ hverified
    decide
  obtain ⟨_, hactivate⟩ := hactivate
  exact bind_eq_ok.mpr ⟨_, hactivate, rfl⟩

theorem reachable_unsignedRegistries : (Registries.system registryRuntime).Reachable
    (fun _ _ => True) unsignedRegistries := by
  have hafter : Registries.afterAll registryRuntime unsignedCalls = unsignedRegistries := by
    rw [Registries.afterAll, unsignedCalls, List.foldl_cons,
      Registries.after_of_apply apply_campaignInput, List.foldl_cons,
      Registries.after_of_apply apply_versionInput, List.foldl_cons,
      Registries.after_of_apply apply_secondActivation, List.foldl_cons,
      Registries.after_of_apply (apply_claim firstClaim_sample)]
    rfl
  rw [← hafter]
  exact Registries.reachable_of_calls unsignedCalls

theorem routeSale_accepted_unsigned :
    ReceiptPolicy.Accepts registryRuntime unsignedRegistries routeSale := by
  decide

end Sample

/-- A commission accrues under terms that the merchant has never signed. -/
theorem not_commissions_under_terms : ¬ ∀ (runtime : RegistryRuntime Whole)
    (s : Registries Whole), (Registries.system runtime).Reachable (fun _ _ => True) s →
    s.CommissionsUnderTerms runtime := by
  intro hall
  have hcommission : parseAtomicAmount Sample.routeSale.commissionAmountAtomic = some 10 := by
    decide +kernel
  obtain ⟨version, _, hversion, -, hactivated, -⟩ := hall _ _ Sample.reachable_unsignedRegistries
    Sample.routeSale 10 hcommission (by decide) Sample.routeSale_accepted_unsigned
  have hfirst : Sample.unsignedRegistries.campaigns.versions.find?
      (Sample.routeSale.campaignId, Sample.routeSale.campaignVersion) =
        some Sample.firstVersion := rfl
  rw [hfirst] at hversion
  rw [← Option.some.inj hversion] at hactivated
  have hnone := hactivated.activatedAt
  cases hnone

end Split402

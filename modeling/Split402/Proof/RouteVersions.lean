import Split402.Base.Numbered
import Split402.Proof.RegistryOps

/-! # The versions of a route

Activating and rotating a route append a version to its history, under a claim hash the registry does
not know. So the versions of a route are numbered without gaps, the last one is what the route says,
and a claim hash stands for one version of one route. -/

namespace Split402

open Base

variable {ν : Type} {runtime : RegistryRuntime ν}

/-- The route says what the version says. -/
structure RouteRecord.IsVersion (route : RouteRecord) (version : RouteVersionRecord) : Prop where
  claimHash : version.claimHash = route.claimHash
  payoutWallet : version.payoutWallet = route.payoutWallet
  issuedAt : version.issuedAt = route.issuedAt
  expiresAt : version.expiresAt = route.expiresAt

/-- The versions are numbered up to the route's current one, which is the last. -/
structure RouteRecord.HasVersions (route : RouteRecord) (versions : List RouteVersionRecord) :
    Prop where
  numbered : Numbered RouteVersionRecord.version versions route.currentVersion
  current : ∃ version, versions.getLast? = some version ∧ route.IsVersion version

/-- What an activation fixes for good. -/
structure RouteRecord.SameActivation (route later : RouteRecord) : Prop where
  campaignId : later.campaignId = route.campaignId
  referrerWallet : later.referrerWallet = route.referrerWallet
  resourceOrigin : later.resourceOrigin = route.resourceOrigin
  operationIds : later.operationIds = route.operationIds
  campaignVersionMin : later.campaignVersionMin = route.campaignVersionMin

theorem RouteRecord.SameActivation.refl (route : RouteRecord) : route.SameActivation route :=
  ⟨rfl, rfl, rfl, rfl, rfl⟩

theorem RouteRecord.SameActivation.trans {a b c : RouteRecord} (hab : a.SameActivation b)
    (hbc : b.SameActivation c) : a.SameActivation c where
  campaignId := hbc.campaignId.trans hab.campaignId
  referrerWallet := hbc.referrerWallet.trans hab.referrerWallet
  resourceOrigin := hbc.resourceOrigin.trans hab.resourceOrigin
  operationIds := hbc.operationIds.trans hab.operationIds
  campaignVersionMin := hbc.campaignVersionMin.trans hab.campaignVersionMin

namespace RouteRegistry

/-- The claim hash is that of a version: the route's id and the version's place. -/
def HashAt (registry : RouteRegistry) (claimHash : String) (place : String × Nat) : Prop :=
  ∃ version, (registry.versionsOf place.1)[place.2]? = some version ∧ version.claimHash = claimHash

/-- The three maps of the registry agree. -/
structure Consistent (registry : RouteRegistry) : Prop where
  versions : ∀ route ∈ registry.routesById, route.HasVersions (registry.versionsOf route.id)
  ofRoutes : ∀ routeId, registry.routesById.has routeId = false → registry.versionsOf routeId = []
  hashed : ∀ claimHash place, registry.HashAt claimHash place →
    registry.routeIdByClaimHash.find? claimHash = some ⟨claimHash, place.1⟩
  unique : ∀ entry ∈ registry.routeIdByClaimHash,
    ∃! place, registry.HashAt entry.claimHash place

/-- Every route stays, with what its activation fixed. -/
def Keeps (registry after : RouteRegistry) : Prop :=
  ∀ route ∈ registry.routesById, ∃ later ∈ after.routesById,
    later.id = route.id ∧ route.SameActivation later

theorem keeps_refl (registry : RouteRegistry) : registry.Keeps registry :=
  fun route hroute => ⟨route, hroute, rfl, .refl route⟩

variable {registry after : RouteRegistry} {env : CallEnv} {route : RouteRecord}

theorem Keeps.trans {later : RouteRegistry} (h : registry.Keeps after) (h' : after.Keeps later) :
    registry.Keeps later := by
  intro route hroute
  obtain ⟨middle, hmiddle, hid, hsame⟩ := h route hroute
  obtain ⟨last, hlast, hid', hsame'⟩ := h' middle hmiddle
  exact ⟨last, hlast, hid'.trans hid, hsame.trans hsame'⟩

/-- A route is written under a new id, or over itself. -/
theorem keeps_upsert (hroutes : after.routesById = registry.routesById.upsert route)
    (h : ∀ old ∈ registry.routesById, old.id = route.id → old.SameActivation route) :
    registry.Keeps after := by
  intro old hold
  by_cases hid : old.id = route.id
  · refine ⟨route, ?_, hid.symm, h old hold hid⟩
    rw [hroutes]
    exact Table.mem_upsert.mpr (.inl rfl)
  · refine ⟨old, ?_, rfl, .refl old⟩
    rw [hroutes]
    exact Table.mem_upsert.mpr (.inr ⟨hold, hid⟩)

/-! ## The histories -/

theorem consistent_empty : Consistent .empty where
  versions := fun _ h => absurd h Table.not_mem_empty
  ofRoutes := fun _ _ => rfl
  hashed := fun _ _ ⟨_, h, _⟩ => by cases h
  unique := fun _ h => absurd h Table.not_mem_empty

/-- A version comes to the history of a route. -/
structure Appends (registry after : RouteRegistry) (route : RouteRecord)
    (version : RouteVersionRecord) : Prop where
  routes : after.routesById = registry.routesById.upsert route
  hashes : after.routeIdByClaimHash =
    registry.routeIdByClaimHash.upsert ⟨version.claimHash, route.id⟩
  versions : ∀ routeId, after.versionsOf routeId =
    if route.id = routeId then registry.versionsOf route.id ++ [version]
    else registry.versionsOf routeId

/-- The hashes are those that were there, and that of the version. -/
theorem Appends.hashAt_iff {version : RouteVersionRecord} (h : Appends registry after route version)
    {claimHash : String} {place : String × Nat} :
    after.HashAt claimHash place ↔ registry.HashAt claimHash place ∨
      (claimHash = version.claimHash ∧
        place = (route.id, (registry.versionsOf route.id).length)) := by
  obtain ⟨routeId, i⟩ := place
  unfold HashAt
  dsimp only
  rw [h.versions]
  by_cases hid : route.id = routeId
  · subst hid
    rw [if_pos rfl]
    rcases lt_trichotomy i (registry.versionsOf route.id).length with hlt | heq | hgt
    · -- a place of the old history
      rw [List.getElem?_append_left hlt]
      constructor
      · exact .inl
      · rintro (hat | ⟨-, hplace⟩)
        · exact hat
        · rw [Prod.mk.injEq] at hplace
          omega
    · rw [heq, List.getElem?_concat_length]
      constructor
      · rintro ⟨v, hv, hhash⟩
        rw [Option.some.injEq] at hv
        exact .inr ⟨by rw [← hhash, hv], rfl⟩
      · rintro (⟨v, hv, -⟩ | ⟨hhash, -⟩)
        · rw [List.getElem?_eq_none (le_refl _)] at hv
          cases hv
        · exact ⟨version, rfl, hhash.symm⟩
    · have hnone : (registry.versionsOf route.id ++ [version])[i]? = none := by
        rw [List.getElem?_eq_none]
        rw [List.length_append, List.length_singleton]
        omega
      have hnone' : (registry.versionsOf route.id)[i]? = none := List.getElem?_eq_none hgt.le
      rw [hnone, hnone']
      constructor
      · rintro ⟨v, hv, -⟩
        cases hv
      · rintro (⟨v, hv, -⟩ | ⟨-, hplace⟩)
        · cases hv
        · rw [Prod.mk.injEq] at hplace
          omega
  · rw [if_neg hid]
    constructor
    · exact .inl
    · rintro (hat | ⟨-, hplace⟩)
      · exact hat
      · exact absurd (Prod.mk.inj hplace).1.symm hid

/-- **A version under an unknown hash keeps the maps in agreement.** -/
theorem Consistent.append (h : registry.Consistent) {version : RouteVersionRecord}
    (hafter : Appends registry after route version)
    (hunknown : registry.routeIdByClaimHash.find? version.claimHash = none)
    (hnumbered : Numbered RouteVersionRecord.version
      (registry.versionsOf route.id ++ [version]) route.currentVersion)
    (hcurrent : route.IsVersion version) : after.Consistent where
  versions := by
    intro r hr
    rw [hafter.routes] at hr
    rw [hafter.versions]
    rcases Table.mem_upsert.mp hr with rfl | ⟨hr, hne⟩
    · rw [if_pos rfl]
      exact ⟨hnumbered, version, List.getLast?_concat, hcurrent⟩
    · rw [if_neg (fun hid => hne hid.symm)]
      exact h.versions r hr
  ofRoutes := by
    intro routeId hnone
    rw [hafter.routes, ← Bool.not_eq_true, Table.has_upsert, not_or, Bool.not_eq_true] at hnone
    rw [hafter.versions, if_neg hnone.1]
    exact h.ofRoutes routeId hnone.2
  hashed := by
    intro claimHash place hat
    rw [hafter.hashes, Table.find?_upsert]
    rcases hafter.hashAt_iff.mp hat with hold | ⟨hhash, hplace⟩
    · have hknown := h.hashed claimHash place hold
      rw [if_neg]
      · exact hknown
      · rintro rfl
        rw [hunknown] at hknown
        cases hknown
    · rw [if_pos hhash.symm, hhash, hplace]
  unique := by
    intro entry hentry
    rw [hafter.hashes] at hentry
    rcases Table.mem_upsert.mp hentry with rfl | ⟨hentry, hne⟩
    · refine ⟨_, hafter.hashAt_iff.mpr (.inr ⟨rfl, rfl⟩), ?_⟩
      intro place hat
      rcases hafter.hashAt_iff.mp hat with hold | ⟨-, hplace⟩
      · have hknown := h.hashed _ place hold
        rw [hunknown] at hknown
        cases hknown
      · exact hplace
    · obtain ⟨place, hat, honly⟩ := h.unique entry hentry
      refine ⟨place, hafter.hashAt_iff.mpr (.inl hat), ?_⟩
      intro place' hat'
      rcases hafter.hashAt_iff.mp hat' with hold | ⟨hhash, -⟩
      · exact honly place' hold
      · exact absurd hhash hne

/-- An unknown hash is no key: its route would be there. -/
theorem Consistent.unknown (h : registry.Consistent) {claimHash : String}
    (hunknown : (registry.routeIdByClaimHash.find? claimHash).bind
      (fun entry => registry.routesById.find? entry.routeId) = none) :
    registry.routeIdByClaimHash.find? claimHash = none := by
  cases hentry : registry.routeIdByClaimHash.find? claimHash with
  | none => rfl
  | some entry =>
      exfalso
      have hmem := Table.mem_of_find? hentry
      obtain ⟨place, ⟨version, hversion, hhash⟩, -⟩ := h.unique entry hmem
      have hplace := h.hashed entry.claimHash place ⟨version, hversion, hhash⟩
      rw [Table.find?_of_mem hmem, Option.some.injEq] at hplace
      rw [hentry, hplace, Option.bind_some] at hunknown
      have hnone : registry.routesById.has place.1 = false := by
        rw [Table.has_eq_false]
        exact Table.find?_eq_none.mp hunknown
      rw [h.ofRoutes place.1 hnone] at hversion
      cases hversion

/-! ## The operations -/

theorem versionsOf_append {version : RouteVersionRecord} {routes : Table RouteRecord.id}
    {hashes : Table ClaimHashEntry.claimHash} (routeId : String) :
    versionsOf ⟨routes, hashes, registry.versionsByRouteId.upsert
      ⟨route.id, registry.versionsOf route.id ++ [version]⟩⟩ routeId =
      if route.id = routeId then registry.versionsOf route.id ++ [version]
      else registry.versionsOf routeId :=
  versionsOf_upsert routeId

theorem Consistent.activateRoute (h : registry.Consistent) {claimInput : Option ReferralClaimV1}
    (hcall : registry.activateRoute runtime env claimInput = .ok (route, after)) :
    after.Consistent ∧ registry.Keeps after := by
  rcases activateRoute_new hcall with rfl | ⟨claim, claimHash, version, hnew, hroute, hversion, rfl⟩
  · exact ⟨h, keeps_refl _⟩
  have hid : route.id = claim.routeId := by rw [hroute]; rfl
  have hnone : registry.versionsOf route.id = [] := by
    rw [hid]
    exact h.ofRoutes _ hnew.fresh
  have hhash : version.claimHash = claimHash := by rw [hversion, hroute]; rfl
  have hnumber : version.version = 1 := by rw [hversion]; rfl
  have hfirst : route.currentVersion = 1 := by rw [hroute]; rfl
  refine ⟨?_, keeps_upsert rfl ?_⟩
  · refine @Consistent.append _ _ _ h version ⟨rfl, by rw [hhash], ?_⟩ ?_ ?_ ?_
    · intro routeId
      rw [hnone, List.nil_append]
      exact versionsOf_upsert routeId
    · rw [hhash]
      exact h.unknown hnew.unknown
    · rw [hnone, hfirst]
      exact numbered_singleton hnumber
    · rw [hversion, hroute]
      exact ⟨rfl, rfl, rfl, rfl⟩
  · intro old hold hsame
    have hfresh := Table.has_eq_false.mp hnew.fresh old hold
    exact absurd (hsame.trans hid) hfresh

theorem Consistent.rotateRoutePayout (h : registry.Consistent) {routeId : String}
    {claimInput : Option ReferralClaimV1}
    (hcall : registry.rotateRoutePayout runtime env routeId claimInput = .ok (route, after)) :
    after.Consistent ∧ registry.Keeps after := by
  rcases rotateRoutePayout_eq_ok hcall with
    rfl | ⟨existing, claim, claimHash, version, hcheck, hnew, hroute, hversion, rfl⟩
  · exact ⟨h, keeps_refl _⟩
  have hchecked := checkRotation_eq_ok hcheck
  have hexisting := Table.mem_of_find? hchecked.found
  have hid : existing.id = routeId := Table.key_of_find? hchecked.found
  have hrouteId : route.id = routeId := by
    rw [hroute]
    exact hid
  subst hrouteId
  have hhash : version.claimHash = claimHash := by rw [hversion, hroute]; rfl
  have hnumber : version.version = existing.currentVersion + 1 := by rw [hversion, hroute]; rfl
  have hnext : route.currentVersion = existing.currentVersion + 1 := by rw [hroute]; rfl
  have hhistory := h.versions existing hexisting
  rw [hid] at hhistory
  -- a hash that is known is known for this route, and would be among its versions
  have hunknown : registry.routeIdByClaimHash.find? claimHash = none := by
    cases hentry : registry.routeIdByClaimHash.find? claimHash with
    | none => rfl
    | some entry =>
        exfalso
        have hmem := Table.mem_of_find? hentry
        obtain ⟨place, ⟨v, hv, hvhash⟩, -⟩ := h.unique entry hmem
        have hplace := h.hashed entry.claimHash place ⟨v, hv, hvhash⟩
        rw [Table.find?_of_mem hmem, Option.some.injEq] at hplace
        have hown := hchecked.notOthers entry hentry
        have hat : place.1 = route.id := by rw [← hown, hplace]
        rw [hat] at hv
        have hany := List.any_eq_false.mp hnew.1 v (List.mem_of_getElem? hv)
        rw [decide_eq_true_eq] at hany
        exact hany (hvhash.trans (Table.key_of_find? hentry))
  refine ⟨?_, keeps_upsert rfl ?_⟩
  · refine @Consistent.append _ _ _ h version ⟨rfl, by rw [hhash], ?_⟩ ?_ ?_ ?_
    · exact fun routeId => versionsOf_append routeId
    · rw [hhash]
      exact hunknown
    · rw [hnext]
      exact hhistory.numbered.append hnumber
    · rw [hversion, hroute]
      exact ⟨rfl, rfl, rfl, rfl⟩
  · intro old hold hsame
    have hold' : old = existing := Table.eq_of_key hold hexisting (hsame.trans hid.symm)
    subst hold'
    rw [hroute]
    exact ⟨rfl, rfl, rfl, rfl, hchecked.campaignVersionMin⟩

theorem Consistent.moveRoute (h : registry.Consistent) {source target : RouteStatus}
    {verb routeId : String} {moved : Option RouteRecord}
    (hcall : registry.moveRoute source target verb routeId = .ok (moved, after)) :
    after.Consistent ∧ registry.Keeps after := by
  rcases moveRoute_eq_ok hcall with rfl | ⟨existing, hfound, rfl⟩
  · exact ⟨h, keeps_refl _⟩
  have hexisting := Table.mem_of_find? hfound
  refine ⟨⟨?_, ?_, h.hashed, h.unique⟩, keeps_upsert rfl ?_⟩
  · intro r hr
    rcases Table.mem_upsert.mp hr with rfl | ⟨hr, -⟩
    · have hhistory := h.versions existing hexisting
      obtain ⟨version, hlast, hversion⟩ := hhistory.current
      exact ⟨hhistory.numbered, version, hlast, hversion.claimHash, hversion.payoutWallet,
        hversion.issuedAt, hversion.expiresAt⟩
    · exact h.versions r hr
  · intro id hnone
    rw [← Bool.not_eq_true, Table.has_upsert, not_or, Bool.not_eq_true] at hnone
    exact h.ofRoutes id hnone.2
  · intro old hold hsame
    rw [Table.eq_of_key hold hexisting hsame]
    exact ⟨rfl, rfl, rfl, rfl, rfl⟩

end RouteRegistry

/-! ## Runs -/

namespace Registries

open RouteRegistry

variable {s : Registries ν}

theorem consistent_after (h : s.routes.Consistent) (call : RegistryCall ν) :
    (s.after runtime call).routes.Consistent ∧ s.routes.Keeps (s.after runtime call).routes := by
  have hchange := @changesRoutes_after ν runtime s call
  generalize (s.after runtime call).routes = routes at hchange
  cases hchange with
  | none => exact ⟨h, keeps_refl _⟩
  | activate hcall => exact h.activateRoute hcall
  | rotate hcall => exact h.rotateRoutePayout hcall
  | move hcall => exact h.moveRoute hcall

theorem consistent_foldl (h : s.routes.Consistent) (calls : List (RegistryCall ν)) :
    (calls.foldl (after runtime) s).routes.Consistent ∧
      s.routes.Keeps (calls.foldl (after runtime) s).routes := by
  induction calls generalizing s with
  | nil => exact ⟨h, keeps_refl _⟩
  | cons call calls ih =>
      obtain ⟨hnext, hkept⟩ := @consistent_after ν runtime s h call
      obtain ⟨hlast, hrest⟩ := ih hnext
      exact ⟨hlast, hkept.trans hrest⟩

/-- **The invariant of the routes**: after any calls the versions of each route are numbered without
gaps up to the current one, which is what the route says, and a claim hash stands for one version of
one route; whatever calls follow, each route keeps what its activation fixed. -/
theorem route_histories_consistent (runtime : RegistryRuntime ν)
    (calls more : List (RegistryCall ν)) :
    (afterAll runtime calls).routes.Consistent ∧
      (afterAll runtime calls).routes.Keeps (afterAll runtime (calls ++ more)).routes := by
  have hstart : (afterAll runtime calls).routes.Consistent :=
    (consistent_foldl consistent_empty calls).1
  refine ⟨hstart, ?_⟩
  have hmore : afterAll runtime (calls ++ more) = more.foldl (after runtime) (afterAll runtime calls) :=
    List.foldl_append
  rw [hmore]
  exact (consistent_foldl hstart more).2

end Registries

end Split402

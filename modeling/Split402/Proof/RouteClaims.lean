import Split402.Proof.RegistryForms
import Split402.Proof.RegistryOps
import Split402.Registry.RouteSearch

/-! # The claims of the routes

The registry copies a claim when it stores it and when it gives it out, and a copy cuts a scope that
starts with the wildcard down to the wildcard. A claim whose scope is kept is given out as it was
signed. Rotations need no care: their claims have the scope of the route, which has been cut down. -/

namespace Split402

open Base

variable {ν : Type} {runtime : RegistryRuntime ν}

/-- The claim verifies, and has the hash. -/
def SignedClaim (runtime : RegistryRuntime ν) (claim : ReferralClaimV1) (claimHash : String) : Prop :=
  (∃ result, verifyReferralClaimObject runtime.toRuntime claim = .ok result ∧ result.ok = true) ∧
    hashReferralClaim runtime.toRuntime claim = .ok claimHash

/-- A copy of the claim is the claim. -/
def KeepsScope (claim : ReferralClaimV1) : Prop :=
  claim.operationIds.head? = some "*" → claim.operationIds = ["*"]

instance (claim : ReferralClaimV1) : Decidable (KeepsScope claim) := by
  unfold KeepsScope
  infer_instance

theorem KeepsScope.cloneClaim {claim : ReferralClaimV1} (h : KeepsScope claim) :
    RouteRegistry.cloneClaim claim = claim :=
  RouteRegistry.cloneClaim_eq_self_iff.mpr (RouteRegistry.cloneOperationScope_eq_self_iff.mpr h)

namespace RouteRegistry

/-- Every claim the registry gives out, in a route, in a version of a route or in the result of a
search, is a signed claim with the hash beside it. -/
structure ReturnsSignedClaims (runtime : RegistryRuntime ν) (registry : RouteRegistry) : Prop where
  route : ∀ routeId route, (registry.getRoute routeId).map cloneRoute = some route →
    SignedClaim runtime route.claim route.claimHash
  version : ∀ routeId versions, (registry.listRouteVersions routeId).map (·.map cloneRouteVersion) =
    .ok versions → ∀ version ∈ versions, SignedClaim runtime version.claim version.claimHash
  search : ∀ env input routes, registry.searchRoutes runtime env input = .ok routes →
    ∀ route ∈ routes, SignedClaim runtime route.claim route.claimHash

/-- What is stored of a claim: a signed claim that a copy does not change. -/
structure StoresClaim (runtime : RegistryRuntime ν) (claim : ReferralClaimV1) (claimHash : String) :
    Prop where
  signed : SignedClaim runtime claim claimHash
  copied : cloneClaim claim = claim

/-- All claims are stored so, and the scopes of the routes do not change in a copy either. -/
structure StoresClaims (runtime : RegistryRuntime ν) (registry : RouteRegistry) : Prop where
  route : ∀ route ∈ registry.routesById, StoresClaim runtime route.claim route.claimHash ∧
    cloneOperationScope route.operationIds = route.operationIds
  version : ∀ routeId, ∀ version ∈ registry.versionsOf routeId,
    StoresClaim runtime version.claim version.claimHash

theorem StoresClaims.returns {registry : RouteRegistry} (h : registry.StoresClaims runtime) :
    registry.ReturnsSignedClaims runtime where
  route := by
    intro routeId route hroute
    obtain ⟨stored, hstored, rfl⟩ := Option.map_eq_some_iff.mp hroute
    have hclaim := (h.route stored (Table.mem_of_find? hstored)).1
    rw [cloneRoute, hclaim.copied]
    exact hclaim.signed
  version := by
    intro routeId versions hversions version hmem
    obtain ⟨stored, hstored, rfl⟩ := map_eq_ok.mp hversions
    obtain ⟨id, _, hstored⟩ := bind_eq_ok.mp hstored
    rw [pure_eq_ok] at hstored
    subst hstored
    obtain ⟨v, hv, rfl⟩ := List.mem_map.mp hmem
    have hclaim := h.version id v hv
    rw [cloneRouteVersion, hclaim.copied]
    exact hclaim.signed
  search := by
    intro env input routes hsearch route hroute
    obtain ⟨stored, hstored, rfl⟩ := of_mem_searchRoutes hsearch hroute
    have hclaim := (h.route stored hstored).1
    rw [cloneRoute, hclaim.copied]
    exact hclaim.signed

theorem storesClaims_empty : StoresClaims runtime .empty where
  route := fun _ h => absurd h Table.not_mem_empty
  version := fun _ _ h => by cases h

variable {registry after : RouteRegistry} {env : CallEnv} {route : RouteRecord}

/-- A parsed claim that keeps its scope is stored as it was signed. -/
theorem storesClaim_of_parsed {claimInput : Option ReferralClaimV1} {claim : ReferralClaimV1}
    {claimHash : String} (hparsed : parseVerifiedRouteClaim runtime claimInput = .ok claim)
    (hhash : hashReferralClaim runtime.toRuntime claim = .ok claimHash) (hkeeps : KeepsScope claim) :
    StoresClaim runtime (RouteRegistry.cloneClaim claim) claimHash := by
  have hverified := (parseVerifiedRouteClaim_eq_ok hparsed).2.2
  refine ⟨?_, cloneClaim_idem claim⟩
  rw [hkeeps.cloneClaim]
  exact ⟨hverified, hhash⟩

/-- A route and one of its versions are stored, both with the claim. -/
theorem StoresClaims.append (h : registry.StoresClaims runtime) {claim : ReferralClaimV1}
    {claimHash createdAt : String} {number : Nat} {old : List RouteVersionRecord}
    {hashes : Table ClaimHashEntry.claimHash}
    (hclaim : StoresClaim runtime (RouteRegistry.cloneClaim claim) claimHash)
    (hroute : route.claim = RouteRegistry.cloneClaim claim ∧ route.claimHash = claimHash)
    (hscope : cloneOperationScope route.operationIds = route.operationIds)
    (hold : ∀ version ∈ old, StoresClaim runtime version.claim version.claimHash) :
    StoresClaims runtime ⟨registry.routesById.upsert route, hashes, registry.versionsByRouteId.upsert
      ⟨route.id, old ++ [createRouteVersionRecord route claim number createdAt]⟩⟩ where
  route := by
    intro r hr
    rcases Table.mem_upsert.mp hr with rfl | ⟨hr, -⟩
    · rw [hroute.1, hroute.2]
      exact ⟨hclaim, hscope⟩
    · exact h.route r hr
  version := by
    intro routeId version hversion
    rw [versionsOf_upsert] at hversion
    by_cases hid : route.id = routeId
    · rw [if_pos hid] at hversion
      rcases List.mem_append.mp hversion with hversion | hversion
      · exact hold version hversion
      · rw [List.mem_singleton.mp hversion]
        have hhash : (createRouteVersionRecord route claim number createdAt).claimHash = claimHash :=
          hroute.2
        rw [hhash]
        exact hclaim
    · rw [if_neg hid] at hversion
      exact h.version routeId version hversion

/-- The call stores no claim whose scope a copy changes. -/
def ActivatesKept (runtime : RegistryRuntime ν) (registry : RouteRegistry) (env : CallEnv)
    (claimInput : Option ReferralClaimV1) : Prop :=
  ∀ claim claimHash, IsNewRoute runtime registry env claimInput claim claimHash → KeepsScope claim

theorem StoresClaims.activateRoute (h : registry.StoresClaims runtime)
    {claimInput : Option ReferralClaimV1} (hkept : registry.ActivatesKept runtime env claimInput)
    (hcall : registry.activateRoute runtime env claimInput = .ok (route, after)) :
    after.StoresClaims runtime := by
  rcases activateRoute_new hcall with rfl | ⟨claim, claimHash, version, hnew, rfl, rfl, rfl⟩
  · exact h
  have hclaim := storesClaim_of_parsed hnew.parsed hnew.hashed (hkept claim claimHash hnew)
  have hscope := cloneOperationScope_idem claim.operationIds
  exact h.append hclaim ⟨rfl, rfl⟩ hscope (List.forall_mem_nil _)

theorem StoresClaims.rotateRoutePayout (h : registry.StoresClaims runtime) {routeId : String}
    {claimInput : Option ReferralClaimV1}
    (hcall : registry.rotateRoutePayout runtime env routeId claimInput = .ok (route, after)) :
    after.StoresClaims runtime := by
  rcases rotateRoutePayout_eq_ok hcall with
    rfl | ⟨existing, claim, claimHash, version, hcheck, -, rfl, rfl, rfl⟩
  · exact h
  have hchecked := checkRotation_eq_ok hcheck
  have hexisting := (h.route existing (Table.mem_of_find? hchecked.found)).2
  have hid : existing.id = routeId := Table.key_of_find? hchecked.found
  subst hid
  -- the claim has the scope of the route, which is a copy
  have hkeeps : KeepsScope claim := by
    rw [KeepsScope, hchecked.operationIds]
    exact cloneOperationScope_eq_self_iff.mp hexisting
  have hclaim := storesClaim_of_parsed hchecked.parsed hchecked.hashed hkeeps
  have hold := h.version existing.id
  exact h.append hclaim ⟨rfl, rfl⟩ hexisting hold

theorem StoresClaims.moveRoute (h : registry.StoresClaims runtime) {source target : RouteStatus}
    {verb routeId : String} {moved : Option RouteRecord}
    (hcall : registry.moveRoute source target verb routeId = .ok (moved, after)) :
    after.StoresClaims runtime := by
  rcases moveRoute_eq_ok hcall with rfl | ⟨existing, hfound, rfl⟩
  · exact h
  refine ⟨?_, h.version⟩
  intro r hr
  rcases Table.mem_upsert.mp hr with rfl | ⟨hr, -⟩
  · exact h.route existing (Table.mem_of_find? hfound)
  · exact h.route r hr

end RouteRegistry

namespace Registries

open RouteRegistry

variable {s : Registries ν}

/-- The call activates no route with a claim whose scope a copy changes. -/
def KeepsScopes (runtime : RegistryRuntime ν) (s : Registries ν) : RegistryCall ν → Prop
  | .activateRoute env claimInput => s.routes.ActivatesKept runtime env claimInput
  | _ => True

theorem storesClaims_after {call : RegistryCall ν} (h : s.routes.StoresClaims runtime)
    (hkeeps : s.KeepsScopes runtime call) : (s.after runtime call).routes.StoresClaims runtime := by
  have hchange := @changesRoutes_after ν runtime s call
  generalize (s.after runtime call).routes = routes at hchange
  cases hchange with
  | none => exact h
  | activate hcall => exact h.activateRoute hkeeps hcall
  | rotate hcall => exact h.rotateRoutePayout hcall
  | move hcall => exact h.moveRoute hcall

/-- **Every claim is given out as it was signed**, when no route is activated with a claim whose
scope starts with the wildcard and goes on. -/
theorem claims_given_out_signed (h : (system runtime).Reachable (KeepsScopes runtime) s) :
    s.routes.ReturnsSignedClaims runtime := by
  have hstores : s.routes.StoresClaims runtime := by
    refine h.invariant (P := fun s => s.routes.StoresClaims runtime) ?_ ?_
    · intro s hs
      rw [hs]
      exact storesClaims_empty
    · intro s call s' _ hs hkeeps hstep
      rw [hstep]
      exact storesClaims_after hs hkeeps
  exact hstores.returns

end Registries

/-! ## Scopes beside the wildcard -/

namespace RouteRegistry

variable {registry : RouteRegistry} {env : CallEnv}

theorem getRoute_upsert {route : RouteRecord} {hashes : Table ClaimHashEntry.claimHash}
    {versions : Table RouteVersions.routeId} :
    getRoute ⟨registry.routesById.upsert route, hashes, versions⟩ route.id = some route := by
  rw [getRoute, Table.find?_upsert, if_pos rfl]

/-- A new route is activated. -/
theorem activateRoute_of_new (hstd : runtime.toRuntime.Standard) {claimInput : Option ReferralClaimV1}
    {claim : ReferralClaimV1} {claimHash : String}
    (h : IsNewRoute runtime registry env claimInput claim claimHash) :
    registry.activateRoute runtime env claimInput = .ok (activatedRoute runtime env claim claimHash,
      { routesById := registry.routesById.upsert (activatedRoute runtime env claim claimHash)
        routeIdByClaimHash := registry.routeIdByClaimHash.upsert ⟨claimHash, claim.routeId⟩
        versionsByRouteId := registry.versionsByRouteId.upsert ⟨claim.routeId,
          [createRouteVersionRecord (activatedRoute runtime env claim claimHash) claim 1
            (runtime.host.toISOString env.clock)]⟩ }) := by
  have hsigning := ofProtocolError_eq_ok.mpr (buildReferralClaimSigningBytes_eq hstd claim)
  unfold activateRoute
  refine bind_eq_ok.mpr ⟨_, h.parsed, bind_eq_ok.mpr ⟨(), h.range, bind_eq_ok.mpr ⟨(), h.unexpired,
    bind_eq_ok.mpr ⟨_, ofProtocolError_eq_ok.mpr h.hashed, ?_⟩⟩⟩⟩
  dsimp only
  rw [h.unknown]
  refine bind_eq_ok.mpr ⟨(), throwIf_eq_ok.mpr ?_, bind_eq_ok.mpr ⟨_, hsigning, rfl⟩⟩
  rw [h.fresh]
  exact Bool.false_ne_true

end RouteRegistry

namespace Sample

/-- The first claim with another scope, and the referrer's signature of that. -/
def scopedClaim (operationIds : List String) (signature : String) : ReferralClaimV1 :=
  { firstClaim with operationIds := operationIds, signature := ⟨referrerWallet, signature⟩ }

/-- A host whose database reads what the engine reads. -/
def postgresHost : Host := { secondsHost with parseTimestamptz := secondsHost.dateParse }

/-- An engine that knows the digests of a claim and of its copy, and the signature of the claim. -/
def scopedRuntime (claim : ReferralClaimV1) (claimHash copyHash : String) (signature : List UInt8) :
    RegistryRuntime Whole :=
  { registryRuntime with
    host := postgresHost
    sha256Hex := fun bytes => if bytes = claimBytes saleRuntime claim then claimHash else copyHash
    nodeVerify := fun publicKey message value =>
      publicKey == referrerKeyBytes && value == signature &&
        decide (message = claimSigningBytes saleRuntime claim) }

variable {claim : ReferralClaimV1} {claimHash copyHash : String} {signature : List UInt8}

theorem scopedRuntime_standard :
    (scopedRuntime claim claimHash copyHash signature).toRuntime.Standard :=
  ⟨wholeNumbers_standard, fun _ => rfl⟩

theorem digest_scopedClaim :
    (scopedRuntime claim claimHash copyHash signature).sha256Hex (claimBytes saleRuntime claim) =
      claimHash := by
  unfold scopedRuntime
  dsimp only
  exact if_pos rfl

theorem scopedClaim_schema {operationIds : List String} {value : String}
    (hscope : (!operationIds.isEmpty && operationIds.all (· != "")) = true)
    (hvalue : base64UrlRegex value = true) :
    referralClaimV1Schema zod (scopedClaim operationIds value) = true := by
  have hfirst := firstClaim_schema
  unfold referralClaimV1Schema at hfirst ⊢
  simp only [Bool.and_eq_true] at hfirst hscope ⊢
  simp only [scopedClaim]
  obtain ⟨⟨⟨⟨⟨⟨⟨⟨⟨hfields, -⟩, -⟩, hissued⟩, hexpires⟩, hshort⟩, hlong⟩, hmetadata⟩, hkey⟩, -⟩ := hfirst
  exact ⟨⟨⟨⟨⟨⟨⟨⟨⟨hfields, hscope.1⟩, hscope.2⟩, hissued⟩, hexpires⟩, hshort⟩, hlong⟩, hmetadata⟩, hkey⟩,
    hvalue⟩

/-- The claim is let in by empty routes. -/
theorem scopedClaim_new {operationIds : List String} {value : String}
    (hscope : (!operationIds.isEmpty && operationIds.all (· != "")) = true)
    (hvalue : base64UrlRegex value = true)
    (hsignature : base64UrlDecode value = .ok signature ∧ signature.length = 64) :
    RouteRegistry.IsNewRoute
      (scopedRuntime (scopedClaim operationIds value) claimHash copyHash signature) .empty registryEnv
      (some (scopedClaim operationIds value)) (scopedClaim operationIds value)
      ("sha256:" ++ claimHash) where
  parsed := by
    refine (parseVerifiedRouteClaim_iff scopedRuntime_standard).mpr
      ⟨rfl, scopedClaim_schema hscope hvalue, rfl, ?_⟩
    refine safeVerify_of_decodes referrerKey_decodes hsignature ?_
    simp only [scopedRuntime, beq_self_eq_true, Bool.true_and]
    exact decide_eq_true rfl
  range := by
    have hhost : (scopedRuntime (scopedClaim operationIds value) claimHash copyHash signature).host =
      postgresHost := rfl
    have hexpires : (scopedClaim operationIds value).expiresAt = "2027-01-01T00:00:00Z" := rfl
    have hissued : (scopedClaim operationIds value).issuedAt = "2026-01-01T00:00:00Z" := rfl
    rw [RouteRegistry.assertClaimRange, Registry.parsesNotAfter, hhost, hexpires, hissued]
    exact throwIf_eq_ok.mpr (by decide)
  unexpired := by
    have hhost : (scopedRuntime (scopedClaim operationIds value) claimHash copyHash signature).host =
      postgresHost := rfl
    have hexpires : (scopedClaim operationIds value).expiresAt = "2027-01-01T00:00:00Z" := rfl
    rw [RouteRegistry.assertNotExpired, Registry.parsesNotAfter, hhost, hexpires]
    exact throwIf_eq_ok.mpr (by decide)
  hashed := by
    have hbytes : claimBytes (scopedRuntime (scopedClaim operationIds value) claimHash copyHash
        signature).toRuntime (scopedClaim operationIds value) =
      claimBytes saleRuntime (scopedClaim operationIds value) := rfl
    rw [hashReferralClaim_eq scopedRuntime_standard, hbytes, digest_scopedClaim]
  unknown := rfl
  fresh := rfl

/-- The engine knows no signature of a claim that says something else. -/
theorem not_signedClaim_of_other {operationIds : List String} {value : String}
    (hother : ¬ SameContent claim (scopedClaim operationIds value)) (hash : String) :
    ¬ SignedClaim (scopedRuntime (scopedClaim operationIds value) claimHash copyHash signature) claim
      hash := by
  intro h
  have hverified := ((verifyReferralClaimObject_iff scopedRuntime_standard).mp h.1).2
  obtain ⟨key, bytes, -, -, -, hknown⟩ := signed_of_safeVerify hverified
  simp only [scopedRuntime, Bool.and_eq_true, decide_eq_true_eq] at hknown
  exact hother (sameContent_of_claimSigningBytes_eq saleRuntime_standard offerRuntime_counts hknown.2)

/-- The wildcard with an operation, as the referrer has signed it. -/
def wildcardClaim : ReferralClaimV1 := scopedClaim ["*", "GET /v1/quote"]
  "ukClbAyD7l5LGrJhJQs1Z-nf_KpRZMZ2fdvsr_g296dczhnR6p_AhdR0hfd-Cg1CAIiQWZuA7FYY3S7av8QiCg"

def wildcardSignature : List UInt8 :=
  [186, 64, 165, 108, 12, 131, 238, 94, 75, 26, 178, 97, 37, 11, 53, 103, 233, 223, 252, 170, 81, 100,
    198, 118, 125, 219, 236, 175, 248, 54, 247, 167, 92, 206, 25, 209, 234, 159, 192, 133, 212, 116,
    133, 247, 126, 10, 13, 66, 0, 136, 144, 89, 155, 128, 236, 86, 24, 221, 46, 218, 191, 196, 34, 10]

def wildcardRuntime : RegistryRuntime Whole :=
  scopedRuntime wildcardClaim "a6893c5cd3c7d29e7043a2c33d7e2b786e427e9e0d269e4c6aa5591ba1a5c083"
    "2b9472465636b5403d11e00df5c1332036c6ab929eca958c3f074123e7cb21de" wildcardSignature

theorem wildcardClaim_new : RouteRegistry.IsNewRoute wildcardRuntime .empty registryEnv
    (some wildcardClaim) wildcardClaim
    "sha256:a6893c5cd3c7d29e7043a2c33d7e2b786e427e9e0d269e4c6aa5591ba1a5c083" :=
  scopedClaim_new (by decide) (base64UrlRegex_ofList (by decide))
    ⟨base64UrlDecode_ofList (by decide) (by decide +kernel), rfl⟩

end Sample

namespace Registries

open Sample RouteRegistry

/-- No call of the sample activates such a claim. -/
def keepsScope : RegistryCall ν → Bool
  | .activateRoute _ (some claim) => decide (KeepsScope claim)
  | _ => true

theorem keepsScopes_of_keepsScope {s : Registries ν} {call : RegistryCall ν}
    (h : keepsScope call = true) : s.KeepsScopes runtime call := by
  cases call with
  | activateRoute env claimInput =>
      intro claim claimHash hnew
      rw [(parseVerifiedRouteClaim_eq_ok hnew.parsed).1] at h
      exact of_decide_eq_true h
  | _ => trivial

theorem claims_given_out_signed_sampleCalls :
    sampleRegistries.routes.ReturnsSignedClaims registryRuntime := by
  have hreachable : (system registryRuntime).Reachable (fun _ call => keepsScope call = true)
      (afterAll registryRuntime sampleCalls) := reachable_afterAll rfl
  rw [afterAll_sampleCalls] at hreachable
  exact claims_given_out_signed (hreachable.mono fun _ _ => keepsScopes_of_keepsScope)

theorem afterAll_activateRoute {env : CallEnv} {claimInput : Option ReferralClaimV1}
    {route : RouteRecord} {routes : RouteRegistry}
    (h : RouteRegistry.empty.activateRoute runtime env claimInput = .ok (route, routes)) :
    afterAll runtime [.activateRoute env claimInput] = ⟨.empty, .empty, routes⟩ := by
  have happly : empty.apply runtime (.activateRoute env claimInput) =
    .ok ⟨.empty, .empty, routes⟩ := bind_eq_ok.mpr ⟨_, h, rfl⟩
  exact after_of_apply happly

/-- The stored claim is the wildcard alone, which the referrer has not signed. -/
theorem not_claims_given_out_signed :
    ¬ ∀ s, (system wildcardRuntime).Reachable (fun _ _ => True) s →
      s.routes.ReturnsSignedClaims wildcardRuntime := by
  intro h
  have hstd : wildcardRuntime.toRuntime.Standard := scopedRuntime_standard
  have hactivate := activateRoute_of_new hstd wildcardClaim_new
  have hreachable := @reachable_of_calls _ wildcardRuntime
    [.activateRoute registryEnv (some wildcardClaim)]
  rw [afterAll_activateRoute hactivate] at hreachable
  have hroute := (h _ hreachable).route _ _ (congrArg (Option.map cloneRoute) getRoute_upsert)
  refine not_signedClaim_of_other ?_ _ hroute
  intro hsame
  have hscope : ["*"] = ["*", "GET /v1/quote"] := congrArg ReferralClaimV1.operationIds hsame
  exact absurd hscope (by decide)

end Registries

end Split402

import Split402.Base.Sort
import Split402.Registry.Routes

/-! # Searching routes

A search of routes names what it wants of them: their status, their campaign, referrer and origin,
and an operation they cover. Expired routes are not found as active ones. What the registry gives out
of a route or a version is a copy, which cuts its scopes down to the wildcard once more. -/

namespace Split402

open Base

variable {ν : Type}

structure SearchRoutesInput where
  campaignId : Option String
  referrerWallet : Option String
  resourceOrigin : Option String
  operationId : Option String
  status : Option RouteStatus
  limit : Option JsNumber

structure NormalizedRouteSearchInput where
  campaignId : Option String
  referrerWallet : Option String
  resourceOrigin : Option String
  operationId : Option String
  status : RouteStatus
  limit : Nat
  now : String

/-- A check of a value that may be missing. -/
def Registry.assertOptional (check : String → Except RegistryError String) :
    Option String → Except RegistryError (Option String)
  | none => pure none
  | some value => some <$> check value

/-- The limit of a search, 50 when it names none. -/
def assertSearchLimit (limit : Option JsNumber) : Except RegistryError Nat :=
  match (limit.getD (.finite 50)).toInteger.filter (fun limit => 0 < limit ∧ limit ≤ 100) with
  | none => throw (.validation "limit must be an integer from 1 to 100")
  | some limit => pure limit.toNat

section Search

variable (runtime : RegistryRuntime ν)

def normalizeRouteSearchInput (input : SearchRoutesInput) (now : String) :
    Except RegistryError NormalizedRouteSearchInput := do
  let limit ← assertSearchLimit input.limit
  let campaignId ← Registry.assertOptional
    (fun value => Registry.assertSplit402Id value "campaignId") input.campaignId
  let referrerWallet ← Registry.assertOptional
    (fun value => Registry.assertBase58PublicKey value "referrerWallet") input.referrerWallet
  let resourceOrigin ← Registry.assertOptional
    (fun value => Registry.assertUrlOrigin runtime value "resourceOrigin") input.resourceOrigin
  let operationId ← Registry.assertOptional
    (fun value => Registry.assertNonEmptyString value "operationId") input.operationId
  let now ← Registry.assertUtcTimestamp runtime now "now"
  pure ⟨campaignId, referrerWallet, resourceOrigin, operationId, input.status.getD .active, limit, now⟩

namespace RouteRegistry

/-- `routeCoversOperation` of the search. -/
def routeCoversOperation (operationIds : List String) (operationId : String) : Bool :=
  operationIds.head? == some "*" || operationIds.any (· == operationId)

/-- What a search asks of a value, when it asks something. -/
def isWanted (wanted : Option String) (value : String) : Bool := wanted.all (· == value)

def routeMatchesSearch (route : RouteRecord) (search : NormalizedRouteSearchInput) : Bool :=
  route.status == search.status &&
    !(search.status == .active && Registry.parsesNotAfter runtime route.expiresAt search.now) &&
    isWanted search.campaignId route.campaignId &&
    isWanted search.referrerWallet route.referrerWallet &&
    isWanted search.resourceOrigin route.resourceOrigin &&
    search.operationId.all (routeCoversOperation route.operationIds)

/-- The difference of the times decides; where it is `NaN`, the routes stay as they are. -/
def compareRoutesNewestFirst (left right : RouteRecord) : Ordering :=
  match runtime.host.dateParse right.createdAt, runtime.host.dateParse left.createdAt with
  | some r, some l => (compare r l).then (runtime.host.localeCompare right.id left.id)
  | _, _ => .eq

def cloneRoute (route : RouteRecord) : RouteRecord :=
  { route with
    operationIds := cloneOperationScope route.operationIds
    claim := cloneClaim route.claim }

def cloneRouteVersion (version : RouteVersionRecord) : RouteVersionRecord :=
  { version with claim := cloneClaim version.claim }

def searchRoutes (registry : RouteRegistry) (env : CallEnv) (input : SearchRoutesInput) :
    Except RegistryError (List RouteRecord) := do
  let search ← normalizeRouteSearchInput runtime input (runtime.host.toISOString env.clock)
  let found := registry.routesById.rows.filter (fun route => routeMatchesSearch runtime route search)
  pure (((sortBy (compareRoutesNewestFirst runtime) found).take search.limit).map cloneRoute)

variable {runtime}

/-! ## Copies -/

@[simp] theorem cloneOperationScope_idem (scope : List String) :
    cloneOperationScope (cloneOperationScope scope) = cloneOperationScope scope := by
  by_cases h : scope.head? = some "*"
  · simp [cloneOperationScope, h]
  · simp [cloneOperationScope, h]

/-- A copy cuts a scope down unless the wildcard stands alone, or not in the first place. -/
theorem cloneOperationScope_eq_self_iff {scope : List String} :
    cloneOperationScope scope = scope ↔ (scope.head? = some "*" → scope = ["*"]) := by
  by_cases h : scope.head? = some "*"
  · rw [cloneOperationScope, if_pos h]
    exact ⟨fun heq _ => heq.symm, fun heq => (heq h).symm⟩
  · rw [cloneOperationScope, if_neg h]
    exact iff_of_true rfl fun hhead => absurd hhead h

theorem cloneClaim_eq_self_iff {claim : ReferralClaimV1} :
    cloneClaim claim = claim ↔ cloneOperationScope claim.operationIds = claim.operationIds := by
  constructor
  · intro h
    exact congrArg ReferralClaimV1.operationIds h
  · intro h
    rw [cloneClaim, h]

@[simp] theorem cloneClaim_idem (claim : ReferralClaimV1) :
    cloneClaim (cloneClaim claim) = cloneClaim claim :=
  cloneClaim_eq_self_iff.mpr (cloneOperationScope_idem claim.operationIds)

theorem isWanted_none (value : String) : isWanted none value = true := rfl

theorem limit_of_normalize {input : SearchRoutesInput} {now : String}
    {search : NormalizedRouteSearchInput}
    (h : normalizeRouteSearchInput runtime input now = .ok search) : 0 < search.limit := by
  obtain ⟨limit, hlimit, h⟩ := bind_eq_ok.mp h
  obtain ⟨_, _, h⟩ := bind_eq_ok.mp h
  obtain ⟨_, _, h⟩ := bind_eq_ok.mp h
  obtain ⟨_, _, h⟩ := bind_eq_ok.mp h
  obtain ⟨_, _, h⟩ := bind_eq_ok.mp h
  obtain ⟨_, _, h⟩ := bind_eq_ok.mp h
  rw [pure_eq_ok] at h
  subst h
  unfold assertSearchLimit at hlimit
  split at hlimit
  · exact absurd hlimit throw_ne_ok
  · rename_i value hvalue
    have hrange := (Option.filter_eq_some_iff.mp hvalue).2
    rw [decide_eq_true_eq] at hrange
    rw [pure_eq_ok] at hlimit
    dsimp only
    omega

/-- The search of a registry that holds one route alone says whether the route matches. -/
theorem searchRoutes_alone {registry : RouteRegistry} {route : RouteRecord} {env : CallEnv}
    {input : SearchRoutesInput} {search : NormalizedRouteSearchInput}
    (halone : registry.routesById.rows = [route])
    (hsearch : normalizeRouteSearchInput runtime input (runtime.host.toISOString env.clock) =
      .ok search) :
    (!·.isEmpty) <$> registry.searchRoutes runtime env input =
      .ok (routeMatchesSearch runtime route search) := by
  have hlimit := limit_of_normalize hsearch
  obtain ⟨limit, hlimit⟩ := Nat.exists_eq_add_of_lt hlimit
  unfold searchRoutes
  rw [hsearch, halone]
  by_cases hmatches : routeMatchesSearch runtime route search = true
  · simp [bind, Except.bind, pure, Except.pure, Functor.map, Except.map, sortBy, hlimit, hmatches]
  · rw [Bool.not_eq_true] at hmatches
    simp [bind, Except.bind, pure, Except.pure, Functor.map, Except.map, sortBy, hmatches]

/-- What a search finds is a copy of a route that matches it. -/
theorem of_mem_searchRoutes {registry : RouteRegistry} {env : CallEnv} {input : SearchRoutesInput}
    {routes : List RouteRecord} {route : RouteRecord}
    (h : registry.searchRoutes runtime env input = .ok routes) (hroute : route ∈ routes) :
    ∃ stored ∈ registry.routesById, route = cloneRoute stored := by
  obtain ⟨search, _, h⟩ := bind_eq_ok.mp h
  rw [pure_eq_ok] at h
  subst h
  obtain ⟨stored, hstored, rfl⟩ := List.mem_map.mp hroute
  have hfound := (mem_sortBy _).mp (List.mem_of_mem_take hstored)
  exact ⟨stored, (List.mem_filter.mp hfound).1, rfl⟩

end RouteRegistry

end Search

end Split402

import Split402.Registry.RouteSearch
import Split402.Store.Schema

/-! # Routes in Postgres

The tables `routes` and `route_versions`, what a route is as a row and what is read back of one, and
the search of the routes. A row is read back by code of its own: a scope in which the wildcard has
company, or an entry is blank, is refused there. -/

namespace Split402

open Base

variable {ν : Type}

structure RouteRow where
  id : String
  currentVersion : Nat
  campaignId : String
  campaignVersionMin : Nat
  referrerWallet : String
  payoutWallet : String
  resourceOrigin : String
  operationIds : List String
  claimHash : String
  claimJson : ReferralClaimV1
  status : RouteStatus
  issuedAt : Int
  expiresAt : Int
  nonce : String
  metadataHash : Option String
  createdAt : Int
  activatedAt : Int
  deriving DecidableEq, Repr

structure RouteVersionRow where
  routeId : String
  version : Nat
  campaignVersionMin : Nat
  payoutWallet : String
  claimHash : String
  claimJson : ReferralClaimV1
  issuedAt : Int
  expiresAt : Int
  nonce : String
  metadataHash : Option String
  createdAt : Int
  deriving DecidableEq, Repr

/-- The primary key of `route_versions`. -/
def RouteVersionRow.key (row : RouteVersionRow) : String × Nat := (row.routeId, row.version)

/-- The two tables. `claim_hash` is unique in each. -/
structure RouteDb where
  routes : Table RouteRow.id
  routeVersions : Table RouteVersionRow.key

namespace RouteDb

section Rows

variable (runtime : RegistryRuntime ν)

/-- A string in a `timestamptz` column. -/
def timestamptzColumn (value : String) : Except RegistryError Int :=
  match runtime.host.parseTimestamptz value with
  | none => throw (.other "invalid input syntax for type timestamp with time zone")
  | some timestamp => pure timestamp

/-- A number in an `integer` column. -/
def integerColumn (value : Nat) : Except RegistryError Nat :=
  if isInt4 value then pure value else throw (.other "integer out of range")

/-- The values of a route in an insert. -/
def routeRow (route : RouteRecord) : Except RegistryError RouteRow := do
  let currentVersion ← integerColumn route.currentVersion
  let campaignVersionMin ← integerColumn route.campaignVersionMin
  let issuedAt ← timestamptzColumn runtime route.issuedAt
  let expiresAt ← timestamptzColumn runtime route.expiresAt
  let createdAt ← timestamptzColumn runtime route.createdAt
  let activatedAt ← timestamptzColumn runtime route.activatedAt
  pure ⟨route.id, currentVersion, route.campaignId, campaignVersionMin, route.referrerWallet,
    route.payoutWallet, route.resourceOrigin, route.operationIds, route.claimHash, route.claim,
    route.status, issuedAt, expiresAt, route.nonce, route.metadataHash, createdAt, activatedAt⟩

def parseRouteOperationScope (scope : List String) : Except RegistryError (List String) :=
  if scope.isEmpty then throw (.other "route operation_ids must be a non-empty array")
  else if "*" ∈ scope then
    if scope = ["*"] then pure ["*"]
    else throw (.other "route operation_ids wildcard must be the only entry")
  else if scope.any isBlank then
    throw (.other "route operation_ids entries must be non-empty strings")
  else pure scope

/-- `ReferralClaimV1Schema.parse`. -/
def parseReferralClaimJson (claim : ReferralClaimV1) : Except RegistryError ReferralClaimV1 :=
  if referralClaimV1Schema runtime.zod claim then pure claim
  else throw (.other ("; ".intercalate (runtime.claimIssues (some claim))))

/-- The route of a row, with the scope and the claim that are read of it. -/
def routeOf (row : RouteRow) (operationIds : List String) (claim : ReferralClaimV1) : RouteRecord :=
  ⟨row.id, row.currentVersion, row.campaignId, row.campaignVersionMin, row.referrerWallet,
    row.payoutWallet, row.resourceOrigin, operationIds, row.claimHash, claim, row.status,
    runtime.host.toISOString row.issuedAt, runtime.host.toISOString row.expiresAt, row.nonce,
    row.metadataHash, runtime.host.toISOString row.createdAt,
    runtime.host.toISOString row.activatedAt⟩

def mapRoute (row : RouteRow) : Except RegistryError RouteRecord := do
  let operationIds ← parseRouteOperationScope row.operationIds
  let claim ← parseReferralClaimJson runtime row.claimJson
  pure (routeOf runtime row operationIds claim)

end Rows

/-! ## The search -/

/-- The `where` of a search at a time; `?` asks whether a scope contains a string. -/
def selects (search : NormalizedRouteSearchInput) (now : Int) (row : RouteRow) : Bool :=
  row.status == search.status && (search.status != .active || now < row.expiresAt) &&
    RouteRegistry.isWanted search.campaignId row.campaignId &&
    RouteRegistry.isWanted search.referrerWallet row.referrerWallet &&
    RouteRegistry.isWanted search.resourceOrigin row.resourceOrigin &&
    search.operationId.all (fun operationId =>
      row.operationIds.contains operationId || row.operationIds.contains "*")

variable (runtime : RegistryRuntime ν)

/-- `order by created_at desc, id desc`. -/
def compareRowsNewestFirst (left right : RouteRow) : Ordering :=
  (compare right.createdAt left.createdAt).then (runtime.host.collate right.id left.id)

def searchRoutes (db : RouteDb) (env : CallEnv) (input : SearchRoutesInput) :
    Except RegistryError (List RouteRecord) := do
  let search ← normalizeRouteSearchInput runtime input (runtime.host.toISOString env.clock)
  let now ← timestamptzColumn runtime search.now
  let selected := db.routes.rows.filter (selects search now)
  ((sortBy (compareRowsNewestFirst runtime) selected).take search.limit).mapM (mapRoute runtime)

/-- What a search says of a route by its row: whether it is found, or the error of reading it. -/
def finds (search : NormalizedRouteSearchInput) (now : Int) (row : RouteRow) :
    Except RegistryError Bool :=
  if selects search now row then (fun _ => true) <$> mapRoute runtime row else pure false

variable {runtime}

theorem timestamptzColumn_eq_ok {value : String} {timestamp : Int} :
    timestamptzColumn runtime value = .ok timestamp ↔
      runtime.host.parseTimestamptz value = some timestamp := by
  unfold timestamptzColumn
  cases runtime.host.parseTimestamptz value with
  | none => exact iff_of_false throw_ne_ok nofun
  | some parsed => rw [pure_eq_ok, Option.some.injEq]

theorem integerColumn_eq_ok {value n : Nat} :
    integerColumn value = .ok n ↔ isInt4 value = true ∧ value = n := by
  unfold integerColumn
  by_cases h : isInt4 value = true
  · rw [if_pos h, pure_eq_ok]
    simp [h]
  · rw [if_neg h]
    exact iff_of_false throw_ne_ok fun h' => h h'.1

/-- The row has the route's own text. -/
theorem routeRow_eq_ok {route : RouteRecord} {row : RouteRow}
    (h : routeRow runtime route = .ok row) :
    row.operationIds = route.operationIds ∧ row.claimJson = route.claim := by
  unfold routeRow at h
  obtain ⟨_, _, h⟩ := bind_eq_ok.mp h
  obtain ⟨_, _, h⟩ := bind_eq_ok.mp h
  obtain ⟨_, _, h⟩ := bind_eq_ok.mp h
  obtain ⟨_, _, h⟩ := bind_eq_ok.mp h
  obtain ⟨_, _, h⟩ := bind_eq_ok.mp h
  obtain ⟨_, _, h⟩ := bind_eq_ok.mp h
  rw [pure_eq_ok] at h
  subst h
  exact ⟨rfl, rfl⟩

/-- A scope is read back when the wildcard stands alone in it, or no entry is blank. -/
def Readable (scope : List String) : Prop :=
  scope ≠ [] ∧ ("*" ∈ scope → scope = ["*"]) ∧ ∀ operationId ∈ scope, isBlank operationId = false

theorem not_isBlank_wildcard : isBlank "*" = false := rfl

theorem parseRouteOperationScope_eq_ok {scope operationIds : List String} :
    parseRouteOperationScope scope = .ok operationIds ↔ Readable scope ∧ scope = operationIds := by
  unfold parseRouteOperationScope Readable
  by_cases hempty : scope.isEmpty = true
  · rw [if_pos hempty]
    exact iff_of_false throw_ne_ok fun h => h.1.1 (List.isEmpty_iff.mp hempty)
  rw [if_neg hempty]
  rw [List.isEmpty_iff] at hempty
  by_cases hwild : "*" ∈ scope
  · rw [if_pos hwild]
    by_cases halone : scope = ["*"]
    · subst halone
      rw [if_pos rfl, pure_eq_ok]
      refine ⟨fun h => ⟨⟨hempty, fun _ => rfl, ?_⟩, h⟩, fun h => h.2⟩
      intro operationId hmem
      rw [List.mem_singleton.mp hmem]
      exact not_isBlank_wildcard
    · rw [if_neg halone]
      exact iff_of_false throw_ne_ok fun h => halone (h.1.2.1 hwild)
  · rw [if_neg hwild]
    by_cases hblank : scope.any isBlank = true
    · rw [if_pos hblank]
      refine iff_of_false throw_ne_ok ?_
      intro h
      obtain ⟨operationId, hmem, htrue⟩ := List.any_eq_true.mp hblank
      rw [h.1.2.2 operationId hmem] at htrue
      cases htrue
    · rw [if_neg hblank, pure_eq_ok]
      rw [Bool.not_eq_true, List.any_eq_false] at hblank
      refine ⟨fun h => ⟨⟨hempty, fun hmem => absurd hmem hwild, ?_⟩, h⟩, fun h => h.2⟩
      exact fun operationId hmem => Bool.not_eq_true _ ▸ hblank operationId hmem

theorem parseReferralClaimJson_eq_ok {claim parsed : ReferralClaimV1} :
    parseReferralClaimJson runtime claim = .ok parsed ↔
      referralClaimV1Schema runtime.zod claim = true ∧ claim = parsed := by
  unfold parseReferralClaimJson
  by_cases h : referralClaimV1Schema runtime.zod claim = true
  · rw [if_pos h, pure_eq_ok]
    simp [h]
  · rw [if_neg h]
    exact iff_of_false throw_ne_ok fun h' => h h'.1

/-- A row is read back when its scope and its claim are. -/
theorem mapRoute_eq_ok {row : RouteRow} {route : RouteRecord} : mapRoute runtime row = .ok route ↔
    Readable row.operationIds ∧ referralClaimV1Schema runtime.zod row.claimJson = true ∧
      routeOf runtime row row.operationIds row.claimJson = route := by
  constructor
  · intro h
    obtain ⟨operationIds, hscope, h⟩ := bind_eq_ok.mp h
    obtain ⟨claim, hclaim, h⟩ := bind_eq_ok.mp h
    obtain ⟨hreadable, rfl⟩ := parseRouteOperationScope_eq_ok.mp hscope
    obtain ⟨hschema, rfl⟩ := parseReferralClaimJson_eq_ok.mp hclaim
    exact ⟨hreadable, hschema, pure_eq_ok.mp h⟩
  · rintro ⟨hscope, hschema, rfl⟩
    have hoperations := parseRouteOperationScope_eq_ok.mpr ⟨hscope, rfl⟩
    have hclaim := (@parseReferralClaimJson_eq_ok _ runtime _ _).mpr ⟨hschema, rfl⟩
    exact bind_eq_ok.mpr ⟨_, hoperations, bind_eq_ok.mpr ⟨_, hclaim, rfl⟩⟩

/-- The search of a table that holds the route alone says so. -/
theorem searchRoutes_alone {db : RouteDb} {row : RouteRow} {env : CallEnv} {input : SearchRoutesInput}
    {search : NormalizedRouteSearchInput} {now : Int} (halone : db.routes.rows = [row])
    (hsearch : normalizeRouteSearchInput runtime input (runtime.host.toISOString env.clock) =
      .ok search) (hnow : timestamptzColumn runtime search.now = .ok now) :
    (!·.isEmpty) <$> db.searchRoutes runtime env input = finds runtime search now row := by
  have hlimit := RouteRegistry.limit_of_normalize hsearch
  obtain ⟨limit, hlimit⟩ := Nat.exists_eq_add_of_lt hlimit
  have hrun : db.searchRoutes runtime env input =
      ((sortBy (compareRowsNewestFirst runtime) ([row].filter (selects search now))).take
        search.limit).mapM (mapRoute runtime) := by
    unfold searchRoutes
    rw [hsearch, halone]
    dsimp only [bind, Except.bind]
    rw [hnow]
  rw [hrun, hlimit, finds]
  rw [List.filter_singleton]
  by_cases hselects : selects search now row = true
  · rw [hselects, if_pos rfl]
    cases hmap : mapRoute runtime row with
    | error e => simp [sortBy, hmap, Functor.map, Except.map, bind, Except.bind]
    | ok route => simp [sortBy, hmap, Functor.map, Except.map, bind, Except.bind, pure, Except.pure]
  · rw [Bool.not_eq_true] at hselects
    rw [hselects, if_neg Bool.false_ne_true]
    rfl

end RouteDb

end Split402

import Split402.Base.Table
import Split402.Registry.Runtime

/-! # Routes

The in-memory registry of routes. A route is activated by a claim of its referrer and has a version
for each claim that rotated its payout wallet; the last version is the current one. A claim is known
by its hash, over all routes. -/

namespace Split402

open Base (Table)

variable {ν : Type}

inductive RouteStatus
  | active | suspended | expired | revoked
  deriving DecidableEq, Repr

def RouteStatus.toString : RouteStatus → String
  | .active => "active"
  | .suspended => "suspended"
  | .expired => "expired"
  | .revoked => "revoked"

structure RouteRecord where
  id : String
  currentVersion : Nat
  campaignId : String
  campaignVersionMin : Nat
  referrerWallet : String
  payoutWallet : String
  resourceOrigin : String
  operationIds : List String
  claimHash : String
  claim : ReferralClaimV1
  status : RouteStatus
  issuedAt : String
  expiresAt : String
  nonce : String
  metadataHash : Option String
  createdAt : String
  activatedAt : String
  deriving DecidableEq, Repr

structure RouteVersionRecord where
  routeId : String
  version : Nat
  campaignVersionMin : Nat
  payoutWallet : String
  claimHash : String
  claim : ReferralClaimV1
  issuedAt : String
  expiresAt : String
  nonce : String
  metadataHash : Option String
  createdAt : String
  deriving DecidableEq, Repr

/-- `routeIdByClaimHash`. -/
structure ClaimHashEntry where
  claimHash : String
  routeId : String
  deriving DecidableEq, Repr

/-- The versions of a route, in their order. -/
structure RouteVersions where
  routeId : String
  versions : List RouteVersionRecord
  deriving DecidableEq, Repr

structure RouteRegistry where
  routesById : Table RouteRecord.id
  routeIdByClaimHash : Table ClaimHashEntry.claimHash
  versionsByRouteId : Table RouteVersions.routeId

namespace RouteRegistry

def empty : RouteRegistry := ⟨.empty, .empty, .empty⟩

/-- `cloneOperationScope`: a scope that starts with the wildcard is the wildcard. -/
def cloneOperationScope (scope : List String) : List String :=
  if scope.head? = some "*" then ["*"] else scope

def cloneClaim (claim : ReferralClaimV1) : ReferralClaimV1 :=
  { claim with operationIds := cloneOperationScope claim.operationIds }

def createRouteVersionRecord (route : RouteRecord) (claim : ReferralClaimV1) (version : Nat)
    (createdAt : String) : RouteVersionRecord where
  routeId := route.id
  version := version
  campaignVersionMin := claim.campaignVersionMin
  payoutWallet := claim.payoutWallet
  claimHash := route.claimHash
  claim := cloneClaim claim
  issuedAt := claim.issuedAt
  expiresAt := claim.expiresAt
  nonce := claim.nonce
  metadataHash := claim.metadataHash
  createdAt := createdAt

section Checks

variable (runtime : RegistryRuntime ν)

/-- `claimInput` is `none` when it has not the shape of a claim. -/
def parseVerifiedRouteClaim (claimInput : Option ReferralClaimV1) :
    Except RegistryError ReferralClaimV1 :=
  match claimInput.filter (referralClaimV1Schema runtime.zod) with
  | none => throw (.validation ("; ".intercalate (runtime.claimIssues claimInput)))
  | some claim => do
      let signatureVerification ← ofProtocolError
        (verifyReferralClaimObject runtime.toRuntime claim)
      throwIf (!signatureVerification.ok)
        (.validation ("; ".intercalate signatureVerification.errors))
      pure claim

def assertClaimRange (issuedAt expiresAt : String) : Except RegistryError Unit :=
  throwIf (Registry.parsesNotAfter runtime expiresAt issuedAt)
    (.validation "expiresAt must be after issuedAt")

def assertNotExpired (env : CallEnv) (claim : ReferralClaimV1) : Except RegistryError Unit :=
  throwIf (Registry.parsesNotAfter runtime claim.expiresAt (runtime.host.toISOString env.clock))
    (.validation "route claim is expired")

end Checks

def assertRoutePayoutRotation (existing : RouteRecord) (claim : ReferralClaimV1) :
    Except RegistryError Unit :=
  if claim.routeId ≠ existing.id then
    throw (.validation "rotated claim routeId must match route")
  else if claim.campaignId ≠ existing.campaignId then
    throw (.validation "rotated claim campaignId must match route")
  else if claim.campaignVersionMin ≠ existing.campaignVersionMin then
    throw (.validation "rotated claim campaignVersionMin must match route")
  else if claim.referrerWallet ≠ existing.referrerWallet then
    throw (.validation "rotated claim referrerWallet must match route")
  else if claim.resourceOrigin ≠ existing.resourceOrigin then
    throw (.validation "rotated claim resourceOrigin must match route")
  else if claim.operationIds ≠ existing.operationIds then
    throw (.validation "rotated claim operationIds must match route")
  else pure ()

section Operations

variable (runtime : RegistryRuntime ν) (registry : RouteRegistry) (env : CallEnv)

/-- The route that a claim activates. -/
def activatedRoute (claim : ReferralClaimV1) (claimHash : String) : RouteRecord where
  id := claim.routeId
  currentVersion := 1
  campaignId := claim.campaignId
  campaignVersionMin := claim.campaignVersionMin
  referrerWallet := claim.referrerWallet
  payoutWallet := claim.payoutWallet
  resourceOrigin := claim.resourceOrigin
  operationIds := cloneOperationScope claim.operationIds
  claimHash := claimHash
  claim := cloneClaim claim
  status := .active
  issuedAt := claim.issuedAt
  expiresAt := claim.expiresAt
  nonce := claim.nonce
  metadataHash := claim.metadataHash
  createdAt := runtime.host.toISOString env.clock
  activatedAt := runtime.host.toISOString env.clock

def activateRoute (claimInput : Option ReferralClaimV1) :
    Except RegistryError (RouteRecord × RouteRegistry) := do
  let claim ← parseVerifiedRouteClaim runtime claimInput
  assertClaimRange runtime claim.issuedAt claim.expiresAt
  assertNotExpired runtime env claim
  let claimHash ← ofProtocolError (hashReferralClaim runtime.toRuntime claim)
  let duplicate := (registry.routeIdByClaimHash.find? claimHash).bind
    (fun entry => registry.routesById.find? entry.routeId)
  match duplicate with
  | some existing => pure (existing, registry)
  | none =>
      throwIf (registry.routesById.has claim.routeId)
        (.conflict s!"route already exists: {claim.routeId}")
      let _ ← ofProtocolError (buildReferralClaimSigningBytes runtime.toRuntime claim)
      let route := activatedRoute runtime env claim claimHash
      let version := createRouteVersionRecord route claim 1 route.createdAt
      pure (route,
        { routesById := registry.routesById.upsert route
          routeIdByClaimHash := registry.routeIdByClaimHash.upsert ⟨claimHash, route.id⟩
          versionsByRouteId := registry.versionsByRouteId.upsert ⟨route.id, [version]⟩ })

def getRoute (routeId : String) : Option RouteRecord := registry.routesById.find? routeId

/-- `this.versionsByRouteId.get(routeId) ?? []`. -/
def versionsOf (routeId : String) : List RouteVersionRecord :=
  ((registry.versionsByRouteId.find? routeId).map (·.versions)).getD []

def listRouteVersions (routeId : String) : Except RegistryError (List RouteVersionRecord) := do
  let routeId ← Registry.assertSplit402Id routeId "route id"
  pure (registry.versionsOf routeId)

/-- The route after a rotation to a claim. -/
def rotatedRoute (existing : RouteRecord) (claim : ReferralClaimV1) (claimHash : String) :
    RouteRecord :=
  { existing with
    currentVersion := existing.currentVersion + 1
    campaignVersionMin := claim.campaignVersionMin
    payoutWallet := claim.payoutWallet
    claimHash := claimHash
    claim := cloneClaim claim
    issuedAt := claim.issuedAt
    expiresAt := claim.expiresAt
    nonce := claim.nonce
    metadataHash := claim.metadataHash }

/-- The route that a rotation finds, and its claim, when they pass the checks. -/
def checkRotation (routeId : String) (claimInput : Option ReferralClaimV1) :
    Except RegistryError (RouteRecord × ReferralClaimV1 × String) := do
  let routeId ← Registry.assertSplit402Id routeId "route id"
  match registry.routesById.find? routeId with
  | none => throw (.validation s!"unknown route: {routeId}")
  | some existing => do
      throwIf (existing.status ≠ .active) (.validation
        ("route must be active to rotate payout; current status is " ++ existing.status.toString))
      let claim ← parseVerifiedRouteClaim runtime claimInput
      assertRoutePayoutRotation existing claim
      assertClaimRange runtime claim.issuedAt claim.expiresAt
      assertNotExpired runtime env claim
      let claimHash ← ofProtocolError (hashReferralClaim runtime.toRuntime claim)
      match registry.routeIdByClaimHash.find? claimHash with
      | some entry =>
          throwIf (entry.routeId ≠ routeId)
            (.conflict s!"route claim already exists for another route: {entry.routeId}")
          pure (existing, claim, claimHash)
      | none => pure (existing, claim, claimHash)

def rotateRoutePayout (routeId : String) (claimInput : Option ReferralClaimV1) :
    Except RegistryError (RouteRecord × RouteRegistry) := do
  let (existing, claim, claimHash) ← registry.checkRotation runtime env routeId claimInput
  if (registry.versionsOf routeId).any (·.claimHash = claimHash) then pure (existing, registry)
  else if claimHash = existing.claimHash then pure (existing, registry)
  else
    let _ ← ofProtocolError (buildReferralClaimSigningBytes runtime.toRuntime claim)
    let rotated := rotatedRoute existing claim claimHash
    let version := createRouteVersionRecord rotated claim rotated.currentVersion
      (runtime.host.toISOString env.clock)
    pure (rotated,
      { routesById := registry.routesById.upsert rotated
        routeIdByClaimHash := registry.routeIdByClaimHash.upsert ⟨claimHash, routeId⟩
        versionsByRouteId := registry.versionsByRouteId.upsert
          ⟨routeId, registry.versionsOf routeId ++ [version]⟩ })

/-- `suspendRoute` and `resumeRoute`: from one status to the other; `verb` is what it is called. -/
def moveRoute (source target : RouteStatus) (verb routeId : String) :
    Except RegistryError (Option RouteRecord × RouteRegistry) := do
  let routeId ← Registry.assertSplit402Id routeId "route id"
  match registry.routesById.find? routeId with
  | none => pure (none, registry)
  | some route =>
      if route.status = target then pure (some route, registry)
      else if route.status ≠ source then
        throw (.validation (s!"route must be {source.toString} to {verb}; current status is " ++
          route.status.toString))
      else
        let moved := { route with status := target }
        pure (some moved, { registry with routesById := registry.routesById.upsert moved })

def suspendRoute (routeId : String) : Except RegistryError (Option RouteRecord × RouteRegistry) :=
  registry.moveRoute .active .suspended "suspend" routeId

def resumeRoute (routeId : String) : Except RegistryError (Option RouteRecord × RouteRegistry) :=
  registry.moveRoute .suspended .active "resume" routeId

end Operations

end RouteRegistry

end Split402

import Split402.Registry.PostgresRoutes
import Split402.Registry.Statements

/-! # Calls of the Postgres registry of routes

`rotateRoutePayout`, `suspendRoute` and `resumeRoute`, from one statement to the next. A rotation
inserts the new version of the route and then updates the row of the route, by two statements that
no transaction holds together; between them other calls run, and either may fail. -/

namespace Split402

open Base

variable {ν : Type}

inductive RouteRequest
  | rotateRoutePayout (routeId : String) (claim : Option ReferralClaimV1)
  | suspendRoute (routeId : String)
  | resumeRoute (routeId : String)

/-- A call, with what it sees of its clock, and how its two writes go. -/
structure RouteCall where
  env : CallEnv
  request : RouteRequest
  insertion : StatementFate
  update : StatementFate

/-! ## The tables -/

/-- The row of a route in another status. -/
def RouteRow.moved (row : RouteRow) (status : RouteStatus) : RouteRow := { row with status := status }

namespace RouteDb

section Rows

variable (runtime : RegistryRuntime ν)

/-- The values of a version in `insertRouteVersion`. -/
def routeVersionRow (version : RouteVersionRecord) : Except RegistryError RouteVersionRow := do
  let number ← integerColumn version.version
  let campaignVersionMin ← integerColumn version.campaignVersionMin
  let issuedAt ← timestamptzColumn runtime version.issuedAt
  let expiresAt ← timestamptzColumn runtime version.expiresAt
  let createdAt ← timestamptzColumn runtime version.createdAt
  pure ⟨version.routeId, number, campaignVersionMin, version.payoutWallet, version.claimHash,
    version.claim, issuedAt, expiresAt, version.nonce, version.metadataHash, createdAt⟩

def mapRouteVersion (row : RouteVersionRow) : Except RegistryError RouteVersionRecord := do
  let claim ← parseReferralClaimJson runtime row.claimJson
  pure ⟨row.routeId, row.version, row.campaignVersionMin, row.payoutWallet, row.claimHash, claim,
    runtime.host.toISOString row.issuedAt, runtime.host.toISOString row.expiresAt, row.nonce,
    row.metadataHash, runtime.host.toISOString row.createdAt⟩

/-- What `updateRouteCurrentVersion` sets. -/
def currentVersionSet (route : RouteRecord) : Except RegistryError (RouteRow → RouteRow) := do
  let currentVersion ← integerColumn route.currentVersion
  let campaignVersionMin ← integerColumn route.campaignVersionMin
  let issuedAt ← timestamptzColumn runtime route.issuedAt
  let expiresAt ← timestamptzColumn runtime route.expiresAt
  pure fun row =>
    { row with
      currentVersion := currentVersion
      campaignVersionMin := campaignVersionMin
      payoutWallet := route.payoutWallet
      claimHash := route.claimHash
      claimJson := route.claim
      issuedAt := issuedAt
      expiresAt := expiresAt
      nonce := route.nonce
      metadataHash := route.metadataHash }

variable (db : RouteDb)

def insertRouteVersion (version : RouteVersionRecord) : RouteDb × Except CallError Unit :=
  match routeVersionRow runtime version with
  | .error error => (db, .error (.registry error))
  | .ok row =>
      -- claim_hash is unique, and so is (route_id, version)
      if db.routeVersions.rows.any (fun other => other.claimHash = row.claimHash) then
        (db, .error (.sql .uniqueViolation))
      else
        match db.routeVersions.insert? row with
        | none => (db, .error (.sql .uniqueViolation))
        | some routeVersions => ({ db with routeVersions := routeVersions }, .ok ())

/-- `update routes set … where id = $1 and current_version = $12`, whose value is the number before
the new one. -/
def updateRouteCurrentVersion (route : RouteRecord) :
    RouteDb × Except CallError (Option RouteRow) :=
  match currentVersionSet runtime route with
  | .error error => (db, .error (.registry error))
  | .ok set =>
      match (db.routes.find? route.id).filter
          (fun row => row.currentVersion + 1 = route.currentVersion) with
      | none => (db, .ok none)
      | some row =>
          if db.routes.rows.any
              (fun other => other.id ≠ route.id ∧ other.claimHash = route.claimHash) then
            (db, .error (.sql .uniqueViolation))
          else ({ db with routes := db.routes.upsert (set row) }, .ok (some (set row)))

end Rows

/-- `update routes set status = … where id = $1 and status = …`. -/
def updateStatus (db : RouteDb) (routeId : String) (source target : RouteStatus) :
    RouteDb × Option RouteRow :=
  match (db.routes.find? routeId).filter (fun row => row.status = source) with
  | none => (db, none)
  | some row =>
      ({ db with routes := db.routes.upsert (row.moved target) }, some (row.moved target))

end RouteDb

/-- `assertPostgresRouteRotation`. -/
def assertPostgresRouteRotation (existing validated : RouteRecord) : Except RegistryError Unit := do
  throwIf (validated.id ≠ existing.id) (.validation "rotated claim routeId must match route")
  throwIf (validated.campaignId ≠ existing.campaignId)
    (.validation "rotated claim campaignId must match route")
  throwIf (validated.campaignVersionMin ≠ existing.campaignVersionMin)
    (.validation "rotated claim campaignVersionMin must match route")
  throwIf (validated.referrerWallet ≠ existing.referrerWallet)
    (.validation "rotated claim referrerWallet must match route")
  throwIf (validated.resourceOrigin ≠ existing.resourceOrigin)
    (.validation "rotated claim resourceOrigin must match route")
  throwIf (validated.operationIds ≠ existing.operationIds)
    (.validation "rotated claim operationIds must match route")

/-! ## The calls -/

namespace RouteCalls

/-- What a call awaits. -/
inductive Op
  | getRoute (routeId : String)
  | getRouteVersionByClaimHash (claimHash : String)
  | insertRouteVersion (version : RouteVersionRecord)
  | updateRouteCurrentVersion (route : RouteRecord)
  | updateStatus (routeId : String) (source target : RouteStatus)

abbrev Op.Answer : Op → Type
  | .getRoute _ | .updateRouteCurrentVersion _ | .updateStatus _ _ _ => Option RouteRow
  | .getRouteVersionByClaimHash _ => Option RouteVersionRow
  | .insertRouteVersion _ => Unit

/-- What the database does and answers. -/
def serve (runtime : RegistryRuntime ν) (db : RouteDb) :
    (op : Op) → RouteDb × Except CallError op.Answer
  | .getRoute routeId => (db, .ok (db.routes.find? routeId))
  | .getRouteVersionByClaimHash claimHash =>
      (db, .ok (db.routeVersions.rows.find? (fun row => row.claimHash = claimHash)))
  | .insertRouteVersion version => db.insertRouteVersion runtime version
  | .updateRouteCurrentVersion route => db.updateRouteCurrentVersion runtime route
  | .updateStatus routeId source target =>
      let (db, row) := db.updateStatus routeId source target
      (db, .ok row)

abbrev Await (α : Type) : Type := Async Op Op.Answer CallError α

/-- What the checks of a call come to. -/
def check {α : Type} (result : Except RegistryError α) : Await α :=
  Async.ofExcept .registry result

/-- `mapRouteWriteError`. -/
def mapRouteWriteError : CallError → CallError
  | .sql .uniqueViolation => .registry (.conflict "route registry record already exists")
  | error => error

section Calls

variable (runtime : RegistryRuntime ν)

/-- `row === undefined ? undefined : mapRoute(row)`. -/
def mapRow (row : Option RouteRow) : Await (Option RouteRecord) :=
  check (row.mapM (RouteDb.mapRoute runtime))

def getRoute (routeId : String) : Await (Option RouteRecord) := do
  mapRow runtime (← Async.call (Op.getRoute routeId))

def getRouteVersionByClaimHash (claimHash : String) : Await (Option RouteVersionRecord) := do
  let row ← Async.call (Op.getRouteVersionByClaimHash claimHash)
  check (row.mapM (RouteDb.mapRouteVersion runtime))

/-- The route and its new version, after a rotation to a validated claim. -/
def rotatedTo (existing validated : RouteRecord) : RouteRecord :=
  { existing with
    currentVersion := existing.currentVersion + 1
    campaignVersionMin := validated.campaignVersionMin
    payoutWallet := validated.payoutWallet
    claimHash := validated.claimHash
    claim := validated.claim
    issuedAt := validated.issuedAt
    expiresAt := validated.expiresAt
    nonce := validated.nonce
    metadataHash := validated.metadataHash }

def versionOf (rotated : RouteRecord) (now : String) : RouteVersionRecord where
  routeId := rotated.id
  version := rotated.currentVersion
  campaignVersionMin := rotated.campaignVersionMin
  payoutWallet := rotated.payoutWallet
  claimHash := rotated.claimHash
  claim := rotated.claim
  issuedAt := rotated.issuedAt
  expiresAt := rotated.expiresAt
  nonce := rotated.nonce
  metadataHash := rotated.metadataHash
  createdAt := now

/-- The two writes of a rotation, in their order. -/
def writeRotation (rotated : RouteRecord) (now : String) : Await RouteRecord := do
  let () ← Async.call (Op.insertRouteVersion (versionOf rotated now))
  let row ← Async.call (Op.updateRouteCurrentVersion rotated)
  let updated ← mapRow runtime row
  pure (updated.getD rotated)

/-- The `catch` of a rotation. -/
def afterFailedWrite (rotated : RouteRecord) (error : CallError) : Await RouteRecord :=
  if error ≠ .sql .uniqueViolation then throw error
  else do
    let duplicate ← getRouteVersionByClaimHash runtime rotated.claimHash
    if duplicate.any (·.routeId = rotated.id) then
      match ← getRoute runtime rotated.id with
      | some current => pure current
      | none => throw (mapRouteWriteError error)
    else throw (mapRouteWriteError error)

/-- A rotation to a validated claim, when no version has its hash. -/
def rotateTo (env : CallEnv) (existing validated : RouteRecord) : Await RouteRecord := do
  match ← getRouteVersionByClaimHash runtime validated.claimHash with
  | some existingVersion =>
      check (throwIf (existingVersion.routeId ≠ existing.id) (.conflict
        s!"route claim already exists for another route: {existingVersion.routeId}"))
      pure existing
  | none =>
      let rotated := rotatedTo existing validated
      (writeRotation runtime rotated (runtime.host.toISOString env.clock)).tryCatch
        (afterFailedWrite runtime rotated)

/-- The rotation of a route that has been read. -/
def rotateRoute (env : CallEnv) (existing : RouteRecord) (claim : Option ReferralClaimV1) :
    Await RouteRecord := do
  check (throwIf (existing.status ≠ .active) (.validation
    ("route must be active to rotate payout; current status is " ++ existing.status.toString)))
  let (validated, _) ← check (RouteRegistry.empty.activateRoute runtime env claim)
  check (assertPostgresRouteRotation existing validated)
  rotateTo runtime env existing validated

def rotateRoutePayout (env : CallEnv) (routeId : String) (claim : Option ReferralClaimV1) :
    Await RouteRecord := do
  match ← getRoute runtime routeId with
  | none => throw (.registry (.validation s!"unknown route: {routeId}"))
  | some existing => rotateRoute runtime env existing claim

/-- `suspendRoute` and `resumeRoute`: from one status to the other; `verb` is what it is called. -/
def moveRoute (source target : RouteStatus) (verb routeId : String) :
    Await (Option RouteRecord) := do
  match ← getRoute runtime routeId with
  | none => pure none
  | some existing =>
      if existing.status = target then pure (some existing)
      else do
        check (throwIf (existing.status ≠ source) (.validation
          (s!"route must be {source.toString} to {verb}; current status is " ++
            existing.status.toString)))
        let row ← Async.call (Op.updateStatus routeId source target)
        match ← mapRow runtime row with
        | some moved => pure (some moved)
        | none =>
            match ← getRoute runtime routeId with
            | none => pure none
            | some current =>
                if current.status = target then pure (some current)
                else throw (.registry (.validation
                  (s!"route must be {source.toString} to {verb}; current status is " ++
                    current.status.toString)))

/-- What a call does. -/
def program (call : RouteCall) : Await (Option RouteRecord) :=
  match call.request with
  | .rotateRoutePayout routeId claim =>
      return some (← rotateRoutePayout runtime call.env routeId claim)
  | .suspendRoute routeId => moveRoute runtime .active .suspended "suspend" routeId
  | .resumeRoute routeId => moveRoute runtime .suspended .active "resume" routeId

/-- How a write of a rotation goes; other statements are answered or fail. -/
def fate (call : RouteCall) : Op → Option StatementFate
  | .insertRouteVersion _ => some call.insertion
  | .updateRouteCurrentVersion _ => some call.update
  | _ => none

def handle (call : RouteCall) (db : RouteDb) (op : Op) (db' : RouteDb)
    (answer : Except CallError op.Answer) : Prop :=
  match fate call op with
  | some fate => (db', answer) = fate.run db (serve runtime db op)
  | none => Attempt (serve runtime) CallError.IsFailure db op db' answer

/-- The calls under way and the tables. -/
abbrev Calls : Type := Pool RouteCall RouteDb Op Op.Answer CallError (Option RouteRecord)

abbrev CallEvent : Type := Pool.Event RouteCall Empty

end Calls

end RouteCalls

end Split402

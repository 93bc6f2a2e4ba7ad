import Split402.Registry.Campaigns
import Split402.Registry.Statements

/-! # Calls of the Postgres registry of campaigns

`PostgresCampaignRegistry`, from one await to the next. Each statement, and each transaction, is one
operation on the tables; between two of them other calls run. A statement may fail, before it has
run or after: a connection is lost, a key that is not among the merchant's is refused. -/

namespace Split402

open Base

variable {ν : Type}

/-! ## The tables -/

namespace CampaignRegistry

variable (db : CampaignRegistry ν)

/-- `update campaigns set … where id = $1`. -/
def updateCampaign (campaignId : String) (set : CampaignRecord → CampaignRecord) :
    CampaignRegistry ν :=
  match db.campaigns.find? campaignId with
  | none => db
  | some campaign => { db with campaigns := db.campaigns.upsert (set campaign) }

/-- `insertCampaignVersion`; `none` when a unique key is violated. The keys are
`(campaign_id, version)` and `(campaign_id, terms_hash)`. -/
def insertVersion (version : CampaignVersionRecord ν) : Option (CampaignRegistry ν) :=
  if db.versions.rows.any
      (fun row => row.campaignId = version.campaignId ∧ row.termsHash = version.termsHash) then
    none
  else (db.versions.insert? version).map (fun versions => { db with versions := versions })

/-- The transaction of `createCampaign`. -/
def commitCampaign (campaign : CampaignRecord) (version : CampaignVersionRecord ν) :
    Option (CampaignRegistry ν) := do
  let campaigns ← db.campaigns.insert? campaign
  { db with campaigns := campaigns }.insertVersion version

/-- What the transaction of `createCampaignVersion` sets. -/
def redraft (version : CampaignVersionRecord ν) (updatedAt : String) (campaign : CampaignRecord) :
    CampaignRecord :=
  { campaign with
    resourceOrigin := version.terms.resourceOrigin
    status := .draft
    currentVersion := version.version
    updatedAt := updatedAt }

/-- The transaction of `createCampaignVersion`. -/
def commitVersion (version : CampaignVersionRecord ν) (updatedAt : String) :
    Option (CampaignRegistry ν) := do
  let inserted ← db.insertVersion version
  pure (inserted.updateCampaign version.campaignId (redraft version updatedAt))

/-- The version that an activation signs: it has no signature yet. -/
def unsigned (campaignId : String) (version : Nat) : Option (CampaignVersionRecord ν) :=
  (db.versions.find? (campaignId, version)).filter
    (fun row => row.merchantKid = none ∧ row.merchantSignature = none ∧ row.activatedAt = none)

/-- The transaction of `activateCampaignVersion`, and whether it has signed the version. -/
def commitActivation (campaignId : String) (version : Nat)
    (merchantKid merchantSignature now : String) : CampaignRegistry ν × Bool :=
  match db.unsigned campaignId version with
  | none => (db, false)
  | some row =>
      ({ db with versions := db.versions.upsert (row.activated merchantKid merchantSignature now) }
        |>.updateCampaign campaignId (·.moved .active now), true)

/-- The statement of `updateCampaignStatus`, and whether it has updated the row. -/
def moveCampaign (campaignId : String) (current next : CampaignStatus) (now : String) :
    CampaignRegistry ν × Bool :=
  match (db.campaigns.find? campaignId).filter (fun campaign => campaign.status = current) with
  | none => (db, false)
  | some _ => (db.updateCampaign campaignId (·.moved next now), true)

end CampaignRegistry

/-! ## The calls -/

/-- A call, with what it sees of its clock and its random numbers. -/
inductive CampaignCall (ν : Type)
  | createCampaign (env : CallEnv) (input : CreateCampaignInput ν)
  | createCampaignVersion (env : CallEnv) (input : CreateCampaignVersionInput ν)
  | activateCampaignVersion (env : CallEnv) (input : ActivateCampaignVersionInput)
  | updateCampaignStatus (env : CallEnv) (campaignId : String) (status : CampaignStatusTransition)

/-- What a call returns. -/
inductive CampaignAnswer (ν : Type)
  | profile (profile : Option (CampaignProfile ν))
  | version (version : CampaignVersionRecord ν)

namespace CampaignCalls

/-- What a call awaits. -/
inductive Op (ν : Type)
  | loadCampaign (campaignId : String)
  | getCampaignVersion (campaignId : String) (version : Nat)
  | insertCampaign (campaign : CampaignRecord) (version : CampaignVersionRecord ν)
  | insertCampaignVersion (version : CampaignVersionRecord ν) (updatedAt : String)
  | activateCampaignVersion (campaignId : String) (version : Nat)
      (merchantKid merchantSignature now : String)
  | updateCampaignStatus (campaignId : String) (current next : CampaignStatus) (now : String)

abbrev Op.Answer : Op ν → Type
  | .loadCampaign _ => Option CampaignRecord
  | .getCampaignVersion _ _ => Option (CampaignVersionRecord ν)
  | .insertCampaign _ _ | .insertCampaignVersion _ _ => Unit
  | .activateCampaignVersion _ _ _ _ _ | .updateCampaignStatus _ _ _ _ => Bool

def committed (db : CampaignRegistry ν) :
    Option (CampaignRegistry ν) → CampaignRegistry ν × Except CallError Unit
  | none => (db, .error (.sql .uniqueViolation))
  | some committed => (committed, .ok ())

/-- What the database does and answers. -/
def serve (db : CampaignRegistry ν) : (op : Op ν) → CampaignRegistry ν × Except CallError op.Answer
  | .loadCampaign campaignId => (db, .ok (db.campaigns.find? campaignId))
  | .getCampaignVersion campaignId version => (db, .ok (db.versions.find? (campaignId, version)))
  | .insertCampaign campaign version => committed db (db.commitCampaign campaign version)
  | .insertCampaignVersion version updatedAt => committed db (db.commitVersion version updatedAt)
  | .activateCampaignVersion campaignId version merchantKid merchantSignature now =>
      let (db, activated) :=
        db.commitActivation campaignId version merchantKid merchantSignature now
      (db, .ok activated)
  | .updateCampaignStatus campaignId current next now =>
      let (db, updated) := db.moveCampaign campaignId current next now
      (db, .ok updated)

abbrev Await (ν α : Type) : Type := Async (Op ν) Op.Answer CallError α

/-- What the checks of a call come to. -/
def check {α : Type} (result : Except RegistryError α) : Await ν α :=
  Async.ofExcept .registry result

/-- `mapCampaignWriteError`. -/
def mapCampaignWriteError : CallError → CallError
  | .sql .uniqueViolation => .registry (.conflict "campaign registry record already exists")
  | error => error

/-- A transaction in `try { … } catch (error) { throw mapCampaignWriteError(error) }`. -/
def write (op : Op ν) : Await ν op.Answer := Async.callMapError mapCampaignWriteError op

def loadCampaign (campaignId : String) : Await ν (Option CampaignRecord) :=
  Async.call (Op.loadCampaign campaignId)

def getCampaignVersion (campaignId : String) (version : Nat) :
    Await ν (Option (CampaignVersionRecord ν)) := do
  let version ← check (Registry.assertPositiveVersion (.finite version))
  Async.call (Op.getCampaignVersion campaignId version)

def getCampaign (campaignId : String) : Await ν (Option (CampaignProfile ν)) := do
  match ← loadCampaign campaignId with
  | none => pure none
  | some campaign =>
      match ← getCampaignVersion campaign.id campaign.currentVersion with
      | none => throw (.registry (.other s!"missing current campaign version: {campaign.id}"))
      | some current => pure (some ⟨campaign, current⟩)

section Calls

variable (runtime : RegistryRuntime ν) (env : CallEnv)

def createCampaign (input : CreateCampaignInput ν) : Await ν (CampaignProfile ν) := do
  let now := CampaignRegistry.now runtime env
  let campaignId ← check
    (Registry.assertSplit402Id (input.id.getD ("cmp_" ++ env.randomHex 0)) "campaign id")
  let merchantId ← check (Registry.assertSplit402Id input.merchantId "merchant id")
  let version ← check
    (createCampaignVersionRecord runtime campaignId merchantId 1 input.toCampaignTermsInput now)
  let campaign : CampaignRecord :=
    ⟨campaignId, merchantId, version.terms.resourceOrigin, .draft, 1, now, now⟩
  let () ← write (.insertCampaign campaign version)
  pure ⟨campaign, version⟩

def createCampaignVersion (input : CreateCampaignVersionInput ν) :
    Await ν (CampaignVersionRecord ν) := do
  match ← loadCampaign input.campaignId with
  | none => throw (.registry (.validation s!"unknown campaign: {input.campaignId}"))
  | some campaign =>
      check (throwIf (campaign.status = .closed)
        (.validation "closed campaigns cannot be versioned"))
      let now := CampaignRegistry.now runtime env
      let version ← check (createCampaignVersionRecord runtime campaign.id campaign.merchantId
        (campaign.currentVersion + 1) input.toCampaignTermsInput now)
      let () ← write (.insertCampaignVersion version now)
      pure version

/-- What an activation returns when another one has signed the version first. -/
def activatedByAnother (campaignId merchantKid merchantSignature : String) :
    Await ν (CampaignProfile ν) := do
  match ← getCampaign campaignId with
  | none => throw (.registry (.other s!"missing campaign after activation race: {campaignId}"))
  | some latest =>
      if latest.current.merchantKid = some merchantKid ∧
          latest.current.merchantSignature = some merchantSignature then
        pure latest
      else
        throw (.registry
          (.conflict "campaign version is already activated with a different signature"))

/-- The activation of a version that has been read. -/
def activateVersion (input : ActivateCampaignVersionInput) (campaign : CampaignRecord)
    (versionNumber : Nat) (version : CampaignVersionRecord ν) : Await ν (CampaignProfile ν) := do
  let merchantKid ← check (Registry.assertNonEmptyString input.merchantKid "merchantKid")
  let merchantPublicKey ← check
    (Registry.assertBase58PublicKey input.merchantPublicKey "merchantPublicKey")
  let merchantSignature ← check
    (Registry.assertNonEmptyString input.merchantSignature "merchantSignature")
  if version.merchantKid.isSome ∨ version.merchantSignature.isSome then
    if version.merchantKid = some merchantKid ∧
        version.merchantSignature = some merchantSignature then
      pure ⟨campaign, version⟩
    else
      throw (.registry
        (.conflict "campaign version is already activated with a different signature"))
  else if !verifyCampaignTermsSignature runtime version.terms merchantPublicKey
      merchantSignature then
    throw (.registry (.validation "invalid campaign terms signature"))
  else
    let now := CampaignRegistry.now runtime env
    let activated ← write (.activateCampaignVersion campaign.id versionNumber merchantKid
      merchantSignature now)
    if activated then
      pure ⟨campaign.moved .active now, version.activated merchantKid merchantSignature now⟩
    else
      activatedByAnother campaign.id merchantKid merchantSignature

def activateCampaignVersion (input : ActivateCampaignVersionInput) :
    Await ν (CampaignProfile ν) := do
  match ← loadCampaign input.campaignId with
  | none => throw (.registry (.validation s!"unknown campaign: {input.campaignId}"))
  | some campaign =>
      check (throwIf (campaign.status = .closed)
        (.validation "closed campaigns cannot be activated"))
      let versionNumber ← check (CampaignRegistry.numberToActivate campaign input)
      check (throwIf (versionNumber ≠ campaign.currentVersion)
        (.validation "only the current campaign version can be activated"))
      match ← getCampaignVersion campaign.id versionNumber with
      | none =>
          throw (.registry
            (.validation s!"unknown campaign version: {campaign.id}:{versionNumber}"))
      | some version => activateVersion runtime env input campaign versionNumber version

def updateCampaignStatus (campaignId : String) (status : CampaignStatusTransition) :
    Await ν (Option (CampaignProfile ν)) := do
  match ← loadCampaign campaignId with
  | none => pure none
  | some campaign =>
      check (CampaignRegistry.assertCampaignStatusTransition campaign.status status)
      let updated ← Async.call (Op.updateCampaignStatus campaign.id campaign.status status.status
        (CampaignRegistry.now runtime env))
      if updated then getCampaign campaign.id
      else
        match ← loadCampaign campaignId with
        | none => pure none
        | some latest =>
            check (throwIf (latest.status ≠ status.status)
              (.conflict "campaign status changed concurrently; retry the transition"))
            getCampaign campaign.id

/-- What a call does. -/
def program : CampaignCall ν → Await ν (CampaignAnswer ν)
  | .createCampaign env input => return .profile (some (← createCampaign runtime env input))
  | .createCampaignVersion env input => return .version (← createCampaignVersion runtime env input)
  | .activateCampaignVersion env input =>
      return .profile (some (← activateCampaignVersion runtime env input))
  | .updateCampaignStatus env campaignId status =>
      return .profile (← updateCampaignStatus runtime env campaignId status)

end Calls

/-- A statement is answered or fails. -/
def handle (_ : CampaignCall ν) : CampaignRegistry ν → (op : Op ν) → CampaignRegistry ν →
    Except CallError op.Answer → Prop :=
  Attempt serve CallError.IsFailure

/-- The calls under way and the tables, which are empty when the first call starts. -/
def system (runtime : RegistryRuntime ν) :
    System (Pool (CampaignCall ν) (CampaignRegistry ν) (Op ν) Op.Answer CallError (CampaignAnswer ν))
      (Pool.Event (CampaignCall ν) Empty) :=
  Pool.system handle (fun _ x _ => nomatch x) (program runtime) (· = .empty)

end CampaignCalls

end Split402

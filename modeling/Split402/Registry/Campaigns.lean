import Split402.Base.Table
import Split402.Registry.Runtime

/-! # Campaigns

The in-memory registry of campaigns. A campaign has versions of its terms; a new version is a draft
and makes the campaign a draft, and only the current version can be activated, with the merchant's
signature of its terms. -/

namespace Split402

open Base (Table)
open Base.Utf16 (Text ofString)

variable {ν : Type}

inductive CampaignStatus
  | draft | active | paused | closed
  deriving DecidableEq, Repr

structure CampaignOperation (ν : Type) where
  operationId : String
  method : String
  pathTemplate : String
  /-- `undefined` is no schema. -/
  inputSchema : JsValue ν

/-- The terms, without the fields of a constant value. -/
structure CampaignTerms (ν : Type) where
  campaignId : String
  campaignVersion : Nat
  merchantId : String
  resourceOrigin : String
  operations : List (CampaignOperation ν)
  network : String
  asset : String
  requiredAmountAtomic : String
  payToWallet : String
  commissionBps : Nat
  protocolFeeBpsOfCommission : Nat
  attributionRequired : Bool
  allowSelfReferral : Bool
  payoutThresholdAtomic : String
  startsAt : String
  endsAt : Option String

structure CampaignVersionRecord (ν : Type) where
  campaignId : String
  version : Nat
  terms : CampaignTerms ν
  termsHash : String
  merchantKid : Option String
  merchantSignature : Option String
  activatedAt : Option String
  createdAt : String

structure CampaignRecord where
  id : String
  merchantId : String
  resourceOrigin : String
  status : CampaignStatus
  currentVersion : Nat
  createdAt : String
  updatedAt : String
  deriving DecidableEq, Repr

structure CampaignProfile (ν : Type) where
  campaign : CampaignRecord
  current : CampaignVersionRecord ν

/-- `commissionBase` is what the input says it is, when it says it. -/
structure CampaignTermsInput (ν : Type) where
  resourceOrigin : String
  operations : List (CampaignOperation ν)
  network : String
  asset : String
  requiredAmountAtomic : String
  payToWallet : String
  commissionBps : JsNumber
  protocolFeeBpsOfCommission : Option JsNumber
  protocolFeeBps : Option JsNumber
  commissionBase : Option String
  attributionRequired : Option Bool
  allowSelfReferral : Option Bool
  payoutThresholdAtomic : String
  startsAt : String
  endsAt : Option String

structure CreateCampaignInput (ν : Type) extends CampaignTermsInput ν where
  id : Option String
  merchantId : String

structure CreateCampaignVersionInput (ν : Type) extends CampaignTermsInput ν where
  campaignId : String

structure ActivateCampaignVersionInput where
  campaignId : String
  version : Option JsNumber
  merchantKid : String
  merchantPublicKey : String
  merchantSignature : String

/-- A status a campaign can be moved to. -/
inductive CampaignStatusTransition
  | active | paused | closed
  deriving DecidableEq, Repr

def CampaignStatusTransition.status : CampaignStatusTransition → CampaignStatus
  | .active => .active
  | .paused => .paused
  | .closed => .closed

/-! ## Terms -/

def CampaignOperation.toJson (operation : CampaignOperation ν) : JsValue ν :=
  .object true
    [stringField "operationId" operation.operationId,
      stringField "method" operation.method,
      stringField "pathTemplate" operation.pathTemplate,
      (ofString "inputSchema", operation.inputSchema)]

def CampaignTerms.toJson (ofNat : Nat → ν) (terms : CampaignTerms ν) : JsValue ν :=
  .object true
    [stringField "protocolVersion" "0.1",
      stringField "campaignId" terms.campaignId,
      (ofString "campaignVersion", .number (ofNat terms.campaignVersion)),
      stringField "merchantId" terms.merchantId,
      stringField "resourceOrigin" terms.resourceOrigin,
      (ofString "operations", .array (terms.operations.map CampaignOperation.toJson)),
      stringField "network" terms.network,
      stringField "asset" terms.asset,
      stringField "requiredAmountAtomic" terms.requiredAmountAtomic,
      stringField "payToWallet" terms.payToWallet,
      (ofString "commissionBps", .number (ofNat terms.commissionBps)),
      (ofString "protocolFeeBpsOfCommission", .number (ofNat terms.protocolFeeBpsOfCommission)),
      stringField "commissionBase" "required_amount",
      stringField "settlementMode" "accrual",
      boolField "attributionRequired" terms.attributionRequired,
      boolField "allowSelfReferral" terms.allowSelfReferral,
      stringField "payoutThresholdAtomic" terms.payoutThresholdAtomic,
      stringField "startsAt" terms.startsAt,
      (ofString "endsAt", (terms.endsAt.map (fun endsAt => .string (ofString endsAt))).getD .null)]

section Terms

variable (runtime : RegistryRuntime ν)

def buildCampaignTermsSigningBytes (terms : CampaignTerms ν) : Except String ByteArray :=
  buildDomainSeparatedSigningBytes runtime.numbers (ofString "split402:campaign-terms:v1")
    (terms.toJson runtime.ofNat)

def verifyCampaignTermsSignature (terms : CampaignTerms ν)
    (merchantPublicKey merchantSignature : String) : Bool :=
  let verified := do
    let message ← buildCampaignTermsSigningBytes runtime terms
    verifyEd25519Signature runtime.toRuntime message merchantPublicKey merchantSignature
  match verified with
  | .ok verified => verified
  | .error _ => false

/-- `/^[A-Z]+$/` of the upper case. -/
def assertHttpMethod (value : String) : Except RegistryError String := do
  let value ← Registry.assertNonEmptyString value "method"
  let method := runtime.toUpperCase value
  assertThat (!method.toList.isEmpty && method.toList.all (fun c => 'A' ≤ c && c ≤ 'Z')) method
    "method must be an HTTP method"

def assertPathTemplate (value : String) : Except RegistryError String := do
  let value ← assertThat (value.toList.head? == some '/') value "pathTemplate must start with /"
  Registry.assertNonEmptyString value "pathTemplate"

/-- `seen` are the operations before. -/
def assertCampaignOperation (seen : List String) (operation : CampaignOperation ν) :
    Except RegistryError (CampaignOperation ν) := do
  let operationId ← Registry.assertNonEmptyString operation.operationId "operationId"
  throwIf (operationId ∈ seen) (.validation "operationId values must be unique")
  let method ← assertHttpMethod runtime operation.method
  let pathTemplate ← assertPathTemplate operation.pathTemplate
  pure ⟨operationId, method, pathTemplate, operation.inputSchema⟩

def assertCampaignOperations (operations : List (CampaignOperation ν)) :
    Except RegistryError (List (CampaignOperation ν)) := do
  throwIf operations.isEmpty (.validation "operations must be a non-empty array")
  operations.zipIdx.mapM (fun entry => assertCampaignOperation runtime
    ((operations.take entry.2).map (·.operationId)) entry.1)

def readProtocolFeeBpsOfCommission (input : CampaignTermsInput ν) : Except RegistryError Nat := do
  let canonical ← input.protocolFeeBpsOfCommission.mapM
    (Registry.assertBasisPoints · "protocolFeeBpsOfCommission")
  let deprecated ← input.protocolFeeBps.mapM (Registry.assertBasisPoints · "protocolFeeBps")
  throwIf (canonical.isSome ∧ deprecated.isSome ∧ canonical ≠ deprecated)
    (.validation "protocolFeeBps and protocolFeeBpsOfCommission must match when both are provided")
  pure ((canonical.orElse fun _ => deprecated).getD 0)

def assertChronologicalRange (startsAt : String) (endsAt : Option String) :
    Except RegistryError Unit :=
  if endsAt.any (Registry.parsesNotAfter runtime · startsAt) then
    throw (.validation "endsAt must be after startsAt")
  else pure ()

def createCampaignVersionRecord (campaignId merchantId : String) (version : Nat)
    (input : CampaignTermsInput ν) (createdAt : String) :
    Except RegistryError (CampaignVersionRecord ν) := do
  let resourceOrigin ← Registry.assertUrlOrigin runtime input.resourceOrigin "resourceOrigin"
  let operations ← assertCampaignOperations runtime input.operations
  let network ← Registry.assertNonEmptyString input.network "network"
  let asset ← Registry.assertBase58PublicKey input.asset "asset"
  let requiredAmountAtomic ←
    Registry.assertAtomicAmount input.requiredAmountAtomic "requiredAmountAtomic"
  let payToWallet ← Registry.assertBase58PublicKey input.payToWallet "payToWallet"
  let commissionBps ← Registry.assertBasisPoints input.commissionBps "commissionBps"
  let protocolFeeBpsOfCommission ← readProtocolFeeBpsOfCommission input
  let payoutThresholdAtomic ←
    Registry.assertAtomicAmount input.payoutThresholdAtomic "payoutThresholdAtomic"
  let startsAt ← Registry.assertUtcTimestamp runtime input.startsAt "startsAt"
  let endsAt ← input.endsAt.mapM (Registry.assertUtcTimestamp runtime · "endsAt")
  let terms : CampaignTerms ν :=
    { campaignId := campaignId
      campaignVersion := version
      merchantId := merchantId
      resourceOrigin := resourceOrigin
      operations := operations
      network := network
      asset := asset
      requiredAmountAtomic := requiredAmountAtomic
      payToWallet := payToWallet
      commissionBps := commissionBps
      protocolFeeBpsOfCommission := protocolFeeBpsOfCommission
      attributionRequired := input.attributionRequired.getD false
      allowSelfReferral := input.allowSelfReferral.getD false
      payoutThresholdAtomic := payoutThresholdAtomic
      startsAt := startsAt
      endsAt := endsAt }
  throwIf (input.commissionBase.any (· ≠ "required_amount"))
    (.validation "commissionBase must be required_amount")
  assertChronologicalRange runtime terms.startsAt terms.endsAt
  let termsHash ← ofProtocolError
    (hashProtocolObject runtime.numbers runtime.sha256Hex (terms.toJson runtime.ofNat))
  let _ ← ofProtocolError (buildCampaignTermsSigningBytes runtime terms)
  pure ⟨campaignId, version, terms, termsHash, none, none, none, createdAt⟩

end Terms

/-! ## The registry -/

/-- The key of a version. -/
def CampaignVersionRecord.key (record : CampaignVersionRecord ν) : String × Nat :=
  (record.campaignId, record.version)

/-- The campaign with a new version, which is a draft. -/
def CampaignRecord.drafted (campaign : CampaignRecord) (version : CampaignVersionRecord ν)
    (updatedAt : String) : CampaignRecord :=
  { campaign with
    resourceOrigin := version.terms.resourceOrigin
    status := .draft
    currentVersion := campaign.currentVersion + 1
    updatedAt := updatedAt }

/-- The campaign in another status. -/
def CampaignRecord.moved (campaign : CampaignRecord) (status : CampaignStatus)
    (updatedAt : String) : CampaignRecord :=
  { campaign with status := status, updatedAt := updatedAt }

/-- The version with the merchant's signature. -/
def CampaignVersionRecord.activated (version : CampaignVersionRecord ν)
    (merchantKid merchantSignature activatedAt : String) : CampaignVersionRecord ν :=
  { version with
    merchantKid := some merchantKid
    merchantSignature := some merchantSignature
    activatedAt := some activatedAt }

structure CampaignRegistry (ν : Type) where
  campaigns : Table CampaignRecord.id
  versions : Table (CampaignVersionRecord.key (ν := ν))

namespace CampaignRegistry

def empty : CampaignRegistry ν := ⟨.empty, .empty⟩

variable (runtime : RegistryRuntime ν)

/-- `new Date().toISOString()`. -/
def now (env : CallEnv) : String := runtime.host.toISOString env.clock

variable (registry : CampaignRegistry ν)

def profile (campaign : CampaignRecord) : Except RegistryError (CampaignProfile ν) :=
  match registry.versions.find? (campaign.id, campaign.currentVersion) with
  | none => throw (.other s!"missing current campaign version: {campaign.id}")
  | some current => pure ⟨campaign, current⟩

def getCampaign (campaignId : String) : Except RegistryError (Option (CampaignProfile ν)) :=
  (registry.campaigns.find? campaignId).mapM registry.profile

def getCampaignVersion (campaignId : String) (version : JsNumber) :
    Except RegistryError (Option (CampaignVersionRecord ν)) := do
  let version ← Registry.assertPositiveVersion version
  pure (registry.versions.find? (campaignId, version))

def createCampaign (env : CallEnv) (input : CreateCampaignInput ν) :
    Except RegistryError (CampaignProfile ν × CampaignRegistry ν) := do
  let campaignId ←
    Registry.assertSplit402Id (input.id.getD ("cmp_" ++ env.randomHex 0)) "campaign id"
  throwIf (registry.campaigns.has campaignId)
    (.conflict s!"campaign already exists: {campaignId}")
  let merchantId ← Registry.assertSplit402Id input.merchantId "merchant id"
  let resourceOrigin ← Registry.assertUrlOrigin runtime input.resourceOrigin "resourceOrigin"
  let campaign : CampaignRecord :=
    ⟨campaignId, merchantId, resourceOrigin, .draft, 1, now runtime env, now runtime env⟩
  let version ← createCampaignVersionRecord runtime campaign.id campaign.merchantId 1
    input.toCampaignTermsInput (now runtime env)
  -- the map of a campaign's versions is a new one
  pure (⟨campaign, version⟩,
    { campaigns := registry.campaigns.upsert campaign
      versions := (registry.versions.filter (·.campaignId ≠ campaign.id)).upsert version })

def createCampaignVersion (env : CallEnv) (input : CreateCampaignVersionInput ν) :
    Except RegistryError (CampaignVersionRecord ν × CampaignRegistry ν) :=
  match registry.campaigns.find? input.campaignId with
  | none => throw (.validation s!"unknown campaign: {input.campaignId}")
  | some campaign => do
      throwIf (campaign.status = .closed) (.validation "closed campaigns cannot be versioned")
      let nextVersion := campaign.currentVersion + 1
      let version ← createCampaignVersionRecord runtime campaign.id campaign.merchantId nextVersion
        input.toCampaignTermsInput (now runtime env)
      throwIf ((registry.versions.filter (·.campaignId = campaign.id)).rows.any
        (·.termsHash = version.termsHash)) (.conflict "campaign terms already exist")
      pure (version,
        { campaigns := registry.campaigns.upsert (campaign.drafted version (now runtime env))
          versions := registry.versions.upsert version })

/-- `PostgresCampaignRegistry.createCampaignVersion`, when no other call comes between: the version
is inserted under its keys and the row of the campaign is updated. -/
def createCampaignVersionPostgres (env : CallEnv) (input : CreateCampaignVersionInput ν) :
    Except RegistryError (CampaignVersionRecord ν × CampaignRegistry ν) :=
  match registry.campaigns.find? input.campaignId with
  | none => throw (.validation s!"unknown campaign: {input.campaignId}")
  | some campaign => do
      throwIf (campaign.status = .closed) (.validation "closed campaigns cannot be versioned")
      let nextVersion := campaign.currentVersion + 1
      let version ← createCampaignVersionRecord runtime campaign.id campaign.merchantId nextVersion
        input.toCampaignTermsInput (now runtime env)
      -- unique (campaign_id, terms_hash)
      throwIf (registry.versions.rows.any
        (fun row => row.campaignId = version.campaignId ∧ row.termsHash = version.termsHash))
        (.conflict "campaign registry record already exists")
      match registry.versions.insert? version with
      | none => throw (.conflict "campaign registry record already exists")
      | some versions =>
          pure (version,
            { campaigns := registry.campaigns.upsert (campaign.drafted version (now runtime env))
              versions := versions })

/-- `input.version ?? campaign.currentVersion`, when it is a version number. -/
def numberToActivate (campaign : CampaignRecord) (input : ActivateCampaignVersionInput) :
    Except RegistryError Nat :=
  Registry.assertPositiveVersion (input.version.getD (.finite campaign.currentVersion))

/-- The version of the campaign that an activation names. -/
def versionToActivate (campaign : CampaignRecord) (input : ActivateCampaignVersionInput) :
    Except RegistryError (CampaignVersionRecord ν) := do
  let versionNumber ← numberToActivate campaign input
  throwIf (versionNumber ≠ campaign.currentVersion)
    (.validation "only the current campaign version can be activated")
  match registry.versions.find? (campaign.id, versionNumber) with
  | none => throw (.validation s!"unknown campaign version: {input.campaignId}:{versionNumber}")
  | some version => pure version

def activateCampaignVersion (env : CallEnv) (input : ActivateCampaignVersionInput) :
    Except RegistryError (CampaignProfile ν × CampaignRegistry ν) :=
  match registry.campaigns.find? input.campaignId with
  | none => throw (.validation s!"unknown campaign: {input.campaignId}")
  | some campaign => do
      throwIf (campaign.status = .closed) (.validation "closed campaigns cannot be activated")
      let version ← registry.versionToActivate campaign input
      let merchantKid ← Registry.assertNonEmptyString input.merchantKid "merchantKid"
      let merchantPublicKey ←
        Registry.assertBase58PublicKey input.merchantPublicKey "merchantPublicKey"
      let merchantSignature ←
        Registry.assertNonEmptyString input.merchantSignature "merchantSignature"
      if version.merchantKid.isSome ∨ version.merchantSignature.isSome then
        if version.merchantKid = some merchantKid ∧
            version.merchantSignature = some merchantSignature then
          pure (⟨campaign, version⟩, registry)
        else
          throw (.conflict "campaign version is already activated with a different signature")
      else if !verifyCampaignTermsSignature runtime version.terms merchantPublicKey
          merchantSignature then
        throw (.validation "invalid campaign terms signature")
      else
        let activatedVersion := version.activated merchantKid merchantSignature (now runtime env)
        let activatedCampaign := campaign.moved .active (now runtime env)
        pure (⟨activatedCampaign, activatedVersion⟩,
          { campaigns := registry.campaigns.upsert activatedCampaign
            versions := registry.versions.upsert activatedVersion })

def assertCampaignStatusTransition (current : CampaignStatus) :
    CampaignStatusTransition → Except RegistryError Unit
  | .closed => pure ()
  | .paused =>
      throwIf (current ≠ .active) (.validation "only active campaigns can be paused")
  | .active =>
      throwIf (current ≠ .paused) (.validation ("only paused campaigns can be resumed; " ++
        "activate a signed campaign version instead"))

def updateCampaignStatus (env : CallEnv) (campaignId : String)
    (status : CampaignStatusTransition) :
    Except RegistryError (Option (CampaignProfile ν) × CampaignRegistry ν) :=
  match registry.campaigns.find? campaignId with
  | none => pure (none, registry)
  | some campaign => do
      assertCampaignStatusTransition campaign.status status
      let updated :=
        { registry with
          campaigns := registry.campaigns.upsert (campaign.moved status.status (now runtime env)) }
      let profile ← updated.getCampaign campaign.id
      pure (profile, updated)

end CampaignRegistry

end Split402

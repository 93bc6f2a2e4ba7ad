import Split402.Base.Run
import Split402.Registry.Merchants
import Split402.Registry.PostgresRoutes

/-! # The stores of merchants

The operations that change the registry of merchants, in memory and in Postgres: merchants, their
origins, keys and payout wallets come to the registry and change their status, and keys are revoked.
Both stores make the same checks of their inputs; of a record they hold what the operations and the
policy of receipts read. -/

namespace Split402

open Base

variable {ν : Type}

inductive MerchantPayoutWalletStatus
  | active | paused | retired
  deriving DecidableEq, Repr

structure MerchantPayoutWalletRecord where
  id : String
  merchantId : String
  network : String
  wallet : String
  asset : String
  signerReference : String
  status : MerchantPayoutWalletStatus
  deriving DecidableEq, Repr

/-! ## Inputs -/

structure CreateMerchantInput where
  id : Option String
  slug : String
  displayName : String
  ownerWallet : String
  status : Option MerchantStatus

structure AddMerchantOriginInput where
  merchantId : String
  origin : String
  status : Option MerchantOriginStatus
  verifiedAt : Option String

structure AddMerchantKeyInput where
  merchantId : String
  kid : String
  publicKey : String
  purpose : Option MerchantKeyPurpose
  validFrom : Option String
  validUntil : Option String

structure AddMerchantPayoutWalletInput where
  id : Option String
  merchantId : String
  network : String
  wallet : String
  asset : String
  signerReference : String
  status : Option MerchantPayoutWalletStatus

structure RevokeMerchantKeyInput where
  merchantId : String
  kid : String
  revokedAt : Option String
  reason : Option String

/-- The operations, each with what it sees of the outside. -/
inductive MerchantCall
  | createMerchant (env : CallEnv) (input : CreateMerchantInput)
  | addOrigin (env : CallEnv) (input : AddMerchantOriginInput)
  | addKey (env : CallEnv) (input : AddMerchantKeyInput)
  | addPayoutWallet (env : CallEnv) (input : AddMerchantPayoutWalletInput)
  | revokeKey (env : CallEnv) (input : RevokeMerchantKeyInput)
  | updateMerchantStatus (merchantId : String) (status : MerchantStatus)
  | updateOriginStatus (env : CallEnv) (merchantId origin : String) (status : MerchantOriginStatus)
      (verifiedAt : Option String)
  | updatePayoutWalletStatus (merchantId payoutWalletId : String)
      (status : MerchantPayoutWalletStatus)

/-! ## Checks -/

/-- `/^[a-z0-9][a-z0-9-]{2,62}$/u`. -/
def isMerchantSlug (value : String) : Bool :=
  let isPlain := fun c : Char => ('a' ≤ c && c ≤ 'z') || ('0' ≤ c && c ≤ '9')
  match value.toList with
  | [] => false
  | first :: rest =>
      isPlain first && rest.all (fun c => isPlain c || c == '-') && 2 ≤ rest.length &&
        rest.length ≤ 62

def assertMerchantSlug (value : String) : Except RegistryError String :=
  assertThat (isMerchantSlug value) value "slug must be 3-63 lowercase URL-safe characters"

/-- A merchant cannot go back to `pending`. -/
def assertMerchantStatusTransition (status : MerchantStatus) : Except RegistryError Unit :=
  throwIf (status = .pending)
    (.validation "merchant status transition must be active, suspended, or closed")

def assertMerchantOriginStatusTransition (status : MerchantOriginStatus) :
    Except RegistryError Unit :=
  throwIf (status = .pending)
    (.validation "origin status transition must be verified, failed, or revoked")

def assertPayoutWalletStatusTransition (current next : MerchantPayoutWalletStatus) :
    Except RegistryError Unit :=
  throwIf (current = .retired ∧ next ≠ .retired)
    (.conflict "retired merchant payout wallets cannot be reactivated")

section Checks

variable (runtime : RegistryRuntime ν) (env : CallEnv)

def merchantNow : String := runtime.host.toISOString env.clock

/-- The timestamp, when it is a UTC timestamp. -/
def checkTimestamp (value : String) : Except RegistryError String :=
  (fun _ => value) <$> MerchantRegistry.assertUtcTimestamp runtime value

def checkOrigin (input : AddMerchantOriginInput) : Except RegistryError MerchantOriginRecord := do
  let origin ← assertThat (runtime.isHttpOrigin input.origin) input.origin
    "origin must be an http(s) URL origin"
  let _ ← Registry.assertOptional (checkTimestamp runtime) input.verifiedAt
  pure ⟨input.merchantId, origin, input.status.getD .pending⟩

def checkKey (input : AddMerchantKeyInput) : Except RegistryError MerchantKeyRecord := do
  let kid ← Registry.assertNonEmptyString input.kid "kid"
  let publicKey ← Registry.assertBase58PublicKey input.publicKey "publicKey"
  let validUntil ← Registry.assertOptional (checkTimestamp runtime) input.validUntil
  let validFrom ← checkTimestamp runtime (input.validFrom.getD (merchantNow runtime env))
  throwIf (validUntil.any (fun validUntil => Registry.parsesNotAfter runtime validUntil validFrom))
    (.validation "validUntil must be after validFrom")
  pure ⟨input.merchantId, kid, publicKey, input.purpose.getD .offerReceipt, validFrom, validUntil,
    none⟩

def checkPayoutWallet (input : AddMerchantPayoutWalletInput) :
    Except RegistryError MerchantPayoutWalletRecord := do
  let id ← Registry.assertSplit402Id (input.id.getD ("mpw_" ++ env.randomHex 0))
    "merchant payout wallet id"
  let network ← Registry.assertNonEmptyString input.network "network"
  let wallet ← Registry.assertBase58PublicKey input.wallet "wallet"
  let asset ← Registry.assertBase58PublicKey input.asset "asset"
  let signerReference ← Registry.assertNonEmptyString input.signerReference "signerReference"
  pure ⟨id, input.merchantId, network, wallet, asset, signerReference, input.status.getD .active⟩

/-- `readOriginVerifiedAt`. -/
def readOriginVerifiedAt (status : MerchantOriginStatus) (verifiedAt : Option String) :
    Except RegistryError (Option String) :=
  if status ≠ .verified then pure none
  else some <$> checkTimestamp runtime (verifiedAt.getD (merchantNow runtime env))

end Checks

/-! ## In memory -/

/-- `merchantIdBySlug`. -/
structure MerchantSlugEntry where
  slug : String
  merchantId : String
  deriving DecidableEq, Repr

structure MerchantStore where
  registry : MerchantRegistry
  merchantIdBySlug : Table MerchantSlugEntry.slug
  payoutWalletsById : Table MerchantPayoutWalletRecord.id

namespace MerchantStore

def empty : MerchantStore := ⟨.empty, .empty, .empty⟩

variable (runtime : RegistryRuntime ν) (store : MerchantStore)

def assertMerchantExists (merchantId : String) : Except RegistryError Unit :=
  throwIf (!store.registry.merchants.has merchantId)
    (.validation s!"unknown merchant: {merchantId}")

def createMerchant (env : CallEnv) (input : CreateMerchantInput) :
    Except RegistryError MerchantStore := do
  let slug ← assertMerchantSlug input.slug
  let _ ← Registry.assertNonEmptyString input.displayName "displayName"
  let ownerWallet ← Registry.assertBase58PublicKey input.ownerWallet "ownerWallet"
  let id ← Registry.assertSplit402Id (input.id.getD ("mrc_" ++ env.randomHex 0)) "merchant id"
  throwIf (store.registry.merchants.has id) (.conflict s!"merchant already exists: {id}")
  throwIf (store.merchantIdBySlug.has slug) (.conflict s!"merchant slug already exists: {slug}")
  pure { store with
    registry := { store.registry with
      merchants := store.registry.merchants.upsert ⟨id, ownerWallet, input.status.getD .pending⟩ }
    merchantIdBySlug := store.merchantIdBySlug.upsert ⟨slug, id⟩ }

def addOrigin (input : AddMerchantOriginInput) : Except RegistryError MerchantStore := do
  store.assertMerchantExists input.merchantId
  let origin ← checkOrigin runtime input
  throwIf (store.registry.origins.has origin.key)
    (.conflict s!"merchant origin already exists: {origin.origin}")
  pure { store with
    registry := { store.registry with origins := store.registry.origins.upsert origin } }

def addKey (env : CallEnv) (input : AddMerchantKeyInput) : Except RegistryError MerchantStore := do
  store.assertMerchantExists input.merchantId
  let key ← checkKey runtime env input
  throwIf (store.registry.keysByKid.has key.kid)
    (.conflict s!"merchant key already exists: {key.kid}")
  pure { store with
    registry := { store.registry with keysByKid := store.registry.keysByKid.upsert key } }

def addPayoutWallet (env : CallEnv) (input : AddMerchantPayoutWalletInput) :
    Except RegistryError MerchantStore := do
  store.assertMerchantExists input.merchantId
  let wallet ← checkPayoutWallet env input
  throwIf (store.payoutWalletsById.has wallet.id)
    (.conflict s!"merchant payout wallet already exists: {wallet.id}")
  throwIf (store.payoutWalletsById.rows.any (fun existing =>
      existing.merchantId = wallet.merchantId ∧ existing.network = wallet.network ∧
        existing.wallet = wallet.wallet ∧ existing.asset = wallet.asset))
    (.conflict "merchant payout wallet already exists for network, wallet, and asset")
  pure { store with payoutWalletsById := store.payoutWalletsById.upsert wallet }

/-- The key after a revocation; the time of an earlier one is written over. -/
def revoked (key : MerchantKeyRecord) (revokedAt : String) : MerchantKeyRecord :=
  { key with revokedAt := some revokedAt }

def revokeKey (env : CallEnv) (input : RevokeMerchantKeyInput) :
    Except RegistryError MerchantStore :=
  match (store.registry.keysByKid.find? input.kid).filter
      (fun key => key.merchantId = input.merchantId) with
  | none => pure store
  | some existing => do
      let _ ← Registry.assertOptional (Registry.assertNonEmptyString · "reason") input.reason
      let revokedAt ← checkTimestamp runtime (input.revokedAt.getD (merchantNow runtime env))
      pure { store with
        registry := { store.registry with
          keysByKid := store.registry.keysByKid.upsert (revoked existing revokedAt) } }

def updateMerchantStatus (merchantId : String) (status : MerchantStatus) :
    Except RegistryError MerchantStore := do
  assertMerchantStatusTransition status
  match store.registry.merchants.find? merchantId with
  | none => pure store
  | some existing => pure { store with
      registry := { store.registry with
        merchants := store.registry.merchants.upsert { existing with status := status } } }

def updateOriginStatus (env : CallEnv) (merchantId origin : String) (status : MerchantOriginStatus)
    (verifiedAt : Option String) : Except RegistryError MerchantStore := do
  assertMerchantOriginStatusTransition status
  match store.registry.origins.find? (merchantId, origin) with
  | none => pure store
  | some existing => do
      let _ ← readOriginVerifiedAt runtime env status verifiedAt
      pure { store with
        registry := { store.registry with
          origins := store.registry.origins.upsert { existing with status := status } } }

def updatePayoutWalletStatus (merchantId payoutWalletId : String)
    (status : MerchantPayoutWalletStatus) : Except RegistryError MerchantStore :=
  match (store.payoutWalletsById.find? payoutWalletId).filter
      (fun wallet => wallet.merchantId = merchantId) with
  | none => pure store
  | some existing => do
      assertPayoutWalletStatusTransition existing.status status
      pure { store with
        payoutWalletsById := store.payoutWalletsById.upsert { existing with status := status } }

/-- The store after a call, when it returns. -/
def apply : MerchantCall → Except RegistryError MerchantStore
  | .createMerchant env input => store.createMerchant env input
  | .addOrigin _ input => store.addOrigin runtime input
  | .addKey env input => store.addKey runtime env input
  | .addPayoutWallet env input => store.addPayoutWallet env input
  | .revokeKey env input => store.revokeKey runtime env input
  | .updateMerchantStatus merchantId status => store.updateMerchantStatus merchantId status
  | .updateOriginStatus env merchantId origin status verifiedAt =>
      store.updateOriginStatus runtime env merchantId origin status verifiedAt
  | .updatePayoutWalletStatus merchantId payoutWalletId status =>
      store.updatePayoutWalletStatus merchantId payoutWalletId status

/-- The store after a call; one that throws leaves it as it is. -/
def after (call : MerchantCall) : MerchantStore :=
  match store.apply runtime call with
  | .ok store' => store'
  | .error _ => store

/-- The runs of the store. -/
def system : System MerchantStore MerchantCall where
  init store := store = empty
  step store call store' := store' = store.after runtime call

end MerchantStore

/-! ## In Postgres -/

structure MerchantRow where
  id : String
  slug : String
  ownerWallet : String
  status : MerchantStatus
  deriving DecidableEq, Repr

structure MerchantKeyRow where
  merchantId : String
  kid : String
  publicKey : String
  purpose : MerchantKeyPurpose
  validFrom : Int
  validUntil : Option Int
  revokedAt : Option Int
  deriving DecidableEq, Repr

structure MerchantDb where
  merchants : Table MerchantRow.id
  merchantOrigins : Table MerchantOriginRecord.key
  merchantKeys : Table MerchantKeyRow.kid
  merchantPayoutWallets : Table MerchantPayoutWalletRecord.id

namespace MerchantDb

def empty : MerchantDb := ⟨.empty, .empty, .empty, .empty⟩

/-- Insert a row; `unique` says that no other unique constraint is violated. -/
def insertRow {ρ κ : Type} [DecidableEq κ] {key : ρ → κ} (table : Table key) (row : ρ)
    (unique : Bool) : Except RegistryError (Table key) :=
  match (table.insert? row).filter (fun _ => unique) with
  | none => throw (.conflict "merchant registry record already exists")
  | some table => pure table

variable (runtime : RegistryRuntime ν) (db : MerchantDb)

def optionalTimestamptz (value : Option String) : Except RegistryError (Option Int) :=
  match value with
  | none => pure none
  | some value => some <$> RouteDb.timestamptzColumn runtime value

def assertMerchantExists (merchantId : String) : Except RegistryError Unit :=
  throwIf (!db.merchants.has merchantId) (.validation s!"unknown merchant: {merchantId}")

def createMerchant (env : CallEnv) (input : CreateMerchantInput) :
    Except RegistryError MerchantDb := do
  let id ← Registry.assertSplit402Id (input.id.getD ("mrc_" ++ env.randomHex 0)) "merchant id"
  let slug ← assertMerchantSlug input.slug
  let _ ← Registry.assertNonEmptyString input.displayName "displayName"
  let ownerWallet ← Registry.assertBase58PublicKey input.ownerWallet "ownerWallet"
  let _ ← RouteDb.timestamptzColumn runtime (merchantNow runtime env)
  let merchants ← insertRow db.merchants ⟨id, slug, ownerWallet, input.status.getD .pending⟩
    (!db.merchants.rows.any (·.slug = slug))
  pure { db with merchants := merchants }

def addOrigin (env : CallEnv) (input : AddMerchantOriginInput) : Except RegistryError MerchantDb := do
  db.assertMerchantExists input.merchantId
  let origin ← checkOrigin runtime input
  let _ ← optionalTimestamptz runtime input.verifiedAt
  let _ ← RouteDb.timestamptzColumn runtime (merchantNow runtime env)
  let merchantOrigins ← insertRow db.merchantOrigins origin true
  pure { db with merchantOrigins := merchantOrigins }

def addKey (env : CallEnv) (input : AddMerchantKeyInput) : Except RegistryError MerchantDb := do
  db.assertMerchantExists input.merchantId
  let key ← checkKey runtime env input
  let validFrom ← RouteDb.timestamptzColumn runtime key.validFrom
  let validUntil ← optionalTimestamptz runtime key.validUntil
  let _ ← RouteDb.timestamptzColumn runtime (merchantNow runtime env)
  let merchantKeys ← insertRow db.merchantKeys
    ⟨key.merchantId, key.kid, key.publicKey, key.purpose, validFrom, validUntil, none⟩ true
  pure { db with merchantKeys := merchantKeys }

def addPayoutWallet (env : CallEnv) (input : AddMerchantPayoutWalletInput) :
    Except RegistryError MerchantDb := do
  db.assertMerchantExists input.merchantId
  let wallet ← checkPayoutWallet env input
  let _ ← RouteDb.timestamptzColumn runtime (merchantNow runtime env)
  let merchantPayoutWallets ← insertRow db.merchantPayoutWallets wallet
    (!db.merchantPayoutWallets.rows.any (fun existing =>
      existing.merchantId = wallet.merchantId ∧ existing.network = wallet.network ∧
        existing.wallet = wallet.wallet ∧ existing.asset = wallet.asset))
  pure { db with merchantPayoutWallets := merchantPayoutWallets }

/-- The update writes over the time of an earlier revocation. -/
def revoked (merchantId : String) (revokedAt : Int) (row : MerchantKeyRow) : MerchantKeyRow :=
  if row.merchantId = merchantId then { row with revokedAt := some revokedAt } else row

def revokeKey (env : CallEnv) (input : RevokeMerchantKeyInput) : Except RegistryError MerchantDb := do
  let revokedAt ← checkTimestamp runtime (input.revokedAt.getD (merchantNow runtime env))
  let _ ← Registry.assertOptional (Registry.assertNonEmptyString · "reason") input.reason
  let revokedAt ← RouteDb.timestamptzColumn runtime revokedAt
  match db.merchantKeys.find? input.kid with
  | none => pure db
  | some row => pure { db with
      merchantKeys := db.merchantKeys.upsert (revoked input.merchantId revokedAt row) }

def updateMerchantStatus (merchantId : String) (status : MerchantStatus) :
    Except RegistryError MerchantDb := do
  assertMerchantStatusTransition status
  match db.merchants.find? merchantId with
  | none => pure db
  | some row => pure { db with merchants := db.merchants.upsert { row with status := status } }

def updateOriginStatus (env : CallEnv) (merchantId origin : String) (status : MerchantOriginStatus)
    (verifiedAt : Option String) : Except RegistryError MerchantDb := do
  assertMerchantOriginStatusTransition status
  let verifiedAt ← readOriginVerifiedAt runtime env status verifiedAt
  let _ ← optionalTimestamptz runtime verifiedAt
  match db.merchantOrigins.find? (merchantId, origin) with
  | none => pure db
  | some row => pure { db with
      merchantOrigins := db.merchantOrigins.upsert { row with status := status } }

def updatePayoutWalletStatus (merchantId payoutWalletId : String)
    (status : MerchantPayoutWalletStatus) : Except RegistryError MerchantDb :=
  match (db.merchantPayoutWallets.find? payoutWalletId).filter
      (fun wallet => wallet.merchantId = merchantId) with
  | none => pure db
  | some existing => do
      assertPayoutWalletStatusTransition existing.status status
      pure { db with merchantPayoutWallets :=
        db.merchantPayoutWallets.upsert { existing with status := status } }

/-- The database after a call, when it returns. -/
def apply : MerchantCall → Except RegistryError MerchantDb
  | .createMerchant env input => db.createMerchant runtime env input
  | .addOrigin env input => db.addOrigin runtime env input
  | .addKey env input => db.addKey runtime env input
  | .addPayoutWallet env input => db.addPayoutWallet runtime env input
  | .revokeKey env input => db.revokeKey runtime env input
  | .updateMerchantStatus merchantId status => db.updateMerchantStatus merchantId status
  | .updateOriginStatus env merchantId origin status verifiedAt =>
      db.updateOriginStatus runtime env merchantId origin status verifiedAt
  | .updatePayoutWalletStatus merchantId payoutWalletId status =>
      db.updatePayoutWalletStatus merchantId payoutWalletId status

/-- The database after a call; one that throws leaves it as it is. -/
def after (call : MerchantCall) : MerchantDb :=
  match db.apply runtime call with
  | .ok db' => db'
  | .error _ => db

/-- The runs of the database. -/
def system : System MerchantDb MerchantCall where
  init db := db = empty
  step db call db' := db' = db.after runtime call

/-- `valid_from <= at`, and neither `valid_until` nor `revoked_at` has come. -/
def isValidAt (row : MerchantKeyRow) (at' : Int) : Bool :=
  row.validFrom ≤ at' && row.validUntil.all (at' < ·) && row.revokedAt.all (at' < ·)

def mapMerchantKey (row : MerchantKeyRow) : MerchantKeyRecord :=
  ⟨row.merchantId, row.kid, row.publicKey, row.purpose, runtime.host.toISOString row.validFrom,
    row.validUntil.map runtime.host.toISOString, row.revokedAt.map runtime.host.toISOString⟩

def resolveKey (merchantId kid : String) (purpose : MerchantKeyPurpose) (at' : String) :
    Except RegistryError (Option MerchantKeyRecord) := do
  let checked ← checkTimestamp runtime at'
  let time ← RouteDb.timestamptzColumn runtime checked
  pure (((db.merchantKeys.find? kid).filter (fun row =>
    row.merchantId = merchantId ∧ row.purpose = purpose ∧ isValidAt row time = true)).map
      (mapMerchantKey runtime))

end MerchantDb

end Split402

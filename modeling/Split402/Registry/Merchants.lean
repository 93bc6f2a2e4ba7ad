import Split402.Base.Table
import Split402.Registry.Runtime

/-! # Merchants

What the registry of merchants answers about a merchant: its profile and its keys. A key is valid
from one time to another, and not after it is revoked. -/

namespace Split402

open Base (Table)

variable {ν : Type}

inductive MerchantStatus
  | pending | active | suspended | closed
  deriving DecidableEq, Repr

inductive MerchantOriginStatus
  | pending | verified | failed | revoked
  deriving DecidableEq, Repr

inductive MerchantKeyPurpose
  | offerReceipt | webhook
  deriving DecidableEq, Repr

structure MerchantRecord where
  id : String
  ownerWallet : String
  status : MerchantStatus
  deriving DecidableEq, Repr

structure MerchantOriginRecord where
  merchantId : String
  origin : String
  status : MerchantOriginStatus
  deriving DecidableEq, Repr

structure MerchantKeyRecord where
  merchantId : String
  kid : String
  publicKey : String
  purpose : MerchantKeyPurpose
  validFrom : String
  validUntil : Option String
  revokedAt : Option String
  deriving DecidableEq, Repr

structure MerchantProfile where
  merchant : MerchantRecord
  origins : List MerchantOriginRecord
  deriving DecidableEq, Repr

/-- The key of an origin. -/
def MerchantOriginRecord.key (record : MerchantOriginRecord) : String × String :=
  (record.merchantId, record.origin)

structure MerchantRegistry where
  merchants : Table MerchantRecord.id
  origins : Table MerchantOriginRecord.key
  keysByKid : Table MerchantKeyRecord.kid

namespace MerchantRegistry

def empty : MerchantRegistry := ⟨.empty, .empty, .empty⟩

section Keys

variable (runtime : RegistryRuntime ν)

/-- The timestamp's time, when it is a UTC timestamp. -/
def assertUtcTimestamp (value : String) : Except RegistryError Int :=
  match (runtime.host.dateParse value).filter (fun _ => value.toList.getLast? = some 'Z') with
  | none => throw (.validation "timestamp must be UTC RFC3339")
  | some time => pure time

/-- `Date.parse(timestamp) <= atTime`, which is false of what does not parse. -/
def hasPassed (timestamp : String) (atTime : Int) : Bool :=
  (runtime.host.dateParse timestamp).any (· ≤ atTime)

def isKeyValidAt (key : MerchantKeyRecord) (at' : String) : Except RegistryError Bool := do
  let atTime ← assertUtcTimestamp runtime at'
  if (runtime.host.dateParse key.validFrom).any (atTime < ·) then pure false
  else if key.validUntil.any (hasPassed runtime · atTime) then pure false
  else if key.revokedAt.any (hasPassed runtime · atTime) then pure false
  else pure true

end Keys

variable (registry : MerchantRegistry)

def getMerchantProfile (merchantId : String) : Option MerchantProfile :=
  (registry.merchants.find? merchantId).map fun merchant =>
    ⟨merchant, registry.origins.rows.filter (·.merchantId = merchantId)⟩

def resolveKey (runtime : RegistryRuntime ν) (merchantId kid : String)
    (purpose : MerchantKeyPurpose) (at' : String) :
    Except RegistryError (Option MerchantKeyRecord) :=
  match (registry.keysByKid.find? kid).filter
      (fun key => key.merchantId = merchantId ∧ key.purpose = purpose) with
  | none => pure none
  | some key => do
      let valid ← isKeyValidAt runtime key at'
      pure (if valid then some key else none)

end MerchantRegistry

end Split402

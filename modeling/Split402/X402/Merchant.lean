import Split402.Base.Log
import Split402.X402.Settlement

/-! # A merchant's payments

One extension serves any number of payments. Its hooks read and write the stored attributions in one
go, so a run of the merchant is a sequence of verifications and settlements in any order, of any
payments. The log beside the extension says what was let through and which receipts were issued; the
extension does not read it. -/

namespace Split402

open Base

variable {ν : Type}

/-- What the key provider and the campaigns are when a hook is called. -/
structure MerchantSources where
  serviceKeyProvider : Split402ServiceKeyProvider
  resolveCampaign : Split402RouteDeclaration → Except String Split402CampaignConfig

def Split402ServerExtensionOptions.withSources (options : Split402ServerExtensionOptions)
    (sources : MerchantSources) : Split402ServerExtensionOptions :=
  { options with
    serviceKeyProvider := sources.serviceKeyProvider
    resolveCampaign := sources.resolveCampaign }

structure MerchantVerify (ν : Type) where
  sources : MerchantSources
  declaration : Option RouteDeclarationRecord
  context : VerifyContext ν
  now : Int

structure MerchantSettle where
  sources : MerchantSources
  declaration : Option RouteDeclarationRecord
  context : SettleResultContext
  call : ServerCall

inductive MerchantEvent (ν : Type)
  | letThrough (verify : MerchantVerify ν) (attribution : ValidatedSplit402Attribution)
  | issued (settle : MerchantSettle) (receipt : Split402ReceiptV1)

structure Merchant (ν : Type) where
  server : Split402ResourceServer
  log : List (MerchantEvent ν)

inductive PaymentCall (ν : Type)
  | verify (verify : MerchantVerify ν)
  | settle (settle : MerchantSettle)

namespace Merchant

variable (runtime : X402Runtime ν) (options : Split402ServerExtensionOptions)

def letThroughEvents (verify : MerchantVerify ν) : BeforeVerify → List (MerchantEvent ν)
  | .abort _ _ => []
  | .proceed attribution => [.letThrough verify attribution]

def verify (merchant : Merchant ν) (verify : MerchantVerify ν) : Except String (Merchant ν) := do
  let stored ← merchant.server.beforeVerify runtime (options.withSources verify.sources)
    verify.declaration verify.context verify.now
  pure ⟨stored.2, letThroughEvents verify stored.1 ++ merchant.log⟩

def settle (merchant : Merchant ν) (settle : MerchantSettle) : Except String (Merchant ν) := do
  let receipt ← merchant.server.enrichSettlementResponse runtime
    (options.withSources settle.sources) settle.declaration settle.context settle.call
  pure ⟨merchant.server, (receipt.map (.issued settle)).toList ++ merchant.log⟩

def next (merchant : Merchant ν) : PaymentCall ν → Except String (Merchant ν)
  | .verify call => merchant.verify runtime options call
  | .settle call => merchant.settle runtime options call

/-- A hook that throws leaves everything as it was. -/
def system : System (Merchant ν) (PaymentCall ν) where
  init merchant := merchant = ⟨⟨Table.empty⟩, []⟩
  step merchant call merchant' := merchant.next runtime options call = .ok merchant'

end Merchant

end Split402

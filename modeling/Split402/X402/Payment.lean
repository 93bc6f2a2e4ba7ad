import Split402.Host
import Split402.Protocol.Offers
import Split402.Protocol.Operation

/-! # Payments

The parts of an x402 exchange that the extension reads: what a merchant requires, what a payment
carries in its extension, and the HTTP request as the merchant's server sees it. A value of the wire
is here as the schema library reads it: `none` is what has not the shape of an offer, of a claim or
of an object. -/

namespace Split402

/-- The engine and the schema library, as client and server use them: strings in upper case, the
path of a URL (`none` when it does not parse), Ed25519 signatures of a private seed, and the
messages of the schemas' issues. -/
structure X402Runtime (ν : Type) extends Runtime ν where
  host : Host
  zod : Zod
  toUpperCase : String → String
  urlPathname : String → Option String
  nodeSign : List UInt8 → ByteArray → List UInt8
  offerIssues : Option Split402OfferV1 → List String
  claimIssues : Option ReferralClaimV1 → List String

structure PaymentRequirements where
  network : String
  asset : String
  amount : String
  payTo : String
  deriving DecidableEq, Repr

/-- `extensions.split402.info` of a payment. `referralClaim` is `none` when it is `undefined`. -/
structure AttributionInfo where
  offer : Option Split402OfferV1
  paymentId : Option String
  requestDigest : Option String
  referralClaim : Option (Option ReferralClaimV1)

/-- A payment: what pays, the method its resource names, and its extension. -/
structure PaymentPayload where
  payment : String
  resourceMethod : Option String
  extension : Option AttributionInfo

/-- What a client is asked for: the URL of the resource and the advertised offer. -/
structure PaymentRequired where
  resourceUrl : Option String
  extension : Option (Option Split402OfferV1)

/-- A request as the adapter of the server has it. -/
structure HttpRequest (ν : Type) where
  method : String
  path : String
  routePattern : Option String
  query : JsValue ν
  body : JsValue ν

def asRecord {α : Type} (value : Option α) : Except String α :=
  match value with
  | none => throw "expected object"
  | some record => pure record

end Split402

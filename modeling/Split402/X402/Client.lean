import Split402.X402.Payment

/-! # The buyer

What the agent SDK sends for a paid request, and how the client extension binds the payment to it. -/

namespace Split402

variable {ν : Type}

inductive Split402HttpMethod
  | GET | POST
  deriving DecidableEq, Repr

def Split402HttpMethod.toString : Split402HttpMethod → String
  | .GET => "GET"
  | .POST => "POST"

/-- Fields that are not there are `undefined`. `paymentId` is what the factory answers. -/
structure PaidJsonRequestInput (ν : Type) where
  method : Split402HttpMethod
  path : String
  body : JsValue ν
  referralClaim : Option ReferralClaimV1
  pathTemplate : Option String
  pathParams : JsValue ν
  query : JsValue ν
  paymentId : Option String

structure Split402ClientExtensionOptions (ν : Type) where
  referralClaim : Option ReferralClaimV1
  body : JsValue ν
  pathTemplate : Option String
  pathParams : JsValue ν
  query : JsValue ν
  paymentId : Option String

def split402ExtensionOptions (input : PaidJsonRequestInput ν) :
    Split402ClientExtensionOptions ν where
  body := input.body
  pathTemplate := some (input.pathTemplate.getD input.path)
  referralClaim := input.referralClaim
  pathParams := input.pathParams
  query := input.query
  paymentId := input.paymentId

/-- The body axios sends: `get` has none. -/
def PaidJsonRequestInput.sentBody (input : PaidJsonRequestInput ν) : JsValue ν :=
  match input.method with
  | .GET => .undefined
  | .POST => input.body

def inferMethod (paymentPayload : PaymentPayload) : String :=
  paymentPayload.resourceMethod.getD "POST"

variable (runtime : X402Runtime ν)

def inferPath (paymentRequired : PaymentRequired) : String :=
  match paymentRequired.resourceUrl with
  | none => "/"
  | some resourceUrl => (runtime.urlPathname resourceUrl).getD resourceUrl

/-- `Split402OfferV1Schema.parse`. -/
def parseAdvertisedOffer (info : Option Split402OfferV1) : Except String Split402OfferV1 :=
  match info.filter (split402OfferV1Schema runtime.zod) with
  | none => throw ("; ".intercalate (runtime.offerIssues info))
  | some offer => pure offer

/-- The digest input of the client extension. -/
def clientDigestInput (options : Split402ClientExtensionOptions ν) (paymentPayload : PaymentPayload)
    (paymentRequired : PaymentRequired) (offer : Split402OfferV1) (paymentId : String) :
    CalculateOperationDigestInput ν where
  merchantId := offer.merchantId
  operationId := offer.operationId
  method := inferMethod paymentPayload
  pathTemplate := options.pathTemplate.getD (inferPath runtime paymentRequired)
  paymentId := paymentId
  offerNonce := offer.offerNonce
  pathParams := options.pathParams
  query := options.query
  body := options.body

/-- `randomHex` are the random bytes of an id that no factory makes. -/
def enrichPaymentPayload (options : Split402ClientExtensionOptions ν) (randomHex : String)
    (paymentPayload : PaymentPayload) (paymentRequired : PaymentRequired) :
    Except String PaymentPayload := do
  let info ← asRecord paymentRequired.extension
  let offer ← parseAdvertisedOffer runtime info
  let paymentId := options.paymentId.getD ("pay_" ++ randomHex)
  let requestDigest ← calculateOperationDigest runtime.toRuntime runtime.toUpperCase
    (clientDigestInput runtime options paymentPayload paymentRequired offer paymentId)
  pure { paymentPayload with
    extension := some
      { offer := some offer
        paymentId := some paymentId
        requestDigest := some requestDigest
        referralClaim := options.referralClaim.map some } }

end Split402

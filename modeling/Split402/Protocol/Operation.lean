import Split402.Protocol.Signing

/-! # Operation digests

What a payment is bound to: the operation of a merchant with the method, the path template, the path
parameters, the query and the body of the request, the payment id and the nonce of the offer. -/

namespace Split402

open Base.Utf16 (Text ofString)

variable {ν : Type}

/-- `value ?? otherwise`. -/
def JsValue.orElse (value otherwise : JsValue ν) : JsValue ν :=
  match value with
  | .undefined | .null => otherwise
  | value => value

/-- Fields that are not there are `undefined`. -/
structure CalculateOperationDigestInput (ν : Type) where
  merchantId : String
  operationId : String
  method : String
  pathTemplate : String
  pathParams : JsValue ν
  query : JsValue ν
  body : JsValue ν
  paymentId : String
  offerNonce : String

/-- The entries of the operation object. `toUpperCase` is the method of strings. -/
def CalculateOperationDigestInput.fields (toUpperCase : String → String)
    (input : CalculateOperationDigestInput ν) : List (Text × JsValue ν) :=
  [stringField "version" "split402-operation-v1",
    stringField "merchantId" input.merchantId,
    stringField "operationId" input.operationId,
    stringField "method" (toUpperCase input.method),
    stringField "pathTemplate" input.pathTemplate,
    (ofString "pathParams", input.pathParams.orElse (.object true [])),
    (ofString "query", input.query.orElse (.object true [])),
    (ofString "body", input.body.orElse .null),
    stringField "paymentId" input.paymentId,
    stringField "offerNonce" input.offerNonce]

def buildOperationObject (toUpperCase : String → String)
    (input : CalculateOperationDigestInput ν) : JsValue ν :=
  .object true (input.fields toUpperCase)

def calculateOperationDigest (runtime : Runtime ν) (toUpperCase : String → String)
    (input : CalculateOperationDigestInput ν) : Except String String :=
  hashProtocolObject runtime.numbers runtime.sha256Hex (buildOperationObject toUpperCase input)

end Split402

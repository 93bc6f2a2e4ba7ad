import Split402.Payouts.Checks
import Split402.Protocol.Canonical
import Split402.Protocol.Encoding

/-! # Receipts as JSON

The schema of a receipt, as the checks its fields pass, and the object that is hashed and signed.
The schema library's own notions of a URL and of a timestamp are a `Zod`. -/

namespace Split402

open Base.Utf16 (Text ofString)

/-! ## Formats -/

def isLowerHex (c : Char) : Bool := ('0' ≤ c && c ≤ '9') || ('a' ≤ c && c ≤ 'f')

/-- `/^sha256:[0-9a-f]{64}$/`. -/
def sha256Regex (value : String) : Bool :=
  match value.toList with
  | 's' :: 'h' :: 'a' :: '2' :: '5' :: '6' :: ':' :: rest =>
      rest.length == 64 && rest.all isLowerHex
  | _ => false

/-- `/^[1-9A-HJ-NP-Za-km-z]{32,88}$/`. -/
def base58Regex (value : String) : Bool :=
  let chars := value.toList
  32 ≤ chars.length && chars.length ≤ 88 && chars.all (· ∈ base58Alphabet)

/-- `/^0x[0-9a-fA-F]{40}$/`. -/
def evmAddressRegex (value : String) : Bool :=
  match value.toList with
  | '0' :: 'x' :: rest =>
      rest.length == 40 && rest.all (fun c => isLowerHex c || ('A' ≤ c && c ≤ 'F'))
  | _ => false

/-- `/^[A-Za-z0-9_-]+$/`. -/
def base64UrlRegex (value : String) : Bool :=
  !value.toList.isEmpty && value.toList.all isBase64UrlChar

/-- `/^(0|[1-9][0-9]*)$/`. -/
def decimalAmountRegex (value : String) : Bool := (parseAtomicAmount value).isSome

def paymentIdentifierSchema (value : String) : Bool := base58Regex value || evmAddressRegex value

/-- `z.string().url()` and `z.string().datetime({ offset: false })`. -/
structure Zod where
  isUrl : String → Bool
  isDatetime : String → Bool

def rfc3339UtcSchema (zod : Zod) (value : String) : Bool :=
  zod.isDatetime value && value.toList.getLast? == some 'Z'

/-! ## Receipts -/

/-- The route fields appear together or not at all. -/
def Split402ReceiptV1.routeFieldsAgree (receipt : Split402ReceiptV1) : Bool :=
  let routeFields :=
    [receipt.routeId, receipt.referralClaimHash, receipt.referrerWallet, receipt.payoutWallet]
  !(routeFields.any Option.isSome && !routeFields.all Option.isSome)

/-- The checks on the fields of a receipt. -/
def split402ReceiptV1Schema (zod : Zod) (receipt : Split402ReceiptV1) : Bool :=
  isSplit402Id receipt.receiptId && isSplit402Id receipt.merchantId &&
    zod.isUrl receipt.merchantOrigin && receipt.operationId != "" &&
    sha256Regex receipt.requestDigest && isSplit402Id receipt.campaignId &&
    decide (0 < receipt.campaignVersion) &&
    -- `.int()` admits the safe integers only
    decide (receipt.campaignVersion ≤ 9007199254740991) && sha256Regex receipt.campaignTermsHash &&
    receipt.routeId.all isSplit402Id && receipt.referralClaimHash.all sha256Regex &&
    receipt.referrerWallet.all base58Regex && receipt.payoutWallet.all base58Regex &&
    isSplit402Id receipt.paymentId && receipt.network != "" &&
    paymentIdentifierSchema receipt.asset && paymentIdentifierSchema receipt.payerWallet &&
    paymentIdentifierSchema receipt.payToWallet &&
    decimalAmountRegex receipt.requiredAmountAtomic &&
    receipt.settledAmountAtomic.all decimalAmountRegex && receipt.settlementTxSignature != "" &&
    decide (receipt.commissionBps ≤ 10000) && decide (receipt.protocolFeeBpsOfCommission ≤ 10000) &&
    decimalAmountRegex receipt.commissionBaseAtomic &&
    decimalAmountRegex receipt.commissionAmountAtomic &&
    decimalAmountRegex receipt.protocolFeeAtomic && decimalAmountRegex receipt.referrerCreditAtomic &&
    isSplit402Id receipt.offerNonce && rfc3339UtcSchema zod receipt.settledAt &&
    rfc3339UtcSchema zod receipt.issuedAt && receipt.eventId.all isSplit402Id &&
    receipt.kid != "" && base64UrlRegex receipt.signature && receipt.routeFieldsAgree

/-! ## The receipt as an object -/

variable {ν : Type}

def stringField (name value : String) : Text × JsValue ν :=
  (ofString name, .string (ofString value))

/-- An optional field; one that is not there is `undefined`. -/
def optionalField (name : String) (value : Option String) : Text × JsValue ν :=
  (ofString name, (value.map (fun value => .string (ofString value))).getD .undefined)

/-- The entries of an object of the protocol without its signature, in the schema's order.
`ofNat` is a whole number as the engine's. -/
def Split402ReceiptV1.unsignedFields (ofNat : Nat → ν) (receipt : Split402ReceiptV1) :
    List (Text × JsValue ν) :=
  [stringField "protocolVersion" "0.1",
    stringField "receiptId" receipt.receiptId,
    stringField "merchantId" receipt.merchantId,
    stringField "merchantOrigin" receipt.merchantOrigin,
    stringField "operationId" receipt.operationId,
    stringField "requestDigest" receipt.requestDigest,
    stringField "campaignId" receipt.campaignId,
    (ofString "campaignVersion", .number (ofNat receipt.campaignVersion)),
    stringField "campaignTermsHash" receipt.campaignTermsHash,
    optionalField "routeId" receipt.routeId,
    optionalField "referralClaimHash" receipt.referralClaimHash,
    optionalField "referrerWallet" receipt.referrerWallet,
    optionalField "payoutWallet" receipt.payoutWallet,
    stringField "paymentId" receipt.paymentId,
    stringField "network" receipt.network,
    stringField "asset" receipt.asset,
    stringField "payerWallet" receipt.payerWallet,
    stringField "payToWallet" receipt.payToWallet,
    stringField "requiredAmountAtomic" receipt.requiredAmountAtomic,
    optionalField "settledAmountAtomic" receipt.settledAmountAtomic,
    stringField "settlementTxSignature" receipt.settlementTxSignature,
    (ofString "commissionBps", .number (ofNat receipt.commissionBps)),
    (ofString "protocolFeeBpsOfCommission", .number (ofNat receipt.protocolFeeBpsOfCommission)),
    stringField "commissionBaseAtomic" receipt.commissionBaseAtomic,
    stringField "commissionAmountAtomic" receipt.commissionAmountAtomic,
    stringField "protocolFeeAtomic" receipt.protocolFeeAtomic,
    stringField "referrerCreditAtomic" receipt.referrerCreditAtomic,
    stringField "settlementMode" "accrual",
    stringField "offerNonce" receipt.offerNonce,
    stringField "settledAt" receipt.settledAt,
    stringField "issuedAt" receipt.issuedAt,
    stringField "recordingStatus" (if receipt.recordingAccepted then "accepted" else "deferred"),
    optionalField "eventId" receipt.eventId,
    stringField "kid" receipt.kid]

def Split402ReceiptV1.toJson (ofNat : Nat → ν) (receipt : Split402ReceiptV1) : JsValue ν :=
  .object true (receipt.unsignedFields ofNat ++ [stringField "signature" receipt.signature])

/-- A copy of an object without some of its keys. -/
def omitKeys (keys : List String) : JsValue ν → JsValue ν
  | .object _ fields => .object true (fields.filter (fun field => field.1 ∉ keys.map ofString))
  | value => value

end Split402

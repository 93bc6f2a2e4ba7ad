import Split402.Protocol.Schemas

/-! # Signatures

A signature covers the canonical bytes of an object without its signature, under a domain that names
the purpose. The key is written in base58 and the signature in base64url; what cannot be decoded
does not verify. -/

namespace Split402

open Base.Utf16 (ofString)

variable {ν : Type}

/-- The engine: its numbers, a whole number as one of them, the lowercase hexadecimal SHA-256 digest
and the Ed25519 check of a raw key, a message and a raw signature. -/
structure Runtime (ν : Type) where
  numbers : JsNumbers ν
  ofNat : Nat → ν
  sha256Hex : ByteArray → String
  nodeVerify : List UInt8 → ByteArray → List UInt8 → Bool

structure ProtocolVerificationResult where
  ok : Bool
  errors : List String
  deriving DecidableEq, Repr

/-- `{ ok: errors.length === 0, errors }`. -/
def resultOf (errors : List String) : ProtocolVerificationResult := ⟨errors.isEmpty, errors⟩

variable (runtime : Runtime ν)

def hashReceipt (receipt : Split402ReceiptV1) : Except String String :=
  hashProtocolObject runtime.numbers runtime.sha256Hex (receipt.toJson runtime.ofNat)

def buildReceiptSigningBytes (receipt : Split402ReceiptV1) : Except String ByteArray :=
  buildDomainSeparatedSigningBytes runtime.numbers (ofString "split402:receipt:v1")
    (omitKeys ["signature"] (receipt.toJson runtime.ofNat))

def verifyEd25519Signature (message : ByteArray) (publicKeyBase58 signatureBase64Url : String) :
    Except String Bool := do
  let publicKeyBytes ← base58Decode publicKeyBase58
  let signatureBytes ← base64UrlDecode signatureBase64Url
  assertByteLength publicKeyBytes 32 "Ed25519 public key"
  assertByteLength signatureBytes 64 "Ed25519 signature"
  pure (runtime.nodeVerify publicKeyBytes message signatureBytes)

def safeVerify (message : ByteArray) (publicKey signature : String) : Bool :=
  match verifyEd25519Signature runtime message publicKey signature with
  | .ok verified => verified
  | .error _ => false

def verifySplit402ReceiptSignature (receipt : Split402ReceiptV1) (merchantPublicKey : String) :
    Except String ProtocolVerificationResult := do
  let message ← buildReceiptSigningBytes runtime receipt
  pure (if safeVerify runtime message merchantPublicKey receipt.signature then ⟨true, []⟩
    else ⟨false, ["invalid receipt signature"]⟩)

end Split402

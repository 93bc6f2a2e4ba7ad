import Split402.Protocol.Signing

/-! # Verification of receipts

A receipt is verified by its signature and its arithmetic: the commission is the floor of a share of
the required amount, the protocol fee the floor of a share of the commission, and the referrer is
credited with the rest. -/

namespace Split402

structure CommissionBreakdown where
  commission : Int
  protocolFee : Int
  referrerCredit : Int
  deriving DecidableEq, Repr

/-- Division of `BigInt`s rounds towards zero. -/
def calculateCommission (requiredAmountAtomic commissionBps protocolFeeBpsOfCommission : Int) :
    Except String CommissionBreakdown :=
  if requiredAmountAtomic < 0 then throw "negative amount"
  else if commissionBps < 0 ∨ commissionBps > 10000 then throw "invalid commission bps"
  else if protocolFeeBpsOfCommission < 0 ∨ protocolFeeBpsOfCommission > 10000 then
    throw "invalid protocol fee bps"
  else
    let commission := (requiredAmountAtomic * commissionBps).tdiv 10000
    let protocolFee := (commission * protocolFeeBpsOfCommission).tdiv 10000
    pure ⟨commission, protocolFee, commission - protocolFee⟩

/-- An atomic amount, or the error the protocol throws. -/
def atomicAmount (value : String) : Except String Nat :=
  match parseAtomicAmount value with
  | none => throw "atomic amount must be a non-negative decimal string"
  | some amount => pure amount

def verifyReceiptArithmetic (receipt : Split402ReceiptV1) :
    Except String ProtocolVerificationResult := do
  let requiredAmount ← atomicAmount receipt.requiredAmountAtomic
  let commissionBase ← atomicAmount receipt.commissionBaseAtomic
  let commissionAmount ← atomicAmount receipt.commissionAmountAtomic
  let protocolFee ← atomicAmount receipt.protocolFeeAtomic
  let referrerCredit ← atomicAmount receipt.referrerCreditAtomic
  let expected ← calculateCommission requiredAmount receipt.commissionBps
    receipt.protocolFeeBpsOfCommission
  pure (resultOf (
    (if commissionBase ≠ requiredAmount then
      ["commissionBaseAtomic must equal requiredAmountAtomic in v0.1"] else []) ++
    (if (commissionAmount : Int) ≠ expected.commission then
      ["commissionAmountAtomic does not match commissionBps"] else []) ++
    (if (protocolFee : Int) ≠ expected.protocolFee then
      ["protocolFeeAtomic does not match protocol fee policy"] else []) ++
    (if (referrerCredit : Int) ≠ expected.referrerCredit then
      ["referrerCreditAtomic does not match commission minus protocol fee"] else [])))

variable {ν : Type} (runtime : Runtime ν)

def verifySplit402ReceiptObject (receipt : Split402ReceiptV1) (merchantPublicKey : String) :
    Except String ProtocolVerificationResult := do
  let signature ← verifySplit402ReceiptSignature runtime receipt merchantPublicKey
  let arithmetic ← verifyReceiptArithmetic receipt
  pure (resultOf (signature.errors ++ arithmetic.errors))

/-- `issues` are the messages of the schema library for what it does not admit; what has not the
shape of a receipt is `none`. -/
def verifySplit402Receipt (zod : Zod) (issues : Option Split402ReceiptV1 → List String)
    (value : Option Split402ReceiptV1) (merchantPublicKey : String) :
    Except String ProtocolVerificationResult :=
  match value.filter (split402ReceiptV1Schema zod) with
  | none => pure ⟨false, issues value⟩
  | some receipt => verifySplit402ReceiptObject runtime receipt merchantPublicKey

end Split402

import Split402.Base.Radix
import Split402.Protocol.Encoding

/-! # Writing base58

The inverse of `base58Decode`, and the address that the settlement provider reads off a message. -/

namespace Split402

/-- The loops of one byte: multiply the number, low digit first, by 256 and add the carry, then push
what is left of the carry. -/
def base58EncodeStep : List Nat → Nat → List Nat
  | [], carry => Nat.digits 58 carry
  | digit :: rest, carry =>
      (digit * 256 + carry) % 58 :: base58EncodeStep rest ((digit * 256 + carry) / 58)

/-- `BASE58_ALPHABET[digit]`, which `join` drops when there is none. -/
def base58Chars? (digits : List Nat) : List Char := digits.filterMap (base58Alphabet[·]?)

def base58Encode (bytes : List UInt8) : String :=
  if bytes.isEmpty then ""
  else
    let digits := bytes.foldl (fun digits byte => base58EncodeStep digits byte.toNat) [0]
    let zeroPrefix := List.replicate (bytes.takeWhile (· == 0)).length '1'
    String.ofList (zeroPrefix ++ base58Chars? digits.reverse)

/-- The address of 32 bytes of a transaction message. The system program has the address of 32 zero
bytes, and `base58Encode` is not asked for it. -/
def solanaAddressFromBytes (bytes : List UInt8) : String :=
  if bytes.all (· == 0) then "11111111111111111111111111111111" else base58Encode bytes

/-! ## Both are changes of radix -/

theorem base58EncodeStep_eq : base58EncodeStep = Base.Radix.carryStep 58 256 := by
  funext digits
  induction digits with
  | nil =>
      funext carry
      rfl
  | cons digit rest ih =>
      funext carry
      rw [base58EncodeStep, Base.Radix.carryStep, ih]

theorem base58Step_eq : base58Step = Base.Radix.carryStep 256 58 := by
  funext bytes
  induction bytes with
  | nil =>
      funext carry
      rfl
  | cons byte rest ih =>
      funext carry
      rw [base58Step, Base.Radix.carryStep, ih]

end Split402

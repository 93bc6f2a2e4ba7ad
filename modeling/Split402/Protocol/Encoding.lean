import Mathlib.Data.Nat.Digits.Defs
import Split402.Base.Base64
import Split402.Base.Except

/-! # Encodings

Signatures are written in unpadded base64url, public keys in base58. -/

namespace Split402

open Base

/-! ## base64url -/

/-- `/^[A-Za-z0-9_-]$/`. -/
def isBase64UrlChar (c : Char) : Bool :=
  ('A' ≤ c && c ≤ 'Z') || ('a' ≤ c && c ≤ 'z') || ('0' ≤ c && c ≤ '9') || c == '_' || c == '-'

/-- The value of a character of the base64 alphabet. -/
def base64Value (c : Char) : Option Nat :=
  if 'A' ≤ c && c ≤ 'Z' then some (c.toNat - 'A'.toNat)
  else if 'a' ≤ c && c ≤ 'z' then some (c.toNat - 'a'.toNat + 26)
  else if '0' ≤ c && c ≤ '9' then some (c.toNat - '0'.toNat + 52)
  else if c == '+' then some 62
  else if c == '/' then some 63
  else none

/-- `Buffer.from(value, "base64")`: up to the padding, without what is not of the alphabet. -/
def bufferFromBase64 (value : List Char) : List UInt8 :=
  (Base64.decode ((value.takeWhile (· != '=')).filterMap base64Value)).map UInt8.ofNat

/-- `value.padEnd(width, "=")`. -/
def padEnd (value : List Char) (width : Nat) : List Char :=
  value ++ List.replicate (width - value.length) '='

/-- `value.replaceAll("-", "+").replaceAll("_", "/")`. -/
def toBase64Char (c : Char) : Char :=
  if c == '-' then '+' else if c == '_' then '/' else c

def base64UrlDecode (value : String) : Except String (List UInt8) :=
  let chars := value.toList
  if !chars.all isBase64UrlChar then throw "invalid base64url"
  else
    let padded := padEnd chars (chars.length + (4 - chars.length % 4) % 4)
    pure (bufferFromBase64 (padded.map toBase64Char))

/-! ## base58 -/

def base58Alphabet : List Char :=
  "123456789ABCDEFGHJKLMNPQRSTUVWXYZabcdefghijkmnopqrstuvwxyz".toList

/-- The loops of one character: multiply the number, low byte first, by 58 and add the carry, then
push what is left of the carry. -/
def base58Step : List Nat → Nat → List Nat
  | [], carry => Nat.digits 256 carry
  | byte :: rest, carry => (byte * 58 + carry) % 256 :: base58Step rest ((byte * 58 + carry) / 256)

def base58Decode (value : String) : Except String (List UInt8) :=
  let chars := value.toList
  if chars.isEmpty then pure []
  else do
    let bytes ← chars.foldlM (fun bytes char =>
      match base58Alphabet.findIdx? (· == char) with
      | none => throw "invalid base58"
      | some carry => pure (base58Step bytes carry)) [0]
    let zeros := List.replicate (chars.takeWhile (· == '1')).length 0
    pure ((bytes ++ zeros).reverse.map UInt8.ofNat)

def assertByteLength (bytes : List UInt8) (expectedLength : Nat) (label : String) :
    Except String Unit :=
  if bytes.length ≠ expectedLength then throw s!"{label} must be {expectedLength} bytes"
  else pure ()

end Split402

import Split402.Base.Except
import Split402.Base.JsonString
import Split402.Base.Sort

/-! # Canonical form

What receipts, offers and claims are signed and hashed as: JSON with the keys of every object in the
order of their code units, and nothing between the tokens. The serializer takes any JavaScript value
and throws at what is not JSON. How a finite number is printed is the engine's business
(`JsNumbers`); strings are printed as ECMAScript does. -/

namespace Split402

open Base (sortBy)
open Base.JsonString (quote)
open Base.Utf16 (Text ofString utf8Bytes)

/-- The numbers of the engine: `0`, `Number.isFinite`, `Object.is(value, -0)` and
`JSON.stringify`. -/
structure JsNumbers (ν : Type) where
  zero : ν
  isFinite : ν → Bool
  isNegativeZero : ν → Bool
  stringify : ν → Text

/-- A JavaScript value. An object has its own enumerable string keys in insertion order; it is
`plain` when its prototype is `Object.prototype` or `null`. -/
inductive JsValue (ν : Type)
  | undefined
  | null
  | bool (b : Bool)
  | number (n : ν)
  | string (s : Text)
  | bigint (n : Int)
  | array (items : List (JsValue ν))
  | object (plain : Bool) (fields : List (Text × JsValue ν))
  | other (typeName : String)

variable {ν : Type} (numbers : JsNumbers ν)

def serializeNumber (value : ν) : Except String Text :=
  if !numbers.isFinite value then throw "non-finite number cannot be canonicalized"
  else if numbers.isNegativeZero value then pure (ofString "0")
  else pure (numbers.stringify value)

/-- The order of the entries of an object: by the code units of their keys. -/
def compareKeys {α : Type} (left right : Text × α) : Ordering := compare left.1 right.1

mutual

def serializeJson : JsValue ν → Except String Text
  | .null => pure (ofString "null")
  | .string value => pure (quote value)
  | .bool value => pure (if value then ofString "true" else ofString "false")
  | .number value => serializeNumber numbers value
  | .bigint _ => throw "bigint cannot be canonicalized as JSON"
  | .array items => do
      let texts ← (serializeItems items).mapM id
      pure (0x5B :: (List.intercalate [0x2C] texts ++ [0x5D]))
  | .object plain fields =>
      if !plain then throw "only plain objects can be canonicalized"
      else do
        let texts ← (sortBy compareKeys (serializeFields fields)).mapM (fun entry => do
          let text ← entry.2
          pure (quote entry.1 ++ 0x3A :: text))
        pure (0x7B :: (List.intercalate [0x2C] texts ++ [0x7D]))
  | .undefined => throw "unsupported JSON value: undefined"
  | .other typeName => throw ("unsupported JSON value: " ++ typeName)

def serializeItems : List (JsValue ν) → List (Except String Text)
  | [] => []
  | item :: rest => serializeJson item :: serializeItems rest

/-- The entries that are not `undefined`, with their values serialized. -/
def serializeFields : List (Text × JsValue ν) → List (Text × Except String Text)
  | [] => []
  | (key, item) :: rest =>
      match item with
      | .undefined => serializeFields rest
      | item => (key, serializeJson item) :: serializeFields rest

end

def canonicalizeProtocolObject (value : JsValue ν) : Except String Text :=
  serializeJson numbers value

def canonicalizeToBytes (value : JsValue ν) : Except String ByteArray := do
  let text ← canonicalizeProtocolObject numbers value
  pure (utf8Bytes text)

/-- The bytes a signature for a purpose covers: the domain, a newline, the canonical form. -/
def buildDomainSeparatedSigningBytes (domain : Text) (value : JsValue ν) :
    Except String ByteArray := do
  let text ← canonicalizeProtocolObject numbers value
  pure (utf8Bytes (domain ++ 0x0A :: text))

/-- `sha256Hex` is the lowercase hexadecimal SHA-256 digest. -/
def sha256Bytes (sha256Hex : ByteArray → String) (bytes : ByteArray) : String :=
  "sha256:" ++ sha256Hex bytes

def hashProtocolObject (sha256Hex : ByteArray → String) (value : JsValue ν) :
    Except String String := do
  let bytes ← canonicalizeToBytes numbers value
  pure (sha256Bytes sha256Hex bytes)

end Split402

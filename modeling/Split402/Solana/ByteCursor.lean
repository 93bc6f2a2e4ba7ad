import Split402.Base.Reader
import Split402.Protocol.Base58

/-! # Compiled messages

`decodeCompiledSolanaMessage` reads the message of a Solana transaction with a cursor over its bytes:
the header, the account keys, the instructions, and how many address tables are looked up. Counts and
lengths come as shortvecs, of up to three bytes with seven bits each. -/

namespace Split402

open Base.Reader (readEach)

/-- The bytes and how many of them have been read. -/
structure ByteCursor where
  bytes : List UInt8
  offset : Nat
  deriving DecidableEq, Repr

namespace ByteCursor

variable (cursor : ByteCursor) (label : String)

/-- The cursor, `count` bytes further. -/
def advance (count : Nat) : ByteCursor := { cursor with offset := cursor.offset + count }

/-- The bytes that have not been read. -/
def rest : List UInt8 := cursor.bytes.drop cursor.offset

def readByte : Except String (UInt8 × ByteCursor) :=
  match cursor.bytes[cursor.offset]? with
  | none => throw s!"{label} is truncated"
  | some value => pure (value, cursor.advance 1)

def readBytes (length : Nat) : Except String (List UInt8 × ByteCursor) :=
  if cursor.offset + length > cursor.bytes.length then throw s!"{label} is truncated"
  else pure (cursor.rest.take length, cursor.advance length)

/-- The loop of `readShortVec`, with the bytes that may still come and what has come in so far. -/
def readShortVecFrom : (left value shift : Nat) → ByteCursor → Except String (Nat × ByteCursor)
  | 0, _, _, _ => throw s!"{label} is not a canonical Solana shortvec"
  | left + 1, value, shift, cursor => do
      let (byte, cursor) ← cursor.readByte label
      let value := value ||| (byte.toNat &&& 0x7f) <<< shift
      if byte.toNat &&& 0x80 = 0 then pure (value, cursor)
      else readShortVecFrom left value (shift + 7) cursor

def readShortVec : Except String (Nat × ByteCursor) := readShortVecFrom label 3 0 0 cursor

def remaining : Int := cursor.bytes.length - cursor.offset

end ByteCursor

structure DecodedCompiledInstruction where
  programIdIndex : UInt8
  accountIndexes : List UInt8
  data : List UInt8
  deriving DecidableEq, Repr

structure DecodedSolanaTransactionMessage where
  numRequiredSignatures : UInt8
  accountKeys : List String
  instructions : List DecodedCompiledInstruction
  addressTableLookupCount : Nat
  deriving DecidableEq, Repr

def readAccountKey (index : Nat) (cursor : ByteCursor) : Except String (String × ByteCursor) := do
  let (bytes, cursor) ← cursor.readBytes s!"account key {index}" 32
  pure (solanaAddressFromBytes bytes, cursor)

def readInstruction (index : Nat) (cursor : ByteCursor) :
    Except String (DecodedCompiledInstruction × ByteCursor) := do
  let (programIdIndex, cursor) ← cursor.readByte s!"instruction {index} programIdIndex"
  let (accountIndexCount, cursor) ← cursor.readShortVec s!"instruction {index} account index count"
  let (accountIndexes, cursor) ← readEach
    (fun accountIndex cursor =>
      cursor.readByte s!"instruction {index} account index {accountIndex}")
    accountIndexCount 0 cursor
  let (dataLength, cursor) ← cursor.readShortVec s!"instruction {index} data length"
  let (data, cursor) ← cursor.readBytes s!"instruction {index} data" dataLength
  pure (⟨programIdIndex, accountIndexes, data⟩, cursor)

/-- A message of version 0 has a byte with the high bit set before its header. -/
def readNumRequiredSignatures (first : UInt8) (cursor : ByteCursor) :
    Except String (UInt8 × ByteCursor) :=
  if first &&& 0x80 ≠ 0 then
    if first &&& 0x7f ≠ 0 then throw "only Solana v0 transactions are supported"
    else cursor.readByte "message header numRequiredSignatures"
  else pure (first, cursor)

/-- Only a message of version 0 says how many address tables it looks up. -/
def readAddressTableLookupCount (first : UInt8) (cursor : ByteCursor) :
    Except String (Nat × ByteCursor) :=
  if first &&& 0x80 ≠ 0 then cursor.readShortVec "address table lookup count"
  else pure (0, cursor)

/-- The fields of a message, up to the address tables that are looked up. -/
def readMessage (cursor : ByteCursor) :
    Except String (DecodedSolanaTransactionMessage × ByteCursor) := do
  let (first, cursor) ← cursor.readByte "message header"
  let (numRequiredSignatures, cursor) ← readNumRequiredSignatures first cursor
  let (_, cursor) ← cursor.readByte "message header numReadonlySignedAccounts"
  let (_, cursor) ← cursor.readByte "message header numReadonlyUnsignedAccounts"
  let (accountKeyCount, cursor) ← cursor.readShortVec "account key count"
  let (accountKeys, cursor) ← readEach readAccountKey accountKeyCount 0 cursor
  let (_, cursor) ← cursor.readBytes "recent blockhash" 32
  let (instructionCount, cursor) ← cursor.readShortVec "instruction count"
  let (instructions, cursor) ← readEach readInstruction instructionCount 0 cursor
  let (addressTableLookupCount, cursor) ← readAddressTableLookupCount first cursor
  pure (⟨numRequiredSignatures, accountKeys, instructions, addressTableLookupCount⟩, cursor)

def decodeCompiledSolanaMessage (messageBytes : List UInt8) :
    Except String DecodedSolanaTransactionMessage := do
  let (message, cursor) ← readMessage ⟨messageBytes, 0⟩
  if cursor.remaining ≠ 0 ∧ message.addressTableLookupCount = 0 then
    throw "transaction message has trailing bytes"
  else pure message

end Split402

import Split402.Proof.ShortVec

/-! # The format of messages

The decoder is made of readers, one after the other, so it accepts exactly the messages that are laid
out as it reads them: the header, the account keys, a blockhash, the instructions, and, in version 0,
the number of address tables that are looked up. Unless some are, nothing may follow. -/

namespace Split402

open Base Base.Varint Base.Reader

theorem ByteCursor.within_advance {cursor : ByteCursor} {count : Nat}
    (hwithin : cursor.offset ≤ cursor.bytes.length) (hle : count ≤ cursor.rest.length) :
    (cursor.advance count).offset ≤ (cursor.advance count).bytes.length := by
  rw [ByteCursor.rest, List.length_drop] at hle
  show cursor.offset + count ≤ cursor.bytes.length
  omega

theorem ByteCursor.advance_zero (cursor : ByteCursor) : cursor.advance 0 = cursor := rfl

/-- The positions in the bytes. -/
def cursorSource : Source ByteCursor UInt8 where
  Within cursor := cursor.offset ≤ cursor.bytes.length
  rest := ByteCursor.rest
  advance := ByteCursor.advance
  within_advance := @ByteCursor.within_advance
  rest_advance := @ByteCursor.rest_advance
  advance_zero := ByteCursor.advance_zero
  advance_add := @ByteCursor.advance_advance

namespace MessageFormat

def byte : Format UInt8 UInt8 := fun bytes b => bytes = [b]

/-- A number of bytes. -/
def raw (length : Nat) : Format UInt8 (List UInt8) := fun bytes xs => bytes = xs ∧ xs.length = length

/-- A number in up to three bytes, not necessarily as few as it takes. -/
def shortVec : Format UInt8 Nat := fun bytes n => Encodes bytes n ∧ bytes.length ≤ 3

def accountKey : Format UInt8 String :=
  fun bytes key => bytes.length = 32 ∧ key = solanaAddressFromBytes bytes

/-- The program, the accounts with their number before them, and the data with its length. -/
def instruction : Format UInt8 DecodedCompiledInstruction := fun bytes i =>
  ∃ accountCount dataLength, shortVec accountCount i.accountIndexes.length ∧
    shortVec dataLength i.data.length ∧
    bytes = i.programIdIndex :: (accountCount ++ (i.accountIndexes ++ (dataLength ++ i.data)))

end MessageFormat

open MessageFormat

section Readers

variable (label : String)

theorem reads_readByte :
    Reads cursorSource (fun cursor => cursor.readByte label) MessageFormat.byte := by
  intro cursor _ b cursor'
  show cursor.readByte label = _ ↔ ∃ bytes, bytes = [b] ∧ bytes <+: cursor.rest ∧
    cursor' = cursor.advance bytes.length
  rw [ByteCursor.readByte_eq]
  cases hrest : cursor.rest with
  | nil =>
      refine iff_of_false throw_ne_ok ?_
      intro ⟨bytes, hbytes, hstarts, _⟩
      rw [hbytes, List.prefix_nil] at hstarts
      cases hstarts
  | cons c rest =>
      dsimp only
      rw [pure_eq_ok, Prod.mk.injEq]
      constructor
      · intro ⟨hb, hcursor⟩
        exact ⟨[b], rfl, hb ▸ ⟨rest, rfl⟩, hcursor.symm⟩
      · intro ⟨bytes, hbytes, hstarts, hcursor⟩
        rw [hbytes, List.cons_prefix_cons] at hstarts
        rw [hbytes] at hcursor
        exact ⟨hstarts.1.symm, hcursor.symm⟩

theorem reads_readBytes (length : Nat) :
    Reads cursorSource (fun cursor => cursor.readBytes label length) (raw length) := by
  intro cursor hwithin xs cursor'
  have hrest : cursor.rest.length = cursor.bytes.length - cursor.offset := List.length_drop
  show cursor.readBytes label length = _ ↔ ∃ bytes, (bytes = xs ∧ xs.length = length) ∧
    bytes <+: cursor.rest ∧ cursor' = cursor.advance bytes.length
  unfold ByteCursor.readBytes
  by_cases hlong : cursor.offset + length > cursor.bytes.length
  · rw [if_pos hlong]
    refine iff_of_false throw_ne_ok ?_
    intro ⟨bytes, ⟨hbytes, hlength⟩, hstarts, _⟩
    have hle := hstarts.length_le
    have hoffset : cursor.offset ≤ cursor.bytes.length := hwithin
    rw [hbytes] at hle
    omega
  · rw [if_neg hlong, pure_eq_ok, Prod.mk.injEq]
    constructor
    · intro ⟨hxs, hcursor⟩
      have hlength : xs.length = length := by
        rw [← hxs, List.length_take]
        omega
      exact ⟨xs, ⟨rfl, hlength⟩, hxs ▸ List.take_prefix _ _, by rw [hlength, hcursor]⟩
    · intro ⟨bytes, ⟨hbytes, hlength⟩, hstarts, hcursor⟩
      rw [hbytes] at hstarts hcursor
      rw [hcursor, hlength]
      refine ⟨?_, rfl⟩
      rw [← hlength]
      exact (List.prefix_iff_eq_take.mp hstarts).symm

theorem reads_readShortVec :
    Reads cursorSource (fun cursor => cursor.readShortVec label) shortVec := by
  intro cursor _ n cursor'
  have hread := @ByteCursor.readShortVec_eq_ok cursor cursor' label n
  simp only [← and_assoc] at hread
  simp only [← and_assoc]
  exact hread

end Readers

theorem reads_readAccountKey (index : Nat) :
    Reads cursorSource (readAccountKey index) accountKey := by
  have h := (reads_readBytes s!"account key {index}" 32).map (f := solanaAddressFromBytes)
  refine Reads.congr (show Reads cursorSource (readAccountKey index) _ from h) ?_
  intro bytes key
  constructor
  · intro ⟨xs, ⟨hbytes, hlength⟩, hkey⟩
    rw [hbytes]
    exact ⟨hlength, hkey⟩
  · intro ⟨hlength, hkey⟩
    exact ⟨bytes, ⟨rfl, hlength⟩, hkey⟩

theorem each_byte {bytes xs : List UInt8} : Format.Each MessageFormat.byte bytes xs ↔ bytes = xs := by
  constructor
  · intro h
    induction h with
    | nil => rfl
    | cons hfirst _ ih =>
        rw [show _ = [_] from hfirst, ih]
        rfl
  · intro h
    subst h
    induction bytes with
    | nil => exact .nil
    | cons b bytes ih =>
        have hbyte : MessageFormat.byte [b] b := rfl
        exact .cons hbyte ih

theorem reads_readInstruction (index : Nat) :
    Reads cursorSource (readInstruction index) MessageFormat.instruction := by
  have h := (reads_readByte s!"instruction {index} programIdIndex").bind fun programIdIndex =>
    (reads_readShortVec s!"instruction {index} account index count").bind fun accountIndexCount =>
    (reads_readEach (fun accountIndex =>
      reads_readByte s!"instruction {index} account index {accountIndex}") accountIndexCount 0).bind
        fun accountIndexes =>
    (reads_readShortVec s!"instruction {index} data length").bind fun dataLength =>
    (reads_readBytes s!"instruction {index} data" dataLength).map (f := fun data =>
      (⟨programIdIndex, accountIndexes, data⟩ : DecodedCompiledInstruction))
  refine Reads.congr (show Reads cursorSource (readInstruction index) _ from h) ?_
  intro bytes i
  constructor
  · intro ⟨_, _, programIdIndex, hprogram, ⟨accountCount, _, _, haccountCount, ⟨_, _, accountIndexes,
      ⟨haccounts, hcount⟩, ⟨dataLength, _, _, hdataLength, ⟨data, ⟨hdata, hlength⟩, hi⟩, htail⟩,
      htail'⟩, htail''⟩, hbytes⟩
    rw [each_byte] at haccounts
    subst hi hcount hlength
    refine ⟨accountCount, dataLength, haccountCount, hdataLength, ?_⟩
    rw [hbytes, htail'', htail', htail, show _ = [programIdIndex] from hprogram, haccounts, hdata]
    rfl
  · intro ⟨accountCount, dataLength, haccountCount, hdataLength, hbytes⟩
    refine ⟨[i.programIdIndex], _, i.programIdIndex, rfl, ⟨accountCount, _, _, haccountCount,
      ⟨i.accountIndexes, _, i.accountIndexes, ⟨each_byte.mpr rfl, rfl⟩,
        ⟨dataLength, _, _, hdataLength, ⟨i.data, ⟨rfl, rfl⟩, rfl⟩, rfl⟩, rfl⟩, rfl⟩, hbytes⟩

/-! ## The header -/

/-- The first byte of a message of version 0, or of one without a version. -/
theorem first_cases (first : UInt8) : (first &&& 0x80 ≠ 0 ↔ 128 ≤ first.toNat) ∧
    (128 ≤ first.toNat → (first &&& 0x7f = 0 ↔ first = 0x80)) := by
  have hbyte := first.toNat_lt
  have hhigh := ByteCursor.and_high first
  have hlow := ByteCursor.and_low first
  have hzero : ∀ b : UInt8, b = 0 ↔ b.toNat = 0 := fun b => UInt8.toNat_inj.symm
  have hfirst : first = 0x80 ↔ first.toNat = 128 := UInt8.toNat_inj.symm
  rw [ne_eq, hzero, hzero, hfirst, UInt8.toNat_and, UInt8.toNat_and]
  change (¬ (first.toNat &&& 0x80 = 0) ↔ _) ∧ (_ → ((first.toNat &&& 0x7f) = 0 ↔ _))
  rw [hhigh, hlow]
  omega

namespace MessageFormat

/-- The number of signatures, after the version if there is one. -/
def header (first : UInt8) : Format UInt8 UInt8 := fun bytes n =>
  (first.toNat < 128 ∧ bytes = [] ∧ n = first) ∨ (first = 0x80 ∧ bytes = [n])

def lookups (first : UInt8) : Format UInt8 Nat := fun bytes n =>
  (first.toNat < 128 ∧ bytes = [] ∧ n = 0) ∨ (128 ≤ first.toNat ∧ shortVec bytes n)

end MessageFormat

theorem reads_readNumRequiredSignatures (first : UInt8) :
    Reads cursorSource (readNumRequiredSignatures first) (MessageFormat.header first) := by
  have h := reads_ite (p := first &&& 0x80 ≠ 0)
    (fun _ => reads_ite (p := first &&& 0x7f ≠ 0)
      (fun _ => show Reads cursorSource _ _ from
        reads_throw "only Solana v0 transactions are supported")
      (fun _ => reads_readByte "message header numRequiredSignatures"))
    (fun _ => reads_pure first)
  refine Reads.congr (show Reads cursorSource (readNumRequiredSignatures first) _ from h) ?_
  intro bytes n
  obtain ⟨hhigh, hversion⟩ := first_cases first
  rw [hhigh, ne_eq]
  by_cases hfirst : 128 ≤ first.toNat
  · rw [hversion hfirst]
    have hlow : ¬ first.toNat < 128 := by omega
    simp [MessageFormat.header, MessageFormat.byte, hfirst, hlow]
  · have hlow : first.toNat < 128 := by omega
    have hne : first ≠ 0x80 := by
      intro h
      rw [h] at hlow
      exact absurd hlow (by decide)
    simp [MessageFormat.header, Format.nothing, hlow, hne]

theorem reads_readAddressTableLookupCount (first : UInt8) :
    Reads cursorSource (readAddressTableLookupCount first) (MessageFormat.lookups first) := by
  have h := reads_ite (p := first &&& 0x80 ≠ 0)
    (fun _ => reads_readShortVec "address table lookup count")
    (fun _ => show Reads cursorSource _ _ from reads_pure 0)
  refine Reads.congr (show Reads cursorSource (readAddressTableLookupCount first) _ from h) ?_
  intro bytes n
  rw [(first_cases first).1]
  by_cases hfirst : 128 ≤ first.toNat
  · simp [MessageFormat.lookups, hfirst]
  · have hlow : first.toNat < 128 := by omega
    simp [MessageFormat.lookups, Format.nothing, hlow, or_comm]

/-! ## Messages -/

/-- The parts of the bytes of a message. -/
structure MessageParts where
  first : UInt8
  header : List UInt8
  readonlySigned : UInt8
  readonlyUnsigned : UInt8
  accountKeyCount : List UInt8
  accountKeys : List UInt8
  blockhash : List UInt8
  instructionCount : List UInt8
  instructions : List UInt8
  lookups : List UInt8

namespace MessageParts

def bytes (parts : MessageParts) : List UInt8 :=
  [parts.first] ++ (parts.header ++ ([parts.readonlySigned] ++ ([parts.readonlyUnsigned] ++
    (parts.accountKeyCount ++ (parts.accountKeys ++ (parts.blockhash ++ (parts.instructionCount ++
      (parts.instructions ++ parts.lookups))))))))

/-- The parts are those of a message. -/
structure Describes (parts : MessageParts) (message : DecodedSolanaTransactionMessage) : Prop where
  header : MessageFormat.header parts.first parts.header message.numRequiredSignatures
  accountKeyCount : shortVec parts.accountKeyCount message.accountKeys.length
  accountKeys : Format.Each accountKey parts.accountKeys message.accountKeys
  blockhash : parts.blockhash.length = 32
  instructionCount : shortVec parts.instructionCount message.instructions.length
  instructions : Format.Each MessageFormat.instruction parts.instructions message.instructions
  lookups : MessageFormat.lookups parts.first parts.lookups message.addressTableLookupCount

end MessageParts

/-- What a message is written as. -/
def MessageFormat.message : Format UInt8 DecodedSolanaTransactionMessage :=
  fun bytes message => ∃ parts : MessageParts, parts.Describes message ∧ bytes = parts.bytes

theorem reads_readMessage : Reads cursorSource readMessage MessageFormat.message := by
  have h := (reads_readByte "message header").bind fun first =>
    (reads_readNumRequiredSignatures first).bind fun numRequiredSignatures =>
    (reads_readByte "message header numReadonlySignedAccounts").bind fun _ =>
    (reads_readByte "message header numReadonlyUnsignedAccounts").bind fun _ =>
    (reads_readShortVec "account key count").bind fun accountKeyCount =>
    (reads_readEach reads_readAccountKey accountKeyCount 0).bind fun accountKeys =>
    (reads_readBytes "recent blockhash" 32).bind fun _ =>
    (reads_readShortVec "instruction count").bind fun instructionCount =>
    (reads_readEach reads_readInstruction instructionCount 0).bind fun instructions =>
    (reads_readAddressTableLookupCount first).map (f := fun addressTableLookupCount =>
      (⟨numRequiredSignatures, accountKeys, instructions, addressTableLookupCount⟩ :
        DecodedSolanaTransactionMessage))
  refine Reads.congr (show Reads cursorSource readMessage _ from h) ?_
  intro bytes message
  constructor
  · intro ⟨_, _, first, hfirst, ⟨header, _, _, hheader, ⟨_, _, readonlySigned, hsigned, ⟨_, _,
      readonlyUnsigned, hunsigned, ⟨accountKeyCount, _, _, hkeyCount, ⟨keys, _, _, ⟨hkeys, hkeyLength⟩,
      ⟨_, _, blockhash, ⟨hblockhash, hblockhashLength⟩, ⟨instructionCount, _, _, hinstructionCount,
      ⟨instructions, _, _, ⟨hinstructions, hinstructionLength⟩, ⟨lookupCount, hlookups, hmessage⟩,
      h₁⟩, h₂⟩, h₃⟩, h₄⟩, h₅⟩, h₆⟩, h₇⟩, h₈⟩, hbytes⟩
    subst hmessage hkeyLength hinstructionLength
    refine ⟨⟨first, header, readonlySigned, readonlyUnsigned, accountKeyCount, keys, blockhash,
      instructionCount, instructions, _⟩, ⟨hheader, hkeyCount, hkeys, hblockhashLength,
      hinstructionCount, hinstructions, hlookups⟩, ?_⟩
    rw [hbytes, h₈, h₇, h₆, h₅, h₄, h₃, h₂, h₁, show _ = [first] from hfirst,
      show _ = [readonlySigned] from hsigned, show _ = [readonlyUnsigned] from hunsigned, hblockhash]
    rfl
  · intro ⟨parts, hparts, hbytes⟩
    rw [hbytes]
    exact ⟨_, _, parts.first, rfl, ⟨_, _, _, hparts.header, ⟨_, _, parts.readonlySigned, rfl, ⟨_, _,
      parts.readonlyUnsigned, rfl, ⟨_, _, _, hparts.accountKeyCount, ⟨_, _, _, ⟨hparts.accountKeys, rfl⟩,
      ⟨_, _, parts.blockhash, ⟨rfl, hparts.blockhash⟩, ⟨_, _, _, hparts.instructionCount,
      ⟨_, _, _, ⟨hparts.instructions, rfl⟩, ⟨_, hparts.lookups, rfl⟩,
      rfl⟩, rfl⟩, rfl⟩, rfl⟩, rfl⟩, rfl⟩, rfl⟩, rfl⟩, rfl⟩

/-- **What the decoder accepts**: the bytes of a message, and behind them nothing unless address
tables are looked up. -/
theorem decodeCompiledSolanaMessage_iff {messageBytes : List UInt8}
    {message : DecodedSolanaTransactionMessage} :
    decodeCompiledSolanaMessage messageBytes = .ok message ↔
      ∃ bytes trailing, MessageFormat.message bytes message ∧ messageBytes = bytes ++ trailing ∧
        (trailing = [] ∨ message.addressTableLookupCount ≠ 0) := by
  have hread := reads_readMessage ⟨messageBytes, 0⟩ (Nat.zero_le _)
  have hrest : cursorSource.rest ⟨messageBytes, 0⟩ = messageBytes := rfl
  rw [hrest] at hread
  unfold decodeCompiledSolanaMessage
  rw [bind_eq_ok]
  have hremaining : ∀ bytes trailing : List UInt8, messageBytes = bytes ++ trailing →
      ((cursorSource.advance ⟨messageBytes, 0⟩ bytes.length).remaining = 0 ↔ trailing = []) := by
    intro bytes trailing hbytes
    rw [hbytes, ← List.length_eq_zero_iff]
    show (((bytes ++ trailing).length : Int) - ((0 + bytes.length : Nat) : Int) = 0) ↔ _
    rw [List.length_append]
    omega
  constructor
  · intro ⟨⟨message', cursor⟩, hmessage, hthen⟩
    obtain ⟨bytes, hformat, ⟨trailing, htrailing⟩, hcursor⟩ := (hread message' cursor).mp hmessage
    dsimp only at hthen
    by_cases hleft : cursor.remaining ≠ 0 ∧ message'.addressTableLookupCount = 0
    · rw [if_pos hleft] at hthen
      exact absurd hthen throw_ne_ok
    · rw [if_neg hleft, pure_eq_ok] at hthen
      subst hthen
      refine ⟨bytes, trailing, hformat, htrailing.symm, ?_⟩
      rw [hcursor, ne_eq, hremaining bytes trailing htrailing.symm] at hleft
      by_cases hnil : trailing = []
      · exact .inl hnil
      · exact .inr fun hzero => hleft ⟨hnil, hzero⟩
  · intro ⟨bytes, trailing, hformat, hbytes, htrailing⟩
    refine ⟨(message, _), (hread message _).mpr ⟨bytes, hformat, ⟨trailing, hbytes.symm⟩, rfl⟩, ?_⟩
    dsimp only
    rw [if_neg, pure_eq_ok]
    rw [ne_eq, hremaining bytes trailing hbytes]
    intro ⟨hne, hzero⟩
    exact htrailing.elim hne fun h => h hzero

end Split402

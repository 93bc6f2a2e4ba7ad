import Mathlib.Data.Nat.Bitwise
import Split402.Base.Varint
import Split402.Solana.ByteCursor

/-! # Shortvecs

The reader of shortvecs stops at the first byte whose high bit is clear, or after three bytes. What it
takes in is an encoding of the number, and the encoding ends there. It need not be the shortest one,
and the number may have more than sixteen bits. -/

namespace Split402

open Base Base.Varint

/-- The compact encoding of a 16-bit number. -/
structure CompactU16 (bytes : List UInt8) (n : Nat) : Prop where
  canonical : Canonical bytes n
  small : n ≤ 65535

namespace ByteCursor

variable {cursor cursor' : ByteCursor} {label : String} {byte : UInt8} {n : Nat}

/-- What is read from here is a compact encoding that the bytes begin with, and only that. -/
def ReadsCompactU16 (cursor : ByteCursor) (label : String) : Prop :=
  ∀ n cursor', cursor.readShortVec label = .ok (n, cursor') ↔
    ∃ bytes, CompactU16 bytes n ∧ bytes <+: cursor.rest ∧ cursor' = cursor.advance bytes.length

/-- The bytes begin with an encoding that ends in a zero byte although it has other bytes, or with one
of three bytes that is out of range. -/
def isMisread (bytes : List UInt8) : Bool :=
  match bytes with
  | b₀ :: b₁ :: b₂ :: _ =>
      128 ≤ b₀.toNat && (b₁.toNat = 0 ||
        (128 ≤ b₁.toNat && (b₂.toNat = 0 || (4 ≤ b₂.toNat && b₂.toNat < 128))))
  | [b₀, b₁] => 128 ≤ b₀.toNat && b₁.toNat = 0
  | _ => false

/-! ## Bytes -/

theorem and_low (byte : UInt8) : byte.toNat &&& 0x7f = byte.toNat % 128 :=
  Nat.and_two_pow_sub_one_eq_mod byte.toNat 7

theorem and_high (byte : UInt8) : byte.toNat &&& 0x80 = 0 ↔ byte.toNat < 128 := by
  have hbyte := byte.toNat_lt
  have hbit : byte.toNat &&& 2 ^ 7 = (byte.toNat.testBit 7).toNat * 2 ^ 7 := Nat.and_two_pow _ 7
  rw [show (0x80 : Nat) = 2 ^ 7 from rfl, hbit, Nat.testBit_eq_decide_div_mod_eq]
  by_cases hlow : byte.toNat < 128
  · have hdiv : byte.toNat / 128 % 2 = 0 := by omega
    simp [hdiv, hlow]
  · have hdiv : byte.toNat / 128 % 2 = 1 := by omega
    simp [hdiv, hlow]

theorem or_shift {value bits shift : Nat} (h : value < 2 ^ shift) :
    value ||| bits <<< shift = value + bits * 2 ^ shift := by
  rw [Nat.or_comm, ← Nat.shiftLeft_add_eq_or_of_lt h, Nat.shiftLeft_eq, Nat.add_comm]

theorem readByte_eq : cursor.readByte label =
    match cursor.rest with
    | [] => throw s!"{label} is truncated"
    | byte :: _ => pure (byte, cursor.advance 1) := by
  have hhead : cursor.bytes[cursor.offset]? = cursor.rest.head? := by
    rw [rest, List.head?_drop]
  rw [readByte, hhead]
  cases cursor.rest <;> rfl

theorem rest_advance {count : Nat} : (cursor.advance count).rest = cursor.rest.drop count := by
  rw [rest, rest, advance, List.drop_drop]

theorem advance_advance {count count' : Nat} :
    (cursor.advance count).advance count' = cursor.advance (count + count') := by
  simp [advance, Nat.add_assoc]

/-! ## The loop -/

/-- The loop reads an encoding of at most `left` bytes, on top of the value it has. -/
theorem readShortVecFrom_eq_ok {left value shift : Nat} (hvalue : value < 2 ^ shift) :
    readShortVecFrom label left value shift cursor = .ok (n, cursor') ↔
      ∃ bytes m, Encodes bytes m ∧ bytes.length ≤ left ∧ bytes <+: cursor.rest ∧
        n = value + m * 2 ^ shift ∧ cursor' = cursor.advance bytes.length := by
  induction left generalizing value shift cursor with
  | zero =>
      refine iff_of_false throw_ne_ok ?_
      intro ⟨bytes, m, hencodes, hlength, _⟩
      exact hencodes.ne_nil (List.length_eq_zero_iff.mp (by omega))
  | succ left ih =>
      rw [readShortVecFrom, readByte_eq]
      cases hrest : cursor.rest with
      | nil =>
          refine iff_of_false throw_ne_ok ?_
          intro ⟨bytes, m, hencodes, _, hstarts, _⟩
          exact hencodes.ne_nil (List.prefix_nil.mp hstarts)
      | cons byte tail =>
          dsimp only
          rw [pure_bind]
          dsimp only
          rw [and_low, or_shift hvalue]
          by_cases hlow : byte.toNat < 128
          · rw [if_pos ((and_high byte).mpr hlow), pure_eq_ok, Nat.mod_eq_of_lt hlow, Prod.mk.injEq]
            constructor
            · intro ⟨hn, hcursor⟩
              exact ⟨[byte], byte.toNat, .last hlow, by simp, ⟨tail, rfl⟩, hn.symm, hcursor.symm⟩
            · intro ⟨bytes, m, hencodes, _, hstarts, hn, hcursor⟩
              obtain ⟨rfl, rfl⟩ := hencodes.eq_of_prefix (.last hlow) hstarts ⟨tail, rfl⟩
              exact ⟨hn.symm, hcursor.symm⟩
          · have hhigh : 128 ≤ byte.toNat := by omega
            have hbyte := byte.toNat_lt
            have hmod : byte.toNat % 128 = byte.toNat - 128 := by omega
            have hnext : value + (byte.toNat - 128) * 2 ^ shift < 2 ^ (shift + 7) := by
              have hle : (byte.toNat - 128) * 2 ^ shift ≤ 127 * 2 ^ shift :=
                Nat.mul_le_mul_right _ (by omega)
              rw [Nat.pow_add]
              omega
            rw [if_neg (fun h => hlow ((and_high byte).mp h)), hmod, ih hnext, rest_advance, hrest,
              List.drop_one, List.tail_cons]
            have hsum : ∀ m, value + (byte.toNat - 128 + 128 * m) * 2 ^ shift =
                value + (byte.toNat - 128) * 2 ^ shift + m * 2 ^ (shift + 7) := by
              intro m
              rw [Nat.pow_add]
              ring
            constructor
            · intro ⟨bytes, m, hencodes, hlength, hstarts, hn, hcursor⟩
              refine ⟨byte :: bytes, _, .more hhigh hencodes, Nat.succ_le_succ hlength, ?_, ?_, ?_⟩
              · exact List.cons_prefix_cons.mpr ⟨rfl, hstarts⟩
              · rw [hn, hsum]
              · rw [hcursor, advance_advance, List.length_cons, Nat.add_comm]
            · intro ⟨bytes, m, hencodes, hlength, hstarts, hn, hcursor⟩
              cases hencodes with
              | last hlow' =>
                  obtain ⟨rfl, -⟩ := List.cons_prefix_cons.mp hstarts
                  omega
              | @more b bytes m hhigh' hencodes =>
                  obtain ⟨hb, htail⟩ := List.cons_prefix_cons.mp hstarts
                  subst hb
                  refine ⟨bytes, m, hencodes, Nat.le_of_succ_le_succ hlength, htail, ?_, ?_⟩
                  · rw [hn, hsum]
                  · rw [hcursor, advance_advance, List.length_cons, Nat.add_comm]

/-- A shortvec is an encoding of at most three bytes. -/
theorem readShortVec_eq_ok : cursor.readShortVec label = .ok (n, cursor') ↔
    ∃ bytes, Encodes bytes n ∧ bytes.length ≤ 3 ∧ bytes <+: cursor.rest ∧
      cursor' = cursor.advance bytes.length := by
  rw [readShortVec, readShortVecFrom_eq_ok (by decide)]
  constructor
  · intro ⟨bytes, m, hencodes, hlength, hstarts, hn, hcursor⟩
    have hm : n = m := by omega
    rw [hm]
    exact ⟨bytes, hencodes, hlength, hstarts, hcursor⟩
  · intro ⟨bytes, hencodes, hlength, hstarts, hcursor⟩
    exact ⟨bytes, n, hencodes, hlength, hstarts, by omega, hcursor⟩

/-! ## Which encodings are compact -/

/-- A compact encoding has at most three bytes. -/
theorem length_le_of_compact {bytes : List UInt8} (h : CompactU16 bytes n) : bytes.length ≤ 3 := by
  by_contra hlong
  have hsmall := h.small
  rcases h.canonical.encodes.canonical_iff.mp h.canonical with hone | hlast
  · omega
  · rcases h.canonical.encodes.le hlast with hle | hone
    · have hpow : 128 ^ 3 ≤ 128 ^ (bytes.length - 1) := Nat.pow_le_pow_right (by decide) (by omega)
      omega
    · omega

theorem readsCompactU16_of_none (h : ∀ bytes n, Encodes bytes n → bytes.length ≤ 3 →
    ¬ bytes <+: cursor.rest) : cursor.ReadsCompactU16 label := by
  intro n cursor'
  rw [readShortVec_eq_ok]
  constructor
  · intro ⟨bytes, hencodes, hlength, hstarts, _⟩
    exact absurd hstarts (h bytes n hencodes hlength)
  · intro ⟨bytes, hcompact, hstarts, _⟩
    exact absurd hstarts (h bytes n hcompact.canonical.encodes (length_le_of_compact hcompact))

/-- Where there is an encoding to read, it is the only one. -/
theorem readsCompactU16_iff_of_encodes {bytes : List UInt8} (hencodes : Encodes bytes n)
    (hlength : bytes.length ≤ 3) (hstarts : bytes <+: cursor.rest) :
    cursor.ReadsCompactU16 label ↔ CompactU16 bytes n := by
  constructor
  · intro h
    have hread : cursor.readShortVec label = .ok (n, cursor.advance bytes.length) :=
      readShortVec_eq_ok.mpr ⟨bytes, hencodes, hlength, hstarts, rfl⟩
    obtain ⟨bytes', hcompact, hstarts', -⟩ := (h n _).mp hread
    obtain ⟨rfl, -⟩ := hcompact.canonical.encodes.eq_of_prefix hencodes hstarts' hstarts
    exact hcompact
  · intro h n' cursor'
    rw [readShortVec_eq_ok]
    constructor
    · intro ⟨bytes', hencodes', hlength', hstarts', hcursor⟩
      obtain ⟨rfl, rfl⟩ := hencodes.eq_of_prefix hencodes' hstarts hstarts'
      exact ⟨bytes, h, hstarts, hcursor⟩
    · intro ⟨bytes', hcompact, hstarts', hcursor⟩
      exact ⟨bytes', hcompact.canonical.encodes, length_le_of_compact hcompact, hstarts', hcursor⟩

theorem compactU16_one (hlow : byte.toNat < 128) : CompactU16 [byte] byte.toNat :=
  ⟨(Encodes.last hlow).canonical_iff.mpr (.inl rfl), by omega⟩

theorem compactU16_iff {bytes : List UInt8} (hencodes : Encodes bytes n) (hlong : bytes.length ≠ 1) :
    CompactU16 bytes n ↔ bytes.getLast? ≠ some 0 ∧ n ≤ 65535 := by
  constructor
  · intro h
    exact ⟨(hencodes.canonical_iff.mp h.canonical).resolve_left hlong, h.small⟩
  · intro ⟨hlast, hsmall⟩
    exact ⟨hencodes.canonical_iff.mpr (.inr hlast), hsmall⟩

/-- An encoding that begins with a high byte goes on in what follows. -/
theorem encodes_of_prefix_high {bytes rest : List UInt8} (hhigh : 128 ≤ byte.toNat)
    (hencodes : Encodes bytes n) (hstarts : bytes <+: byte :: rest) :
    ∃ bytes' m, Encodes bytes' m ∧ bytes' <+: rest ∧ bytes.length = bytes'.length + 1 := by
  obtain ⟨b, bytes', rfl⟩ := List.exists_cons_of_ne_nil hencodes.ne_nil
  obtain ⟨hb, hstarts⟩ := List.cons_prefix_cons.mp hstarts
  rw [← hb] at hhigh
  obtain ⟨m, hencodes, -⟩ := (encodes_cons_high hhigh).mp hencodes
  exact ⟨bytes', m, hencodes, hstarts, rfl⟩

/-- **The reader is exact but for what it misreads**: an encoding that ends in a zero byte although it
has other bytes, and one of three bytes that is out of range. -/
theorem readsCompactU16_iff (cursor : ByteCursor) (label : String) :
    cursor.ReadsCompactU16 label ↔ isMisread cursor.rest = false := by
  have hzero : ∀ {b : UInt8}, some b ≠ some 0 ↔ b.toNat ≠ 0 := by
    intro b
    rw [ne_eq, Option.some_inj, ← UInt8.toNat_inj]
    rfl
  have hreads : ∀ {bytes n}, Encodes bytes n → bytes.length ≤ 3 → bytes <+: cursor.rest →
      (cursor.ReadsCompactU16 label ↔ CompactU16 bytes n) :=
    fun hencodes hlength hstarts => readsCompactU16_iff_of_encodes hencodes hlength hstarts
  have hnone : (∀ bytes n, Encodes bytes n → bytes.length ≤ 3 → ¬ bytes <+: cursor.rest) →
      cursor.ReadsCompactU16 label := readsCompactU16_of_none
  generalize cursor.rest = rest at hreads hnone
  match rest with
  | [] =>
      refine iff_of_true (hnone ?_) rfl
      intro bytes n hencodes _ hstarts
      exact hencodes.ne_nil (List.prefix_nil.mp hstarts)
  | b₀ :: rest =>
      by_cases hlow₀ : b₀.toNat < 128
      · rw [hreads (.last hlow₀) (by simp) ⟨rest, rfl⟩]
        refine iff_of_true (compactU16_one hlow₀) ?_
        have hnot : ¬ 128 ≤ b₀.toNat := by omega
        match rest with
        | [] => rfl
        | [b₁] => simp [isMisread, hnot]
        | b₁ :: b₂ :: rest => simp [isMisread, hnot]
      have hhigh₀ : 128 ≤ b₀.toNat := by omega
      match rest with
      | [] =>
          refine iff_of_true (hnone ?_) rfl
          intro bytes n hencodes _ hstarts
          obtain ⟨bytes, m, hencodes, hstarts, -⟩ := encodes_of_prefix_high hhigh₀ hencodes hstarts
          exact hencodes.ne_nil (List.prefix_nil.mp hstarts)
      | b₁ :: rest =>
          by_cases hlow₁ : b₁.toNat < 128
          · have hencodes := Encodes.more hhigh₀ (.last hlow₁)
            have hsmall : b₀.toNat - 128 + 128 * b₁.toNat ≤ 65535 := by
              have := b₀.toNat_lt
              omega
            rw [hreads hencodes (by simp) ⟨rest, rfl⟩, compactU16_iff hencodes (by simp)]
            have hnot : ¬ 128 ≤ b₁.toNat := by omega
            match rest with
            | [] => simp [isMisread, hhigh₀, hzero, hsmall]
            | b₂ :: rest => simp [isMisread, hhigh₀, hnot, hzero, hsmall]
          have hhigh₁ : 128 ≤ b₁.toNat := by omega
          have hpos₁ : b₁.toNat ≠ 0 := by omega
          match rest with
          | [] =>
              refine iff_of_true (hnone ?_) (by simp [isMisread, hpos₁])
              intro bytes n hencodes _ hstarts
              obtain ⟨bytes, m, hencodes, hstarts, -⟩ := encodes_of_prefix_high hhigh₀ hencodes hstarts
              obtain ⟨bytes, m, hencodes, hstarts, -⟩ := encodes_of_prefix_high hhigh₁ hencodes hstarts
              exact hencodes.ne_nil (List.prefix_nil.mp hstarts)
          | b₂ :: rest =>
              by_cases hlow₂ : b₂.toNat < 128
              · have hencodes := Encodes.more hhigh₀ (.more hhigh₁ (.last hlow₂))
                have hb₀ := b₀.toNat_lt
                have hb₁ := b₁.toNat_lt
                rw [hreads hencodes (by simp) ⟨rest, rfl⟩, compactU16_iff hencodes (by simp)]
                simp only [List.getLast?_cons_cons, List.getLast?_singleton, hzero, isMisread, hhigh₀,
                  hhigh₁, hpos₁, hlow₂, decide_true, decide_false, Bool.true_and, Bool.and_true,
                  Bool.false_or, Bool.or_eq_false_iff, decide_eq_false_iff_not, not_le]
                omega
              · have hhigh₂ : 128 ≤ b₂.toNat := by omega
                have hpos₂ : b₂.toNat ≠ 0 := by omega
                refine iff_of_true (hnone ?_) (by simp [isMisread, hpos₁, hpos₂, hlow₂])
                intro bytes n hencodes hlength hstarts
                obtain ⟨bytes', m, hencodes, hstarts, h₀⟩ :=
                  encodes_of_prefix_high hhigh₀ hencodes hstarts
                obtain ⟨bytes', m, hencodes, hstarts, h₁⟩ :=
                  encodes_of_prefix_high hhigh₁ hencodes hstarts
                obtain ⟨bytes', m, hencodes, hstarts, h₂⟩ :=
                  encodes_of_prefix_high hhigh₂ hencodes hstarts
                have hpos := List.length_pos_iff.mpr hencodes.ne_nil
                omega

end ByteCursor

end Split402

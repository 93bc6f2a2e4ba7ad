import Mathlib.Data.UInt
import Mathlib.Data.List.Basic
import Mathlib.Tactic.Ring

/-! # Numbers in bytes of seven bits

A number is written lowest bits first, seven to a byte, and every byte but the last has its high bit
set. A number has many such encodings, since zeros can be put at the end; the shortest is unique, and
it is the one that does not end in a zero byte, unless that byte is all there is.

No encoding is a proper beginning of another, so a reader knows where one ends. -/

namespace Base.Varint

/-- The bytes are an encoding of the number. -/
inductive Encodes : List UInt8 → Nat → Prop
  | last {b : UInt8} (hlow : b.toNat < 128) : Encodes [b] b.toNat
  | more {b : UInt8} {bytes : List UInt8} {n : Nat} (hhigh : 128 ≤ b.toNat)
      (hrest : Encodes bytes n) : Encodes (b :: bytes) (b.toNat - 128 + 128 * n)

/-- The bytes are the shortest encoding of the number. -/
structure Canonical (bytes : List UInt8) (n : Nat) : Prop where
  encodes : Encodes bytes n
  minimal : ∀ other, Encodes other n → bytes.length ≤ other.length

variable {bytes other rest : List UInt8} {b : UInt8} {m n : Nat}

theorem not_encodes_nil : ¬ Encodes [] n := nofun

theorem Encodes.ne_nil (h : Encodes bytes n) : bytes ≠ [] := by
  intro hnil
  rw [hnil] at h
  exact not_encodes_nil h

theorem encodes_cons_low (hlow : b.toNat < 128) :
    Encodes (b :: bytes) n ↔ bytes = [] ∧ n = b.toNat := by
  constructor
  · intro h
    cases h with
    | last => exact ⟨rfl, rfl⟩
    | more hhigh => omega
  · intro ⟨hnil, hn⟩
    rw [hnil, hn]
    exact .last hlow

theorem encodes_cons_high (hhigh : 128 ≤ b.toNat) :
    Encodes (b :: bytes) n ↔ ∃ m, Encodes bytes m ∧ n = b.toNat - 128 + 128 * m := by
  constructor
  · intro h
    cases h with
    | last hlow => omega
    | more _ hrest => exact ⟨_, hrest, rfl⟩
  · intro ⟨m, hrest, hn⟩
    rw [hn]
    exact .more hhigh hrest

/-! ## Where an encoding ends -/

/-- Of two encodings that a list begins with, the one is the other, and so are the numbers. -/
theorem Encodes.eq_of_prefix (h : Encodes bytes m) (h' : Encodes other n)
    (hstarts : bytes <+: rest) (hstarts' : other <+: rest) : bytes = other ∧ m = n := by
  induction h generalizing other n rest with
  | @last b hlow =>
      cases h' with
      | last hlow' =>
          obtain ⟨_, rfl⟩ := hstarts
          obtain ⟨hb, -⟩ := List.cons_prefix_cons.mp hstarts'
          rw [hb]
          exact ⟨rfl, rfl⟩
      | more hhigh _ =>
          obtain ⟨_, rfl⟩ := hstarts
          obtain ⟨hb, -⟩ := List.cons_prefix_cons.mp hstarts'
          rw [hb] at hhigh
          omega
  | @more b bytes n hhigh hrest ih =>
      obtain ⟨tail, rfl⟩ := hstarts
      cases h' with
      | last hlow' =>
          obtain ⟨hb, -⟩ := List.cons_prefix_cons.mp hstarts'
          rw [hb] at hlow'
          omega
      | more hhigh' hrest' =>
          obtain ⟨hb, htail⟩ := List.cons_prefix_cons.mp hstarts'
          obtain ⟨hbytes, hn⟩ := ih hrest' (List.prefix_append bytes tail) htail
          rw [hb, hbytes, hn]
          exact ⟨rfl, rfl⟩

/-! ## The shortest encoding -/

theorem Encodes.lt (h : Encodes bytes n) : n < 128 ^ bytes.length := by
  induction h with
  | last hlow => simpa using hlow
  | @more b bytes n hhigh _ ih =>
      have hbyte := b.toNat_lt
      rw [List.length_cons, Nat.pow_succ]
      omega

/-- Unless it ends in a zero, an encoding of more than one byte is of a number that needs the last
byte. -/
theorem Encodes.le (h : Encodes bytes n) (hlast : bytes.getLast? ≠ some 0) :
    128 ^ (bytes.length - 1) ≤ n ∨ bytes.length = 1 := by
  induction h with
  | last hlow => exact .inr rfl
  | @more b bytes n hhigh hrest ih =>
      obtain ⟨c, bytes, rfl⟩ := List.exists_cons_of_ne_nil hrest.ne_nil
      rw [List.getLast?_cons_cons] at hlast
      refine .inl ?_
      rcases ih hlast with hle | hone
      · rw [List.length_cons, Nat.add_sub_cancel] at hle
        rw [List.length_cons, List.length_cons, Nat.add_sub_cancel, Nat.pow_succ]
        omega
      · have hnil : bytes = [] := by simpa using hone
        subst hnil
        have hpos : 0 < n := by
          cases hrest with
          | last hlow =>
              rw [Nat.pos_iff_ne_zero]
              intro hzero
              exact hlast (congrArg some (UInt8.toNat_inj.mp hzero))
          | more _ hrest => exact absurd hrest not_encodes_nil
        simp only [List.length_cons, List.length_nil]
        omega

/-- Of an encoding that ends in a zero byte, the byte can be left off. -/
theorem Encodes.exists_shorter (h : Encodes bytes n) (hlast : bytes.getLast? = some 0)
    (hlength : bytes.length ≠ 1) : ∃ other, Encodes other n ∧ other.length < bytes.length := by
  induction h with
  | last => exact absurd rfl hlength
  | @more b bytes n hhigh hrest ih =>
      obtain ⟨c, bytes, rfl⟩ := List.exists_cons_of_ne_nil hrest.ne_nil
      rw [List.getLast?_cons_cons] at hlast
      by_cases hone : (c :: bytes).length = 1
      · have hnil : bytes = [] := by simpa using hone
        subst hnil
        have hc : c = 0 := by simpa using hlast
        have hn : n = 0 := by
          rw [encodes_cons_low (by rw [hc]; decide)] at hrest
          rw [hrest.2, hc]
          rfl
        -- the byte before the zero is the last one, without its high bit
        have hbyte : (UInt8.ofNat (b.toNat - 128)).toNat = b.toNat - 128 := by
          have := b.toNat_lt
          rw [UInt8.toNat_ofNat']
          omega
        refine ⟨[UInt8.ofNat (b.toNat - 128)], ?_, by simp⟩
        have hencodes : Encodes [UInt8.ofNat (b.toNat - 128)] (b.toNat - 128) := by
          have := b.toNat_lt
          rw [encodes_cons_low (by omega)]
          exact ⟨rfl, hbyte.symm⟩
        rw [hn, Nat.mul_zero, Nat.add_zero]
        exact hencodes
      · obtain ⟨other, hother, hlt⟩ := ih hlast hone
        exact ⟨b :: other, .more hhigh hother, Nat.succ_lt_succ hlt⟩

theorem Encodes.canonical_iff (h : Encodes bytes n) :
    Canonical bytes n ↔ bytes.length = 1 ∨ bytes.getLast? ≠ some 0 := by
  constructor
  · intro hcanonical
    by_contra hboth
    rw [not_or, not_not] at hboth
    obtain ⟨other, hother, hlt⟩ := h.exists_shorter hboth.2 hboth.1
    have hle := hcanonical.minimal other hother
    omega
  · intro hshort
    refine ⟨h, ?_⟩
    intro other hother
    have hother_pos := List.length_pos_iff.mpr hother.ne_nil
    have hone : bytes.length = 1 ∨ 128 ^ (bytes.length - 1) ≤ n := by
      rcases hshort with hone | hlast
      · exact .inl hone
      · exact (h.le hlast).symm
    rcases hone with hone | hle
    · omega
    · have hlt := (Nat.pow_lt_pow_iff_right (by decide)).mp (Nat.lt_of_le_of_lt hle hother.lt)
      omega

/-- A number has one shortest encoding. -/
theorem Canonical.unique (h : Canonical bytes n) (h' : Canonical other n) : bytes = other := by
  have hlength : bytes.length = other.length :=
    Nat.le_antisymm (h.minimal other h'.encodes) (h'.minimal bytes h.encodes)
  have hencodes := h.encodes
  have hencodes' := h'.encodes
  clear h h'
  induction hencodes generalizing other with
  | @last b hlow =>
      obtain ⟨c, hother⟩ := List.length_eq_one_iff.mp hlength.symm
      subst hother
      generalize hn : b.toNat = n at hencodes'
      cases hencodes' with
      | last => rw [UInt8.toNat_inj.mp hn]
      | more _ hrest => exact absurd hrest not_encodes_nil
  | @more b bytes n hhigh hrest ih =>
      generalize hn : b.toNat - 128 + 128 * n = number at hencodes'
      cases hencodes' with
      | last => exact absurd (by simpa using hlength) hrest.ne_nil
      | @more c other m hhigh' hrest' =>
          have hb := b.toNat_lt
          have hc := c.toNat_lt
          have hbc : b.toNat = c.toNat := by omega
          have hnm : n = m := by omega
          subst hnm
          rw [UInt8.toNat_inj.mp hbc, ih (by simpa using hlength) hrest']

end Base.Varint

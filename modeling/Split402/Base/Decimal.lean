import Mathlib.Data.List.Induction
import Mathlib.Tactic.IntervalCases

/-! # Canonical decimal numerals

A natural number is written in decimal without leading zeros. `parse` accepts exactly the
strings `toString` produces, so the two are inverse to each other and a numeral is determined
by its value. -/

namespace Base.Decimal

/-- The value of a canonical decimal numeral: one zero, or digits that do not start with a
zero. -/
def parse (s : String) : Option Nat :=
  match s.toList with
  | [] => none
  | c :: cs =>
      if c = '0' then
        if cs = [] then some 0 else none
      else if (c :: cs).all Char.isDigit then
        some (Nat.ofDigitChars 10 (c :: cs) 0)
      else none

attribute [grind =] parse

theorem head_toDigits {n : Nat} (hn : 0 < n) :
    ∃ c cs, Nat.toDigits 10 n = c :: cs ∧ c ≠ '0' := by
  induction n using Nat.strongRecOn with
  | ind n ih =>
      rw [Nat.toDigits_eq_if (by decide)]
      split
      · rename_i hlt
        refine ⟨n.digitChar, [], rfl, ?_⟩
        simpa using hn.ne'
      · rename_i hge
        obtain ⟨c, cs, hcs, hc⟩ := ih (n / 10) (by omega) (by omega)
        exact ⟨c, cs ++ [(n % 10).digitChar], by rw [hcs]; rfl, hc⟩

/-- Reading what was written gives the number back. -/
@[simp] theorem parse_toString (n : Nat) : parse (toString n) = some n := by
  have htl : (toString n).toList = Nat.toDigits 10 n := by
    rw [Nat.toString_eq_repr, Nat.toList_repr]
  rcases Nat.eq_zero_or_pos n with rfl | hn
  · decide
  · obtain ⟨c, cs, hcs, hc⟩ := head_toDigits hn
    have hdigits : ∀ d ∈ c :: cs, d.isDigit = true := by
      intro d hd
      rw [← hcs] at hd
      exact Nat.isDigit_of_mem_toDigits (by decide) (by decide) hd
    have hvalue : Nat.ofDigitChars 10 (c :: cs) 0 = n := by
      rw [← hcs]
      exact Nat.ofDigitChars_ten_toDigits
    rw [parse, htl, hcs]
    simp only [hc, if_false, List.all_eq_true.mpr hdigits, if_true, hvalue]

theorem toDigits_digit {c : Char} (h : c.isDigit = true) :
    c.toNat - 48 < 10 ∧ Nat.toDigits 10 (c.toNat - 48) = [c] := by
  have hb : 48 ≤ c.toNat ∧ c.toNat ≤ 57 := by
    simp only [Char.isDigit, Bool.and_eq_true, decide_eq_true_eq] at h
    exact ⟨by simpa [UInt32.le_iff_toNat_le] using h.1, by simpa [UInt32.le_iff_toNat_le] using h.2⟩
  obtain ⟨h1, h2⟩ := hb
  refine ⟨by omega, ?_⟩
  rw [Nat.toDigits_of_lt_base (by omega)]
  obtain ⟨k, hk⟩ : ∃ k, c.toNat = k := ⟨_, rfl⟩
  have hc : c = Char.ofNat k := by rw [← hk, Char.ofNat_toNat]
  rw [hk] at h1 h2 ⊢
  rw [hc]
  interval_cases k <;> decide

/-- The digits of the value of a numeral without leading zeros are the numeral. -/
theorem toDigits_ofDigitChars {c : Char} {cs : List Char} (hc : c ≠ '0')
    (h : ∀ d ∈ c :: cs, d.isDigit = true) :
    Nat.toDigits 10 (Nat.ofDigitChars 10 (c :: cs) 0) = c :: cs ∧
      0 < Nat.ofDigitChars 10 (c :: cs) 0 := by
  induction cs using List.reverseRecOn with
  | nil =>
      have hd := toDigits_digit (h c (by simp))
      have hv : Nat.ofDigitChars 10 [c] 0 = c.toNat - 48 := by
        simp [Nat.ofDigitChars]
      rw [hv]
      refine ⟨hd.2, Nat.pos_of_ne_zero ?_⟩
      intro h0
      rw [h0] at hd
      exact hc (List.singleton_inj.mp hd.2).symm
  | append_singleton cs d ih =>
      have hd := toDigits_digit (h d (by simp))
      obtain ⟨ih1, ih2⟩ := ih (by
        intro e he
        refine h e ?_
        rcases List.mem_cons.mp he with rfl | he
        · simp
        · simp [he])
      have hv : Nat.ofDigitChars 10 (c :: (cs ++ [d])) 0
          = 10 * Nat.ofDigitChars 10 (c :: cs) 0 + (d.toNat - 48) := by
        rw [← List.cons_append, Nat.ofDigitChars_append]
        simp [Nat.ofDigitChars]
      rw [hv]
      refine ⟨?_, by omega⟩
      rw [← Nat.toDigits_append_toDigits (by decide) ih2 hd.1, ih1, hd.2, List.cons_append]

/-- **A canonical numeral is the decimal form of its value.** -/
theorem eq_toString_of_parse {s : String} {n : Nat} (h : parse s = some n) : s = toString n := by
  have hlist : s.toList = Nat.toDigits 10 n := by
    rw [parse] at h
    split at h
    · cases h
    · rename_i c cs hcs
      rw [hcs]
      split at h
      · rename_i hc
        split at h
        · rename_i hnil
          cases h
          rw [hc, hnil]
          decide
        · cases h
      · rename_i hc
        split at h
        · rename_i hall
          cases h
          exact (toDigits_ofDigitChars hc (List.all_eq_true.mp hall)).1.symm
        · cases h
  rw [← @String.ofList_toList s, hlist, Nat.toString_eq_ofList_toDigits]

/-- Numerals with the same value are the same. -/
theorem parse_inj {s t : String} {n : Nat} (hs : parse s = some n) (ht : parse t = some n) :
    s = t :=
  (eq_toString_of_parse hs).trans (eq_toString_of_parse ht).symm

end Base.Decimal

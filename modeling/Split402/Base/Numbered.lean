import Mathlib.Data.List.Range
import Mathlib.Data.List.Nodup

/-! # Numbered lists

A history that is only appended to: its records carry the numbers from one on, in their order. So
the numbers have no gaps, a number stands for one record, and the last record has the number that is
the length. -/

namespace Base

variable {α : Type*} (number : α → Nat)

/-- The records carry the numbers from `1` to `n`. -/
def Numbered (l : List α) (n : Nat) : Prop := l.map number = List.range' 1 n

attribute [grind =] Numbered

variable {number} {l : List α} {n : Nat} {a b : α}

theorem numbered_singleton (h : number a = 1) : Numbered number [a] 1 := by
  rw [Numbered, List.map_singleton, h]
  rfl

theorem Numbered.append (h : Numbered number l n) (ha : number a = n + 1) :
    Numbered number (l ++ [a]) (n + 1) := by
  rw [Numbered, List.map_append, List.map_singleton, show l.map number = _ from h, ha]
  have hlast : List.range' 1 (n + 1) = List.range' 1 n ++ [1 + 1 * n] := List.range'_concat
  rw [hlast]
  have hnumber : n + 1 = 1 + 1 * n := by omega
  rw [hnumber]

theorem Numbered.length_eq (h : Numbered number l n) : l.length = n := by
  have hlength := congrArg List.length (show l.map number = List.range' 1 n from h)
  rwa [List.length_map, List.length_range'] at hlength

/-- The numbers are exactly those from `1` to `n`. -/
theorem Numbered.exists_iff (h : Numbered number l n) {k : Nat} :
    (∃ a ∈ l, number a = k) ↔ 1 ≤ k ∧ k ≤ n := by
  rw [← List.mem_map, show l.map number = List.range' 1 n from h, List.mem_range'_1]
  omega

theorem Numbered.pos (h : Numbered number l n) (ha : a ∈ l) : 1 ≤ number a ∧ number a ≤ n :=
  h.exists_iff.mp ⟨a, ha, rfl⟩

/-- A number stands for one record. -/
theorem Numbered.eq_of_number (h : Numbered number l n) (ha : a ∈ l) (hb : b ∈ l)
    (heq : number a = number b) : a = b := by
  have hnodup : (l.map number).Nodup := by
    rw [show l.map number = List.range' 1 n from h]
    exact List.nodup_range'
  exact List.inj_on_of_nodup_map hnodup ha hb heq

/-- The last record has the last number. -/
theorem Numbered.number_getLast (h : Numbered number l n) (ha : l.getLast? = some a) :
    number a = n := by
  have hlast : (l.map number).getLast? = some (number a) := by
    rw [List.getLast?_map, ha, Option.map_some]
  rw [show l.map number = List.range' 1 n from h] at hlast
  cases n with
  | zero => cases hlast
  | succ n =>
      rw [List.range'_concat, List.getLast?_concat, Option.some.injEq] at hlast
      omega

/-- Records may be exchanged for others of the same numbers. -/
theorem Numbered.map (h : Numbered number l n) {f : α → α} (hf : ∀ a, number (f a) = number a) :
    Numbered number (l.map f) n := by
  have hnumber : (l.map f).map number = l.map number := by
    rw [List.map_map]
    exact List.map_congr_left fun a _ => hf a
  exact hnumber.trans h

end Base

import Mathlib.Algebra.GroupWithZero.Nat
import Split402.Base.Except
import Split402.Base.Sums
import Split402.Base.Table

/-! # Tallies

Totals by key, gathered in one pass over a list: an element is added to the total of its key, which
starts empty. What a key has in the end is what its own elements come to, in their order. -/

namespace Base

/-- Totals by their keys, in the order in which the keys were seen. -/
abbrev Tally (κ β : Type) : Type := Table (Prod.fst : κ × β → κ)

variable {α κ β ε : Type} [DecidableEq κ] {key : α → κ} {zero : β} {add : β → α → Except ε β}

/-- The total of a key. -/
def Tally.get (tally : Tally κ β) (zero : β) (k : κ) : β := ((tally.find? k).map Prod.snd).getD zero

/-- The totals of some elements. -/
def tallyM (key : α → κ) (zero : β) (add : β → α → Except ε β) (xs : List α) :
    Except ε (Tally κ β) :=
  xs.foldlM (fun tally x => do
    let total ← add (Tally.get tally zero (key x)) x
    pure (Table.upsert tally (key x, total))) Table.empty

theorem Tally.get_upsert {tally : Tally κ β} {k k' : κ} {total : β} :
    Tally.get (tally.upsert (k, total)) zero k' = if k = k' then total else Tally.get tally zero k' := by
  rw [Tally.get, Table.find?_upsert]
  by_cases h : k = k'
  · rw [if_pos h, if_pos h]
    rfl
  · rw [if_neg h, if_neg h]
    rfl

/-- The rows are the totals of the keys that have been seen. -/
theorem Tally.get_of_mem {tally : Tally κ β} {row : κ × β} (h : row ∈ tally) :
    Tally.get tally zero row.1 = row.2 := by
  rw [Tally.get, Table.find?_of_mem h]
  rfl

/-- From some totals on: each key goes on with its own elements. -/
theorem foldlM_tally {xs : List α} {start tally : Tally κ β}
    (h : xs.foldlM (fun tally x => do
      let total ← add (Tally.get tally zero (key x)) x
      pure (Table.upsert tally (key x, total))) start = .ok tally) :
    (∀ k, (xs.filter (key · = k)).foldlM add (Tally.get start zero k) =
      .ok (Tally.get tally zero k)) ∧
    ∀ k, tally.has k = true ↔ start.has k = true ∨ ∃ x ∈ xs, key x = k := by
  induction xs generalizing start with
  | nil =>
      rw [List.foldlM_nil, pure_eq_ok] at h
      subst h
      exact ⟨fun k => rfl, fun k => by simp⟩
  | cons x xs ih =>
      rw [List.foldlM_cons] at h
      obtain ⟨next, hnext, h⟩ := bind_eq_ok.mp h
      obtain ⟨total, htotal, hnext⟩ := bind_eq_ok.mp hnext
      rw [pure_eq_ok] at hnext
      subst hnext
      obtain ⟨htotals, hkeys⟩ := ih h
      constructor
      · intro k
        have hrest := htotals k
        rw [Tally.get_upsert] at hrest
        by_cases hk : key x = k
        · rw [if_pos hk] at hrest
          rw [List.filter_cons_of_pos (by simpa using hk), List.foldlM_cons, ← hk, htotal]
          rw [hk]
          exact hrest
        · rw [if_neg hk] at hrest
          rw [List.filter_cons_of_neg (by simpa using hk)]
          exact hrest
      · intro k
        rw [hkeys k, Table.has_upsert, or_assoc, or_left_comm]
        simp

/-- **What a key has is what its elements come to**, and the keys are those of the elements. -/
theorem tallyM_eq_ok {xs : List α} {tally : Tally κ β} (h : tallyM key zero add xs = .ok tally) :
    (∀ k, (xs.filter (key · = k)).foldlM add zero = .ok (Tally.get tally zero k)) ∧
    ∀ k, tally.has k = true ↔ ∃ x ∈ xs, key x = k := by
  obtain ⟨htotals, hkeys⟩ := foldlM_tally h
  refine ⟨htotals, fun k => ?_⟩
  rw [hkeys k]
  simp [Table.has]

/-- What each element adds to a measure, the elements of a fold add together. -/
theorem measure_of_foldlM {xs : List α} {b b' : β} {measure : β → Nat} {share : α → Nat}
    (hadd : ∀ b x b', add b x = .ok b' → measure b' = measure b + share x)
    (h : xs.foldlM add b = .ok b') : measure b' = measure b + (xs.map share).sum := by
  induction xs generalizing b with
  | nil =>
      rw [List.foldlM_nil, pure_eq_ok] at h
      rw [h]
      rfl
  | cons x xs ih =>
      rw [List.foldlM_cons] at h
      obtain ⟨next, hnext, h⟩ := bind_eq_ok.mp h
      rw [ih h, hadd b x next hnext, List.map_cons, List.sum_cons]
      omega

/-- The elements under some different keys together are those whose key is one of them. -/
theorem sum_over_keys {keys : List κ} (hkeys : keys.Nodup) (xs : List α) (share : α → Nat) :
    (keys.map fun k => ((xs.filter (key · = k)).map share).sum).sum =
      ((xs.filter (key · ∈ keys)).map share).sum := by
  induction keys with
  | nil => simp
  | cons k keys ih =>
      obtain ⟨hnew, hkeys⟩ := List.nodup_cons.mp hkeys
      rw [List.map_cons, List.sum_cons, ih hkeys, ← sum_map_ite_filter, ← sum_map_ite_filter,
        ← sum_map_ite_filter, ← List.sum_map_add]
      congr 1
      refine List.map_congr_left fun x _ => ?_
      by_cases hk : key x = k
      · subst hk
        simp [hnew]
      · simp [hk]

end Base

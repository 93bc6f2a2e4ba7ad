import Mathlib.Algebra.BigOperators.Group.List.Basic
import Mathlib.Data.List.Perm.Basic

/-! # Sums over rows and over their keys

Rows with pairwise different keys, some of which are listed: the sum of the shares of the listed rows
is the sum over the list of keys. -/

namespace Base

variable {ρ κ M : Type*} [DecidableEq κ] [AddCommMonoid M] {key : ρ → κ}

/-- The shares of the rows that satisfy a test add up to those of the rows it keeps. -/
theorem sum_map_ite_filter (rows : List ρ) (test : ρ → Bool) (share : ρ → M) :
    (rows.map (fun row => if test row then share row else 0)).sum =
      ((rows.filter test).map share).sum := by
  induction rows with
  | nil => rfl
  | cons row rest ih =>
      rw [List.map_cons, List.sum_cons, ih, List.filter_cons]
      by_cases h : test row = true
      · rw [if_pos h, if_pos h, List.map_cons, List.sum_cons]
      · rw [if_neg h, if_neg h, zero_add]

/-- **The shares of the listed rows are what their keys are worth.** -/
theorem sum_map_listed {rows : List ρ} (hrows : (rows.map key).Nodup) {keys : List κ}
    (hkeys : keys.Nodup) (hall : ∀ k ∈ keys, ∃ row ∈ rows, key row = k) {share : ρ → M}
    {worth : κ → M} (hworth : ∀ row ∈ rows, worth (key row) = share row) :
    (rows.map (fun row => if key row ∈ keys then share row else 0)).sum = (keys.map worth).sum := by
  have hfilter := sum_map_ite_filter rows (fun row => decide (key row ∈ keys)) share
  simp only [decide_eq_true_eq] at hfilter
  have hshare : (rows.filter (fun row => decide (key row ∈ keys))).map share =
      ((rows.filter (fun row => decide (key row ∈ keys))).map key).map worth := by
    rw [List.map_map]
    refine List.map_congr_left fun row hrow => ?_
    exact (hworth row (List.mem_filter.mp hrow).1).symm
  have hperm : ((rows.filter (fun row => decide (key row ∈ keys))).map key).Perm keys := by
    refine (List.perm_ext_iff_of_nodup (hrows.sublist (List.filter_sublist.map key)) hkeys).mpr ?_
    intro k
    constructor
    · intro h
      obtain ⟨row, hrow, rfl⟩ := List.mem_map.mp h
      simpa using (List.mem_filter.mp hrow).2
    · intro h
      obtain ⟨row, hrow, rfl⟩ := hall k h
      exact List.mem_map_of_mem (List.mem_filter.mpr ⟨hrow, by simpa using h⟩)
  rw [hfilter, hshare, (hperm.map worth).sum_eq]

end Base

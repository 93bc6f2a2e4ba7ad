import Mathlib.Data.List.Sort
import Split402.Base.Except

/-! # Stable sorting by a comparator

`sortBy` sorts by a comparator that returns an `Ordering`, as Mathlib's insertion sort over
the order "does not come after". `sortM` is the same sort by a comparator that may throw; the
first comparison that throws ends it. -/

namespace Base

variable {ε α : Type}

section Pure

variable (cmp : α → α → Ordering)

/-- `a` may stand before `b`. -/
def NotAfter (a b : α) : Prop := cmp a b ≠ .gt

attribute [grind =] NotAfter

theorem notAfter_iff {a b : α} : NotAfter cmp a b ↔ (cmp a b).isLE = true := by
  rw [NotAfter]
  cases cmp a b <;> simp

instance : DecidableRel (NotAfter cmp) := fun a b => inferInstanceAs (Decidable (cmp a b ≠ .gt))

/-- Stable sort by a comparator. -/
def sortBy (l : List α) : List α := l.insertionSort (NotAfter cmp)

theorem sortBy_perm (l : List α) : (sortBy cmp l).Perm l := List.perm_insertionSort _ l

@[simp] theorem mem_sortBy {l : List α} {a : α} : a ∈ sortBy cmp l ↔ a ∈ l :=
  (sortBy_perm cmp l).mem_iff

/-- Sorting commutes with a map that the comparator does not see. -/
theorem sortBy_map {β : Type} {cmp' : β → β → Ordering} {f : α → β}
    (hf : ∀ a b, cmp' (f a) (f b) = cmp a b) (l : List α) :
    sortBy cmp' (l.map f) = (sortBy cmp l).map f := by
  refine (List.map_insertionSort (NotAfter cmp) (NotAfter cmp') f l fun a _ b _ => ?_).symm
  rw [NotAfter, NotAfter, hf]

/-- **A sort by an order that tells the elements apart does not depend on the order of its input.** -/
theorem sortBy_perm_eq [Std.TransCmp cmp] {xs ys : List α} (hperm : xs.Perm ys)
    (hapart : ∀ a ∈ xs, ∀ b ∈ xs, cmp a b = .eq → a = b) : sortBy cmp xs = sortBy cmp ys := by
  have htotal : Std.Total (NotAfter cmp) := by
    refine ⟨fun a b => ?_⟩
    rw [NotAfter, NotAfter, @Std.OrientedCmp.eq_swap α cmp _ a b]
    cases cmp b a <;> simp
  have htrans : IsTrans α (NotAfter cmp) := by
    refine ⟨fun a b c hab hbc => ?_⟩
    rw [notAfter_iff] at hab hbc ⊢
    exact Std.TransCmp.isLE_trans hab hbc
  refine List.Perm.eq_of_pairwise ?_ (List.pairwise_insertionSort _ xs)
    (List.pairwise_insertionSort _ ys)
    ((sortBy_perm _ xs).trans (hperm.trans (sortBy_perm _ ys).symm))
  -- neither of two elements comes after the other only when they are one
  intro a b ha hb hab hba
  rw [notAfter_iff] at hab hba
  have ha := (mem_sortBy cmp).mp ha
  have hb := hperm.mem_iff.mpr ((mem_sortBy cmp).mp hb)
  exact hapart a ha b hb (Std.OrientedCmp.isLE_antisymm hab hba)

/-- **Lists with distinct keys are sorted by their keys alike when they have the same
elements.** -/
theorem sortBy_key_eq_iff {κ : Type} [Ord κ] [Std.TransOrd κ] [Std.LawfulEqOrd κ] (key : α → κ)
    {xs ys : List α} (hx : (xs.map key).Nodup) (hy : (ys.map key).Nodup) :
    sortBy (fun a b => compare (key a) (key b)) xs = sortBy (fun a b => compare (key a) (key b)) ys ↔
      ∀ a, a ∈ xs ↔ a ∈ ys := by
  have hperm : (∀ a, a ∈ xs ↔ a ∈ ys) ↔ xs.Perm ys :=
    (List.perm_ext_iff_of_nodup (List.Nodup.of_map key hx) (List.Nodup.of_map key hy)).symm
  rw [hperm]
  constructor
  · intro h
    exact (sortBy_perm _ xs).symm.trans (h ▸ sortBy_perm _ ys)
  · intro h
    have htrans : Std.TransCmp (fun a b : α => compare (key a) (key b)) :=
      inferInstanceAs (Std.TransCmp (compareOn key))
    refine sortBy_perm_eq _ h ?_
    intro a ha b hb hab
    have hkey : key a = key b := Std.LawfulEqCmp.eq_of_compare hab
    exact List.inj_on_of_nodup_map hx ha hb hkey

end Pure

section Fallible

variable (cmp : α → α → Except ε Ordering)

/-- Insert `a` before the first element it does not come after. -/
def insertM (a : α) : List α → Except ε (List α)
  | [] => pure [a]
  | b :: l => do
      let o ← cmp a b
      if o = .gt then
        let l' ← insertM a l
        return b :: l'
      else
        return a :: b :: l

attribute [grind =] insertM

/-- Stable sort by a comparator that may throw. -/
def sortM : List α → Except ε (List α)
  | [] => pure []
  | a :: l => do
      let l' ← sortM l
      insertM cmp a l'

attribute [grind =] sortM

variable {cmp}

theorem insertM_perm {a : α} {l l' : List α} (h : insertM cmp a l = .ok l') :
    l'.Perm (a :: l) := by
  induction l generalizing l' with
  | nil =>
      rw [insertM, pure_eq_ok] at h
      rw [← h]
  | cons b l ih =>
      rw [insertM] at h
      obtain ⟨o, -, h⟩ := bind_eq_ok.mp h
      split at h
      · obtain ⟨t, ht, h⟩ := bind_eq_ok.mp h
        rw [pure_eq_ok] at h
        subst h
        exact ((ih ht).cons b).trans (List.Perm.swap a b l)
      · rw [pure_eq_ok] at h
        rw [← h]

/-- A sort that returns rearranges its input. -/
theorem sortM_perm {l l' : List α} (h : sortM cmp l = .ok l') : l'.Perm l := by
  induction l generalizing l' with
  | nil =>
      rw [sortM, pure_eq_ok] at h
      rw [← h]
  | cons a l ih =>
      rw [sortM] at h
      obtain ⟨t, ht, h⟩ := bind_eq_ok.mp h
      exact (insertM_perm h).trans ((ih ht).cons a)

end Fallible

end Base

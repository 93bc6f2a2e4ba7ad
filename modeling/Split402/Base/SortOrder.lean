import Mathlib.Data.List.Pairwise
import Split402.Base.Sort

/-! # What decides the result of a sort

A comparator need not be an order on the whole type. If it follows a key wherever two keys differ,
lists with distinct keys come out in the order of their keys. And if it orders the elements of a list
strictly, or throws one fixed error for some of them, the result of the sort does not depend on the
order in which they came in, the error included. -/

namespace Base

variable {ε α : Type}

/-! ## Keys that differ -/

section Key

variable {κ : Type} [LinearOrder κ] {cmp : α → α → Ordering} {key : α → κ}

/-- The comparator puts the smaller key first, and says nothing of equal keys. -/
def FollowsKey (cmp : α → α → Ordering) (key : α → κ) : Prop :=
  ∀ a b, key a ≠ key b → (cmp a b = .gt ↔ key b < key a)

theorem pairwise_orderedInsert_key (h : FollowsKey cmp key) {a : α} {l : List α}
    (hl : l.Pairwise (fun x y => key x < key y)) (ha : ∀ b ∈ l, key a ≠ key b) :
    (l.orderedInsert (NotAfter cmp) a).Pairwise (fun x y => key x < key y) := by
  induction l with
  | nil => simp
  | cons b l ih =>
      obtain ⟨hb, hl⟩ := List.pairwise_cons.mp hl
      have hne := ha b List.mem_cons_self
      have hcmp := h a b hne
      rw [List.orderedInsert_cons]
      by_cases hab : NotAfter cmp a b
      · -- `a` goes before `b`, hence before all of them
        have hlt : key a < key b := lt_of_le_of_ne (not_lt.mp (mt hcmp.mpr hab)) hne
        rw [if_pos hab]
        refine List.pairwise_cons.mpr ⟨?_, List.pairwise_cons.mpr ⟨hb, hl⟩⟩
        intro c hc
        rcases List.mem_cons.mp hc with rfl | hc
        · exact hlt
        · exact hlt.trans (hb c hc)
      · have hlt : key b < key a := hcmp.mp (not_not.mp hab)
        rw [if_neg hab]
        refine List.pairwise_cons.mpr
          ⟨?_, ih hl (fun c hc => ha c (List.mem_cons_of_mem _ hc))⟩
        intro c hc
        rcases List.mem_orderedInsert _ |>.mp hc with rfl | hc
        · exact hlt
        · exact hb c hc

/-- **Sorted by a comparator that follows a key, elements with distinct keys are in the order of
their keys.** -/
theorem pairwise_sortBy_key (h : FollowsKey cmp key) {l : List α} (hl : (l.map key).Nodup) :
    (sortBy cmp l).Pairwise (fun x y => key x < key y) := by
  induction l with
  | nil => exact List.Pairwise.nil
  | cons a l ih =>
      rw [List.map_cons, List.nodup_cons] at hl
      refine pairwise_orderedInsert_key h (ih hl.2) fun b hb heq => hl.1 ?_
      rw [heq]
      exact List.mem_map_of_mem ((mem_sortBy cmp).mp hb)

/-- The first element with a property is the one of least key among those that have it. -/
theorem find?_eq_some_iff_of_pairwise {p : α → Bool} {l : List α}
    (hl : l.Pairwise (fun x y => key x < key y)) {a : α} :
    l.find? p = some a ↔ a ∈ l ∧ p a = true ∧ ∀ b ∈ l, p b = true → key a ≤ key b := by
  induction l with
  | nil => simp
  | cons b l ih =>
      obtain ⟨hb, hl⟩ := List.pairwise_cons.mp hl
      by_cases hpb : p b = true
      · rw [List.find?_cons_of_pos hpb, Option.some_inj]
        constructor
        · rintro rfl
          refine ⟨List.mem_cons_self, hpb, fun c hc _ => ?_⟩
          rcases List.mem_cons.mp hc with rfl | hc
          · exact le_refl _
          · exact (hb c hc).le
        · rintro ⟨ha, -, hleast⟩
          rcases List.mem_cons.mp ha with rfl | ha
          · rfl
          · exact absurd (hb a ha) (not_lt.mpr (hleast b List.mem_cons_self hpb))
      · rw [List.find?_cons_of_neg hpb, ih hl]
        constructor
        · rintro ⟨ha, hpa, hleast⟩
          refine ⟨List.mem_cons_of_mem _ ha, hpa, fun c hc hpc => ?_⟩
          rcases List.mem_cons.mp hc with rfl | hc
          · exact absurd hpc hpb
          · exact hleast c hc hpc
        · rintro ⟨ha, hpa, hleast⟩
          rcases List.mem_cons.mp ha with rfl | ha
          · exact absurd hpa hpb
          · exact ⟨ha, hpa, fun c hc => hleast c (List.mem_cons_of_mem _ hc)⟩

end Key

/-! ## Comparators that throw -/

section Throws

variable {cmp : α → α → Except ε Ordering} {error : ε} {a b : α} {l : List α}

/-- The comparator is a preorder of what it can compare, and for the rest throws one error. -/
structure OrdersOrThrows (cmp : α → α → Except ε Ordering) (error : ε) : Prop where
  swap : ∀ a b, cmp b a = (cmp a b).map Ordering.swap
  trans : ∀ a b c o p, cmp a b = .ok o → cmp b c = .ok p → o.isLE = true → p.isLE = true →
    cmp a c = .ok (o.then p)
  throws : ∀ a b e, cmp a b = .error e → e = error

/-- The first comparison, and the second when the first one finds two elements equal. -/
def lexM (first second : Except ε Ordering) : Except ε Ordering :=
  first >>= fun o => if o = .eq then second else .ok o

theorem lexM_eq_ok {first second : Except ε Ordering} {o : Ordering}
    (h : lexM first second = .ok o) :
    ∃ o₁, first = .ok o₁ ∧ (o₁ = .eq ∧ second = .ok o ∨ o₁ ≠ .eq ∧ o₁ = o) := by
  obtain ⟨o₁, hfirst, h⟩ := bind_eq_ok.mp h
  refine ⟨o₁, hfirst, ?_⟩
  split at h
  · exact .inl ⟨‹_›, h⟩
  · injection h with h
    exact .inr ⟨‹_›, h⟩

/-- The comparator does not take the two for equal. -/
def Separates (cmp : α → α → Except ε Ordering) (a b : α) : Prop := cmp a b ≠ .ok .eq

theorem insertM_of_error {e : ε} (h : cmp a b = .error e) :
    insertM cmp a (b :: l) = .error e := by
  rw [insertM, h]
  rfl

theorem insertM_of_lt (h : cmp a b = .ok .lt) : insertM cmp a (b :: l) = .ok (a :: b :: l) := by
  rw [insertM, h]
  rfl

theorem insertM_of_gt (h : cmp a b = .ok .gt) :
    insertM cmp a (b :: l) = (insertM cmp a l).map (b :: ·) := by
  rw [insertM, h]
  cases insertM cmp a l <;> rfl

namespace OrdersOrThrows

variable (h : OrdersOrThrows cmp error)

include h

theorem gt_of_lt (hab : cmp a b = .ok .lt) : cmp b a = .ok .gt := by
  rw [h.swap a b, hab]
  rfl

theorem lt_trans (hab : cmp a b = .ok .lt) {c : α} (hbc : cmp b c = .ok .lt) :
    cmp a c = .ok .lt := h.trans a b c .lt .lt hab hbc rfl rfl

theorem lt_of_gt (hab : cmp a b = .ok .gt) : cmp b a = .ok .lt := by
  rw [h.swap a b, hab]
  rfl

/-- What a comparison of two elements that are not equal can give. -/
theorem cases_of_separates (hab : Separates cmp a b) :
    cmp a b = .error error ∧ cmp b a = .error error ∨
      cmp a b = .ok .lt ∧ cmp b a = .ok .gt ∨ cmp a b = .ok .gt ∧ cmp b a = .ok .lt := by
  cases hcmp : cmp a b with
  | error e =>
      have he := h.throws a b e hcmp
      subst he
      refine .inl ⟨rfl, ?_⟩
      rw [h.swap a b, hcmp]
      rfl
  | ok o =>
      cases o with
      | lt => exact .inr (.inl ⟨rfl, h.gt_of_lt hcmp⟩)
      | eq => exact absurd hcmp hab
      | gt => exact .inr (.inr ⟨rfl, h.lt_of_gt hcmp⟩)

theorem separates_symm (hab : Separates cmp a b) : Separates cmp b a := by
  intro heq
  refine hab ?_
  rw [h.swap b a, heq]
  rfl

theorem insertM_error {e : ε} (hi : insertM cmp a l = .error e) : e = error := by
  induction l with
  | nil => cases hi
  | cons b l ih =>
      cases hcmp : cmp a b with
      | error e' =>
          rw [insertM_of_error hcmp] at hi
          cases hi
          exact h.throws a b _ hcmp
      | ok o =>
          rw [insertM, hcmp] at hi
          by_cases ho : o = .gt
          · subst ho
            cases hrest : insertM cmp a l with
            | error e' =>
                simp only [hrest] at hi
                cases hi
                exact ih hrest
            | ok t =>
                simp only [hrest] at hi
                cases hi
          · simp only [bind, Except.bind, if_neg ho] at hi
            cases hi

/-- After a comparison that throws, whatever the rest of the insertion did, the error is the one. -/
theorem insertM_bind_error {t : Except ε (List α)} (ht : ∀ e, t = .error e → e = error)
    (hab : cmp a b = .error error) :
    (t.map (b :: ·) >>= insertM cmp a) = .error error := by
  cases t with
  | error e =>
      have := ht e rfl
      subst this
      rfl
  | ok l => exact insertM_of_error hab

/-- One element cannot be compared to the head, and the other goes before it. -/
theorem insertM_comm_error_lt {x : α} (hab : Separates cmp a b) (ha : cmp a x = .error error)
    (hb : cmp b x = .ok .lt) :
    (insertM cmp a (x :: l) >>= insertM cmp b) = (insertM cmp b (x :: l) >>= insertM cmp a) := by
  rw [insertM_of_error ha, insertM_of_lt hb]
  change Except.error error = insertM cmp a (b :: x :: l)
  rcases h.cases_of_separates hab with ⟨h1, -⟩ | ⟨h1, -⟩ | ⟨h1, -⟩
  · rw [insertM_of_error h1]
  · have := h.lt_trans h1 hb
    rw [ha] at this
    cases this
  · rw [insertM_of_gt h1, insertM_of_error ha]
    rfl

/-- One element cannot be compared to the head, and the other goes behind it. -/
theorem insertM_comm_error_gt {x : α} (ha : cmp a x = .error error) (hb : cmp b x = .ok .gt) :
    (insertM cmp a (x :: l) >>= insertM cmp b) = (insertM cmp b (x :: l) >>= insertM cmp a) := by
  rw [insertM_of_error ha, insertM_of_gt hb,
    h.insertM_bind_error (fun e he => h.insertM_error he) ha]
  rfl

/-- One element goes before the head, and the other behind it. -/
theorem insertM_comm_lt_gt {x : α} (ha : cmp a x = .ok .lt) (hb : cmp b x = .ok .gt) :
    (insertM cmp a (x :: l) >>= insertM cmp b) = (insertM cmp b (x :: l) >>= insertM cmp a) := by
  have hab := h.lt_trans ha (h.lt_of_gt hb)
  rw [insertM_of_lt ha]
  change insertM cmp b (a :: x :: l) = _
  rw [insertM_of_gt (h.gt_of_lt hab), insertM_of_gt hb]
  cases insertM cmp b l with
  | error e => rfl
  | ok t =>
      change _ = insertM cmp a (x :: t)
      rw [insertM_of_lt ha]
      rfl

/-- **Two insertions commute.** -/
theorem insertM_comm (hab : Separates cmp a b)
    (hl : ∀ x ∈ l, Separates cmp a x ∧ Separates cmp b x) :
    (insertM cmp a l >>= insertM cmp b) = (insertM cmp b l >>= insertM cmp a) := by
  have hba := h.separates_symm hab
  induction l with
  | nil =>
      change insertM cmp b [a] = insertM cmp a [b]
      rcases h.cases_of_separates hab with ⟨h1, h2⟩ | ⟨h1, h2⟩ | ⟨h1, h2⟩
      · rw [insertM_of_error h1, insertM_of_error h2]
      · rw [insertM_of_lt h1, insertM_of_gt h2]
        rfl
      · rw [insertM_of_gt h1, insertM_of_lt h2]
        rfl
  | cons x l ih =>
      have ih := ih fun y hy => hl y (List.mem_cons_of_mem _ hy)
      obtain ⟨hax, hbx⟩ := hl x List.mem_cons_self
      rcases h.cases_of_separates hax with ⟨ha, -⟩ | ⟨ha, -⟩ | ⟨ha, -⟩
      · rcases h.cases_of_separates hbx with ⟨hb, -⟩ | ⟨hb, -⟩ | ⟨hb, -⟩
        · rw [insertM_of_error ha, insertM_of_error hb]
          rfl
        · exact h.insertM_comm_error_lt hab ha hb
        · exact h.insertM_comm_error_gt ha hb
      · rcases h.cases_of_separates hbx with ⟨hb, -⟩ | ⟨hb, -⟩ | ⟨hb, -⟩
        · exact (h.insertM_comm_error_lt hba hb ha).symm
        · -- both go before the head, in their own order
          rw [insertM_of_lt ha, insertM_of_lt hb]
          change insertM cmp b (a :: x :: l) = insertM cmp a (b :: x :: l)
          rcases h.cases_of_separates hab with ⟨h1, h2⟩ | ⟨h1, h2⟩ | ⟨h1, h2⟩
          · rw [insertM_of_error h1, insertM_of_error h2]
          · rw [insertM_of_lt h1, insertM_of_gt h2, insertM_of_lt hb]
            rfl
          · rw [insertM_of_gt h1, insertM_of_lt h2, insertM_of_lt ha]
            rfl
        · exact h.insertM_comm_lt_gt ha hb
      · rcases h.cases_of_separates hbx with ⟨hb, -⟩ | ⟨hb, -⟩ | ⟨hb, -⟩
        · exact (h.insertM_comm_error_gt hb ha).symm
        · exact (h.insertM_comm_lt_gt hb ha).symm
        · -- both go behind the head
          rw [insertM_of_gt ha, insertM_of_gt hb]
          have hleft : ((insertM cmp a l).map (x :: ·) >>= insertM cmp b) =
              (insertM cmp a l >>= insertM cmp b).map (x :: ·) := by
            cases insertM cmp a l with
            | error e => rfl
            | ok t => exact insertM_of_gt hb
          have hright : ((insertM cmp b l).map (x :: ·) >>= insertM cmp a) =
              (insertM cmp b l >>= insertM cmp a).map (x :: ·) := by
            cases insertM cmp b l with
            | error e => rfl
            | ok t => exact insertM_of_gt ha
          rw [hleft, hright, ih]

omit h in
/-- A comparator that does not throw. -/
theorem of_transCmp (compare : α → α → Ordering) [Std.TransCmp compare] (error : ε) :
    OrdersOrThrows (fun a b => .ok (compare a b)) error where
  swap a b := congrArg Except.ok Std.OrientedCmp.eq_swap
  trans a b c o p hab hbc ho hp := by
    injection hab with hab
    injection hbc with hbc
    subst hab hbc
    refine congrArg Except.ok ?_
    cases hc : compare a b with
    | lt =>
        rw [hc] at ho
        exact Std.TransCmp.lt_of_lt_of_isLE hc hp
    | eq => exact Std.TransCmp.congr_left hc
    | gt =>
        rw [hc] at ho
        cases ho
  throws a b e he := by cases he

/-- Comparing what is read off the elements. -/
theorem comap {β : Type} (f : β → α) : OrdersOrThrows (fun a b => cmp (f a) (f b)) error where
  swap a b := h.swap (f a) (f b)
  trans a b c := h.trans (f a) (f b) (f c)
  throws a b := h.throws (f a) (f b)

/-- One comparator, and another where it takes two elements for equal. -/
theorem lex {cmp' : α → α → Except ε Ordering} (h' : OrdersOrThrows cmp' error) :
    OrdersOrThrows (fun a b => lexM (cmp a b) (cmp' a b)) error where
  swap a b := by
    rw [h.swap a b, h'.swap a b]
    cases cmp a b with
    | error e => rfl
    | ok o => cases o <;> rfl
  trans a b c o p hab hbc ho hp := by
    obtain ⟨o₁, hab₁, hor⟩ := lexM_eq_ok hab
    obtain ⟨p₁, hbc₁, hpr⟩ := lexM_eq_ok hbc
    have hac := h.trans a b c o₁ p₁ hab₁ hbc₁
    rcases hor with ⟨rfl, hab₂⟩ | ⟨hne, rfl⟩
    · rcases hpr with ⟨rfl, hbc₂⟩ | ⟨hne, rfl⟩
      · -- the first comparison tells none of them apart
        rw [hac rfl rfl]
        exact h'.trans a b c o p hab₂ hbc₂ ho hp
      · rw [hac rfl hp]
        cases p₁ with
        | lt => cases o <;> first | rfl | cases ho
        | eq => exact absurd rfl hne
        | gt => cases hp
    · have hp₁ : p₁.isLE = true := by
        rcases hpr with ⟨rfl, -⟩ | ⟨-, rfl⟩
        · rfl
        · exact hp
      cases o₁ with
      | lt =>
          rw [hac rfl hp₁]
          rfl
      | eq => exact absurd rfl hne
      | gt => cases ho
  throws a b e he := by
    cases hcmp : cmp a b with
    | error e' =>
        rw [hcmp] at he
        cases he
        exact h.throws a b _ hcmp
    | ok o =>
        rw [hcmp] at he
        cases o with
        | lt => cases he
        | eq => exact h'.throws a b e he
        | gt => cases he

end OrdersOrThrows

/-- **A sort by such a comparator does not depend on the order of its input.** -/
theorem sortM_perm_eq (h : OrdersOrThrows cmp error) {l l' : List α}
    (hl : l.Pairwise (Separates cmp)) (hperm : l.Perm l') : sortM cmp l = sortM cmp l' := by
  induction hperm with
  | nil => rfl
  | cons a hperm ih =>
      rw [sortM, sortM, ih (List.pairwise_cons.mp hl).2]
  | swap a b l =>
      obtain ⟨hb, hl⟩ := List.pairwise_cons.mp hl
      obtain ⟨ha, hl⟩ := List.pairwise_cons.mp hl
      simp only [sortM, bind_assoc]
      cases hs : sortM cmp l with
      | error e => rfl
      | ok s =>
          refine h.insertM_comm (h.separates_symm (hb a List.mem_cons_self)) fun x hx => ?_
          have hx := (sortM_perm hs).mem_iff.mp hx
          exact ⟨ha x hx, hb x (List.mem_cons_of_mem _ hx)⟩
  | trans hperm₁ hperm₂ ih₁ ih₂ =>
      rw [ih₁ hl]
      exact ih₂ (hperm₁.pairwise hl fun hab => h.separates_symm hab)

end Throws

end Base

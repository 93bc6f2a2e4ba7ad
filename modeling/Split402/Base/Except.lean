import Mathlib.Data.List.Forall2

/-! # Fallible code

Code that may throw is a value of `Except ε α`. A proof about such code never unfolds the
monad: it peels a `do` block apart with `bind_eq_ok`, one statement at a time, and reads a
`mapM` back as a pointwise relation with `mapM_eq_ok_iff`. -/

namespace Base

variable {ε α β : Type}

/-- A sequence of two computations returns exactly when both do. -/
theorem bind_eq_ok {x : Except ε α} {f : α → Except ε β} {b : β} :
    (x >>= f) = .ok b ↔ ∃ a, x = .ok a ∧ f a = .ok b := by
  cases x with
  | error e => exact ⟨nofun, fun ⟨_, h, _⟩ => nomatch h⟩
  | ok a =>
      constructor
      · exact fun h => ⟨a, rfl, h⟩
      · rintro ⟨_, ⟨⟩, h⟩
        exact h

/-- A computation mapped over its result returns exactly when the computation does. -/
theorem map_eq_ok {x : Except ε α} {f : α → β} {b : β} :
    (f <$> x) = .ok b ↔ ∃ a, x = .ok a ∧ f a = b := by
  cases x with
  | error e => exact ⟨nofun, fun ⟨_, h, _⟩ => nomatch h⟩
  | ok a =>
      constructor
      · exact fun h => ⟨a, rfl, Except.ok.inj h⟩
      · rintro ⟨_, ⟨⟩, h⟩
        exact congrArg Except.ok h

@[simp] theorem pure_eq_ok {a b : α} : (pure a : Except ε α) = .ok b ↔ a = b := by
  exact ⟨fun h => Except.ok.inj h, congrArg Except.ok⟩

@[simp] theorem throw_ne_ok {e : ε} {a : α} : (throw e : Except ε α) ≠ .ok a := by
  exact nofun

/-- A guard that throws lets the rest run exactly when its condition is false. -/
theorem guard_eq_ok {p : Prop} [Decidable p] {e : ε} {u : Unit} :
    (if p then throw e else pure () : Except ε Unit) = .ok u ↔ ¬ p := by
  by_cases h : p <;> simp [h]

@[simp] theorem mapError_eq_ok {ε' : Type} {f : ε → ε'} {x : Except ε α} {a : α} :
    x.mapError f = .ok a ↔ x = .ok a := by
  cases x with
  | error e => exact ⟨nofun, nofun⟩
  | ok b =>
      have hinj : ∀ {δ : Type}, (Except.ok b : Except δ α) = .ok a ↔ b = a := by simp
      exact hinj.trans hinj.symm

/-- Every result of the computation satisfies `P`. -/
def Ensures (P : α → Prop) (x : Except ε α) : Prop := ∀ a, x = .ok a → P a

theorem ensures_pure {P : α → Prop} {a : α} (h : P a) : Ensures P (pure a : Except ε α) := by
  intro b hb
  rw [← pure_eq_ok.mp hb]
  exact h

theorem ensures_throw {P : α → Prop} {e : ε} : Ensures P (throw e : Except ε α) :=
  fun _ h => absurd h throw_ne_ok

/-- What the rest ensures whatever the first part returns. -/
theorem ensures_bind {P : β → Prop} {x : Except ε α} {f : α → Except ε β}
    (h : ∀ a, x = .ok a → Ensures P (f a)) : Ensures P (x >>= f) := by
  intro b hb
  obtain ⟨a, ha, hb⟩ := bind_eq_ok.mp hb
  exact h a ha b hb

/-- `mapM` returns the list of the results, position by position. -/
theorem mapM_eq_ok_iff {f : α → Except ε β} {xs : List α} {ys : List β} :
    xs.mapM f = .ok ys ↔ List.Forall₂ (fun x y => f x = .ok y) xs ys := by
  induction xs generalizing ys with
  | nil => rw [List.mapM_nil, pure_eq_ok, List.forall₂_nil_left_iff, eq_comm]
  | cons x xs ih =>
      rw [List.mapM_cons, bind_eq_ok]
      constructor
      · rintro ⟨y, hy, h⟩
        obtain ⟨zs, hzs, h⟩ := bind_eq_ok.mp h
        rw [pure_eq_ok] at h
        subst h
        exact .cons hy (ih.mp hzs)
      · intro h
        cases h with
        | cons hy hzs => exact ⟨_, hy, bind_eq_ok.mpr ⟨_, ih.mpr hzs, rfl⟩⟩

/-- Every result of a `mapM` comes from an element. -/
theorem exists_of_mem_mapM {f : α → Except ε β} {xs : List α} {ys : List β}
    (h : xs.mapM f = .ok ys) {y : β} (hy : y ∈ ys) : ∃ x ∈ xs, f x = .ok y := by
  have hf := mapM_eq_ok_iff.mp h
  clear h
  induction hf with
  | nil => exact absurd hy List.not_mem_nil
  | cons hxy _ ih =>
      rcases List.mem_cons.mp hy with rfl | hy
      · exact ⟨_, List.mem_cons_self, hxy⟩
      · obtain ⟨x, hx, hfx⟩ := ih hy
        exact ⟨x, List.mem_cons_of_mem _ hx, hfx⟩

/-- What every result shares with its element, the two lists share. -/
theorem map_eq_of_mapM {γ : Type} {f : α → Except ε β} {g : α → γ} {k : β → γ} {xs : List α}
    {ys : List β} (h : xs.mapM f = .ok ys) (hg : ∀ x y, f x = .ok y → g x = k y) :
    xs.map g = ys.map k := by
  have hf := mapM_eq_ok_iff.mp h
  clear h
  induction hf with
  | nil => rfl
  | cons hxy _ ih => rw [List.map_cons, List.map_cons, hg _ _ hxy, ih]

/-- A `forM` that returns has checked every element. -/
theorem forM_eq_ok {f : α → Except ε Unit} {xs : List α} {u : Unit} (h : xs.forM f = .ok u) :
    ∀ x ∈ xs, f x = .ok () := by
  induction xs with
  | nil => simp
  | cons x xs ih =>
      rw [List.forM] at h
      obtain ⟨⟨⟩, hx, h⟩ := bind_eq_ok.mp h
      intro y hy
      rcases List.mem_cons.mp hy with rfl | hy
      · exact hx
      · exact ih h y hy

/-- Keep the elements a fallible predicate accepts, asking from the left. -/
def selectM (p : α → Except ε Bool) : List α → Except ε (List α)
  | [] => pure []
  | x :: xs => do
      let keep ← p x
      let ys ← selectM p xs
      pure (if keep then x :: ys else ys)

attribute [grind =] selectM

theorem selectM_sublist {p : α → Except ε Bool} {xs ys : List α} (h : selectM p xs = .ok ys) :
    ys.Sublist xs ∧ ∀ y ∈ ys, p y = .ok true := by
  induction xs generalizing ys with
  | nil =>
      rw [selectM, pure_eq_ok] at h
      simp [← h]
  | cons x xs ih =>
      rw [selectM] at h
      obtain ⟨keep, hk, h⟩ := bind_eq_ok.mp h
      obtain ⟨zs, hzs, h⟩ := bind_eq_ok.mp h
      obtain ⟨hsub, hall⟩ := ih hzs
      rw [pure_eq_ok] at h
      subst h
      cases keep with
      | false => exact ⟨hsub.cons x, hall⟩
      | true =>
          refine ⟨hsub.cons_cons x, ?_⟩
          rintro y hy
          rcases List.mem_cons.mp hy with rfl | hy
          · exact hk
          · exact hall y hy

/-- A fold of a fallible step keeps an invariant that every step keeps. -/
theorem foldlM_invariant {σ : Type} {f : σ → α → Except ε σ} (P : σ → Prop)
    {xs : List α} {s s' : σ} (h : xs.foldlM f s = .ok s') (h0 : P s)
    (hstep : ∀ s x s', x ∈ xs → P s → f s x = .ok s' → P s') : P s' := by
  induction xs generalizing s with
  | nil =>
      rw [List.foldlM_nil, pure_eq_ok] at h
      exact h ▸ h0
  | cons x xs ih =>
      rw [List.foldlM_cons] at h
      obtain ⟨t, ht, h⟩ := bind_eq_ok.mp h
      refine ih h (hstep s x t (by simp) h0 ht) ?_
      intro a y b hy
      exact hstep a y b (by simp [hy])

/-- A fold over the elements of the elements is a fold of folds. -/
theorem foldlM_flatMap {σ γ : Type} {f : σ → β → Except ε σ} {g : γ → List β} {xs : List γ}
    {s : σ} : (xs.flatMap g).foldlM f s = xs.foldlM (fun s x => (g x).foldlM f s) s := by
  induction xs generalizing s with
  | nil => rfl
  | cons x xs ih =>
      rw [List.flatMap_cons, List.foldlM_append, List.foldlM_cons]
      exact bind_congr fun _ => ih

end Base

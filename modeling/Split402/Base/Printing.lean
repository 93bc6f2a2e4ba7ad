import Mathlib.Data.List.Basic

/-! # Texts that can be read back

A printer writes a value as a text. A value is readable among the values of a kind when its text
determines it and where it ends, whatever comes next, as long as that starts with a symbol at which
a reader stops. Readable parts make readable lists, so a printer of trees is shown injective by one
induction on the tree. -/

namespace Base.Printing

variable {α τ : Type*}

/-- The text is empty or starts with a symbol at which a reader stops. -/
def Follows (stop : τ → Bool) (r : List τ) : Prop := ∀ c, r.head? = some c → stop c = true

/-- The text of `x` is the text of no other value of the kind, and its end is seen. -/
def Readable (stop : τ → Bool) (ok : α → Prop) (print : α → List τ) (x : α) : Prop :=
  ∀ y r s, ok y → Follows stop r → Follows stop s → print x ++ r = print y ++ s → x = y ∧ r = s

theorem follows_nil {stop : τ → Bool} : Follows stop [] := fun _ h => nomatch h

theorem follows_cons {stop : τ → Bool} {c : τ} {r : List τ} (h : stop c = true) :
    Follows stop (c :: r) := by
  intro d hd
  rw [List.head?_cons, Option.some.injEq] at hd
  exact hd ▸ h

theorem Readable.inj {stop : τ → Bool} {ok : α → Prop} {print : α → List τ} {x y : α}
    (hx : Readable stop ok print x) (hy : ok y) (h : print x = print y) : x = y :=
  (hx y [] [] hy follows_nil follows_nil (by rw [h])).1

/-- Two texts over symbols at which no reader stops end together. -/
theorem eq_of_append_follows {stop : τ → Bool} {s t r r' : List τ}
    (hs : ∀ c ∈ s, stop c = false) (ht : ∀ c ∈ t, stop c = false) (hr : Follows stop r)
    (hr' : Follows stop r') (h : s ++ r = t ++ r') : s = t ∧ r = r' := by
  induction s generalizing t with
  | nil =>
      cases t with
      | nil => exact ⟨rfl, h⟩
      | cons d t =>
          rw [List.nil_append, List.cons_append] at h
          have hstop := hr d (by rw [h]; rfl)
          rw [ht d List.mem_cons_self] at hstop
          cases hstop
  | cons c s ih =>
      cases t with
      | nil =>
          rw [List.nil_append, List.cons_append] at h
          have hstop := hr' c (by rw [← h]; rfl)
          rw [hs c List.mem_cons_self] at hstop
          cases hstop
      | cons d t =>
          rw [List.cons_append, List.cons_append, List.cons.injEq] at h
          obtain ⟨hst, hrr⟩ := ih (fun e he => hs e (List.mem_cons_of_mem c he))
            (fun e he => ht e (List.mem_cons_of_mem d he)) h.2
          exact ⟨by rw [h.1, hst], hrr⟩

/-! ## Separated lists -/

/-- What follows the first element of a separated list, before `k`. -/
def afterFirst (print : α → List τ) (sep : τ) (xs : List α) (k : List τ) : List τ :=
  xs.foldr (fun x rest => sep :: (print x ++ rest)) k

attribute [grind =] afterFirst

theorem intercalate_cons (print : α → List τ) (sep : τ) (x : α) (xs : List α) (k : List τ) :
    List.intercalate [sep] ((x :: xs).map print) ++ k =
      print x ++ afterFirst print sep xs k := by
  induction xs generalizing x with
  | nil => simp [List.intercalate, afterFirst]
  | cons y ys ih =>
      have hnext := ih y
      rw [List.map_cons, List.map_cons, List.intercalate, List.intersperse_cons_cons,
        List.flatten_cons, List.flatten_cons, afterFirst, List.foldr_cons, List.append_assoc,
        List.append_assoc]
      rw [List.map_cons, List.intercalate] at hnext
      rw [hnext]
      rfl

theorem follows_afterFirst {stop : τ → Bool} {print : α → List τ} {sep close : τ}
    (hsep : stop sep = true) (hclose : stop close = true) (xs : List α) (r : List τ) :
    Follows stop (afterFirst print sep xs (close :: r)) := by
  cases xs with
  | nil => exact follows_cons hclose
  | cons x xs => exact follows_cons hsep

theorem readable_afterFirst {stop : τ → Bool} {ok : α → Prop} {print : α → List τ}
    {sep close : τ} (hsep : stop sep = true) (hclose : stop close = true) (hne : sep ≠ close)
    {xs : List α} (hxs : ∀ x ∈ xs, Readable stop ok print x) {ys : List α}
    (hys : ∀ y ∈ ys, ok y) {r s : List τ}
    (h : afterFirst print sep xs (close :: r) = afterFirst print sep ys (close :: s)) :
    xs = ys ∧ r = s := by
  induction xs generalizing ys with
  | nil =>
      cases ys with
      | nil =>
          injection h with _ h
          exact ⟨rfl, h⟩
      | cons y ys =>
          injection h with h _
          exact absurd h.symm hne
  | cons x xs ih =>
      cases ys with
      | nil =>
          injection h with h _
          exact absurd h hne
      | cons y ys =>
          injection h with _ h
          obtain ⟨hxy, hrest⟩ := hxs x List.mem_cons_self y _ _ (hys y List.mem_cons_self)
            (follows_afterFirst hsep hclose xs r) (follows_afterFirst hsep hclose ys s) h
          obtain ⟨hlists, hrs⟩ := ih (fun z hz => hxs z (List.mem_cons_of_mem x hz))
            (fun z hz => hys z (List.mem_cons_of_mem y hz)) hrest
          exact ⟨by rw [hxy, hlists], hrs⟩

/-- **A list of readable values, separated and closed, is readable.** -/
theorem readable_list {stop : τ → Bool} {ok : α → Prop} {print : α → List τ} {sep close : τ}
    (hsep : stop sep = true) (hclose : stop close = true) (hne : sep ≠ close)
    (hstart : ∀ y, ok y → ∃ c t, print y = c :: t ∧ c ≠ close) {xs : List α}
    (hxs : ∀ x ∈ xs, ok x ∧ Readable stop ok print x) {ys : List α} (hys : ∀ y ∈ ys, ok y)
    {r s : List τ}
    (h : List.intercalate [sep] (xs.map print) ++ close :: r =
      List.intercalate [sep] (ys.map print) ++ close :: s) :
    xs = ys ∧ r = s := by
  cases xs with
  | nil =>
      cases ys with
      | nil =>
          injection h with _ h
          exact ⟨rfl, h⟩
      | cons y ys =>
          -- no element starts with the closing symbol
          obtain ⟨c, t, hy, hc⟩ := hstart y (hys y List.mem_cons_self)
          rw [intercalate_cons, hy] at h
          injection h with h _
          exact absurd h.symm hc
  | cons x xs =>
      cases ys with
      | nil =>
          obtain ⟨c, t, hx, hc⟩ := hstart x (hxs x List.mem_cons_self).1
          rw [intercalate_cons, hx] at h
          injection h with h _
          exact absurd h hc
      | cons y ys =>
          rw [intercalate_cons, intercalate_cons] at h
          obtain ⟨hxy, hrest⟩ := (hxs x List.mem_cons_self).2 y _ _ (hys y List.mem_cons_self)
            (follows_afterFirst hsep hclose xs r) (follows_afterFirst hsep hclose ys s) h
          obtain ⟨hlists, hrs⟩ := readable_afterFirst hsep hclose hne
            (fun z hz => (hxs z (List.mem_cons_of_mem x hz)).2)
            (fun z hz => hys z (List.mem_cons_of_mem y hz)) hrest
          exact ⟨by rw [hxy, hlists], hrs⟩

end Base.Printing

import Split402.Base.Except

/-! # Readers and formats

A reader takes a value off the front of what is left of its input, or throws. A format says which
items a value is written as. A reader reads a format when, wherever in the input it starts, it returns
a value exactly if what is left begins with the value in that format, and then stops right behind it.

Readers one after the other read formats one after the other, and a loop reads a list. So what a
parser accepts can be read off its program. -/

namespace Base.Reader

variable {σ τ ε α β : Type}

/-- The positions in an input, and what is left of it there. -/
structure Source (σ τ : Type) where
  Within : σ → Prop
  rest : σ → List τ
  advance : σ → Nat → σ
  within_advance : ∀ {s n}, Within s → n ≤ (rest s).length → Within (advance s n)
  rest_advance : ∀ s n, rest (advance s n) = (rest s).drop n
  advance_zero : ∀ s, advance s 0 = s
  advance_add : ∀ s m n, advance (advance s m) n = advance s (m + n)

/-- Which items a value is written as. -/
abbrev Format (τ α : Type) : Type := List τ → α → Prop

namespace Format

/-- The value that takes no items. -/
def nothing (x : α) : Format τ α := fun items y => items = [] ∧ y = x

/-- A value, and then one in a format that may depend on it. -/
def followedBy (format : Format τ α) (next : α → Format τ β) : Format τ β :=
  fun items y => ∃ first last x, format first x ∧ next x last y ∧ items = first ++ last

/-- Values one after the other. -/
inductive Each (format : Format τ α) : Format τ (List α)
  | nil : Each format [] []
  | cons {first last : List τ} {x : α} {xs : List α} (hfirst : format first x)
      (hlast : Each format last xs) : Each format (first ++ last) (x :: xs)

/-- A number of values. -/
def times (count : Nat) (format : Format τ α) : Format τ (List α) :=
  fun items xs => Each format items xs ∧ xs.length = count

end Format

open Format

/-- What the reader does is to read the format. -/
def Reads (source : Source σ τ) (read : σ → Except ε (α × σ)) (format : Format τ α) : Prop :=
  ∀ s, source.Within s → ∀ x s', read s = .ok (x, s') ↔
    ∃ items, format items x ∧ items <+: source.rest s ∧ s' = source.advance s items.length

variable {source : Source σ τ} {read : σ → Except ε (α × σ)} {format format' : Format τ α}

theorem append_prefix_iff {first last rest : List τ} :
    first ++ last <+: rest ↔ first <+: rest ∧ last <+: rest.drop first.length := by
  constructor
  · intro ⟨tail, htail⟩
    subst htail
    rw [List.append_assoc, List.drop_left]
    exact ⟨List.prefix_append _ _, List.prefix_append _ _⟩
  · intro ⟨⟨tail, htail⟩, hlast⟩
    subst htail
    rw [List.drop_left] at hlast
    exact (List.prefix_append_right_inj first).mpr hlast

theorem within_advance_of_starts {s : σ} {items : List τ} (hs : source.Within s)
    (hstarts : items <+: source.rest s) : source.Within (source.advance s items.length) :=
  source.within_advance hs hstarts.length_le

theorem Reads.congr (h : Reads source read format)
    (hformat : ∀ items x, format items x ↔ format' items x) : Reads source read format' := by
  intro s hs x s'
  rw [h s hs x s']
  simp only [hformat]

theorem reads_pure (x : α) : Reads source (fun s => (pure (x, s) : Except ε (α × σ))) (nothing x) := by
  intro s _ y s'
  rw [pure_eq_ok, Prod.mk.injEq]
  constructor
  · intro ⟨hy, hs⟩
    refine ⟨[], ⟨rfl, hy.symm⟩, List.nil_prefix, ?_⟩
    rw [List.length_nil, source.advance_zero, hs]
  · intro ⟨items, ⟨hitems, hy⟩, _, hs⟩
    rw [hitems, List.length_nil, source.advance_zero] at hs
    exact ⟨hy.symm, hs.symm⟩

theorem reads_throw (e : ε) :
    Reads source (fun _ => (throw e : Except ε (α × σ))) (fun _ _ => False) := by
  intro s _ x s'
  refine iff_of_false throw_ne_ok ?_
  intro ⟨_, hfalse, _⟩
  exact hfalse

/-- **Readers in sequence read formats in sequence.** -/
theorem Reads.bind {next : α → σ → Except ε (β × σ)} {nextFormat : α → Format τ β}
    (h : Reads source read format) (hnext : ∀ x, Reads source (next x) (nextFormat x)) :
    Reads source (fun s => read s >>= fun result => next result.1 result.2)
      (format.followedBy nextFormat) := by
  intro s hs y s'
  rw [bind_eq_ok]
  constructor
  · intro ⟨⟨x, middle⟩, hread, hthen⟩
    obtain ⟨first, hfirst, hstarts, hmiddle⟩ := (h s hs x middle).mp hread
    have hwithin := within_advance_of_starts hs hstarts
    rw [← hmiddle] at hwithin
    obtain ⟨last, hlast, hgoes, hs'⟩ := (hnext x middle hwithin y s').mp hthen
    rw [hmiddle, source.rest_advance] at hgoes
    refine ⟨first ++ last, ⟨first, last, x, hfirst, hlast, rfl⟩,
      append_prefix_iff.mpr ⟨hstarts, hgoes⟩, ?_⟩
    rw [hs', hmiddle, source.advance_add, List.length_append]
  · intro ⟨items, ⟨first, last, x, hfirst, hlast, hitems⟩, hstarts, hs'⟩
    subst hitems
    obtain ⟨hstarts, hgoes⟩ := append_prefix_iff.mp hstarts
    refine ⟨(x, source.advance s first.length), (h s hs x _).mpr ⟨first, hfirst, hstarts, rfl⟩, ?_⟩
    refine (hnext x _ (within_advance_of_starts hs hstarts) y s').mpr ⟨last, hlast, ?_, ?_⟩
    · rw [source.rest_advance]
      exact hgoes
    · rw [hs', source.advance_add, List.length_append]

/-- A value and then what is made of it, which takes no items. -/
theorem Reads.map {f : α → β} (h : Reads source read format) :
    Reads source (fun s => read s >>= fun result => pure (f result.1, result.2))
      (fun items y => ∃ x, format items x ∧ y = f x) := by
  refine (h.bind fun x => show Reads source _ (nothing (f x)) from reads_pure (f x)).congr ?_
  intro items y
  constructor
  · intro ⟨first, last, x, hfirst, ⟨hlast, hy⟩, hitems⟩
    rw [hlast, List.append_nil] at hitems
    exact ⟨x, hitems ▸ hfirst, hy⟩
  · intro ⟨x, hx, hy⟩
    exact ⟨items, [], x, hx, ⟨rfl, hy⟩, (List.append_nil items).symm⟩

theorem reads_ite {p : Prop} [Decidable p] {read' : σ → Except ε (α × σ)}
    (h : p → Reads source read format) (h' : ¬ p → Reads source read' format') :
    Reads source (fun s => if p then read s else read' s)
      (fun items x => (p ∧ format items x) ∨ (¬ p ∧ format' items x)) := by
  by_cases hp : p
  · have hread := h hp
    simp only [if_pos hp]
    refine hread.congr ?_
    simp [hp]
  · have hread := h' hp
    simp only [if_neg hp]
    refine hread.congr ?_
    simp [hp]

/-! ## Loops -/

/-- A loop that reads `count` values, the first of which has the number `index`. -/
def readEach (read : Nat → σ → Except ε (α × σ)) :
    (count index : Nat) → σ → Except ε (List α × σ)
  | 0, _, s => pure ([], s)
  | count + 1, index, s => do
      let (x, s) ← read index s
      let (xs, s) ← readEach read count (index + 1) s
      pure (x :: xs, s)

attribute [grind =] readEach

theorem times_zero : times 0 format = nothing [] := by
  funext items xs
  refine propext ⟨?_, ?_⟩
  · intro ⟨heach, hlength⟩
    cases heach with
    | nil => exact ⟨rfl, rfl⟩
    | cons _ _ => cases hlength
  · intro ⟨hitems, hxs⟩
    rw [hitems, hxs]
    exact ⟨.nil, rfl⟩

theorem times_succ {count : Nat} {items : List τ} {xs : List α} :
    times (count + 1) format items xs ↔ format.followedBy
      (fun x items xs => ∃ rest, times count format items rest ∧ xs = x :: rest) items xs := by
  constructor
  · intro ⟨heach, hlength⟩
    cases heach with
    | nil => cases hlength
    | cons hfirst hlast => exact ⟨_, _, _, hfirst, ⟨_, ⟨hlast, Nat.succ.inj hlength⟩, rfl⟩, rfl⟩
  · intro ⟨first, last, x, hfirst, ⟨rest, ⟨hlast, hlength⟩, hxs⟩, hitems⟩
    rw [hitems, hxs]
    exact ⟨.cons hfirst hlast, congrArg Nat.succ hlength⟩

/-- **A loop reads a list**, when each of its rounds reads the format. -/
theorem reads_readEach {read : Nat → σ → Except ε (α × σ)}
    (h : ∀ index, Reads source (read index) format) (count index : Nat) :
    Reads source (readEach read count index) (times count format) := by
  induction count generalizing index with
  | zero =>
      rw [times_zero]
      exact reads_pure []
  | succ count ih =>
      have hloop := (h index).bind fun x => (ih (index + 1)).map (f := fun xs => x :: xs)
      exact hloop.congr fun items xs => times_succ.symm

end Base.Reader

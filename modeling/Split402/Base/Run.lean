import Mathlib.Logic.Relation

/-! # Runs of a state machine

A `System` is a set of initial states and a step relation labelled by inputs. A statement
about a program that holds only while its inputs meet a condition is a statement about the
runs all of whose steps meet it: `Reachable ok` collects the states of those runs, `Run ok`
the pairs of states one such run connects. The two rules below are the only inductions on
runs a client needs. -/

namespace Base

/-- A state machine: initial states and labelled steps. -/
structure System (σ ι : Type*) where
  init : σ → Prop
  step : σ → ι → σ → Prop

namespace System

variable {σ ι : Type*} (sys : System σ ι)

/-- The states of the runs whose every step meets `ok` in the state it is taken from. -/
inductive Reachable (ok : σ → ι → Prop) : σ → Prop
  | init {s : σ} : sys.init s → Reachable ok s
  | step {s s' : σ} {i : ι} : Reachable ok s → ok s i → sys.step s i s' → Reachable ok s'

/-- `s` runs to `s'` by steps that meet `ok`. -/
inductive Run (ok : σ → ι → Prop) : σ → σ → Prop
  | refl (s : σ) : Run ok s s
  | tail {s t u : σ} {i : ι} : Run ok s t → ok t i → sys.step t i u → Run ok s u

variable {sys} {ok ok' : σ → ι → Prop} {P : σ → Prop} {s s' t : σ}

/-- **The invariant rule.** What holds initially and is kept by every admitted step holds in
every reachable state. -/
theorem Reachable.invariant (h : sys.Reachable ok s) (hinit : ∀ s, sys.init s → P s)
    (hstep : ∀ s i s', sys.Reachable ok s → P s → ok s i → sys.step s i s' → P s') : P s := by
  induction h with
  | init h => exact hinit _ h
  | step hr hok hs ih => exact hstep _ _ _ hr ih hok hs

/-- The run rule: what an admitted step keeps, a run keeps. -/
theorem Run.invariant (h : sys.Run ok s t) (h0 : P s)
    (hstep : ∀ s i s', P s → ok s i → sys.step s i s' → P s') : P t := by
  induction h with
  | refl => exact h0
  | tail _ hok hs ih => exact hstep _ _ _ ih hok hs

/-- A weaker condition admits more runs. -/
theorem Reachable.mono (h : sys.Reachable ok s) (hle : ∀ s i, ok s i → ok' s i) :
    sys.Reachable ok' s := by
  induction h with
  | init h => exact .init h
  | step _ hok hs ih => exact .step ih (hle _ _ hok) hs

/-- A weaker condition admits more runs. -/
theorem Run.mono (h : sys.Run ok s t) (hle : ∀ s i, ok s i → ok' s i) : sys.Run ok' s t := by
  induction h with
  | refl => exact .refl _
  | tail _ hok hs ih => exact .tail ih (hle _ _ hok) hs

variable {τ : Type*}

/-- Whether every step of a trace is admitted in the state it is taken from. -/
def admittedAlong (next : σ → τ → σ) (accept : σ → τ → Bool) : σ → List τ → Bool
  | _, [] => true
  | s, x :: xs => accept s x && admittedAlong next accept (next s x) xs

attribute [grind =] admittedAlong

/-- A trace whose computed steps are admitted steps of the system ends in a reachable state. -/
theorem Reachable.of_trace {next : σ → τ → σ} {accept : σ → τ → Bool}
    (haccept : ∀ s x, accept s x = true → ∃ i, ok s i ∧ sys.step s i (next s x))
    (h : sys.Reachable ok s) {xs : List τ} (hxs : admittedAlong next accept s xs = true) :
    sys.Reachable ok (xs.foldl next s) := by
  induction xs generalizing s with
  | nil => exact h
  | cons x xs ih =>
      rw [admittedAlong, Bool.and_eq_true] at hxs
      obtain ⟨i, hok, hstep⟩ := haccept s x hxs.1
      exact ih (.step h hok hstep) hxs.2

/-- A trace whose computed steps are admitted steps of the system is a run. -/
theorem Run.of_trace {next : σ → τ → σ} {accept : σ → τ → Bool}
    (haccept : ∀ s x, accept s x = true → ∃ i, ok s i ∧ sys.step s i (next s x))
    (h : sys.Run ok s t) {xs : List τ} (hxs : admittedAlong next accept t xs = true) :
    sys.Run ok s (xs.foldl next t) := by
  induction xs generalizing t with
  | nil => exact h
  | cons x xs ih =>
      rw [admittedAlong, Bool.and_eq_true] at hxs
      obtain ⟨i, hok, hstep⟩ := haccept t x hxs.1
      exact ih (.tail h hok hstep) hxs.2

/-- A run prolongs a reachable state to a reachable state. -/
theorem Reachable.run (h : sys.Reachable ok s) (hr : sys.Run ok s t) : sys.Reachable ok t := by
  induction hr with
  | refl => exact h
  | tail _ hok hs ih => exact .step ih hok hs

/-! ## Records that move -/

section Records

variable {κ α : Type*} {move : α → α → Prop} (view : σ → κ → Option α)

/-- Every record stays, and is as it was or has made one move. -/
def Advances (move : α → α → Prop) (before after : κ → Option α) : Prop :=
  ∀ k a, before k = some a → ∃ a', after k = some a' ∧ Relation.ReflGen move a a'

theorem Advances.of_eq {before after : κ → Option α} (h : after = before) :
    Advances move before after := by
  intro k a ha
  exact ⟨a, by rw [h]; exact ha, .refl⟩

/-- When the steps of reachable states move records one at a time, a run moves them along. -/
theorem Run.moves (h : sys.Run ok s t) (hs : sys.Reachable ok s)
    (hstep : ∀ s i s', sys.Reachable ok s → ok s i → sys.step s i s' →
      Advances move (view s) (view s')) {k : κ} {a : α} (ha : view s k = some a) :
    ∃ a', view t k = some a' ∧ Relation.ReflTransGen move a a' := by
  induction h with
  | refl => exact ⟨a, ha, .refl⟩
  | tail hr hok hst ih =>
      obtain ⟨b, hb, hab⟩ := ih
      obtain ⟨c, hc, hbc⟩ := hstep _ _ _ (hs.run hr) hok hst k b hb
      exact ⟨c, hc, hab.trans hbc.to_reflTransGen⟩

/-- A record that cannot move stays as it is. -/
theorem Run.stays (h : sys.Run ok s t) (hs : sys.Reachable ok s)
    (hstep : ∀ s i s', sys.Reachable ok s → ok s i → sys.step s i s' →
      Advances move (view s) (view s')) {k : κ} {a : α} (hlast : ∀ b, ¬ move a b)
    (ha : view s k = some a) : view t k = some a := by
  obtain ⟨b, hb, hab⟩ := h.moves view hs hstep ha
  rcases hab.cases_head with rfl | ⟨c, hac, -⟩
  · exact hb
  · exact absurd hac (hlast c)

end Records

end System

end Base

import Mathlib.Data.List.Chain

/-! # Relays

Things that come from nothing or from one that was there before, and nothing that two come from: in
the order they come they are a single chain. -/

namespace Base

variable {α κ : Type*}

/-- In its order, every element of the list comes from the one before it, and the first from
nothing. -/
inductive Relay (key : α → κ) (source : α → Option κ → Prop) : List α → Prop
  | nil : Relay key source []
  | first {a : α} : source a none → Relay key source [a]
  | next {l : List α} {a b : α} : Relay key source (l ++ [a]) → source b (some (key a)) →
      Relay key source (l ++ [a] ++ [b])

namespace Relay

variable {key : α → κ} {source source' : α → Option κ → Prop} {l : List α}

theorem mono (h : Relay key source l) (hle : ∀ a ∈ l, ∀ s, source a s → source' a s) :
    Relay key source' l := by
  induction h with
  | nil => exact .nil
  | first ha => exact .first (hle _ (by simp) _ ha)
  | next hl hb ih =>
      exact .next (ih fun a ha => hle a (by simp at ha ⊢; tauto)) (hle _ (by simp) _ hb)

/-- A change of elements that keeps their keys and where they come from keeps the chain. -/
theorem map {f : α → α} (h : Relay key source l) (hkey : ∀ a, key (f a) = key a)
    (hsource : ∀ a s, source a s → source (f a) s) : Relay key source (l.map f) := by
  induction h with
  | nil => exact .nil
  | first ha => exact .first (hsource _ _ ha)
  | @next l a b hl hb ih =>
      rw [List.map_append, List.map_append, List.map_singleton, List.map_singleton]
      rw [List.map_append, List.map_singleton] at ih
      exact .next ih (by rw [hkey]; exact hsource _ _ hb)

theorem exists_source_none (h : Relay key source l) (hl : l ≠ []) : ∃ a ∈ l, source a none := by
  induction h with
  | nil => exact absurd rfl hl
  | first ha => exact ⟨_, by simp, ha⟩
  | next _ _ ih =>
      obtain ⟨a, ha, hnone⟩ := ih (by simp)
      exact ⟨a, List.mem_append_left _ ha, hnone⟩

/-- Every element is the last, or another one comes from it. -/
theorem last_or_next (h : Relay key source l) {a : α} (ha : a ∈ l) :
    l.getLast? = some a ∨ ∃ b ∈ l, source b (some (key a)) := by
  induction h with
  | nil => cases ha
  | first _ =>
      rw [List.mem_singleton.mp ha]
      exact .inl rfl
  | @next l x b hl hb ih =>
      rcases List.mem_append.mp ha with hold | hnew
      · rcases ih hold with hlast | ⟨c, hc, hsource⟩
        · rw [List.getLast?_append, List.getLast?_singleton, Option.some_or,
            Option.some.injEq] at hlast
          subst hlast
          exact .inr ⟨b, by simp, hb⟩
        · exact .inr ⟨c, List.mem_append_left _ hc, hsource⟩
      · rw [List.mem_singleton.mp hnew]
        exact .inl (by simp)

/-- What comes from nothing, or from an element that nothing else comes from, is next. -/
theorem append {b : α} {s : Option κ} (h : Relay key source l) (hb : source b s)
    (hnew : ∀ a ∈ l, ¬ source a s) (hs : s = none ∨ ∃ a ∈ l, s = some (key a)) :
    Relay key source (l ++ [b]) := by
  rcases List.eq_nil_or_concat' l with rfl | ⟨front, last, rfl⟩
  · rcases hs with rfl | ⟨a, ha, -⟩
    · exact .first hb
    · cases ha
  · rcases hs with rfl | ⟨a, ha, rfl⟩
    · obtain ⟨a, ha, hnone⟩ := h.exists_source_none (by simp)
      exact absurd hnone (hnew a ha)
    · rcases h.last_or_next ha with hlast | ⟨c, hc, hsource⟩
      · rw [List.getLast?_append, List.getLast?_singleton, Option.some_or,
          Option.some.injEq] at hlast
        subst hlast
        exact .next h hb
      · exact absurd hsource (hnew c hc)

/-- The first element comes from nothing. -/
theorem source_head (h : Relay key source l) {a : α} (ha : l.head? = some a) : source a none := by
  induction h with
  | nil => cases ha
  | first hsource =>
      cases ha
      exact hsource
  | next _ _ ih =>
      rw [List.head?_append_of_ne_nil _ (by simp)] at ha
      exact ih ha

theorem isChain (h : Relay key source l) : l.IsChain (fun a b => source b (some (key a))) := by
  induction h with
  | nil => exact .nil
  | first _ => exact .singleton _
  | @next l a b _ hb ih =>
      rw [List.isChain_append]
      refine ⟨ih, .singleton _, ?_⟩
      intro x hx y hy
      rw [List.getLast?_append, List.getLast?_singleton, Option.some_or,
        Option.mem_some_iff] at hx
      rw [List.head?_singleton, Option.mem_some_iff] at hy
      subst hx hy
      exact hb

end Relay

end Base

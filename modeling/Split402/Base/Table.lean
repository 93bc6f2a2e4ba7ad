import Mathlib.Data.List.Nodup
import Mathlib.Data.List.Perm.Basic

/-! # Keyed tables

A `Table key` is a list of rows with pairwise different keys, in insertion order. It is both
an insertion-ordered map (`upsert`, which replaces a row where it stands) and an SQL table
with a primary key (`insert?`, which refuses a key that is already there). The uniqueness of
the keys is a field, so no client proves it again. Every operation is described by what it
does to membership; a row is looked up with `find?`, and `find?_eq_some` moves between the
two. -/

namespace Base

/-- Rows with pairwise different keys, in insertion order. -/
structure Table {ρ κ : Type*} (key : ρ → κ) where
  rows : List ρ
  nodup : (rows.map key).Nodup

namespace Table

variable {ρ κ : Type*} {key : ρ → κ}

instance : Membership ρ (Table key) := ⟨fun t r => r ∈ t.rows⟩

theorem mem_def {t : Table key} {r : ρ} : r ∈ t ↔ r ∈ t.rows := Iff.rfl

/-- Two tables with the same rows are the same. -/
@[ext] theorem ext {t u : Table key} (h : t.rows = u.rows) : t = u := by
  cases t; cases u; congr

/-- A row of a table is determined by its key. -/
theorem eq_of_key {t : Table key} {r s : ρ} (hr : r ∈ t) (hs : s ∈ t)
    (h : key r = key s) : r = s :=
  List.inj_on_of_nodup_map t.nodup hr hs h

theorem rows_nodup (t : Table key) : t.rows.Nodup := List.Nodup.of_map key t.nodup

/-- The table without rows. -/
def empty : Table key := ⟨[], List.nodup_nil⟩

@[simp] theorem rows_empty : (empty : Table key).rows = [] := rfl

@[simp] theorem not_mem_empty {r : ρ} : r ∉ (empty : Table key) := by simp [mem_def]

/-- The rows that satisfy `p`. -/
def filter (t : Table key) (p : ρ → Bool) : Table key :=
  ⟨t.rows.filter p, t.nodup.sublist (List.filter_sublist.map key)⟩

@[simp] theorem rows_filter (t : Table key) (p : ρ → Bool) :
    (t.filter p).rows = t.rows.filter p := rfl

@[simp] theorem mem_filter {t : Table key} {p : ρ → Bool} {r : ρ} :
    r ∈ t.filter p ↔ r ∈ t ∧ p r = true := by simp [mem_def]

/-- Update every row by a function that keeps the keys. -/
def mapRows (t : Table key) (f : ρ → ρ) (hf : ∀ r, key (f r) = key r) : Table key :=
  ⟨t.rows.map f, by
    have hkeys : (t.rows.map f).map key = t.rows.map key := by simp [hf]
    exact hkeys ▸ t.nodup⟩

@[simp] theorem rows_mapRows (t : Table key) (f : ρ → ρ) (hf : ∀ r, key (f r) = key r) :
    (t.mapRows f hf).rows = t.rows.map f := rfl

@[simp] theorem mem_mapRows {t : Table key} {f : ρ → ρ} {hf : ∀ r, key (f r) = key r}
    {r : ρ} : r ∈ t.mapRows f hf ↔ ∃ s ∈ t, f s = r := by simp [mem_def]

section Lookup

variable [DecidableEq κ]

/-- The row with a given key. -/
def find? (t : Table key) (k : κ) : Option ρ := t.rows.find? (fun r => key r = k)

attribute [grind =] find?

/-- Whether some row has the key. -/
def has (t : Table key) (k : κ) : Bool := t.rows.any (fun r => key r = k)

attribute [grind =] has

theorem find?_eq_some {t : Table key} {k : κ} {r : ρ} :
    t.find? k = some r ↔ r ∈ t ∧ key r = k := by
  constructor
  · intro h
    exact ⟨List.mem_of_find?_eq_some h, by simpa using List.find?_some h⟩
  · rintro ⟨hr, rfl⟩
    cases hs : t.find? (key r) with
    | none =>
        rw [find?, List.find?_eq_none] at hs
        exact absurd (hs r hr) (by simp)
    | some s =>
        have hkey : key s = key r := by simpa using List.find?_some hs
        rw [eq_of_key (List.mem_of_find?_eq_some hs) hr hkey]

theorem find?_eq_none {t : Table key} {k : κ} : t.find? k = none ↔ ∀ r ∈ t, key r ≠ k := by
  simp [find?, mem_def]

theorem mem_of_find? {t : Table key} {k : κ} {r : ρ} (h : t.find? k = some r) : r ∈ t :=
  (find?_eq_some.mp h).1

theorem key_of_find? {t : Table key} {k : κ} {r : ρ} (h : t.find? k = some r) : key r = k :=
  (find?_eq_some.mp h).2

theorem find?_of_mem {t : Table key} {r : ρ} (h : r ∈ t) : t.find? (key r) = some r :=
  find?_eq_some.mpr ⟨h, rfl⟩

/-- Changing rows under their keys changes what a lookup finds. -/
theorem find?_of_map {t u : Table key} {f : ρ → ρ} (hf : ∀ r, key (f r) = key r)
    (h : u.rows = t.rows.map f) (k : κ) : u.find? k = (t.find? k).map f := by
  rw [find?, h, List.find?_map, find?]
  congr 2
  funext r
  simp [hf]

theorem has_eq_true {t : Table key} {k : κ} : t.has k = true ↔ ∃ r ∈ t, key r = k := by
  simp [has, mem_def]

theorem has_eq_false {t : Table key} {k : κ} : t.has k = false ↔ ∀ r ∈ t, key r ≠ k := by
  simp [has, mem_def]

/-- Write a row: replace the row with its key where it stands, or append it. -/
def upsert (t : Table key) (r : ρ) : Table key :=
  if h : t.has (key r) = true then
    t.mapRows (fun s => if key s = key r then r else s) (by
      intro s
      split <;> simp_all)
  else
    ⟨t.rows ++ [r], by
      rw [Bool.not_eq_true, has_eq_false] at h
      rw [List.map_append, List.nodup_append]
      refine ⟨t.nodup, by simp, ?_⟩
      intro a ha b hb
      obtain ⟨s, hs, rfl⟩ := List.mem_map.mp ha
      rw [List.map_singleton, List.mem_singleton] at hb
      exact hb ▸ h s hs⟩

attribute [grind =] upsert

theorem mem_upsert {t : Table key} {r s : ρ} :
    s ∈ t.upsert r ↔ s = r ∨ (s ∈ t ∧ key s ≠ key r) := by
  rw [upsert]
  split
  · rename_i h
    rw [mem_mapRows]
    constructor
    · rintro ⟨u, hu, rfl⟩
      by_cases hk : key u = key r
      · simp [hk]
      · simp [hk, hu]
    · rintro (rfl | ⟨hs, hk⟩)
      · obtain ⟨u, hu, hk⟩ := has_eq_true.mp h
        exact ⟨u, hu, by simp [hk]⟩
      · exact ⟨s, hs, by simp [hk]⟩
  · rename_i h
    rw [Bool.not_eq_true, has_eq_false] at h
    constructor
    · intro hs
      rcases List.mem_append.mp hs with hs | hs
      · exact .inr ⟨hs, h s hs⟩
      · exact .inl (List.mem_singleton.mp hs)
    · rintro (rfl | ⟨hs, -⟩)
      · exact List.mem_append.mpr (.inr (List.mem_singleton.mpr rfl))
      · exact List.mem_append.mpr (.inl hs)

theorem find?_upsert {t : Table key} {r : ρ} {k : κ} :
    (t.upsert r).find? k = if key r = k then some r else t.find? k := by
  split
  · rename_i h
    exact find?_eq_some.mpr ⟨mem_upsert.mpr (.inl rfl), h⟩
  · rename_i h
    cases hk : t.find? k with
    | none =>
        rw [find?_eq_none] at hk ⊢
        intro s hs
        rcases mem_upsert.mp hs with rfl | ⟨hs, -⟩
        · exact h
        · exact hk s hs
    | some s =>
        obtain ⟨hs, rfl⟩ := find?_eq_some.mp hk
        exact find?_eq_some.mpr ⟨mem_upsert.mpr (.inr ⟨hs, fun e => h e.symm⟩), rfl⟩

theorem has_upsert {t : Table key} {r : ρ} {k : κ} :
    (t.upsert r).has k = true ↔ key r = k ∨ t.has k = true := by
  rw [has_eq_true, has_eq_true]
  constructor
  · rintro ⟨s, hs, rfl⟩
    rcases mem_upsert.mp hs with rfl | ⟨hs, -⟩
    · exact .inl rfl
    · exact .inr ⟨s, hs, rfl⟩
  · rintro (rfl | ⟨s, hs, rfl⟩)
    · exact ⟨r, mem_upsert.mpr (.inl rfl), rfl⟩
    · by_cases hk : key s = key r
      · exact ⟨r, mem_upsert.mpr (.inl rfl), hk.symm⟩
      · exact ⟨s, mem_upsert.mpr (.inr ⟨hs, hk⟩), rfl⟩

/-- Write several rows, one after the other. -/
def upsertAll (t : Table key) (rs : List ρ) : Table key := rs.foldl upsert t

/-- A row that is there after some rows were written is one of them, or an old row whose key
they do not have. -/
theorem of_mem_upsertAll {rs : List ρ} {t : Table key} {s : ρ} (h : s ∈ t.upsertAll rs) :
    s ∈ rs ∨ (s ∈ t ∧ key s ∉ rs.map key) := by
  induction rs generalizing t with
  | nil => exact .inr ⟨h, List.not_mem_nil⟩
  | cons r rs ih =>
      rcases ih (t := t.upsert r) h with h | ⟨h, hk⟩
      · exact .inl (List.mem_cons_of_mem r h)
      · rcases mem_upsert.mp h with rfl | ⟨h, hne⟩
        · exact .inl List.mem_cons_self
        · exact .inr ⟨h, by simp [hne, hk]⟩

/-- The last row written for a key is found there. -/
theorem find?_upsertAll {rs : List ρ} {t : Table key} {k : κ} :
    (t.upsertAll rs).find? k = (rs.reverse.find? (fun r => key r = k)).or (t.find? k) := by
  induction rs generalizing t with
  | nil => rfl
  | cons r rs ih =>
      have hcons : t.upsertAll (r :: rs) = (t.upsert r).upsertAll rs := rfl
      rw [hcons, ih, find?_upsert, List.reverse_cons, List.find?_append, Option.or_assoc]
      congr 1
      by_cases hk : key r = k <;> simp [hk]

/-- An old row stays unless a row with its key is written. -/
theorem mem_upsertAll_of_old {rs : List ρ} {t : Table key} {s : ρ} (h : s ∈ t)
    (hk : key s ∉ rs.map key) : s ∈ t.upsertAll rs := by
  induction rs generalizing t with
  | nil => exact h
  | cons r rs ih =>
      rw [List.map_cons, List.mem_cons, not_or] at hk
      exact ih (t := t.upsert r) (mem_upsert.mpr (.inr ⟨h, hk.1⟩)) hk.2

/-- Rows with pairwise different keys are all there after they were written. -/
theorem mem_upsertAll_of_new {rs : List ρ} (hrs : (rs.map key).Nodup) {t : Table key} {s : ρ}
    (h : s ∈ rs) : s ∈ t.upsertAll rs := by
  induction rs generalizing t with
  | nil => exact absurd h List.not_mem_nil
  | cons r rs ih =>
      rw [List.map_cons, List.nodup_cons] at hrs
      rcases List.mem_cons.mp h with rfl | h
      · exact mem_upsertAll_of_old (t := t.upsert s) (mem_upsert.mpr (.inl rfl)) hrs.1
      · exact ih hrs.2 (t := t.upsert r) h

/-- Writing a row with a new key appends it. -/
theorem rows_upsert_of_new {t : Table key} {r : ρ} (h : ∀ s ∈ t, key s ≠ key r) :
    (t.upsert r).rows = t.rows ++ [r] := by
  rw [upsert, dif_neg (by simpa [has_eq_true] using h)]

/-- Writing a changed row back changes it where it stands. -/
theorem rows_upsert_of_mem {t : Table key} {r : ρ} {f : ρ → ρ} (hr : r ∈ t)
    (hf : key (f r) = key r) :
    (t.upsert (f r)).rows = t.rows.map (fun s => if key s = key r then f s else s) := by
  rw [upsert, dif_pos (by rw [hf]; exact has_eq_true.mpr ⟨r, hr, rfl⟩), rows_mapRows, hf]
  refine List.map_congr_left fun s hs => ?_
  split
  · rename_i hk
    rw [eq_of_key hs hr hk]
  · rfl

/-- A write commutes with a change of rows under their keys. -/
theorem rows_upsert_map {t u : Table key} {f : ρ → ρ} (hf : ∀ r, key (f r) = key r)
    (h : u.rows = t.rows.map f) (r : ρ) : (u.upsert (f r)).rows = (t.upsert r).rows.map f := by
  have hhas : u.has (key (f r)) = t.has (key r) := by
    rw [has, has, h, List.any_map, hf]
    congr 1
    funext s
    simp [hf]
  rw [upsert, upsert]
  by_cases hk : t.has (key r) = true
  · rw [dif_pos (hhas.trans hk), dif_pos hk, rows_mapRows, rows_mapRows, h, List.map_map,
      List.map_map]
    refine List.map_congr_left fun s _ => ?_
    simp only [Function.comp_apply, hf]
    split <;> rfl
  · rw [dif_neg (by rwa [hhas]), dif_neg hk]
    show u.rows ++ [f r] = (t.rows ++ [r]).map f
    rw [h, List.map_append, List.map_singleton]

/-- Writing changed rows back changes them where they stand. -/
theorem rows_upsertAll_map {f : ρ → ρ} (hf : ∀ r, key (f r) = key r) {rs : List ρ}
    (hrs : (rs.map key).Nodup) {t : Table key} (hmem : ∀ r ∈ rs, r ∈ t) :
    (t.upsertAll (rs.map f)).rows = t.rows.map (fun s => if key s ∈ rs.map key then f s else s) := by
  induction rs generalizing t with
  | nil => simp [upsertAll]
  | cons r rs ih =>
      rw [List.map_cons, List.nodup_cons] at hrs
      have hr : r ∈ t := hmem r List.mem_cons_self
      have hrest : ∀ s ∈ rs, s ∈ t.upsert (f r) := by
        intro s hs
        refine mem_upsert.mpr (.inr ⟨hmem s (List.mem_cons_of_mem r hs), ?_⟩)
        rw [hf]
        intro hk
        exact hrs.1 (hk ▸ List.mem_map_of_mem hs)
      have hstep : (t.upsertAll ((r :: rs).map f)) = (t.upsert (f r)).upsertAll (rs.map f) := rfl
      rw [hstep, ih hrs.2 hrest, rows_upsert_of_mem hr (hf r), List.map_map]
      refine List.map_congr_left fun s hs => ?_
      by_cases hk : key s = key r
      · -- the row written first is not written again
        have hs' : s = r := eq_of_key hs hr hk
        subst hs'
        simp only [Function.comp_apply, if_true, hf, if_neg hrs.1, List.map_cons,
          List.mem_cons_self]
      · simp [hk]

/-- Writing back the changed rows that satisfy `p`. -/
theorem rows_upsertAll_filter_map {f : ρ → ρ} (hf : ∀ r, key (f r) = key r) (t : Table key)
    (p : ρ → Bool) :
    (t.upsertAll ((t.rows.filter p).map f)).rows =
      t.rows.map (fun s => if p s then f s else s) := by
  rw [rows_upsertAll_map hf (t.nodup.sublist (List.filter_sublist.map key))
    (fun r hr => (List.mem_filter.mp hr).1)]
  refine List.map_congr_left fun s hs => ?_
  have hiff : key s ∈ (t.rows.filter p).map key ↔ p s = true := by
    constructor
    · intro h
      obtain ⟨u, hu, hk⟩ := List.mem_map.mp h
      obtain ⟨hu, hp⟩ := List.mem_filter.mp hu
      exact eq_of_key hu hs hk ▸ hp
    · intro h
      exact List.mem_map_of_mem (List.mem_filter.mpr ⟨hs, h⟩)
  by_cases hp : p s = true
  · rw [if_pos (hiff.mpr hp), if_pos hp]
  · rw [if_neg (mt hiff.mp hp), if_neg hp]

/-- Insert a row whose key must be new. -/
def insert? (t : Table key) (r : ρ) : Option (Table key) :=
  if h : t.has (key r) = false then
    some ⟨t.rows ++ [r], by
      rw [has_eq_false] at h
      rw [List.map_append, List.nodup_append]
      refine ⟨t.nodup, by simp, ?_⟩
      intro a ha b hb
      obtain ⟨s, hs, rfl⟩ := List.mem_map.mp ha
      rw [List.map_singleton, List.mem_singleton] at hb
      exact hb ▸ h s hs⟩
  else none

attribute [grind =] insert?

theorem insert?_eq_some {t u : Table key} {r : ρ} (h : t.insert? r = some u) :
    (∀ s ∈ t, key s ≠ key r) ∧ u.rows = t.rows ++ [r] := by
  rw [insert?] at h
  split at h
  · rename_i hk
    cases h
    exact ⟨has_eq_false.mp hk, rfl⟩
  · cases h

theorem mem_insert? {t u : Table key} {r s : ρ} (h : t.insert? r = some u) :
    s ∈ u ↔ s ∈ t ∨ s = r := by
  rw [mem_def, (insert?_eq_some h).2]
  simp [mem_def]

/-- An inserted row is found under its key, which had no row. -/
theorem find?_insert? {t u : Table key} {r : ρ} (h : t.insert? r = some u) :
    t.find? (key r) = none ∧ ∀ k, u.find? k = if key r = k then some r else t.find? k := by
  have hnew := (insert?_eq_some h).1
  refine ⟨find?_eq_none.mpr hnew, fun k => ?_⟩
  by_cases hk : key r = k
  · rw [if_pos hk, find?_eq_some, mem_insert? h]
    exact ⟨.inr rfl, hk⟩
  · rw [if_neg hk]
    cases hfound : t.find? k with
    | none =>
        rw [find?_eq_none] at hfound ⊢
        intro s hs
        rcases (mem_insert? h).mp hs with hs | rfl
        · exact hfound s hs
        · exact hk
    | some s =>
        rw [find?_eq_some] at hfound ⊢
        exact ⟨(mem_insert? h).mpr (.inl hfound.1), hfound.2⟩

/-- What the rows list, before and after a write: the new row's list comes for the old row's. -/
theorem flatMap_upsert_perm {β : Type} (t : Table key) (r : ρ) (f : ρ → List β) :
    ((t.upsert r).rows.flatMap f ++ ((t.find? (key r)).map f).getD []).Perm
      (t.rows.flatMap f ++ f r) := by
  cases hfind : t.find? (key r) with
  | none =>
      rw [rows_upsert_of_new (find?_eq_none.mp hfind), List.flatMap_append]
      simp
  | some s =>
      obtain ⟨hs, hk⟩ := find?_eq_some.mp hfind
      obtain ⟨l₁, l₂, hrows⟩ := List.append_of_mem (mem_def.mp hs)
      have hnodup := t.nodup
      rw [hrows, List.map_append, List.map_cons, List.nodup_append] at hnodup
      obtain ⟨-, htail, hdisjoint⟩ := hnodup
      -- no other row has the key
      have hleft : l₁.map (fun x => if key x = key s then r else x) = l₁ := by
        refine (List.map_congr_left fun x hx => if_neg ?_).trans (List.map_id l₁)
        exact hdisjoint _ (List.mem_map_of_mem hx) _ List.mem_cons_self
      have hright : l₂.map (fun x => if key x = key s then r else x) = l₂ := by
        refine (List.map_congr_left fun x hx => if_neg ?_).trans (List.map_id l₂)
        intro heq
        exact (List.nodup_cons.mp htail).1 (heq ▸ List.mem_map_of_mem hx)
      have hupsert : (t.upsert r).rows = l₁ ++ r :: l₂ := by
        rw [rows_upsert_of_mem (f := fun _ => r) hs hk.symm, hrows, List.map_append, List.map_cons,
          hleft, hright, if_pos rfl]
      rw [hupsert, hrows]
      simp only [List.flatMap_append, List.flatMap_cons, Option.map_some, Option.getD_some,
        List.append_assoc]
      refine List.Perm.append_left _ ?_
      have hmoved : (f r ++ (l₂.flatMap f ++ f s)).Perm (f s ++ (f r ++ l₂.flatMap f)) :=
        (List.perm_append_comm.append_left _).trans (List.perm_append_comm_assoc ..)
      exact hmoved.trans (List.perm_append_comm.append_left _)

/-- An insertion succeeds exactly when the key is new. -/
theorem insert?_isSome {t : Table key} {r : ρ} :
    (t.insert? r).isSome = true ↔ ∀ s ∈ t, key s ≠ key r := by
  rw [← has_eq_false, insert?]
  split <;> simp_all

end Lookup

end Table

end Base

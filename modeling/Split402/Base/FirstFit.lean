import Mathlib.Data.List.Basic
import Mathlib.Data.List.Nodup
import Mathlib.Data.List.Perm.Basic
import Mathlib.Data.List.Forall2

/-! # First fit

Requests take slots, one after the other, each the first open slot it fits. `Assigns` is an
assignment of every slot; first fit finds it when it is `Stable`: no request fits a slot that is
listed before its own and that a later request is to have. -/

namespace Base.FirstFit

/-! ## Pairs of slots -/

section Pairs

variable {α β : Type}

theorem mem_zip_of_forall₂ {R : α → β → Prop} {as : List α} {bs : List β}
    (h : List.Forall₂ R as bs) {b : β} (hb : b ∈ bs) : ∃ a, (a, b) ∈ as.zip bs := by
  induction h with
  | nil => cases hb
  | @cons x y as bs _ _ ih =>
      rcases List.mem_cons.mp hb with rfl | hb
      · exact ⟨x, List.mem_cons_self⟩
      · obtain ⟨a, ha⟩ := ih hb
        exact ⟨a, List.mem_cons_of_mem _ ha⟩

theorem sublist_of_split {slots pre post : List β} {b c : β} (hslots : slots = pre ++ c :: post)
    (hb : b ∈ post) : [c, b].Sublist slots := by
  rw [hslots]
  exact ((List.singleton_sublist.mpr hb).cons_cons c).trans (List.sublist_append_right _ _)

theorem mem_pre_of_sublist {slots pre post : List β} {b c : β} (hnodup : slots.Nodup)
    (hslots : slots = pre ++ b :: post) (h : [c, b].Sublist slots) : c ∈ pre := by
  subst hslots
  have hcount := (List.nodup_append.mp hnodup)
  rcases List.sublist_append_iff.mp h with ⟨l₁, l₂, heq, h₁, h₂⟩
  match l₁, heq with
  | [], heq =>
      rw [List.nil_append] at heq
      subst heq
      -- two slots after what precedes `b`: the second is not `b` again
      have hb : b ∉ post := (List.nodup_cons.mp hcount.2.1).1
      cases h₂ with
      | cons _ h₂ => exact absurd (h₂.subset (by simp)) hb
      | cons_cons _ h₂ => exact absurd (h₂.subset (by simp)) hb
  | x :: l₁, heq =>
      rw [List.cons_append, List.cons.injEq] at heq
      rw [heq.1]
      exact h₁.subset List.mem_cons_self

theorem snd_zip_sublist (as : List α) (bs : List β) : ((as.zip bs).map Prod.snd).Sublist bs := by
  induction as generalizing bs with
  | nil => exact List.nil_sublist _
  | cons a as ih =>
      cases bs with
      | nil => exact List.nil_sublist _
      | cons b bs => exact (ih bs).cons_cons b

/-- Two slots have one order. -/
theorem not_sublist_swap {slots : List β} (hnodup : slots.Nodup) {b c : β}
    (h : [b, c].Sublist slots) : ¬ [c, b].Sublist slots := by
  intro h'
  obtain ⟨pre, post, hslots⟩ := List.append_of_mem (h.subset (List.mem_cons_self (a := b)))
  have hc := mem_pre_of_sublist hnodup hslots h'
  obtain ⟨first, second, rfl⟩ := List.append_of_mem hc
  have hslots' : slots = first ++ c :: (second ++ b :: post) := by
    rw [hslots, List.append_assoc, List.cons_append]
  have hb := mem_pre_of_sublist hnodup hslots' h
  -- `b` would be listed twice
  rw [hslots'] at hnodup
  have hdisjoint := (List.nodup_append.mp hnodup).2.2 b hb b (by simp)
  exact hdisjoint rfl

end Pairs

/-! ## Assignments -/

variable {α β : Type} {fits : α → β → Bool}

/-- The requests take all slots, in this order. -/
structure Assigns (fits : α → β → Bool) (requests : List α) (slots taken : List β) : Prop where
  perm : taken.Perm slots
  fits : List.Forall₂ (fun a b => fits a b = true) requests taken

/-- No request fits a slot listed before its own that a later request takes. -/
def Stable (fits : α → β → Bool) (requests : List α) (slots taken : List β) : Prop :=
  (requests.zip taken).Pairwise (fun p q => fits p.1 q.2 = true → ¬ [q.2, p.2].Sublist slots)

/-- Requests in the order of their slots are stable. -/
theorem stable_self {requests : List α} {slots : List β} (hnodup : slots.Nodup) :
    Stable fits requests slots slots := by
  have hordered : slots.Pairwise (fun b c => ¬ [c, b].Sublist slots) :=
    List.pairwise_iff_forall_sublist.mpr fun h => not_sublist_swap hnodup h
  have hzip := hordered.sublist (snd_zip_sublist requests slots)
  refine (List.pairwise_map.mp hzip).imp ?_
  intro p q h _
  exact h

/-! ## First fit -/

variable [DecidableEq β]

/-- Each request takes the first open slot it fits; `none` when one fits no open slot. -/
def assign (fits : α → β → Bool) : List α → List β → Option (List β)
  | [], _ => some []
  | a :: rest, slots =>
      match slots.find? (fits a) with
      | none => none
      | some b => (assign fits rest (slots.erase b)).map (b :: ·)

attribute [grind =] assign

/-- First fit takes open slots, none twice. -/
theorem assign_subset {requests : List α} {slots taken : List β}
    (h : assign fits requests slots = some taken) : taken ⊆ slots := by
  induction requests generalizing slots taken with
  | nil =>
      rw [assign, Option.some.injEq] at h
      rw [← h]
      exact List.nil_subset _
  | cons a rest ih =>
      rw [assign] at h
      cases hfind : slots.find? (fits a) with
      | none =>
          rw [hfind] at h
          cases h
      | some b =>
          rw [hfind] at h
          obtain ⟨others, hrest, rfl⟩ := Option.map_eq_some_iff.mp h
          refine List.cons_subset.mpr ⟨List.mem_of_find?_eq_some hfind, ?_⟩
          exact List.Subset.trans (ih hrest) List.erase_subset

theorem assign_nodup {requests : List α} {slots taken : List β} (hnodup : slots.Nodup)
    (h : assign fits requests slots = some taken) : taken.Nodup := by
  induction requests generalizing slots taken with
  | nil =>
      rw [assign, Option.some.injEq] at h
      rw [← h]
      exact List.nodup_nil
  | cons a rest ih =>
      rw [assign] at h
      cases hfind : slots.find? (fits a) with
      | none =>
          rw [hfind] at h
          cases h
      | some b =>
          rw [hfind] at h
          obtain ⟨others, hrest, rfl⟩ := Option.map_eq_some_iff.mp h
          refine List.nodup_cons.mpr ⟨?_, ih (hnodup.sublist List.erase_sublist) hrest⟩
          exact fun hb => hnodup.not_mem_erase (assign_subset hrest hb)

/-- **First fit finds exactly the stable assignments.** -/
theorem assign_iff {requests : List α} {slots taken : List β} (hnodup : slots.Nodup) :
    assign fits requests slots = some taken ∧ taken.Perm slots ↔
      Assigns fits requests slots taken ∧ Stable fits requests slots taken := by
  induction requests generalizing slots taken with
  | nil =>
      rw [assign, Option.some.injEq]
      constructor
      · rintro ⟨rfl, hperm⟩
        exact ⟨⟨hperm, .nil⟩, .nil⟩
      · rintro ⟨⟨hperm, hfits⟩, -⟩
        cases hfits
        exact ⟨rfl, hperm⟩
  | cons a rest ih =>
      -- what is left after the first request has its slot
      have hleft : ∀ b, (slots.erase b).Nodup := fun b => hnodup.sublist List.erase_sublist
      have hothers : ∀ {b : β} {taken : List β}, taken.Perm (slots.erase b) → ∀ c ∈ taken,
          c ≠ b := by
        intro b taken hperm c hc heq
        rw [heq, hperm.mem_iff] at hc
        exact hnodup.not_mem_erase hc
      constructor
      · rintro ⟨hassign, hperm⟩
        rw [assign] at hassign
        cases hfind : slots.find? (fits a) with
        | none =>
            rw [hfind] at hassign
            cases hassign
        | some b =>
            rw [hfind] at hassign
            obtain ⟨others, hrest, rfl⟩ := Option.map_eq_some_iff.mp hassign
            obtain ⟨hfits, pre, post, hslots, hpre⟩ := List.find?_eq_some_iff_append.mp hfind
            have hperm' : others.Perm (slots.erase b) := by
              have herase := hperm.erase b
              rwa [List.erase_cons_head] at herase
            obtain ⟨hassigns, hstable⟩ := (ih (hleft b)).mp ⟨hrest, hperm'⟩
            refine ⟨⟨hperm, .cons hfits hassigns.fits⟩, ?_⟩
            refine List.Pairwise.cons ?_ ?_
            · -- the slots before its own do not fit the first request
              intro q _ hq hsub
              have hmem := mem_pre_of_sublist hnodup hslots hsub
              have hno := hpre q.2 hmem
              rw [hq] at hno
              cases hno
            · refine hstable.imp_of_mem ?_
              intro p q hp hq h hfit hsub
              refine h hfit ?_
              have hp2 : p.2 ≠ b := hothers hperm' _ (List.of_mem_zip hp).2
              have hq2 : q.2 ≠ b := hothers hperm' _ (List.of_mem_zip hq).2
              have herase := hsub.erase b
              rwa [List.erase_cons_tail (by simpa using hq2),
                List.erase_cons_tail (by simpa using hp2), List.erase_nil] at herase
      · rintro ⟨⟨hperm, hfits⟩, hstable⟩
        cases hfits with
        | @cons _ b _ others hfit hrest =>
            obtain ⟨hfirst, hstable⟩ := List.pairwise_cons.mp hstable
            have hb : b ∈ slots := hperm.mem_iff.mp List.mem_cons_self
            have hperm' : others.Perm (slots.erase b) := by
              have herase := hperm.erase b
              rwa [List.erase_cons_head] at herase
            have hfind : slots.find? (fits a) = some b := by
              cases hfind : slots.find? (fits a) with
              | none => exact absurd hfit (List.find?_eq_none.mp hfind b hb)
              | some c =>
                  obtain ⟨hfitc, pre, post, hslots, hpre⟩ := List.find?_eq_some_iff_append.mp hfind
                  by_contra hne
                  have hne : c ≠ b := fun h => hne (by rw [h])
                  -- a later request takes `c`, which is listed before `b`
                  have hc : c ∈ b :: others := by
                    rw [hperm.mem_iff, hslots]
                    simp
                  have hc : c ∈ others := (List.mem_cons.mp hc).resolve_left hne
                  obtain ⟨a', ha'⟩ := mem_zip_of_forall₂ hrest hc
                  have hpost : b ∈ post := by
                    rw [hslots] at hb
                    rcases List.mem_append.mp hb with hb | hb
                    · have hno := hpre b hb
                      rw [hfit] at hno
                      cases hno
                    · exact (List.mem_cons.mp hb).resolve_left (Ne.symm hne)
                  exact hfirst (a', c) ha' hfitc (sublist_of_split hslots hpost)
            have hstable' : Stable fits rest (slots.erase b) others := by
              refine hstable.imp ?_
              intro p q h hfit hsub
              exact h hfit (hsub.trans List.erase_sublist)
            obtain ⟨hassign, -⟩ := (ih (hleft b)).mpr ⟨⟨hperm', hrest⟩, hstable'⟩
            refine ⟨?_, hperm⟩
            rw [assign, hfind]
            dsimp only
            rw [hassign]
            rfl

/-- When requests that share a slot share them all, any assignment can be made first fit. -/
theorem exists_assign {requests : List α} {slots taken : List β} (hnodup : slots.Nodup)
    (hshare : ∀ a a', ∀ b ∈ slots, ∀ b' ∈ slots, fits a b = true → fits a b' = true →
      fits a' b = true → fits a' b' = true) (h : Assigns fits requests slots taken) :
    ∃ taken', assign fits requests slots = some taken' ∧ taken'.Perm slots := by
  induction requests generalizing slots taken with
  | nil =>
      obtain ⟨hperm, hfits⟩ := h
      cases hfits
      exact ⟨[], rfl, hperm⟩
  | cons a rest ih =>
      obtain ⟨hperm, hfits⟩ := h
      cases hfits with
      | @cons _ b _ others hfit hrest =>
          have hb : b ∈ slots := hperm.mem_iff.mp List.mem_cons_self
          obtain ⟨c, hfind⟩ : ∃ c, slots.find? (fits a) = some c :=
            Option.isSome_iff_exists.mp (List.find?_isSome.mpr ⟨b, hb, hfit⟩)
          have hfitc := List.find?_some hfind
          -- the request that was to have `c` takes `b`
          have hswap : ∃ others', List.Forall₂ (fun a b => fits a b = true) rest others' ∧
              others'.Perm (slots.erase c) := by
            have herase := hperm.erase c
            by_cases hbc : b = c
            · refine ⟨others, hrest, ?_⟩
              rwa [hbc, List.erase_cons_head] at herase
            · rw [List.erase_cons_tail (by simpa using hbc)] at herase
              have hc : c ∈ others := by
                have hc := hperm.mem_iff.mpr (List.mem_of_find?_eq_some hfind)
                exact (List.mem_cons.mp hc).resolve_left (Ne.symm hbc)
              have hnodup' : others.Nodup := (List.nodup_cons.mp (hperm.nodup_iff.mpr hnodup)).2
              obtain ⟨pre, post, rfl⟩ := List.append_of_mem hc
              have hpre : c ∉ pre := fun h =>
                (List.nodup_append.mp hnodup').2.2 c h c List.mem_cons_self rfl
              have hfirst := List.forall₂_take_append _ _ _ hrest
              have hlast := List.forall₂_drop_append _ _ _ hrest
              generalize hdrop : rest.drop pre.length = last at hlast
              cases hlast with
              | @cons a' _ last _ hfit' hlast =>
                  have hc := List.mem_of_find?_eq_some hfind
                  have hb' := hshare a a' c hc b hb hfitc hfit hfit'
                  refine ⟨pre ++ b :: post, ?_, ?_⟩
                  · rw [← List.take_append_drop pre.length rest, hdrop]
                    exact List.rel_append hfirst (.cons hb' hlast)
                  · rw [List.erase_append_right _ hpre, List.erase_cons_head] at herase
                    exact List.perm_middle.trans herase
          obtain ⟨others', hrest', hperm'⟩ := hswap
          have hmem : ∀ {d}, d ∈ slots.erase c → d ∈ slots := List.mem_of_mem_erase
          obtain ⟨taken', hassign, htaken⟩ := ih (hnodup.sublist List.erase_sublist)
            (fun a a' d hd e he => hshare a a' d (hmem hd) e (hmem he)) ⟨hperm', hrest'⟩
          refine ⟨c :: taken', ?_, ?_⟩
          · rw [assign, hfind]
            dsimp only
            rw [hassign]
            rfl
          · exact (htaken.cons c).trans (List.perm_cons_erase (List.mem_of_find?_eq_some hfind)).symm

end Base.FirstFit

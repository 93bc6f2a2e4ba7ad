import Mathlib.Algebra.GroupWithZero.Nat
import Mathlib.Algebra.BigOperators.Group.List.Basic
import Mathlib.Data.List.Nodup

/-! # Escrow: exclusive allocation of resources

Holders reserve resources of known worth. A resource is free, held by a reservation, or spent;
a holder is live until it is cancelled, and closed once what it holds was spent. The purpose of
such a component is one sentence: **what a live holder owes is exactly what it alone holds.**
`Inv` states it, `Step` lists the only four ways the component may move, and `Step.inv` shows
that each of them keeps it. A store that moves only in these ways has the property, whatever
its data structures are. -/

namespace Base.Escrow

/-- What a resource can be used for. -/
inductive Condition
  | free | held | spent | other
  deriving DecidableEq

structure State (ρ β : Type*) where
  cond : ρ → Condition
  worth : ρ → Nat
  /-- the holders there have been -/
  known : β → Prop
  /-- the resources a holder reserved -/
  holds : β → List ρ
  owed : β → Nat
  live : β → Prop
  closed : β → Prop

variable {ρ β : Type*} {s s' : State ρ β}

/-- A live holder holds pairwise different resources that no other live holder holds; they are
held until it is closed and spent from then on; their worth is what it owes. -/
structure Inv (s : State ρ β) : Prop where
  nodup : ∀ b, s.live b → (s.holds b).Nodup
  disjoint : ∀ b c, s.live b → s.live c → b ≠ c → (s.holds b).Disjoint (s.holds c)
  held : ∀ b, s.live b → ¬ s.closed b → ∀ r ∈ s.holds b, s.cond r = .held
  spent : ∀ b, s.live b → s.closed b → ∀ r ∈ s.holds b, s.cond r = .spent
  balanced : ∀ b, s.live b → s.owed b = ((s.holds b).map s.worth).sum

/-- The step leaves a holder as it is: if it was live, with the same reservation. -/
structure Keeps (s s' : State ρ β) (b : β) : Prop where
  known : s'.known b ↔ s.known b
  live : s'.live b ↔ s.live b
  holds : s.live b → s'.holds b = s.holds b
  owed : s.live b → s'.owed b = s.owed b
  closed : s.live b → (s'.closed b ↔ s.closed b)

/-- The four ways an escrow moves. -/
inductive Step (s s' : State ρ β) : Prop
  /-- no holder changes, and nothing that is held or spent changes -/
  | frame (keeps : ∀ b, Keeps s s' b)
      (cond : ∀ r, s.cond r = .held ∨ s.cond r = .spent → s'.cond r = s.cond r)
      (worth : ∀ r, s.cond r = .held ∨ s.cond r = .spent → s'.worth r = s.worth r)
  /-- a new holder reserves free resources -/
  | take (b : β) (fresh : ¬ s.known b) (keeps : ∀ c, c ≠ b → Keeps s s' c)
      (live : s'.live b) (notClosed : ¬ s'.closed b) (nodup : (s'.holds b).Nodup)
      (balanced : s'.owed b = ((s'.holds b).map s'.worth).sum)
      (free : ∀ r ∈ s'.holds b, s.cond r = .free)
      (taken : ∀ r ∈ s'.holds b, s'.cond r = .held)
      (cond : ∀ r, r ∉ s'.holds b → s'.cond r = s.cond r)
      (worth : ∀ r, s'.worth r = s.worth r)
  /-- a holder is cancelled and frees what it holds; one that was not live frees nothing -/
  | release (b : β) (owner : s.live b ∨ ∀ r ∈ s.holds b, s.cond r ≠ .held)
      (keeps : ∀ c, c ≠ b → Keeps s s' c) (known : s'.known b) (dead : ¬ s'.live b)
      (cond : ∀ r, r ∉ s.holds b ∨ s.cond r ≠ .held → s'.cond r = s.cond r)
      (worth : ∀ r, s'.worth r = s.worth r)
  /-- a live holder is closed and spends what it holds -/
  | settle (b : β) (live : s.live b) (notClosed : ¬ s.closed b)
      (keeps : ∀ c, c ≠ b → Keeps s s' c) (known : s'.known b) (stillLive : s'.live b)
      (holds : s'.holds b = s.holds b) (owed : s'.owed b = s.owed b) (closed : s'.closed b)
      (paid : ∀ r ∈ s.holds b, s.cond r = .held → s'.cond r = .spent)
      (cond : ∀ r, r ∉ s.holds b → s'.cond r = s.cond r)
      (worth : ∀ r, s'.worth r = s.worth r)

/-- Staying where it is is a step. -/
theorem Step.of_eq (h : s' = s) : Step s s' := by
  subst h
  exact .frame (fun _ => ⟨Iff.rfl, Iff.rfl, fun _ => rfl, fun _ => rfl, fun _ => Iff.rfl⟩)
    (fun _ _ => rfl) (fun _ _ => rfl)

/-- The invariant holds where nothing is live. -/
theorem Inv.of_not_live (h : ∀ b, ¬ s.live b) : Inv s :=
  ⟨fun b hb => absurd hb (h b), fun b _ hb => absurd hb (h b), fun b hb => absurd hb (h b),
    fun b hb => absurd hb (h b), fun b hb => absurd hb (h b)⟩

/-- What a live holder holds is held or spent. -/
theorem Inv.held_or_spent (h : Inv s) {b : β} (hb : s.live b) {r : ρ} (hr : r ∈ s.holds b) :
    s.cond r = .held ∨ s.cond r = .spent := by
  by_cases hc : s.closed b
  · exact .inr (h.spent b hb hc r hr)
  · exact .inl (h.held b hb hc r hr)

/-- **What a live holder holds is not free.** -/
theorem Inv.not_free (h : Inv s) {b : β} (hb : s.live b) {r : ρ} (hr : r ∈ s.holds b) :
    s.cond r ≠ .free := by
  rcases h.held_or_spent hb hr with hr | hr <;> rw [hr] <;> decide

/-- The invariant moves to a state in which every live holder was live before with the same
reservation, and what it holds is as it was. -/
theorem Inv.of_keeps (h : Inv s) (hlive : ∀ b, s'.live b → s.live b)
    (hkeeps : ∀ b, s'.live b → Keeps s s' b)
    (hcond : ∀ b, s'.live b → ∀ r ∈ s.holds b, s'.cond r = s.cond r)
    (hworth : ∀ b, s'.live b → ∀ r ∈ s.holds b, s'.worth r = s.worth r) : Inv s' where
  nodup b hb := by
    rw [(hkeeps b hb).holds (hlive b hb)]
    exact h.nodup b (hlive b hb)
  disjoint b c hb hc hne := by
    rw [(hkeeps b hb).holds (hlive b hb), (hkeeps c hc).holds (hlive c hc)]
    exact h.disjoint b c (hlive b hb) (hlive c hc) hne
  held b hb hn r hr := by
    rw [(hkeeps b hb).holds (hlive b hb)] at hr
    rw [hcond b hb r hr]
    exact h.held b (hlive b hb) (mt ((hkeeps b hb).closed (hlive b hb)).mpr hn) r hr
  spent b hb hc r hr := by
    rw [(hkeeps b hb).holds (hlive b hb)] at hr
    rw [hcond b hb r hr]
    exact h.spent b (hlive b hb) (((hkeeps b hb).closed (hlive b hb)).mp hc) r hr
  balanced b hb := by
    rw [(hkeeps b hb).owed (hlive b hb), (hkeeps b hb).holds (hlive b hb),
      h.balanced b (hlive b hb), List.map_congr_left (hworth b hb)]

/-- The reservation of a new holder joins the others. -/
theorem Inv.take (h : Inv s) {b : β} (keeps : ∀ c, c ≠ b → Keeps s s' c)
    (notClosed : ¬ s'.closed b) (nodup : (s'.holds b).Nodup)
    (balanced : s'.owed b = ((s'.holds b).map s'.worth).sum)
    (free : ∀ r ∈ s'.holds b, s.cond r = .free) (taken : ∀ r ∈ s'.holds b, s'.cond r = .held)
    (cond : ∀ r, r ∉ s'.holds b → s'.cond r = s.cond r) (worth : ∀ r, s'.worth r = s.worth r) :
    Inv s' := by
  have hold : ∀ c, s'.live c → c ≠ b → s.live c ∧ s'.holds c = s.holds c := by
    intro c hc hne
    have hc' := (keeps c hne).live.mp hc
    exact ⟨hc', (keeps c hne).holds hc'⟩
  -- what another live holder holds is not free, so the new one did not take it
  have hother : ∀ c, s'.live c → c ≠ b → ∀ r ∈ s'.holds c, r ∉ s'.holds b := by
    intro c hc hne r hr hrb
    obtain ⟨hc', he⟩ := hold c hc hne
    rw [he] at hr
    exact h.not_free hc' hr (free r hrb)
  refine ⟨?_, ?_, ?_, ?_, ?_⟩
  · intro c hc
    by_cases hne : c = b
    · exact hne ▸ nodup
    · rw [(hold c hc hne).2]
      exact h.nodup c (hold c hc hne).1
  · intro c d hc hd hcd r hrc hrd
    by_cases hcb : c = b
    · exact hother d hd (by rintro rfl; exact hcd hcb) r hrd (hcb ▸ hrc)
    · by_cases hdb : d = b
      · exact hother c hc hcb r hrc (hdb ▸ hrd)
      · rw [(hold c hc hcb).2] at hrc
        rw [(hold d hd hdb).2] at hrd
        exact h.disjoint c d (hold c hc hcb).1 (hold d hd hdb).1 hcd hrc hrd
  · intro c hc hn r hr
    by_cases hne : c = b
    · subst hne
      exact taken r hr
    · rw [cond r (hother c hc hne r hr)]
      obtain ⟨hc', he⟩ := hold c hc hne
      rw [he] at hr
      exact h.held c hc' (mt ((keeps c hne).closed hc').mpr hn) r hr
  · intro c hc hcl r hr
    by_cases hne : c = b
    · subst hne
      exact absurd hcl notClosed
    · rw [cond r (hother c hc hne r hr)]
      obtain ⟨hc', he⟩ := hold c hc hne
      rw [he] at hr
      exact h.spent c hc' (((keeps c hne).closed hc').mp hcl) r hr
  · intro c hc
    by_cases hne : c = b
    · subst hne
      exact balanced
    · obtain ⟨hc', he⟩ := hold c hc hne
      rw [(keeps c hne).owed hc', he, h.balanced c hc', List.map_congr_left (fun r _ => worth r)]

/-- **An escrow step keeps the invariant.** -/
theorem Step.inv (hs : Step s s') (h : Inv s) : Inv s' := by
  cases hs with
  | frame keeps cond worth =>
      refine h.of_keeps (fun b hb => (keeps b).live.mp hb) (fun b _ => keeps b) ?_ ?_
      · intro b hb r hr
        exact cond r (h.held_or_spent ((keeps b).live.mp hb) hr)
      · intro b hb r hr
        exact worth r (h.held_or_spent ((keeps b).live.mp hb) hr)
  | take b fresh keeps live notClosed nodup balanced free taken cond worth =>
      exact h.take keeps notClosed nodup balanced free taken cond worth
  | release b owner keeps known dead cond worth =>
      have hne : ∀ c, s'.live c → c ≠ b := by
        rintro c hc rfl
        exact dead hc
      have hlive : ∀ c, s'.live c → s.live c := fun c hc => (keeps c (hne c hc)).live.mp hc
      refine h.of_keeps hlive (fun c hc => keeps c (hne c hc)) ?_ (fun _ _ r _ => worth r)
      intro c hc r hr
      refine cond r ?_
      -- a resource of another live holder is not freed: it is not the cancelled holder's
      rcases owner with hb | hb
      · exact .inl (fun hrb => h.disjoint c b (hlive c hc) hb (hne c hc) hr hrb)
      · by_cases hrb : r ∈ s.holds b
        · exact .inr (hb r hrb)
        · exact .inl hrb
  | settle b live notClosed keeps known stillLive holds owed closed paid cond worth =>
      have hlive : ∀ c, s'.live c → s.live c := by
        intro c hc
        by_cases hne : c = b
        · exact hne ▸ live
        · exact (keeps c hne).live.mp hc
      have hother : ∀ c, s'.live c → c ≠ b → ∀ r ∈ s.holds c, r ∉ s.holds b :=
        fun c hc hne r hr hrb => h.disjoint c b (hlive c hc) live hne hr hrb
      have hholds : ∀ c, s'.live c → s'.holds c = s.holds c := by
        intro c hc
        by_cases hne : c = b
        · exact hne ▸ holds
        · exact (keeps c hne).holds (hlive c hc)
      refine ⟨?_, ?_, ?_, ?_, ?_⟩
      · intro c hc
        rw [hholds c hc]
        exact h.nodup c (hlive c hc)
      · intro c d hc hd hcd
        rw [hholds c hc, hholds d hd]
        exact h.disjoint c d (hlive c hc) (hlive d hd) hcd
      · intro c hc hn r hr
        by_cases hne : c = b
        · subst hne
          exact absurd closed hn
        · rw [hholds c hc] at hr
          rw [cond r (hother c hc hne r hr)]
          exact h.held c (hlive c hc) (mt ((keeps c hne).closed (hlive c hc)).mpr hn) r hr
      · intro c hc hcl r hr
        rw [hholds c hc] at hr
        by_cases hne : c = b
        · subst hne
          exact paid r hr (h.held c live notClosed r hr)
        · rw [cond r (hother c hc hne r hr)]
          exact h.spent c (hlive c hc) (((keeps c hne).closed (hlive c hc)).mp hcl) r hr
      · intro c hc
        rw [hholds c hc, List.map_congr_left (fun r _ => worth r), ← h.balanced c (hlive c hc)]
        by_cases hne : c = b
        · exact hne ▸ owed
        · exact (keeps c hne).owed (hlive c hc)

/-- What a later state remembers of the holders of an earlier one: a holder that is still live was
live then, with the same reservation. -/
def Persists (s s' : State ρ β) : Prop :=
  ∀ b, s.known b → s'.known b ∧
    (s'.live b → s.live b ∧ s'.holds b = s.holds b ∧ s'.owed b = s.owed b)

theorem Persists.refl (s : State ρ β) : Persists s s := fun _ hb => ⟨hb, fun h => ⟨h, rfl, rfl⟩⟩

theorem Persists.trans {s₁ s₂ s₃ : State ρ β} (h : Persists s₁ s₂) (h' : Persists s₂ s₃) :
    Persists s₁ s₃ := by
  intro b hb
  obtain ⟨hb₂, hlive⟩ := h b hb
  obtain ⟨hb₃, hlive'⟩ := h' b hb₂
  refine ⟨hb₃, fun h₃ => ?_⟩
  obtain ⟨h₂, hholds', howed'⟩ := hlive' h₃
  obtain ⟨h₁, hholds, howed⟩ := hlive h₂
  exact ⟨h₁, hholds'.trans hholds, howed'.trans howed⟩

theorem Keeps.persists {b : β} (h : Keeps s s' b) (hb : s.known b) :
    s'.known b ∧ (s'.live b → s.live b ∧ s'.holds b = s.holds b ∧ s'.owed b = s.owed b) := by
  refine ⟨h.known.mpr hb, fun hlive => ?_⟩
  have hlive' := h.live.mp hlive
  exact ⟨hlive', h.holds hlive', h.owed hlive'⟩

/-- **A cancelled holder stays cancelled**, and a live one keeps its reservation. -/
theorem Step.persists (hs : Step s s') : Persists s s' := by
  intro b hb
  cases hs with
  | frame keeps _ _ => exact (keeps b).persists hb
  | take c fresh keeps _ _ _ _ _ _ _ _ =>
      exact (keeps b (by rintro rfl; exact fresh hb)).persists hb
  | release c _ keeps known dead _ _ =>
      by_cases hbc : b = c
      · subst hbc
        exact ⟨known, fun h => absurd h dead⟩
      · exact (keeps b hbc).persists hb
  | settle c live _ keeps known _ holds owed _ _ _ _ =>
      by_cases hbc : b = c
      · subst hbc
        exact ⟨known, fun _ => ⟨live, holds, owed⟩⟩
      · exact (keeps b hbc).persists hb

/-- **Settling pays what is owed.** Pairwise different resources that are exactly those the
holder holds are worth what it owes. -/
theorem Inv.owed_eq (h : Inv s) {b : β} (hb : s.live b) {rs : List ρ} (hrs : rs.Nodup)
    (hmem : ∀ r, r ∈ rs ↔ r ∈ s.holds b) : s.owed b = (rs.map s.worth).sum := by
  have hperm : (s.holds b).Perm rs :=
    (List.perm_ext_iff_of_nodup (h.nodup b hb) hrs).mpr (fun r => (hmem r).symm)
  rw [h.balanced b hb, (hperm.map s.worth).sum_eq]

end Base.Escrow

import Split402.Base.Async

/-! # Exclusive use

Calls that use something up, each with the one atomic operation that finds it unused: whatever the
other calls do in between, at most one call has got past that operation. `holds` says which calls
have got past it. -/

namespace Base.Pool

variable {κ σ ι ρ Op : Type} {Ans : Op → Type} {ε α : Type}
  {handle : κ → σ → (op : Op) → σ → Except ε (Ans op) → Prop} {outside : σ → ι → σ → Prop}
  {program : κ → Async Op Ans ε α}

/-- Where a call of a pool comes from: it was there, it has started, or it is the one that is
resumed. -/
theorem getElem?_of_step {pool pool' : Pool κ σ Op Ans ε α} {event : Event κ ι}
    (h : Step handle outside program pool event pool') {i : Nat} {entry : κ × Async Op Ans ε α}
    (hi : pool'.calls[i]? = some entry) :
    (pool.calls[i]? = some entry ∧ event ≠ .resume i) ∨
      (∃ c, event = .start c ∧ entry = (c, program c) ∧ i = pool.calls.length) ∨
      ∃ c op resume answer, event = .resume i ∧ pool.calls[i]? = some (c, .await op resume) ∧
        handle c pool.shared op pool'.shared answer ∧ entry = (c, resume answer) := by
  cases h with
  | start c =>
      by_cases hlt : i < pool.calls.length
      · rw [List.getElem?_append_left hlt] at hi
        exact .inl ⟨hi, by simp⟩
      · have hle : pool.calls.length ≤ i := by omega
        rw [List.getElem?_append_right hle, List.getElem?_singleton] at hi
        split at hi
        · cases hi
          exact .inr (.inl ⟨c, rfl, rfl, by omega⟩)
        · cases hi
  | @resume j c op resume u answer hj hhandle =>
      by_cases hij : j = i
      · subst hij
        have hlt : j < pool.calls.length := (List.getElem?_eq_some_iff.mp hj).1
        rw [List.getElem?_set_self hlt, Option.some.injEq] at hi
        exact .inr (.inr ⟨c, op, resume, answer, rfl, hj, hhandle, hi.symm⟩)
      · rw [List.getElem?_set_ne hij] at hi
        exact .inl ⟨hi, fun heq => hij (by injection heq)⟩
  | outside _ => exact .inl ⟨hi, by simp⟩

variable (resource : κ → Option ρ) (used : σ → ρ → Prop) (holds : σ → κ → Async Op Ans ε α → Prop)

/-- A call that holds has used its resource up, and no two calls hold the same one. -/
structure Exclusive (pool : Pool κ σ Op Ans ε α) : Prop where
  used : ∀ entry ∈ pool.calls, holds pool.shared entry.1 entry.2 →
    ∃ r, resource entry.1 = some r ∧ used pool.shared r
  unique : ∀ (i j : Nat) (first second : κ × Async Op Ans ε α) (r : ρ),
    pool.calls[i]? = some first → pool.calls[j]? = some second →
    holds pool.shared first.1 first.2 → holds pool.shared second.1 second.2 →
    resource first.1 = some r → resource second.1 = some r → i = j

/-- What a step does to the calls that hold: a call gets to hold only by an operation of its own that
finds its resource unused and uses it up. -/
structure Acquires (handle : κ → σ → (op : Op) → σ → Except ε (Ans op) → Prop)
    (program : κ → Async Op Ans ε α) (pool : Pool κ σ Op Ans ε α) (event : Event κ ι)
    (pool' : Pool κ σ Op Ans ε α) : Prop where
  mono : ∀ r, used pool.shared r → used pool'.shared r
  start : ∀ c, event = .start c → ¬ holds pool'.shared c (program c)
  others : ∀ (i : Nat) entry, pool.calls[i]? = some entry → event ≠ .resume i →
    holds pool'.shared entry.1 entry.2 → holds pool.shared entry.1 entry.2
  resume : ∀ (i : Nat) c op resume answer, event = .resume i →
    pool.calls[i]? = some (c, .await op resume) → handle c pool.shared op pool'.shared answer →
    holds pool'.shared c (resume answer) →
      holds pool.shared c (.await op resume) ∨
        ∃ r, resource c = some r ∧ ¬ used pool.shared r ∧ used pool'.shared r

variable {resource used holds} {pool pool' : Pool κ σ Op Ans ε α} {event : Event κ ι}

/-- A call that holds after a step held before it, or its resource was unused. -/
theorem Acquires.back (h : Acquires resource used holds handle program pool event pool')
    (hstep : Step handle outside program pool event pool') {i : Nat}
    {entry : κ × Async Op Ans ε α} (hi : pool'.calls[i]? = some entry)
    (hholds : holds pool'.shared entry.1 entry.2) :
    ∃ p, pool.calls[i]? = some (entry.1, p) ∧
      (holds pool.shared entry.1 p ∨
        event = .resume i ∧ ∃ r, resource entry.1 = some r ∧ ¬ used pool.shared r ∧
          used pool'.shared r) := by
  rcases getElem?_of_step hstep hi with ⟨hold, hne⟩ | ⟨c, hevent, rfl, -⟩ |
    ⟨c, op, resume, answer, hevent, hold, hhandle, rfl⟩
  · exact ⟨entry.2, hold, .inl (h.others i entry hold hne hholds)⟩
  · exact absurd hholds (h.start c hevent)
  · rcases h.resume i c op resume answer hevent hold hhandle hholds with hbefore | hpassed
    · exact ⟨_, hold, .inl hbefore⟩
    · exact ⟨_, hold, .inr ⟨hevent, hpassed⟩⟩

/-- **The rule of exclusive use.** -/
theorem Exclusive.step (h : Exclusive resource used holds pool)
    (hstep : Step handle outside program pool event pool')
    (hacquires : Acquires resource used holds handle program pool event pool') :
    Exclusive resource used holds pool' := by
  refine ⟨?_, ?_⟩
  · intro entry hentry hholds
    obtain ⟨i, hi⟩ := List.mem_iff_getElem?.mp hentry
    obtain ⟨p, hp, hbefore | ⟨-, r, hr, -, hused⟩⟩ := hacquires.back hstep hi hholds
    · obtain ⟨r, hr, hused⟩ := h.used _ (List.mem_of_getElem? hp) hbefore
      exact ⟨r, hr, hacquires.mono r hused⟩
    · exact ⟨r, hr, hused⟩
  · intro i j first second r hi hj hfirst hsecond hr hr'
    obtain ⟨p, hp, hcase⟩ := hacquires.back hstep hi hfirst
    obtain ⟨q, hq, hcase'⟩ := hacquires.back hstep hj hsecond
    rcases hcase with hbefore | ⟨hevent, r₁, hr₁, hunused, -⟩
    · rcases hcase' with hbefore' | ⟨hevent', r₂, hr₂, hunused', -⟩
      · exact h.unique i j _ _ r hp hq hbefore hbefore' hr hr'
      · obtain ⟨r₃, hr₃, hused₃⟩ := h.used _ (List.mem_of_getElem? hp) hbefore
        cases hr.symm.trans hr₃
        cases hr'.symm.trans hr₂
        exact absurd hused₃ hunused'
    · rcases hcase' with hbefore' | ⟨hevent', -⟩
      · obtain ⟨r₃, hr₃, hused₃⟩ := h.used _ (List.mem_of_getElem? hq) hbefore'
        cases hr'.symm.trans hr₃
        cases hr.symm.trans hr₁
        exact absurd hused₃ hunused
      · cases hevent.symm.trans hevent'
        rfl

/-- A resource has been used up, and no call from the `n`th on has got past the operation for it. -/
structure TooLate (resource : κ → Option ρ) (used : σ → ρ → Prop)
    (holds : σ → κ → Async Op Ans ε α → Prop) (r : ρ) (n : Nat) (pool : Pool κ σ Op Ans ε α) :
    Prop where
  used : used pool.shared r
  none : ∀ (i : Nat) entry, n ≤ i → pool.calls[i]? = some entry → resource entry.1 = some r →
    ¬ holds pool.shared entry.1 entry.2

/-- **The rule of late calls.** A call that starts when its resource has been used up never gets
past the operation for it. -/
theorem TooLate.step {r : ρ} {n : Nat} (h : TooLate resource used holds r n pool)
    (hstep : Step handle outside program pool event pool')
    (hacquires : Acquires resource used holds handle program pool event pool') :
    TooLate resource used holds r n pool' := by
  refine ⟨hacquires.mono r h.used, ?_⟩
  intro i entry hle hi hr hholds
  obtain ⟨p, hp, hbefore | ⟨-, r', hr', hnot, -⟩⟩ := hacquires.back hstep hi hholds
  · exact h.none i _ hle hp hr hbefore
  · cases hr.symm.trans hr'
    exact hnot h.used

end Base.Pool

import Split402.Base.Async

/-! # Traces of asynchronous calls

A trace is what the operations of a program have answered, in the order in which it awaited them.
`Traces` says how far the program has come then. Each way to put programs together has its
inversion: a trace of the whole is a trace of the parts, one after the other. -/

namespace Base

namespace Async

variable {Op : Type} {Ans : Op → Type} {ε α β : Type}

/-- An operation and what it has answered. -/
structure Answered (Op : Type) (Ans : Op → Type) (ε : Type) where
  op : Op
  answer : Except ε (Ans op)

/-- The program has come to another one when its operations have answered as in the trace. -/
inductive Traces : Async Op Ans ε α → List (Answered Op Ans ε) → Async Op Ans ε α → Prop
  | nil (p : Async Op Ans ε α) : Traces p [] p
  | cons {op : Op} {resume : Except ε (Ans op) → Async Op Ans ε α}
      {t : List (Answered Op Ans ε)} {q : Async Op Ans ε α} (answer : Except ε (Ans op)) :
      Traces (resume answer) t q → Traces (.await op resume) (⟨op, answer⟩ :: t) q

variable {t : List (Answered Op Ans ε)}

theorem Traces.of_done {result : Except ε α} {q : Async Op Ans ε α}
    (h : Traces (.done result) t q) : t = [] ∧ q = .done result := by
  cases h
  exact ⟨rfl, rfl⟩

/-- A program that awaits an operation awaits it still, or has gone on with its answer. -/
theorem Traces.of_await {op : Op} {resume : Except ε (Ans op) → Async Op Ans ε α}
    {q : Async Op Ans ε α} (h : Traces (.await op resume) t q) :
    t = [] ∧ q = .await op resume ∨
      ∃ answer t', t = ⟨op, answer⟩ :: t' ∧ Traces (resume answer) t' q := by
  cases h with
  | nil => exact .inl ⟨rfl, rfl⟩
  | cons answer h => exact .inr ⟨answer, _, rfl, h⟩

/-- A sequence is still in its first part, has failed there, or is in its second part. -/
theorem Traces.of_bind {p : Async Op Ans ε α} {next : α → Async Op Ans ε β}
    {q : Async Op Ans ε β} (h : Traces (p >>= next) t q) :
    (∃ op resume, Traces p t (.await op resume) ∧ q.waitsFor = some op) ∨
    (∃ e, Traces p t (.done (.error e)) ∧ q = .done (.error e)) ∨
    ∃ t₁ t₂ a, t = t₁ ++ t₂ ∧ Traces p t₁ (.done (.ok a)) ∧ Traces (next a) t₂ q := by
  induction p generalizing t with
  | done result =>
      cases result with
      | ok a => exact .inr (.inr ⟨[], t, a, rfl, .nil _, h⟩)
      | error e =>
          obtain ⟨rfl, rfl⟩ := Traces.of_done h
          exact .inr (.inl ⟨e, .nil _, rfl⟩)
  | await op resume ih =>
      rw [await_bind] at h
      rcases h.of_await with ⟨rfl, rfl⟩ | ⟨answer, t', rfl, h'⟩
      · exact .inl ⟨op, resume, .nil _, rfl⟩
      · rcases ih answer h' with ⟨op', resume', hp, hq⟩ | ⟨e, hp, hq⟩ | ⟨t₁, t₂, a, rfl, hp, hnext⟩
        · exact .inl ⟨op', resume', .cons answer hp, hq⟩
        · exact .inr (.inl ⟨e, .cons answer hp, hq⟩)
        · exact .inr (.inr ⟨⟨op, answer⟩ :: t₁, t₂, a, rfl, .cons answer hp, hnext⟩)

/-- A program whose errors are caught, and what is done with its outcome. -/
theorem Traces.of_caught {p : Async Op Ans ε α} {next : Except ε α → Async Op Ans ε β}
    {q : Async Op Ans ε β}
    (h : Traces (MonadExcept.tryCatch (Except.ok <$> p) (fun e => pure (Except.error e)) >>= next)
      t q) :
    (∃ op resume, Traces p t (.await op resume) ∧ q.waitsFor = some op) ∨
    ∃ t₁ t₂ outcome, t = t₁ ++ t₂ ∧ Traces p t₁ (.done outcome) ∧ Traces (next outcome) t₂ q := by
  induction p generalizing t with
  | done result =>
      cases result with
      | ok a => exact .inr ⟨[], t, .ok a, rfl, .nil _, h⟩
      | error e => exact .inr ⟨[], t, .error e, rfl, .nil _, h⟩
  | await op resume ih =>
      rcases Traces.of_await h with ⟨rfl, rfl⟩ | ⟨answer, t', rfl, h'⟩
      · exact .inl ⟨op, resume, .nil _, rfl⟩
      · rcases ih answer h' with ⟨op', resume', hp, hq⟩ | ⟨t₁, t₂, outcome, rfl, hp, hnext⟩
        · exact .inl ⟨op', resume', .cons answer hp, hq⟩
        · exact .inr ⟨⟨op, answer⟩ :: t₁, t₂, outcome, rfl, .cons answer hp, hnext⟩

/-- The outcome of a program whose errors are caught is passed on. -/
theorem Traces.caught {p : Async Op Ans ε α} {outcome : Except ε α}
    {next : Except ε α → Async Op Ans ε β} {q : Async Op Ans ε β}
    {t' : List (Answered Op Ans ε)} (hp : Traces p t (.done outcome))
    (hnext : Traces (next outcome) t' q) :
    Traces (MonadExcept.tryCatch (Except.ok <$> p) (fun e => pure (Except.error e)) >>= next)
      (t ++ t') q := by
  induction t generalizing p with
  | nil =>
      cases hp
      cases outcome <;> exact hnext
  | cons answered t ih =>
      cases hp with
      | cons answer hp => exact .cons answer (ih hp)

end Async

end Base

import Split402.Base.Async
import Split402.Registry.Runtime

/-! # Statements

What the statements of the Postgres registries fail with, and what the calls that run them throw. -/

namespace Split402

/-- What a statement fails with: a unique key that is there already, or anything else. -/
inductive SqlError
  | uniqueViolation
  | other (message : String)
  deriving DecidableEq, Repr

/-- What a call throws. -/
inductive CallError
  | sql (error : SqlError)
  | registry (error : RegistryError)
  deriving DecidableEq, Repr

/-- An error that is not one of the statement itself. -/
def CallError.IsFailure (error : CallError) : Prop :=
  ∃ message, error = .sql (.other message)

/-- How a statement goes: it is answered, or it fails before or after it has run. -/
inductive StatementFate
  | answered
  | failedBefore (message : String)
  | failedAfter (message : String)
  deriving DecidableEq, Repr

/-- What a statement leaves and answers. -/
def StatementFate.run {σ α : Type} (fate : StatementFate) (s : σ)
    (served : σ × Except CallError α) : σ × Except CallError α :=
  match fate with
  | .answered => served
  | .failedBefore message => (s, .error (.sql (.other message)))
  | .failedAfter message => (served.1, .error (.sql (.other message)))

/-- A statement has run or has not. -/
theorem StatementFate.state {σ α : Type} {fate : StatementFate} {s t : σ}
    {answer : Except CallError α} {served : σ × Except CallError α}
    (h : (t, answer) = fate.run s served) : t = s ∨ t = served.1 := by
  cases fate with
  | answered => exact .inr (congrArg Prod.fst h)
  | failedBefore message => exact .inl (Prod.mk.inj h).1
  | failedAfter message => exact .inr (Prod.mk.inj h).1

/-- A statement that answers has run. -/
theorem StatementFate.of_ok {σ α : Type} {fate : StatementFate} {s t : σ} {a : α}
    {served : σ × Except CallError α} (h : (t, .ok a) = fate.run s served) :
    served = (t, .ok a) := by
  cases fate with
  | answered => exact h.symm
  | failedBefore message => cases (Prod.mk.inj h).2
  | failedAfter message => cases (Prod.mk.inj h).2

end Split402

import Split402.Base.Async

/-! # What asynchronous calls cost

Each operation of a program may cost something, up to a limit that depends on the operation.
`Costs` says what a run of the program may have cost when it is over, or as far as it has come;
`CostsAtMost` bounds all runs, and is put together like the program is. -/

namespace Base

namespace Async

variable {Op : Type} {Ans : Op → Type} {ε α β : Type}

/-- A run of the program, to its end or not, in which the operations cost so much in sum. An
operation is paid for whatever it answers. -/
inductive Costs (limit : Op → Nat) : Async Op Ans ε α → Nat → Prop
  | stop (p : Async Op Ans ε α) : Costs limit p 0
  | await {op : Op} {resume : Except ε (Ans op) → Async Op Ans ε α} {cost rest : Nat}
      (answer : Except ε (Ans op)) : cost ≤ limit op → Costs limit (resume answer) rest →
      Costs limit (.await op resume) (cost + rest)

/-- No run costs more. -/
def CostsAtMost (limit : Op → Nat) (p : Async Op Ans ε α) (most : Nat) : Prop :=
  ∀ cost, Costs limit p cost → cost ≤ most

variable {limit : Op → Nat}

theorem CostsAtMost.done (result : Except ε α) :
    CostsAtMost limit (.done result : Async Op Ans ε α) 0 := by
  intro cost h
  cases h with
  | stop => exact Nat.le_refl 0

theorem CostsAtMost.await {op : Op} {resume : Except ε (Ans op) → Async Op Ans ε α} {most : Nat}
    (h : ∀ answer, CostsAtMost limit (resume answer) most) :
    CostsAtMost limit (.await op resume) (limit op + most) := by
  intro cost hcost
  cases hcost with
  | stop => exact Nat.zero_le _
  | await answer hop hrest =>
      have hmost := h answer _ hrest
      omega

theorem CostsAtMost.call (op : Op) :
    CostsAtMost limit (Async.call op : Async Op Ans ε (Ans op)) (limit op) :=
  CostsAtMost.await fun answer => .done answer

/-- The rule of sequence. -/
theorem CostsAtMost.bind {p : Async Op Ans ε α} {next : α → Async Op Ans ε β} {m n : Nat}
    (hp : CostsAtMost limit p m) (hnext : ∀ a, CostsAtMost limit (next a) n) :
    CostsAtMost limit (p >>= next) (m + n) := by
  intro cost hcost
  induction p generalizing m cost with
  | done result =>
      cases result with
      | ok a =>
          have hcost' : cost ≤ n := hnext a cost hcost
          omega
      | error e =>
          have hcost' := CostsAtMost.done _ cost hcost
          omega
  | await op resume ih =>
      rw [await_bind] at hcost
      cases hcost with
      | stop => exact Nat.zero_le _
      | @await _ _ paid rest answer hop hrest =>
          -- what is paid here is not left for the rest of the first part
          have hbound : CostsAtMost limit (resume answer) (m - paid) := by
            intro c hc
            have hle := hp _ (.await answer hop hc)
            omega
          have hpaid : paid ≤ m := hp _ (.await answer hop (.stop _))
          have hrest' := ih answer hbound rest hrest
          omega

/-- The rule of handlers. -/
theorem CostsAtMost.tryCatch {p : Async Op Ans ε α} {handler : ε → Async Op Ans ε α} {m n : Nat}
    (hp : CostsAtMost limit p m) (hhandler : ∀ e, CostsAtMost limit (handler e) n) :
    CostsAtMost limit (MonadExcept.tryCatch p handler) (m + n) := by
  intro cost hcost
  induction p generalizing m cost with
  | done result =>
      cases result with
      | ok a =>
          have hcost' := CostsAtMost.done _ cost hcost
          omega
      | error e =>
          have hcost' : cost ≤ n := hhandler e cost hcost
          omega
  | await op resume ih =>
      have hcost : Costs limit (.await op fun answer => (resume answer).tryCatch handler) cost :=
        hcost
      cases hcost with
      | stop => exact Nat.zero_le _
      | @await _ _ paid rest answer hop hrest =>
          have hbound : CostsAtMost limit (resume answer) (m - paid) := by
            intro c hc
            have hle := hp _ (.await answer hop hc)
            omega
          have hpaid : paid ≤ m := hp _ (.await answer hop (.stop _))
          have hrest' := ih answer hbound rest hrest
          omega

theorem CostsAtMost.map {p : Async Op Ans ε α} {f : α → β} {m : Nat}
    (hp : CostsAtMost limit p m) : CostsAtMost limit (f <$> p) m :=
  CostsAtMost.bind hp fun a => .done (.ok (f a))

end Async

end Base

import Mathlib.Data.List.Basic
import Split402.Base.Run

/-! # Asynchronous calls

A call is a program that awaits the operations of what is around it (a store, a chain, a key
directory), one after the other; between two of them other calls run. `Async` is such a program, as
the tree of its awaits: an operation answers or is rejected, and the program goes on with either.
A `Pool` holds the calls under way next to the state they share.

The rule for calls is rely and guarantee. `Meets` says of a program that it ends as its
postcondition says, whatever the others do, as long as they do what it relies on; what it relies on
may depend on the operation it waits for, and it sees to what its own operations need in turn.
`Pool.meets` is the one induction on the runs of a pool: calls that meet their postcondition alone
meet it together, when no step does what another call relies on not being done. -/

namespace Base

/-- A program that awaits operations, each with its type of answers, and returns or throws. -/
inductive Async (Op : Type) (Ans : Op → Type) (ε α : Type) : Type
  | done (result : Except ε α)
  | await (op : Op) (resume : Except ε (Ans op) → Async Op Ans ε α)

namespace Async

variable {Op : Type} {Ans : Op → Type} {ε α β : Type}

protected def bind : Async Op Ans ε α → (α → Async Op Ans ε β) → Async Op Ans ε β
  | .done (.ok a), next => next a
  | .done (.error e), _ => .done (.error e)
  | .await op resume, next => .await op (fun answer => (resume answer).bind next)

protected def tryCatch : Async Op Ans ε α → (ε → Async Op Ans ε α) → Async Op Ans ε α
  | .done (.ok a), _ => .done (.ok a)
  | .done (.error e), handler => handler e
  | .await op resume, handler => .await op (fun answer => (resume answer).tryCatch handler)

instance : Monad (Async Op Ans ε) where
  pure a := .done (.ok a)
  bind := Async.bind

instance : MonadExceptOf ε (Async Op Ans ε) where
  throw e := .done (.error e)
  tryCatch := Async.tryCatch

/-- Await one operation. -/
def call (op : Op) : Async Op Ans ε (Ans op) := .await op .done

/-- Await one operation whose errors are mapped. -/
def callMapError (f : ε → ε) (op : Op) : Async Op Ans ε (Ans op) :=
  .await op (fun answer => .done (answer.mapError f))

/-- A result that awaits nothing. -/
def ofExcept {ε' : Type} (f : ε' → ε) (result : Except ε' α) : Async Op Ans ε α :=
  .done (result.mapError f)

/-- The operation a program waits for; `none` when it is done. -/
def waitsFor : Async Op Ans ε α → Option Op
  | .done _ => none
  | .await op _ => some op

/-- What a program that is done has come to; `none` when it waits. -/
def outcome (f : Except ε α → Option β) : Async Op Ans ε α → Option β
  | .done result => f result
  | .await _ _ => none

/-- A program run to its end, when a function serves its operations and nothing else happens. -/
def run {σ : Type} (serve : σ → (op : Op) → σ × Except ε (Ans op)) :
    Async Op Ans ε α → σ → σ × Except ε α
  | .done result, s => (s, result)
  | .await op resume, s => (resume (serve s op).2).run serve (serve s op).1

@[simp] theorem pure_eq (a : α) : (pure a : Async Op Ans ε α) = .done (.ok a) := rfl

@[simp] theorem throw_eq (e : ε) : (throw e : Async Op Ans ε α) = .done (.error e) := rfl

@[simp] theorem done_ok_bind (a : α) (next : α → Async Op Ans ε β) :
    (Async.done (.ok a) >>= next) = next a := rfl

@[simp] theorem done_error_bind (e : ε) (next : α → Async Op Ans ε β) :
    (Async.done (.error e) >>= next) = .done (.error e) := rfl

@[simp] theorem await_bind (op : Op) (resume : Except ε (Ans op) → Async Op Ans ε α)
    (next : α → Async Op Ans ε β) :
    (Async.await op resume >>= next) = .await op (fun answer => resume answer >>= next) := rfl

theorem ofExcept_bind {ε' : Type} {f : ε' → ε} {result : Except ε' α} {a : α}
    {next : α → Async Op Ans ε β} (h : result = .ok a) : (ofExcept f result >>= next) = next a := by
  rw [h]
  rfl

theorem bind_assoc {γ : Type} (p : Async Op Ans ε α) (f : α → Async Op Ans ε β)
    (g : β → Async Op Ans ε γ) : (p >>= f) >>= g = p >>= fun a => f a >>= g := by
  induction p with
  | done result => cases result <;> rfl
  | await op resume ih =>
      rw [await_bind, await_bind, await_bind]
      exact congrArg (Async.await op) (funext ih)

theorem await_of_waitsFor {p : Async Op Ans ε α} {op : Op} (h : p.waitsFor = some op) :
    ∃ resume, p = .await op resume := by
  cases p with
  | done result => cases h
  | await op' resume =>
      obtain rfl := Option.some.inj h
      exact ⟨resume, rfl⟩

/-! ## What a program can await -/

/-- Some answers lead the program to await the operation. -/
inductive Awaits : Async Op Ans ε α → Op → Prop
  | here (op : Op) (resume : Except ε (Ans op) → Async Op Ans ε α) : Awaits (.await op resume) op
  | later {op op' : Op} {resume : Except ε (Ans op) → Async Op Ans ε α}
      (answer : Except ε (Ans op)) : Awaits (resume answer) op' → Awaits (.await op resume) op'

/-- Some answers lead the program to a result. -/
inductive Ends : Async Op Ans ε α → Except ε α → Prop
  | here (result : Except ε α) : Ends (.done result) result
  | later {op : Op} {resume : Except ε (Ans op) → Async Op Ans ε α} {result : Except ε α}
      (answer : Except ε (Ans op)) : Ends (resume answer) result → Ends (.await op resume) result

@[simp] theorem not_awaits_done {result : Except ε α} {op : Op} :
    ¬ Awaits (.done result : Async Op Ans ε α) op := nofun

theorem awaits_await {op op' : Op} {resume : Except ε (Ans op) → Async Op Ans ε α} :
    Awaits (.await op resume) op' ↔ op = op' ∨ ∃ answer, Awaits (resume answer) op' := by
  constructor
  · intro h
    cases h with
    | here => exact .inl rfl
    | later answer h => exact .inr ⟨answer, h⟩
  · rintro (rfl | ⟨answer, h⟩)
    · exact .here _ _
    · exact .later answer h

/-- A sequence awaits what its first part awaits, and what the rest awaits after a result. -/
theorem awaits_bind {p : Async Op Ans ε α} {next : α → Async Op Ans ε β} {op : Op}
    (h : Awaits (p >>= next) op) : Awaits p op ∨ ∃ a, Ends p (.ok a) ∧ Awaits (next a) op := by
  induction p with
  | done result =>
      cases result with
      | ok a => exact .inr ⟨a, .here _, h⟩
      | error e => cases h
  | await first resume ih =>
      rcases awaits_await.mp h with rfl | ⟨answer, h⟩
      · exact .inl (.here _ _)
      · rcases ih answer h with h | ⟨a, ha, h⟩
        · exact .inl (.later answer h)
        · exact .inr ⟨a, .later answer ha, h⟩

theorem Awaits.call_bind {op op' : Op} {next : Ans op → Async Op Ans ε β} (answer : Ans op)
    (h : Awaits (next answer) op') : Awaits (Async.call op >>= next) op' :=
  .later (.ok answer) h

/-! ## What a program asks -/

/-- The operations a program awaits, in their order, when they are answered so. -/
def asked (answers : (op : Op) → Except ε (Ans op)) : Async Op Ans ε α → List Op
  | .done _ => []
  | .await op resume => op :: (resume (answers op)).asked answers

/-- What a program comes to when its operations are answered so. -/
def ended (answers : (op : Op) → Except ε (Ans op)) : Async Op Ans ε α → Except ε α
  | .done result => result
  | .await op resume => (resume (answers op)).ended answers

section Asked

variable {answers : (op : Op) → Except ε (Ans op)}

@[simp] theorem asked_done (result : Except ε α) :
    (Async.done result : Async Op Ans ε α).asked answers = [] := rfl

@[simp] theorem asked_call (op : Op) :
    (Async.call op : Async Op Ans ε (Ans op)).asked answers = [op] := rfl

@[simp] theorem ended_done (result : Except ε α) :
    (Async.done result : Async Op Ans ε α).ended answers = result := rfl

@[simp] theorem ended_call (op : Op) :
    (Async.call op : Async Op Ans ε (Ans op)).ended answers = answers op := rfl

theorem ended_bind {p : Async Op Ans ε α} {next : α → Async Op Ans ε β} :
    (p >>= next).ended answers = p.ended answers >>= fun a => (next a).ended answers := by
  induction p with
  | done result => cases result <;> rfl
  | await op resume ih => exact ih (answers op)

/-- A sequence asks what its first part asks, and after a result what the rest does. -/
theorem mem_asked_bind {p : Async Op Ans ε α} {next : α → Async Op Ans ε β} {op : Op} :
    op ∈ (p >>= next).asked answers ↔ op ∈ p.asked answers ∨
      ∃ a, p.ended answers = .ok a ∧ op ∈ (next a).asked answers := by
  induction p with
  | done result =>
      cases result with
      | ok a =>
          constructor
          · intro h
            exact .inr ⟨a, rfl, h⟩
          · rintro (h | ⟨a', ha, h⟩)
            · cases h
            · rw [← Except.ok.inj ha] at h
              exact h
      | error e =>
          constructor
          · intro h
            cases h
          · rintro (h | ⟨a, ha, -⟩)
            · cases h
            · cases ha
  | await first resume ih =>
      have hfirst : op ∈ (Async.await first resume >>= next).asked answers ↔
          op = first ∨ op ∈ (resume (answers first) >>= next).asked answers := List.mem_cons
      have hpart : op ∈ (Async.await first resume).asked answers ↔
          op = first ∨ op ∈ (resume (answers first)).asked answers := List.mem_cons
      rw [hfirst, ih, hpart, or_assoc]
      rfl

end Asked

/-! ## Wherever a program awaits -/

/-- Wherever a program can come to await an operation, it goes on as `Q` says. -/
inductive Everywhere (Q : (op : Op) → (Except ε (Ans op) → Async Op Ans ε α) → Prop) :
    Async Op Ans ε α → Prop
  | done (result : Except ε α) : Everywhere Q (.done result)
  | await {op : Op} {resume : Except ε (Ans op) → Async Op Ans ε α} : Q op resume →
      (∀ answer, Everywhere Q (resume answer)) → Everywhere Q (.await op resume)

theorem Everywhere.resume {Q : (op : Op) → (Except ε (Ans op) → Async Op Ans ε α) → Prop}
    {op : Op} {resume : Except ε (Ans op) → Async Op Ans ε α}
    (h : Everywhere Q (.await op resume)) : Q op resume ∧ ∀ answer, Everywhere Q (resume answer) := by
  cases h with
  | await hQ hall => exact ⟨hQ, hall⟩

/-! ## The last operation -/

/-- `last` says of some operations, when they answer, that they are the last and what the program
returns. The program ends so, and only so with a result that is not `free`. -/
inductive EndsAt (last : (op : Op) → Except ε (Ans op) → Option (Except ε α))
    (free : Except ε α → Prop) : Async Op Ans ε α → Prop
  | done {result : Except ε α} : free result → EndsAt last free (.done result)
  | await {op : Op} {resume : Except ε (Ans op) → Async Op Ans ε α} :
      (∀ answer result, last op answer = some result → resume answer = .done result) →
      (∀ answer, last op answer = none → EndsAt last free (resume answer)) →
      EndsAt last free (.await op resume)

theorem EndsAt.call_bind {last : (op : Op) → Except ε (Ans op) → Option (Except ε β)}
    {free : Except ε β → Prop} {op : Op} {next : Ans op → Async Op Ans ε β}
    (hop : ∀ answer, last op answer = none) (herror : ∀ e, free (.error e))
    (hnext : ∀ a, EndsAt last free (next a)) : EndsAt last free (Async.call op >>= next) := by
  refine .await ?_ ?_
  · intro answer result h
    rw [hop answer] at h
    cases h
  · intro answer _
    cases answer with
    | ok a => exact hnext a
    | error e => exact .done (herror e)

/-- A program whose last operation is still to come has come to nothing. -/
theorem EndsAt.outcome_eq_none {last : (op : Op) → Except ε (Ans op) → Option (Except ε α)}
    {f : Except ε α → Option β} {p : Async Op Ans ε α}
    (h : EndsAt last (fun result => f result = none) p) : p.outcome f = none := by
  cases h with
  | done hfree => exact hfree
  | await _ _ => rfl

/-! ## Rely and guarantee -/

section Meets

variable {κ σ : Type} (handle : κ → σ → (op : Op) → σ → Except ε (Ans op) → Prop)
  (inv : σ → Prop) (rely : κ → Option Op → σ → σ → Prop) (need : κ → σ → Op → Prop)

/-- From a state, a program of call `c` ends as `post` says: while it waits for an operation the
others do what `rely` allows, and the operation is handled in a state that meets `inv`, where the
program has to see to what it `need`s. -/
inductive Meets (c : κ) (post : σ → Except ε α → Prop) : Async Op Ans ε α → σ → Prop
  | done {result : Except ε α} {s : σ} : post s result → Meets c post (.done result) s
  | await {op : Op} {resume : Except ε (Ans op) → Async Op Ans ε α} {s : σ} :
      (∀ t, inv t → rely c (some op) s t → need c t op) →
      (∀ t u answer, inv t → rely c (some op) s t → handle c t op u answer →
        Meets c post (resume answer) u) → Meets c post (.await op resume) s

variable {handle inv rely need} {c : κ}

/-- The rule of sequence. -/
theorem Meets.bind {p : Async Op Ans ε α} {next : α → Async Op Ans ε β} {s : σ}
    {mid : σ → Except ε α → Prop} {post : σ → Except ε β → Prop}
    (h : Meets handle inv rely need c mid p s)
    (hok : ∀ s a, mid s (.ok a) → Meets handle inv rely need c post (next a) s)
    (herror : ∀ s e, mid s (.error e) → post s (.error e)) :
    Meets handle inv rely need c post (p >>= next) s := by
  induction h with
  | @done result s h =>
      cases result with
      | ok a => exact hok s a h
      | error e => exact .done (herror s e h)
  | await hneed h ih =>
      exact .await hneed fun t u answer ht hrely hhandle => ih t u answer ht hrely hhandle

/-- The rule of `try` and `catch`. -/
theorem Meets.tryCatch {p : Async Op Ans ε α} {handler : ε → Async Op Ans ε α} {s : σ}
    {mid post : σ → Except ε α → Prop} (h : Meets handle inv rely need c mid p s)
    (hok : ∀ s a, mid s (.ok a) → post s (.ok a))
    (herror : ∀ s e, mid s (.error e) → Meets handle inv rely need c post (handler e) s) :
    Meets handle inv rely need c post (p.tryCatch handler) s := by
  induction h with
  | @done result s h =>
      cases result with
      | ok a => exact .done (hok s a h)
      | error e => exact herror s e h
  | await hneed h ih =>
      exact .await hneed fun t u answer ht hrely hhandle => ih t u answer ht hrely hhandle

/-- The rule of one await. -/
theorem Meets.call_bind {op : Op} {next : Ans op → Async Op Ans ε α} {s : σ}
    {post : σ → Except ε α → Prop}
    (hneed : ∀ t, inv t → rely c (some op) s t → need c t op)
    (hok : ∀ t u a, inv t → rely c (some op) s t → handle c t op u (.ok a) →
      Meets handle inv rely need c post (next a) u)
    (herror : ∀ t u e, inv t → rely c (some op) s t → handle c t op u (.error e) →
      post u (.error e)) :
    Meets handle inv rely need c post (Async.call op >>= next) s := by
  refine .await hneed fun t u answer ht hrely hhandle => ?_
  cases answer with
  | ok a => exact hok t u a ht hrely hhandle
  | error e => exact .done (herror t u e ht hrely hhandle)

/-- The rule of one await whose errors are mapped. -/
theorem Meets.callMapError_bind {f : ε → ε} {op : Op} {next : Ans op → Async Op Ans ε α} {s : σ}
    {post : σ → Except ε α → Prop}
    (hneed : ∀ t, inv t → rely c (some op) s t → need c t op)
    (hok : ∀ t u a, inv t → rely c (some op) s t → handle c t op u (.ok a) →
      Meets handle inv rely need c post (next a) u)
    (herror : ∀ t u e, inv t → rely c (some op) s t → handle c t op u (.error e) →
      post u (.error (f e))) :
    Meets handle inv rely need c post (callMapError f op >>= next) s := by
  refine .await hneed fun t u answer ht hrely hhandle => ?_
  cases answer with
  | ok a => exact hok t u a ht hrely hhandle
  | error e => exact .done (herror t u e ht hrely hhandle)

/-- The rule of a result. -/
theorem Meets.ofExcept_bind {ε' : Type} {f : ε' → ε} {result : Except ε' α}
    {next : α → Async Op Ans ε β} {s : σ} {post : σ → Except ε β → Prop}
    (hok : ∀ a, result = .ok a → Meets handle inv rely need c post (next a) s)
    (herror : ∀ e, result = .error e → post s (.error (f e))) :
    Meets handle inv rely need c post (ofExcept f result >>= next) s := by
  cases result with
  | ok a => exact hok a rfl
  | error e => exact .done (herror e rfl)

/-- What a program meets it still meets after what it relies on. -/
theorem Meets.of_rely {p : Async Op Ans ε α} {s s' : σ} {post : σ → Except ε α → Prop}
    (h : Meets handle inv rely need c post p s) (hrely : rely c p.waitsFor s s')
    (htrans : ∀ o s t u, rely c o s t → rely c o t u → rely c o s u)
    (hpost : ∀ s t r, post s r → rely c none s t → post t r) :
    Meets handle inv rely need c post p s' := by
  cases h with
  | done h => exact .done (hpost _ _ _ h hrely)
  | await hneed h =>
      refine .await ?_ ?_
      · exact fun t ht hst => hneed t ht (htrans _ _ _ _ hrely hst)
      · exact fun t u answer ht hst hhandle => h t u answer ht (htrans _ _ _ _ hrely hst) hhandle

/-- A program that is run by itself ends as it meets. -/
theorem Meets.run {p : Async Op Ans ε α} {s : σ} {post : σ → Except ε α → Prop}
    (serve : σ → (op : Op) → σ × Except ε (Ans op)) (h : Meets handle inv rely need c post p s)
    (hs : inv s) (hrefl : ∀ o s, rely c o s s)
    (hserve : ∀ s op, handle c s op (serve s op).1 (serve s op).2)
    (hinv : ∀ s op, inv s → need c s op → inv (serve s op).1) :
    post (p.run serve s).1 (p.run serve s).2 := by
  induction h with
  | done h => exact h
  | @await op resume s hneed _ ih =>
      have hop := hneed s hs (hrefl _ s)
      exact ih s _ _ hs (hrefl _ s) (hserve s op) (hinv s op hs hop)

end Meets

end Async

/-! ## Operations that may fail -/

/-- An operation is served, or fails before it has been served or after. -/
inductive Attempt {σ Op ε : Type} {Ans : Op → Type}
    (serve : σ → (op : Op) → σ × Except ε (Ans op)) (failure : ε → Prop) (s : σ) (op : Op) :
    σ → Except ε (Ans op) → Prop
  | served : Attempt serve failure s op (serve s op).1 (serve s op).2
  | failedBefore {e : ε} : failure e → Attempt serve failure s op s (.error e)
  | failedAfter {e : ε} : failure e → Attempt serve failure s op (serve s op).1 (.error e)

section Attempt

variable {σ Op ε : Type} {Ans : Op → Type} {serve : σ → (op : Op) → σ × Except ε (Ans op)}
  {failure : ε → Prop} {s t : σ} {op : Op}

/-- The operation has been served or not. -/
theorem Attempt.state {answer : Except ε (Ans op)} (h : Attempt serve failure s op t answer) :
    t = s ∨ t = (serve s op).1 := by
  cases h with
  | served => exact .inr rfl
  | failedBefore _ => exact .inl rfl
  | failedAfter _ => exact .inr rfl

/-- An operation that answers has been served. -/
theorem Attempt.of_ok {a : Ans op} (h : Attempt serve failure s op t (.ok a)) :
    serve s op = (t, .ok a) := by
  generalize hanswer : (.ok a : Except ε (Ans op)) = answer at h
  cases h with
  | served => rfl
  | failedBefore _ => cases hanswer
  | failedAfter _ => cases hanswer

theorem Attempt.of_serve {answer : Except ε (Ans op)} (h : serve s op = (t, answer)) :
    Attempt serve failure s op t answer := by
  have hserved : Attempt serve failure s op (serve s op).1 (serve s op).2 := .served
  rw [h] at hserved
  exact hserved

end Attempt

/-! ## Calls under way -/

/-- The shared state and the calls, each with what is left of its program. -/
structure Pool (κ σ Op : Type) (Ans : Op → Type) (ε α : Type) where
  shared : σ
  calls : List (κ × Async Op Ans ε α)

/-- A call starts; the `i`th call is resumed; something else happens to the shared state. -/
inductive Pool.Event (κ ι : Type)
  | start (c : κ)
  | resume (i : Nat)
  | outside (x : ι)

namespace Pool

variable {κ σ ι Op : Type} {Ans : Op → Type} {ε α : Type}
  (handle : κ → σ → (op : Op) → σ → Except ε (Ans op) → Prop) (outside : σ → ι → σ → Prop)
  (program : κ → Async Op Ans ε α) (init : σ → Prop)

inductive Step : Pool κ σ Op Ans ε α → Event κ ι → Pool κ σ Op Ans ε α → Prop
  | start (pool : Pool κ σ Op Ans ε α) (c : κ) :
      Step pool (.start c) { pool with calls := pool.calls ++ [(c, program c)] }
  | resume {pool : Pool κ σ Op Ans ε α} {i : Nat} {c : κ} {op : Op}
      {resume : Except ε (Ans op) → Async Op Ans ε α} {u : σ} {answer : Except ε (Ans op)} :
      pool.calls[i]? = some (c, .await op resume) → handle c pool.shared op u answer →
      Step pool (.resume i) ⟨u, pool.calls.set i (c, resume answer)⟩
  | outside {pool : Pool κ σ Op Ans ε α} {x : ι} {u : σ} : outside pool.shared x u →
      Step pool (.outside x) { pool with shared := u }

/-- The runs of a pool start without calls. -/
def system : System (Pool κ σ Op Ans ε α) (Event κ ι) where
  init pool := init pool.shared ∧ pool.calls = []
  step := Step handle outside program

variable {handle outside program init}
  {ok : Pool κ σ Op Ans ε α → Event κ ι → Prop} {inv : σ → Prop}
  {rely : κ → Option Op → σ → σ → Prop} {need : κ → σ → Op → Prop}
  {post : κ → σ → Except ε α → Prop}

/-- The calls a step does not run are the same after it. -/
theorem mem_calls_of_step {pool pool' : Pool κ σ Op Ans ε α} {event : Event κ ι}
    (h : Step handle outside program pool event pool') {entry : κ × Async Op Ans ε α}
    (hentry : entry ∈ pool'.calls) :
    (∃ i : Nat, pool.calls[i]? = some entry ∧ event ≠ .resume i) ∨
      (∃ c, event = .start c ∧ entry = (c, program c) ∧ pool'.shared = pool.shared) ∨
      ∃ i c op resume answer, event = .resume i ∧ pool.calls[i]? = some (c, .await op resume) ∧
        handle c pool.shared op pool'.shared answer ∧ entry = (c, resume answer) := by
  cases h with
  | start c =>
      rcases List.mem_append.mp hentry with h | h
      · obtain ⟨i, hi⟩ := List.mem_iff_getElem?.mp h
        exact .inl ⟨i, hi, by simp⟩
      · exact .inr (.inl ⟨c, rfl, List.mem_singleton.mp h, rfl⟩)
  | @resume i c op resume u answer hi hhandle =>
      obtain ⟨j, hj⟩ := List.mem_iff_getElem?.mp hentry
      by_cases hij : i = j
      · subst hij
        have hlt : i < pool.calls.length := (List.getElem?_eq_some_iff.mp hi).1
        rw [List.getElem?_set_self hlt, Option.some.injEq] at hj
        exact .inr (.inr ⟨i, c, op, resume, answer, rfl, hi, hhandle, hj.symm⟩)
      · rw [List.getElem?_set_ne hij] at hj
        refine .inl ⟨j, hj, ?_⟩
        intro heq
        exact hij (by injection heq)
  | outside _ =>
      obtain ⟨i, hi⟩ := List.mem_iff_getElem?.mp hentry
      exact .inl ⟨i, hi, by simp⟩

/-- A call that has started stays among the calls. -/
theorem started_of_step {pool pool' : Pool κ σ Op Ans ε α} {event : Event κ ι}
    (h : Step handle outside program pool event pool') {c : κ} (hc : c ∈ pool.calls.map Prod.fst) :
    c ∈ pool'.calls.map Prod.fst := by
  cases h with
  | start c' => exact (List.map_append ▸ List.mem_append_left _ hc)
  | @resume i c' op resume u answer hi _ =>
      obtain ⟨hlt, hget⟩ := List.getElem?_eq_some_iff.mp hi
      have hlt' : i < (pool.calls.map Prod.fst).length := by rwa [List.length_map]
      have hfst : (pool.calls.map Prod.fst)[i] = c' := by rw [List.getElem_map, hget]
      show c ∈ (pool.calls.set i (c', resume answer)).map Prod.fst
      rw [List.map_set, ← hfst, List.set_getElem_self]
      exact hc
  | outside _ => exact hc

/-- **The rule of parallel calls.** Every call of a reachable pool meets its postcondition, when
each meets it alone and no admitted step does what another call relies on not being done. The
invariant is kept by what the calls see to. -/
theorem meets {pool : Pool κ σ Op Ans ε α}
    (h : (system handle outside program init).Reachable ok pool)
    (hinit : ∀ s, init s → inv s)
    (hhandle : ∀ c s op t answer, inv s → need c s op → handle c s op t answer → inv t)
    (houtside : ∀ s x t, inv s → outside s x t → inv t)
    (hstart : ∀ c s, inv s → Async.Meets handle inv rely need c (post c) (program c) s)
    (htrans : ∀ c o s t u, rely c o s t → rely c o t u → rely c o s u)
    (hrefl : ∀ c o s, rely c o s s)
    (hpost : ∀ c s t r, post c s r → rely c none s t → post c t r)
    (hothers : ∀ pool pool' event i c p, inv pool.shared → ok pool event →
      Step handle outside program pool event pool' →
      (∀ j c' op resume, event = .resume j → pool.calls[j]? = some (c', .await op resume) →
        need c' pool.shared op) →
      pool.calls[i]? = some (c, p) → event ≠ .resume i →
      rely c p.waitsFor pool.shared pool'.shared) :
    inv pool.shared ∧ ∀ entry ∈ pool.calls,
      Async.Meets handle inv rely need entry.1 (post entry.1) entry.2 pool.shared := by
  refine h.invariant (P := fun pool => inv pool.shared ∧ ∀ entry ∈ pool.calls,
    Async.Meets handle inv rely need entry.1 (post entry.1) entry.2 pool.shared) ?_ ?_
  · intro pool hpool
    refine ⟨hinit _ hpool.1, ?_⟩
    intro entry hentry
    rw [hpool.2] at hentry
    cases hentry
  · intro pool event pool' _ ih hok hstep
    obtain ⟨hinv, hcalls⟩ := ih
    have hneed : ∀ j c' op resume, event = .resume j →
        pool.calls[j]? = some (c', .await op resume) → need c' pool.shared op := by
      intro j c' op resume _ hj
      cases hcalls _ (List.mem_of_getElem? hj) with
      | await hneed _ => exact hneed _ hinv (hrefl _ _ _)
    refine ⟨?_, ?_⟩
    · cases hstep with
      | start c => exact hinv
      | resume hi hserved => exact hhandle _ _ _ _ _ hinv (hneed _ _ _ _ rfl hi) hserved
      | outside hx => exact houtside _ _ _ hinv hx
    · intro entry hentry
      rcases mem_calls_of_step hstep hentry with ⟨i, hi, hne⟩ | ⟨c, -, rfl, hshared⟩ |
        ⟨i, c, op, resume, answer, -, hi, hserved, rfl⟩
      · -- another call: what happened is what it relies on
        have hrely := hothers _ _ _ _ _ _ hinv hok hstep hneed hi hne
        exact (hcalls entry (List.mem_of_getElem? hi)).of_rely hrely (htrans _) (hpost _)
      · rw [hshared]
        exact hstart c _ hinv
      · cases hcalls _ (List.mem_of_getElem? hi) with
        | await _ h => exact h _ _ _ hinv (hrefl _ _ _) hserved

/-! ## Created by one step -/

variable {β : Type}

/-- What the calls that are done have produced. -/
def produced (f : Except ε α → Option β) (pool : Pool κ σ Op Ans ε α) : List β :=
  pool.calls.filterMap (fun entry => entry.2.outcome f)

attribute [grind =] produced

theorem filterMap_set {γ δ : Type} {f : γ → Option δ} {l : List γ} {i : Nat} {old new : γ}
    (hi : l[i]? = some old) (hold : f old = none) :
    ((l.set i new).filterMap f).Perm (l.filterMap f ++ (f new).toList) := by
  induction l generalizing i with
  | nil => cases hi
  | cons x l ih =>
      cases i with
      | zero =>
          rw [List.getElem?_cons_zero, Option.some.injEq] at hi
          subst hi
          rw [List.set_cons_zero, List.filterMap_cons_none hold]
          cases hnew : f new with
          | none => simp [hnew]
          | some d =>
              rw [List.filterMap_cons_some hnew]
              exact (List.perm_append_singleton d _).symm
      | succ i =>
          rw [List.set_cons_succ]
          have hrest := ih (i := i) hi
          cases hx : f x with
          | none =>
              rw [List.filterMap_cons_none hx, List.filterMap_cons_none hx]
              exact hrest
          | some d =>
              rw [List.filterMap_cons_some hx, List.filterMap_cons_some hx]
              exact hrest.cons d

theorem produced_resume {f : Except ε α → Option β} {pool : Pool κ σ Op Ans ε α} {i : Nat} {c : κ}
    {op : Op} {resume : Except ε (Ans op) → Async Op Ans ε α} {p : Async Op Ans ε α} {u : σ}
    (hi : pool.calls[i]? = some (c, .await op resume)) :
    (produced f (⟨u, pool.calls.set i (c, p)⟩ : Pool κ σ Op Ans ε α)).Perm
      (produced f pool ++ (p.outcome f).toList) :=
  filterMap_set hi rfl

theorem produced_start (f : Except ε α → Option β) (pool : Pool κ σ Op Ans ε α) (c : κ)
    (p : Async Op Ans ε α) :
    produced f { pool with calls := pool.calls ++ [(c, p)] } =
      produced f pool ++ (p.outcome f).toList := by
  rw [produced, List.filterMap_append]
  cases hp : p.outcome f <;> simp [produced, hp]

/-! ## Computed runs -/

section Computed

variable (serve : κ → σ → (op : Op) → σ × Except ε (Ans op)) (apply : σ → ι → Option σ)

/-- The step an event stands for, when functions serve the operations and apply what happens
outside. -/
def advance (program : κ → Async Op Ans ε α) (pool : Pool κ σ Op Ans ε α) :
    Event κ ι → Pool κ σ Op Ans ε α
  | .start c => { pool with calls := pool.calls ++ [(c, program c)] }
  | .resume i =>
      match pool.calls[i]? with
      | some (c, .await op resume) =>
          let (shared, answer) := serve c pool.shared op
          ⟨shared, pool.calls.set i (c, resume answer)⟩
      | _ => pool
  | .outside x => { pool with shared := (apply pool.shared x).getD pool.shared }

attribute [grind =] advance

/-- The event starts a call, resumes one that waits, or happens outside. -/
def canAdvance (pool : Pool κ σ Op Ans ε α) : Event κ ι → Bool
  | .start _ => true
  | .resume i => pool.calls[i]?.any (fun entry => entry.2.waitsFor.isSome)
  | .outside x => (apply pool.shared x).isSome

variable {serve apply}

theorem step_advance
    (hserve : ∀ c s op t answer, serve c s op = (t, answer) → handle c s op t answer)
    (happly : ∀ s x t, apply s x = some t → outside s x t) {pool : Pool κ σ Op Ans ε α}
    {event : Event κ ι} (h : canAdvance apply pool event = true) :
    Step handle outside program pool event (advance serve apply program pool event) := by
  cases event with
  | start c => exact .start pool c
  | resume i =>
      simp only [canAdvance] at h
      simp only [advance]
      cases hi : pool.calls[i]? with
      | none =>
          rw [hi] at h
          cases h
      | some entry =>
          obtain ⟨c, p⟩ := entry
          cases p with
          | done result =>
              rw [hi] at h
              cases h
          | await op resume => exact .resume hi (hserve _ _ _ _ _ rfl)
  | outside x =>
      obtain ⟨u, hu⟩ := Option.isSome_iff_exists.mp h
      simp only [advance, hu, Option.getD_some]
      exact .outside (happly _ _ _ hu)

/-- The call an event starts. -/
def Event.started : Event κ ι → Option κ
  | .start c => some c
  | _ => none

theorem calls_advance (pool : Pool κ σ Op Ans ε α) (event : Event κ ι) :
    (advance serve apply program pool event).calls.map Prod.fst =
      pool.calls.map Prod.fst ++ event.started.toList := by
  cases event with
  | start c => exact List.map_append
  | resume i =>
      show _ = pool.calls.map Prod.fst ++ []
      rw [List.append_nil]
      unfold advance
      dsimp only
      split
      · rename_i c op resume hi
        obtain ⟨hlt, hi⟩ := List.getElem?_eq_some_iff.mp hi
        have hlt' : i < (pool.calls.map Prod.fst).length := by rwa [List.length_map]
        have hfst : (pool.calls.map Prod.fst)[i] = c := by rw [List.getElem_map, hi]
        rw [List.map_set, ← hfst, List.set_getElem_self]
      · rfl
  | outside x => exact (List.append_nil _).symm

/-- The calls of a computed run are those its schedule starts. -/
theorem calls_foldl_advance (schedule : List (Event κ ι)) (pool : Pool κ σ Op Ans ε α) :
    (schedule.foldl (advance serve apply program) pool).calls.map Prod.fst =
      pool.calls.map Prod.fst ++ schedule.filterMap Event.started := by
  induction schedule generalizing pool with
  | nil => exact (List.append_nil _).symm
  | cons event rest ih =>
      rw [List.foldl_cons, ih, calls_advance, List.append_assoc]
      cases event <;> rfl

/-- A schedule whose every event can happen, and is admitted, ends in a reachable state. -/
theorem reachable_of_schedule
    (hserve : ∀ c s op t answer, serve c s op = (t, answer) → handle c s op t answer)
    (happly : ∀ s x t, apply s x = some t → outside s x t)
    {accept : Pool κ σ Op Ans ε α → Event κ ι → Bool} {s : σ} (hs : init s)
    {schedule : List (Event κ ι)}
    (h : System.admittedAlong (advance serve apply program)
      (fun pool event => canAdvance apply pool event && accept pool event) ⟨s, []⟩ schedule = true) :
    (system handle outside program init).Reachable (fun pool event => accept pool event = true)
      (schedule.foldl (advance serve apply program) ⟨s, []⟩) := by
  have hstart : (system handle outside program init).init ⟨s, []⟩ := ⟨hs, rfl⟩
  refine System.Reachable.of_trace ?_ (.init hstart) h
  intro pool event haccept
  rw [Bool.and_eq_true] at haccept
  exact ⟨event, haccept.2, step_advance hserve happly haccept.1⟩

/-- A schedule whose every event can happen, and is admitted, is a run. -/
theorem run_of_schedule
    (hserve : ∀ c s op t answer, serve c s op = (t, answer) → handle c s op t answer)
    (happly : ∀ s x t, apply s x = some t → outside s x t)
    {accept : Pool κ σ Op Ans ε α → Event κ ι → Bool} {pool : Pool κ σ Op Ans ε α}
    {schedule : List (Event κ ι)}
    (h : System.admittedAlong (advance serve apply program)
      (fun pool event => canAdvance apply pool event && accept pool event) pool schedule = true) :
    (system handle outside program init).Run (fun pool event => accept pool event = true) pool
      (schedule.foldl (advance serve apply program) pool) := by
  refine System.Run.of_trace ?_ (.refl pool) h
  intro pool event haccept
  rw [Bool.and_eq_true] at haccept
  exact ⟨event, haccept.2, step_advance hserve happly haccept.1⟩

/-- The last call of a reachable pool can run to its end by itself. -/
theorem reachable_resumed {c : κ} {p : Async Op Ans ε α} {s : σ} {calls : List (κ × Async Op Ans ε α)}
    (hok : ∀ pool event, ok pool event)
    (hserve : ∀ s op, handle c s op (serve c s op).1 (serve c s op).2)
    (h : (system handle outside program init).Reachable ok ⟨s, calls ++ [(c, p)]⟩) :
    (system handle outside program init).Reachable ok
      ⟨(p.run (serve c) s).1, calls ++ [(c, .done (p.run (serve c) s).2)]⟩ := by
  induction p generalizing s with
  | done result => exact h
  | await op resume ih =>
      refine ih _ (.step h (hok _ (.resume calls.length)) ?_)
      have hlast : (calls ++ [(c, Async.await op resume)])[calls.length]? =
          some (c, Async.await op resume) := List.getElem?_concat_length
      have hstep : Step handle outside program ⟨s, calls ++ [(c, Async.await op resume)]⟩
          (.resume calls.length) _ := .resume hlast (hserve s op)
      rw [List.set_append_right _ _ (Nat.le_refl _), Nat.sub_self, List.set_cons_zero] at hstep
      exact hstep

/-- A call can start in a reachable pool and run to its end by itself. -/
theorem reachable_run {pool : Pool κ σ Op Ans ε α} (c : κ) (hok : ∀ pool event, ok pool event)
    (hserve : ∀ s op, handle c s op (serve c s op).1 (serve c s op).2)
    (h : (system handle outside program init).Reachable ok pool) :
    (system handle outside program init).Reachable ok
      ⟨((program c).run (serve c) pool.shared).1,
        pool.calls ++ [(c, .done ((program c).run (serve c) pool.shared).2)]⟩ :=
  reachable_resumed hok hserve (.step h (hok _ _) (.start pool c))

end Computed

end Pool

end Base

import Split402.Base.Run

/-! # Logs

A log is kept newest first. It is justified when every entry is, by what the log was before it. A
machine whose steps only ever add justified entries has a justified log in every state it reaches. -/

namespace Base

variable {α σ ι : Type*}

/-- Every entry of the log is justified by the entries before it. -/
def Justified (P : α → List α → Prop) : List α → Prop
  | [] => True
  | entry :: before => P entry before ∧ Justified P before

namespace Justified

variable {P : α → List α → Prop}

/-- Whatever was added last, an entry is justified by what was there before it. -/
theorem of_split {log after before : List α} {entry : α} (h : Justified P log)
    (hlog : log = after ++ entry :: before) : P entry before := by
  induction after generalizing log with
  | nil =>
      subst hlog
      exact h.1
  | cons added after ih =>
      subst hlog
      exact ih h.2 rfl

theorem append {added log : List α} (h : Justified P log) (hadded : added.length ≤ 1)
    (hP : ∀ entry ∈ added, P entry log) : Justified P (added ++ log) := by
  cases added with
  | nil => exact h
  | cons entry rest =>
      cases rest with
      | nil => exact ⟨hP entry List.mem_cons_self, h⟩
      | cons other rest => simp at hadded

/-- A log that starts empty and gets at most one entry a step, which what it was before justifies. -/
theorem of_reachable {sys : System σ ι} {ok : σ → ι → Prop} {log : σ → List α} {s : σ}
    (h : sys.Reachable ok s) (hinit : ∀ s, sys.init s → log s = [])
    (hstep : ∀ s i s', sys.Reachable ok s → ok s i → sys.step s i s' →
      ∃ added, log s' = added ++ log s ∧ added.length ≤ 1 ∧ ∀ entry ∈ added, P entry (log s)) :
    Justified P (log s) := by
  refine h.invariant (P := fun s => Justified P (log s)) ?_ ?_
  · intro s hs
    rw [hinit s hs]
    trivial
  · intro s i s' hr hlog hok hs
    obtain ⟨added, hadded, hone, hP⟩ := hstep s i s' hr hok hs
    rw [hadded]
    exact hlog.append hone hP

end Justified

end Base

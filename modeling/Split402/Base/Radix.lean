import Mathlib.Data.Nat.Digits.Lemmas
import Mathlib.Data.List.TakeWhile

/-! # Changing the radix of a number, digit by digit

A number comes in digit by digit, highest first, in radix `m`; its digits in radix `b` are kept
lowest first. For each digit that comes in, the loop multiplies what it has by `m` and adds the
digit, passing the carry on. The loop starts from the single digit 0, and that start can be told
from no digits at all: a number that is zero keeps the digit, every other number drops it.

Zeros at the front of the input are written once more at the front of the output. So the two changes
of radix undo each other where some digit is not zero, and lengthen a list of zeros by one. -/

namespace Base.Radix

/-- Multiply the digits in radix `b`, lowest first, by `m` and add the carry; what is left of the
carry becomes new digits. -/
def carryStep (b m : Nat) : List Nat → Nat → List Nat
  | [], carry => Nat.digits b carry
  | d :: rest, carry => (d * m + carry) % b :: carryStep b m rest ((d * m + carry) / b)

attribute [grind =] carryStep

/-- The number with these digits in radix `m`, highest first. -/
def value (m : Nat) (cs : List Nat) : Nat := Nat.ofDigits m cs.reverse

attribute [grind =] value

/-- The zeros that a list begins with. -/
def zeros (cs : List Nat) : List Nat := cs.takeWhile (· == 0)

attribute [grind =] zeros

/-- Digits in radix `m` to digits in radix `b`, highest first, the zeros at the front kept. -/
def recode (m b : Nat) (cs : List Nat) : List Nat :=
  zeros cs ++ (cs.foldl (carryStep b m) [0]).reverse

attribute [grind =] recode

/-! ## What the loop computes -/

section Loop

variable {b m : Nat}

theorem carryStep_digits (hb : 1 < b) (hm : 0 < m) (v carry : Nat) :
    carryStep b m (Nat.digits b v) carry = Nat.digits b (v * m + carry) := by
  induction v using Nat.strong_induction_on generalizing carry with
  | _ v ih =>
      by_cases hv : v = 0
      · subst hv
        simp [carryStep]
      · have hlt : v / b < v := Nat.div_lt_self (by omega) hb
        have hpos : v * m + carry ≠ 0 := by
          have := Nat.mul_pos (Nat.pos_of_ne_zero hv) hm
          omega
        -- what the lowest digit leaves over is carried to the number above it
        have hsplit : v * m + carry = v % b * m + carry + b * (v / b * m) := by
          conv_lhs => rw [← Nat.mod_add_div v b]
          ring
        rw [Nat.digits_eq_cons_digits_div hb hv, carryStep, ih _ hlt,
          Nat.digits_eq_cons_digits_div hb hpos, hsplit, Nat.add_mul_mod_self_left,
          Nat.add_mul_div_left _ _ (by omega), Nat.add_comm (_ / b)]

theorem foldl_carryStep_digits (hb : 1 < b) (hm : 0 < m) (cs : List Nat) (v : Nat) :
    cs.foldl (carryStep b m) (Nat.digits b v) =
      Nat.digits b (cs.foldl (fun v c => v * m + c) v) := by
  induction cs generalizing v with
  | nil => rfl
  | cons c cs ih =>
      rw [List.foldl_cons, carryStep_digits hb hm, ih]
      rfl

theorem foldl_mul_add (cs : List Nat) (v : Nat) :
    cs.foldl (fun v c => v * m + c) v = v * m ^ cs.length + value m cs := by
  induction cs generalizing v with
  | nil => simp [value]
  | cons c cs ih =>
      rw [List.foldl_cons, ih, value, value, List.reverse_cons, Nat.ofDigits_append,
        Nat.ofDigits_singleton, List.length_reverse, List.length_cons]
      ring

theorem value_cons (c : Nat) (cs : List Nat) :
    value m (c :: cs) = c * m ^ cs.length + value m cs := by
  rw [value, List.reverse_cons, Nat.ofDigits_append, Nat.ofDigits_singleton, List.length_reverse,
    value]
  ring

theorem foldl_carryStep (hb : 1 < b) (hm : 0 < m) (cs : List Nat) :
    cs.foldl (carryStep b m) [0] =
      if value m cs = 0 then [0] else Nat.digits b (value m cs) := by
  induction cs with
  | nil => simp [value]
  | cons c cs ih =>
      by_cases hc : c = 0
      · -- a zero leaves the start as it is
        subst hc
        have hstep : carryStep b m [0] 0 = [0] := by simp [carryStep]
        rw [List.foldl_cons, hstep, ih, value_cons]
        simp
      · have hstep : carryStep b m [0] c = Nat.digits b c := by
          rw [Nat.digits_eq_cons_digits_div hb hc]
          simp [carryStep]
        have hv : value m (c :: cs) ≠ 0 := by
          have := Nat.mul_pos (Nat.pos_of_ne_zero hc) (Nat.pow_pos hm (n := cs.length))
          rw [value_cons]
          omega
        rw [List.foldl_cons, hstep, foldl_carryStep_digits hb hm, foldl_mul_add, ← value_cons,
          if_neg hv]

end Loop

/-! ## Zeros at the front -/

/-- The zeros at the front of a coded list, counted by a test of what is coded. -/
theorem zeros_map {α : Type} (f : α → Nat) (p : α → Bool) (l : List α)
    (h : ∀ x ∈ l, p x = (f x == 0)) : zeros (l.map f) = List.replicate (l.takeWhile p).length 0 := by
  induction l with
  | nil => rfl
  | cons x l ih =>
      have hx := h x (List.mem_cons_self ..)
      have hrest := ih (fun y hy => h y (List.mem_cons_of_mem _ hy))
      rw [zeros] at hrest ⊢
      rw [List.map_cons, List.takeWhile_cons, List.takeWhile_cons, hx]
      by_cases h0 : f x = 0
      · simp [h0, hrest, List.replicate_succ]
      · simp [h0]

theorem zeros_replicate (n : Nat) : zeros (List.replicate n 0) = List.replicate n 0 := by
  simp [zeros]

theorem zeros_replicate_append_cons (n : Nat) {d : Nat} (hd : d ≠ 0) (ds : List Nat) :
    zeros (List.replicate n 0 ++ d :: ds) = List.replicate n 0 := by
  rw [zeros, List.takeWhile_append_of_pos]
  · simp [hd]
  · intro x hx
    simp [List.eq_of_mem_replicate hx]

theorem value_replicate_append (m n : Nat) (ds : List Nat) :
    value m (List.replicate n 0 ++ ds) = value m ds := by
  rw [value, List.reverse_append, List.reverse_replicate, Nat.ofDigits_append_replicate_zero, value]

/-- A list of digits is a list of zeros, or zeros and then a digit that is not zero. -/
theorem eq_replicate_or (cs : List Nat) :
    (∀ c ∈ cs, c = 0) ∧ cs = List.replicate cs.length 0 ∨
      ∃ n d ds, d ≠ 0 ∧ cs = List.replicate n 0 ++ d :: ds := by
  by_cases h : ∀ c ∈ cs, c = 0
  · exact .inl ⟨h, List.eq_replicate_of_mem h⟩
  · right
    induction cs with
    | nil => simp at h
    | cons c cs ih =>
        by_cases hc : c = 0
        · subst hc
          have htail : ¬ ∀ c ∈ cs, c = 0 := by simpa using h
          obtain ⟨n, d, ds, hd, rfl⟩ := ih htail
          exact ⟨n + 1, d, ds, hd, rfl⟩
        · exact ⟨0, c, cs, hc, rfl⟩

/-! ## The two changes of radix -/

section Recode

variable {b m : Nat} {cs : List Nat}

/-- The digits that come out are digits of radix `b`. -/
theorem recode_lt (hb : 1 < b) (hm : 0 < m) : ∀ d ∈ recode m b cs, d < b := by
  intro d hd
  rw [recode, List.mem_append, List.mem_reverse, foldl_carryStep hb hm] at hd
  rcases hd with hd | hd
  · have := List.mem_takeWhile_imp hd
    simp only [beq_iff_eq] at this
    omega
  · split at hd
    · have := List.mem_singleton.mp hd
      omega
    · exact Nat.digits_lt_base hb hd

theorem recode_replicate (hb : 1 < b) (hm : 0 < m) (n : Nat) :
    recode m b (List.replicate n 0) = List.replicate (n + 1) 0 := by
  have hv : value m (List.replicate n 0) = 0 := by
    have h := value_replicate_append m n []
    rw [List.append_nil] at h
    exact h
  rw [recode, zeros_replicate, foldl_carryStep hb hm, if_pos hv, List.replicate_succ']
  rfl

/-- Behind the zeros, the digits of a number that is not zero. -/
theorem recode_replicate_append_cons (hb : 1 < b) (hm : 0 < m) (n : Nat) {d : Nat} (hd : d ≠ 0)
    (ds : List Nat) :
    recode m b (List.replicate n 0 ++ d :: ds) =
      List.replicate n 0 ++ (Nat.digits b (value m (d :: ds))).reverse := by
  have hv : value m (d :: ds) ≠ 0 := by
    have := Nat.mul_pos (Nat.pos_of_ne_zero hd) (Nat.pow_pos hm (n := ds.length))
    rw [value_cons]
    omega
  rw [recode, zeros_replicate_append_cons n hd, foldl_carryStep hb hm, value_replicate_append,
    if_neg hv]

theorem digits_value (hm : 1 < m) {d : Nat} (hd : d ≠ 0) {ds : List Nat}
    (hlt : ∀ x ∈ d :: ds, x < m) : (Nat.digits m (value m (d :: ds))).reverse = d :: ds := by
  have hlast : ∀ h : (d :: ds).reverse ≠ [], (d :: ds).reverse.getLast h ≠ 0 := by
    intro h
    simpa using hd
  rw [value, Nat.digits_ofDigits m hm _ (fun x hx => hlt x (List.mem_reverse.mp hx)) hlast,
    List.reverse_reverse]

/-- **Where some digit is not zero, the second change of radix undoes the first.** -/
theorem recode_recode (hb : 1 < b) (hm : 1 < m) (hlt : ∀ c ∈ cs, c < m) (h : ∃ c ∈ cs, c ≠ 0) :
    recode b m (recode m b cs) = cs := by
  rcases eq_replicate_or cs with ⟨hall, -⟩ | ⟨n, d, ds, hd, rfl⟩
  · obtain ⟨c, hc, hne⟩ := h
    exact absurd (hall c hc) hne
  · have hds : ∀ x ∈ d :: ds, x < m := fun x hx => hlt x (List.mem_append_right _ hx)
    have hv : value m (d :: ds) ≠ 0 := by
      intro h0
      have hdig := digits_value hm hd hds
      rw [h0] at hdig
      simp at hdig
    -- the highest digit of a number that is not zero is not zero
    obtain ⟨e, es, hes⟩ : ∃ e es, (Nat.digits b (value m (d :: ds))).reverse = e :: es :=
      List.exists_cons_of_ne_nil (by simpa using Nat.digits_ne_nil_iff_ne_zero.mpr hv)
    have he : e ≠ 0 := by
      have hlast := Nat.getLast_digit_ne_zero b hv
      have hget : e = (Nat.digits b (value m (d :: ds))).getLast
          (Nat.digits_ne_nil_iff_ne_zero.mpr hv) := by
        rw [← List.head_reverse (by simpa using Nat.digits_ne_nil_iff_ne_zero.mpr hv)]
        simp [hes]
      rw [hget]
      exact hlast
    have hvalue : value b (e :: es) = value m (d :: ds) := by
      rw [← hes, value, List.reverse_reverse, Nat.ofDigits_digits]
    rw [recode_replicate_append_cons hb (by omega) n hd, hes,
      recode_replicate_append_cons hm (by omega) n he, hvalue, digits_value hm hd hds]

/-- **They undo each other exactly there.** -/
theorem recode_recode_iff (hb : 1 < b) (hm : 1 < m) (hlt : ∀ c ∈ cs, c < m) :
    recode b m (recode m b cs) = cs ↔ ∃ c ∈ cs, c ≠ 0 := by
  refine ⟨?_, recode_recode hb hm hlt⟩
  intro h
  by_contra hzero
  have hall : ∀ c ∈ cs, c = 0 := by
    intro c hc
    by_contra hne
    exact hzero ⟨c, hc, hne⟩
  -- a list of zeros comes back two digits longer
  rw [List.eq_replicate_of_mem hall, recode_replicate hb (by omega),
    recode_replicate hm (by omega)] at h
  have hlen := congrArg List.length h
  simp only [List.length_replicate] at hlen
  omega

end Recode

end Base.Radix

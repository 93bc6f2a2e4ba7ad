import Mathlib.Data.List.Basic

/-! # Decoding base64

Four sextets make three bytes; two or three sextets at the end make one or two bytes, and their last
bits are dropped. So a list of bytes whose length is no multiple of three is what several lists of
sextets decode to; these differ in the low bits of their last sextet only. -/

namespace Base.Base64

/-- The bytes of a list of sextets, as numbers. -/
def decode : List Nat → List Nat
  | a :: b :: c :: d :: rest =>
      (a * 4 + b / 16) :: (b % 16 * 16 + c / 4) :: (c % 4 * 64 + d) :: decode rest
  | [a, b, c] => [a * 4 + b / 16, b % 16 * 16 + c / 4]
  | [a, b] => [a * 4 + b / 16]
  | [_] => []
  | [] => []

attribute [grind =] decode

/-- The sextets of a list of bytes. -/
def encode : List Nat → List Nat
  | a :: b :: c :: rest =>
      a / 4 :: (a % 4 * 16 + b / 16) :: (b % 16 * 4 + c / 64) :: c % 64 :: encode rest
  | [a, b] => [a / 4, a % 4 * 16 + b / 16, b % 16 * 4]
  | [a] => [a / 4, a % 4 * 16]
  | [] => []

theorem length_decode (l : List Nat) : (decode l).length = l.length * 3 / 4 := by
  induction l using decode.induct with
  | case1 a b c d rest ih =>
      rw [decode]
      simp only [List.length_cons, ih]
      omega
  | case2 a b c => simp [decode]
  | case3 a b => simp [decode]
  | case4 a => simp [decode]
  | case5 => simp [decode]

theorem decode_lt {l : List Nat} (hl : ∀ x ∈ l, x < 64) : ∀ x ∈ decode l, x < 256 := by
  induction l using decode.induct with
  | case1 a b c d rest ih =>
      simp only [List.mem_cons, forall_eq_or_imp] at hl
      obtain ⟨ha, hb, hc, hd, hrest⟩ := hl
      intro x hx
      rw [decode] at hx
      simp only [List.mem_cons] at hx
      rcases hx with rfl | rfl | rfl | hx
      · omega
      · omega
      · omega
      · exact ih hrest x hx
  | case2 a b c =>
      simp only [List.mem_cons, List.not_mem_nil, or_false, forall_eq_or_imp, forall_eq] at hl
      obtain ⟨ha, hb, hc⟩ := hl
      intro x hx
      rw [decode] at hx
      simp only [List.mem_cons, List.not_mem_nil, or_false] at hx
      rcases hx with rfl | rfl
      · omega
      · omega
  | case3 a b =>
      simp only [List.mem_cons, List.not_mem_nil, or_false, forall_eq_or_imp, forall_eq] at hl
      intro x hx
      rw [decode] at hx
      rw [List.mem_singleton.mp hx]
      omega
  | case4 a =>
      intro x hx
      cases hx
  | case5 =>
      intro x hx
      cases hx

/-- **Two texts of the same bytes that leave one byte over differ in the low four bits of their last
sextet, if at all.** -/
theorem eq_iff_of_decode_eq {s t : List Nat} (hs : ∀ x ∈ s, x < 64) (ht : ∀ x ∈ t, x < 64)
    (hlen : s.length = t.length) (hrest : s.length % 4 = 2) (h : decode s = decode t) :
    s = t ↔ s.getLastD 0 % 16 = t.getLastD 0 % 16 := by
  induction s using decode.induct generalizing t with
  | case1 a b c d rest ih =>
      match t, hlen with
      | a' :: b' :: c' :: d' :: rest', hlen =>
          simp only [List.mem_cons, forall_eq_or_imp] at hs ht
          obtain ⟨ha, hb, hc, hd, hs⟩ := hs
          obtain ⟨ha', hb', hc', hd', ht⟩ := ht
          simp only [List.length_cons] at hlen hrest
          rw [decode, decode, List.cons.injEq, List.cons.injEq, List.cons.injEq] at h
          obtain ⟨h1, h2, h3, h⟩ := h
          have hab : a = a' ∧ b = b' ∧ c = c' ∧ d = d' := by omega
          obtain ⟨rfl, rfl, rfl, rfl⟩ := hab
          have hstep := ih hs ht (by omega) (by omega) h
          -- the last sextet is one of the rest
          match rest, rest', hlen, hrest, hstep with
          | x :: xs, y :: ys, _, _, hstep => simpa [List.getLastD] using hstep
          | [], _, _, hrest, _ => simp at hrest
          | _ :: _, [], hlen, _, _ => simp at hlen
  | case2 a b c => simp at hrest
  | case3 a b =>
      match t, hlen with
      | [a', b'], _ =>
          simp only [List.mem_cons, List.not_mem_nil, or_false, forall_eq_or_imp, forall_eq] at hs ht
          rw [decode, decode, List.cons.injEq] at h
          have ha : a = a' := by omega
          have hb : b / 16 = b' / 16 := by omega
          constructor
          · intro heq
            rw [heq]
          · intro hlow
            have hlow : b % 16 = b' % 16 := hlow
            have hbb : b = b' := by omega
            rw [ha, hbb]
  | case4 a => simp at hrest
  | case5 => simp at hrest

end Base.Base64

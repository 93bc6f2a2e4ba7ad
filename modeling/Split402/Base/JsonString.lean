import Split402.Base.Printing
import Split402.Base.Utf16

/-! # JSON string literals

How ECMAScript's `JSON.stringify` writes a string: control characters, quotes and backslashes are
escaped, and so is a surrogate that stands alone; a surrogate pair is copied. A reader that undoes
the escapes shows that a literal determines its string and where it ends. -/

namespace Base.JsonString

open Base.Printing Base.Utf16

/-- The lowercase hexadecimal digit. -/
def hexUnit (n : Nat) : UInt16 := UInt16.ofNat (if n < 10 then 48 + n else 87 + n)

attribute [grind =] hexUnit

/-- Backslash, `u` and four digits. -/
def unicodeEscape (u : UInt16) : Text :=
  [0x5C, 0x75, hexUnit (u.toNat / 4096), hexUnit (u.toNat / 256 % 16), hexUnit (u.toNat / 16 % 16),
    hexUnit (u.toNat % 16)]

attribute [grind =] unicodeEscape

/-- A code unit that is no part of a surrogate pair. -/
def escapeUnit (u : UInt16) : Text :=
  if u = 0x08 then [0x5C, 0x62]
  else if u = 0x09 then [0x5C, 0x74]
  else if u = 0x0A then [0x5C, 0x6E]
  else if u = 0x0C then [0x5C, 0x66]
  else if u = 0x0D then [0x5C, 0x72]
  else if u = 0x22 then [0x5C, 0x22]
  else if u = 0x5C then [0x5C, 0x5C]
  else if u < 0x20 || isSurrogate u then unicodeEscape u
  else [u]

attribute [grind =] escapeUnit

def quoteBody : Text → Text
  | [] => []
  | [u] => escapeUnit u
  | u :: v :: rest =>
      if isHigh u && isLow v then u :: v :: quoteBody rest
      else escapeUnit u ++ quoteBody (v :: rest)

attribute [grind =] quoteBody

/-- `JSON.stringify` of a string. -/
def quote (s : Text) : Text := 0x22 :: (quoteBody s ++ [0x22])

/-! ## Reading a literal -/

def unhex (u : UInt16) : Nat := if u.toNat < 58 then u.toNat - 48 else u.toNat - 87

/-- The code unit of an escape other than that of a number. -/
def unescape (u : UInt16) : UInt16 :=
  if u = 0x62 then 0x08
  else if u = 0x74 then 0x09
  else if u = 0x6E then 0x0A
  else if u = 0x66 then 0x0C
  else if u = 0x72 then 0x0D
  else u

/-- The string up to the closing quote, and what follows it. -/
def readBody : Text → Option (Text × Text)
  | [] => none
  | u :: rest =>
      if u = 0x22 then some ([], rest)
      else if u = 0x5C then
        match rest with
        | [] => none
        | c :: after =>
            if c = 0x75 then
              match after with
              | h₁ :: h₂ :: h₃ :: h₄ :: after =>
                  (readBody after).map (fun p =>
                    (UInt16.ofNat (((unhex h₁ * 16 + unhex h₂) * 16 + unhex h₃) * 16 + unhex h₄) ::
                      p.1, p.2))
              | _ => none
            else (readBody after).map (fun p => (unescape c :: p.1, p.2))
      else (readBody rest).map (fun p => (u :: p.1, p.2))

theorem readBody_close (k : Text) : readBody (0x22 :: k) = some ([], k) := by
  rw [readBody.eq_def]
  rfl

theorem readBody_short {c : UInt16} (h : c ≠ 0x75) (k : Text) :
    readBody (0x5C :: c :: k) = (readBody k).map (fun p => (unescape c :: p.1, p.2)) := by
  rw [readBody.eq_def]
  simp [h]

theorem readBody_number (h₁ h₂ h₃ h₄ : UInt16) (k : Text) :
    readBody (0x5C :: 0x75 :: h₁ :: h₂ :: h₃ :: h₄ :: k) = (readBody k).map (fun p =>
      (UInt16.ofNat (((unhex h₁ * 16 + unhex h₂) * 16 + unhex h₃) * 16 + unhex h₄) :: p.1,
        p.2)) := by
  rw [readBody.eq_def]
  simp

theorem readBody_raw {u : UInt16} (hquote : u ≠ 0x22) (hslash : u ≠ 0x5C) (k : Text) :
    readBody (u :: k) = (readBody k).map (fun p => (u :: p.1, p.2)) := by
  rw [readBody.eq_def]
  simp [hquote, hslash]

theorem unhex_hexUnit {n : Nat} (h : n < 16) : unhex (hexUnit n) = n := by
  unfold unhex hexUnit
  by_cases hn : n < 10
  · have hnat : (UInt16.ofNat (48 + n)).toNat = 48 + n := by
      rw [UInt16.toNat_ofNat']
      omega
    rw [if_pos hn, hnat, if_pos (by omega)]
    omega
  · have hnat : (UInt16.ofNat (87 + n)).toNat = 87 + n := by
      rw [UInt16.toNat_ofNat']
      omega
    rw [if_neg hn, hnat, if_neg (by omega)]
    omega

theorem readBody_unicodeEscape (u : UInt16) (k : Text) :
    readBody (unicodeEscape u ++ k) = (readBody k).map (fun p => (u :: p.1, p.2)) := by
  have hlt := u.toNat_lt
  have hvalue : UInt16.ofNat (((unhex (hexUnit (u.toNat / 4096)) * 16 +
      unhex (hexUnit (u.toNat / 256 % 16))) * 16 + unhex (hexUnit (u.toNat / 16 % 16))) * 16 +
        unhex (hexUnit (u.toNat % 16))) = u := by
    rw [unhex_hexUnit (by omega), unhex_hexUnit (by omega), unhex_hexUnit (by omega),
      unhex_hexUnit (by omega)]
    have hsum : ((u.toNat / 4096 * 16 + u.toNat / 256 % 16) * 16 + u.toNat / 16 % 16) * 16 +
        u.toNat % 16 = u.toNat := by omega
    rw [hsum, UInt16.ofNat_toNat]
  have hread := readBody_number (hexUnit (u.toNat / 4096)) (hexUnit (u.toNat / 256 % 16))
    (hexUnit (u.toNat / 16 % 16)) (hexUnit (u.toNat % 16)) k
  rw [hvalue] at hread
  exact hread

/-- Reading undoes the escape of one code unit. -/
theorem readBody_escapeUnit (u : UInt16) (k : Text) :
    readBody (escapeUnit u ++ k) = (readBody k).map (fun p => (u :: p.1, p.2)) := by
  by_cases h8 : u = 0x08
  · subst h8
    exact readBody_short (by decide) k
  by_cases h9 : u = 0x09
  · subst h9
    exact readBody_short (by decide) k
  by_cases ha : u = 0x0A
  · subst ha
    exact readBody_short (by decide) k
  by_cases hc : u = 0x0C
  · subst hc
    exact readBody_short (by decide) k
  by_cases hd : u = 0x0D
  · subst hd
    exact readBody_short (by decide) k
  by_cases hquote : u = 0x22
  · subst hquote
    exact readBody_short (by decide) k
  by_cases hslash : u = 0x5C
  · subst hslash
    exact readBody_short (by decide) k
  rw [escapeUnit, if_neg h8, if_neg h9, if_neg ha, if_neg hc, if_neg hd, if_neg hquote,
    if_neg hslash]
  by_cases hesc : (u < 0x20 || isSurrogate u) = true
  · rw [if_pos hesc]
    exact readBody_unicodeEscape u k
  · rw [if_neg hesc]
    exact readBody_raw hquote hslash k

theorem ne_of_isSurrogate {u : UInt16} (h : isSurrogate u = true) : u ≠ 0x22 ∧ u ≠ 0x5C := by
  constructor
  · rintro rfl
    cases h
  · rintro rfl
    cases h

/-- **Reading undoes quoting.** -/
theorem readBody_quoteBody (s k : Text) : readBody (quoteBody s ++ 0x22 :: k) = some (s, k) := by
  induction s using quoteBody.induct with
  | case1 => exact readBody_close k
  | case2 u =>
      rw [quoteBody, readBody_escapeUnit, readBody_close]
      rfl
  | case3 u v rest hpair ih =>
      rw [quoteBody, if_pos hpair]
      rw [Bool.and_eq_true] at hpair
      -- both surrogates are copied
      obtain ⟨huq, hus⟩ := ne_of_isSurrogate (u := u) (by rw [isSurrogate, hpair.1, Bool.true_or])
      obtain ⟨hvq, hvs⟩ := ne_of_isSurrogate (u := v) (by rw [isSurrogate, hpair.2, Bool.or_true])
      rw [List.cons_append, List.cons_append, readBody_raw huq hus, readBody_raw hvq hvs, ih]
      rfl
  | case4 u v rest hpair ih =>
      rw [quoteBody, if_neg hpair, List.append_assoc, readBody_escapeUnit, ih]
      rfl

theorem readable_quote (stop : UInt16 → Bool) (ok : Text → Prop) (s : Text) :
    Readable stop ok quote s := by
  intro t r r' _ _ _ h
  rw [quote, quote, List.cons_append, List.cons_append, List.cons.injEq, List.append_assoc,
    List.append_assoc] at h
  have hread := congrArg readBody h.2
  rw [List.singleton_append, List.singleton_append, readBody_quoteBody, readBody_quoteBody,
    Option.some.injEq, Prod.mk.injEq] at hread
  exact hread

/-! ## Literals are well formed -/

theorem isSurrogate_hexUnit {n : Nat} (h : n < 16) : isSurrogate (hexUnit n) = false := by
  rw [Bool.eq_false_iff, Ne, isSurrogate_iff, hexUnit]
  split
  · rw [UInt16.toNat_ofNat']
    omega
  · rw [UInt16.toNat_ofNat']
    omega

theorem isWellFormed_escapeUnit (u : UInt16) : isWellFormed (escapeUnit u) = true := by
  have hlt := u.toNat_lt
  unfold escapeUnit
  split; · rfl
  split; · rfl
  split; · rfl
  split; · rfl
  split; · rfl
  split; · rfl
  split; · rfl
  split
  · refine isWellFormed_of_forall ?_
    intro v hv
    rw [unicodeEscape] at hv
    simp only [List.mem_cons, List.not_mem_nil, or_false] at hv
    rcases hv with rfl | rfl | rfl | rfl | rfl | rfl
    · rfl
    · rfl
    · exact isSurrogate_hexUnit (by omega)
    · exact isSurrogate_hexUnit (by omega)
    · exact isSurrogate_hexUnit (by omega)
    · exact isSurrogate_hexUnit (by omega)
  · rename_i hesc
    rw [Bool.or_eq_true, not_or, Bool.not_eq_true] at hesc
    rw [isWellFormed, Bool.not_eq_true']
    simpa using hesc.2

/-- **A literal is well formed, whatever its string.** -/
theorem isWellFormed_quote (s : Text) : isWellFormed (quote s) = true := by
  have hbody : isWellFormed (quoteBody s) = true := by
    induction s using quoteBody.induct with
    | case1 => rfl
    | case2 u => exact isWellFormed_escapeUnit u
    | case3 u v rest hpair ih =>
        rw [quoteBody, if_pos hpair, isWellFormed, if_pos hpair]
        exact ih
    | case4 u v rest hpair ih =>
        rw [quoteBody, if_neg hpair]
        exact isWellFormed_append (isWellFormed_escapeUnit u) ih
  exact isWellFormed_append (s := [0x22]) rfl (isWellFormed_append hbody rfl)

end Base.JsonString

import Mathlib.Data.List.Basic

/-! # UTF-16 strings and their UTF-8 bytes

A string of a language that counts in UTF-16 is a list of code units, any list: a surrogate may
stand alone. An encoder to UTF-8 puts U+FFFD for it, so only the well-formed strings, those without
a lone surrogate, are determined by their bytes. -/

namespace Base.Utf16

/-- A string, by its code units. -/
abbrev Text := List UInt16

def isHigh (u : UInt16) : Bool := 0xD800 ≤ u && u ≤ 0xDBFF

def isLow (u : UInt16) : Bool := 0xDC00 ≤ u && u ≤ 0xDFFF

def isSurrogate (u : UInt16) : Bool := isHigh u || isLow u

attribute [grind =] isSurrogate

/-- The character of a code unit that is no part of a pair. -/
def unitChar (u : UInt16) : Char :=
  if isSurrogate u then Char.ofNat 0xFFFD else Char.ofNat u.toNat

attribute [grind =] unitChar

/-- The character of a surrogate pair. -/
def pairChar (u v : UInt16) : Char :=
  Char.ofNat (0x10000 + (u.toNat - 0xD800) * 0x400 + (v.toNat - 0xDC00))

attribute [grind =] pairChar

/-- The characters of a string; a lone surrogate reads as U+FFFD. -/
def toChars : Text → List Char
  | [] => []
  | [u] => [unitChar u]
  | u :: v :: rest =>
      if isHigh u && isLow v then pairChar u v :: toChars rest
      else unitChar u :: toChars (v :: rest)

attribute [grind =] toChars

/-- The code units of a character. -/
def charUnits (c : Char) : Text :=
  if c.toNat < 0x10000 then [UInt16.ofNat c.toNat]
  else
    [UInt16.ofNat (0xD800 + (c.toNat - 0x10000) / 0x400),
      UInt16.ofNat (0xDC00 + (c.toNat - 0x10000) % 0x400)]

attribute [grind =] charUnits

def ofString (s : String) : Text := s.toList.flatMap charUnits

def utf8Bytes (t : Text) : ByteArray := (String.ofList (toChars t)).toUTF8

/-- No surrogate stands alone. -/
def isWellFormed : Text → Bool
  | [] => true
  | [u] => !isSurrogate u
  | u :: v :: rest =>
      if isHigh u && isLow v then isWellFormed rest
      else !isSurrogate u && isWellFormed (v :: rest)

attribute [grind =] isWellFormed

/-! ## Code units -/

theorem isHigh_iff {u : UInt16} : isHigh u = true ↔ 0xD800 ≤ u.toNat ∧ u.toNat ≤ 0xDBFF := by
  simp [isHigh, UInt16.le_iff_toNat_le]

theorem isLow_iff {u : UInt16} : isLow u = true ↔ 0xDC00 ≤ u.toNat ∧ u.toNat ≤ 0xDFFF := by
  simp [isLow, UInt16.le_iff_toNat_le]

theorem isSurrogate_iff {u : UInt16} :
    isSurrogate u = true ↔ 0xD800 ≤ u.toNat ∧ u.toNat ≤ 0xDFFF := by
  rw [isSurrogate, Bool.or_eq_true, isHigh_iff, isLow_iff]
  omega

theorem toNat_ofNat {n : Nat} (h : n.isValidChar) : (Char.ofNat n).toNat = n := by
  rw [Char.ofNat, dif_pos h]
  rfl

theorem charUnits_unitChar {u : UInt16} (h : isSurrogate u = false) :
    charUnits (unitChar u) = [u] := by
  have hlt := u.toNat_lt
  have hns : ¬ (0xD800 ≤ u.toNat ∧ u.toNat ≤ 0xDFFF) := by
    rw [← isSurrogate_iff, h]
    exact Bool.false_ne_true
  have hvalid : u.toNat.isValidChar := by
    unfold Nat.isValidChar
    omega
  rw [unitChar, h, if_neg Bool.false_ne_true, charUnits, toNat_ofNat hvalid, if_pos (by omega)]
  simp

theorem charUnits_pairChar {u v : UInt16} (hu : isHigh u = true) (hv : isLow v = true) :
    charUnits (pairChar u v) = [u, v] := by
  rw [isHigh_iff] at hu
  rw [isLow_iff] at hv
  have hvalid : (0x10000 + (u.toNat - 0xD800) * 0x400 + (v.toNat - 0xDC00)).isValidChar := by
    unfold Nat.isValidChar
    omega
  have hhigh : 0xD800 + (0x10000 + (u.toNat - 0xD800) * 0x400 + (v.toNat - 0xDC00) - 0x10000) /
      0x400 = u.toNat := by omega
  have hlow : 0xDC00 + (0x10000 + (u.toNat - 0xD800) * 0x400 + (v.toNat - 0xDC00) - 0x10000) %
      0x400 = v.toNat := by omega
  rw [charUnits, pairChar, toNat_ofNat hvalid, if_neg (by omega), hhigh, hlow]
  simp

/-! ## Well-formed strings -/

/-- A well-formed string is what its characters are written as. -/
theorem units_toChars {t : Text} (h : isWellFormed t = true) :
    (toChars t).flatMap charUnits = t := by
  induction t using toChars.induct with
  | case1 => rfl
  | case2 u =>
      rw [isWellFormed, Bool.not_eq_true'] at h
      rw [toChars, List.flatMap_singleton, charUnits_unitChar h]
  | case3 u v rest hpair ih =>
      rw [isWellFormed, if_pos hpair] at h
      rw [toChars, if_pos hpair, List.flatMap_cons, ih h]
      rw [Bool.and_eq_true] at hpair
      rw [charUnits_pairChar hpair.1 hpair.2]
      rfl
  | case4 u v rest hpair ih =>
      rw [isWellFormed, if_neg hpair, Bool.and_eq_true, Bool.not_eq_true'] at h
      rw [toChars, if_neg hpair, List.flatMap_cons, ih h.2, charUnits_unitChar h.1]
      rfl

/-- **Well-formed strings are determined by their UTF-8 bytes.** -/
theorem utf8Bytes_inj {s t : Text} (hs : isWellFormed s = true) (ht : isWellFormed t = true)
    (h : utf8Bytes s = utf8Bytes t) : s = t := by
  have hchars : toChars s = toChars t :=
    String.ofList_inj.mp (String.toByteArray_inj.mp h)
  rw [← units_toChars hs, ← units_toChars ht, hchars]

theorem isWellFormed_append {s t : Text} (hs : isWellFormed s = true)
    (ht : isWellFormed t = true) : isWellFormed (s ++ t) = true := by
  induction s using isWellFormed.induct with
  | case1 => exact ht
  | case2 u =>
      rw [isWellFormed, Bool.not_eq_true'] at hs
      cases t with
      | nil => simpa [isWellFormed] using hs
      | cons v rest =>
          have hhigh : isHigh u = false := by
            rw [isSurrogate, Bool.or_eq_false_iff] at hs
            exact hs.1
          rw [List.singleton_append, isWellFormed, hhigh, hs]
          exact ht
  | case3 u v rest hpair ih =>
      rw [isWellFormed, if_pos hpair] at hs
      rw [List.cons_append, List.cons_append, isWellFormed, if_pos hpair]
      exact ih hs
  | case4 u v rest hpair ih =>
      rw [isWellFormed, if_neg hpair, Bool.and_eq_true] at hs
      rw [List.cons_append, List.cons_append, isWellFormed, if_neg hpair, Bool.and_eq_true]
      exact ⟨hs.1, ih hs.2⟩

/-- A string without surrogates is well formed. -/
theorem isWellFormed_of_forall {t : Text} (h : ∀ u ∈ t, isSurrogate u = false) :
    isWellFormed t = true := by
  induction t with
  | nil => rfl
  | cons u rest ih =>
      have hu : isWellFormed [u] = true := by
        rw [isWellFormed, h u List.mem_cons_self]
        rfl
      exact isWellFormed_append hu (ih fun v hv => h v (List.mem_cons_of_mem u hv))

/-! ## Strings of characters -/

theorem toChars_charUnits (c : Char) (rest : Text) :
    toChars (charUnits c ++ rest) = c :: toChars rest := by
  have hvalid : c.toNat.isValidChar := c.valid
  unfold Nat.isValidChar at hvalid
  unfold charUnits
  split
  · rename_i hlt
    have hnat : (UInt16.ofNat c.toNat).toNat = c.toNat := by
      rw [UInt16.toNat_ofNat']
      omega
    have hns : isSurrogate (UInt16.ofNat c.toNat) = false := by
      rw [Bool.eq_false_iff, Ne, isSurrogate_iff, hnat]
      omega
    have hhigh : isHigh (UInt16.ofNat c.toNat) = false := by
      rw [isSurrogate, Bool.or_eq_false_iff] at hns
      exact hns.1
    have hchar : unitChar (UInt16.ofNat c.toNat) = c := by
      rw [unitChar, hns, if_neg Bool.false_ne_true, hnat, Char.ofNat_toNat]
    cases rest with
    | nil =>
        show [unitChar (UInt16.ofNat c.toNat)] = [c]
        rw [hchar]
    | cons v rest =>
        rw [List.singleton_append, toChars, hhigh, Bool.false_and, if_neg Bool.false_ne_true, hchar]
  · rename_i hge
    have hhigh : (UInt16.ofNat (0xD800 + (c.toNat - 0x10000) / 0x400)).toNat =
        0xD800 + (c.toNat - 0x10000) / 0x400 := by
      rw [UInt16.toNat_ofNat']
      omega
    have hlow : (UInt16.ofNat (0xDC00 + (c.toNat - 0x10000) % 0x400)).toNat =
        0xDC00 + (c.toNat - 0x10000) % 0x400 := by
      rw [UInt16.toNat_ofNat']
      omega
    have hpair : (isHigh (UInt16.ofNat (0xD800 + (c.toNat - 0x10000) / 0x400)) &&
        isLow (UInt16.ofNat (0xDC00 + (c.toNat - 0x10000) % 0x400))) = true := by
      rw [Bool.and_eq_true, isHigh_iff, isLow_iff, hhigh, hlow]
      omega
    have hchar : pairChar (UInt16.ofNat (0xD800 + (c.toNat - 0x10000) / 0x400))
        (UInt16.ofNat (0xDC00 + (c.toNat - 0x10000) % 0x400)) = c := by
      rw [pairChar, hhigh, hlow]
      have hsum : 0x10000 + (0xD800 + (c.toNat - 0x10000) / 0x400 - 0xD800) * 0x400 +
          (0xDC00 + (c.toNat - 0x10000) % 0x400 - 0xDC00) = c.toNat := by omega
      rw [hsum, Char.ofNat_toNat]
    rw [List.cons_append, List.singleton_append, toChars, if_pos hpair, hchar]

theorem toChars_flatMap (l : List Char) : toChars (l.flatMap charUnits) = l := by
  induction l with
  | nil => rfl
  | cons c l ih => rw [List.flatMap_cons, toChars_charUnits, ih]

theorem ofString_inj {s t : String} (h : ofString s = ofString t) : s = t := by
  have hchars := congrArg toChars h
  rw [ofString, ofString, toChars_flatMap, toChars_flatMap] at hchars
  exact String.toList_inj.mp hchars

end Base.Utf16

import Mathlib.Data.List.GetD
import Split402.Proof.Formats
import Split402.Protocol.Base58

/-! # base58 back and forth

Encoding and decoding are the two changes of radix between 256 and 58, the digits of radix 58 written
with the alphabet. So both round trips hold exactly where the digits are not all zero: an encoding
starts from the digit 0 and writes the zeros at the front once more. -/

namespace Split402

open Base Base.Radix

/-! ## The alphabet -/

theorem length_base58Alphabet : base58Alphabet.length = 58 := by
  rw [base58Alphabet_eq]
  rfl

theorem nodup_base58Alphabet : base58Alphabet.Nodup := by
  rw [base58Alphabet_eq]
  decide

/-- The character of a digit. -/
def base58Char (digit : Nat) : Char := base58Alphabet.getD digit '1'

/-- The digit of a character, or 58. -/
def base58Digit (c : Char) : Nat := base58Alphabet.idxOf c

theorem base58Digit_base58Char {digit : Nat} (h : digit < 58) :
    base58Digit (base58Char digit) = digit := by
  have hlt : digit < base58Alphabet.length := by
    rw [length_base58Alphabet]
    exact h
  rw [base58Digit, base58Char, List.getD_eq_getElem _ _ hlt]
  exact nodup_base58Alphabet.idxOf_getElem digit hlt

theorem base58Digit_lt {c : Char} (h : c ∈ base58Alphabet) : base58Digit c < 58 := by
  rw [← length_base58Alphabet]
  exact List.idxOf_lt_length_iff.mpr h

theorem base58Char_base58Digit {c : Char} (h : c ∈ base58Alphabet) :
    base58Char (base58Digit c) = c := by
  have hlt := List.idxOf_lt_length_iff.mpr h
  rw [base58Char, base58Digit, List.getD_eq_getElem _ _ hlt]
  exact List.getElem_idxOf hlt

theorem base58Char_mem {digit : Nat} (h : digit < 58) : base58Char digit ∈ base58Alphabet := by
  have hlt : digit < base58Alphabet.length := by
    rw [length_base58Alphabet]
    exact h
  rw [base58Char, List.getD_eq_getElem _ _ hlt]
  exact List.getElem_mem hlt

theorem base58Char_zero : base58Char 0 = '1' := by
  rw [base58Char, base58Alphabet_eq]
  rfl

theorem base58Digit_eq_zero_iff {c : Char} (h : c ∈ base58Alphabet) :
    base58Digit c = 0 ↔ c = '1' := by
  constructor
  · intro h0
    rw [← base58Char_base58Digit h, h0, base58Char_zero]
  · rintro rfl
    rw [← base58Char_zero, base58Digit_base58Char (by omega)]

theorem base58Chars?_eq {digits : List Nat} (h : ∀ d ∈ digits, d < 58) :
    base58Chars? digits = digits.map base58Char := by
  rw [base58Chars?]
  induction digits with
  | nil => rfl
  | cons d ds ih =>
      have hd : base58Alphabet[d]? = some (base58Char d) := by
        have hlt : d < base58Alphabet.length := by
          rw [length_base58Alphabet]
          exact h d (List.mem_cons_self ..)
        rw [base58Char, List.getD_eq_getElem _ _ hlt]
        exact List.getElem?_eq_getElem hlt
      rw [List.filterMap_cons_some hd, ih (fun x hx => h x (List.mem_cons_of_mem _ hx))]
      rfl

/-! ## The bytes -/

theorem ofNat_toNat_map (bytes : List UInt8) :
    (bytes.map UInt8.toNat).map UInt8.ofNat = bytes := by
  simp [Function.comp_def]

theorem toNat_ofNat_map {digits : List Nat} (h : ∀ d ∈ digits, d < 256) :
    (digits.map UInt8.ofNat).map UInt8.toNat = digits := by
  rw [List.map_map]
  refine (List.map_congr_left ?_).trans (List.map_id digits)
  intro d hd
  exact UInt8.toNat_ofNat_of_lt' (h d hd)

theorem toNat_map_lt (bytes : List UInt8) : ∀ d ∈ bytes.map UInt8.toNat, d < 256 := by
  intro d hd
  obtain ⟨byte, -, rfl⟩ := List.mem_map.mp hd
  exact byte.toNat_lt

theorem ofNat_map_inj {ds es : List Nat} (hd : ∀ d ∈ ds, d < 256) (he : ∀ d ∈ es, d < 256)
    (h : ds.map UInt8.ofNat = es.map UInt8.ofNat) : ds = es := by
  rw [← toNat_ofNat_map hd, h, toNat_ofNat_map he]

/-! ## Encoding and decoding -/

/-- The digits of a text of the alphabet. -/
def base58Digits (value : String) : List Nat := value.toList.map base58Digit

theorem base58Digits_lt {value : String} (h : ∀ c ∈ value.toList, c ∈ base58Alphabet) :
    ∀ d ∈ base58Digits value, d < 58 := by
  intro d hd
  obtain ⟨c, hc, rfl⟩ := List.mem_map.mp hd
  exact base58Digit_lt (h c hc)

theorem base58Encode_eq {bytes : List UInt8} (h : bytes ≠ []) :
    base58Encode bytes =
      String.ofList ((recode 256 58 (bytes.map UInt8.toNat)).map base58Char) := by
  have hlt : ∀ d ∈ ((bytes.map UInt8.toNat).foldl (carryStep 58 256) [0]).reverse, d < 58 :=
    fun d hd => recode_lt (by omega) (by omega) d (List.mem_append_right _ hd)
  have hzeros := zeros_map UInt8.toNat (· == 0) bytes (by
    intro byte _
    rw [Bool.eq_iff_iff, beq_iff_eq, beq_iff_eq, ← UInt8.toNat_inj]
    rfl)
  rw [base58Encode, if_neg (by simpa using h), base58EncodeStep_eq, recode, hzeros,
    List.map_append, List.map_replicate, base58Char_zero]
  dsimp only
  rw [← base58Chars?_eq hlt, List.foldl_map]

theorem findIdx?_base58Alphabet (c : Char) :
    base58Alphabet.findIdx? (· == c) =
      if c ∈ base58Alphabet then some (base58Digit c) else none := by
  rw [List.findIdx?_eq_guard_findIdx_lt, Option.guard]
  simp only [base58Digit, ← List.idxOf_lt_length_iff, decide_eq_true_eq]
  rfl

/-- One character of the loop of `base58Decode`. -/
def base58DecodeChar (bytes : List Nat) (char : Char) : Except String (List Nat) :=
  match base58Alphabet.findIdx? (· == char) with
  | none => throw "invalid base58"
  | some carry => pure (base58Step bytes carry)

theorem base58DecodeChar_of_mem {c : Char} (h : c ∈ base58Alphabet) (bytes : List Nat) :
    base58DecodeChar bytes c = .ok (carryStep 256 58 bytes (base58Digit c)) := by
  rw [base58DecodeChar, findIdx?_base58Alphabet, if_pos h, base58Step_eq]
  rfl

theorem mem_of_base58DecodeChar {c : Char} {bytes bytes' : List Nat}
    (h : base58DecodeChar bytes c = .ok bytes') : c ∈ base58Alphabet := by
  by_contra hc
  rw [base58DecodeChar, findIdx?_base58Alphabet, if_neg hc] at h
  cases h

theorem foldlM_base58DecodeChar {chars : List Char} (h : ∀ c ∈ chars, c ∈ base58Alphabet)
    (bytes : List Nat) :
    chars.foldlM base58DecodeChar bytes =
      .ok ((chars.map base58Digit).foldl (carryStep 256 58) bytes) := by
  induction chars generalizing bytes with
  | nil => rfl
  | cons c chars ih =>
      rw [List.foldlM_cons, base58DecodeChar_of_mem (h c (List.mem_cons_self ..))]
      exact ih (fun x hx => h x (List.mem_cons_of_mem _ hx)) _

theorem mem_of_foldlM_base58DecodeChar {chars : List Char} {bytes bytes' : List Nat}
    (h : chars.foldlM base58DecodeChar bytes = .ok bytes') : ∀ c ∈ chars, c ∈ base58Alphabet := by
  induction chars generalizing bytes with
  | nil =>
      intro c hc
      cases hc
  | cons c chars ih =>
      rw [List.foldlM_cons] at h
      obtain ⟨next, hnext, hrest⟩ := bind_eq_ok.mp h
      have hhead := mem_of_base58DecodeChar hnext
      intro x hx
      rcases List.mem_cons.mp hx with rfl | hx
      · exact hhead
      · exact ih hrest x hx

theorem base58Decode_def (value : String) :
    base58Decode value =
      if value.toList.isEmpty then .ok []
      else value.toList.foldlM base58DecodeChar [0] >>= fun bytes =>
        .ok ((bytes ++ List.replicate (value.toList.takeWhile (· == '1')).length 0).reverse.map
          UInt8.ofNat) := rfl

/-- A text that decodes is of the alphabet. -/
theorem mem_of_base58Decode {value : String} {bytes : List UInt8}
    (h : base58Decode value = .ok bytes) : ∀ c ∈ value.toList, c ∈ base58Alphabet := by
  rw [base58Decode_def] at h
  split at h
  · rename_i hempty
    intro c hc
    rw [List.isEmpty_iff.mp hempty] at hc
    cases hc
  · obtain ⟨digits, hdigits, -⟩ := bind_eq_ok.mp h
    exact mem_of_foldlM_base58DecodeChar hdigits

theorem base58Decode_eq {value : String} (hne : value.toList ≠ [])
    (h : ∀ c ∈ value.toList, c ∈ base58Alphabet) :
    base58Decode value = .ok ((recode 58 256 (base58Digits value)).map UInt8.ofNat) := by
  have hzeros := zeros_map base58Digit (· == '1') value.toList (by
    intro c hc
    rw [Bool.eq_iff_iff, beq_iff_eq, beq_iff_eq, base58Digit_eq_zero_iff (h c hc)])
  rw [base58Decode_def, if_neg (by simpa using hne), foldlM_base58DecodeChar h, recode,
    base58Digits, hzeros]
  change Except.ok _ = _
  rw [List.reverse_append, List.reverse_replicate]

/-! ## The round trips -/

theorem toList_base58Encode {bytes : List UInt8} (h : bytes ≠ []) :
    (base58Encode bytes).toList = (recode 256 58 (bytes.map UInt8.toNat)).map base58Char := by
  rw [base58Encode_eq h, String.toList_ofList]

theorem recode_bytes_lt (bytes : List UInt8) :
    ∀ d ∈ recode 256 58 (bytes.map UInt8.toNat), d < 58 := recode_lt (by omega) (by omega)

theorem recode_ne_nil {m b : Nat} (hb : 1 < b) (hm : 0 < m) (cs : List Nat) :
    recode m b cs ≠ [] := by
  intro h
  have hlen := congrArg List.length h
  rw [recode, foldl_carryStep hb hm] at hlen
  split at hlen
  · simp at hlen
  · rename_i hv
    have := Nat.digits_ne_nil_iff_ne_zero (b := b).mpr hv
    simp_all

theorem map_base58Digit_base58Char {digits : List Nat} (h : ∀ d ∈ digits, d < 58) :
    (digits.map base58Char).map base58Digit = digits := by
  rw [List.map_map]
  refine (List.map_congr_left ?_).trans (List.map_id digits)
  intro d hd
  exact base58Digit_base58Char (h d hd)

/-- The digits of an encoding. -/
theorem base58Digits_base58Encode {bytes : List UInt8} (h : bytes ≠ []) :
    base58Digits (base58Encode bytes) = recode 256 58 (bytes.map UInt8.toNat) := by
  rw [base58Digits, toList_base58Encode h, map_base58Digit_base58Char (recode_bytes_lt bytes)]

theorem mem_base58Encode (bytes : List UInt8) :
    ∀ c ∈ (base58Encode bytes).toList, c ∈ base58Alphabet := by
  intro c hc
  by_cases h : bytes = []
  · subst h
    simp [base58Encode] at hc
  · rw [toList_base58Encode h] at hc
    obtain ⟨d, hd, rfl⟩ := List.mem_map.mp hc
    exact base58Char_mem (recode_bytes_lt bytes d hd)

/-- Decoding an encoding is to change the radix there and back. -/
theorem base58Decode_base58Encode {bytes : List UInt8} (h : bytes ≠ []) :
    base58Decode (base58Encode bytes) =
      .ok ((recode 58 256 (recode 256 58 (bytes.map UInt8.toNat))).map UInt8.ofNat) := by
  have hne : (base58Encode bytes).toList ≠ [] := by
    rw [toList_base58Encode h]
    intro hnil
    exact recode_ne_nil (by omega) (by omega) _ (List.map_eq_nil_iff.mp hnil)
  rw [base58Decode_eq hne (mem_base58Encode bytes), base58Digits_base58Encode h]

theorem decode_encode_iff {bytes : List UInt8} (h : bytes ≠ []) :
    base58Decode (base58Encode bytes) = .ok bytes ↔ ∃ byte ∈ bytes, byte ≠ 0 := by
  have hexists : (∃ d ∈ bytes.map UInt8.toNat, d ≠ 0) ↔ ∃ byte ∈ bytes, byte ≠ 0 := by
    simp only [List.mem_map, exists_exists_and_eq_and, ne_eq, ← UInt8.toNat_inj]
    rfl
  rw [base58Decode_base58Encode h, Except.ok.injEq, ← hexists,
    ← recode_recode_iff (b := 58) (m := 256) (by omega) (by omega) (toNat_map_lt bytes)]
  constructor
  · intro heq
    refine ofNat_map_inj (recode_lt (by omega) (by omega)) (toNat_map_lt bytes) ?_
    rw [heq, ofNat_toNat_map]
  · intro heq
    rw [heq, ofNat_toNat_map]

theorem encode_decode_iff {value : String} {bytes : List UInt8} (hne : value.toList ≠ [])
    (h : base58Decode value = .ok bytes) :
    base58Encode bytes = value ↔ ∃ c ∈ value.toList, c ≠ '1' := by
  have hmem := mem_of_base58Decode h
  have hexists : (∃ d ∈ base58Digits value, d ≠ 0) ↔ ∃ c ∈ value.toList, c ≠ '1' := by
    simp only [base58Digits, List.mem_map, exists_exists_and_eq_and]
    refine exists_congr fun c => and_congr_right fun hc => ?_
    rw [ne_eq, ne_eq, base58Digit_eq_zero_iff (hmem c hc)]
  rw [base58Decode_eq hne hmem, Except.ok.injEq] at h
  subst h
  have hbytes : (recode 58 256 (base58Digits value)).map UInt8.ofNat ≠ [] := by
    intro hnil
    exact recode_ne_nil (by omega) (by omega) _ (List.map_eq_nil_iff.mp hnil)
  have htext : value = String.ofList ((base58Digits value).map base58Char) := by
    rw [base58Digits, List.map_map]
    have hid : value.toList.map (base58Char ∘ base58Digit) = value.toList :=
      (List.map_congr_left fun c hc => base58Char_base58Digit (hmem c hc)).trans (List.map_id _)
    rw [hid, String.ofList_toList]
  have hlt := base58Digits_lt hmem
  rw [← hexists, ← recode_recode_iff (b := 256) (m := 58) (by omega) (by omega) hlt,
    base58Encode_eq hbytes, toNat_ofNat_map (recode_lt (by omega) (by omega))]
  constructor
  · intro heq
    have hchars := congrArg base58Digits heq
    rw [base58Digits, String.toList_ofList,
      map_base58Digit_base58Char (recode_lt (by omega) (by omega))] at hchars
    exact hchars
  · intro heq
    rw [heq, ← htext]

/-- **base58 is read back from both sides exactly where something is not zero.** Bytes come back if
there are none or some byte is not zero, and a text that decodes is written again if it is empty or
some character is not the digit 0. -/
theorem base58_roundTrips (bytes : List UInt8) (value : String) (decoded : List UInt8)
    (hdecode : base58Decode value = .ok decoded) :
    (base58Decode (base58Encode bytes) = .ok bytes ↔ bytes = [] ∨ ∃ byte ∈ bytes, byte ≠ 0) ∧
      (base58Encode decoded = value ↔ value = "" ∨ ∃ c ∈ value.toList, c ≠ '1') := by
  refine ⟨?_, ?_⟩
  · by_cases h : bytes = []
    · subst h
      exact ⟨fun _ => .inl rfl, fun _ => rfl⟩
    · rw [decode_encode_iff h]
      exact ⟨.inr, fun hor => hor.resolve_left h⟩
  · by_cases h : value.toList = []
    · have hvalue : value = "" := String.toList_inj.mp h
      subst hvalue
      cases hdecode
      exact ⟨fun _ => .inl rfl, fun _ => rfl⟩
    · have hvalue : value ≠ "" := by
        intro heq
        subst heq
        exact h rfl
      rw [encode_decode_iff h hdecode]
      exact ⟨.inr, fun hor => hor.resolve_left hvalue⟩

theorem base58_roundTrips_two :
    base58Decode (base58Encode [0, 1]) = .ok [0, 1] ∧ base58Encode [0, 1] = "12" := by
  have htext : "12".toList = ['1', '2'] := String.toList_ofList
  have hdigits : base58Digits "12" = List.replicate 1 0 ++ [1] := by
    rw [base58Digits, htext, List.map_cons, List.map_cons, base58Digit, base58Digit,
      base58Alphabet_eq]
    rfl
  have hdecode : base58Decode "12" = .ok [0, 1] := by
    have hmem : ∀ c ∈ "12".toList, c ∈ base58Alphabet := by
      rw [htext, base58Alphabet_eq]
      simp [base58Chars]
    rw [base58Decode_eq (by simp [htext]) hmem, hdigits,
      recode_replicate_append_cons (by omega) (by omega) 1 (by omega)]
    simp [value]
  have htrips := base58_roundTrips [0, 1] "12" [0, 1] hdecode
  exact ⟨htrips.1.mpr (.inr ⟨1, by decide, by decide⟩),
    htrips.2.mpr (.inr ⟨'2', by decide, by decide⟩)⟩

/-- One zero byte is written as two characters, and two characters are read as two bytes and more. -/
theorem not_base58_roundTrips :
    ¬ ((∀ bytes : List UInt8, base58Decode (base58Encode bytes) = .ok bytes) ∧
      ∀ (value : String) (bytes : List UInt8), base58Decode value = .ok bytes →
        base58Encode bytes = value) := by
  intro h
  have hzero := (decode_encode_iff (List.cons_ne_nil (0 : UInt8) [])).mp (h.1 [0])
  obtain ⟨byte, hbyte, hne⟩ := hzero
  exact hne (List.mem_singleton.mp hbyte)

/-- **The address of a transaction's account is read back as its 32 bytes, except for the system
program's**, which reads as 33. -/
theorem decode_solanaAddressFromBytes_iff {bytes : List UInt8} (hlen : bytes.length = 32) :
    base58Decode (solanaAddressFromBytes bytes) = .ok bytes ↔ ∃ byte ∈ bytes, byte ≠ 0 := by
  have hne : bytes ≠ [] := by
    intro h
    rw [h] at hlen
    cases hlen
  by_cases h : ∃ byte ∈ bytes, byte ≠ 0
  · have hall : bytes.all (· == 0) = false := by simpa using h
    rw [solanaAddressFromBytes, hall, if_neg (by decide), decode_encode_iff hne]
  · have hall : bytes.all (· == 0) = true := by simpa using h
    have htext : "11111111111111111111111111111111".toList = List.replicate 32 '1' :=
      String.toList_ofList
    have hmem : ∀ c ∈ "11111111111111111111111111111111".toList, c ∈ base58Alphabet := by
      rw [htext]
      intro c hc
      rw [List.eq_of_mem_replicate hc, ← base58Char_zero]
      exact base58Char_mem (by omega)
    have hdigits : base58Digits "11111111111111111111111111111111" = List.replicate 32 0 := by
      rw [base58Digits, htext, List.map_replicate, (base58Digit_eq_zero_iff ?_).mpr rfl]
      rw [← base58Char_zero]
      exact base58Char_mem (by omega)
    rw [solanaAddressFromBytes, hall, if_pos rfl, base58Decode_eq (by simp [htext]) hmem, hdigits,
      recode_replicate (by omega) (by omega)]
    constructor
    · intro heq
      have := congrArg List.length (Except.ok.inj heq)
      simp [hlen] at this
    · intro hex
      exact absurd hex h

end Split402

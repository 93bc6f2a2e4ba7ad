import Split402.Protocol.Schemas

/-! # The formats of literals

A literal is the string of its characters, and the format is a test of these. The lemmas read the
characters off the literal without decoding its bytes. -/

namespace Split402

variable {chars : List Char}

/-- The characters of base58. -/
def base58Chars : List Char :=
  ['1', '2', '3', '4', '5', '6', '7', '8', '9', 'A', 'B', 'C', 'D', 'E', 'F', 'G', 'H', 'J', 'K',
    'L', 'M', 'N', 'P', 'Q', 'R', 'S', 'T', 'U', 'V', 'W', 'X', 'Y', 'Z', 'a', 'b', 'c', 'd', 'e',
    'f', 'g', 'h', 'i', 'j', 'k', 'm', 'n', 'o', 'p', 'q', 'r', 's', 't', 'u', 'v', 'w', 'x', 'y',
    'z']

theorem base58Alphabet_eq : base58Alphabet = base58Chars := String.toList_ofList

theorem base58Regex_ofList
    (h : (32 ≤ chars.length && chars.length ≤ 88 && chars.all (· ∈ base58Chars)) = true) :
    base58Regex (String.ofList chars) = true := by
  rw [base58Regex, String.toList_ofList, base58Alphabet_eq]
  exact h

theorem base64UrlRegex_ofList (h : (!chars.isEmpty && chars.all isBase64UrlChar) = true) :
    base64UrlRegex (String.ofList chars) = true := by
  rw [base64UrlRegex, String.toList_ofList]
  exact h

theorem sha256Regex_ofList (h : (chars.length == 64 && chars.all isLowerHex) = true) :
    sha256Regex (String.ofList ('s' :: 'h' :: 'a' :: '2' :: '5' :: '6' :: ':' :: chars)) = true := by
  rw [sha256Regex, String.toList_ofList]
  exact h

theorem isSplit402Id_ofList {a b c : Char}
    (h : ([a, b, c].all (fun x => 'a' ≤ x && x ≤ 'z') && 32 ≤ chars.length &&
      chars.all (fun x => ('0' ≤ x && x ≤ '9') || ('a' ≤ x && x ≤ 'f'))) = true) :
    isSplit402Id (String.ofList (a :: b :: c :: '_' :: chars)) = true := by
  rw [isSplit402Id, String.toList_ofList]
  exact h

theorem rfc3339UtcSchema_ofList {zod : Zod} (hdatetime : zod.isDatetime (String.ofList chars) = true)
    (h : (chars.getLast? == some 'Z') = true) : rfc3339UtcSchema zod (String.ofList chars) = true := by
  rw [rfc3339UtcSchema, String.toList_ofList, hdatetime]
  exact h

theorem isBlank_ofList (h : chars.all isJsWhitespace = false) :
    isBlank (String.ofList chars) = false := by
  rw [isBlank, String.toList_ofList]
  exact h

theorem base64UrlDecode_ofList {bytes : List UInt8} (hchars : chars.all isBase64UrlChar = true)
    (h : bufferFromBase64
      ((padEnd chars (chars.length + (4 - chars.length % 4) % 4)).map toBase64Char) = bytes) :
    base64UrlDecode (String.ofList chars) = .ok bytes := by
  rw [base64UrlDecode, String.toList_ofList]
  dsimp only
  rw [hchars, h]
  rfl

end Split402

import Mathlib.Data.List.Basic

/-! # The host

The control plane reads the clock, parses and prints timestamps, compares strings in the
locale's order and draws random ids; its database parses timestamps and orders text by a
collation. What depends on the engine, its locale and the database server is a `Host`; the
clock reading and the random ids one call sees are its `CallEnv`. Every theorem is about an
arbitrary host. `isoHost` is the one the concrete runs use: it reads and prints the ISO
timestamps the control plane itself writes. -/

namespace Split402

/-- What the JavaScript engine and the database server supply. -/
structure Host where
  /-- `Date.parse`, in milliseconds; `none` is `NaN`. -/
  dateParse : String → Option Int
  /-- `new Date(ms).toISOString()`. -/
  toISOString : Int → String
  /-- `left.localeCompare(right)`, by its sign. -/
  localeCompare : String → String → Ordering
  /-- The database's reading of a `timestamptz`, in milliseconds; `none` is an error. -/
  parseTimestamptz : String → Option Int
  /-- The database's order of `text`. -/
  collate : String → String → Ordering

/-- What one call sees of the outside: `Date.now()`, the hex strings of the random bytes it
draws and the ids its outbox events get, in the order it draws them. -/
structure CallEnv where
  clock : Int
  randomHex : Nat → String
  eventId : Nat → String

/-! ## Strings -/

/-- The code points `String.prototype.trim` strips. -/
def isJsWhitespace (c : Char) : Bool :=
  let n := c.toNat
  (9 ≤ n && n ≤ 13) || n == 0x20 || n == 0xA0 || n == 0x1680 || (0x2000 ≤ n && n ≤ 0x200A) ||
    n == 0x2028 || n == 0x2029 || n == 0x202F || n == 0x205F || n == 0x3000 || n == 0xFEFF

/-- `value.trim().length === 0`. -/
def isBlank (value : String) : Bool := value.toList.all isJsWhitespace

/-- The UTF-16 code units of a character. -/
def utf16Units (c : Char) : List Nat :=
  let n := c.toNat
  if n < 0x10000 then [n]
  else [0xD800 + (n - 0x10000) / 0x400, 0xDC00 + (n - 0x10000) % 0x400]

/-- Lexicographic comparison of lists of code units. -/
def compareUnits : List Nat → List Nat → Ordering
  | [], [] => .eq
  | [], _ :: _ => .lt
  | _ :: _, [] => .gt
  | a :: as, b :: bs => (compare a b).then (compareUnits as bs)

/-- The order of `Array.prototype.sort` without a comparator: by UTF-16 code units. -/
def compareUtf16 (left right : String) : Ordering :=
  compareUnits (left.toList.flatMap utf16Units) (right.toList.flatMap utf16Units)

/-! ## An ISO host -/

namespace Iso

/-- The number that a list of decimal digits stands for. -/
def number (digits : List Char) : Option Int :=
  if digits.all Char.isDigit then some (Nat.ofDigitChars 10 digits 0) else none

/-- `n` in decimal, padded with zeros to `width` digits. -/
def pad (width : Nat) (n : Int) : List Char :=
  let digits := Nat.toDigits 10 n.toNat
  List.replicate (width - digits.length) '0' ++ digits

/-- The days from 1970-01-01 to a date of the proleptic Gregorian calendar. -/
def daysFromCivil (year month day : Int) : Int :=
  let y := if month ≤ 2 then year - 1 else year
  let era := y / 400
  let yoe := y - era * 400
  let doy := (153 * (if month > 2 then month - 3 else month + 9) + 2) / 5 + day - 1
  let doe := yoe * 365 + yoe / 4 - yoe / 100 + doy
  era * 146097 + doe - 719468

/-- The date (year, month, day) that lies a number of days after 1970-01-01. -/
def civilFromDays (days : Int) : Int × Int × Int :=
  let z := days + 719468
  let era := z / 146097
  let doe := z - era * 146097
  let yoe := (doe - doe / 1460 + doe / 36524 - doe / 146096) / 365
  let doy := doe - (365 * yoe + yoe / 4 - yoe / 100)
  let mp := (5 * doy + 2) / 153
  let day := doy - (153 * mp + 2) / 5 + 1
  let month := if mp < 10 then mp + 3 else mp - 9
  let year := yoe + era * 400
  (if month ≤ 2 then year + 1 else year, month, day)

/-- Read `YYYY-MM-DDTHH:MM:SS.mmmZ`. -/
def parse (value : String) : Option Int :=
  match value.toList with
  | [y1, y2, y3, y4, '-', m1, m2, '-', d1, d2, 'T', h1, h2, ':', n1, n2, ':', s1, s2, '.', t1, t2,
      t3, 'Z'] => do
      let year ← number [y1, y2, y3, y4]
      let month ← number [m1, m2]
      let day ← number [d1, d2]
      let hour ← number [h1, h2]
      let minute ← number [n1, n2]
      let second ← number [s1, s2]
      let milli ← number [t1, t2, t3]
      if 1 ≤ month && month ≤ 12 && 1 ≤ day && day ≤ 31 && hour < 24 && minute < 60 && second < 60
      then
        some ((((daysFromCivil year month day * 24 + hour) * 60 + minute) * 60 + second) * 1000
          + milli)
      else none
  | _ => none

/-- Print `YYYY-MM-DDTHH:MM:SS.mmmZ`. -/
def print (ms : Int) : String :=
  let (year, month, day) := civilFromDays (ms / 86400000)
  let rest := ms % 86400000
  String.ofList (pad 4 year ++ '-' :: pad 2 month ++ '-' :: pad 2 day ++
    'T' :: pad 2 (rest / 3600000) ++ ':' :: pad 2 (rest / 60000 % 60) ++
    ':' :: pad 2 (rest / 1000 % 60) ++ '.' :: pad 3 (rest % 1000) ++ ['Z'])

example : print 1767225600000 = "2026-01-01T00:00:00.000Z" := by decide

example : parse "2026-01-01T00:00:00.000Z" = some 1767225600000 := by decide

end Iso

/-- A host that reads and prints ISO timestamps and compares strings by code units. -/
def isoHost : Host := ⟨Iso.parse, Iso.print, compareUtf16, Iso.parse, compareUtf16⟩

end Split402

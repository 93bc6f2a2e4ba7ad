import Mathlib.Tactic.IntervalCases
import Split402.Base.Decimal
import Split402.Protocol.Canonical

/-! # The canonical form is a complete invariant

Two values have the same canonical bytes exactly when they are the same JSON, whatever the order of
their keys. The serializer is split in two: `canon` forgets what JSON forgets (the order of keys,
entries that are `undefined`, the sign of a zero) and keeps the rest as a tree, and `Canon.print`
writes the tree. That two values have one tree exactly when they are equal is about sorting; that
the tree can be read back from its text is about the tokens, and each level of the tree closes with
a symbol that none of its parts starts with. -/

namespace Split402

open Base Base.Printing Base.JsonString Base.Utf16

/-- What the canonical form keeps of a value. -/
inductive Canon
  | null
  | bool (b : Bool)
  | number (text : Text)
  | string (s : Text)
  | array (items : List Canon)
  | object (entries : List (Text × Canon))

namespace Canon

mutual

def print : Canon → Text
  | .null => ofString "null"
  | .bool b => if b then ofString "true" else ofString "false"
  | .number text => text
  | .string s => quote s
  | .array items => 0x5B :: (List.intercalate [0x2C] (printItems items) ++ [0x5D])
  | .object entries => 0x7B :: (List.intercalate [0x2C] (printEntries entries) ++ [0x7D])

def printItems : List Canon → List Text
  | [] => []
  | item :: rest => print item :: printItems rest

def printEntries : List (Text × Canon) → List Text
  | [] => []
  | (key, item) :: rest => (quote key ++ 0x3A :: print item) :: printEntries rest

end

def printEntry (entry : Text × Canon) : Text := quote entry.1 ++ 0x3A :: print entry.2

theorem printItems_eq (items : List Canon) : printItems items = items.map print := by
  induction items with
  | nil => rfl
  | cons item rest ih => rw [printItems, ih, List.map_cons]

theorem printEntries_eq (entries : List (Text × Canon)) :
    printEntries entries = entries.map printEntry := by
  induction entries with
  | nil => rfl
  | cons entry rest ih => rw [printEntries, ih, List.map_cons, printEntry]

/-- Induction on trees: a property of all parts is one of the whole. -/
theorem induct {P : Canon → Prop} (null : P .null) (bool : ∀ b, P (.bool b))
    (number : ∀ text, P (.number text)) (string : ∀ s, P (.string s))
    (array : ∀ items, (∀ item ∈ items, P item) → P (.array items))
    (object : ∀ entries, (∀ entry ∈ entries, P entry.2) → P (.object entries)) (c : Canon) :
    P c := by
  refine @Canon.rec P (fun items => ∀ item ∈ items, P item)
    (fun entries => ∀ entry ∈ entries, P entry.2) (fun entry => P entry.2) null bool number string
    array object ?_ ?_ ?_ ?_ (fun _ _ h => h) c
  · exact fun item h => absurd h List.not_mem_nil
  · intro head tail hhead htail item hitem
    rcases List.mem_cons.mp hitem with rfl | hitem
    · exact hhead
    · exact htail item hitem
  · exact fun entry h => absurd h List.not_mem_nil
  · intro head tail hhead htail entry hentry
    rcases List.mem_cons.mp hentry with rfl | hentry
    · exact hhead
    · exact htail entry hentry

/-! ## Tokens -/

/-- The code units of a printed number: digits, signs, the point, and `e`. -/
def isNumberUnit (u : UInt16) : Bool :=
  (0x30 ≤ u && u ≤ 0x39) || u == 0x2B || u == 0x2D || u == 0x2E || u == 0x65

def isNumberText (text : Text) : Bool := !text.isEmpty && text.all isNumberUnit

/-- A number ends at a comma or a closing bracket. -/
def isDelimiter (u : UInt16) : Bool := u == 0x2C || u == 0x5D || u == 0x7D

theorem isDelimiter_of_isNumberUnit {u : UInt16} (h : isNumberUnit u = true) :
    isDelimiter u = false := by
  rw [Bool.eq_false_iff]
  intro hd
  simp only [isDelimiter, Bool.or_eq_true, beq_iff_eq] at hd
  rcases hd with (rfl | rfl) | rfl
  · cases h
  · cases h
  · cases h

/-- Every number of the tree is printed as a number. -/
inductive Proper : Canon → Prop
  | null : Proper .null
  | bool (b : Bool) : Proper (.bool b)
  | number {text : Text} : isNumberText text = true → Proper (.number text)
  | string (s : Text) : Proper (.string s)
  | array {items : List Canon} : (∀ item ∈ items, Proper item) → Proper (.array items)
  | object {entries : List (Text × Canon)} : (∀ entry ∈ entries, Proper entry.2) →
      Proper (.object entries)

/-- The kinds of tokens a value starts with. -/
inductive Kind
  | null | true | false | number | string | array | object
  deriving DecidableEq

/-- The kind of value that starts with a code unit. -/
def kindOf (u : UInt16) : Option Kind :=
  if u = 0x6E then some .null
  else if u = 0x74 then some .true
  else if u = 0x66 then some .false
  else if u = 0x22 then some .string
  else if u = 0x5B then some .array
  else if u = 0x7B then some .object
  else if isNumberUnit u then some .number
  else none

def kind : Canon → Kind
  | .null => .null
  | .bool b => if b then .true else .false
  | .number _ => .number
  | .string _ => .string
  | .array _ => .array
  | .object _ => .object

theorem kindOf_of_isNumberUnit {u : UInt16} (h : isNumberUnit u = true) :
    kindOf u = some .number := by
  have hne : ∀ v, isNumberUnit v = false → u ≠ v := by
    rintro v hv rfl
    rw [h] at hv
    cases hv
  rw [kindOf, if_neg (hne 0x6E rfl), if_neg (hne 0x74 rfl), if_neg (hne 0x66 rfl),
    if_neg (hne 0x22 rfl), if_neg (hne 0x5B rfl), if_neg (hne 0x7B rfl), if_pos h]

/-- The first symbol tells the kind. -/
theorem exists_print {c : Canon} (hc : c.Proper) :
    ∃ u t, c.print = u :: t ∧ kindOf u = some c.kind := by
  cases hc with
  | null => exact ⟨_, _, rfl, rfl⟩
  | bool b => cases b <;> exact ⟨_, _, rfl, rfl⟩
  | number h =>
      rename_i text
      rw [isNumberText, Bool.and_eq_true, List.all_eq_true] at h
      cases text with
      | nil => cases h.1
      | cons u t => exact ⟨u, t, rfl, kindOf_of_isNumberUnit (h.2 u List.mem_cons_self)⟩
  | string s => exact ⟨_, _, rfl, rfl⟩
  | array _ => exact ⟨_, _, rfl, rfl⟩
  | object _ => exact ⟨_, _, rfl, rfl⟩

theorem kind_eq_of_print {x y : Canon} {r s : Text} (hx : x.Proper) (hy : y.Proper)
    (h : x.print ++ r = y.print ++ s) : x.kind = y.kind := by
  obtain ⟨u, t, hu, hku⟩ := exists_print hx
  obtain ⟨v, w, hv, hkv⟩ := exists_print hy
  rw [hu, hv, List.cons_append, List.cons_append, List.cons.injEq] at h
  rw [h.1, hkv, Option.some.injEq] at hku
  exact hku.symm

/-- No value starts with a closing bracket. -/
theorem exists_print_ne {c : Canon} (hc : c.Proper) :
    ∃ u t, c.print = u :: t ∧ u ≠ 0x5D := by
  obtain ⟨u, t, hu, hk⟩ := exists_print hc
  refine ⟨u, t, hu, ?_⟩
  rintro rfl
  cases hk

/-! ## Reading a tree back -/

theorem readable_entry {entry : Text × Canon}
    (h : Readable isDelimiter Proper print entry.2) :
    Readable isDelimiter (fun entry => Proper entry.2) printEntry entry := by
  rintro ⟨key, item⟩ r s hproper hr hs heq
  rw [printEntry, printEntry, List.append_assoc, List.append_assoc] at heq
  obtain ⟨hkey, heq⟩ := readable_quote (fun _ => true) (fun _ => True) entry.1 key _ _ trivial
    (fun _ _ => rfl) (fun _ _ => rfl) heq
  rw [List.cons_append, List.cons_append, List.cons.injEq] at heq
  obtain ⟨hitem, hrs⟩ := h item r s hproper hr hs heq.2
  exact ⟨Prod.ext hkey hitem, hrs⟩

/-- **A tree can be read back from its text.** -/
theorem readable_print (c : Canon) (hc : c.Proper) : Readable isDelimiter Proper print c := by
  induction c using induct with
  | null =>
      intro y r s hy hr hs h
      have hkind := kind_eq_of_print hc hy h
      cases y with
      | null => exact ⟨rfl, List.append_cancel_left h⟩
      | bool b => cases b <;> cases hkind
      | number _ => cases hkind
      | string _ => cases hkind
      | array _ => cases hkind
      | object _ => cases hkind
  | bool b =>
      intro y r s hy hr hs h
      have hkind := kind_eq_of_print hc hy h
      cases y with
      | null => cases b <;> cases hkind
      | bool b' =>
          have hb : b = b' := by
            cases b <;> cases b' <;> first | rfl | cases hkind
          subst hb
          exact ⟨rfl, List.append_cancel_left h⟩
      | number _ => cases b <;> cases hkind
      | string _ => cases b <;> cases hkind
      | array _ => cases b <;> cases hkind
      | object _ => cases b <;> cases hkind
  | number text =>
      intro y r s hy hr hs h
      have hkind := kind_eq_of_print hc hy h
      cases y with
      | null => cases hkind
      | bool b => cases b <;> cases hkind
      | number text' =>
          have hunits : ∀ {text : Text}, (Canon.number text).Proper →
              ∀ u ∈ text, isDelimiter u = false := by
            intro text ht u hu
            cases ht with
            | number ht =>
                rw [isNumberText, Bool.and_eq_true, List.all_eq_true] at ht
                exact isDelimiter_of_isNumberUnit (ht.2 u hu)
          obtain ⟨htext, hrs⟩ := eq_of_append_follows (hunits hc) (hunits hy) hr hs h
          exact ⟨by rw [htext], hrs⟩
      | string _ => cases hkind
      | array _ => cases hkind
      | object _ => cases hkind
  | string t =>
      intro y r s hy hr hs h
      have hkind := kind_eq_of_print hc hy h
      cases y with
      | null => cases hkind
      | bool b => cases b <;> cases hkind
      | number _ => cases hkind
      | string t' =>
          obtain ⟨htext, hrs⟩ := readable_quote isDelimiter (fun _ => True) t t' r s trivial hr hs h
          exact ⟨by rw [htext], hrs⟩
      | array _ => cases hkind
      | object _ => cases hkind
  | array items ih =>
      intro y r s hy hr hs h
      have hkind := kind_eq_of_print hc hy h
      cases y with
      | null => cases hkind
      | bool b => cases b <;> cases hkind
      | number _ => cases hkind
      | string _ => cases hkind
      | array items' =>
          cases hc with
          | array hitems =>
              cases hy with
              | array hitems' =>
                  rw [print, print, List.cons_append, List.cons_append, List.cons.injEq,
                    List.append_assoc, List.append_assoc, printItems_eq, printItems_eq] at h
                  obtain ⟨hlists, hrs⟩ := @readable_list _ _ isDelimiter Proper print 0x2C 0x5D rfl
                    rfl (by decide) (fun c hc => exists_print_ne hc) _
                    (fun item hitem => ⟨hitems item hitem, ih item hitem (hitems item hitem)⟩) _
                    hitems' _ _ h.2
                  exact ⟨by rw [hlists], hrs⟩
      | object _ => cases hkind
  | object entries ih =>
      intro y r s hy hr hs h
      have hkind := kind_eq_of_print hc hy h
      cases y with
      | null => cases hkind
      | bool b => cases b <;> cases hkind
      | number _ => cases hkind
      | string _ => cases hkind
      | array _ => cases hkind
      | object entries' =>
          cases hc with
          | object hentries =>
              cases hy with
              | object hentries' =>
                  rw [print, print, List.cons_append, List.cons_append, List.cons.injEq,
                    List.append_assoc, List.append_assoc, printEntries_eq, printEntries_eq] at h
                  obtain ⟨hlists, hrs⟩ := @readable_list _ _ isDelimiter
                    (fun entry : Text × Canon => Proper entry.2) printEntry 0x2C 0x7D rfl rfl
                    (by decide) (fun entry _ => ⟨_, _, rfl, by decide⟩) _
                    (fun entry hentry => ⟨hentries entry hentry,
                      readable_entry (ih entry hentry (hentries entry hentry))⟩) _
                    hentries' _ _ h.2
                  exact ⟨by rw [hlists], hrs⟩

/-! ## Texts of trees are well formed -/

theorem isWellFormed_intercalate {sep : Text} (hsep : isWellFormed sep = true) {texts : List Text}
    (h : ∀ text ∈ texts, isWellFormed text = true) :
    isWellFormed (List.intercalate sep texts) = true := by
  induction texts with
  | nil => rfl
  | cons text texts ih =>
      have hrest := ih fun t ht => h t (List.mem_cons_of_mem text ht)
      have htext := h text List.mem_cons_self
      cases texts with
      | nil => simpa [List.intercalate] using htext
      | cons next texts =>
          rw [List.intercalate, List.intersperse_cons_cons, List.flatten_cons, List.flatten_cons]
          exact isWellFormed_append htext (isWellFormed_append hsep hrest)

theorem isSurrogate_of_isNumberUnit {u : UInt16} (h : isNumberUnit u = true) :
    isSurrogate u = false := by
  rw [Bool.eq_false_iff]
  intro hs
  rw [isSurrogate_iff] at hs
  simp only [isNumberUnit, Bool.or_eq_true, Bool.and_eq_true, beq_iff_eq, decide_eq_true_eq,
    UInt16.le_iff_toNat_le] at h
  rcases h with (((⟨_, h⟩ | rfl) | rfl) | rfl) | rfl
  · have hle : u.toNat ≤ 0x39 := h
    omega
  · exact absurd hs (by decide)
  · exact absurd hs (by decide)
  · exact absurd hs (by decide)
  · exact absurd hs (by decide)

theorem isWellFormed_wrap {u v : UInt16} {t : Text} (hu : isSurrogate u = false)
    (hv : isSurrogate v = false) (ht : isWellFormed t = true) :
    isWellFormed (u :: (t ++ [v])) = true := by
  have hsingle : ∀ {w : UInt16}, isSurrogate w = false → isWellFormed [w] = true := by
    intro w hw
    rw [isWellFormed, hw]
    rfl
  exact isWellFormed_append (hsingle hu) (isWellFormed_append ht (hsingle hv))

theorem isWellFormed_print {c : Canon} (hc : c.Proper) : isWellFormed c.print = true := by
  induction c using induct with
  | null => rfl
  | bool b => cases b <;> rfl
  | number text =>
      cases hc with
      | number h =>
          rw [isNumberText, Bool.and_eq_true, List.all_eq_true] at h
          exact isWellFormed_of_forall fun u hu => isSurrogate_of_isNumberUnit (h.2 u hu)
  | string s => exact isWellFormed_quote s
  | array items ih =>
      cases hc with
      | array hitems =>
          rw [print, printItems_eq]
          refine isWellFormed_wrap rfl rfl (isWellFormed_intercalate rfl ?_)
          intro text htext
          obtain ⟨item, hitem, rfl⟩ := List.mem_map.mp htext
          exact ih item hitem (hitems item hitem)
  | object entries ih =>
      cases hc with
      | object hentries =>
          rw [print, printEntries_eq]
          refine isWellFormed_wrap rfl rfl (isWellFormed_intercalate rfl ?_)
          intro text htext
          obtain ⟨entry, hentry, rfl⟩ := List.mem_map.mp htext
          have hitem := ih entry hentry (hentries entry hentry)
          have hcolon : isWellFormed [0x3A] = true := rfl
          exact isWellFormed_append (isWellFormed_quote entry.1)
            (isWellFormed_append hcolon hitem)

/-- Trees with one text are one. -/
theorem print_inj {x y : Canon} (hx : x.Proper) (hy : y.Proper) (h : x.print = y.print) : x = y :=
  (readable_print x hx).inj hy h

end Canon

/-! ## JSON values -/

variable {ν : Type}

/-- What ECMAScript says about printing finite numbers: numbers that are not `-0` are told apart,
by their digits, signs, point and exponent. -/
structure JsNumbers.Standard (numbers : JsNumbers ν) : Prop where
  finite_zero : numbers.isFinite numbers.zero = true
  positive_zero : numbers.isNegativeZero numbers.zero = false
  stringify_zero : numbers.stringify numbers.zero = ofString "0"
  injective : ∀ m n, numbers.isFinite m = true → numbers.isFinite n = true →
    numbers.isNegativeZero m = false → numbers.isNegativeZero n = false →
    numbers.stringify m = numbers.stringify n → m = n
  numberText : ∀ n, numbers.isFinite n = true → Canon.isNumberText (numbers.stringify n) = true

/-- The number, with `-0` read as `0`. -/
def JsNumbers.unsigned (numbers : JsNumbers ν) (n : ν) : ν :=
  if numbers.isNegativeZero n then numbers.zero else n

/-- The entries of an object that are there. -/
def definedFields (fields : List (Text × JsValue ν)) : List (Text × JsValue ν) :=
  fields.filter (fun field => match field.2 with
    | .undefined => false
    | _ => true)

/-- A JSON value: null, booleans, finite numbers, strings, arrays of such and plain objects whose
entries are such or `undefined`. -/
inductive IsJson (numbers : JsNumbers ν) : JsValue ν → Prop
  | null : IsJson numbers .null
  | bool (b : Bool) : IsJson numbers (.bool b)
  | number {n : ν} : numbers.isFinite n = true → IsJson numbers (.number n)
  | string (s : Text) : IsJson numbers (.string s)
  | array {items : List (JsValue ν)} : (∀ item ∈ items, IsJson numbers item) →
      IsJson numbers (.array items)
  | object {fields : List (Text × JsValue ν)} : (fields.map Prod.fst).Nodup →
      (∀ field ∈ fields, field.2 ≠ .undefined → IsJson numbers field.2) →
      IsJson numbers (.object true fields)

/-- Equality as JSON values: `-0` is `0`, and an object is what it has under each key. -/
inductive JsonEq (numbers : JsNumbers ν) : JsValue ν → JsValue ν → Prop
  | null : JsonEq numbers .null .null
  | bool (b : Bool) : JsonEq numbers (.bool b) (.bool b)
  | number {m n : ν} : numbers.unsigned m = numbers.unsigned n →
      JsonEq numbers (.number m) (.number n)
  | string (s : Text) : JsonEq numbers (.string s) (.string s)
  | array {xs ys : List (JsValue ν)} : List.Forall₂ (JsonEq numbers) xs ys →
      JsonEq numbers (.array xs) (.array ys)
  | object {p q : Bool} {fs gs : List (Text × JsValue ν)} :
      (∀ key, key ∈ (definedFields fs).map Prod.fst ↔ key ∈ (definedFields gs).map Prod.fst) →
      (∀ key v w, (key, v) ∈ definedFields fs → (key, w) ∈ definedFields gs →
        JsonEq numbers v w) →
      JsonEq numbers (.object p fs) (.object q gs)

/-- Induction on values: a property of all parts is one of the whole. -/
theorem JsValue.induct {P : JsValue ν → Prop} (undefined : P .undefined) (null : P .null)
    (bool : ∀ b, P (.bool b)) (number : ∀ n, P (.number n)) (string : ∀ s, P (.string s))
    (bigint : ∀ n, P (.bigint n)) (array : ∀ items, (∀ item ∈ items, P item) → P (.array items))
    (object : ∀ plain fields, (∀ field ∈ fields, P field.2) → P (.object plain fields))
    (other : ∀ typeName, P (.other typeName)) (v : JsValue ν) : P v := by
  refine @JsValue.rec ν P (fun items => ∀ item ∈ items, P item)
    (fun fields => ∀ field ∈ fields, P field.2) (fun field => P field.2) undefined null bool number
    string bigint array object other ?_ ?_ ?_ ?_ (fun _ _ h => h) v
  · exact fun item h => absurd h List.not_mem_nil
  · intro head tail hhead htail item hitem
    rcases List.mem_cons.mp hitem with rfl | hitem
    · exact hhead
    · exact htail item hitem
  · exact fun field h => absurd h List.not_mem_nil
  · intro head tail hhead htail field hfield
    rcases List.mem_cons.mp hfield with rfl | hfield
    · exact hhead
    · exact htail field hfield

variable (numbers : JsNumbers ν)

mutual

/-- The tree of a value; what is not JSON has none. -/
def JsValue.canon : JsValue ν → Canon
  | .null => .null
  | .bool b => .bool b
  | .number n => .number (numbers.stringify (numbers.unsigned n))
  | .string s => .string s
  | .array items => .array (canonItems items)
  | .object _ fields => .object (sortBy compareKeys (canonFields fields))
  | .undefined => .null
  | .bigint _ => .null
  | .other _ => .null

def canonItems : List (JsValue ν) → List Canon
  | [] => []
  | item :: rest => JsValue.canon item :: canonItems rest

def canonFields : List (Text × JsValue ν) → List (Text × Canon)
  | [] => []
  | (key, item) :: rest =>
      match item with
      | .undefined => canonFields rest
      | item => (key, JsValue.canon item) :: canonFields rest

end

theorem canonItems_eq (items : List (JsValue ν)) :
    canonItems numbers items = items.map (JsValue.canon numbers) := by
  induction items with
  | nil => rfl
  | cons item rest ih => rw [canonItems, ih, List.map_cons]

theorem canonFields_eq (fields : List (Text × JsValue ν)) : canonFields numbers fields =
    (definedFields fields).map (fun field => (field.1, field.2.canon numbers)) := by
  induction fields with
  | nil => rfl
  | cons field rest ih =>
      obtain ⟨key, item⟩ := field
      cases item <;> simp_all [canonFields, definedFields]

/-! ## The serializer prints the tree -/

theorem mem_definedFields {fields : List (Text × JsValue ν)} {field : Text × JsValue ν} :
    field ∈ definedFields fields ↔ field ∈ fields ∧ field.2 ≠ .undefined := by
  rw [definedFields, List.mem_filter]
  refine and_congr_right fun _ => ?_
  cases field.2 <;> simp

theorem serializeItems_eq (items : List (JsValue ν)) :
    serializeItems numbers items = items.map (serializeJson numbers) := by
  induction items with
  | nil => rfl
  | cons item rest ih => rw [serializeItems, ih, List.map_cons]

theorem serializeFields_eq (fields : List (Text × JsValue ν)) : serializeFields numbers fields =
    (definedFields fields).map (fun field => (field.1, serializeJson numbers field.2)) := by
  induction fields with
  | nil => rfl
  | cons field rest ih =>
      obtain ⟨key, item⟩ := field
      cases item <;> simp_all [serializeFields, definedFields]

/-- Computations that all return, one after the other. -/
theorem mapM_ok {ε α β : Type} {f : α → Except ε β} {g : α → β} {xs : List α}
    (h : ∀ x ∈ xs, f x = .ok (g x)) : xs.mapM f = .ok (xs.map g) := by
  rw [mapM_eq_ok_iff, List.forall₂_map_right_iff, List.forall₂_same]
  exact h

variable {numbers}

theorem serializeNumber_eq (hstd : numbers.Standard) {n : ν} (h : numbers.isFinite n = true) :
    serializeNumber numbers n = .ok (numbers.stringify (numbers.unsigned n)) := by
  rw [serializeNumber, JsNumbers.unsigned, h]
  cases numbers.isNegativeZero n with
  | true =>
      show pure (ofString "0") = Except.ok (numbers.stringify numbers.zero)
      rw [hstd.stringify_zero]
      rfl
  | false => rfl

/-- **What is JSON is serialized, as its tree is printed.** -/
theorem serializeJson_eq (hstd : numbers.Standard) {v : JsValue ν} (h : IsJson numbers v) :
    serializeJson numbers v = .ok (v.canon numbers).print := by
  induction v using JsValue.induct with
  | undefined => cases h
  | null => rfl
  | bool b => cases b <;> rfl
  | number n =>
      cases h with
      | number hn =>
          rw [serializeJson, JsValue.canon, Canon.print]
          exact serializeNumber_eq hstd hn
  | string s => rfl
  | bigint n => cases h
  | array items ih =>
      cases h with
      | array hitems =>
          have htexts : (serializeItems numbers items).mapM id =
              .ok (items.map (fun item => (item.canon numbers).print)) := by
            rw [serializeItems_eq, List.mapM_map]
            exact mapM_ok fun item hitem => ih item hitem (hitems item hitem)
          rw [serializeJson, htexts, JsValue.canon, Canon.print, canonItems_eq,
            Canon.printItems_eq, List.map_map]
          rfl
  | object plain fields ih =>
      cases h with
      | object hnodup hfields =>
          have hsort : sortBy compareKeys (serializeFields numbers fields) =
              (sortBy compareKeys (definedFields fields)).map
                (fun field => (field.1, serializeJson numbers field.2)) := by
            rw [serializeFields_eq]
            exact @sortBy_map _ compareKeys _ compareKeys
              (fun field => (field.1, serializeJson numbers field.2)) (fun _ _ => rfl) _
          have hcanon : sortBy compareKeys (canonFields numbers fields) =
              (sortBy compareKeys (definedFields fields)).map
                (fun field => (field.1, field.2.canon numbers)) := by
            rw [canonFields_eq]
            exact @sortBy_map _ compareKeys _ compareKeys
              (fun field : Text × JsValue ν => (field.1, field.2.canon numbers)) (fun _ _ => rfl) _
          have htexts : (sortBy compareKeys (serializeFields numbers fields)).mapM
              (fun entry : Text × Except String Text => (do
                let text ← entry.2
                pure (quote entry.1 ++ 0x3A :: text) : Except String Text)) =
              .ok ((sortBy compareKeys (definedFields fields)).map
                (fun field => Canon.printEntry (field.1, field.2.canon numbers))) := by
            rw [hsort, List.mapM_map]
            refine mapM_ok fun field hfield => ?_
            obtain ⟨hmem, hdefined⟩ := mem_definedFields.mp ((mem_sortBy _).mp hfield)
            rw [Function.comp_apply, ih field hmem (hfields field hmem hdefined)]
            rfl
          rw [serializeJson, htexts, JsValue.canon, Canon.print, Canon.printEntries_eq, hcanon,
            List.map_map]
          rfl
  | other typeName => cases h

theorem proper_canon (hstd : numbers.Standard) {v : JsValue ν} (h : IsJson numbers v) :
    (v.canon numbers).Proper := by
  induction v using JsValue.induct with
  | undefined => cases h
  | null => exact .null
  | bool b => exact .bool b
  | number n =>
      cases h with
      | number hn =>
          refine .number (hstd.numberText _ ?_)
          rw [JsNumbers.unsigned]
          split
          · exact hstd.finite_zero
          · exact hn
  | string s => exact .string s
  | bigint n => cases h
  | array items ih =>
      cases h with
      | array hitems =>
          refine .array ?_
          rw [canonItems_eq]
          intro item hitem
          obtain ⟨v, hv, rfl⟩ := List.mem_map.mp hitem
          exact ih v hv (hitems v hv)
  | object plain fields ih =>
      cases h with
      | object hnodup hfields =>
          refine .object ?_
          intro entry hentry
          rw [mem_sortBy, canonFields_eq] at hentry
          obtain ⟨field, hfield, rfl⟩ := List.mem_map.mp hentry
          obtain ⟨hmem, hdefined⟩ := mem_definedFields.mp hfield
          exact ih field hmem (hfields field hmem hdefined)
  | other typeName => cases h

/-! ## Equal values have one tree -/

/-- Mapped lists are equal when their elements are related one by one. -/
theorem map_eq_map_iff_forall₂ {α β : Type} {f : α → β} {R : α → α → Prop} {xs ys : List α}
    (h : ∀ x ∈ xs, ∀ y ∈ ys, (f x = f y ↔ R x y)) : xs.map f = ys.map f ↔ List.Forall₂ R xs ys := by
  induction xs generalizing ys with
  | nil => cases ys <;> simp
  | cons x xs ih =>
      cases ys with
      | nil => simp
      | cons y ys =>
          rw [List.map_cons, List.map_cons, List.cons.injEq, List.forall₂_cons,
            h x List.mem_cons_self y List.mem_cons_self,
            ih fun a ha b hb => h a (List.mem_cons_of_mem x ha) b (List.mem_cons_of_mem y hb)]

theorem nodup_definedFields {fields : List (Text × JsValue ν)}
    (h : (fields.map Prod.fst).Nodup) : ((definedFields fields).map Prod.fst).Nodup :=
  h.sublist (List.filter_sublist.map _)

theorem keys_canonFields (fields : List (Text × JsValue ν)) :
    (canonFields numbers fields).map Prod.fst = (definedFields fields).map Prod.fst := by
  rw [canonFields_eq, List.map_map]
  rfl

theorem unsigned_eq_iff (hstd : numbers.Standard) {m n : ν} (hm : numbers.isFinite m = true)
    (hn : numbers.isFinite n = true) :
    numbers.stringify (numbers.unsigned m) = numbers.stringify (numbers.unsigned n) ↔
      numbers.unsigned m = numbers.unsigned n := by
  have hunsigned : ∀ k, numbers.isFinite k = true →
      numbers.isFinite (numbers.unsigned k) = true ∧
        numbers.isNegativeZero (numbers.unsigned k) = false := by
    intro k hk
    rw [JsNumbers.unsigned]
    split
    · exact ⟨hstd.finite_zero, hstd.positive_zero⟩
    · rename_i hneg
      exact ⟨hk, by simpa using hneg⟩
  constructor
  · intro h
    exact hstd.injective _ _ (hunsigned m hm).1 (hunsigned n hn).1 (hunsigned m hm).2
      (hunsigned n hn).2 h
  · intro h
    rw [h]

/-- Objects have one tree exactly when they have the same keys and, under each, values with one
tree. -/
theorem canonFields_eq_iff {fs gs : List (Text × JsValue ν)} (hfs : (fs.map Prod.fst).Nodup)
    (hgs : (gs.map Prod.fst).Nodup) :
    sortBy compareKeys (canonFields numbers fs) = sortBy compareKeys (canonFields numbers gs) ↔
      (∀ key, key ∈ (definedFields fs).map Prod.fst ↔ key ∈ (definedFields gs).map Prod.fst) ∧
      ∀ key v w, (key, v) ∈ definedFields fs → (key, w) ∈ definedFields gs →
        v.canon numbers = w.canon numbers := by
  have hkfs := @keys_canonFields _ numbers fs
  have hkgs := @keys_canonFields _ numbers gs
  have hnodup : ∀ {hs : List (Text × JsValue ν)}, (hs.map Prod.fst).Nodup →
      ((canonFields numbers hs).map Prod.fst).Nodup := by
    intro hs h
    rw [keys_canonFields]
    exact nodup_definedFields h
  refine (sortBy_key_eq_iff (Prod.fst : Text × Canon → Text) (hnodup hfs) (hnodup hgs)).trans ?_
  have hmem : ∀ (hs : List (Text × JsValue ν)) key c, (key, c) ∈ canonFields numbers hs ↔
      ∃ v, (key, v) ∈ definedFields hs ∧ v.canon numbers = c := by
    intro hs key c
    rw [canonFields_eq]
    simp [Prod.ext_iff]
  constructor
  · intro h
    refine ⟨?_, ?_⟩
    · intro key
      rw [← hkfs, ← hkgs]
      simp only [List.mem_map]
      constructor
      · rintro ⟨e, he, rfl⟩
        exact ⟨e, (h e).mp he, rfl⟩
      · rintro ⟨e, he, rfl⟩
        exact ⟨e, (h e).mpr he, rfl⟩
    · intro key v w hv hw
      obtain ⟨w', hw', hcanon⟩ := (hmem gs key _).mp ((h _).mp ((hmem fs key _).mpr ⟨v, hv, rfl⟩))
      -- one value under one key
      have hsame := List.inj_on_of_nodup_map (nodup_definedFields hgs) hw hw' rfl
      rw [Prod.mk.injEq] at hsame
      rw [hsame.2, hcanon]
  · rintro ⟨hkeys, hvalues⟩ ⟨key, c⟩
    rw [hmem, hmem]
    constructor
    · rintro ⟨v, hv, rfl⟩
      obtain ⟨⟨key', w⟩, hw, rfl⟩ := List.mem_map.mp ((hkeys key).mp (List.mem_map_of_mem hv))
      exact ⟨w, hw, (hvalues _ v w hv hw).symm⟩
    · rintro ⟨w, hw, rfl⟩
      obtain ⟨⟨key', v⟩, hv, rfl⟩ := List.mem_map.mp ((hkeys key).mpr (List.mem_map_of_mem hw))
      exact ⟨v, hv, hvalues _ v w hv hw⟩

/-- **Values have one tree exactly when they are equal as JSON.** -/
theorem canon_eq_iff (hstd : numbers.Standard) {a b : JsValue ν} (ha : IsJson numbers a)
    (hb : IsJson numbers b) : a.canon numbers = b.canon numbers ↔ JsonEq numbers a b := by
  induction a using JsValue.induct generalizing b with
  | undefined => cases ha
  | null =>
      cases hb with
      | null => exact iff_of_true rfl .null
      | _ => exact iff_of_false (by simp [JsValue.canon]) (by rintro ⟨⟩)
  | bool x =>
      cases hb with
      | bool y =>
          rw [JsValue.canon, JsValue.canon, Canon.bool.injEq]
          constructor
          · rintro rfl
            exact .bool x
          · rintro ⟨⟩
            rfl
      | _ => exact iff_of_false (by simp [JsValue.canon]) (by rintro ⟨⟩)
  | number m =>
      cases hb with
      | number hn =>
          cases ha with
          | number hm =>
              rw [JsValue.canon, JsValue.canon, Canon.number.injEq, unsigned_eq_iff hstd hm hn]
              constructor
              · exact .number
              · intro h
                cases h with
                | number h => exact h
      | _ => exact iff_of_false (by simp [JsValue.canon]) (by rintro ⟨⟩)
  | string s =>
      cases hb with
      | string t =>
          rw [JsValue.canon, JsValue.canon, Canon.string.injEq]
          constructor
          · rintro rfl
            exact .string s
          · rintro ⟨⟩
            rfl
      | _ => exact iff_of_false (by simp [JsValue.canon]) (by rintro ⟨⟩)
  | bigint n => cases ha
  | array xs ih =>
      cases hb with
      | array hys =>
          cases ha with
          | array hxs =>
              rw [JsValue.canon, JsValue.canon, Canon.array.injEq, canonItems_eq, canonItems_eq,
                map_eq_map_iff_forall₂ fun x hx y hy => ih x hx (hxs x hx) (hys y hy)]
              constructor
              · exact .array
              · intro h
                cases h with
                | array h => exact h
      | _ => exact iff_of_false (by simp [JsValue.canon]) (by rintro ⟨⟩)
  | object plain fs ih =>
      cases hb with
      | @object gs hgs hgsJson =>
          cases ha with
          | object hfs hfsJson =>
              rw [JsValue.canon, JsValue.canon, Canon.object.injEq, canonFields_eq_iff hfs hgs]
              -- under each key, the induction hypothesis
              have hvalue : ∀ key v w, (key, v) ∈ definedFields fs → (key, w) ∈ definedFields gs →
                  (v.canon numbers = w.canon numbers ↔ JsonEq numbers v w) := by
                intro key v w hv hw
                obtain ⟨hvmem, hvdef⟩ := mem_definedFields.mp hv
                obtain ⟨hwmem, hwdef⟩ := mem_definedFields.mp hw
                exact ih _ hvmem (hfsJson _ hvmem hvdef) (hgsJson _ hwmem hwdef)
              constructor
              · rintro ⟨hkeys, hvalues⟩
                exact .object hkeys fun key v w hv hw =>
                  (hvalue key v w hv hw).mp (hvalues key v w hv hw)
              · intro h
                cases h with
                | object hkeys hvalues =>
                    exact ⟨hkeys, fun key v w hv hw =>
                      (hvalue key v w hv hw).mpr (hvalues key v w hv hw)⟩
      | _ => exact iff_of_false (by simp [JsValue.canon]) (by rintro ⟨⟩)
  | other typeName => cases ha

/-! ## Bytes -/

theorem canonicalizeToBytes_eq (hstd : numbers.Standard) {v : JsValue ν} (h : IsJson numbers v) :
    canonicalizeToBytes numbers v = .ok (utf8Bytes (v.canon numbers).print) := by
  rw [canonicalizeToBytes, canonicalizeProtocolObject, serializeJson_eq hstd h]
  rfl

theorem buildDomainSeparatedSigningBytes_eq (hstd : numbers.Standard) {v : JsValue ν}
    (h : IsJson numbers v) (domain : Text) : buildDomainSeparatedSigningBytes numbers domain v =
      .ok (utf8Bytes (domain ++ 0x0A :: (v.canon numbers).print)) := by
  rw [buildDomainSeparatedSigningBytes, canonicalizeProtocolObject, serializeJson_eq hstd h]
  rfl

theorem canonicalizeToBytes_eq_iff (hstd : numbers.Standard) {a b : JsValue ν}
    (ha : IsJson numbers a) (hb : IsJson numbers b) :
    canonicalizeToBytes numbers a = canonicalizeToBytes numbers b ↔ JsonEq numbers a b := by
  have hpa := proper_canon hstd ha
  have hpb := proper_canon hstd hb
  rw [canonicalizeToBytes_eq hstd ha, canonicalizeToBytes_eq hstd hb, ← canon_eq_iff hstd ha hb,
    Except.ok.injEq]
  constructor
  · intro h
    exact Canon.print_inj hpa hpb (utf8Bytes_inj (Canon.isWellFormed_print hpa)
      (Canon.isWellFormed_print hpb) h)
  · intro h
    rw [h]

/-- The domain of a signed text ends at its first newline. -/
theorem domain_eq_of_append {d e s t : Text} (hd : 0x0A ∉ d) (he : 0x0A ∉ e)
    (h : d ++ 0x0A :: s = e ++ 0x0A :: t) : d = e ∧ s = t := by
  have hunits : ∀ {d : Text}, (0x0A : UInt16) ∉ d → ∀ u ∈ d, (u == 0x0A) = false := by
    intro d hd u hu
    rw [beq_eq_false_iff_ne]
    exact fun heq => hd (heq ▸ hu)
  obtain ⟨hde, hst⟩ := @eq_of_append_follows UInt16 (· == 0x0A) d e _ _ (hunits hd) (hunits he)
    (follows_cons rfl) (follows_cons rfl) h
  injection hst with _ hst
  exact ⟨hde, hst⟩

theorem eq_of_signingBytes_eq (hstd : numbers.Standard) {a b : JsValue ν} (ha : IsJson numbers a)
    (hb : IsJson numbers b) {d e : Text} (hd : 0x0A ∉ d) (he : 0x0A ∉ e)
    (hdw : isWellFormed d = true) (hew : isWellFormed e = true)
    (h : buildDomainSeparatedSigningBytes numbers d a =
      buildDomainSeparatedSigningBytes numbers e b) : d = e ∧ JsonEq numbers a b := by
  rw [buildDomainSeparatedSigningBytes_eq hstd ha, buildDomainSeparatedSigningBytes_eq hstd hb,
    Except.ok.injEq] at h
  have hpa := proper_canon hstd ha
  have hpb := proper_canon hstd hb
  have hwf : ∀ {d : Text} {c : Canon}, isWellFormed d = true → c.Proper →
      isWellFormed (d ++ 0x0A :: c.print) = true := by
    intro d c hd hc
    have hnewline : isWellFormed [0x0A] = true := rfl
    exact isWellFormed_append hd (isWellFormed_append hnewline (Canon.isWellFormed_print hc))
  obtain ⟨hde, hprint⟩ := domain_eq_of_append hd he (utf8Bytes_inj (hwf hdw hpa) (hwf hew hpb) h)
  exact ⟨hde, (canon_eq_iff hstd ha hb).mp (Canon.print_inj hpa hpb hprint)⟩

/-- **The canonical form is a complete invariant.** JSON values are serialized, to the same bytes
exactly when they are equal; and under domains of well-formed text without a newline, to the same
signing bytes only when the domains are equal too. -/
theorem canonical_form_complete (hstd : numbers.Standard) {a b : JsValue ν}
    (ha : IsJson numbers a) (hb : IsJson numbers b) :
    (∃ bytes, canonicalizeToBytes numbers a = .ok bytes) ∧
    (canonicalizeToBytes numbers a = canonicalizeToBytes numbers b ↔ JsonEq numbers a b) ∧
    ∀ d e : Text, 0x0A ∉ d → 0x0A ∉ e → isWellFormed d = true → isWellFormed e = true →
      buildDomainSeparatedSigningBytes numbers d a =
        buildDomainSeparatedSigningBytes numbers e b → d = e ∧ JsonEq numbers a b := by
  refine ⟨⟨_, canonicalizeToBytes_eq hstd ha⟩, canonicalizeToBytes_eq_iff hstd ha hb, ?_⟩
  intro d e hd he hdw hew h
  exact eq_of_signingBytes_eq hstd ha hb hd he hdw hew h

/-! ## Whole numbers -/

/-- Whole numbers with a negative zero, and a number that is not one. -/
inductive Whole
  | nat (n : Nat)
  | negativeZero
  | nan

/-- Whole numbers are printed in decimal. -/
def wholeNumbers : JsNumbers Whole where
  zero := .nat 0
  isFinite n := match n with
    | .nan => false
    | _ => true
  isNegativeZero n := match n with
    | .negativeZero => true
    | _ => false
  stringify n := match n with
    | .nat n => ofString (toString n)
    | .negativeZero => ofString "0"
    | .nan => ofString "null"

theorem isNumberText_nat (n : Nat) : Canon.isNumberText (ofString (toString n)) = true := by
  have hlist : (toString n).toList = Nat.toDigits 10 n := by
    rw [Nat.toString_eq_repr, Nat.toList_repr]
  have hdigit : ∀ c ∈ (toString n).toList, ∃ d, c.toNat = d ∧ 0x30 ≤ d ∧ d ≤ 0x39 := by
    intro c hc
    rw [hlist] at hc
    have h := Nat.isDigit_of_mem_toDigits (by decide) (by decide) hc
    simp only [Char.isDigit, Bool.and_eq_true, decide_eq_true_eq, UInt32.le_iff_toNat_le] at h
    exact ⟨_, rfl, h⟩
  have hunits : ∀ u ∈ ofString (toString n), Canon.isNumberUnit u = true := by
    intro u hu
    obtain ⟨c, hc, hu⟩ := List.mem_flatMap.mp (ofString.eq_1 _ ▸ hu)
    obtain ⟨d, hd, hlow, hhigh⟩ := hdigit c hc
    rw [charUnits, hd, if_pos (by omega), List.mem_singleton] at hu
    subst hu
    interval_cases d <;> rfl
  have hne : ofString (toString n) ≠ [] := by
    intro h
    have hchars := congrArg toChars h
    rw [ofString, toChars_flatMap, hlist] at hchars
    exact Nat.toDigits_ne_nil hchars
  rw [Canon.isNumberText, Bool.and_eq_true, List.all_eq_true, Bool.not_eq_true',
    List.isEmpty_eq_false_iff]
  exact ⟨hne, hunits⟩

theorem wholeNumbers_standard : wholeNumbers.Standard where
  finite_zero := rfl
  positive_zero := rfl
  stringify_zero := rfl
  injective m n hm hn hm0 hn0 h := by
    cases m with
    | nat m =>
        cases n with
        | nat n =>
            have hparse := congrArg Decimal.parse (ofString_inj h)
            rw [Decimal.parse_toString, Decimal.parse_toString, Option.some.injEq] at hparse
            rw [hparse]
        | negativeZero => cases hn0
        | nan => cases hn
    | negativeZero => cases hm0
    | nan => cases hm
  numberText n hn := by
    cases n with
    | nat n => exact isNumberText_nat n
    | negativeZero => rfl
    | nan => cases hn

/-- An amount with its asset, in both orders of the keys. -/
theorem canonical_form_complete_amount :
    (∃ bytes, canonicalizeToBytes wholeNumbers (.object true [(ofString "a", .number (.nat 0)),
      (ofString "b", .string (ofString "x"))]) = .ok bytes) ∧
    (canonicalizeToBytes wholeNumbers (.object true [(ofString "a", .number (.nat 0)),
        (ofString "b", .string (ofString "x"))]) =
      canonicalizeToBytes wholeNumbers (.object true [(ofString "b", .string (ofString "x")),
        (ofString "a", .number .negativeZero)]) ↔
      JsonEq wholeNumbers (.object true [(ofString "a", .number (.nat 0)),
        (ofString "b", .string (ofString "x"))])
        (.object true [(ofString "b", .string (ofString "x")),
          (ofString "a", .number .negativeZero)])) ∧
    ∀ d e : Text, 0x0A ∉ d → 0x0A ∉ e → isWellFormed d = true → isWellFormed e = true →
      buildDomainSeparatedSigningBytes wholeNumbers d (.object true
        [(ofString "a", .number (.nat 0)), (ofString "b", .string (ofString "x"))]) =
      buildDomainSeparatedSigningBytes wholeNumbers e (.object true
        [(ofString "b", .string (ofString "x")), (ofString "a", .number .negativeZero)]) →
      d = e ∧ JsonEq wholeNumbers (.object true [(ofString "a", .number (.nat 0)),
        (ofString "b", .string (ofString "x"))])
        (.object true [(ofString "b", .string (ofString "x")),
          (ofString "a", .number .negativeZero)]) := by
  refine canonical_form_complete wholeNumbers_standard ?_ ?_
  · refine .object (by decide) ?_
    intro field hfield _
    rcases List.mem_cons.mp hfield with rfl | hfield
    · exact .number rfl
    · rw [List.mem_singleton.mp hfield]
      exact .string _
  · refine .object (by decide) ?_
    intro field hfield _
    rcases List.mem_cons.mp hfield with rfl | hfield
    · exact .string _
    · rw [List.mem_singleton.mp hfield]
      exact .number rfl

/-- A lone surrogate in a domain is encoded as U+FFFD, so the domain is not told from the one that
has that character in its place. -/
theorem not_canonical_form_complete_loneSurrogate :
    ¬ ∀ (a b : JsValue Whole), IsJson wholeNumbers a → IsJson wholeNumbers b → ∀ d e : Text,
      0x0A ∉ d → 0x0A ∉ e → buildDomainSeparatedSigningBytes wholeNumbers d a =
        buildDomainSeparatedSigningBytes wholeNumbers e b → d = e ∧ JsonEq wholeNumbers a b := by
  intro h
  have hbytes : buildDomainSeparatedSigningBytes wholeNumbers [0xD800] .null =
      buildDomainSeparatedSigningBytes wholeNumbers [0xFFFD] .null := by
    rw [buildDomainSeparatedSigningBytes_eq wholeNumbers_standard .null,
      buildDomainSeparatedSigningBytes_eq wholeNumbers_standard .null, utf8Bytes, utf8Bytes]
    have hchars : toChars ([0xD800] ++ 0x0A :: ofString "null") =
        toChars ([0xFFFD] ++ 0x0A :: ofString "null") := by decide
    exact congrArg (fun chars => Except.ok (String.ofList chars).toUTF8) hchars
  have heq := (h .null .null .null .null [0xD800] [0xFFFD] (by decide) (by decide) hbytes).1
  exact absurd heq (by decide)

end Split402

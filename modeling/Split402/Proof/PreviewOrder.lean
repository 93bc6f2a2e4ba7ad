import Split402.Base.SortOrder
import Split402.Payouts.Preview

/-! # The order of the accruals does not matter

The comparator of the accruals compares assets, wallets, availability times, creation times and ids,
and throws one error whatever timestamp it cannot read. Where the locale orders strings and tells the
ids apart, it is a strict order of what it can compare, so the sort, its error included, is the same
for every order of the input; and nothing else of the preview reads the accruals. -/

namespace Split402

open Base

variable {host : Host}

/-- `Date.parse(new Date(ms).toISOString())` is `ms` for every time that `Date.parse` gives. -/
def Host.ReadsItsTimestamps (host : Host) : Prop :=
  ∀ value ms, host.dateParse value = some ms → host.dateParse (host.toISOString ms) = some ms

/-! ## Timestamps -/

/-- The error of a timestamp that a comparison cannot read. -/
def timestampError : PayoutError := .previewValidation "timestamp must be an ISO timestamp"

/-- What a comparison reads of an optional timestamp: nothing, or a time, or neither. -/
inductive Stamp
  | absent
  | unreadable
  | time (ms : Int)

def stampOf (host : Host) : Option String → Stamp
  | none => .absent
  | some value =>
      if isBlank value then .unreadable
      else match host.dateParse value with
        | none => .unreadable
        | some ms => .time ms

/-- Absent timestamps come first, and one that cannot be read is compared to no other. -/
def compareStamps : Stamp → Stamp → Except PayoutError Ordering
  | .absent, .absent => .ok .eq
  | .absent, _ => .ok .lt
  | _, .absent => .ok .gt
  | .time left, .time right => .ok (compare left right)
  | _, _ => .error timestampError

theorem compareStamps_ordersOrThrows : OrdersOrThrows compareStamps timestampError where
  swap a b := by
    cases a with
    | absent => cases b <;> rfl
    | unreadable => cases b <;> rfl
    | time left =>
        cases b with
        | absent => rfl
        | unreadable => rfl
        | time right => exact congrArg Except.ok Std.OrientedCmp.eq_swap
  trans a b c o p hab hbc ho hp := by
    cases a with
    | absent =>
        cases b with
        | absent =>
            cases hab
            exact hbc
        | unreadable => cases c <;> cases hbc; cases hp
        | time middle =>
            cases hab
            cases c with
            | absent =>
                cases hbc
                cases hp
            | unreadable => cases hbc
            | time right => rfl
    | unreadable => cases b <;> cases hab; cases ho
    | time left =>
        cases b with
        | absent =>
            cases hab
            cases ho
        | unreadable => cases hab
        | time middle =>
            cases c with
            | absent =>
                cases hbc
                cases hp
            | unreadable => cases hbc
            | time right =>
                exact (OrdersOrThrows.of_transCmp (compare : Int → Int → Ordering)
                  timestampError).trans left middle right o p hab hbc ho hp
  throws a b e he := by
    cases a <;> cases b <;> cases he <;> rfl

theorem normalizeTimestamp_stampOf (value : String) :
    (stampOf host (some value) = .unreadable ∧
      normalizeTimestamp host value "timestamp" = .error timestampError) ∨
    ∃ ms, host.dateParse value = some ms ∧ stampOf host (some value) = .time ms ∧
      normalizeTimestamp host value "timestamp" = .ok (host.toISOString ms) := by
  rw [normalizeTimestamp, stampOf]
  by_cases hblank : isBlank value = true
  · rw [if_pos hblank, if_pos hblank]
    exact .inl ⟨rfl, rfl⟩
  · rw [if_neg hblank, if_neg hblank]
    cases hparse : host.dateParse value with
    | none => exact .inl ⟨rfl, rfl⟩
    | some ms => exact .inr ⟨ms, rfl, rfl, rfl⟩

theorem compareOptionalTimestamp_eq (hhost : host.ReadsItsTimestamps) (left right : Option String) :
    compareOptionalTimestamp host left right =
      compareStamps (stampOf host left) (stampOf host right) := by
  have hpresent : ∀ value, stampOf host (some value) = .unreadable ∨
      ∃ ms, stampOf host (some value) = .time ms := by
    intro value
    rcases @normalizeTimestamp_stampOf host value with ⟨h, -⟩ | ⟨ms, -, h, -⟩
    · exact .inl h
    · exact .inr ⟨ms, h⟩
  cases left with
  | none =>
      cases right with
      | none => rfl
      | some right => rcases hpresent right with h | ⟨ms, h⟩ <;> rw [h] <;> rfl
  | some left =>
      cases right with
      | none => rcases hpresent left with h | ⟨ms, h⟩ <;> rw [h] <;> rfl
      | some right =>
          rw [compareOptionalTimestamp]
          rcases @normalizeTimestamp_stampOf host left with
            ⟨hleft, hthrows⟩ | ⟨l, hl, hleft, hreads⟩
          · rw [hleft, hthrows]
            rcases hpresent right with h | ⟨ms, h⟩ <;> rw [h] <;> rfl
          · rw [hleft, hreads]
            rcases @normalizeTimestamp_stampOf host right with
              ⟨hright, hthrows⟩ | ⟨r, hr, hright, hreads'⟩
            · rw [hright, hthrows]
              rfl
            · -- what was normalized is read as the same time
              rw [hright, hreads']
              simp only [bind, Except.bind, hhost left l hl, hhost right r hr, compareMs,
                compareStamps]
              rfl

/-! ## Accruals -/

/-- The comparator of the accruals, part by part. -/
theorem compareAccrualsForPayout_eq (hhost : host.ReadsItsTimestamps)
    (left right : CommissionAccrual) :
    compareAccrualsForPayout host left right =
      lexM (.ok (host.localeCompare left.asset right.asset))
        (lexM (.ok (host.localeCompare left.payoutWallet right.payoutWallet))
          (lexM (compareStamps (stampOf host left.availableAt) (stampOf host right.availableAt))
            (lexM (compareStamps (stampOf host (some left.createdAt))
                (stampOf host (some right.createdAt)))
              (.ok (host.localeCompare left.id right.id))))) := by
  rw [compareAccrualsForPayout, compareOptionalTimestamp_eq hhost, compareOptionalTimestamp_eq hhost]
  generalize host.localeCompare left.asset right.asset = o₁
  generalize host.localeCompare left.payoutWallet right.payoutWallet = o₂
  generalize compareStamps (stampOf host left.availableAt) (stampOf host right.availableAt) = x
  generalize compareStamps (stampOf host (some left.createdAt))
    (stampOf host (some right.createdAt)) = y
  cases o₁ with
  | lt => rfl
  | gt => rfl
  | eq =>
      cases o₂ with
      | lt => rfl
      | gt => rfl
      | eq =>
          cases x with
          | error e => rfl
          | ok o₃ =>
              cases o₃ with
              | lt => rfl
              | gt => rfl
              | eq =>
                  cases y with
                  | error e => rfl
                  | ok o₄ => cases o₄ <;> rfl

theorem compareAccrualsForPayout_ordersOrThrows (hhost : host.ReadsItsTimestamps)
    [Std.TransCmp host.localeCompare] :
    OrdersOrThrows (compareAccrualsForPayout host) timestampError := by
  have htext := OrdersOrThrows.of_transCmp host.localeCompare timestampError
  have hlex := (htext.comap CommissionAccrual.asset).lex
    ((htext.comap CommissionAccrual.payoutWallet).lex
      ((compareStamps_ordersOrThrows.comap fun accrual => stampOf host accrual.availableAt).lex
        ((compareStamps_ordersOrThrows.comap fun accrual =>
          stampOf host (some accrual.createdAt)).lex (htext.comap CommissionAccrual.id))))
  simp only [← compareAccrualsForPayout_eq hhost] at hlex
  exact hlex

/-- Accruals that the comparator takes for equal have ids that the locale takes for equal. -/
theorem localeCompare_id_of_eq (hhost : host.ReadsItsTimestamps) {left right : CommissionAccrual}
    (h : compareAccrualsForPayout host left right = .ok .eq) :
    host.localeCompare left.id right.id = .eq := by
  have hsecond : ∀ {first second : Except PayoutError Ordering},
      lexM first second = .ok .eq → second = .ok .eq := by
    intro first second hlex
    obtain ⟨o, -, ⟨-, hsecond⟩ | ⟨hne, heq⟩⟩ := lexM_eq_ok hlex
    · exact hsecond
    · exact absurd heq hne
  rw [compareAccrualsForPayout_eq hhost] at h
  exact Except.ok.inj (hsecond (hsecond (hsecond (hsecond h))))

/-! ## The preview -/

/-- **A preview does not depend on the order of the accruals.** The locale orders strings, and tells
the ids of the accruals apart, which differ. -/
theorem createPayoutPreview_perm (hhost : host.ReadsItsTimestamps) [Std.TransCmp host.localeCompare]
    (env : CallEnv) (input : CreatePayoutPreviewInput) {accruals : List CommissionAccrual}
    (hids : (input.accruals.map CommissionAccrual.id).Nodup)
    (hseparates : ∀ a ∈ input.accruals, ∀ b ∈ input.accruals,
      host.localeCompare a.id b.id = .eq → a.id = b.id)
    (hperm : accruals.Perm input.accruals) :
    createPayoutPreview host env { input with accruals := accruals } =
      createPayoutPreview host env input := by
  have hpairwise : input.accruals.Pairwise (Separates (compareAccrualsForPayout host)) := by
    refine (List.pairwise_map.mp hids).imp_of_mem fun ha hb hne heq => hne ?_
    exact hseparates _ ha _ hb (localeCompare_id_of_eq hhost heq)
  have hsort := sortM_perm_eq (compareAccrualsForPayout_ordersOrThrows hhost) hpairwise hperm.symm
  rw [createPayoutPreview, createPayoutPreview, ← hsort]

/-! ## Two orders of two accruals -/

theorem compareUnits_eq (left right : List Nat) :
    compareUnits left right = List.compareLex compare left right := by
  induction left generalizing right with
  | nil => cases right <;> rfl
  | cons a left ih =>
      cases right with
      | nil => rfl
      | cons b right => rw [compareUnits, List.compareLex_cons_cons, ih]

/-- Comparing strings by their code units is a preorder. -/
instance : Std.TransCmp compareUtf16 where
  eq_swap {left right} := by
    rw [compareUtf16, compareUtf16, compareUnits_eq, compareUnits_eq]
    exact Std.OrientedCmp.eq_swap
  isLE_trans {a b c} hab hbc := by
    rw [compareUtf16, compareUnits_eq] at hab hbc ⊢
    exact Std.TransCmp.isLE_trans hab hbc

def owedAt (id payoutWallet : String) (availableAt : Option String) : CommissionAccrual where
  id := id
  receiptId := "rct_1"
  merchantId := "mrc_1"
  campaignId := "cmp_1"
  routeId := "rte_1"
  referrerWallet := "referrer"
  payoutWallet := payoutWallet
  asset := "mint"
  amountAtomic := "5"
  status := .available
  availableAt := availableAt
  createdAt := "2026-01-01T00:00:00.000Z"

/-- A host at the first second of 2026, which is the only time it knows. -/
def newYearHost : Host where
  dateParse value := if value = "2026-01-01T00:00:00.000Z" then some 1767225600000 else none
  toISOString _ := "2026-01-01T00:00:00.000Z"
  localeCompare := compareUtf16
  parseTimestamptz value := if value = "2026-01-01T00:00:00.000Z" then some 1767225600000 else none
  collate := compareUtf16

theorem newYearHost_readsItsTimestamps : newYearHost.ReadsItsTimestamps := by
  intro value ms h
  simp only [newYearHost] at h ⊢
  split at h
  · rw [if_pos trivial]
    exact h
  · cases h

def oweTwo : CreatePayoutPreviewInput where
  merchantId := "mrc_1"
  accruals := [owedAt "acr_1" "wallet1" none,
    owedAt "acr_2" "wallet1" (some "2026-01-01T00:00:00.000Z")]
  now := some "2026-01-01T00:00:00.000Z"
  minimumPayoutAmountAtomic := none
  maxRecipients := some 1
  fundingBalances := none

theorem createPayoutPreview_perm_sample :
    createPayoutPreview newYearHost ⟨0, fun _ => "", fun _ => ""⟩
        { oweTwo with accruals := [owedAt "acr_2" "wallet1" (some "2026-01-01T00:00:00.000Z"),
          owedAt "acr_1" "wallet1" none] } =
      createPayoutPreview newYearHost ⟨0, fun _ => "", fun _ => ""⟩ oweTwo := by
  have hcmp : Std.TransCmp newYearHost.localeCompare := inferInstanceAs (Std.TransCmp compareUtf16)
  have hids : (oweTwo.accruals.map CommissionAccrual.id).Nodup := by decide
  have hseparates : ∀ a ∈ oweTwo.accruals, ∀ b ∈ oweTwo.accruals,
      newYearHost.localeCompare a.id b.id = .eq → a.id = b.id := by decide
  exact createPayoutPreview_perm newYearHost_readsItsTimestamps _ oweTwo hids hseparates
    (List.Perm.swap ..)

end Split402

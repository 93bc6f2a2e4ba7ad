import Split402.Proof.IngestProgram
import Split402.Proof.PayoutRules
import Split402.Proof.ReceiptHash

/-! # What a receipt books

A receipt that passes its own verification has amounts that follow from its rates: the commission is
a floored share of the required amount and the protocol fee a floored share of the commission. What
the ledger books then balances. It is booked with the accrual, and there is an accrual only for a
positive referrer credit: the protocol fee may be the whole commission, and then nothing is
booked. -/

namespace Split402

open Base Base.Async

variable {ν : Type}

/-! ## Amounts -/

/-- The amounts of a receipt, as numbers. -/
structure ReceiptAmounts (receipt : Split402ReceiptV1) (commission protocolFee referrerCredit : Nat) :
    Prop where
  readCommission : parseAtomicAmount receipt.commissionAmountAtomic = some commission
  readFee : parseAtomicAmount receipt.protocolFeeAtomic = some protocolFee
  readCredit : parseAtomicAmount receipt.referrerCreditAtomic = some referrerCredit
  feeRate : receipt.protocolFeeBpsOfCommission ≤ 10000
  feeOfCommission : protocolFee = commission * receipt.protocolFeeBpsOfCommission / 10000
  split : referrerCredit + protocolFee = commission

theorem atomicAmount_eq_ok {value : String} {n : Nat} :
    atomicAmount value = .ok n ↔ parseAtomicAmount value = some n := by
  rw [atomicAmount]
  split <;> simp_all

theorem calculateCommission_eq_ok {required bps fee : Nat} {breakdown : CommissionBreakdown}
    (h : calculateCommission required bps fee = .ok breakdown) :
    fee ≤ 10000 ∧ breakdown.commission = (required * bps / 10000 : Nat) ∧
      breakdown.protocolFee = (required * bps / 10000 * fee / 10000 : Nat) ∧
      breakdown.referrerCredit = breakdown.commission - breakdown.protocolFee := by
  rw [calculateCommission] at h
  split at h
  · exact absurd h throw_ne_ok
  split at h
  · exact absurd h throw_ne_ok
  split at h
  · exact absurd h throw_ne_ok
  rename_i hfee
  rw [pure_eq_ok] at h
  subst h
  have hfloor : ∀ m n : Nat, ((m : Int) * n).tdiv 10000 = (m * n / 10000 : Nat) := by
    intro m n
    rw [Int.tdiv_eq_ediv_of_nonneg (by positivity)]
    push_cast
    rfl
  refine ⟨by omega, hfloor required bps, ?_, rfl⟩
  show (((required : Int) * bps).tdiv 10000 * fee).tdiv 10000 = _
  rw [hfloor required bps, hfloor]

theorem errors_of_ok {errors : List String} (h : (resultOf errors).ok = true) : errors = [] := by
  rw [resultOf, List.isEmpty_iff] at h
  exact h

/-- **A receipt that passes the arithmetic check has amounts that follow from its rates.** -/
theorem receiptAmounts_of_verified {receipt : Split402ReceiptV1}
    {result : ProtocolVerificationResult} (h : verifyReceiptArithmetic receipt = .ok result)
    (hok : result.errors = []) :
    ∃ commission protocolFee referrerCredit,
      ReceiptAmounts receipt commission protocolFee referrerCredit := by
  rw [verifyReceiptArithmetic] at h
  obtain ⟨required, hrequired, h⟩ := bind_eq_ok.mp h
  obtain ⟨base, hbase, h⟩ := bind_eq_ok.mp h
  obtain ⟨commission, hcommission, h⟩ := bind_eq_ok.mp h
  obtain ⟨protocolFee, hprotocolFee, h⟩ := bind_eq_ok.mp h
  obtain ⟨referrerCredit, hreferrerCredit, h⟩ := bind_eq_ok.mp h
  obtain ⟨expected, hexpected, h⟩ := bind_eq_ok.mp h
  rw [pure_eq_ok] at h
  subst h
  obtain ⟨hfee, hc, hp, hr⟩ := calculateCommission_eq_ok hexpected
  simp only [resultOf, List.append_eq_nil_iff, ite_eq_right_iff, List.cons_ne_nil, imp_false,
    not_not] at hok
  obtain ⟨⟨⟨-, hok1⟩, hok2⟩, hok3⟩ := hok
  have hcommissionEq : commission = required * receipt.commissionBps / 10000 := by omega
  refine ⟨commission, protocolFee, referrerCredit, atomicAmount_eq_ok.mp hcommission,
    atomicAmount_eq_ok.mp hprotocolFee, atomicAmount_eq_ok.mp hreferrerCredit, hfee, ?_, by omega⟩
  rw [hcommissionEq]
  omega

/-! ### A receipt of the schema can be checked -/

theorem atomicAmount_of_regex {value : String} (h : decimalAmountRegex value = true) :
    ∃ n, atomicAmount value = .ok n := by
  obtain ⟨n, hn⟩ := Option.isSome_iff_exists.mp h
  exact ⟨n, atomicAmount_eq_ok.mpr hn⟩

theorem calculateCommission_returns {required bps fee : Nat} (hbps : bps ≤ 10000)
    (hfee : fee ≤ 10000) : ∃ breakdown, calculateCommission required bps fee = .ok breakdown := by
  unfold calculateCommission
  rw [if_neg (by omega), if_neg (by omega), if_neg (by omega)]
  exact ⟨_, rfl⟩

/-- The amounts and rates of a receipt the schema admits can be read. -/
theorem verifyReceiptArithmetic_returns {zod : Zod} {receipt : Split402ReceiptV1}
    (h : split402ReceiptV1Schema zod receipt = true) :
    ∃ result, verifyReceiptArithmetic receipt = .ok result := by
  simp only [split402ReceiptV1Schema, Bool.and_eq_true, decide_eq_true_eq] at h
  obtain ⟨required, hrequired⟩ := atomicAmount_of_regex
    (show decimalAmountRegex receipt.requiredAmountAtomic = true by simp only [h])
  obtain ⟨base, hbase⟩ := atomicAmount_of_regex
    (show decimalAmountRegex receipt.commissionBaseAtomic = true by simp only [h])
  obtain ⟨commission, hcommission⟩ := atomicAmount_of_regex
    (show decimalAmountRegex receipt.commissionAmountAtomic = true by simp only [h])
  obtain ⟨protocolFee, hprotocolFee⟩ := atomicAmount_of_regex
    (show decimalAmountRegex receipt.protocolFeeAtomic = true by simp only [h])
  obtain ⟨referrerCredit, hreferrerCredit⟩ := atomicAmount_of_regex
    (show decimalAmountRegex receipt.referrerCreditAtomic = true by simp only [h])
  obtain ⟨breakdown, hbreakdown⟩ := @calculateCommission_returns required _ _
    (show receipt.commissionBps ≤ 10000 by simp only [h])
    (show receipt.protocolFeeBpsOfCommission ≤ 10000 by simp only [h])
  rw [verifyReceiptArithmetic]
  exact ⟨_, bind_eq_ok.mpr ⟨required, hrequired, bind_eq_ok.mpr ⟨base, hbase,
    bind_eq_ok.mpr ⟨commission, hcommission, bind_eq_ok.mpr ⟨protocolFee, hprotocolFee,
      bind_eq_ok.mpr ⟨referrerCredit, hreferrerCredit,
        bind_eq_ok.mpr ⟨breakdown, hbreakdown, rfl⟩⟩⟩⟩⟩⟩⟩

/-- The verification of a receipt the schema admits does not throw. -/
theorem verifySplit402ReceiptObject_returns {runtime : Runtime ν} (hstd : runtime.Standard)
    {zod : Zod} {receipt : Split402ReceiptV1} (h : split402ReceiptV1Schema zod receipt = true)
    (merchantPublicKey : String) :
    ∃ result, verifySplit402ReceiptObject runtime receipt merchantPublicKey = .ok result := by
  obtain ⟨message, hmessage⟩ := buildReceiptSigningBytes_eq hstd receipt
  have hbytes : buildReceiptSigningBytes runtime receipt = .ok message := hmessage receipt.signature
  obtain ⟨arithmetic, harithmetic⟩ := verifyReceiptArithmetic_returns h
  rw [verifySplit402ReceiptObject, verifySplit402ReceiptSignature, hbytes]
  exact ⟨_, bind_eq_ok.mpr ⟨_, rfl, bind_eq_ok.mpr ⟨arithmetic, harithmetic, rfl⟩⟩⟩

/-- The referrer's credit is zero exactly when the fee is the whole commission. -/
theorem ReceiptAmounts.referrerCredit_eq_zero_iff {receipt : Split402ReceiptV1}
    {commission protocolFee referrerCredit : Nat}
    (h : ReceiptAmounts receipt commission protocolFee referrerCredit) (hpos : 0 < commission) :
    referrerCredit = 0 ↔ receipt.protocolFeeBpsOfCommission = 10000 := by
  have hsplit := h.split
  have hfee := h.feeOfCommission
  have hrate := h.feeRate
  constructor
  · intro hzero
    -- a rate below the whole takes less than the whole
    by_contra hne
    have hlt : commission * receipt.protocolFeeBpsOfCommission < commission * 10000 :=
      Nat.mul_lt_mul_of_pos_left (by omega) hpos
    have hdiv := Nat.div_lt_of_lt_mul (Nat.mul_comm commission 10000 ▸ hlt)
    omega
  · intro hall
    rw [hall, Nat.mul_div_cancel _ (by decide)] at hfee
    omega

/-! ## The ledger transaction -/

theorem readLedgerAmount_of_parse {value : String} {n : Nat}
    (h : parseAtomicAmount value = some n) : readLedgerAmount value = .ok n := by
  unfold readLedgerAmount
  split
  · rename_i digits hvalue
    -- a numeral starts with a digit
    rw [Decimal.eq_toString_of_parse h, Nat.toString_eq_repr, Nat.toList_repr] at hvalue
    have hmem : '-' ∈ Nat.toDigits 10 n := by
      rw [hvalue]
      exact List.mem_cons_self
    exact absurd (Nat.isDigit_of_mem_toDigits (by decide) (by decide) hmem) (by decide)
  · rw [h]
    rfl

theorem negateAtomic_of_parse {value : String} {n : Nat} (h : parseAtomicAmount value = some n) :
    ∃ negated, negateAtomic value = .ok negated ∧ readLedgerAmount negated = .ok (-(n : Int)) := by
  unfold negateAtomic
  rw [readLedgerAmount_of_parse h]
  by_cases hn : n = 0
  · subst hn
    exact ⟨"0", rfl, rfl⟩
  · refine ⟨"-" ++ toString (n : Int), ?_, ?_⟩
    · show (pure (if (n : Int) = 0 then "0" else "-" ++ toString (n : Int)) : Except _ _) = _
      rw [if_neg (by omega)]
      rfl
    · exact readLedgerAmount_neg n

/-- What a ledger transaction holds in the entries a test selects. -/
def LedgerTransaction.balance (transaction : LedgerTransaction) (select : LedgerEntry → Bool) : Int :=
  ((transaction.entries.filter select).map ledgerAmountOf).sum

/-- The account of an entry is this one. -/
def LedgerEntry.isOf (accountType : LedgerAccountType) (accountReference : String)
    (entry : LedgerEntry) : Bool :=
  entry.accountType == accountType && entry.accountReference == accountReference

/-- The ledger transaction of a receipt's commission: zero-sum in the receipt's asset, the merchant
debited with the commission, the payout wallet credited with the referrer's part and the protocol
with its fee. -/
structure BooksCommission (receipt : Split402ReceiptV1) (payoutWallet : String)
    (transaction : LedgerTransaction) : Prop where
  asset : transaction.asset = receipt.asset ∧ ∀ entry ∈ transaction.entries, entry.asset = receipt.asset
  readable : ∀ entry ∈ transaction.entries, ∃ amount, readLedgerAmount entry.amountAtomic = .ok amount
  zeroSum : transaction.balance (fun _ => true) = 0
  merchant : transaction.balance (LedgerEntry.isOf .merchantCommissionLiability receipt.merchantId) =
    -(atomicOf receipt.commissionAmountAtomic : Int)
  referrer : transaction.balance (LedgerEntry.isOf .referrerPayable payoutWallet) =
    atomicOf receipt.referrerCreditAtomic
  protocol : transaction.balance (LedgerEntry.isOf .protocolFeePayable "split402") =
    atomicOf receipt.protocolFeeAtomic

/-- The snapshot holds the ledger transaction of its receipt's commission. -/
def ReceiptIngestionSnapshot.booksCommission (snapshot : ReceiptIngestionSnapshot) : Prop :=
  ∃ payoutWallet transaction, snapshot.receipt.receipt.payoutWallet = some payoutWallet ∧
    snapshot.ledgerTransaction = some transaction ∧
    BooksCommission snapshot.receipt.receipt payoutWallet transaction

/-- Three entries of one asset that add up to zero balance. -/
theorem assertLedgerBalances_of_sum {e₁ e₂ e₃ : LedgerEntry} {a₁ a₂ a₃ : Int}
    (h₁ : readLedgerAmount e₁.amountAtomic = .ok a₁)
    (h₂ : readLedgerAmount e₂.amountAtomic = .ok a₂)
    (h₃ : readLedgerAmount e₃.amountAtomic = .ok a₃) (h₁₂ : e₂.asset = e₁.asset)
    (h₁₃ : e₃.asset = e₁.asset) (hsum : a₁ + a₂ + a₃ = 0) :
    assertLedgerBalances [e₁, e₂, e₃] = .ok () := by
  -- one row is updated throughout
  have hfind : ∀ (totals : Table (Prod.fst : String × Int → String)) (known : Int),
      (totals.upsert (e₁.asset, known)).find? e₁.asset = some (e₁.asset, known) := by
    intro totals known
    rw [Table.find?_upsert, if_pos rfl]
  have hrows : ∀ (totals : Table (Prod.fst : String × Int → String)),
      (∀ row ∈ totals, row.1 = e₁.asset) →
      (totals.upsert (e₁.asset, a₁ + a₂ + a₃)).rows.filter (fun row => row.2 ≠ 0) = [] := by
    intro totals htotals
    rw [List.filter_eq_nil_iff]
    intro row hrow
    rcases Table.mem_upsert.mp hrow with rfl | ⟨hmem, hne⟩
    · simp [hsum]
    · exact absurd (htotals row hmem) hne
  unfold assertLedgerBalances
  simp only [List.foldlM_cons, List.foldlM_nil, h₁, h₂, h₃, h₁₂, h₁₃]
  have hempty : (Table.empty : Table (Prod.fst : String × Int → String)).find? e₁.asset = none := rfl
  simp only [bind, Except.bind, pure, Except.pure, hfind, hempty, Option.map_some, Option.map_none,
    Option.getD_some, Option.getD_none, zero_add]
  rw [if_pos]
  refine hrows _ ?_
  intro row hrow
  rcases Table.mem_upsert.mp hrow with rfl | ⟨hmem, -⟩
  · rfl
  · rcases Table.mem_upsert.mp hmem with rfl | ⟨hnone, -⟩
    · rfl
    · exact absurd hnone Table.not_mem_empty

/-- The receipt names a route, its referrer and the wallet to pay. -/
def Split402ReceiptV1.hasRoute (receipt : Split402ReceiptV1) : Bool :=
  receipt.routeId.isSome && receipt.referrerWallet.isSome && receipt.payoutWallet.isSome

namespace ReceiptIngestor

variable (ingestor : ReceiptIngestor ν)

/-- **What is booked for a receipt with an accrual.** -/
theorem createLedgerTransaction_books {call : IngestCall} {receipt : Split402ReceiptV1}
    {accrual : CommissionAccrual} {createdAt : String} {commission protocolFee referrerCredit : Nat}
    (h : ReceiptAmounts receipt commission protocolFee referrerCredit) :
    ∃ transaction, ingestor.createLedgerTransaction call receipt accrual createdAt = .ok transaction ∧
      BooksCommission receipt accrual.payoutWallet transaction := by
  obtain ⟨liability, hliability, hread⟩ := negateAtomic_of_parse h.readCommission
  have hcredit := readLedgerAmount_of_parse h.readCredit
  have hfee := readLedgerAmount_of_parse h.readFee
  have hsplit := h.split
  have hamount : ∀ {entry : LedgerEntry} {amount : Int},
      readLedgerAmount entry.amountAtomic = .ok amount → ledgerAmountOf entry = amount := by
    intro entry amount hentry
    rw [ledgerAmountOf, hentry]
  unfold createLedgerTransaction
  refine ⟨_, bind_eq_ok.mpr ⟨liability, hliability, bind_eq_ok.mpr ⟨(),
    assertLedgerBalances_of_sum hread hcredit hfee rfl rfl (by omega), rfl⟩⟩, ?_⟩
  -- the accounts are told apart by their types
  have hliabilityAmount : ∀ entry : LedgerEntry, entry.amountAtomic = liability →
      ledgerAmountOf entry = -(commission : Int) := by
    intro entry hentry
    exact hamount (hentry ▸ hread)
  have hcreditAmount : ∀ entry : LedgerEntry, entry.amountAtomic = receipt.referrerCreditAtomic →
      ledgerAmountOf entry = referrerCredit := by
    intro entry hentry
    exact hamount (hentry ▸ hcredit)
  have hfeeAmount : ∀ entry : LedgerEntry, entry.amountAtomic = receipt.protocolFeeAtomic →
      ledgerAmountOf entry = protocolFee := by
    intro entry hentry
    exact hamount (hentry ▸ hfee)
  refine ⟨⟨rfl, ?_⟩, ?_, ?_, ?_, ?_, ?_⟩
  · intro entry hentry
    simp only [List.mem_cons, List.not_mem_nil, or_false] at hentry
    rcases hentry with rfl | rfl | rfl <;> rfl
  · intro entry hentry
    simp only [List.mem_cons, List.not_mem_nil, or_false] at hentry
    rcases hentry with rfl | rfl | rfl
    · exact ⟨_, hread⟩
    · exact ⟨_, hcredit⟩
    · exact ⟨_, hfee⟩
  · simp only [LedgerTransaction.balance, List.filter_cons, List.filter_nil, if_true, List.map_cons,
      List.map_nil, List.sum_cons, List.sum_nil]
    rw [hliabilityAmount _ rfl, hcreditAmount _ rfl, hfeeAmount _ rfl]
    omega
  · simp [LedgerTransaction.balance, LedgerEntry.isOf, hliabilityAmount, atomicOf, h.readCommission]
  · simp [LedgerTransaction.balance, LedgerEntry.isOf, hcreditAmount, atomicOf, h.readCredit]
  · simp [LedgerTransaction.balance, LedgerEntry.isOf, hfeeAmount, atomicOf, h.readFee]

/-! ## The snapshot -/

/-- There is an accrual for a route with a positive credit. -/
theorem createAccrual_cases {call : IngestCall} {receipt : Split402ReceiptV1} {createdAt : String}
    {commission protocolFee referrerCredit : Nat}
    (h : ReceiptAmounts receipt commission protocolFee referrerCredit) :
    (ingestor.createAccrual call receipt createdAt = .ok none ∧
      (receipt.hasRoute = false ∨ referrerCredit = 0)) ∨
    ∃ accrual, ingestor.createAccrual call receipt createdAt = .ok (some accrual) ∧
      receipt.payoutWallet = some accrual.payoutWallet ∧ 0 < referrerCredit := by
  have hcredit := readLedgerAmount_of_parse h.readCredit
  unfold createAccrual
  split
  · rename_i routeId referrerWallet payoutWallet hroute hreferrer hpayout
    by_cases hzero : (referrerCredit : Int) ≤ 0
    · exact .inl ⟨bind_eq_ok.mpr ⟨_, hcredit, if_pos hzero⟩, .inr (by omega)⟩
    · exact .inr ⟨_, bind_eq_ok.mpr ⟨_, hcredit, if_neg hzero⟩, hpayout, by omega⟩
  · rename_i hmissing
    refine .inl ⟨rfl, .inl ?_⟩
    rw [Split402ReceiptV1.hasRoute, Bool.eq_false_iff]
    intro hall
    simp only [Bool.and_eq_true, Option.isSome_iff_exists] at hall
    obtain ⟨⟨⟨routeId, hroute⟩, ⟨referrerWallet, hreferrer⟩⟩, ⟨payoutWallet, hpayout⟩⟩ := hall
    exact hmissing routeId referrerWallet payoutWallet hroute hreferrer hpayout

/-- **The snapshot of a verified receipt is built, and books the commission of a route exactly when
the protocol fee is not all of it.** -/
theorem createSnapshot_books {call : IngestCall} {receipt : Split402ReceiptV1} {receiptHash : String}
    {source : ReceiptIngestSource} {commission protocolFee referrerCredit : Nat}
    (h : ReceiptAmounts receipt commission protocolFee referrerCredit) :
    ∃ snapshot, ingestor.createSnapshot call receipt receiptHash source = .ok snapshot ∧
      snapshot.receipt.receipt = receipt ∧ snapshot.receipt.id = receipt.receiptId ∧
      snapshot.receipt.receiptHash = receiptHash ∧
      (receipt.hasRoute = true → 0 < commission →
        (snapshot.booksCommission ↔ receipt.protocolFeeBpsOfCommission ≠ 10000)) := by
  unfold createSnapshot
  rcases ingestor.createAccrual_cases h with ⟨haccrual, hnone⟩ | ⟨accrual, haccrual, hpayout, hcredit⟩
  · -- no accrual, and nothing booked
    refine ⟨_, bind_eq_ok.mpr ⟨none, haccrual, bind_eq_ok.mpr ⟨none, rfl, rfl⟩⟩, rfl, rfl, rfl, ?_⟩
    intro hroute hpos
    rcases hnone with hnone | hzero
    · rw [hroute] at hnone
      cases hnone
    · refine iff_of_false ?_ (not_not.mpr ((h.referrerCredit_eq_zero_iff hpos).mp hzero))
      rintro ⟨payoutWallet, transaction, -, hledger, -⟩
      cases hledger
  · obtain ⟨transaction, hledger, hbooks⟩ :=
      @createLedgerTransaction_books _ ingestor call receipt accrual
        (ingestor.host.toISOString call.env.clock) _ _ _ h
    refine ⟨_, bind_eq_ok.mpr ⟨some accrual, haccrual, bind_eq_ok.mpr ⟨some transaction,
      map_eq_ok.mpr ⟨transaction, hledger, rfl⟩, rfl⟩⟩, rfl, rfl, rfl, ?_⟩
    intro hroute hpos
    refine iff_of_true ⟨accrual.payoutWallet, transaction, hpayout, rfl, hbooks⟩ ?_
    intro hall
    have hzero := (h.referrerCredit_eq_zero_iff hpos).mpr hall
    omega

/-! ## Accepted receipts -/

variable {ingestor}

theorem receiptAmounts_of_ok {receipt : Split402ReceiptV1} {merchantPublicKey : String}
    {result : ProtocolVerificationResult}
    (h : verifySplit402ReceiptObject ingestor.runtime receipt merchantPublicKey = .ok result)
    (hok : result.ok = true) : ∃ commission protocolFee referrerCredit,
      ReceiptAmounts receipt commission protocolFee referrerCredit := by
  rw [verifySplit402ReceiptObject] at h
  obtain ⟨signature, -, h⟩ := bind_eq_ok.mp h
  obtain ⟨arithmetic, harithmetic, h⟩ := bind_eq_ok.mp h
  rw [pure_eq_ok] at h
  subst h
  exact receiptAmounts_of_verified harithmetic (List.append_eq_nil_iff.mp (errors_of_ok hok)).2

/-- The snapshot of a call names its receipt by id and hash. -/
theorem Snapshots.record {call : IngestCall} {receipt : Split402ReceiptV1} {receiptHash : String}
    {snapshot : ReceiptIngestionSnapshot} (h : Snapshots ingestor call receipt receiptHash snapshot) :
    snapshot.receipt.receipt = receipt ∧ snapshot.receipt.id = receipt.receiptId ∧
      snapshot.receipt.receiptHash = receiptHash := by
  obtain ⟨merchantPublicKey, result, hresult, hok⟩ := h.verified
  obtain ⟨commission, protocolFee, referrerCredit, hamounts⟩ := receiptAmounts_of_ok hresult hok
  obtain ⟨made, hmade, hreceipt, hid, hhash, -⟩ :=
    @createSnapshot_books _ ingestor call receipt receiptHash (call.source.getD .unknown) _ _ _ hamounts
  rw [h.created, Except.ok.injEq] at hmade
  rw [hmade]
  exact ⟨hreceipt, hid, hhash⟩

/-- A receipt the schema admits has all its route fields or none. -/
theorem hasRoute_of_schema {zod : Zod} {receipt : Split402ReceiptV1}
    (h : split402ReceiptV1Schema zod receipt = true) (hroute : receipt.routeId ≠ none) :
    receipt.hasRoute = true := by
  have hagree : receipt.routeFieldsAgree = true := by
    unfold split402ReceiptV1Schema at h
    exact (Bool.and_eq_true_iff.mp h).2
  unfold Split402ReceiptV1.routeFieldsAgree at hagree
  unfold Split402ReceiptV1.hasRoute
  cases hr : receipt.routeId <;> cases hw : receipt.referrerWallet <;>
    cases hp : receipt.payoutWallet <;> simp_all

/-- **Commission is booked.** The snapshot a call saves for a receipt with a route and a positive
commission holds the ledger transaction of that commission exactly when the protocol fee is not all
of it. -/
theorem commission_booked {call : IngestCall} {snapshot : ReceiptIngestionSnapshot}
    (h : Awaits (ingestor.ingest call) (.save snapshot))
    (hroute : snapshot.receipt.receipt.routeId ≠ none)
    (hpos : 0 < atomicOf snapshot.receipt.receipt.commissionAmountAtomic) :
    snapshot.booksCommission ↔ snapshot.receipt.receipt.protocolFeeBpsOfCommission ≠ 10000 := by
  obtain ⟨receipt, receiptHash, hsnapshot⟩ := snapshots_of_awaits h
  obtain ⟨merchantPublicKey, result, hresult, hok⟩ := hsnapshot.verified
  obtain ⟨commission, protocolFee, referrerCredit, hamounts⟩ := receiptAmounts_of_ok hresult hok
  obtain ⟨made, hmade, hreceipt, -, -, hbooks⟩ :=
    @createSnapshot_books _ ingestor call receipt receiptHash (call.source.getD .unknown) _ _ _ hamounts
  rw [hsnapshot.created, Except.ok.injEq] at hmade
  subst hmade
  rw [hreceipt] at hroute hpos ⊢
  have hschema := (Option.filter_eq_some_iff.mp hsnapshot.parsed).2
  refine hbooks (hasRoute_of_schema hschema hroute) ?_
  rw [atomicOf, hamounts.readCommission] at hpos
  exact hpos

/-! ## The sales -/

/-- The ingestor of the sample sales. -/
def sampleIngestor : ReceiptIngestor Whole := ⟨isoHost, Sample.saleRuntime, Sample.zod, fun _ => []⟩

/-- The call that submits a receipt, with the merchant's key and no policy verifier. -/
def sampleCall (receipt : Split402ReceiptV1) : IngestCall where
  receipt := some receipt
  source := some .buyer
  env := ⟨1767225600000, fun _ => "", fun _ => ""⟩
  idFactory := none
  merchantPublicKey := .ok (some Sample.merchantPublicKey)
  policy := .ok none

/-- A verified sale is saved. -/
theorem awaits_sale {receipt : Split402ReceiptV1} {commission protocolFee referrerCredit : Nat}
    (hschema : split402ReceiptV1Schema Sample.zod receipt = true)
    (hverifies : verifySplit402ReceiptObject Sample.saleRuntime receipt Sample.merchantPublicKey =
      .ok ⟨true, []⟩) (hamounts : ReceiptAmounts receipt commission protocolFee referrerCredit) :
    ∃ snapshot, Awaits (sampleIngestor.ingest (sampleCall receipt)) (.save snapshot) ∧
      snapshot.receipt.receipt = receipt ∧ (receipt.hasRoute = true → 0 < commission →
        (snapshot.booksCommission ↔ receipt.protocolFeeBpsOfCommission ≠ 10000)) := by
  obtain ⟨snapshot, hsnapshot, hreceipt, -, -, hbooks⟩ :=
    @createSnapshot_books _ sampleIngestor (sampleCall receipt) receipt _ .buyer _ _ _ hamounts
  have hparsed : sampleIngestor.safeParse (sampleCall receipt) = some receipt :=
    Option.filter_eq_some_iff.mpr ⟨rfl, hschema⟩
  have hsnapshots : Snapshots sampleIngestor (sampleCall receipt) receipt _ snapshot :=
    ⟨hparsed, hashReceipt_eq Sample.saleRuntime_standard receipt, ⟨_, _, hverifies, rfl⟩, hsnapshot⟩
  exact ⟨snapshot, hsnapshots.awaits, hreceipt, hbooks⟩

theorem freeSale_amounts : ReceiptAmounts Sample.freeSale 10 0 10 :=
  ⟨by decide, by decide, by decide, by decide, by decide, by decide⟩

theorem feeSale_amounts : ReceiptAmounts Sample.feeSale 10 10 0 :=
  ⟨by decide, by decide, by decide, by decide, by decide, by decide⟩

/-- The sale without a protocol fee is booked. -/
theorem commission_booked_freeSale :
    ∃ snapshot, Awaits (sampleIngestor.ingest (sampleCall Sample.freeSale)) (.save snapshot) ∧
      (snapshot.booksCommission ↔
        snapshot.receipt.receipt.protocolFeeBpsOfCommission ≠ 10000) := by
  obtain ⟨snapshot, hawaits, hreceipt, -⟩ :=
    awaits_sale Sample.freeSale_schema Sample.freeSale_verifies freeSale_amounts
  refine ⟨snapshot, hawaits, commission_booked hawaits ?_ ?_⟩
  · rw [hreceipt]
    decide
  · rw [hreceipt]
    decide

/-- A sale whose commission is all the protocol's is accepted, and its commission is not booked. -/
theorem not_commission_booked_feeSale :
    ¬ ∀ (call : IngestCall) (snapshot : ReceiptIngestionSnapshot),
      Awaits (sampleIngestor.ingest call) (.save snapshot) →
      snapshot.receipt.receipt.routeId ≠ none →
      0 < atomicOf snapshot.receipt.receipt.commissionAmountAtomic → snapshot.booksCommission := by
  intro h
  obtain ⟨snapshot, hawaits, hreceipt, hbooks⟩ :=
    awaits_sale Sample.feeSale_schema Sample.feeSale_verifies feeSale_amounts
  have hroute : snapshot.receipt.receipt.routeId ≠ none := by
    rw [hreceipt]
    decide
  have hpos : 0 < atomicOf snapshot.receipt.receipt.commissionAmountAtomic := by
    rw [hreceipt]
    decide
  exact (hbooks (by decide) (by decide)).mp (h _ snapshot hawaits hroute hpos) rfl

end ReceiptIngestor

end Split402

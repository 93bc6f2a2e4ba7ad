import Mathlib.Algebra.BigOperators.Ring.Finset
import Split402.Payouts.Finality
import Split402.Payouts.Ledger
import Split402.Payouts.Release
import Split402.Proof.BatchPlan

/-! # What the payout rules decide

One lemma for each rule both stores call: when a release is granted, which statuses a rollup can
give, and what a closing ledger transaction posts. -/

namespace Split402

open Base

variable {host : Host} {env : CallEnv}

/-! ## Release -/

/-- The transaction cannot land any more: it failed or expired in the store or in the chain
checks. -/
def ProvenDead (chainChecks : Option (List PayoutBatchReleaseChainCheck)) (id : String)
    (status : PayoutTransactionStatus) : Prop :=
  status.isDead = true ∨ isProvenDead chainChecks id = true

instance (chainChecks : Option (List PayoutBatchReleaseChainCheck)) (id : String)
    (status : PayoutTransactionStatus) : Decidable (ProvenDead chainChecks id status) :=
  inferInstanceAs (Decidable (_ ∨ _))

/-- Without an override, only dead transactions may carry an expected signature. -/
theorem assertPayoutBatchAllocationsReleasable_eq_ok
    {transactions : List PayoutBatchAllocationReleaseGuardTransaction}
    {chainChecks : Option (List PayoutBatchReleaseChainCheck)} {u : Unit}
    (h : assertPayoutBatchAllocationsReleasable transactions chainChecks none = .ok u) :
    ∀ transaction ∈ transactions, transaction.expectedSignature.isSome = true →
      ProvenDead chainChecks transaction.id transaction.status := by
  intro transaction ht hsig
  simp only [assertPayoutBatchAllocationsReleasable] at h
  split at h
  · rename_i hnil
    by_contra hne
    rw [ProvenDead, not_or, Bool.not_eq_true, Bool.not_eq_true] at hne
    -- otherwise the transaction is one of the hazards
    have hmem : transaction ∈ (listPayoutBatchAllocationReleaseHazards transactions).filter
        (fun transaction => !isProvenDead chainChecks transaction.id) := by
      simp [listPayoutBatchAllocationReleaseHazards, ht, hsig, hne]
    rw [hnil] at hmem
    exact List.not_mem_nil hmem
  · exact absurd h throw_ne_ok

theorem isOutcomeUnknownPayoutBatchReleaseProven_iff
    {transactions : List PayoutBatchAllocationReleaseGuardTransaction}
    {chainChecks : Option (List PayoutBatchReleaseChainCheck)} :
    isOutcomeUnknownPayoutBatchReleaseProven transactions chainChecks = true ↔
      transactions ≠ [] ∧ ∀ transaction ∈ transactions,
        ProvenDead chainChecks transaction.id transaction.status := by
  simp [isOutcomeUnknownPayoutBatchReleaseProven, ProvenDead]

/-- What a granted release says. -/
structure ReleaseGranted (batch : PayoutBatchRecord)
    (transactions : List PayoutBatchAllocationReleaseGuardTransaction)
    (input : ReleasePayoutBatchAllocationsInput) (released : PayoutBatchRecord) : Prop where
  released : ∃ failureMessage updatedAt, released = batch.released failureMessage updatedAt
  status : isPayoutBatchAllocationReleaseAllowed batch.status = true ∨
    (batch.status = .outcomeUnknown ∧
      isOutcomeUnknownPayoutBatchReleaseProven transactions input.chainChecks = true)
  guard : assertPayoutBatchAllocationsReleasable transactions input.chainChecks input.override =
    .ok ()

theorem planRelease_eq_ok {batch released : PayoutBatchRecord}
    {transactions : List PayoutBatchAllocationReleaseGuardTransaction}
    {input : ReleasePayoutBatchAllocationsInput}
    (h : planRelease host env batch transactions input = .ok released) :
    ReleaseGranted batch transactions input released := by
  rw [planRelease] at h
  obtain ⟨-, -, h⟩ := bind_eq_ok.mp h
  obtain ⟨released', hr, h⟩ := bind_eq_ok.mp h
  obtain ⟨u, hguard, h⟩ := bind_eq_ok.mp h
  rw [pure_eq_ok] at h
  subst h
  rw [releasePayoutBatchAllocationsForBatch] at hr
  obtain ⟨reason, -, hr⟩ := bind_eq_ok.mp hr
  obtain ⟨failureMessage, -, hr⟩ := bind_eq_ok.mp hr
  obtain ⟨updatedAt, -, hr⟩ := bind_eq_ok.mp hr
  split at hr
  · exact absurd hr throw_ne_ok
  · rename_i hstatus
    rw [pure_eq_ok] at hr
    refine ⟨⟨failureMessage, updatedAt, hr.symm⟩, ?_, hguard⟩
    simp only [Bool.and_eq_true, Bool.not_eq_true', not_and, Bool.not_eq_false,
      beq_iff_eq] at hstatus
    by_cases hallowed : isPayoutBatchAllocationReleaseAllowed batch.status = true
    · exact .inl hallowed
    · obtain ⟨hu, -, hp⟩ := hstatus (by simpa using hallowed)
      exact .inr ⟨hu, hp⟩

@[simp] theorem released_id (batch : PayoutBatchRecord) (message updatedAt : String) :
    (batch.released message updatedAt).id = batch.id := rfl

@[simp] theorem released_status (batch : PayoutBatchRecord) (message updatedAt : String) :
    (batch.released message updatedAt).status = .cancelled := rfl

/-- A release keeps the allocations in the record. -/
@[simp] theorem released_accrualIds (batch : PayoutBatchRecord) (message updatedAt : String) :
    (batch.released message updatedAt).accrualIds = batch.accrualIds := by
  simp [PayoutBatchRecord.released, PayoutBatchRecord.accrualIds, List.flatMap_map]

/-! ## Rollup -/

/-- A finalized item status comes from a finalized transaction only. -/
theorem payoutItemStatusForTransactionStatus_eq_finalized {status : PayoutTransactionStatus}
    (h : payoutItemStatusForTransactionStatus status = some .finalized) : status = .finalized := by
  cases status with
  | finalized => rfl
  | planned => cases h
  | signed => cases h
  | submitted => cases h
  | confirmed => cases h
  | expired => cases h
  | failed => cases h
  | outcomeUnknown => cases h

/-- No transaction releases an item. -/
theorem payoutItemStatusForTransactionStatus_ne_released (status : PayoutTransactionStatus) :
    payoutItemStatusForTransactionStatus status ≠ some .released := by
  cases status <;> exact fun h => nomatch h

/-- **No rollup cancels a batch.** -/
theorem rollupBatchStatus_ne_cancelled (terminalFailure : Option PayoutTransactionStatus)
    (statuses : List PayoutItemStatus) :
    rollupBatchStatus terminalFailure statuses ≠ .cancelled := by
  intro h
  unfold rollupBatchStatus at h
  split at h
  · cases h
  · cases h
  · cases h
  · split at h
    · cases h
    · split at h
      · cases h
      · split at h <;> cases h

/-- A batch with transactions is always rolled up, and never to `cancelled`. -/
theorem summarize_eq_some {batch : PayoutBatchRecord}
    {transactions : List PayoutTransactionRecord} {rollup : PayoutBatchTransactionItemRollup}
    (h : summarizePayoutBatchTransactionItemFinality host batch transactions = some rollup) :
    transactions ≠ [] ∧ rollup.batchStatus ≠ .cancelled := by
  rw [summarizePayoutBatchTransactionItemFinality] at h
  split at h
  · cases h
  · rename_i hne
    injection h with h
    subst h
    exact ⟨hne, rollupBatchStatus_ne_cancelled _ _⟩

/-- Only a batch without transactions is not rolled up. -/
theorem summarize_eq_none {batch : PayoutBatchRecord}
    {transactions : List PayoutTransactionRecord}
    (h : summarizePayoutBatchTransactionItemFinality host batch transactions = none) :
    transactions = [] := by
  rw [summarizePayoutBatchTransactionItemFinality] at h
  split at h
  · assumption
  · cases h

/-! ## Ledger closure -/

/-- The amount of an entry; zero when it is not a number. -/
def ledgerAmountOf (entry : LedgerEntry) : Int :=
  match readLedgerAmount entry.amountAtomic with
  | .ok amount => amount
  | .error _ => 0

/-- The sum of the referrer payable debits a ledger transaction posts. -/
def referrerPayableDebits (transaction : LedgerTransaction) : Int :=
  ((transaction.entries.filter (fun entry => entry.accountType = .referrerPayable)).map
    (fun entry => -ledgerAmountOf entry)).sum

/-- What an entry posts to the payable of a wallet in an asset. -/
def LedgerEntry.payableTo (entry : LedgerEntry) (wallet asset : String) : Int :=
  if entry.accountType = .referrerPayable ∧ entry.accountReference = wallet ∧ entry.asset = asset
  then ledgerAmountOf entry else 0

/-- What a ledger transaction posts to it. -/
def LedgerTransaction.payableTo (transaction : LedgerTransaction) (wallet asset : String) : Int :=
  (transaction.entries.map (fun entry => entry.payableTo wallet asset)).sum

/-- What the items of a batch pay to a wallet in an asset. -/
def PayoutBatchRecord.paysTo (batch : PayoutBatchRecord) (wallet asset : String) : Int :=
  (batch.items.map (fun item =>
    if item.destinationWallet = wallet ∧ batch.asset = asset then
      (atomicOf item.amountAtomic : Int) else 0)).sum

/-- What the items of a batch are worth. -/
def PayoutBatchRecord.itemTotal (batch : PayoutBatchRecord) : Nat :=
  (batch.items.map (fun item => atomicOf item.amountAtomic)).sum

/-- A negated amount is read back as a negative number. -/
theorem readLedgerAmount_neg (n : Nat) : readLedgerAmount ("-" ++ toString n) = .ok (-(n : Int)) := by
  have hlist : ("-" ++ toString n).toList = '-' :: (toString n).toList := by simp
  have hparse : parseAtomicAmount (toString n) = some n := Base.Decimal.parse_toString n
  rw [readLedgerAmount, hlist]
  simp only [String.ofList_toList, hparse]
  rfl

theorem createPayableEntry_eq_ok {batch : PayoutBatchRecord} {transactionId entryId : String}
    {item : PayoutItemRecord} {entry : LedgerEntry}
    (h : createPayableEntry batch transactionId entryId item = .ok entry) :
    entry.accountType = .referrerPayable ∧ entry.transactionId = transactionId ∧
      ledgerAmountOf entry = -(atomicOf item.amountAtomic : Int) ∧
      entry.accountReference = item.destinationWallet ∧ entry.asset = batch.asset := by
  rw [createPayableEntry] at h
  obtain ⟨id, -, h⟩ := bind_eq_ok.mp h
  obtain ⟨amountAtomic, ha, h⟩ := bind_eq_ok.mp h
  rw [pure_eq_ok] at h
  subst h
  rw [negatePositiveAtomic] at ha
  obtain ⟨amount, hread, ha⟩ := bind_eq_ok.mp ha
  rw [pure_eq_ok] at ha
  subst ha
  obtain ⟨hparse, -⟩ := readPositiveAtomicAmount_eq_ok.mp hread
  refine ⟨rfl, rfl, ?_, rfl, rfl⟩
  rw [ledgerAmountOf, readLedgerAmount_neg, atomicOf, hparse]
  rfl

/-- What a closing ledger transaction says about its batch. -/
structure ClosesBatch (batch : PayoutBatchRecord) (transaction : LedgerTransaction) : Prop where
  finalized : batch.status = .finalized
  itemsFinalized : ∀ item ∈ batch.items, item.status = .finalized
  nonempty : batch.items ≠ []
  sourceId : transaction.sourceId = batch.id
  sourceType : transaction.sourceType = .payoutBatch
  entryTransactions : ∀ entry ∈ transaction.entries, entry.transactionId = transaction.id
  /-- the debits add up to the items -/
  debits : referrerPayableDebits transaction = batch.itemTotal
  /-- each wallet is debited with its items -/
  payable : ∀ wallet asset, transaction.payableTo wallet asset = -batch.paysTo wallet asset

theorem createPayoutFinalizationLedgerTransaction_eq_ok {batch : PayoutBatchRecord}
    {input : ClosePayoutBatchLedgerInput} {transaction : LedgerTransaction}
    (h : createPayoutFinalizationLedgerTransaction host env batch input = .ok transaction) :
    ClosesBatch batch transaction := by
  rw [createPayoutFinalizationLedgerTransaction] at h
  split at h
  · exact absurd h throw_ne_ok
  rename_i hstatus
  split at h
  · exact absurd h throw_ne_ok
  rename_i hnil
  split at h
  · exact absurd h throw_ne_ok
  rename_i hitems
  obtain ⟨createdAt, -, h⟩ := bind_eq_ok.mp h
  obtain ⟨transactionId, -, h⟩ := bind_eq_ok.mp h
  obtain ⟨amounts, -, h⟩ := bind_eq_ok.mp h
  dsimp only at h
  split at h
  · exact absurd h throw_ne_ok
  obtain ⟨liabilityId, -, h⟩ := bind_eq_ok.mp h
  obtain ⟨payables, hpay, h⟩ := bind_eq_ok.mp h
  obtain ⟨-, -, h⟩ := bind_eq_ok.mp h
  rw [pure_eq_ok] at h
  subst h
  have hentry : ∀ entry ∈ payables, entry.accountType = .referrerPayable ∧
      entry.transactionId = transactionId := by
    intro entry he
    obtain ⟨p, -, hp⟩ := exists_of_mem_mapM hpay he
    exact ⟨(createPayableEntry_eq_ok hp).1, (createPayableEntry_eq_ok hp).2.1⟩
  refine ⟨by simpa using hstatus, by simpa using hitems, hnil, rfl, rfl, ?_, ?_, ?_⟩
  · intro entry he
    rcases List.mem_cons.mp he with rfl | he
    · rfl
    · exact (hentry entry he).2
  · have hfilter : payables.filter (fun entry => entry.accountType = .referrerPayable) = payables :=
      List.filter_eq_self.mpr (fun entry he => by simp [(hentry entry he).1])
    have hmap := map_eq_of_mapM
      (g := fun p : PayoutItemRecord × Nat => (atomicOf p.1.amountAtomic : Int))
      (k := fun entry => -ledgerAmountOf entry) hpay
      (fun p entry hp => by rw [(createPayableEntry_eq_ok hp).2.2.1, Int.neg_neg])
    have hfst : batch.items.zipIdx.map (fun p => (atomicOf p.1.amountAtomic : Int)) =
        (batch.items.map (fun item => atomicOf item.amountAtomic)).map (fun n : Nat => (n : Int)) := by
      calc batch.items.zipIdx.map (fun p => (atomicOf p.1.amountAtomic : Int))
          = (batch.items.zipIdx.map Prod.fst).map
              (fun item => (atomicOf item.amountAtomic : Int)) := by
            rw [List.map_map]
            rfl
        _ = _ := by
            rw [List.zipIdx_map_fst, List.map_map]
            rfl
    simp only [referrerPayableDebits, List.filter_cons, reduceCtorEq, decide_false,
      Bool.false_eq_true, if_false, hfilter]
    rw [← hmap, hfst, PayoutBatchRecord.itemTotal]
    exact (Nat.cast_list_sum _).symm
  · intro wallet asset
    have hmap := map_eq_of_mapM
      (g := fun p : PayoutItemRecord × Nat =>
        -(if p.1.destinationWallet = wallet ∧ batch.asset = asset then
          (atomicOf p.1.amountAtomic : Int) else 0))
      (k := fun entry => entry.payableTo wallet asset) hpay
      (fun p entry hp => by
        obtain ⟨htype, -, hamount, hwallet, hasset⟩ := createPayableEntry_eq_ok hp
        simp only [LedgerEntry.payableTo, htype, hamount, hwallet, hasset, true_and]
        split <;> simp)
    have hfst : batch.items.zipIdx.map (fun p =>
        -(if p.1.destinationWallet = wallet ∧ batch.asset = asset then
          (atomicOf p.1.amountAtomic : Int) else 0)) =
        (batch.items.zipIdx.map Prod.fst).map (fun item =>
          -(if item.destinationWallet = wallet ∧ batch.asset = asset then
            (atomicOf item.amountAtomic : Int) else 0)) := by
      rw [List.map_map]
      rfl
    -- the credit of the liability is not a payable
    have hhead : ∀ entry : LedgerEntry, entry.accountType = .merchantCommissionLiability →
        entry.payableTo wallet asset = 0 := by
      intro entry htype
      simp [LedgerEntry.payableTo, htype]
    rw [LedgerTransaction.payableTo, List.map_cons, List.sum_cons, hhead _ rfl, zero_add, ← hmap,
      hfst, List.zipIdx_map_fst, PayoutBatchRecord.paysTo, List.sum_neg, List.map_map]
    rfl

/-- When every item is finalized, the finalized items allocate everything. -/
theorem ClosesBatch.finalizedAccrualIds {batch : PayoutBatchRecord}
    {transaction : LedgerTransaction} (h : ClosesBatch batch transaction) :
    batch.finalizedAccrualIds = batch.accrualIds := by
  have hfilter : batch.items.filter (fun item => item.status = .finalized) = batch.items :=
    List.filter_eq_self.mpr (fun item hi => by simp [h.itemsFinalized item hi])
  rw [PayoutBatchRecord.finalizedAccrualIds, hfilter, PayoutBatchRecord.accrualIds]

/-- A planned batch owes what its accruals are worth. -/
theorem PlannedBatch.itemTotal_eq {accruals : List CommissionAccrual} {batch : PayoutBatchRecord}
    (h : PlannedBatch accruals batch) {worth : String → Nat}
    (hworth : ∀ accrual ∈ accruals, worth accrual.id = atomicOf accrual.amountAtomic) :
    batch.itemTotal = (batch.accrualIds.map worth).sum := by
  have hitem : ∀ item ∈ batch.items, atomicOf item.amountAtomic =
      ((item.allocations.map PayoutAllocationRecord.accrualId).map worth).sum := by
    intro item hi
    rw [h.itemAmount item hi, atomicOf_serialize, List.map_map]
    congr 1
    refine List.map_congr_left fun allocation ha => ?_
    obtain ⟨-, accrual, hmem, hid, hamount, -⟩ := h.allocation item hi allocation ha
    rw [Function.comp_apply, ← hid, hworth accrual hmem, hamount]
  rw [PayoutBatchRecord.itemTotal, List.map_congr_left hitem, PayoutBatchRecord.accrualIds,
    List.map_flatMap, List.flatMap_def, List.sum_flatten, List.map_map]
  rfl

end Split402

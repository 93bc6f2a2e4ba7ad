import Split402.Base.SortOrder
import Split402.Payouts.Reconciliation
import Split402.Proof.MemoryOps
import Split402.Proof.Rollup

/-! # Whether an unknown outcome shows in its batch

The latest attempts are sorted by their sequences, which differ, so the first terminal failure is the
one of least sequence whatever the locale does. The batch has an unknown outcome exactly when that
one expired or is unknown: a failed attempt of a lower sequence speaks for all of them, and the batch
is not listed for reconciliation. -/

namespace Split402

open Base

variable {host : Host}

/-! ## The order of the latest attempts -/

theorem comparePayoutTransactions_followsKey (host : Host) :
    FollowsKey (comparePayoutTransactions host) PayoutTransactionRecord.sequence := by
  intro a b hne
  rw [comparePayoutTransactions]
  rcases lt_or_gt_of_ne hne with hlt | hlt
  · rw [compare_lt_iff_lt.mpr hlt]
    simp [hlt.le]
  · rw [compare_gt_iff_gt.mpr hlt]
    simp [hlt]

/-- The latest attempts come in the order of their sequences. -/
theorem pairwise_latest (host : Host) (transactions : List PayoutTransactionRecord) :
    (latestAttemptBySequence host transactions).Pairwise (fun t u => t.sequence < u.sequence) :=
  pairwise_sortBy_key (comparePayoutTransactions_followsKey host) (Table.nodup _)

theorem eq_of_mem_latest {transactions : List PayoutTransactionRecord}
    {t u : PayoutTransactionRecord} (ht : t ∈ latestAttemptBySequence host transactions)
    (hu : u ∈ latestAttemptBySequence host transactions) (h : t.sequence = u.sequence) : t = u := by
  rw [latestAttemptBySequence, mem_sortBy] at ht hu
  exact Table.eq_of_key ht hu h

/-! ## The first terminal failure -/

theorem isTerminalFailure_iff (t : PayoutTransactionRecord) :
    t.status.isTerminalFailure = true ↔
      t.status = .failed ∨ isPayoutTransactionOutcomeUnknown t = true := by
  simp only [PayoutTransactionStatus.isTerminalFailure, isPayoutTransactionOutcomeUnknown,
    Bool.or_eq_true, beq_iff_eq]
  tauto

/-- A latest attempt failed, and every one whose outcome is unknown has a greater sequence. -/
def MaskedByFailedAttempt (host : Host) (transactions : List PayoutTransactionRecord) : Prop :=
  ∃ f ∈ latestAttemptBySequence host transactions, f.status = .failed ∧
    ∀ t ∈ latestAttemptBySequence host transactions,
      isPayoutTransactionOutcomeUnknown t = true → f.sequence < t.sequence

section Rollup

variable {batch : PayoutBatchRecord} {transactions : List PayoutTransactionRecord}

/-- The attempt that speaks for a batch with an unknown outcome. -/
theorem exists_first_terminalFailure
    (hunknown : ∃ t ∈ latestAttemptBySequence host transactions,
      isPayoutTransactionOutcomeUnknown t = true) :
    ∃ first, (latestAttemptBySequence host transactions).find?
        (fun t => t.status.isTerminalFailure) = some first ∧
      first ∈ latestAttemptBySequence host transactions ∧
      first.status.isTerminalFailure = true ∧
      ∀ t ∈ latestAttemptBySequence host transactions,
        t.status.isTerminalFailure = true → first.sequence ≤ t.sequence := by
  obtain ⟨u, hu, hunknown⟩ := hunknown
  cases hfind : (latestAttemptBySequence host transactions).find?
      (fun t => t.status.isTerminalFailure) with
  | none =>
      have hnot := List.find?_eq_none.mp hfind u hu
      exact absurd ((isTerminalFailure_iff u).mpr (.inr hunknown)) hnot
  | some first =>
      exact ⟨first, rfl, (find?_eq_some_iff_of_pairwise (pairwise_latest host _)).mp hfind⟩

theorem map_batchStatus_summarize (hne : transactions ≠ []) {first : PayoutTransactionRecord}
    (hfind : (latestAttemptBySequence host transactions).find?
      (fun t => t.status.isTerminalFailure) = some first) :
    ∃ statuses, (summarizePayoutBatchTransactionItemFinality host batch transactions).map
      PayoutBatchTransactionItemRollup.batchStatus =
        some (rollupBatchStatus (some first.status) statuses) := by
  rw [summarizePayoutBatchTransactionItemFinality, if_neg hne]
  simp only [hfind, Option.map_some]
  exact ⟨_, rfl⟩

/-- **A batch of which some outcome is unknown says so unless a failed attempt masks it.** -/
theorem batchStatus_unknown_iff
    (hunknown : ∃ t ∈ latestAttemptBySequence host transactions,
      isPayoutTransactionOutcomeUnknown t = true) :
    (summarizePayoutBatchTransactionItemFinality host batch transactions).map
        PayoutBatchTransactionItemRollup.batchStatus = some .outcomeUnknown ↔
      ¬ MaskedByFailedAttempt host transactions := by
  have hne : transactions ≠ [] := by
    rintro rfl
    obtain ⟨t, ht, -⟩ := hunknown
    exact absurd (mem_of_mem_latest ht) List.not_mem_nil
  obtain ⟨first, hfind, hmem, hfails, hleast⟩ := exists_first_terminalFailure hunknown
  obtain ⟨statuses, hstatus⟩ := @map_batchStatus_summarize host batch _ hne _ hfind
  rw [hstatus, Option.some_inj]
  rcases (isTerminalFailure_iff first).mp hfails with hfailed | hfirst
  · -- the first one failed, and it masks the others
    rw [hfailed]
    have hmasked : MaskedByFailedAttempt host transactions := by
      refine ⟨first, hmem, hfailed, ?_⟩
      intro t ht hout
      have hle := hleast t ht ((isTerminalFailure_iff t).mpr (.inr hout))
      refine lt_of_le_of_ne hle fun heq => ?_
      have hsame : first = t := eq_of_mem_latest hmem ht heq
      subst hsame
      simp [isPayoutTransactionOutcomeUnknown, hfailed] at hout
    constructor
    · intro h
      cases h
    · intro hmask
      exact absurd hmasked hmask
  · have hstatus : rollupBatchStatus (some first.status) statuses = .outcomeUnknown := by
      simp only [isPayoutTransactionOutcomeUnknown, Bool.or_eq_true, beq_iff_eq] at hfirst
      rcases hfirst with h | h <;> rw [h] <;> rfl
    refine ⟨?_, fun _ => hstatus⟩
    rintro - ⟨f, hf, hfailed, hbefore⟩
    have hlt := hbefore first hmem hfirst
    have hle := hleast f hf ((isTerminalFailure_iff f).mpr (.inl hfailed))
    omega

end Rollup

/-! ## The list of batches to reconcile -/

theorem sliceTo_of_length_le {α : Type} {list : List α} {stop : Int} (h : list.length ≤ stop) :
    sliceTo list stop = list := by
  rw [sliceTo, if_neg (by omega), List.take_of_length_le (by omega)]

theorem createPayoutReconciliationItem_eq_some {batch : PayoutBatchRecord}
    {transactions : List PayoutTransactionRecord} {item : PayoutReconciliationItem}
    (h : createPayoutReconciliationItem batch transactions = some item) :
    item.batch = batch ∧ batch.status = .outcomeUnknown := by
  rw [createPayoutReconciliationItem] at h
  split at h
  · cases h
  · rename_i hstatus
    dsimp only at h
    split at h
    · cases h
    · injection h with h
      subst h
      exact ⟨rfl, not_not.mp hstatus⟩

theorem exists_createPayoutReconciliationItem {batch : PayoutBatchRecord}
    {transactions : List PayoutTransactionRecord} (hstatus : batch.status = .outcomeUnknown)
    (hunknown : ∃ t ∈ transactions, isPayoutTransactionOutcomeUnknown t = true) :
    ∃ item, createPayoutReconciliationItem batch transactions = some item ∧
      item.batch = batch := by
  have hne : transactions.filter isPayoutTransactionOutcomeUnknown ≠ [] := by
    obtain ⟨t, ht, hout⟩ := hunknown
    exact List.ne_nil_of_mem (List.mem_filter.mpr ⟨ht, hout⟩)
  refine ⟨⟨batch, transactions.filter isPayoutTransactionOutcomeUnknown, .outcomeUnknown,
    .requeryChainBeforeRetry⟩, ?_, rfl⟩
  rw [createPayoutReconciliationItem, if_neg (not_not.mpr hstatus)]
  exact if_neg hne

namespace Memory

variable {store : Memory} {input : ListPayoutReconciliationItemsInput}

/-- A listing that is not cut off lists the batches it selects. -/
theorem mem_listPayoutReconciliationItems
    (hlimit : store.payoutBatchesById.rows.length ≤ input.limit.getD 50)
    {item : PayoutReconciliationItem} :
    item ∈ store.listPayoutReconciliationItems host input ↔
      ∃ batch ∈ store.payoutBatchesById, input.selects batch = true ∧
        createPayoutReconciliationItem batch (store.listPayoutTransactions host batch.id) =
          some item := by
  have hlen : (sortBy (comparePayoutBatchesForReconciliation host)
      ((store.payoutBatchesById.rows.filter
        (fun batch => batch.status = .outcomeUnknown)).filter input.selects)).length ≤
        input.limit.getD 50 := by
    have h1 := (sortBy_perm (comparePayoutBatchesForReconciliation host)
      ((store.payoutBatchesById.rows.filter
        (fun batch => batch.status = .outcomeUnknown)).filter input.selects)).length_eq
    have h2 := List.length_filter_le input.selects (store.payoutBatchesById.rows.filter
      (fun batch => batch.status = .outcomeUnknown))
    have h3 := List.length_filter_le (fun batch : PayoutBatchRecord =>
      decide (batch.status = .outcomeUnknown)) store.payoutBatchesById.rows
    omega
  simp only [listPayoutReconciliationItems, sliceTo_of_length_le hlen, List.mem_filterMap,
    mem_sortBy, List.mem_filter, decide_eq_true_eq]
  constructor
  · rintro ⟨batch, ⟨⟨hmem, -⟩, hselects⟩, hitem⟩
    exact ⟨batch, hmem, hselects, hitem⟩
  · rintro ⟨batch, hmem, hselects, hitem⟩
    exact ⟨batch, ⟨⟨hmem, (createPayoutReconciliationItem_eq_some hitem).2⟩, hselects⟩, hitem⟩

/-- **Rolled up, a batch of which some outcome is unknown is listed unless a failed attempt masks
it.** -/
theorem listed_after_rollUp_iff {batch : PayoutBatchRecord} (updatedAt : String)
    (hbatch : store.payoutBatchesById.find? batch.id = some batch)
    (hunknown : ∃ t ∈ latestAttemptBySequence host (store.listPayoutTransactions host batch.id),
      isPayoutTransactionOutcomeUnknown t = true)
    (hselects : input.selects batch = true)
    (hlimit : store.payoutBatchesById.rows.length ≤ input.limit.getD 50) :
    (∃ item ∈ (store.rollUpPayoutBatchFinality host batch.id updatedAt).listPayoutReconciliationItems
        host input, item.batch.id = batch.id) ↔
      ¬ MaskedByFailedAttempt host (store.listPayoutTransactions host batch.id) := by
  obtain ⟨u, hu, hout⟩ := hunknown
  rcases rollUpPayoutBatchFinality_cases host store batch.id updatedAt with
    ⟨-, hnone | hnone⟩ | ⟨batch', rollup, hbatch', hrollup, hstore⟩
  · rw [hbatch] at hnone
    cases hnone
  · have hmem := mem_of_mem_latest hu
    rw [hnone] at hmem
    cases hmem
  · rw [hbatch] at hbatch'
    injection hbatch' with hbatch'
    subst hbatch'
    have hiff := @batchStatus_unknown_iff host batch _ ⟨u, hu, hout⟩
    rw [hrollup, Option.map_some, Option.some_inj] at hiff
    rw [← hiff, hstore]
    -- the rollup puts its own batch in the place of the one that was there
    have hrows : (store.payoutBatchesById.upsert
        (rolledUpBatch batch rollup updatedAt)).rows.length ≤ input.limit.getD 50 := by
      rw [Table.rows_upsert_of_mem (f := fun _ => rolledUpBatch batch rollup updatedAt)
        (Table.mem_of_find? hbatch) rfl, List.length_map]
      exact hlimit
    have hlisted := @mem_listPayoutReconciliationItems host { store with
      payoutBatchesById := store.payoutBatchesById.upsert (rolledUpBatch batch rollup updatedAt) }
      input hrows
    constructor
    · rintro ⟨item, hmem, hid⟩
      obtain ⟨b, hb, -, hitem⟩ := hlisted.mp hmem
      obtain ⟨hitemBatch, hstatus⟩ := createPayoutReconciliationItem_eq_some hitem
      rcases Table.mem_upsert.mp hb with rfl | ⟨-, hne⟩
      · exact hstatus
      · exact absurd (hitemBatch ▸ hid) hne
    · intro hstatus
      obtain ⟨item, hitem, hitemBatch⟩ :=
        @exists_createPayoutReconciliationItem (rolledUpBatch batch rollup updatedAt)
          (store.listPayoutTransactions host batch.id) hstatus ⟨u, mem_of_mem_latest hu, hout⟩
      refine ⟨item, hlisted.mpr ⟨_, Table.mem_upsert.mpr (.inl rfl), hselects, hitem⟩, ?_⟩
      rw [hitemBatch]
      rfl

end Memory

/-! ## Unknown outcomes -/

/-- **Unknown outcomes are masked by failed attempts of lower sequences, and by nothing else.** Where
some latest attempt expired or is unknown, the rollup makes the batch one of unknown outcome, and
the store lists it for reconciliation, unless a latest attempt of a lower sequence than all of these
failed. -/
theorem unknown_outcomes_shown {batch : PayoutBatchRecord}
    {transactions : List PayoutTransactionRecord}
    (hunknown : ∃ t ∈ latestAttemptBySequence host transactions,
      isPayoutTransactionOutcomeUnknown t = true) :
    ((summarizePayoutBatchTransactionItemFinality host batch transactions).map
        PayoutBatchTransactionItemRollup.batchStatus = some .outcomeUnknown ↔
      ¬ MaskedByFailedAttempt host transactions) ∧
    ∀ (store : Memory) (updatedAt : String) (input : ListPayoutReconciliationItemsInput),
      store.payoutBatchesById.find? batch.id = some batch →
      store.listPayoutTransactions host batch.id = transactions →
      input.selects batch = true →
      store.payoutBatchesById.rows.length ≤ input.limit.getD 50 →
      ((∃ item ∈ (store.rollUpPayoutBatchFinality host batch.id
          updatedAt).listPayoutReconciliationItems host input, item.batch.id = batch.id) ↔
        ¬ MaskedByFailedAttempt host transactions) := by
  refine ⟨batchStatus_unknown_iff hunknown, ?_⟩
  intro store updatedAt input hbatch hlist hselects hlimit
  subst hlist
  exact Memory.listed_after_rollUp_iff updatedAt hbatch hunknown hselects hlimit

/-! ## A failed attempt before an unknown one -/

def signedAttempt (sequence : Int) (status : PayoutTransactionStatus) : PayoutTransactionRecord where
  id := "ptx_" ++ toString sequence
  payoutBatchId := "pbt_1"
  sequence := sequence
  attempt := 1
  recentBlockhash := none
  lastValidBlockHeight := none
  signedTransactionBase64 := some "AQ=="
  expectedSignature := some ("signature" ++ toString sequence)
  status := status
  submittedAt := some "2026-01-01T00:00:00.000Z"
  confirmedAt := none
  finalizedAt := none
  error := none
  createdAt := "2026-01-01T00:00:00.000Z"
  items := []

/-- A batch of two items, each paid by a transaction of its own. -/
def batchOfTwo : PayoutBatchRecord where
  id := "pbt_1"
  merchantId := "mrc_1"
  payoutWalletId := "pwl_1"
  network := "solana:devnet"
  asset := "mint"
  status := .submitted
  totalAmountAtomic := "20"
  itemCount := 2
  accrualCount := 0
  failureCode := none
  failureMessage := none
  createdAt := "2026-01-01T00:00:00.000Z"
  updatedAt := "2026-01-01T00:00:00.000Z"
  items := [
    ⟨"pit_0", "pbt_1", "wallet0", none, "10", .submitted, "2026-01-01T00:00:00.000Z", []⟩,
    ⟨"pit_1", "pbt_1", "wallet1", none, "10", .submitted, "2026-01-01T00:00:00.000Z", []⟩]

/-- Of two transactions with different sequences, both are latest attempts. -/
theorem mem_latest_pair {t u : PayoutTransactionRecord} (hne : t.sequence ≠ u.sequence)
    (v : PayoutTransactionRecord) :
    v ∈ latestAttemptBySequence host [t, u] ↔ v = t ∨ v = u := by
  have hpair : ∀ w ∈ latestAttemptBySequence host [t, u], w = t ∨ w = u := by
    intro w hw
    simpa using mem_of_mem_latest hw
  constructor
  · exact hpair v
  · intro hv
    obtain ⟨w, hw, hseq, -⟩ := exists_latest host (show v ∈ [t, u] by simpa using hv)
    have hsame : w = v := by
      rcases hv with rfl | rfl
      · rcases hpair w hw with h | rfl
        · exact h
        · exact absurd hseq.symm hne
      · rcases hpair w hw with rfl | h
        · exact absurd hseq hne
        · exact h
    exact hsame ▸ hw

theorem unknown_outcomes_shown_sample :
    (summarizePayoutBatchTransactionItemFinality isoHost batchOfTwo
      [signedAttempt 0 .outcomeUnknown, signedAttempt 1 .failed]).map
        PayoutBatchTransactionItemRollup.batchStatus = some .outcomeUnknown := by
  have hmem := @mem_latest_pair isoHost (signedAttempt 0 .outcomeUnknown)
    (signedAttempt 1 .failed) (by decide)
  refine (unknown_outcomes_shown ⟨_, (hmem _).mpr (.inl rfl), rfl⟩).1.mpr ?_
  rintro ⟨f, hf, -, hbefore⟩
  have hlt := hbefore _ ((hmem _).mpr (.inl rfl)) rfl
  rcases (hmem f).mp hf with rfl | rfl
  · exact absurd hlt (by decide)
  · exact absurd hlt (by decide)

theorem not_unknown_outcomes_shown :
    ¬ ∀ (batch : PayoutBatchRecord) (transactions : List PayoutTransactionRecord),
      (∃ t ∈ latestAttemptBySequence isoHost transactions,
        isPayoutTransactionOutcomeUnknown t = true) →
      (summarizePayoutBatchTransactionItemFinality isoHost batch transactions).map
        PayoutBatchTransactionItemRollup.batchStatus = some .outcomeUnknown := by
  intro h
  have hmem := @mem_latest_pair isoHost (signedAttempt 0 .failed)
    (signedAttempt 1 .outcomeUnknown) (by decide)
  have hunknown : ∃ t ∈ latestAttemptBySequence isoHost
      [signedAttempt 0 .failed, signedAttempt 1 .outcomeUnknown],
      isPayoutTransactionOutcomeUnknown t = true := ⟨_, (hmem _).mpr (.inr rfl), rfl⟩
  refine (batchStatus_unknown_iff hunknown).mp (h batchOfTwo _ hunknown)
    ⟨_, (hmem _).mpr (.inl rfl), rfl, ?_⟩
  intro t ht hout
  rcases (hmem t).mp ht with rfl | rfl
  · cases hout
  · decide

end Split402

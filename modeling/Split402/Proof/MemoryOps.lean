import Mathlib.Data.List.Pairwise
import Split402.Proof.PayoutRules
import Split402.Store.Memory

/-! # What the operations of the in-memory store do

One lemma for each operation: what it leaves when it returns. Nothing below this file unfolds
an operation. The accruals of a store are its list `listAccruals`; the operations change it by
mapping over it, so that lookups by id follow from one lemma. -/

namespace Split402

open Base

variable {host : Host} {env : CallEnv}

/-- The status a change leaves. -/
def CommissionAccrual.withStatusIf (accrual : CommissionAccrual)
    (select : CommissionAccrual → Bool) (status : AccrualStatus) : CommissionAccrual :=
  if select accrual then { accrual with status := status } else accrual

@[simp] theorem CommissionAccrual.withStatusIf_id (accrual : CommissionAccrual)
    (select : CommissionAccrual → Bool) (status : AccrualStatus) :
    (accrual.withStatusIf select status).id = accrual.id := by
  rw [withStatusIf]
  split <;> rfl

@[simp] theorem CommissionAccrual.withStatusIf_amountAtomic (accrual : CommissionAccrual)
    (select : CommissionAccrual → Bool) (status : AccrualStatus) :
    (accrual.withStatusIf select status).amountAtomic = accrual.amountAtomic := by
  rw [withStatusIf]
  split <;> rfl

namespace Memory

variable {store store' : Memory}

/-! ## Writing snapshots -/

@[simp] theorem save_receiptsById (snapshot : ReceiptIngestionSnapshot) :
    (store.save snapshot).receiptsById = store.receiptsById.upsert snapshot := rfl

@[simp] theorem save_batches (snapshot : ReceiptIngestionSnapshot) :
    (store.save snapshot).payoutBatchesById = store.payoutBatchesById := rfl

@[simp] theorem save_transactions (snapshot : ReceiptIngestionSnapshot) :
    (store.save snapshot).payoutTransactionsById = store.payoutTransactionsById := rfl

@[simp] theorem save_ledgers (snapshot : ReceiptIngestionSnapshot) :
    (store.save snapshot).payoutLedgerTransactionsByBatchId =
      store.payoutLedgerTransactionsByBatchId := rfl

theorem foldl_save (snapshots : List ReceiptIngestionSnapshot) :
    (snapshots.foldl save store).receiptsById = store.receiptsById.upsertAll snapshots ∧
    (snapshots.foldl save store).payoutBatchesById = store.payoutBatchesById ∧
    (snapshots.foldl save store).payoutTransactionsById = store.payoutTransactionsById ∧
    (snapshots.foldl save store).payoutLedgerTransactionsByBatchId =
      store.payoutLedgerTransactionsByBatchId := by
  induction snapshots generalizing store with
  | nil => exact ⟨rfl, rfl, rfl, rfl⟩
  | cons snapshot snapshots ih => exact @ih (store.save snapshot)

section SetAccrualStatus

variable (select : CommissionAccrual → Bool) (status : AccrualStatus)

theorem setAccrualStatus_rows :
    (store.setAccrualStatus select status).receiptsById.rows =
      store.receiptsById.rows.map (fun snapshot =>
        if snapshot.accrual.any select then snapshot.withAccrualStatus status else snapshot) := by
  rw [setAccrualStatus, (foldl_save _).1]
  exact Table.rows_upsertAll_filter_map
    (f := fun snapshot => snapshot.withAccrualStatus status) (fun _ => rfl) store.receiptsById _

@[simp] theorem setAccrualStatus_batches :
    (store.setAccrualStatus select status).payoutBatchesById = store.payoutBatchesById :=
  (foldl_save _).2.1

@[simp] theorem setAccrualStatus_transactions :
    (store.setAccrualStatus select status).payoutTransactionsById =
      store.payoutTransactionsById := (foldl_save _).2.2.1

@[simp] theorem setAccrualStatus_ledgers :
    (store.setAccrualStatus select status).payoutLedgerTransactionsByBatchId =
      store.payoutLedgerTransactionsByBatchId := (foldl_save _).2.2.2

/-- The loop over the snapshots changes the status of the selected accruals. -/
@[simp] theorem listAccruals_setAccrualStatus :
    (store.setAccrualStatus select status).listAccruals =
      store.listAccruals.map (fun accrual => accrual.withStatusIf select status) := by
  rw [listAccruals, setAccrualStatus_rows, listAccruals, List.filterMap_map, List.map_filterMap]
  congr 1
  funext snapshot
  cases ha : snapshot.accrual with
  | none => simp [ha]
  | some accrual =>
      by_cases hs : select accrual = true
      · simp [ha, hs, ReceiptIngestionSnapshot.withAccrualStatus, CommissionAccrual.withStatusIf]
      · simp [ha, hs, CommissionAccrual.withStatusIf]

end SetAccrualStatus

/-! ## Receipts -/

/-- A new snapshot appends its accrual. -/
theorem listAccruals_save_new {snapshot : ReceiptIngestionSnapshot}
    (h : store.receiptsById.has snapshot.receipt.id = false) :
    (store.save snapshot).listAccruals = store.listAccruals ++ snapshot.accrual.toList := by
  rw [listAccruals, save_receiptsById, Table.rows_upsert_of_new (Table.has_eq_false.mp h),
    List.filterMap_append]
  cases ha : snapshot.accrual <;> simp [listAccruals, ha]

/-- Two snapshots with accruals of one id are the same. -/
theorem snapshot_of_accrual_id (hids : (store.listAccruals.map CommissionAccrual.id).Nodup)
    {s t : ReceiptIngestionSnapshot} (hs : s ∈ store.receiptsById) (ht : t ∈ store.receiptsById)
    {a b : CommissionAccrual} (ha : s.accrual = some a) (hb : t.accrual = some b)
    (hid : a.id = b.id) : s = t := by
  by_contra hne
  have hpair := List.pairwise_filterMap.mp (List.pairwise_map.mp hids)
  have hsymm : Std.Symm (fun s t : ReceiptIngestionSnapshot =>
      ∀ a, s.accrual = some a → ∀ b, t.accrual = some b → a.id ≠ b.id) :=
    ⟨fun _ _ h a ha b hb => (h b hb a ha).symm⟩
  exact hpair.forall hs ht hne a ha b hb hid

/-- Writing a snapshot back with its accrual changed changes that accrual. -/
theorem listAccruals_save_changed (hids : (store.listAccruals.map CommissionAccrual.id).Nodup)
    {snapshot : ReceiptIngestionSnapshot} (hmem : snapshot ∈ store.receiptsById)
    {change : ReceiptIngestionSnapshot → ReceiptIngestionSnapshot}
    {f : CommissionAccrual → CommissionAccrual}
    (hkey : (change snapshot).receipt.id = snapshot.receipt.id)
    (hacc : (change snapshot).accrual = snapshot.accrual.map f) :
    (store.save (change snapshot)).listAccruals =
      store.listAccruals.map (fun accrual =>
        if snapshot.accrual.any (·.id = accrual.id) then f accrual else accrual) := by
  rw [listAccruals, save_receiptsById, Table.rows_upsert_of_mem hmem hkey, listAccruals,
    List.filterMap_map, List.map_filterMap]
  refine List.filterMap_congr fun s hs => ?_
  by_cases hk : s.receipt.id = snapshot.receipt.id
  · have hsame : s = snapshot := Table.eq_of_key hs hmem hk
    subst hsame
    cases ha : s.accrual with
    | none => simp [hacc, ha]
    | some a => simp [hacc, ha]
  · cases ha : s.accrual with
    | none => simp [hk, ha]
    | some a =>
        -- another snapshot's accrual has another id
        have hother : snapshot.accrual.any (·.id = a.id) = false := by
          rw [Bool.eq_false_iff]
          intro hany
          obtain ⟨b, hb, hid⟩ := (Option.any_eq_true _ _).mp hany
          rw [decide_eq_true_eq] at hid
          exact hk (by rw [snapshot_of_accrual_id hids hs hmem ha hb hid.symm])
        simp [hk, ha, hother]

/-! ## Batches -/

/-- What a creating call does. -/
structure CreatesBatch (env : CallEnv) (store : Memory)
    (input : CreatePayoutBatchFromAvailableAccrualsInput) (batch : PayoutBatchRecord)
    (store' : Memory) : Prop where
  batchId : batch.id = batchIdOrDrawn env input.batchId
  planned : PlannedBatch store.listAccruals batch
  available : ∀ accrual ∈ store.listAccruals, accrual.id ∈ batch.accrualIds →
    accrual.status = .available
  writes : store' =
    { store.setAccrualStatus (fun accrual => accrual.id ∈ batch.accrualIds.dedup) .allocated with
      payoutBatchesById := store.payoutBatchesById.upsert batch }

/-- The listing returns stored accruals, each once. -/
theorem listPayoutEligibleAccruals_subperm {input : ListPayoutEligibleAccrualsInput}
    {accruals : List CommissionAccrual}
    (h : store.listPayoutEligibleAccruals host input = .ok accruals) :
    accruals.Subperm store.listAccruals := by
  rw [listPayoutEligibleAccruals, filterPayoutEligibleAccruals] at h
  obtain ⟨-, -, h⟩ := bind_eq_ok.mp h
  obtain ⟨limit, -, h⟩ := bind_eq_ok.mp h
  obtain ⟨nowMs, -, h⟩ := bind_eq_ok.mp h
  obtain ⟨filtered, hf, h⟩ := bind_eq_ok.mp h
  obtain ⟨sorted, hs, h⟩ := bind_eq_ok.mp h
  rw [pure_eq_ok] at h
  have hsorted : sorted.Subperm store.listAccruals :=
    (sortM_perm hs).subperm.trans (selectM_sublist hf).1.subperm
  subst h
  cases limit with
  | none => exact hsorted
  | some limit => exact (List.take_sublist _ _).subperm.trans hsorted

/-- What a call that allocates given accruals does. -/
theorem createPayoutBatch_eq_ok {input : CreatePayoutBatchInput} {batch : PayoutBatchRecord}
    (h : store.createPayoutBatch host env input = .ok (batch, store')) :
    createPayoutBatchPlan host env input = .ok batch ∧
      (∀ accrual ∈ store.listAccruals, accrual.id ∈ batch.accrualIds →
        accrual.status = .available) ∧
      store' =
        { store.setAccrualStatus (fun accrual => accrual.id ∈ batch.accrualIds.dedup) .allocated with
          payoutBatchesById := store.payoutBatchesById.upsert batch } := by
  rw [createPayoutBatch] at h
  obtain ⟨plan, hplan, h⟩ := bind_eq_ok.mp h
  dsimp only at h
  split at h
  · exact absurd h throw_ne_ok
  rename_i hfind
  split at h
  · exact absurd h throw_ne_ok
  rw [pure_eq_ok] at h
  injection h with hb hs
  subst hb
  refine ⟨hplan, ?_, ?_⟩
  · intro accrual ha hid
    have hnot := List.find?_eq_none.mp hfind accrual (List.mem_filter.mpr
      ⟨ha, by simpa using hid⟩)
    simpa using hnot
  · rw [← hs, setAccrualStatus_batches]

/-- The batch a creating call writes, whatever the accruals are. -/
theorem createPayoutBatchFromAvailableAccruals_writes
    {input : CreatePayoutBatchFromAvailableAccrualsInput} {batch : PayoutBatchRecord}
    (h : store.createPayoutBatchFromAvailableAccruals host env input = .ok (batch, store')) :
    batch.id = batchIdOrDrawn env input.batchId ∧ batch.status = .planned ∧
      (∀ item ∈ batch.items, item.status = .allocated) ∧
      store'.payoutBatchesById = store.payoutBatchesById.upsert batch ∧
      store'.payoutTransactionsById = store.payoutTransactionsById := by
  rw [createPayoutBatchFromAvailableAccruals] at h
  obtain ⟨accruals, -, h⟩ := bind_eq_ok.mp h
  obtain ⟨hplan, -, rfl⟩ := createPayoutBatch_eq_ok h
  obtain ⟨hid, hstatus, hitems⟩ := createPayoutBatchPlan_new hplan
  exact ⟨hid, hstatus, hitems, rfl, setAccrualStatus_transactions _ _⟩

theorem createPayoutBatchFromAvailableAccruals_eq_ok
    (hids : (store.listAccruals.map CommissionAccrual.id).Nodup)
    {input : CreatePayoutBatchFromAvailableAccrualsInput} {batch : PayoutBatchRecord}
    (h : store.createPayoutBatchFromAvailableAccruals host env input = .ok (batch, store')) :
    CreatesBatch env store input batch store' := by
  rw [createPayoutBatchFromAvailableAccruals] at h
  obtain ⟨accruals, hlist, h⟩ := bind_eq_ok.mp h
  have hsub := listPayoutEligibleAccruals_subperm hlist
  obtain ⟨hplan, havailable, hwrites⟩ := createPayoutBatch_eq_ok h
  have hidsA : ((input.planInput accruals).accruals.map CommissionAccrual.id).Nodup := by
    obtain ⟨l, hperm, hl⟩ := hsub
    have hmap : (l.map CommissionAccrual.id).Nodup := hids.sublist (hl.map _)
    exact (hperm.map _).nodup_iff.mp hmap
  exact ⟨createPayoutBatchPlan_id hplan,
    (createPayoutBatchPlan_planned hidsA hplan).mono fun a ha => hsub.subset ha,
    havailable, hwrites⟩

/-- What a releasing call does when it knows the batch. -/
structure ReleasesBatch (host : Host) (store : Memory)
    (input : ReleasePayoutBatchAllocationsInput) (batch released : PayoutBatchRecord)
    (store' : Memory) : Prop where
  found : store.payoutBatchesById.find? input.payoutBatchId = some batch
  granted : ReleaseGranted batch
    ((store.listPayoutTransactions host batch.id).map PayoutTransactionRecord.guard) input released
  writes : store' =
    ({ store with
      payoutBatchesById := store.payoutBatchesById.upsert released } : Memory).setAccrualStatus
      (fun accrual => accrual.status = .allocated && accrual.id ∈ released.accrualIds) .available

theorem releasePayoutBatchAllocations_eq_ok {input : ReleasePayoutBatchAllocationsInput}
    {result : Option PayoutBatchRecord}
    (h : store.releasePayoutBatchAllocations host env input = .ok (result, store')) :
    (result = none ∧ store.payoutBatchesById.find? input.payoutBatchId = none ∧ store' = store) ∨
      ∃ batch released, result = some released ∧
        ReleasesBatch host store input batch released store' := by
  rw [releasePayoutBatchAllocations] at h
  split at h
  · rename_i hfind
    rw [pure_eq_ok] at h
    injection h with hr hs
    exact .inl ⟨hr.symm, hfind, hs.symm⟩
  · rename_i batch hfind
    obtain ⟨released, hplan, h⟩ := bind_eq_ok.mp h
    rw [pure_eq_ok] at h
    injection h with hr hs
    exact .inr ⟨batch, released, hr.symm, hfind, planRelease_eq_ok hplan, hs.symm⟩

/-! ## Transactions -/

/-- What a saving call does. -/
structure SavesTransactions (host : Host) (env : CallEnv) (store : Memory)
    (input : SaveSignedPayoutTransactionsInput) (batch : PayoutBatchRecord)
    (records : List PayoutTransactionRecord) (store' : Memory) : Prop where
  found : store.payoutBatchesById.find? input.payoutBatchId = some batch
  planned : planSignedPayoutTransactions host env input batch = .ok records
  newIds : ∀ record ∈ records, ∀ t ∈ store.payoutTransactionsById, t.id ≠ record.id
  newAttempts : ∀ record ∈ records, ∀ t ∈ store.payoutTransactionsById,
    t.payoutBatchId = record.payoutBatchId → t.sequence = record.sequence →
    t.attempt ≠ record.attempt
  writes : store' =
    { store with payoutTransactionsById := store.payoutTransactionsById.upsertAll records }

theorem mem_listPayoutTransactions {payoutBatchId : String} {t : PayoutTransactionRecord} :
    t ∈ store.listPayoutTransactions host payoutBatchId ↔
      t ∈ store.payoutTransactionsById ∧ t.payoutBatchId = payoutBatchId := by
  simp [listPayoutTransactions, Table.mem_def]

theorem checkNewTransaction_eq_ok {record : PayoutTransactionRecord} {u : Unit}
    (h : store.checkNewTransaction host record = .ok u) :
    (∀ t ∈ store.payoutTransactionsById, t.id ≠ record.id) ∧
      ∀ t ∈ store.payoutTransactionsById, t.payoutBatchId = record.payoutBatchId →
        t.sequence = record.sequence → t.attempt ≠ record.attempt := by
  rw [checkNewTransaction] at h
  split at h
  · exact absurd h throw_ne_ok
  rename_i hid
  split at h
  · exact absurd h throw_ne_ok
  rename_i hattempt
  rw [Bool.not_eq_true] at hid hattempt
  refine ⟨Table.has_eq_false.mp hid, ?_⟩
  intro t ht hbatch hseq hatt
  rw [List.any_eq_false] at hattempt
  refine hattempt t (mem_listPayoutTransactions.mpr ⟨ht, hbatch⟩) ?_
  simp [hseq, hatt]

theorem saveSignedPayoutTransactions_eq_ok {input : SaveSignedPayoutTransactionsInput}
    {records : List PayoutTransactionRecord}
    (h : store.saveSignedPayoutTransactions host env input = .ok (records, store')) :
    ∃ batch, SavesTransactions host env store input batch records store' := by
  rw [saveSignedPayoutTransactions] at h
  split at h
  · exact absurd h throw_ne_ok
  rename_i batch hfind
  obtain ⟨records', hplan, h⟩ := bind_eq_ok.mp h
  obtain ⟨u, hcheck, h⟩ := bind_eq_ok.mp h
  rw [pure_eq_ok] at h
  injection h with hr hs
  subst hr
  have hall := forM_eq_ok hcheck
  refine ⟨batch, hfind, hplan, ?_, ?_, hs.symm⟩
  · intro record hrec
    exact (checkNewTransaction_eq_ok (hall record hrec)).1
  · intro record hrec
    exact (checkNewTransaction_eq_ok (hall record hrec)).2

theorem markPayoutTransactionSubmitted_eq_ok {input : MarkPayoutTransactionSubmittedInput}
    {result : Option PayoutTransactionRecord}
    (h : store.markPayoutTransactionSubmitted host env input = .ok (result, store')) :
    (result = none ∧ store' = store) ∨
      ∃ existing submittedAt, store.payoutTransactionsById.find? input.id = some existing ∧
        store' = { store with
          payoutTransactionsById := store.payoutTransactionsById.upsert { existing with
            status := .submitted
            expectedSignature := input.expectedSignature.or existing.expectedSignature
            submittedAt := some submittedAt } } := by
  rw [markPayoutTransactionSubmitted] at h
  split at h
  · rw [pure_eq_ok] at h
    injection h with hr hs
    exact .inl ⟨hr.symm, hs.symm⟩
  · rename_i existing hfind
    split at h
    · exact absurd h throw_ne_ok
    · obtain ⟨submittedAt, -, h⟩ := bind_eq_ok.mp h
      rw [pure_eq_ok] at h
      injection h with hr hs
      exact .inr ⟨existing, submittedAt, hfind, hs.symm⟩

/-- What a rollup does to the batches. -/
theorem rollUpPayoutBatchFinality_cases (host : Host) (store : Memory)
    (payoutBatchId updatedAt : String) :
    (store.rollUpPayoutBatchFinality host payoutBatchId updatedAt = store ∧
      (store.payoutBatchesById.find? payoutBatchId = none ∨
        store.listPayoutTransactions host payoutBatchId = [])) ∨
      ∃ batch rollup, store.payoutBatchesById.find? payoutBatchId = some batch ∧
        summarizePayoutBatchTransactionItemFinality host batch
          (store.listPayoutTransactions host payoutBatchId) = some rollup ∧
        store.rollUpPayoutBatchFinality host payoutBatchId updatedAt =
          { store with
            payoutBatchesById :=
              store.payoutBatchesById.upsert (rolledUpBatch batch rollup updatedAt) } := by
  rw [rollUpPayoutBatchFinality]
  split
  · rename_i hfind
    exact .inl ⟨rfl, .inl hfind⟩
  · rename_i batch hfind
    split
    · rename_i hnone
      exact .inl ⟨rfl, .inr (summarize_eq_none hnone)⟩
    · rename_i rollup hrollup
      exact .inr ⟨batch, rollup, hfind, hrollup, rfl⟩

theorem markPayoutTransactionFinality_eq_ok {input : MarkPayoutTransactionFinalityInput}
    {result : Option PayoutTransactionRecord}
    (h : store.markPayoutTransactionFinality host env input = .ok (result, store')) :
    (result = none ∧ store' = store) ∨
      ∃ existing observedAt, result = some (finalityTransaction existing input observedAt) ∧
        store.payoutTransactionsById.find? input.id = some existing ∧
        input.admits existing = true ∧
        store' = ({ store with
          payoutTransactionsById := store.payoutTransactionsById.upsert
            (finalityTransaction existing input observedAt) } : Memory).rollUpPayoutBatchFinality host
              existing.payoutBatchId observedAt := by
  rw [markPayoutTransactionFinality] at h
  split at h
  · rw [pure_eq_ok] at h
    injection h with hr hs
    exact .inl ⟨hr.symm, hs.symm⟩
  · rename_i existing hfind
    split at h
    · rw [pure_eq_ok] at h
      injection h with hr hs
      exact .inl ⟨hr.symm, hs.symm⟩
    · rename_i hadmits
      obtain ⟨observedAt, -, h⟩ := bind_eq_ok.mp h
      rw [pure_eq_ok] at h
      injection h with hr hs
      exact .inr ⟨existing, observedAt, hr.symm, hfind, by simpa using hadmits, hs.symm⟩

/-! ## Ledger closure -/

/-- What the first closing call of a batch does. -/
structure ClosesLedger (store : Memory) (input : ClosePayoutBatchLedgerInput)
    (batch : PayoutBatchRecord) (transaction : LedgerTransaction) (store' : Memory) : Prop where
  first : store.payoutLedgerTransactionsByBatchId.find? input.payoutBatchId = none
  found : store.payoutBatchesById.find? input.payoutBatchId = some batch
  closes : ClosesBatch batch transaction
  writes : store' =
    ({ store with
      payoutLedgerTransactionsByBatchId :=
        store.payoutLedgerTransactionsByBatchId.upsert transaction } : Memory).setAccrualStatus
      (fun accrual => accrual.status = .allocated && accrual.id ∈ batch.finalizedAccrualIds) .paid

theorem closeFinalizedPayoutBatchLedger_eq_ok {input : ClosePayoutBatchLedgerInput}
    {result : Option LedgerTransaction}
    (h : store.closeFinalizedPayoutBatchLedger host env input = .ok (result, store')) :
    (store' = store ∧
      (result = store.payoutLedgerTransactionsByBatchId.find? input.payoutBatchId)) ∨
      ∃ batch transaction, result = some transaction ∧
        ClosesLedger store input batch transaction store' := by
  rw [closeFinalizedPayoutBatchLedger] at h
  split at h
  · rename_i existing hfind
    rw [pure_eq_ok] at h
    injection h with hr hs
    exact .inl ⟨hs.symm, by rw [hfind, hr]⟩
  · rename_i hnone
    split at h
    · rw [pure_eq_ok] at h
      injection h with hr hs
      exact .inl ⟨hs.symm, by rw [hnone, hr]⟩
    · rename_i batch hbatch
      obtain ⟨-, -, h⟩ := bind_eq_ok.mp h
      obtain ⟨transaction, hcreate, h⟩ := bind_eq_ok.mp h
      rw [pure_eq_ok] at h
      injection h with hr hs
      exact .inr ⟨batch, transaction, hr.symm, hnone, hbatch,
        createPayoutFinalizationLedgerTransaction_eq_ok hcreate, hs.symm⟩

end Memory

end Split402

import Split402.Proof.AccrualEscrow
import Split402.Proof.MemoryOps
import Split402.Store.Runs

/-! # The in-memory store is an escrow

The batches of the store are the holders of an escrow and the accruals its resources: a batch
holds the accruals its items allocate until it is cancelled, and is closed once its ledger
transaction is recorded (`Memory.escrow`). In a run that respects cancellation
(`Memory.respectsCancellation`) every call moves the store like an escrow (`next_escrow`), so
the escrow invariant holds in every reachable state (`Respecting.inv`).

Respecting cancellation is needed. A rollup gives a cancelled batch a live status again without
taking its accruals back, and a second release of a cancelled batch frees accruals that another
batch holds by then. -/

namespace Split402

open Base Base.Escrow

variable {host : Host} {env : CallEnv}

namespace Memory

variable {store store' : Memory}

/-! ## Runs that respect cancellation -/

/-- The call leaves cancelled batches alone: it writes no finality mark on a transaction of a
cancelled batch, and releases no cancelled batch while one of its accruals is allocated. -/
def respectsCancellation (store : Memory) (call : StoreCall) : Bool :=
  match call.op with
  | .markPayoutTransactionFinality input =>
      (store.payoutTransactionsById.find? input.id).all (fun existing =>
        !input.admits existing ||
          (store.payoutBatchesById.find? existing.payoutBatchId).all (fun batch =>
            batch.status != .cancelled))
  | .releasePayoutBatchAllocations input =>
      (store.payoutBatchesById.find? input.payoutBatchId).all (fun batch =>
        batch.status != .cancelled ||
          store.listAccruals.all (fun accrual =>
            accrual.status != .allocated || !decide (accrual.id ∈ batch.accrualIds)))
  | _ => true

/-- The states of the runs that respect cancellation. -/
abbrev Respecting (host : Host) : Memory → Prop :=
  (system host).Reachable (fun store call => store.respectsCancellation call = true)

/-! ## The abstraction -/

/-- The store as an escrow. -/
def escrow (store : Memory) : State String String where
  cond := condIn store.listAccruals
  worth := worthIn store.listAccruals
  known b := store.payoutBatchesById.find? b ≠ none
  holds b := ((store.payoutBatchesById.find? b).map PayoutBatchRecord.accrualIds).getD []
  owed b := ((store.payoutBatchesById.find? b).map PayoutBatchRecord.itemTotal).getD 0
  live b := ∃ batch, store.payoutBatchesById.find? b = some batch ∧ batch.status ≠ .cancelled
  closed b := store.payoutLedgerTransactionsByBatchId.has b = true

/-- What the abstraction relies on: accruals have different ids, and a ledger transaction
belongs to a stored batch. -/
structure WellFormed (store : Memory) : Prop where
  accrualIds : (store.listAccruals.map CommissionAccrual.id).Nodup
  ledgerBatches : ∀ t ∈ store.payoutLedgerTransactionsByBatchId,
    store.payoutBatchesById.has t.sourceId = true

@[simp] theorem escrow_cond : store.escrow.cond = condIn store.listAccruals := rfl

@[simp] theorem escrow_worth : store.escrow.worth = worthIn store.listAccruals := rfl

/-- The escrow only depends on the accruals, the batches and the ledger. -/
theorem escrow_congr (hr : store'.receiptsById = store.receiptsById)
    (hb : store'.payoutBatchesById = store.payoutBatchesById)
    (hl : store'.payoutLedgerTransactionsByBatchId = store.payoutLedgerTransactionsByBatchId) :
    store'.escrow = store.escrow := by
  simp [escrow, listAccruals, hr, hb, hl]

theorem WellFormed.congr (h : store.WellFormed) (hr : store'.receiptsById = store.receiptsById)
    (hb : store'.payoutBatchesById = store.payoutBatchesById)
    (hl : store'.payoutLedgerTransactionsByBatchId = store.payoutLedgerTransactionsByBatchId) :
    store'.WellFormed := by
  refine ⟨?_, ?_⟩
  · rw [listAccruals, hr]
    exact h.accrualIds
  · rw [hl, hb]
    exact h.ledgerBatches

/-! ## Each operation is an escrow step -/

/-- A batch that is stored as it was, with the same ledger, is kept. -/
theorem keeps_of_find {b : String}
    (hb : store'.payoutBatchesById.find? b = store.payoutBatchesById.find? b)
    (hl : store'.payoutLedgerTransactionsByBatchId.has b =
      store.payoutLedgerTransactionsByBatchId.has b) :
    Keeps store.escrow store'.escrow b := by
  refine ⟨?_, ?_, fun _ => ?_, fun _ => ?_, fun _ => ?_⟩ <;> simp [escrow, hb, hl]

/-- The other batches are kept when one is written. -/
theorem keeps_of_upsert {batch : PayoutBatchRecord}
    (hb : store'.payoutBatchesById = store.payoutBatchesById.upsert batch)
    (hl : store'.payoutLedgerTransactionsByBatchId = store.payoutLedgerTransactionsByBatchId)
    {c : String} (hc : c ≠ batch.id) : Keeps store.escrow store'.escrow c := by
  refine keeps_of_find ?_ (by rw [hl])
  rw [hb, Table.find?_upsert, if_neg (Ne.symm hc)]

theorem accrualIds_of_map {f : CommissionAccrual → CommissionAccrual}
    (hid : ∀ accrual, (f accrual).id = accrual.id)
    (hacc : store'.listAccruals = store.listAccruals.map f)
    (h : (store.listAccruals.map CommissionAccrual.id).Nodup) :
    (store'.listAccruals.map CommissionAccrual.id).Nodup := by
  rw [hacc, List.map_map]
  simpa [Function.comp_def, hid] using h

/-- A change of accruals that leaves allocated and paid ones alone is a frame step. -/
theorem frame_of_map (hwf : store.WellFormed) {f : CommissionAccrual → CommissionAccrual}
    (hid : ∀ accrual, (f accrual).id = accrual.id)
    (hamount : ∀ accrual, (f accrual).amountAtomic = accrual.amountAtomic)
    (hkeep : ∀ accrual : CommissionAccrual, accrual.status = .allocated ∨ accrual.status = .paid →
      (f accrual).status = accrual.status)
    (hacc : store'.listAccruals = store.listAccruals.map f)
    (hb : store'.payoutBatchesById = store.payoutBatchesById)
    (hl : store'.payoutLedgerTransactionsByBatchId = store.payoutLedgerTransactionsByBatchId) :
    Step store.escrow store'.escrow ∧ store'.WellFormed := by
  refine ⟨.frame (fun b => keeps_of_find (by rw [hb]) (by rw [hl])) ?_ ?_,
    ⟨accrualIds_of_map hid hacc hwf.accrualIds, by rw [hl, hb]; exact hwf.ledgerBatches⟩⟩
  · intro id h
    rw [escrow_cond, escrow_cond, hacc]
    refine condIn_map_kept hid fun accrual ha => hkeep accrual ?_
    rw [← condition_eq_held, ← condition_eq_spent]
    exact condIn_of_lookup ha ▸ h
  · intro id _
    rw [escrow_worth, escrow_worth, hacc]
    exact worthIn_map hid hamount _ _

/-- Saving a new snapshot is a frame step. -/
theorem save_escrow (hwf : store.WellFormed) {snapshot : ReceiptIngestionSnapshot}
    (hfresh : store.fresh ⟨env, .save snapshot⟩ = true) :
    Step store.escrow (store.save snapshot).escrow ∧ (store.save snapshot).WellFormed := by
  simp only [fresh, Bool.and_eq_true, Bool.not_eq_true'] at hfresh
  obtain ⟨hnew, hacc⟩ := hfresh
  have hlist := listAccruals_save_new hnew
  have hother : ∀ accrual, snapshot.accrual = some accrual →
      ∀ other ∈ store.listAccruals, other.id ≠ accrual.id := by
    intro accrual ha other ho
    simp [ha] at hacc
    exact hacc.2 other ho
  refine ⟨.frame (fun b => keeps_of_find rfl rfl) ?_ ?_, ?_, hwf.ledgerBatches⟩
  · intro id h
    obtain ⟨accrual, ha⟩ := exists_lookup h
    rw [escrow_cond, escrow_cond, hlist, condIn_of_lookup ha,
      condIn_of_lookup (lookupAccrual_append ha _)]
  · intro id h
    obtain ⟨accrual, ha⟩ := exists_lookup h
    rw [escrow_worth, escrow_worth, hlist, worthIn_of_lookup ha,
      worthIn_of_lookup (lookupAccrual_append ha _)]
  · rw [hlist, List.map_append, List.nodup_append]
    refine ⟨hwf.accrualIds, ?_, ?_⟩
    · cases snapshot.accrual <;> simp
    · intro a ha b hb
      obtain ⟨other, ho, rfl⟩ := List.mem_map.mp ha
      obtain ⟨accrual, hacc', rfl⟩ := List.mem_map.mp hb
      exact hother accrual (by simpa using hacc') other ho

/-- A chain mark is a frame step: it only moves a pending accrual. -/
theorem mark_escrow (hwf : store.WellFormed) {snapshot : ReceiptIngestionSnapshot}
    (hmem : snapshot ∈ store.receiptsById)
    (change : ReceiptIngestionSnapshot → ReceiptIngestionSnapshot)
    (f : CommissionAccrual → CommissionAccrual)
    (hkey : (change snapshot).receipt.id = snapshot.receipt.id)
    (hacc : (change snapshot).accrual = snapshot.accrual.map f)
    (hid : ∀ accrual, (f accrual).id = accrual.id)
    (hamount : ∀ accrual, (f accrual).amountAtomic = accrual.amountAtomic)
    (hkeep : ∀ accrual : CommissionAccrual, accrual.status = .allocated ∨ accrual.status = .paid →
      (f accrual).status = accrual.status) :
    Step store.escrow (store.save (change snapshot)).escrow ∧
      (store.save (change snapshot)).WellFormed := by
  refine frame_of_map hwf ?_ ?_ ?_ (listAccruals_save_changed hwf.accrualIds hmem hkey hacc) rfl rfl
  · intro accrual
    split
    · exact hid accrual
    · rfl
  · intro accrual
    split
    · exact hamount accrual
    · rfl
  · intro accrual h
    split
    · exact hkeep accrual h
    · rfl

theorem verified_escrow (hwf : store.WellFormed) (input : MarkReceiptChainVerifiedInput) :
    Step store.escrow (store.markReceiptChainVerified input).2.escrow ∧
      (store.markReceiptChainVerified input).2.WellFormed := by
  rw [markReceiptChainVerified]
  split
  · exact ⟨.of_eq rfl, hwf⟩
  · rename_i snapshot hfind
    refine mark_escrow hwf (Table.mem_of_find? hfind)
      (fun snapshot => verifiedSnapshot snapshot input.verifiedAt)
      (fun accrual => if accrual.status = .pendingChainVerification then
        { accrual with status := .available, availableAt := some input.verifiedAt } else accrual)
      rfl rfl ?_ ?_ ?_
    · intro accrual
      split <;> rfl
    · intro accrual
      split <;> rfl
    · intro accrual h
      have hne : accrual.status ≠ .pendingChainVerification := by
        rcases h with h | h <;> rw [h] <;> decide
      simp [hne]

theorem rejected_escrow (hwf : store.WellFormed) (input : MarkReceiptChainRejectedInput) :
    Step store.escrow (store.markReceiptChainRejected input).2.escrow ∧
      (store.markReceiptChainRejected input).2.WellFormed := by
  rw [markReceiptChainRejected]
  split
  · exact ⟨.of_eq rfl, hwf⟩
  · rename_i snapshot hfind
    refine mark_escrow hwf (Table.mem_of_find? hfind)
      (fun snapshot => rejectedSnapshot snapshot input.reason)
      (fun accrual => if accrual.status = .pendingChainVerification then
        { accrual with status := .rejected } else accrual)
      rfl rfl ?_ ?_ ?_
    · intro accrual
      split <;> rfl
    · intro accrual
      split <;> rfl
    · intro accrual h
      have hne : accrual.status ≠ .pendingChainVerification := by
        rcases h with h | h <;> rw [h] <;> decide
      simp [hne]

/-- Creating a batch takes its accruals. -/
theorem create_escrow (hwf : store.WellFormed) {env : CallEnv}
    {input : CreatePayoutBatchFromAvailableAccrualsInput} {batch : PayoutBatchRecord}
    (hfresh : store.payoutBatchesById.has (batchIdOrDrawn env input.batchId) = false)
    (h : CreatesBatch env store input batch store') :
    Step store.escrow store'.escrow ∧ store'.WellFormed := by
  have hid : ∀ accrual : CommissionAccrual, (accrual.withStatusIf
      (fun accrual => accrual.id ∈ batch.accrualIds.dedup) .allocated).id = accrual.id :=
    fun _ => CommissionAccrual.withStatusIf_id _ _ _
  have hacc : store'.listAccruals = store.listAccruals.map (fun accrual =>
      accrual.withStatusIf (fun accrual => accrual.id ∈ batch.accrualIds.dedup) .allocated) := by
    rw [h.writes]
    exact listAccruals_setAccrualStatus _ _
  have hbatches : store'.payoutBatchesById = store.payoutBatchesById.upsert batch := by rw [h.writes]
  have hledgers : store'.payoutLedgerTransactionsByBatchId =
      store.payoutLedgerTransactionsByBatchId := by
    rw [h.writes]
    exact setAccrualStatus_ledgers _ _
  have hworth : ∀ id, store'.escrow.worth id = store.escrow.worth id := by
    intro id
    rw [escrow_worth, hacc]
    exact worthIn_map hid (fun _ => CommissionAccrual.withStatusIf_amountAtomic _ _ _) _ id
  have hnew : store.payoutBatchesById.find? batch.id = none := by
    rw [h.batchId, Table.find?_eq_none]
    exact Table.has_eq_false.mp hfresh
  have hfind : store'.payoutBatchesById.find? batch.id = some batch := by
    rw [hbatches, Table.find?_upsert, if_pos rfl]
  have hholds : store'.escrow.holds batch.id = batch.accrualIds := by simp [escrow, hfind]
  -- an allocated id is the id of a stored accrual
  have hstored : ∀ id ∈ batch.accrualIds, ∃ accrual ∈ store.listAccruals, accrual.id = id ∧
      lookupAccrual store.listAccruals id = some accrual := by
    intro id hmem
    obtain ⟨item, hi, hall⟩ := List.mem_flatMap.mp hmem
    obtain ⟨allocation, ha, rfl⟩ := List.mem_map.mp hall
    obtain ⟨-, accrual, hin, hide, -⟩ := h.planned.allocation item hi allocation ha
    exact ⟨accrual, hin, hide, hide ▸ lookupAccrual_of_mem hwf.accrualIds hin⟩
  refine ⟨.take batch.id ?_ (fun c hc => keeps_of_upsert hbatches hledgers hc) ?_ ?_ ?_ ?_ ?_ ?_ ?_ ?_,
    accrualIds_of_map hid hacc hwf.accrualIds, ?_⟩
  · exact fun hknown => hknown hnew
  · exact ⟨batch, hfind, by rw [h.planned.planned]; decide⟩
  · -- a closed batch would be stored
    intro hclosed
    change store'.payoutLedgerTransactionsByBatchId.has batch.id = true at hclosed
    rw [hledgers] at hclosed
    obtain ⟨t, ht, hsource⟩ := Table.has_eq_true.mp hclosed
    have hhas := hwf.ledgerBatches t ht
    rw [show t.sourceId = batch.id from hsource, h.batchId, hfresh] at hhas
    cases hhas
  · rw [hholds]
    exact h.planned.accrualIds_nodup
  · have howed : store'.escrow.owed batch.id = batch.itemTotal := by simp [escrow, hfind]
    rw [howed, hholds]
    refine h.planned.itemTotal_eq fun accrual ha => ?_
    rw [hworth, escrow_worth]
    exact worthIn_of_lookup (lookupAccrual_of_mem hwf.accrualIds ha)
  · intro id hmem
    rw [hholds] at hmem
    obtain ⟨accrual, hin, hide, hfound⟩ := hstored id hmem
    rw [escrow_cond, condIn_of_lookup hfound, CommissionAccrual.isAccrual_status,
      h.available accrual hin (hide ▸ hmem)]
    rfl
  · intro id hmem
    rw [hholds] at hmem
    obtain ⟨accrual, hin, hide, hfound⟩ := hstored id hmem
    rw [escrow_cond, hacc, condIn_map hid hfound, CommissionAccrual.withStatusIf,
      if_pos (by simpa [hide] using hmem)]
    rfl
  · intro id hmem
    rw [hholds] at hmem
    rw [escrow_cond, escrow_cond, hacc]
    refine condIn_map_kept hid fun accrual hfound => ?_
    have hide : accrual.id = id := (lookupAccrual_mem hfound).2
    rw [CommissionAccrual.withStatusIf, if_neg (by simpa [hide] using hmem)]
  · exact hworth
  · intro t ht
    rw [hledgers] at ht
    rw [hbatches]
    exact Table.has_upsert.mpr (.inr (hwf.ledgerBatches t ht))

/-- A release frees what its batch holds. -/
theorem release_escrow (hwf : store.WellFormed) {env : CallEnv}
    {input : ReleasePayoutBatchAllocationsInput} {batch released : PayoutBatchRecord}
    (hrespects : store.respectsCancellation ⟨env, .releasePayoutBatchAllocations input⟩ = true)
    (h : ReleasesBatch host store input batch released store') :
    Step store.escrow store'.escrow ∧ store'.WellFormed := by
  obtain ⟨message, updatedAt, rfl⟩ := h.granted.released
  have hbid : batch.id = input.payoutBatchId := Table.key_of_find? h.found
  have hfind : store.payoutBatchesById.find? batch.id = some batch := hbid ▸ h.found
  have hid : ∀ accrual : CommissionAccrual, (accrual.withStatusIf (fun accrual =>
      accrual.status = .allocated && accrual.id ∈ (batch.released message updatedAt).accrualIds)
        .available).id = accrual.id := fun _ => CommissionAccrual.withStatusIf_id _ _ _
  have hacc : store'.listAccruals = store.listAccruals.map (fun accrual =>
      accrual.withStatusIf (fun accrual => accrual.status = .allocated &&
        accrual.id ∈ (batch.released message updatedAt).accrualIds) .available) := by
    rw [h.writes]
    exact listAccruals_setAccrualStatus _ _
  have hbatches : store'.payoutBatchesById =
      store.payoutBatchesById.upsert (batch.released message updatedAt) := by
    rw [h.writes]
    exact setAccrualStatus_batches _ _
  have hledgers : store'.payoutLedgerTransactionsByBatchId =
      store.payoutLedgerTransactionsByBatchId := by
    rw [h.writes]
    exact setAccrualStatus_ledgers _ _
  have hholds : store.escrow.holds batch.id = batch.accrualIds := by simp [escrow, hfind]
  have hfind' : store'.payoutBatchesById.find? batch.id = some (batch.released message updatedAt) := by
    rw [hbatches, Table.find?_upsert, if_pos (released_id _ _ _)]
  refine ⟨.release batch.id ?_ (fun c hc => keeps_of_upsert hbatches hledgers hc)
    (by simp [escrow, hfind']) ?_ ?_
    (fun id => by
      rw [escrow_worth, hacc]
      exact worthIn_map hid (fun _ => CommissionAccrual.withStatusIf_amountAtomic _ _ _) _ id),
    accrualIds_of_map hid hacc hwf.accrualIds, ?_⟩
  · -- a cancelled batch is released again only when it holds nothing
    by_cases hcancelled : batch.status = .cancelled
    · refine .inr fun id hmem hheld => ?_
      obtain ⟨accrual, ha⟩ := exists_lookup (.inl hheld)
      rw [escrow_cond, condIn_of_lookup ha, condition_eq_held] at hheld
      obtain ⟨hin, hide⟩ := lookupAccrual_mem ha
      rw [CommissionAccrual.isAccrual_id] at hide
      rw [CommissionAccrual.isAccrual_status] at hheld
      simp only [respectsCancellation, h.found, Option.all_some, hcancelled, bne_self_eq_false,
        Bool.false_or, List.all_eq_true] at hrespects
      have hnot := hrespects accrual hin
      rw [hholds, ← hide] at hmem
      simp [hheld, hmem] at hnot
    · exact .inl ⟨batch, hfind, hcancelled⟩
  · rintro ⟨b, hb, hne⟩
    rw [hfind'] at hb
    injection hb with hb
    exact hne (hb ▸ released_status _ _ _)
  · intro id h
    rw [escrow_cond, escrow_cond, hacc]
    refine condIn_map_kept hid fun accrual ha => ?_
    have hide : accrual.id = id := (lookupAccrual_mem ha).2
    rw [hholds, escrow_cond, condIn_of_lookup ha, Ne, condition_eq_held] at h
    rw [CommissionAccrual.withStatusIf, if_neg]
    rw [released_accrualIds, Bool.and_eq_true, decide_eq_true_eq, decide_eq_true_eq, hide]
    rintro ⟨hstatus, hmem⟩
    rcases h with h | h
    · exact h hmem
    · exact h hstatus
  · intro t ht
    rw [hledgers] at ht
    rw [hbatches]
    exact Table.has_upsert.mpr (.inr (hwf.ledgerBatches t ht))

/-! ## Transactions and rollups -/

@[simp] theorem rolledUpBatch_id (batch : PayoutBatchRecord)
    (rollup : PayoutBatchTransactionItemRollup) (updatedAt : String) :
    (rolledUpBatch batch rollup updatedAt).id = batch.id := rfl

@[simp] theorem rolledUpBatch_accrualIds (batch : PayoutBatchRecord)
    (rollup : PayoutBatchTransactionItemRollup) (updatedAt : String) :
    (rolledUpBatch batch rollup updatedAt).accrualIds = batch.accrualIds := by
  simp [rolledUpBatch, PayoutBatchRecord.accrualIds, List.flatMap_map]

@[simp] theorem rolledUpBatch_itemTotal (batch : PayoutBatchRecord)
    (rollup : PayoutBatchTransactionItemRollup) (updatedAt : String) :
    (rolledUpBatch batch rollup updatedAt).itemTotal = batch.itemTotal := by
  simp [rolledUpBatch, PayoutBatchRecord.itemTotal, Function.comp_def]

/-- Rolling up a batch that is not cancelled is a frame step. -/
theorem rollUp_escrow (store : Memory) (hwf : store.WellFormed) {payoutBatchId updatedAt : String}
    (hlive : ∀ batch, store.payoutBatchesById.find? payoutBatchId = some batch →
      batch.status ≠ .cancelled) :
    Step store.escrow (store.rollUpPayoutBatchFinality host payoutBatchId updatedAt).escrow ∧
      (store.rollUpPayoutBatchFinality host payoutBatchId updatedAt).WellFormed := by
  rcases rollUpPayoutBatchFinality_cases host store payoutBatchId updatedAt with
    ⟨h, -⟩ | ⟨batch, rollup, hfind, hrollup, h⟩
  · rw [h]
    exact ⟨.of_eq rfl, hwf⟩
  · rw [h]
    have hkey : batch.id = payoutBatchId := Table.key_of_find? hfind
    refine ⟨.frame (fun b => ?_) (fun _ _ => rfl) (fun _ _ => rfl),
      hwf.accrualIds, fun t ht => Table.has_upsert.mpr (.inr (hwf.ledgerBatches t ht))⟩
    by_cases hb : b = batch.id
    · subst hb
      rw [← hkey] at hfind
      have hfind' : (store.payoutBatchesById.upsert (rolledUpBatch batch rollup updatedAt)).find?
          batch.id = some (rolledUpBatch batch rollup updatedAt) := by
        rw [Table.find?_upsert, if_pos (rolledUpBatch_id _ _ _)]
      have hstatus : (rolledUpBatch batch rollup updatedAt).status ≠ .cancelled :=
        (summarize_eq_some hrollup).2
      refine ⟨?_, ⟨fun _ => ⟨batch, hfind, hlive batch (hkey ▸ hfind)⟩,
        fun _ => ⟨_, hfind', hstatus⟩⟩, fun _ => ?_, fun _ => ?_, fun _ => Iff.rfl⟩
      · simp [escrow, hfind, hfind']
      · simp [escrow, hfind, hfind']
      · simp [escrow, hfind, hfind']
    · exact keeps_of_find (by rw [Table.find?_upsert, rolledUpBatch_id, if_neg (Ne.symm hb)]) rfl

/-- A finality mark that respects cancellation is a frame step. -/
theorem finality_escrow (hwf : store.WellFormed) {env : CallEnv}
    {input : MarkPayoutTransactionFinalityInput} {existing : PayoutTransactionRecord}
    {observedAt : String}
    (hrespects : store.respectsCancellation ⟨env, .markPayoutTransactionFinality input⟩ = true)
    (hfind : store.payoutTransactionsById.find? input.id = some existing)
    (hadmits : input.admits existing = true)
    (h : store' = ({ store with
      payoutTransactionsById := store.payoutTransactionsById.upsert
        (finalityTransaction existing input observedAt) } : Memory).rollUpPayoutBatchFinality host
          existing.payoutBatchId observedAt) :
    Step store.escrow store'.escrow ∧ store'.WellFormed := by
  rw [h]
  simp only [respectsCancellation, hfind, Option.all_some, hadmits, Bool.not_true,
    Bool.false_or] at hrespects
  refine rollUp_escrow { store with
    payoutTransactionsById := store.payoutTransactionsById.upsert
      (finalityTransaction existing input observedAt) }
    (hwf.congr rfl rfl rfl) fun batch hb => ?_
  rw [show store.payoutBatchesById.find? existing.payoutBatchId = some batch from hb] at hrespects
  simpa using hrespects

/-! ## Ledger closure -/

/-- A closure spends what its batch holds. -/
theorem close_escrow (hwf : store.WellFormed) {input : ClosePayoutBatchLedgerInput} {batch : PayoutBatchRecord}
    {transaction : LedgerTransaction} (h : ClosesLedger store input batch transaction store') :
    Step store.escrow store'.escrow ∧ store'.WellFormed := by
  have hbid : batch.id = input.payoutBatchId := Table.key_of_find? h.found
  have hfind : store.payoutBatchesById.find? batch.id = some batch := hbid ▸ h.found
  have hid : ∀ accrual : CommissionAccrual, (accrual.withStatusIf (fun accrual =>
      accrual.status = .allocated && accrual.id ∈ batch.finalizedAccrualIds)
        .paid).id = accrual.id := fun _ => CommissionAccrual.withStatusIf_id _ _ _
  have hacc : store'.listAccruals = store.listAccruals.map (fun accrual =>
      accrual.withStatusIf (fun accrual => accrual.status = .allocated &&
        accrual.id ∈ batch.finalizedAccrualIds) .paid) := by
    rw [h.writes]
    exact listAccruals_setAccrualStatus _ _
  have hbatches : store'.payoutBatchesById = store.payoutBatchesById := by
    rw [h.writes]
    exact setAccrualStatus_batches _ _
  have hledgers : store'.payoutLedgerTransactionsByBatchId =
      store.payoutLedgerTransactionsByBatchId.upsert transaction := by
    rw [h.writes]
    exact setAccrualStatus_ledgers _ _
  have hholds : store.escrow.holds batch.id = batch.accrualIds := by simp [escrow, hfind]
  have hlive : store.escrow.live batch.id :=
    ⟨batch, hfind, by rw [h.closes.finalized]; decide⟩
  have hopen : ¬ store.escrow.closed batch.id := by
    intro hclosed
    obtain ⟨t, ht, hsource⟩ := Table.has_eq_true.mp hclosed
    exact Table.find?_eq_none.mp h.first t ht (hsource.trans hbid)
  have hclosed : ∀ c, store'.payoutLedgerTransactionsByBatchId.has c = true ↔
      batch.id = c ∨ store.payoutLedgerTransactionsByBatchId.has c = true := by
    intro c
    rw [hledgers, Table.has_upsert, h.closes.sourceId]
  refine ⟨.settle batch.id hlive hopen (fun c hc => keeps_of_find (by rw [hbatches]) ?_)
    (by simp [escrow, hbatches, hfind]) ?_ ?_ ?_
    ((hclosed _).mpr (.inl rfl)) ?_ ?_
    (fun id => by
      rw [escrow_worth, hacc]
      exact worthIn_map hid (fun _ => CommissionAccrual.withStatusIf_amountAtomic _ _ _) _ id),
    accrualIds_of_map hid hacc hwf.accrualIds, ?_⟩
  · rw [Bool.eq_iff_iff, hclosed]
    exact or_iff_right (Ne.symm hc)
  · exact ⟨batch, by rw [hbatches]; exact hfind, by rw [h.closes.finalized]; decide⟩
  · simp [escrow, hbatches]
  · simp [escrow, hbatches]
  · -- every item is finalized, so every accrual the batch holds is selected
    intro id hmem hheld
    obtain ⟨accrual, ha⟩ := exists_lookup (.inl hheld)
    rw [escrow_cond, condIn_of_lookup ha, condition_eq_held,
      CommissionAccrual.isAccrual_status] at hheld
    have hide : accrual.id = id := (lookupAccrual_mem ha).2
    rw [hholds, ← hide] at hmem
    rw [escrow_cond, hacc, condIn_map hid ha, CommissionAccrual.withStatusIf,
      if_pos (by simp [hheld, h.closes.finalizedAccrualIds, hmem])]
    rfl
  · intro id hmem
    rw [escrow_cond, escrow_cond, hacc]
    refine condIn_map_kept hid fun accrual ha => ?_
    have hide : accrual.id = id := (lookupAccrual_mem ha).2
    rw [hholds, ← hide] at hmem
    rw [CommissionAccrual.withStatusIf, if_neg (by simp [h.closes.finalizedAccrualIds, hmem])]
  · intro t ht
    rw [hledgers] at ht
    rw [hbatches]
    rcases Table.mem_upsert.mp ht with rfl | ⟨ht, -⟩
    · exact Table.has_eq_true.mpr ⟨batch, Table.mem_of_find? hfind, h.closes.sourceId.symm⟩
    · exact hwf.ledgerBatches t ht

/-! ## Runs -/

/-- **Every call that respects cancellation moves the store like an escrow.** -/
theorem next_escrow (host : Host) (hwf : store.WellFormed) {call : StoreCall}
    (hfresh : store.fresh call = true) (hrespects : store.respectsCancellation call = true) :
    Step store.escrow (store.next host call).escrow ∧ (store.next host call).WellFormed := by
  rw [next]
  split
  · rename_i store' hexec
    obtain ⟨env, op⟩ := call
    cases op with
    | save snapshot =>
        rw [exec, pure_eq_ok] at hexec
        exact hexec ▸ save_escrow hwf hfresh
    | markReceiptChainVerified input =>
        rw [exec, pure_eq_ok] at hexec
        exact hexec ▸ verified_escrow hwf input
    | markReceiptChainRejected input =>
        rw [exec, pure_eq_ok] at hexec
        exact hexec ▸ rejected_escrow hwf input
    | createPayoutBatchFromAvailableAccruals input =>
        obtain ⟨⟨batch, store'⟩, hop, rfl⟩ := map_eq_ok.mp hexec
        exact create_escrow hwf (by simpa [fresh] using hfresh)
          (createPayoutBatchFromAvailableAccruals_eq_ok hwf.accrualIds hop)
    | releasePayoutBatchAllocations input =>
        obtain ⟨⟨result, store'⟩, hop, rfl⟩ := map_eq_ok.mp hexec
        rcases releasePayoutBatchAllocations_eq_ok hop with ⟨-, -, rfl⟩ | ⟨batch, released, -, h⟩
        · exact ⟨.of_eq rfl, hwf⟩
        · exact release_escrow hwf hrespects h
    | saveSignedPayoutTransactions input =>
        obtain ⟨⟨records, store'⟩, hop, rfl⟩ := map_eq_ok.mp hexec
        obtain ⟨batch, h⟩ := saveSignedPayoutTransactions_eq_ok hop
        rw [h.writes]
        exact ⟨.of_eq (escrow_congr rfl rfl rfl), hwf.congr rfl rfl rfl⟩
    | markPayoutTransactionSubmitted input =>
        obtain ⟨⟨result, store'⟩, hop, rfl⟩ := map_eq_ok.mp hexec
        rcases markPayoutTransactionSubmitted_eq_ok hop with ⟨-, rfl⟩ | ⟨existing, at', -, h⟩
        · exact ⟨.of_eq rfl, hwf⟩
        · rw [h]
          exact ⟨.of_eq (escrow_congr rfl rfl rfl), hwf.congr rfl rfl rfl⟩
    | markPayoutTransactionFinality input =>
        obtain ⟨⟨result, store'⟩, hop, rfl⟩ := map_eq_ok.mp hexec
        rcases markPayoutTransactionFinality_eq_ok hop with
          ⟨-, rfl⟩ | ⟨existing, observedAt, -, hfind, hadmits, h⟩
        · exact ⟨.of_eq rfl, hwf⟩
        · exact finality_escrow hwf hrespects hfind hadmits h
    | closeFinalizedPayoutBatchLedger input =>
        obtain ⟨⟨result, store'⟩, hop, rfl⟩ := map_eq_ok.mp hexec
        rcases closeFinalizedPayoutBatchLedger_eq_ok hop with ⟨rfl, -⟩ | ⟨batch, t, -, h⟩
        · exact ⟨.of_eq rfl, hwf⟩
        · exact close_escrow hwf h
  · exact ⟨.of_eq rfl, hwf⟩

/-- **The store is an escrow.** The invariant holds in every state of a run that respects
cancellation. -/
theorem Respecting.inv (h : Respecting host store) : store.WellFormed ∧ Inv store.escrow := by
  refine h.invariant (P := fun store => store.WellFormed ∧ Inv store.escrow) ?_ ?_
  · rintro store rfl
    refine ⟨⟨List.nodup_nil, fun t ht => absurd ht Table.not_mem_empty⟩, .of_not_live ?_⟩
    rintro b ⟨batch, hb, -⟩
    exact absurd (Table.mem_of_find? hb) Table.not_mem_empty
  · rintro store call store' - ⟨hwf, hinv⟩ hrespects ⟨hfresh, rfl⟩
    obtain ⟨hstep, hwf'⟩ := next_escrow host hwf hfresh hrespects
    exact ⟨hwf', hstep.inv hinv⟩

end Memory

end Split402

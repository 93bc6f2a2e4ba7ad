import Split402.Proof.PostgresEscrow
import Split402.Proof.SingleAllocation

/-! # A ledger closure pays what it closes

A closure posts one debit for every item of its batch and pays the accruals the batch allocates.
That the two are worth the same is the balance of the escrow; it needs the batch to hold, when
it is closed, what it was created with. -/

namespace Split402

open Base Base.Escrow

section Abstract

variable {ρ : Type} [IsAccrual ρ] {rows rows' : List ρ} {s : State String String}
  {batchId : String} {transaction : LedgerTransaction}

/-- The accruals that were `allocated` and are `paid`. -/
def movedToPaid (rows rows' : List ρ) : List ρ :=
  rows.filter (fun row => IsAccrual.status row = .allocated &&
    (lookupAccrual rows' (IsAccrual.id row)).any (fun row' => IsAccrual.status row' = .paid))

/-- The debits a closure posts are what the accruals it pays are worth, and they are allocated to
its batch and to no other live one. -/
structure ClosurePays (s : State String String) (rows rows' : List ρ) (batchId : String)
    (transaction : LedgerTransaction) : Prop where
  debits : referrerPayableDebits transaction =
    (((movedToPaid rows rows').map (fun row => atomicOf (IsAccrual.amountAtomic row))).sum : Nat)
  own : ∀ row ∈ movedToPaid rows rows', IsAccrual.id row ∈ s.holds batchId
  alone : ∀ row ∈ movedToPaid rows rows', ∀ c, s.live c → c ≠ batchId →
    IsAccrual.id row ∉ s.holds c

/-- Paying the accruals a live batch holds pays what it owes. -/
theorem closurePays_of_inv (hids : (rows.map IsAccrual.id).Nodup) (hcond : s.cond = condIn rows)
    (hworth : s.worth = worthIn rows) (hinv : Inv s) (hlive : s.live batchId)
    (hopen : ¬ s.closed batchId)
    (hmoved : ∀ row ∈ rows, IsAccrual.status row = .allocated →
      ((lookupAccrual rows' (IsAccrual.id row)).any (fun row' => IsAccrual.status row' = .paid) ↔
        IsAccrual.id row ∈ s.holds batchId))
    (hdebits : referrerPayableDebits transaction = s.owed batchId) :
    ClosurePays s rows rows' batchId transaction := by
  -- what is paid is what the batch holds
  have hmem : ∀ row, row ∈ movedToPaid rows rows' ↔
      row ∈ rows ∧ IsAccrual.id row ∈ s.holds batchId := by
    intro row
    rw [movedToPaid, List.mem_filter, Bool.and_eq_true, decide_eq_true_eq]
    constructor
    · rintro ⟨hrow, hstatus, hpaid⟩
      exact ⟨hrow, (hmoved row hrow hstatus).mp hpaid⟩
    · rintro ⟨hrow, hheld⟩
      have hstatus : IsAccrual.status row = .allocated := by
        rw [← condition_eq_held, ← condIn_of_lookup (lookupAccrual_of_mem hids hrow), ← hcond]
        exact hinv.held batchId hlive hopen _ hheld
      exact ⟨hrow, hstatus, (hmoved row hrow hstatus).mpr hheld⟩
  have howed : s.owed batchId =
      (((movedToPaid rows rows').map IsAccrual.id).map s.worth).sum := by
    refine hinv.owed_eq hlive (hids.sublist (List.filter_sublist.map _)) fun id => ?_
    constructor
    · intro h
      obtain ⟨row, hrow, rfl⟩ := List.mem_map.mp h
      exact ((hmem row).mp hrow).2
    · intro h
      have hheld := hinv.held batchId hlive hopen id h
      rw [hcond] at hheld
      obtain ⟨row, hrow⟩ := exists_lookup (.inl hheld)
      obtain ⟨hin, rfl⟩ := lookupAccrual_mem hrow
      exact List.mem_map_of_mem ((hmem row).mpr ⟨hin, h⟩)
  refine ⟨?_, fun row hrow => ((hmem row).mp hrow).2, ?_⟩
  · rw [hdebits, howed, List.map_map]
    congr 2
    refine List.map_congr_left fun row hrow => ?_
    rw [Function.comp_apply, hworth,
      worthIn_of_lookup (lookupAccrual_of_mem hids ((hmem row).mp hrow).1)]
  · intro row hrow c hc hne hmem'
    exact hinv.disjoint c batchId hc hlive hne hmem' ((hmem row).mp hrow).2

end Abstract

variable {host : Host} {env : CallEnv}

/-- A closure of the in-memory store pays what it closes. -/
theorem Memory.closurePays {store store' : Memory} (hwf : store.WellFormed)
    (hinv : Inv store.escrow) {input : ClosePayoutBatchLedgerInput} {batch : PayoutBatchRecord}
    {transaction : LedgerTransaction} (h : ClosesLedger store input batch transaction store') :
    ClosurePays store.escrow store.listAccruals store'.listAccruals input.payoutBatchId
      transaction := by
  have hlive : store.escrow.live input.payoutBatchId :=
    ⟨batch, h.found, by rw [h.closes.finalized]; decide⟩
  have hholds : store.escrow.holds input.payoutBatchId = batch.accrualIds := by
    simp [escrow, h.found]
  refine closurePays_of_inv hwf.accrualIds rfl rfl hinv hlive ?_ ?_ ?_
  · intro hclosed
    obtain ⟨t, ht, hsource⟩ := Table.has_eq_true.mp hclosed
    exact Table.find?_eq_none.mp h.first t ht hsource
  · intro accrual ha hstatus
    have hacc : store'.listAccruals = store.listAccruals.map (fun accrual =>
        accrual.withStatusIf (fun accrual => accrual.status = .allocated &&
          accrual.id ∈ batch.finalizedAccrualIds) .paid) := by
      rw [h.writes]
      exact listAccruals_setAccrualStatus _ _
    rw [hacc, lookupAccrual_map (fun _ => CommissionAccrual.withStatusIf_id _ _ _),
      lookupAccrual_of_mem hwf.accrualIds ha, hholds, h.closes.finalizedAccrualIds]
    rw [CommissionAccrual.isAccrual_status] at hstatus
    by_cases hmem : accrual.id ∈ batch.accrualIds
    · simp [CommissionAccrual.withStatusIf, hstatus, hmem]
    · simp [CommissionAccrual.withStatusIf, hstatus, hmem]
  · rw [h.closes.debits]
    simp [escrow, h.found]

/-- A closure of a live batch of the database pays what it closes. -/
theorem Db.closurePays {reads db db' : Db} (hinv : Inv db.escrow)
    (hpersists : Persists reads.escrow db.escrow) {input : ClosePayoutBatchLedgerInput}
    {batch : PayoutBatchRecord} {transaction : LedgerTransaction}
    (hlive : db.escrow.live batch.id)
    (h : ClosesLedger host reads db input batch transaction db') :
    ClosurePays db.escrow db.commissionAccruals.rows db'.commissionAccruals.rows
      input.payoutBatchId transaction := by
  have hload := loadPayoutBatch_eq_some h.found
  rw [hload.id] at hlive
  obtain ⟨hids, htotal⟩ := hload.persists hpersists hlive
  have hid : ∀ row : CommissionAccrualRow,
      (if row.id ∈ batch.accrualIds ∧ row.status = .allocated then { row with status := .paid }
        else row).id = row.id := by
    intro row
    split <;> rfl
  refine closurePays_of_inv db.commissionAccruals.nodup rfl rfl hinv hlive h.first ?_ ?_
  · intro row hrow hstatus
    rw [h.accruals, lookupAccrual_map hid, lookupAccrual_of_mem db.commissionAccruals.nodup hrow]
    rw [CommissionAccrualRow.isAccrual_status] at hstatus
    have hheld : row.id ∈ batch.accrualIds ↔ row.id ∈ db.escrow.holds input.payoutBatchId :=
      hids row.id
    by_cases hmem : row.id ∈ batch.accrualIds
    · simp [hstatus, hmem, ← hheld]
    · simp [hstatus, hmem, ← hheld]
  · rw [h.closes.debits, htotal]
    rfl

/-- **In every run that respects cancellation, the first closure of a batch posts exactly what the
accruals it pays are worth, and they are its own** — in both stores. -/
theorem closure_pays (host : Host) :
    (∀ store, Memory.Respecting host store →
      ∀ env input transaction store',
      store.payoutLedgerTransactionsByBatchId.has input.payoutBatchId = false →
      store.closeFinalizedPayoutBatchLedger host env input = .ok (some transaction, store') →
      ClosurePays store.escrow store.listAccruals store'.listAccruals input.payoutBatchId
        transaction) ∧
    (∀ timeline, Timeline.Respecting host timeline →
      ∀ reads ∈ timeline.versions, ∀ env input transaction db',
      reads.loadLedgerTransactionBySource host .payoutBatch input.payoutBatchId = none →
      timeline.respectsCancellation
        ⟨reads, env, .closeFinalizedPayoutBatchLedger input⟩ = true →
      Db.closeFinalizedPayoutBatchLedger host env reads timeline.current input =
        .ok (some transaction, db') →
      ClosurePays timeline.current.escrow timeline.current.commissionAccruals.rows
        db'.commissionAccruals.rows input.payoutBatchId transaction) := by
  constructor
  · intro store hr env input transaction store' hfirst h
    obtain ⟨hwf, hinv⟩ := hr.inv
    rcases Memory.closeFinalizedPayoutBatchLedger_eq_ok h with
      ⟨-, hresult⟩ | ⟨batch, t, ht, hcloses⟩
    · -- a recorded closure would be found
      have hnone := Table.find?_eq_none.mpr (Table.has_eq_false.mp hfirst)
      rw [hnone] at hresult
      cases hresult
    · cases ht
      exact Memory.closurePays hwf hinv hcloses
  · intro timeline hr reads hreads env input transaction db' hfirst hrespects h
    have hinv := hr.inv
    rcases Db.closeFinalizedPayoutBatchLedger_eq_ok h with
      ⟨-, hnone | hexisting⟩ | ⟨batch, t, ht, hcloses⟩
    · cases hnone
    · rw [hfirst] at hexisting
      cases hexisting
    · cases ht
      exact Db.closurePays hinv.inv (hinv.persists reads hreads)
        (Timeline.live_of_closes rfl hrespects hcloses) hcloses

/-! ## Concrete runs -/

/-- The debits differ from what is paid. -/
def debitsDiffer {ρ : Type} [IsAccrual ρ] (rows rows' : List ρ) (transaction : LedgerTransaction) :
    Bool :=
  referrerPayableDebits transaction != (((movedToPaid rows rows').map (fun row =>
    atomicOf (IsAccrual.amountAtomic row))).sum : Nat)

theorem not_closurePays {ρ : Type} [IsAccrual ρ] {rows rows' : List ρ} {s : State String String}
    {batchId : String} {transaction : LedgerTransaction}
    (h : debitsDiffer rows rows' transaction = true) :
    ¬ ClosurePays s rows rows' batchId transaction := by
  intro hpays
  rw [debitsDiffer, bne_iff_ne] at h
  exact h hpays.debits

section Runs

open Sample (payOne landsAfterRelease closeInput env)

set_option maxRecDepth 100000 in
theorem closure_pays_payOne :
    (∃ transaction, ∃ store' : Memory,
      ClosurePays (Memory.sample payOne).escrow (Memory.sample payOne).listAccruals
        store'.listAccruals (Sample.idOf "pbt" 1) transaction) ∧
    (∃ transaction, ∃ db' : Db,
      ClosurePays (Timeline.sample payOne).current.escrow
        (Timeline.sample payOne).current.commissionAccruals.rows db'.commissionAccruals.rows
        (Sample.idOf "pbt" 1) transaction) := by
  constructor
  · obtain ⟨transaction, store', hclose, -⟩ := exists_of_postedWith (fun _ _ => true)
      (show postedWith _ ((Memory.sample payOne).closeFinalizedPayoutBatchLedger isoHost (env 9)
        (closeInput 1)) = true by decide +kernel)
    exact ⟨transaction, store', (closure_pays isoHost).1 _
      (Memory.reachable_sample (by decide +kernel)) _ _ _ _ (by decide +kernel) hclose⟩
  · obtain ⟨transaction, db', hclose, -⟩ := exists_of_postedWith (fun _ _ => true)
      (show postedWith _ (Db.closeFinalizedPayoutBatchLedger isoHost (env 9)
        (Timeline.sample payOne).current (Timeline.sample payOne).current (closeInput 1)) = true
        by decide +kernel)
    exact ⟨transaction, db', (closure_pays isoHost).2 _
      (Timeline.reachable_sample (by decide +kernel)) _ List.mem_cons_self _ _ _ _
      (by decide +kernel) (by decide +kernel) hclose⟩

set_option maxRecDepth 100000 in
/-- The released batch whose transaction landed is closed: its debits are posted, and no accrual is
paid. -/
theorem not_closure_pays_landsAfterRelease :
    (∃ store, (Memory.system isoHost).Reachable (fun _ _ => True) store ∧
      ∃ env input transaction store',
        store.payoutLedgerTransactionsByBatchId.has input.payoutBatchId = false ∧
        store.closeFinalizedPayoutBatchLedger isoHost env input =
          .ok (some transaction, store') ∧
        ¬ ClosurePays store.escrow store.listAccruals store'.listAccruals input.payoutBatchId
          transaction) ∧
    (∃ timeline, (Timeline.system isoHost).Reachable (fun _ _ => True) timeline ∧
      ∃ env input transaction db',
        timeline.current.loadLedgerTransactionBySource isoHost .payoutBatch input.payoutBatchId =
          none ∧
        Db.closeFinalizedPayoutBatchLedger isoHost env timeline.current timeline.current input =
          .ok (some transaction, db') ∧
        ¬ ClosurePays timeline.current.escrow timeline.current.commissionAccruals.rows
          db'.commissionAccruals.rows input.payoutBatchId transaction) := by
  constructor
  · obtain ⟨transaction, store', hclose, hdiffer⟩ := exists_of_postedWith
      (fun transaction store' => debitsDiffer
        (Memory.sample landsAfterRelease).listAccruals (Memory.listAccruals store') transaction)
      (show postedWith _ ((Memory.sample landsAfterRelease).closeFinalizedPayoutBatchLedger isoHost
        (env 9) (closeInput 1)) = true by decide +kernel)
    exact ⟨_, Memory.reachable_sample_true (by decide +kernel), _, _, transaction, store',
      by decide +kernel, hclose, not_closurePays hdiffer⟩
  · obtain ⟨transaction, db', hclose, hdiffer⟩ := exists_of_postedWith
      (fun transaction db' => debitsDiffer
        (Timeline.sample landsAfterRelease).current.commissionAccruals.rows
        (Db.commissionAccruals db').rows transaction)
      (show postedWith _ (Db.closeFinalizedPayoutBatchLedger isoHost (env 9)
        (Timeline.sample landsAfterRelease).current (Timeline.sample landsAfterRelease).current
        (closeInput 1)) = true by decide +kernel)
    exact ⟨_, Timeline.reachable_sample_true (by decide +kernel), _, _, transaction, db',
      by decide +kernel, hclose, not_closurePays hdiffer⟩

end Runs

end Split402

import Split402.Proof.AccrualEscrow
import Split402.Proof.PostgresOps
import Split402.Store.Runs

/-! # The database is an escrow

The same abstraction as for the in-memory store, over the tables: a batch holds what its
allocation rows name. A release deletes these rows, so a rollup of a cancelled batch revives a
batch that holds nothing but still owes its items. In a run that respects cancellation
(`Timeline.respectsCancellation`) every transaction moves the database like an escrow
(`next_escrow`), and what a call read earlier about a batch that is still live is still true
(`Respecting.inv`). -/

namespace Split402

open Base Base.Escrow

variable {host : Host} {env : CallEnv}

namespace Db

variable {db db' reads : Db}

/-! ## The abstraction -/

/-- What the items of a batch are worth. -/
def itemTotalOf (db : Db) (batchId : String) : Nat :=
  ((db.payoutItems.rows.filter (fun item => item.payoutBatchId = batchId)).map
    (fun item => atomicOf item.amountAtomic)).sum

/-- The database as an escrow. -/
def escrow (db : Db) : State String String where
  cond := condIn db.commissionAccruals.rows
  worth := worthIn db.commissionAccruals.rows
  known b := db.payoutBatches.find? b ≠ none
  holds := db.accrualIdsOf
  owed := db.itemTotalOf
  live b := ∃ row, db.payoutBatches.find? b = some row ∧ row.status ≠ .cancelled
  closed := db.HasClosed

@[simp] theorem escrow_cond : db.escrow.cond = condIn db.commissionAccruals.rows := rfl

@[simp] theorem escrow_worth : db.escrow.worth = worthIn db.commissionAccruals.rows := rfl

/-- The references between the tables that the abstraction relies on, and that a cancelled batch
holds nothing. -/
structure WellFormed (db : Db) : Prop where
  itemBatches : ∀ item ∈ db.payoutItems, db.payoutBatches.find? item.payoutBatchId ≠ none
  allocationItems : ∀ allocation ∈ db.payoutAllocations,
    ∃ item ∈ db.payoutItems, item.id = allocation.payoutItemId
  ledgerBatches : ∀ row ∈ db.ledgerTransactions, row.sourceType = .payoutBatch →
    db.payoutBatches.find? row.sourceId ≠ none
  cancelled : ∀ row ∈ db.payoutBatches, row.status = .cancelled → db.accrualIdsOf row.id = []

theorem accrualIdsOf_congr (hi : db'.payoutItems = db.payoutItems)
    (hal : db'.payoutAllocations = db.payoutAllocations) :
    db'.accrualIdsOf = db.accrualIdsOf := by
  funext b
  rw [accrualIdsOf, itemIdsOf, hi, hal]
  rfl

theorem itemTotalOf_congr (hi : db'.payoutItems = db.payoutItems) :
    db'.itemTotalOf = db.itemTotalOf := by
  funext b
  rw [itemTotalOf, hi, itemTotalOf]

/-- The escrow only depends on five tables. -/
theorem escrow_congr (ha : db'.commissionAccruals = db.commissionAccruals)
    (hb : db'.payoutBatches = db.payoutBatches) (hi : db'.payoutItems = db.payoutItems)
    (hal : db'.payoutAllocations = db.payoutAllocations)
    (hl : db'.ledgerTransactions = db.ledgerTransactions) : db'.escrow = db.escrow := by
  have hclosed : db'.HasClosed = db.HasClosed := by
    funext b
    rw [HasClosed, hl, HasClosed]
  simp [escrow, ha, hb, accrualIdsOf_congr hi hal, itemTotalOf_congr hi, hclosed]

theorem WellFormed.congr (h : db.WellFormed) (hb : db'.payoutBatches = db.payoutBatches)
    (hi : db'.payoutItems = db.payoutItems) (hal : db'.payoutAllocations = db.payoutAllocations)
    (hl : db'.ledgerTransactions = db.ledgerTransactions) : db'.WellFormed := by
  refine ⟨?_, ?_, ?_, ?_⟩
  · rw [hi, hb]
    exact h.itemBatches
  · rw [hal, hi]
    exact h.allocationItems
  · rw [hl, hb]
    exact h.ledgerBatches
  · rw [hb, accrualIdsOf_congr hi hal]
    exact h.cancelled

/-- What a batch holds, no other batch holds, and it holds nothing twice. -/
theorem accrualIdsOf_nodup (db : Db) (batchId : String) : (db.accrualIdsOf batchId).Nodup :=
  db.payoutAllocations.nodup.sublist (List.filter_sublist.map _)

/-- A batch whose row, items and allocations are as they were, with its ledger as it was, is
kept. -/
theorem keeps_of_tables {b : String}
    (hb : db'.payoutBatches.find? b = db.payoutBatches.find? b)
    (hholds : db'.accrualIdsOf b = db.accrualIdsOf b)
    (howed : db'.itemTotalOf b = db.itemTotalOf b)
    (hclosed : db'.HasClosed b ↔ db.HasClosed b) : Keeps db.escrow db'.escrow b := by
  refine ⟨?_, ?_, fun _ => hholds, fun _ => howed, fun _ => hclosed⟩ <;> simp [escrow, hb]

/-! ## Each operation is an escrow step -/

/-- Saving a snapshot is a frame step. -/
theorem save_escrow (hwf : db.WellFormed) {snapshot : ReceiptIngestionSnapshot}
    (hfresh : fresh ⟨env, .save snapshot⟩ = true) (h : SavesSnapshot host db snapshot db') :
    Step db.escrow db'.escrow ∧ db'.WellFormed := by
  simp only [fresh, Bool.and_eq_true] at hfresh
  obtain ⟨accruals, haccruals, -⟩ := h.accruals
  obtain ⟨ledgers, hledgers, hsource⟩ := h.ledgers
  have hb : db'.payoutBatches = db.payoutBatches := by rw [h.others]
  have hi : db'.payoutItems = db.payoutItems := by rw [h.others]
  have hal : db'.payoutAllocations = db.payoutAllocations := by rw [h.others]
  -- the ledger of a receipt closes no batch
  have hnew : ∀ row ∈ ledgers, row.sourceType ≠ .payoutBatch := by
    intro row hrow
    obtain ⟨transaction, ht, htype⟩ := hsource row hrow
    have hkind := hfresh.2
    rw [ht, Option.all_some, beq_iff_eq] at hkind
    rw [htype, hkind]
    decide
  have hmem : ∀ row, row ∈ db'.ledgerTransactions → row.sourceType = .payoutBatch →
      row ∈ db.ledgerTransactions := by
    intro row hrow htype
    rw [Table.mem_def, hledgers] at hrow
    rcases List.mem_append.mp hrow with hrow | hrow
    · exact hrow
    · exact absurd htype (hnew row hrow)
  have hold : ∀ row ∈ db.ledgerTransactions, row ∈ db'.ledgerTransactions := by
    intro row hrow
    rw [Table.mem_def, hledgers]
    exact List.mem_append_left _ hrow
  refine ⟨.frame (fun b => keeps_of_tables (by rw [hb]) (by rw [accrualIdsOf_congr hi hal])
    (by rw [itemTotalOf_congr hi]) ?_) ?_ ?_, ?_, ?_, ?_, ?_⟩
  · constructor
    · rintro ⟨row, hrow, htype, hid⟩
      exact ⟨row, hmem row hrow htype, htype, hid⟩
    · rintro ⟨row, hrow, htype, hid⟩
      exact ⟨row, hold row hrow, htype, hid⟩
  · intro id hid
    obtain ⟨accrual, ha⟩ := exists_lookup hid
    rw [escrow_cond, escrow_cond, haccruals, condIn_of_lookup ha,
      condIn_of_lookup (lookupAccrual_append ha _)]
  · intro id hid
    obtain ⟨accrual, ha⟩ := exists_lookup hid
    rw [escrow_worth, escrow_worth, haccruals, worthIn_of_lookup ha,
      worthIn_of_lookup (lookupAccrual_append ha _)]
  · rw [hi, hb]
    exact hwf.itemBatches
  · rw [hal, hi]
    exact hwf.allocationItems
  · intro row hrow htype
    rw [hb]
    exact hwf.ledgerBatches row (hmem row hrow htype) htype
  · rw [hb, accrualIdsOf_congr hi hal]
    exact hwf.cancelled

/-- A change of accruals that leaves allocated and paid ones alone is a frame step. -/
theorem frame_of_map (hwf : db.WellFormed) {f : CommissionAccrualRow → CommissionAccrualRow}
    (hid : ∀ row, (f row).id = row.id) (hamount : ∀ row, (f row).amountAtomic = row.amountAtomic)
    (hkeep : ∀ row : CommissionAccrualRow, row.status = .allocated ∨ row.status = .paid →
      (f row).status = row.status)
    (hacc : db'.commissionAccruals.rows = db.commissionAccruals.rows.map f)
    (hb : db'.payoutBatches = db.payoutBatches) (hi : db'.payoutItems = db.payoutItems)
    (hal : db'.payoutAllocations = db.payoutAllocations)
    (hl : db'.ledgerTransactions = db.ledgerTransactions) :
    Step db.escrow db'.escrow ∧ db'.WellFormed := by
  refine ⟨.frame (fun b => keeps_of_tables (by rw [hb]) (by rw [accrualIdsOf_congr hi hal])
    (by rw [itemTotalOf_congr hi]) ?_) ?_ ?_, hwf.congr hb hi hal hl⟩
  · rw [HasClosed, hl, HasClosed]
  · intro id h
    rw [escrow_cond, escrow_cond, hacc]
    refine condIn_map_kept hid fun row hr => hkeep row ?_
    rw [← condition_eq_held, ← condition_eq_spent]
    exact condIn_of_lookup hr ▸ h
  · intro id _
    rw [escrow_worth, escrow_worth, hacc]
    exact worthIn_map hid hamount _ _

/-- A chain mark is a frame step: it only moves a pending accrual. -/
theorem verified_escrow (hwf : db.WellFormed) {input : MarkReceiptChainVerifiedInput}
    {result : Option ReceiptIngestionSnapshot}
    (h : db.markReceiptChainVerified host input = .ok (result, db')) :
    Step db.escrow db'.escrow ∧ db'.WellFormed := by
  rw [markReceiptChainVerified] at h
  obtain ⟨verifiedAt, -, h⟩ := bind_eq_ok.mp h
  rw [pure_eq_ok] at h
  injection h with hr hd
  subst hd
  refine frame_of_map hwf (f := fun row => if row.receiptId = input.receiptId &&
    row.status = .pendingChainVerification then
      { row with status := .available, availableAt := some verifiedAt } else row)
    ?_ ?_ ?_ rfl rfl rfl rfl rfl
  · intro row
    split <;> rfl
  · intro row
    split <;> rfl
  · intro row hrow
    have hne : row.status ≠ .pendingChainVerification := by
      rcases hrow with hrow | hrow <;> rw [hrow] <;> decide
    simp [hne]

theorem rejected_escrow (hwf : db.WellFormed) (input : MarkReceiptChainRejectedInput) :
    Step db.escrow (db.markReceiptChainRejected host input).2.escrow ∧
      (db.markReceiptChainRejected host input).2.WellFormed := by
  rw [markReceiptChainRejected]
  refine frame_of_map hwf (f := fun row => if row.receiptId = input.receiptId &&
    row.status = .pendingChainVerification then { row with status := .rejected } else row)
    ?_ ?_ ?_ rfl rfl rfl rfl rfl
  · intro row
    split <;> rfl
  · intro row
    split <;> rfl
  · intro row hrow
    have hne : row.status ≠ .pendingChainVerification := by
      rcases hrow with hrow | hrow <;> rw [hrow] <;> decide
    simp [hne]

/-! ## Creating a batch -/

section Create

variable {input : CreatePayoutBatchFromAvailableAccrualsInput} {batch : PayoutBatchRecord}

theorem CreatesBatch.find?_self (h : CreatesBatch host env db input batch db') :
    db.payoutBatches.find? batch.id = none ∧
      ∃ row, db'.payoutBatches.find? batch.id = some row ∧ row.status = batch.status := by
  obtain ⟨createdAt, updatedAt, -, -, hrows⟩ := h.batches
  refine ⟨Table.find?_eq_none.mpr h.newBatch, batchRowOf batch createdAt updatedAt, ?_, rfl⟩
  refine Table.find?_eq_some.mpr ⟨?_, rfl⟩
  rw [Table.mem_def, hrows]
  simp

theorem CreatesBatch.find?_other (h : CreatesBatch host env db input batch db') {c : String}
    (hc : c ≠ batch.id) : db'.payoutBatches.find? c = db.payoutBatches.find? c := by
  obtain ⟨createdAt, updatedAt, -, -, hrows⟩ := h.batches
  have hself : ¬ (batchRowOf batch createdAt updatedAt).id = c := fun hk => hc hk.symm
  rw [Table.find?, hrows, List.find?_append, Table.find?]
  simp [hself]

/-- The new items have new ids and belong to the new batch. -/
theorem CreatesBatch.newItems (hwf : db.WellFormed) (h : CreatesBatch host env db input batch db') :
    ∃ rows, db'.payoutItems.rows = db.payoutItems.rows ++ rows ∧
      rows.map PayoutItemRow.id = batch.items.map PayoutItemRecord.id ∧
      rows.map (fun row => atomicOf row.amountAtomic) =
        batch.items.map (fun item => atomicOf item.amountAtomic) ∧
      (∀ row ∈ rows, row.payoutBatchId = batch.id) ∧
      (∀ row ∈ db.payoutItems, row.payoutBatchId ≠ batch.id) ∧
      ∀ row ∈ db.payoutItems, row.id ∉ batch.items.map PayoutItemRecord.id := by
  obtain ⟨rows, hforall, hrows⟩ := h.items
  have hids := hforall.map_eq (g := PayoutItemRecord.id) (k := PayoutItemRow.id)
    (fun _ _ => rfl)
  refine ⟨rows, hrows, hids, hforall.map_eq (fun _ _ => rfl), ?_, ?_, ?_⟩
  · intro row hrow
    have hbatches := hforall.map_eq (g := PayoutItemRecord.payoutBatchId)
      (k := PayoutItemRow.payoutBatchId) (fun _ _ => rfl)
    have hmem : row.payoutBatchId ∈ batch.items.map PayoutItemRecord.payoutBatchId :=
      hbatches ▸ List.mem_map_of_mem hrow
    obtain ⟨item, hitem, he⟩ := List.mem_map.mp hmem
    rw [← he, (h.planned.items item hitem).2]
  · intro row hrow he
    exact hwf.itemBatches row hrow (he ▸ h.find?_self.1)
  · intro row hrow hmem
    have hnodup := db'.payoutItems.nodup
    rw [hrows, List.map_append, List.nodup_append] at hnodup
    rw [← hids] at hmem
    exact hnodup.2.2 row.id (List.mem_map_of_mem hrow) row.id hmem rfl

theorem CreatesBatch.itemIdsOf_self (hwf : db.WellFormed)
    (h : CreatesBatch host env db input batch db') :
    db'.itemIdsOf batch.id = batch.items.map PayoutItemRecord.id := by
  obtain ⟨rows, hrows, hids, -, hnew, hold, -⟩ := h.newItems hwf
  have hfold : db.payoutItems.rows.filter (fun item => item.payoutBatchId = batch.id) = [] := by
    rw [List.filter_eq_nil_iff]
    exact fun row hrow => by simpa using hold row hrow
  have hfnew : rows.filter (fun item => item.payoutBatchId = batch.id) = rows :=
    List.filter_eq_self.mpr fun row hrow => by simpa using hnew row hrow
  rw [itemIdsOf, hrows, List.filter_append, hfold, hfnew, List.nil_append, hids]

/-- The rows of the items of another batch are as they were. -/
theorem CreatesBatch.itemRows_other (hwf : db.WellFormed)
    (h : CreatesBatch host env db input batch db') {c : String} (hc : c ≠ batch.id) :
    db'.payoutItems.rows.filter (fun item => item.payoutBatchId = c) =
      db.payoutItems.rows.filter (fun item => item.payoutBatchId = c) := by
  obtain ⟨rows, hrows, -, -, hnew, -, -⟩ := h.newItems hwf
  have hfnew : rows.filter (fun item => item.payoutBatchId = c) = [] := by
    rw [List.filter_eq_nil_iff]
    intro row hrow
    rw [hnew row hrow]
    simpa using Ne.symm hc
  rw [hrows, List.filter_append, hfnew, List.append_nil]

/-- The new allocations belong to the new items. -/
theorem CreatesBatch.mem_newAllocations (h : CreatesBatch host env db input batch db')
    {allocation : PayoutAllocationRecord}
    (ha : allocation ∈ batch.items.flatMap PayoutItemRecord.allocations) :
    allocation.payoutItemId ∈ batch.items.map PayoutItemRecord.id := by
  obtain ⟨item, hitem, hmem⟩ := List.mem_flatMap.mp ha
  rw [(h.planned.allocation item hitem allocation hmem).1]
  exact List.mem_map_of_mem hitem

theorem CreatesBatch.accrualIdsOf_self (hwf : db.WellFormed)
    (h : CreatesBatch host env db input batch db') :
    db'.accrualIdsOf batch.id = batch.accrualIds := by
  obtain ⟨-, -, -, -, -, -, hids⟩ := h.newItems hwf
  have hfold : db.payoutAllocations.rows.filter (fun allocation =>
      allocation.payoutItemId ∈ batch.items.map PayoutItemRecord.id) = [] := by
    rw [List.filter_eq_nil_iff]
    intro allocation ha
    obtain ⟨item, hitem, hid⟩ := hwf.allocationItems allocation ha
    rw [← hid]
    simpa using hids item hitem
  have hfnew : (batch.items.flatMap PayoutItemRecord.allocations).filter (fun allocation =>
      allocation.payoutItemId ∈ batch.items.map PayoutItemRecord.id) =
      batch.items.flatMap PayoutItemRecord.allocations :=
    List.filter_eq_self.mpr fun allocation ha => decide_eq_true (h.mem_newAllocations ha)
  rw [accrualIdsOf, h.itemIdsOf_self hwf, h.allocations, List.filter_append, hfold, hfnew,
    List.nil_append, PayoutBatchRecord.accrualIds, List.map_flatMap]

theorem CreatesBatch.accrualIdsOf_other (hwf : db.WellFormed)
    (h : CreatesBatch host env db input batch db') {c : String} (hc : c ≠ batch.id) :
    db'.accrualIdsOf c = db.accrualIdsOf c := by
  obtain ⟨-, -, -, -, -, -, hids⟩ := h.newItems hwf
  have hitemIds : db'.itemIdsOf c = db.itemIdsOf c := by
    rw [itemIdsOf, h.itemRows_other hwf hc, itemIdsOf]
  have hfnew : (batch.items.flatMap PayoutItemRecord.allocations).filter (fun allocation =>
      allocation.payoutItemId ∈ db.itemIdsOf c) = [] := by
    rw [List.filter_eq_nil_iff]
    intro allocation ha hmem
    obtain ⟨item, hitem, -, hid⟩ := mem_itemIdsOf.mp (of_decide_eq_true hmem)
    exact hids item hitem (hid ▸ h.mem_newAllocations ha)
  rw [accrualIdsOf, hitemIds, h.allocations, List.filter_append, hfnew, List.append_nil,
    accrualIdsOf]

/-- Creating a batch takes its accruals. -/
theorem create_escrow (hwf : db.WellFormed) (h : CreatesBatch host env db input batch db') :
    Step db.escrow db'.escrow ∧ db'.WellFormed := by
  obtain ⟨hnone, row, hfind, hstatus⟩ := h.find?_self
  obtain ⟨rows, hrows, hids, hamounts, hnew, hold, -⟩ := h.newItems hwf
  have hl : db'.ledgerTransactions = db.ledgerTransactions := by rw [h.others]
  have hholds : db'.escrow.holds batch.id = batch.accrualIds := h.accrualIdsOf_self hwf
  have hid : ∀ row : CommissionAccrualRow,
      (if row.id ∈ batch.accrualIds then { row with status := .allocated } else row).id =
        row.id := by
    intro row
    split <;> rfl
  have hworth : ∀ id, db'.escrow.worth id = db.escrow.worth id := by
    intro id
    rw [escrow_worth, h.accruals]
    refine worthIn_map hid ?_ _ id
    intro row
    split <;> rfl
  -- an allocated id is the id of a stored accrual
  have hstored : ∀ id ∈ batch.accrualIds, ∃ row, row.status = .available ∧ row.id = id ∧
      lookupAccrual db.commissionAccruals.rows id = some row := by
    intro id hmem
    obtain ⟨item, hi, hall⟩ := List.mem_flatMap.mp hmem
    obtain ⟨allocation, ha, rfl⟩ := List.mem_map.mp hall
    obtain ⟨-, accrual, hin, hide, -⟩ := h.planned.allocation item hi allocation ha
    obtain ⟨row, hrow, rfl⟩ := List.mem_map.mp hin
    rw [mapAccrual_id] at hide
    exact ⟨row, h.available row hrow (hide ▸ hmem), hide,
      hide ▸ lookupAccrual_of_mem db.commissionAccruals.nodup hrow⟩
  refine ⟨.take batch.id (fun hknown => hknown hnone)
    (fun c hc => keeps_of_tables (h.find?_other hc) (h.accrualIdsOf_other hwf hc) ?_ ?_)
    ⟨row, hfind, ?_⟩ ?_ (db'.accrualIdsOf_nodup batch.id) ?_ ?_ ?_ ?_ hworth, ?_, ?_, ?_, ?_⟩
  · rw [itemTotalOf, h.itemRows_other hwf hc, itemTotalOf]
  · rw [HasClosed, hl, HasClosed]
  · rw [hstatus, h.planned.planned]
    decide
  · -- a closed batch would be stored
    rintro ⟨ledger, hledger, htype, hsource⟩
    rw [hl] at hledger
    exact hwf.ledgerBatches ledger hledger htype (hsource ▸ hnone)
  · have howed : db'.escrow.owed batch.id = batch.itemTotal := by
      have hfold : db.payoutItems.rows.filter (fun item => item.payoutBatchId = batch.id) = [] := by
        rw [List.filter_eq_nil_iff]
        exact fun row hrow => by simpa using hold row hrow
      have hfnew : rows.filter (fun item => item.payoutBatchId = batch.id) = rows :=
        List.filter_eq_self.mpr fun row hrow => by simpa using hnew row hrow
      change db'.itemTotalOf batch.id = _
      rw [itemTotalOf, hrows, List.filter_append, hfold, hfnew, List.nil_append, hamounts,
        PayoutBatchRecord.itemTotal]
    rw [howed, hholds]
    refine h.planned.itemTotal_eq fun accrual ha => ?_
    obtain ⟨row, hrow, rfl⟩ := List.mem_map.mp ha
    rw [hworth, escrow_worth]
    exact worthIn_of_lookup (lookupAccrual_of_mem db.commissionAccruals.nodup hrow)
  · intro id hmem
    rw [hholds] at hmem
    obtain ⟨row, hstatus, -, hlookup⟩ := hstored id hmem
    rw [escrow_cond, condIn_of_lookup hlookup, CommissionAccrualRow.isAccrual_status, hstatus]
    rfl
  · intro id hmem
    rw [hholds] at hmem
    obtain ⟨row, -, hide, hlookup⟩ := hstored id hmem
    rw [escrow_cond, h.accruals, condIn_map hid hlookup, if_pos (hide ▸ hmem)]
    rfl
  · intro id hmem
    rw [hholds] at hmem
    rw [escrow_cond, escrow_cond, h.accruals]
    refine condIn_map_kept hid fun row hlookup => ?_
    have hide : row.id = id := (lookupAccrual_mem hlookup).2
    rw [if_neg (hide ▸ hmem)]
  · intro item hitem
    rw [Table.mem_def, hrows] at hitem
    rcases List.mem_append.mp hitem with hitem | hitem
    · rw [h.find?_other (hold item hitem)]
      exact hwf.itemBatches item hitem
    · rw [hnew item hitem, hfind]
      exact Option.some_ne_none _
  · intro allocation ha
    rw [Table.mem_def, h.allocations] at ha
    rcases List.mem_append.mp ha with ha | ha
    · obtain ⟨item, hitem, hide⟩ := hwf.allocationItems allocation ha
      refine ⟨item, ?_, hide⟩
      rw [Table.mem_def, hrows]
      exact List.mem_append_left _ hitem
    · have hmem := h.mem_newAllocations ha
      rw [← hids] at hmem
      obtain ⟨item, hitem, hide⟩ := List.mem_map.mp hmem
      refine ⟨item, ?_, hide⟩
      rw [Table.mem_def, hrows]
      exact List.mem_append_right _ hitem
  · intro ledger hledger htype
    rw [hl] at hledger
    have hknown := hwf.ledgerBatches ledger hledger htype
    have hother : ledger.sourceId ≠ batch.id := fun hk => hknown (by rw [hk, hnone])
    rwa [h.find?_other hother]
  · intro other hother hcancelled
    by_cases hk : other.id = batch.id
    · have hself : db'.payoutBatches.find? batch.id = some other :=
        Table.find?_eq_some.mpr ⟨hother, hk⟩
      rw [hfind] at hself
      injection hself with hself
      rw [← hself, hstatus, h.planned.planned] at hcancelled
      cases hcancelled
    · rw [h.accrualIdsOf_other hwf hk]
      have hold : db.payoutBatches.find? other.id = some other :=
        h.find?_other hk ▸ Table.find?_of_mem hother
      exact hwf.cancelled other (Table.mem_of_find? hold) hcancelled

end Create

/-! ## Releasing a batch -/

section Release

variable {input : ReleasePayoutBatchAllocationsInput} {batch released : PayoutBatchRecord}

theorem ReleasesBatch.find?_self (h : ReleasesBatch host db input batch released db') :
    ∃ row, db'.payoutBatches.find? batch.id = some row ∧ row.status = .cancelled := by
  obtain ⟨updatedAt, -, hrows⟩ := h.batches
  obtain ⟨row, hfind, -⟩ := (loadPayoutBatch_eq_some h.found).row
  rw [← (loadPayoutBatch_eq_some h.found).id] at hfind
  have hid : row.id = batch.id := Table.key_of_find? hfind
  have hmap := Table.find?_of_map (fun row => by split <;> rfl) hrows batch.id
  rw [hfind, Option.map_some, if_pos hid] at hmap
  exact ⟨_, hmap, rfl⟩

theorem ReleasesBatch.find?_other (h : ReleasesBatch host db input batch released db')
    {c : String} (hc : c ≠ batch.id) :
    db'.payoutBatches.find? c = db.payoutBatches.find? c := by
  obtain ⟨updatedAt, -, hrows⟩ := h.batches
  rw [Table.find?_of_map (fun row => ?_) hrows]
  · cases hfind : db.payoutBatches.find? c with
    | none => rfl
    | some row =>
        have hid : row.id ≠ batch.id := fun hk => hc ((Table.key_of_find? hfind).symm.trans hk)
        rw [Option.map_some, if_neg hid]
  · split <;> rfl

/-- Releasing keeps the items under their ids and batches, with their amounts. -/
theorem ReleasesBatch.items_filter (h : ReleasesBatch host db input batch released db')
    (c : String) : db'.payoutItems.rows.filter (fun item => item.payoutBatchId = c) =
      (db.payoutItems.rows.filter (fun item => item.payoutBatchId = c)).map (fun row =>
        if row.payoutBatchId = batch.id then { row with status := .released } else row) := by
  rw [h.items, List.filter_map]
  congr 1
  refine List.filter_congr fun row _ => ?_
  rw [Function.comp_apply]
  split <;> rfl

theorem ReleasesBatch.itemIdsOf (h : ReleasesBatch host db input batch released db') :
    db'.itemIdsOf = db.itemIdsOf := by
  funext c
  rw [Db.itemIdsOf, h.items_filter, List.map_map, Db.itemIdsOf]
  refine List.map_congr_left fun row _ => ?_
  rw [Function.comp_apply]
  split <;> rfl

theorem ReleasesBatch.itemTotalOf (h : ReleasesBatch host db input batch released db') :
    db'.itemTotalOf = db.itemTotalOf := by
  funext c
  rw [Db.itemTotalOf, h.items_filter, List.map_map, Db.itemTotalOf]
  congr 1
  refine List.map_congr_left fun row _ => ?_
  rw [Function.comp_apply]
  split <;> rfl

/-- The released batch holds nothing, and the others hold what they held. -/
theorem ReleasesBatch.accrualIdsOf (h : ReleasesBatch host db input batch released db') :
    db'.accrualIdsOf batch.id = [] ∧
      ∀ c, c ≠ batch.id → db'.accrualIdsOf c = db.accrualIdsOf c := by
  constructor
  · rw [Db.accrualIdsOf, h.itemIdsOf, h.allocations, List.map_eq_nil_iff,
      List.filter_eq_nil_iff]
    intro allocation ha hmem
    exact (of_decide_eq_true (List.mem_filter.mp ha).2) (of_decide_eq_true hmem)
  · intro c hc
    rw [Db.accrualIdsOf, h.itemIdsOf, h.allocations, List.filter_filter, Db.accrualIdsOf]
    congr 1
    refine List.filter_congr fun allocation _ => ?_
    -- an item belongs to one batch
    have hone : allocation.payoutItemId ∈ db.itemIdsOf c →
        allocation.payoutItemId ∉ db.itemIdsOf batch.id := by
      intro hmem hmem'
      obtain ⟨item, hitem, hbatch, hid⟩ := mem_itemIdsOf.mp hmem
      obtain ⟨other, hother, hbatch', hid'⟩ := mem_itemIdsOf.mp hmem'
      have hsame : item = other := Table.eq_of_key hitem hother (hid.trans hid'.symm)
      exact hc (hbatch.symm.trans (hsame ▸ hbatch'))
    by_cases hmem : allocation.payoutItemId ∈ db.itemIdsOf c
    · simp [hmem, hone hmem]
    · simp [hmem]

/-- A release frees what its batch holds. -/
theorem release_escrow (hwf : db.WellFormed)
    (h : ReleasesBatch host db input batch released db') :
    Step db.escrow db'.escrow ∧ db'.WellFormed := by
  obtain ⟨row, hfind', hcancelled⟩ := h.find?_self
  have hload := loadPayoutBatch_eq_some h.found
  obtain ⟨old, hold, hstatus⟩ := hload.row
  rw [← hload.id] at hold
  have hl : db'.ledgerTransactions = db.ledgerTransactions := by rw [h.others]
  have hknown : ∀ c, db.payoutBatches.find? c ≠ none → db'.payoutBatches.find? c ≠ none := by
    intro c hc
    by_cases hk : c = batch.id
    · rw [hk, hfind']
      exact Option.some_ne_none _
    · rwa [h.find?_other hk]
  have hid : ∀ row : CommissionAccrualRow,
      (if row.id ∈ db.accrualIdsOf batch.id ∧ row.status = .allocated then
        { row with status := .available } else row).id = row.id := by
    intro row
    split <;> rfl
  refine ⟨.release batch.id ?_ (fun c hc => keeps_of_tables (h.find?_other hc)
    (h.accrualIdsOf.2 c hc) (by rw [h.itemTotalOf]) (by rw [HasClosed, hl, HasClosed]))
    (hknown _ (by rw [hold]; exact Option.some_ne_none _)) ?_ ?_ ?_, ?_, ?_, ?_, ?_⟩
  · -- a cancelled batch is released again, but it holds nothing
    by_cases hc : old.status = .cancelled
    · refine .inr fun id hmem => ?_
      have hnil := hwf.cancelled old (Table.mem_of_find? hold) hc
      rw [Table.key_of_find? hold] at hnil
      rw [show db.escrow.holds batch.id = [] from hnil] at hmem
      exact absurd hmem List.not_mem_nil
    · exact .inl ⟨old, hold, hc⟩
  · rintro ⟨other, hother, hne⟩
    rw [hfind'] at hother
    injection hother with hother
    exact hne (hother ▸ hcancelled)
  · intro id hor
    rw [escrow_cond, escrow_cond, h.accruals]
    refine condIn_map_kept hid fun accrual ha => ?_
    have hide : accrual.id = id := (lookupAccrual_mem ha).2
    rw [escrow_cond, condIn_of_lookup ha, Ne, condition_eq_held] at hor
    rw [if_neg]
    rintro ⟨hmem, hallocated⟩
    rcases hor with hor | hor
    · exact hor (hide ▸ hmem)
    · exact hor hallocated
  · intro id
    rw [escrow_worth, escrow_worth, h.accruals]
    refine worthIn_map hid ?_ _ id
    intro row
    split <;> rfl
  · intro item hitem
    rw [Table.mem_def, h.items] at hitem
    obtain ⟨original, horiginal, rfl⟩ := List.mem_map.mp hitem
    refine hknown _ ?_
    have hbatch := hwf.itemBatches original horiginal
    split
    · exact hbatch
    · exact hbatch
  · intro allocation ha
    rw [Table.mem_def, h.allocations] at ha
    obtain ⟨item, hitem, hide⟩ := hwf.allocationItems allocation (List.mem_filter.mp ha).1
    refine ⟨if item.payoutBatchId = batch.id then { item with status := .released } else item,
      ?_, ?_⟩
    · rw [Table.mem_def, h.items]
      exact List.mem_map_of_mem hitem
    · split <;> exact hide
  · intro ledger hledger htype
    rw [hl] at hledger
    exact hknown _ (hwf.ledgerBatches ledger hledger htype)
  · intro other hother hcancelled'
    by_cases hk : other.id = batch.id
    · rw [hk]
      exact h.accrualIdsOf.1
    · rw [h.accrualIdsOf.2 _ hk]
      have hfind := h.find?_other hk
      rw [Table.find?_of_mem hother] at hfind
      exact hwf.cancelled other (Table.mem_of_find? hfind.symm) hcancelled'

end Release

/-! ## Transactions and rollups -/

/-- Rolling up a batch that is not cancelled is a frame step. -/
theorem writeRollup_escrow (updatedAt : Int) (hwf : db.WellFormed) {batchId : String}
    {rollup : PayoutBatchTransactionItemRollup}
    (hstatus : rollup.batchStatus ≠ .cancelled)
    (hlive : ∀ row, db.payoutBatches.find? batchId = some row → row.status ≠ .cancelled) :
    Step db.escrow (db.writeRollup batchId rollup updatedAt).escrow ∧
      (db.writeRollup batchId rollup updatedAt).WellFormed := by
  have hitems := writeRollup_items db batchId rollup updatedAt
  generalize hdb' : db.writeRollup batchId rollup updatedAt = db' at hitems ⊢
  have hbatches : db'.payoutBatches.rows = db.payoutBatches.rows.map (fun row =>
      if row.id = batchId then
        { row with
          status := rollup.batchStatus
          failureCode := rollup.failureCode
          failureMessage := rollup.failureMessage
          updatedAt := updatedAt }
      else row) := by
    rw [← hdb', writeRollup]
    simp
  have hal : db'.payoutAllocations = db.payoutAllocations := by rw [← hdb']; rfl
  have hacc : db'.commissionAccruals = db.commissionAccruals := by rw [← hdb']; rfl
  have hl : db'.ledgerTransactions = db.ledgerTransactions := by rw [← hdb']; rfl
  have hfilter : ∀ c, db'.payoutItems.rows.filter (fun item => item.payoutBatchId = c) =
      (db.payoutItems.rows.filter (fun item => item.payoutBatchId = c)).map (fun row =>
        { row with status := statusAfter rollup.updatedItems row }) := by
    intro c
    rw [hitems, List.filter_map]
    rfl
  have hids : db'.itemIdsOf = db.itemIdsOf := by
    funext c
    rw [itemIdsOf, hfilter, List.map_map, itemIdsOf]
    rfl
  have hholds : db'.accrualIdsOf = db.accrualIdsOf := by
    funext c
    rw [accrualIdsOf, hids, hal, accrualIdsOf]
  have howed : db'.itemTotalOf = db.itemTotalOf := by
    funext c
    rw [itemTotalOf, hfilter, List.map_map, itemTotalOf]
    rfl
  have hfind := Table.find?_of_map (t := db.payoutBatches) (u := db'.payoutBatches)
    (fun row => by split <;> rfl) hbatches
  have hknown : ∀ c, db'.payoutBatches.find? c ≠ none ↔ db.payoutBatches.find? c ≠ none := by
    intro c
    rw [hfind, Ne, Option.map_eq_none_iff]
  have hlives : ∀ c, db'.escrow.live c ↔ db.escrow.live c := by
    intro c
    constructor
    · rintro ⟨row, hrow, hne⟩
      rw [hfind, Option.map_eq_some_iff] at hrow
      obtain ⟨original, horiginal, rfl⟩ := hrow
      refine ⟨original, horiginal, ?_⟩
      split at hne
      · rename_i hk
        have hkey : original.id = c := Table.key_of_find? horiginal
        exact hlive original (by rw [← hk, hkey]; exact horiginal)
      · exact hne
    · rintro ⟨row, hrow, hne⟩
      refine ⟨_, by rw [hfind, hrow, Option.map_some], ?_⟩
      split
      · exact hstatus
      · exact hne
  refine ⟨.frame (fun c => ⟨hknown c, hlives c, fun _ => congrFun hholds c,
    fun _ => congrFun howed c, fun _ => ?_⟩) ?_ ?_, ?_, ?_, ?_, ?_⟩
  · change db'.HasClosed c ↔ db.HasClosed c
    rw [HasClosed, hl, HasClosed]
  · intro id _
    rw [escrow_cond, hacc, escrow_cond]
  · intro id _
    rw [escrow_worth, hacc, escrow_worth]
  · intro item hitem
    rw [Table.mem_def, hitems] at hitem
    obtain ⟨original, horiginal, rfl⟩ := List.mem_map.mp hitem
    exact (hknown _).mpr (hwf.itemBatches original horiginal)
  · intro allocation ha
    rw [hal] at ha
    obtain ⟨item, hitem, hid⟩ := hwf.allocationItems allocation ha
    refine ⟨{ item with status := statusAfter rollup.updatedItems item }, ?_, hid⟩
    rw [Table.mem_def, hitems]
    exact List.mem_map_of_mem hitem
  · intro ledger hledger htype
    rw [hl] at hledger
    exact (hknown _).mpr (hwf.ledgerBatches ledger hledger htype)
  · intro row hrow hcancelled
    rw [hholds]
    rw [Table.mem_def, hbatches] at hrow
    obtain ⟨original, horiginal, rfl⟩ := List.mem_map.mp hrow
    split at hcancelled
    · exact absurd hcancelled hstatus
    · rename_i hk
      rw [if_neg hk]
      exact hwf.cancelled original horiginal hcancelled

/-- A mark on a transaction of a batch that is not cancelled is a frame step. -/
theorem mark_escrow (hwf : db.WellFormed) {row : PayoutTransactionRow}
    {change : PayoutTransactionRow → PayoutTransactionRow}
    {hkey : ∀ row, (change row).id = row.id} {at' : String}
    (hlive : ∀ batch, db.payoutBatches.find? row.payoutBatchId = some batch →
      batch.status ≠ .cancelled)
    (h : MarksTransaction host db row change hkey at' db') :
    Step db.escrow db'.escrow ∧ db'.WellFormed := by
  obtain ⟨rolled, hroll, events, rfl⟩ := h.rolledUp
  have hcongr : (db.changeTransaction row.id change hkey).WellFormed :=
    hwf.congr rfl rfl rfl rfl
  rcases rollUpPayoutBatchFinality_eq_ok hroll with
    ⟨rfl, -⟩ | ⟨batch, rollup, updatedMs, -, hr, -, rfl⟩
  · exact ⟨.of_eq (escrow_congr rfl rfl rfl rfl rfl), hcongr.congr rfl rfl rfl rfl⟩
  · obtain ⟨hstep, hwf'⟩ := writeRollup_escrow updatedMs hcongr
      (summarize_eq_some hr).2 hlive
    exact ⟨hstep, hwf'.congr rfl rfl rfl rfl⟩

/-! ## Ledger closure -/

/-- What was read about a batch that is still live is still true of it. -/
theorem LoadsBatch.persists {batchId : String} {batch : PayoutBatchRecord}
    (h : LoadsBatch host reads batchId batch) (hpersists : Persists reads.escrow db.escrow)
    (hlive : db.escrow.live batchId) :
    (∀ id, id ∈ batch.accrualIds ↔ id ∈ db.accrualIdsOf batchId) ∧
      batch.itemTotal = db.itemTotalOf batchId := by
  obtain ⟨row, hfind, -⟩ := h.row
  have hknown : reads.escrow.known batchId := by
    change reads.payoutBatches.find? batchId ≠ none
    rw [hfind]
    exact Option.some_ne_none _
  obtain ⟨-, hholds, howed⟩ := (hpersists batchId hknown).2 hlive
  refine ⟨fun id => ?_, ?_⟩
  · rw [h.accrualIds]
    exact iff_of_eq (congrArg (id ∈ ·) hholds.symm)
  · have hamounts := congrArg (List.map (fun x : String × String × PayoutItemStatus =>
      atomicOf x.2.1)) h.items
    rw [List.map_map, List.map_map] at hamounts
    have hperm := ((itemRows_perm host reads batchId).map
      (fun row => atomicOf row.amountAtomic)).sum_eq
    calc batch.itemTotal
        = ((reads.itemRows host batchId).map (fun row => atomicOf row.amountAtomic)).sum :=
          congrArg List.sum hamounts
      _ = reads.itemTotalOf batchId := hperm
      _ = db.itemTotalOf batchId := howed.symm

/-- A closure of a batch that is still live spends what the batch holds. -/
theorem close_escrow (hwf : db.WellFormed) {input : ClosePayoutBatchLedgerInput}
    {batch : PayoutBatchRecord} {transaction : LedgerTransaction}
    (hpersists : Persists reads.escrow db.escrow) (hlive : db.escrow.live batch.id)
    (h : ClosesLedger host reads db input batch transaction db') :
    Step db.escrow db'.escrow ∧ db'.WellFormed := by
  have hload := loadPayoutBatch_eq_some h.found
  have hload' : LoadsBatch host reads batch.id batch := hload.id ▸ hload
  obtain ⟨hids, -⟩ := hload'.persists hpersists hlive
  obtain ⟨createdAt, hledgers⟩ := h.ledgers
  have hb : db'.payoutBatches = db.payoutBatches := by rw [h.others]
  have hi : db'.payoutItems = db.payoutItems := by rw [h.others]
  have hal : db'.payoutAllocations = db.payoutAllocations := by rw [h.others]
  have hid : ∀ row : CommissionAccrualRow,
      (if row.id ∈ batch.accrualIds ∧ row.status = .allocated then { row with status := .paid }
        else row).id = row.id := by
    intro row
    split <;> rfl
  have hclosed : ∀ c, db'.HasClosed c ↔ batch.id = c ∨ db.HasClosed c := by
    intro c
    have hmem : ∀ row, row ∈ db'.ledgerTransactions ↔ row ∈ db.ledgerTransactions ∨
        row = ⟨transaction.id, transaction.sourceType, transaction.sourceId, transaction.asset,
          createdAt⟩ := by
      intro row
      rw [Table.mem_def, hledgers, List.mem_append, List.mem_singleton]
      rfl
    constructor
    · rintro ⟨row, hrow, htype, hsource⟩
      rcases (hmem row).mp hrow with hrow | rfl
      · exact .inr ⟨row, hrow, htype, hsource⟩
      · exact .inl (h.closes.sourceId.symm.trans hsource)
    · rintro (rfl | ⟨row, hrow, htype, hsource⟩)
      · exact ⟨_, (hmem _).mpr (.inr rfl), h.closes.sourceType, h.closes.sourceId⟩
      · exact ⟨row, (hmem row).mpr (.inl hrow), htype, hsource⟩
  have hlive' : db'.escrow.live batch.id := by
    change ∃ row, db'.payoutBatches.find? batch.id = some row ∧ _
    rw [hb]
    exact hlive
  refine ⟨.settle batch.id hlive (hload.id ▸ h.first) (fun c hc => keeps_of_tables (by rw [hb])
    (by rw [accrualIdsOf_congr hi hal]) (by rw [itemTotalOf_congr hi]) ?_) ?_ hlive'
    (congrFun (accrualIdsOf_congr hi hal) _) (congrFun (itemTotalOf_congr hi) _)
    ((hclosed _).mpr (.inl rfl)) ?_ ?_ ?_, ?_, ?_, ?_, ?_⟩
  · rw [hclosed]
    exact or_iff_right (Ne.symm hc)
  · obtain ⟨row, hrow, -⟩ := hlive'
    change db'.payoutBatches.find? batch.id ≠ none
    rw [hrow]
    exact Option.some_ne_none _
  · intro id hmem hheld
    obtain ⟨row, hrow⟩ := exists_lookup (.inl hheld)
    rw [escrow_cond, condIn_of_lookup hrow, condition_eq_held] at hheld
    have hide : row.id = id := (lookupAccrual_mem hrow).2
    rw [escrow_cond, h.accruals, condIn_map hid hrow,
      if_pos ⟨(hids _).mpr (hide ▸ hmem), hheld⟩]
    rfl
  · intro id hmem
    rw [escrow_cond, escrow_cond, h.accruals]
    refine condIn_map_kept hid fun row hrow => ?_
    have hide : row.id = id := (lookupAccrual_mem hrow).2
    rw [if_neg (fun hand => hmem ((hids _).mp (hide ▸ hand.1)))]
  · intro id
    rw [escrow_worth, escrow_worth, h.accruals]
    refine worthIn_map hid ?_ _ id
    intro row
    split <;> rfl
  · rw [hi, hb]
    exact hwf.itemBatches
  · rw [hal, hi]
    exact hwf.allocationItems
  · intro row hrow htype
    rw [hb]
    have hhas : db'.HasClosed row.sourceId := ⟨row, hrow, htype, rfl⟩
    rcases (hclosed _).mp hhas with hk | ⟨old, hold, htype', hsource⟩
    · obtain ⟨batchRow, hfind, -⟩ := hlive
      rw [← hk, hfind]
      exact Option.some_ne_none _
    · exact hsource ▸ hwf.ledgerBatches old hold htype'
  · rw [hb, accrualIdsOf_congr hi hal]
    exact hwf.cancelled

end Db

/-! ## Runs that respect cancellation -/

/-- The batch is known and not cancelled. -/
def Db.isLive (db : Db) (batchId : String) : Bool :=
  (db.payoutBatches.find? batchId).any (fun row => row.status != .cancelled)

/-- A mark that writes the transaction finds its batch not cancelled. -/
def Db.marksLive (db : Db) (id : String) (expectedStatus : Option PayoutTransactionStatus) : Bool :=
  (db.payoutTransactions.find? id).all (fun row => !expectedStatus.all (· = row.status) ||
    (db.payoutBatches.find? row.payoutBatchId).all (fun batch => batch.status != .cancelled))

namespace Timeline

variable {timeline timeline' : Timeline}

/-- The call leaves cancelled batches alone: it marks no transaction of a cancelled batch, and a
closure that read its batch `finalized` commits while the batch is not cancelled. -/
def respectsCancellation (timeline : Timeline) (request : Request) : Bool :=
  match request.call.op with
  | .markPayoutTransactionSubmitted input => timeline.current.marksLive input.id none
  | .markPayoutTransactionFinality input =>
      timeline.current.marksLive input.id input.expectedStatus
  | .closeFinalizedPayoutBatchLedger input =>
      (request.reads.payoutBatches.find? input.payoutBatchId).all (fun row =>
        row.status != .finalized || timeline.current.isLive input.payoutBatchId)
  | _ => true

/-- The states of the runs that respect cancellation. -/
abbrev Respecting (host : Host) : Timeline → Prop :=
  (system host).Reachable (fun timeline request => timeline.respectsCancellation request = true)

theorem live_of_marksLive {db : Db} {row : PayoutTransactionRow}
    {expectedStatus : Option PayoutTransactionStatus}
    (h : db.marksLive row.id expectedStatus = true)
    (hfind : db.payoutTransactions.find? row.id = some row)
    (hexpected : expectedStatus.all (· = row.status) = true) :
    ∀ batch, db.payoutBatches.find? row.payoutBatchId = some batch →
      batch.status ≠ .cancelled := by
  intro batch hbatch
  rw [Db.marksLive, hfind, Option.all_some, hexpected, hbatch] at h
  simpa using h

/-- A closure that posts is a closure of a live batch. -/
theorem live_of_closes {request : Request} {input : ClosePayoutBatchLedgerInput}
    (hop : request.call.op = .closeFinalizedPayoutBatchLedger input)
    (h : timeline.respectsCancellation request = true) {batch : PayoutBatchRecord}
    {transaction : LedgerTransaction} {db' : Db}
    (hcloses : Db.ClosesLedger host request.reads timeline.current input batch transaction db') :
    timeline.current.escrow.live batch.id := by
  have hload := Db.loadPayoutBatch_eq_some hcloses.found
  obtain ⟨row, hfind, hstatus⟩ := hload.row
  rw [hcloses.closes.finalized] at hstatus
  rw [respectsCancellation, hop] at h
  simp only [hfind, Option.all_some, hstatus, bne_self_eq_false, Bool.false_or] at h
  rw [Db.isLive, Option.any_eq_true] at h
  obtain ⟨current, hcurrent, hne⟩ := h
  rw [hload.id]
  exact ⟨current, hcurrent, by simpa using hne⟩

/-- **Every transaction that respects cancellation moves the database like an escrow.** -/
theorem next_escrow (host : Host) {request : Request} (hwf : timeline.current.WellFormed)
    (hpersists : Persists request.reads.escrow timeline.current.escrow)
    (hfresh : Db.fresh request.call = true)
    (hrespects : timeline.respectsCancellation request = true) :
    Step timeline.current.escrow (timeline.next host request).current.escrow ∧
      (timeline.next host request).current.WellFormed := by
  change Step _ (Db.next host request.reads timeline.current request.call).escrow ∧
    (Db.next host request.reads timeline.current request.call).WellFormed
  rw [Db.next]
  split
  · rename_i db' hexec
    obtain ⟨reads, env, op⟩ := request
    cases op with
    | save snapshot => exact Db.save_escrow hwf hfresh (Db.save_eq_ok hexec)
    | markReceiptChainVerified input =>
        obtain ⟨⟨result, db'⟩, hop, rfl⟩ := map_eq_ok.mp hexec
        exact Db.verified_escrow hwf hop
    | markReceiptChainRejected input =>
        rw [Db.exec, pure_eq_ok] at hexec
        exact hexec ▸ Db.rejected_escrow hwf input
    | createPayoutBatchFromAvailableAccruals input =>
        obtain ⟨⟨batch, db'⟩, hop, rfl⟩ := map_eq_ok.mp hexec
        exact Db.create_escrow hwf (Db.createPayoutBatchFromAvailableAccruals_eq_ok hop)
    | releasePayoutBatchAllocations input =>
        obtain ⟨⟨result, db'⟩, hop, rfl⟩ := map_eq_ok.mp hexec
        rcases Db.releasePayoutBatchAllocations_eq_ok hop with ⟨-, -, rfl⟩ | ⟨batch, released, -, h⟩
        · exact ⟨.of_eq rfl, hwf⟩
        · exact Db.release_escrow hwf h
    | saveSignedPayoutTransactions input =>
        obtain ⟨⟨records, db'⟩, hop, rfl⟩ := map_eq_ok.mp hexec
        obtain ⟨batch, h⟩ := Db.saveSignedPayoutTransactions_eq_ok hop
        dsimp only
        rw [h.others]
        exact ⟨.of_eq (Db.escrow_congr rfl rfl rfl rfl rfl), hwf.congr rfl rfl rfl rfl⟩
    | markPayoutTransactionSubmitted input =>
        obtain ⟨⟨result, db'⟩, hop, rfl⟩ := map_eq_ok.mp hexec
        rcases Db.markPayoutTransactionSubmitted_eq_ok hop with
          ⟨-, rfl⟩ | ⟨row, at', submittedMs, signature, hid, h⟩
        · exact ⟨.of_eq rfl, hwf⟩
        · have hmarks : timeline.current.marksLive input.id none = true := hrespects
          exact Db.mark_escrow hwf (live_of_marksLive (hid ▸ hmarks) h.found rfl) h
    | markPayoutTransactionFinality input =>
        obtain ⟨⟨result, db'⟩, hop, rfl⟩ := map_eq_ok.mp hexec
        rcases Db.markPayoutTransactionFinality_eq_ok hop with
          ⟨-, rfl⟩ | ⟨row, at', confirmedAt, finalizedAt, error, hid, hexpected, h⟩
        · exact ⟨.of_eq rfl, hwf⟩
        · have hmarks : timeline.current.marksLive input.id input.expectedStatus = true := hrespects
          exact Db.mark_escrow hwf (live_of_marksLive (hid ▸ hmarks) h.found hexpected) h
    | closeFinalizedPayoutBatchLedger input =>
        obtain ⟨⟨result, db'⟩, hop, rfl⟩ := map_eq_ok.mp hexec
        rcases Db.closeFinalizedPayoutBatchLedger_eq_ok hop with ⟨rfl, -⟩ | ⟨batch, t, -, h⟩
        · exact ⟨.of_eq rfl, hwf⟩
        · exact Db.close_escrow hwf hpersists (live_of_closes rfl hrespects h) h
  · exact ⟨.of_eq rfl, hwf⟩

/-- The escrow invariant of a run: it holds of the current database, and what an earlier one says
of a batch that is still live is still true. -/
structure EscrowInv (timeline : Timeline) : Prop where
  wellFormed : timeline.current.WellFormed
  inv : Inv timeline.current.escrow
  persists : ∀ db ∈ timeline.versions, Persists db.escrow timeline.current.escrow

/-- **The database is an escrow.** The invariant holds in every state of a run that respects
cancellation. -/
theorem Respecting.inv (h : Respecting host timeline) : timeline.EscrowInv := by
  refine h.invariant ?_ ?_
  · rintro timeline ⟨merchants, wallets, rfl⟩
    refine ⟨⟨?_, ?_, ?_, ?_⟩, .of_not_live ?_, ?_⟩
    · exact fun item hitem => absurd hitem Table.not_mem_empty
    · exact fun allocation ha => absurd ha Table.not_mem_empty
    · exact fun row hrow => absurd hrow Table.not_mem_empty
    · exact fun row hrow => absurd hrow Table.not_mem_empty
    · rintro b ⟨row, hrow, -⟩
      exact absurd (Table.mem_of_find? hrow) Table.not_mem_empty
    · intro db hdb
      rw [List.mem_singleton.mp hdb]
      exact .refl _
  · rintro timeline request timeline' - hinv hrespects ⟨hreads, hfresh, rfl⟩
    obtain ⟨hstep, hwf⟩ := next_escrow host hinv.wellFormed
      (hinv.persists _ hreads) hfresh hrespects
    refine ⟨hwf, hstep.inv hinv.inv, ?_⟩
    intro db hdb
    rcases List.mem_cons.mp hdb with rfl | hdb
    · exact .refl _
    · exact (hinv.persists db hdb).trans hstep.persists

end Timeline

end Split402

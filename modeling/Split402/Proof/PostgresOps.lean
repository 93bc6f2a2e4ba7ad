import Split402.Proof.PayoutRules
import Split402.Store.Postgres

/-! # What the operations of the Postgres store do

One lemma for each operation: the tables it leaves when its transaction commits. Nothing below
this file unfolds an operation. Outbox events are inserted last and touch no other table, so
they appear as "the same but for the outbox" everywhere. -/

namespace Split402

open Base

variable {host : Host} {env : CallEnv}

/-! ## Writing rows -/

/-- An insertion that commits appended a row with a new key. -/
theorem insertRow_eq_ok {ρ κ : Type} [DecidableEq κ] {key : ρ → κ} {table table' : Table key}
    {row : ρ} {valid unique : Bool} (h : insertRow table row valid unique = .ok table') :
    valid = true ∧ unique = true ∧ (∀ s ∈ table, key s ≠ key row) ∧
      table'.rows = table.rows ++ [row] := by
  rw [insertRow] at h
  split at h
  · exact absurd h throw_ne_ok
  rename_i hvalid
  split at h
  · exact absurd h throw_ne_ok
  rename_i hunique
  split at h
  · exact absurd h throw_ne_ok
  · rename_i inserted hinsert
    rw [pure_eq_ok] at h
    subst h
    exact ⟨by simpa using hvalid, by simpa using hunique, Table.insert?_eq_some hinsert⟩

@[simp] theorem updateWhere_rows {ρ κ : Type} {key : ρ → κ} (table : Table key)
    (select : ρ → Bool) (change : ρ → ρ) (hkey : ∀ row, key (change row) = key row) :
    (updateWhere table select change hkey).rows =
      table.rows.map (fun row => if select row then change row else row) := rfl

namespace Db

variable {db db' reads : Db}

/-! ## Outbox events -/

/-- The databases differ in their outbox only. -/
def SameButOutbox (db db' : Db) : Prop := ∃ events, db' = { db with outboxEvents := events }

theorem SameButOutbox.refl (db : Db) : SameButOutbox db db := ⟨db.outboxEvents, rfl⟩

theorem SameButOutbox.trans {db₁ db₂ db₃ : Db} (h : SameButOutbox db₁ db₂)
    (h' : SameButOutbox db₂ db₃) : SameButOutbox db₁ db₃ := by
  obtain ⟨events, rfl⟩ := h
  obtain ⟨events', rfl⟩ := h'
  exact ⟨events', rfl⟩

theorem insertOutboxEvent_eq_ok {event : OutboxEventRow}
    (h : db.insertOutboxEvent event = .ok db') : SameButOutbox db db' := by
  rw [insertOutboxEvent] at h
  obtain ⟨events, -, h⟩ := bind_eq_ok.mp h
  rw [pure_eq_ok] at h
  exact ⟨events, h.symm⟩

theorem insertOutboxEventOnce_eq_ok {event : OutboxEventRow}
    (h : db.insertOutboxEventOnce event = .ok db') : SameButOutbox db db' := by
  rw [insertOutboxEventOnce] at h
  split at h
  · rw [pure_eq_ok] at h
    exact h ▸ .refl db
  · exact insertOutboxEvent_eq_ok h

theorem insertPayoutLifecycleEventsIfBatchMatches_eq_ok {transaction : PayoutTransactionRecord}
    {kind : PayoutLifecycleEventKind} {occurredAt : String}
    (h : db.insertPayoutLifecycleEventsIfBatchMatches host env transaction kind occurredAt =
      .ok db') : SameButOutbox db db' := by
  rw [insertPayoutLifecycleEventsIfBatchMatches] at h
  split at h
  · rw [pure_eq_ok] at h
    exact h ▸ .refl db
  · split at h
    · rw [pure_eq_ok] at h
      exact h ▸ .refl db
    · obtain ⟨event, -, h⟩ := bind_eq_ok.mp h
      obtain ⟨mid, hmid, h⟩ := bind_eq_ok.mp h
      obtain ⟨webhook, -, h⟩ := bind_eq_ok.mp h
      exact (insertOutboxEventOnce_eq_ok hmid).trans (insertOutboxEventOnce_eq_ok h)

theorem insertPayoutLifecycleEvents_eq_ok {transaction : PayoutTransactionRecord}
    {kind : Option PayoutLifecycleEventKind} {occurredAt : String}
    (h : db.insertPayoutLifecycleEvents host env transaction kind occurredAt = .ok db') :
    SameButOutbox db db' := by
  unfold insertPayoutLifecycleEvents at h
  split at h
  · rw [pure_eq_ok] at h
    exact h ▸ .refl db
  · exact insertPayoutLifecycleEventsIfBatchMatches_eq_ok h

/-! ## Receipts -/

/-- What an inserted ledger transaction leaves: its row is new, and so is its source. -/
structure InsertsLedger (db : Db) (transaction : LedgerTransaction) (db' : Db) : Prop where
  newSource : ∀ row ∈ db.ledgerTransactions,
    row.sourceType ≠ transaction.sourceType ∨ row.sourceId ≠ transaction.sourceId
  rows : ∃ createdAt, db'.ledgerTransactions.rows = db.ledgerTransactions.rows ++
    [⟨transaction.id, transaction.sourceType, transaction.sourceId, transaction.asset, createdAt⟩]
  entries : db'.ledgerEntries.rows = db.ledgerEntries.rows ++ transaction.entries
  others : db' = { db with
    ledgerTransactions := db'.ledgerTransactions
    ledgerEntries := db'.ledgerEntries }

theorem insertLedgerEntries_eq_ok {entries : List LedgerEntry}
    (h : entries.foldlM insertLedgerEntry db = .ok db') :
    db'.ledgerEntries.rows = db.ledgerEntries.rows ++ entries ∧
      db' = { db with ledgerEntries := db'.ledgerEntries } := by
  induction entries generalizing db with
  | nil =>
      rw [List.foldlM_nil, pure_eq_ok] at h
      subst h
      exact ⟨by simp, rfl⟩
  | cons entry entries ih =>
      rw [List.foldlM_cons] at h
      obtain ⟨mid, hmid, h⟩ := bind_eq_ok.mp h
      rw [insertLedgerEntry] at hmid
      obtain ⟨table, hinsert, hmid⟩ := bind_eq_ok.mp hmid
      rw [pure_eq_ok] at hmid
      subst hmid
      obtain ⟨hrows, hdb⟩ := ih h
      refine ⟨?_, hdb⟩
      rw [hrows, (insertRow_eq_ok hinsert).2.2.2, List.append_assoc]
      rfl

theorem insertLedger_eq_ok {transaction : LedgerTransaction}
    (h : db.insertLedger host transaction = .ok db') : InsertsLedger db transaction db' := by
  rw [insertLedger] at h
  obtain ⟨mid, hmid, h⟩ := bind_eq_ok.mp h
  rw [insertLedgerTransaction] at hmid
  obtain ⟨createdAt, -, hmid⟩ := bind_eq_ok.mp hmid
  obtain ⟨table, hinsert, hmid⟩ := bind_eq_ok.mp hmid
  rw [pure_eq_ok] at hmid
  subst hmid
  obtain ⟨-, hunique, -, hrows⟩ := insertRow_eq_ok hinsert
  obtain ⟨hentries, hdb⟩ := insertLedgerEntries_eq_ok h
  refine ⟨?_, ⟨createdAt, ?_⟩, hentries, ?_⟩
  · intro row hrow
    have hrow' := List.all_eq_true.mp hunique row hrow
    simpa using hrow'
  · rw [hdb]
    exact hrows
  · rw [hdb]

/-- The row an accrual is inserted as. -/
def accrualRowOf (accrual : CommissionAccrual) (createdAt : Int) : CommissionAccrualRow :=
  ⟨accrual.id, accrual.receiptId, accrual.merchantId, accrual.campaignId, accrual.routeId,
    accrual.referrerWallet, accrual.payoutWallet, accrual.asset, accrual.amountAtomic,
    accrual.status, none, createdAt⟩

/-- What saving a snapshot leaves. -/
structure SavesSnapshot (host : Host) (db : Db) (snapshot : ReceiptIngestionSnapshot) (db' : Db) :
    Prop where
  receipts : ∃ createdAt, timestamptz host snapshot.receipt.createdAt = .ok createdAt ∧
    db'.paymentReceipts.rows = db.paymentReceipts.rows ++
      [⟨snapshot.receipt.id, snapshot.receipt.receiptHash, snapshot.receipt.receipt,
        snapshot.receipt.source, snapshot.receipt.verificationState,
        snapshot.receipt.verificationReason, createdAt⟩]
  accruals : ∃ rows : List CommissionAccrualRow,
    db'.commissionAccruals.rows = db.commissionAccruals.rows ++ rows ∧
    ∀ row ∈ rows, ∃ accrual createdAt, snapshot.accrual = some accrual ∧
      timestamptz host accrual.createdAt = .ok createdAt ∧ row = accrualRowOf accrual createdAt
  ledgers : ∃ rows : List LedgerTransactionRow,
    db'.ledgerTransactions.rows = db.ledgerTransactions.rows ++ rows ∧
    ∀ row ∈ rows, ∃ transaction, snapshot.ledgerTransaction = some transaction ∧
      row.sourceType = transaction.sourceType
  others : db' = { db with
    paymentReceipts := db'.paymentReceipts
    commissionAccruals := db'.commissionAccruals
    ledgerTransactions := db'.ledgerTransactions
    ledgerEntries := db'.ledgerEntries
    outboxEvents := db'.outboxEvents }

theorem insertAccrual_eq_ok {accrual : CommissionAccrual}
    (h : db.insertAccrual host accrual = .ok db') :
    ∃ createdAt, timestamptz host accrual.createdAt = .ok createdAt ∧
      db'.commissionAccruals.rows =
        db.commissionAccruals.rows ++ [accrualRowOf accrual createdAt] ∧
      db' = { db with commissionAccruals := db'.commissionAccruals } := by
  rw [insertAccrual] at h
  obtain ⟨createdAt, ht, h⟩ := bind_eq_ok.mp h
  obtain ⟨table, hinsert, h⟩ := bind_eq_ok.mp h
  rw [pure_eq_ok] at h
  subst h
  exact ⟨createdAt, ht, (insertRow_eq_ok hinsert).2.2.2, rfl⟩

theorem insertSnapshotAccrual_eq_ok {snapshot : ReceiptIngestionSnapshot}
    (h : db.insertSnapshotAccrual host snapshot = .ok db') :
    (∃ rows : List CommissionAccrualRow,
      db'.commissionAccruals.rows = db.commissionAccruals.rows ++ rows ∧
      ∀ row ∈ rows, ∃ accrual createdAt, snapshot.accrual = some accrual ∧
        timestamptz host accrual.createdAt = .ok createdAt ∧
        row = accrualRowOf accrual createdAt) ∧
    (∃ rows : List LedgerTransactionRow,
      db'.ledgerTransactions.rows = db.ledgerTransactions.rows ++ rows ∧
      ∀ row ∈ rows, ∃ transaction, snapshot.ledgerTransaction = some transaction ∧
        row.sourceType = transaction.sourceType) ∧
    db' = { db with
      commissionAccruals := db'.commissionAccruals
      ledgerTransactions := db'.ledgerTransactions
      ledgerEntries := db'.ledgerEntries } := by
  unfold insertSnapshotAccrual at h
  split at h
  · rw [pure_eq_ok] at h
    subst h
    exact ⟨⟨[], by simp, by simp⟩, ⟨[], by simp, by simp⟩, rfl⟩
  · rename_i accrual ha _
    obtain ⟨createdAt, ht, hrows, hdb⟩ := insertAccrual_eq_ok h
    refine ⟨⟨_, hrows, ?_⟩, ⟨[], by rw [hdb]; simp, by simp⟩, by rw [hdb]⟩
    intro row hrow
    exact ⟨accrual, createdAt, ha, ht, List.mem_singleton.mp hrow⟩
  · rename_i accrual transaction ha hl
    obtain ⟨mid, hmid, h⟩ := bind_eq_ok.mp h
    obtain ⟨createdAt, ht, hrows, hmiddb⟩ := insertAccrual_eq_ok hmid
    have hledger := insertLedger_eq_ok h
    obtain ⟨ledgerCreatedAt, hledgerRows⟩ := hledger.rows
    refine ⟨⟨[accrualRowOf accrual createdAt], ?_, ?_⟩, ⟨[⟨transaction.id, transaction.sourceType,
      transaction.sourceId, transaction.asset, ledgerCreatedAt⟩], ?_, ?_⟩, ?_⟩
    · rw [hledger.others]
      exact hrows
    · intro row hrow
      exact ⟨accrual, createdAt, ha, ht, List.mem_singleton.mp hrow⟩
    · rw [hledgerRows, hmiddb]
    · intro row hrow
      rw [List.mem_singleton.mp hrow]
      exact ⟨transaction, hl, rfl⟩
    · rw [hledger.others, hmiddb]

theorem save_eq_ok {snapshot : ReceiptIngestionSnapshot}
    (h : db.save host env snapshot = .ok db') : SavesSnapshot host db snapshot db' := by
  rw [save] at h
  obtain ⟨mid, hmid, h⟩ := bind_eq_ok.mp h
  obtain ⟨mid', hmid', h⟩ := bind_eq_ok.mp h
  obtain ⟨accepted, -, h⟩ := bind_eq_ok.mp h
  obtain ⟨mid'', hmid'', h⟩ := bind_eq_ok.mp h
  obtain ⟨webhook, -, h⟩ := bind_eq_ok.mp h
  obtain ⟨events, rfl⟩ := (insertOutboxEvent_eq_ok hmid'').trans (insertOutboxEvent_eq_ok h)
  rw [insertReceipt] at hmid
  obtain ⟨createdAt, ht, hmid⟩ := bind_eq_ok.mp hmid
  obtain ⟨table, hinsert, hmid⟩ := bind_eq_ok.mp hmid
  rw [pure_eq_ok] at hmid
  subst hmid
  obtain ⟨haccruals, hledgers, hdb⟩ := insertSnapshotAccrual_eq_ok hmid'
  refine ⟨⟨createdAt, ht, ?_⟩, haccruals, hledgers, ?_⟩
  · rw [hdb]
    exact (insertRow_eq_ok hinsert).2.2.2
  · rw [hdb]

/-! ## Batches -/

/-- `update ... set status` on the accruals. -/
@[simp] theorem setAccrualStatus_rows (select : CommissionAccrualRow → Bool)
    (status : AccrualStatus) :
    (db.setAccrualStatus select status).commissionAccruals.rows =
      db.commissionAccruals.rows.map (fun row =>
        if select row then { row with status := status } else row) := rfl

/-- The accruals of a batch are allocated one by one, so each of them was available. -/
theorem allocateAccruals_eq_ok {batch : PayoutBatchRecord} {ids : List String}
    (h : ids.foldlM (allocateAccrual batch) db = .ok db') :
    (∀ id ∈ ids, ∃ row ∈ db.commissionAccruals, row.id = id ∧ row.status = .available ∧
      row.merchantId = batch.merchantId ∧ row.assetMint = batch.asset) ∧
    db'.commissionAccruals.rows = db.commissionAccruals.rows.map (fun row =>
      if row.id ∈ ids then { row with status := .allocated } else row) ∧
    db' = { db with commissionAccruals := db'.commissionAccruals } := by
  induction ids generalizing db with
  | nil =>
      rw [List.foldlM_nil, pure_eq_ok] at h
      subst h
      exact ⟨by simp, by simp, rfl⟩
  | cons id ids ih =>
      rw [List.foldlM_cons] at h
      obtain ⟨mid, hmid, h⟩ := bind_eq_ok.mp h
      rw [allocateAccrual] at hmid
      split at hmid
      · rename_i hany
        rw [pure_eq_ok] at hmid
        obtain ⟨row, hrow, hselect⟩ := List.any_eq_true.mp hany
        simp only [Bool.and_eq_true, decide_eq_true_eq] at hselect
        obtain ⟨⟨⟨hid, hmerchant⟩, hasset⟩, hstatus⟩ := hselect
        -- the update selects the row with the id and no other
        have hmidrows : mid.commissionAccruals.rows = db.commissionAccruals.rows.map (fun row =>
            if row.id = id then { row with status := .allocated } else row) := by
          rw [← hmid, setAccrualStatus_rows]
          refine List.map_congr_left fun other hother => ?_
          by_cases hk : other.id = id
          · have hsame : other = row := Table.eq_of_key hother hrow (hk.trans hid.symm)
            rw [if_pos hk, if_pos (by simp [hsame, hid, hmerchant, hasset, hstatus])]
          · rw [if_neg hk, if_neg (by simp [hk])]
        obtain ⟨havailable, hrows, hdb⟩ := ih h
        refine ⟨?_, ?_, ?_⟩
        · intro id' hid'
          rcases List.mem_cons.mp hid' with rfl | hid'
          · exact ⟨row, hrow, hid, hstatus, hmerchant, hasset⟩
          · obtain ⟨other, hother, hoid, hostatus, homerchant, hoasset⟩ := havailable id' hid'
            rw [Table.mem_def, hmidrows] at hother
            obtain ⟨original, horiginal, rfl⟩ := List.mem_map.mp hother
            by_cases hk : original.id = id
            · simp [hk] at hostatus
            · rw [if_neg hk] at hoid hostatus homerchant hoasset
              exact ⟨original, horiginal, hoid, hostatus, homerchant, hoasset⟩
        · rw [hrows, hmidrows, List.map_map]
          refine List.map_congr_left fun other _ => ?_
          by_cases hk : other.id = id
          · simp [hk]
          · simp [hk]
        · rw [hdb, ← hmid]
          rfl
      · exact absurd hmid throw_ne_ok

/-- The row an item is inserted as. -/
def itemRowOf (item : PayoutItemRecord) (createdAt : Int) : PayoutItemRow :=
  ⟨item.id, item.payoutBatchId, item.destinationWallet, item.destinationTokenAccount,
    item.amountAtomic, item.status, createdAt⟩

/-- The rows are those of the items. -/
def ItemRows (host : Host) (items : List PayoutItemRecord) (rows : List PayoutItemRow) : Prop :=
  List.Forall₂ (fun item row =>
    ∃ createdAt, timestamptz host item.createdAt = .ok createdAt ∧ row = itemRowOf item createdAt)
    items rows

/-- What every row shares with its item, the two lists share. -/
theorem ItemRows.map_eq {γ : Type} {items : List PayoutItemRecord} {rows : List PayoutItemRow}
    (h : ItemRows host items rows) {g : PayoutItemRecord → γ} {k : PayoutItemRow → γ}
    (hg : ∀ item createdAt, k (itemRowOf item createdAt) = g item) :
    rows.map k = items.map g := by
  induction h with
  | nil => rfl
  | cons hrow _ ih =>
      obtain ⟨createdAt, -, rfl⟩ := hrow
      rw [List.map_cons, List.map_cons, hg, ih]

theorem insertPayoutAllocations_eq_ok {allocations : List PayoutAllocationRecord}
    (h : allocations.foldlM insertPayoutAllocation db = .ok db') :
    db'.payoutAllocations.rows = db.payoutAllocations.rows ++ allocations ∧
      db' = { db with payoutAllocations := db'.payoutAllocations } := by
  induction allocations generalizing db with
  | nil =>
      rw [List.foldlM_nil, pure_eq_ok] at h
      subst h
      exact ⟨by simp, rfl⟩
  | cons allocation allocations ih =>
      rw [List.foldlM_cons] at h
      obtain ⟨mid, hmid, h⟩ := bind_eq_ok.mp h
      rw [insertPayoutAllocation] at hmid
      obtain ⟨table, hinsert, hmid⟩ := bind_eq_ok.mp hmid
      rw [pure_eq_ok] at hmid
      subst hmid
      obtain ⟨hrows, hdb⟩ := ih h
      refine ⟨?_, hdb⟩
      rw [hrows, (insertRow_eq_ok hinsert).2.2.2, List.append_assoc]
      rfl

theorem insertPayoutItem_eq_ok {item : PayoutItemRecord}
    (h : db.insertPayoutItem host item = .ok db') :
    ∃ createdAt, timestamptz host item.createdAt = .ok createdAt ∧
      db'.payoutItems.rows = db.payoutItems.rows ++ [itemRowOf item createdAt] ∧
      db' = { db with payoutItems := db'.payoutItems } := by
  rw [insertPayoutItem] at h
  obtain ⟨createdAt, ht, h⟩ := bind_eq_ok.mp h
  obtain ⟨table, hinsert, h⟩ := bind_eq_ok.mp h
  rw [pure_eq_ok] at h
  subst h
  exact ⟨createdAt, ht, (insertRow_eq_ok hinsert).2.2.2, rfl⟩

/-- Items are inserted in order, each followed by its allocations. -/
theorem insertItems_eq_ok {items : List PayoutItemRecord}
    (h : items.foldlM (insertItemWithAllocations host) db = .ok db') :
    (∃ rows, ItemRows host items rows ∧ db'.payoutItems.rows = db.payoutItems.rows ++ rows) ∧
    db'.payoutAllocations.rows =
      db.payoutAllocations.rows ++ items.flatMap PayoutItemRecord.allocations ∧
    db' = { db with
      payoutItems := db'.payoutItems
      payoutAllocations := db'.payoutAllocations } := by
  induction items generalizing db with
  | nil =>
      rw [List.foldlM_nil, pure_eq_ok] at h
      subst h
      exact ⟨⟨[], .nil, by simp⟩, by simp, rfl⟩
  | cons item items ih =>
      rw [List.foldlM_cons] at h
      obtain ⟨mid, hmid, h⟩ := bind_eq_ok.mp h
      rw [insertItemWithAllocations] at hmid
      obtain ⟨withItem, hitem, hmid⟩ := bind_eq_ok.mp hmid
      obtain ⟨createdAt, ht, hitemRows, hitemdb⟩ := insertPayoutItem_eq_ok hitem
      obtain ⟨hallocations, hmiddb⟩ := insertPayoutAllocations_eq_ok hmid
      obtain ⟨⟨rows, hrows, hitems⟩, hall, hdb⟩ := ih h
      refine ⟨⟨itemRowOf item createdAt :: rows, .cons ⟨createdAt, ht, rfl⟩ hrows, ?_⟩, ?_, ?_⟩
      · rw [hitems, hmiddb, hitemRows, List.append_assoc]
        rfl
      · rw [hall, hallocations, hitemdb, List.flatMap_cons, List.append_assoc]
      · rw [hdb, hmiddb, hitemdb]

/-- The row a batch is inserted as. -/
def batchRowOf (batch : PayoutBatchRecord) (createdAt updatedAt : Int) : PayoutBatchRow :=
  ⟨batch.id, batch.merchantId, batch.payoutWalletId, batch.network, batch.asset, batch.status,
    batch.totalAmountAtomic, batch.itemCount, batch.accrualCount, batch.failureCode,
    batch.failureMessage, createdAt, updatedAt⟩

/-- What allocating the accruals of a batch and inserting it does. -/
structure AllocatesBatch (host : Host) (db : Db) (batch : PayoutBatchRecord) (db' : Db) : Prop where
  available : ∀ row ∈ db.commissionAccruals, row.id ∈ batch.accrualIds → row.status = .available
  accruals : db'.commissionAccruals.rows = db.commissionAccruals.rows.map (fun row =>
    if row.id ∈ batch.accrualIds then { row with status := .allocated } else row)
  newBatch : ∀ row ∈ db.payoutBatches, row.id ≠ batch.id
  batches : ∃ createdAt updatedAt, timestamptz host batch.createdAt = .ok createdAt ∧
    timestamptz host batch.updatedAt = .ok updatedAt ∧
    db'.payoutBatches.rows = db.payoutBatches.rows ++ [batchRowOf batch createdAt updatedAt]
  items : ∃ rows, ItemRows host batch.items rows ∧
    db'.payoutItems.rows = db.payoutItems.rows ++ rows
  allocations : db'.payoutAllocations.rows =
    db.payoutAllocations.rows ++ batch.items.flatMap PayoutItemRecord.allocations
  others : db' = { db with
    commissionAccruals := db'.commissionAccruals
    payoutBatches := db'.payoutBatches
    payoutItems := db'.payoutItems
    payoutAllocations := db'.payoutAllocations }

theorem allocateAndInsertPayoutBatch_eq_ok {batch : PayoutBatchRecord}
    (h : db.allocateAndInsertPayoutBatch host batch = .ok db') : AllocatesBatch host db batch db' := by
  rw [allocateAndInsertPayoutBatch] at h
  obtain ⟨allocated, hallocate, h⟩ := bind_eq_ok.mp h
  obtain ⟨withBatch, hbatch, hitems⟩ := bind_eq_ok.mp h
  rw [← foldlM_flatMap] at hallocate
  obtain ⟨havailable, haccruals, hallocatedDb⟩ := allocateAccruals_eq_ok hallocate
  obtain ⟨hrows, hallocations, hwrittenDb⟩ := insertItems_eq_ok hitems
  rw [insertPayoutBatch] at hbatch
  obtain ⟨createdAt, hcreated, hbatch⟩ := bind_eq_ok.mp hbatch
  obtain ⟨updatedAt, hupdated, hbatch⟩ := bind_eq_ok.mp hbatch
  obtain ⟨table, hinsert, hbatch⟩ := bind_eq_ok.mp hbatch
  rw [pure_eq_ok] at hbatch
  subst hbatch
  obtain ⟨-, -, hnew, hbatches⟩ := insertRow_eq_ok hinsert
  refine ⟨?_, ?_, ?_, ⟨createdAt, updatedAt, hcreated, hupdated, ?_⟩, ?_, ?_, ?_⟩
  · intro row hrow hid
    obtain ⟨other, hother, hoid, hstatus, -⟩ := havailable row.id hid
    exact Table.eq_of_key hrow hother hoid.symm ▸ hstatus
  · rw [hwrittenDb]
    exact haccruals
  · rw [hallocatedDb] at hnew
    exact hnew
  · rw [hwrittenDb]
    rw [hallocatedDb] at hbatches
    exact hbatches
  · obtain ⟨rows, hforall, hitemRows⟩ := hrows
    refine ⟨rows, hforall, ?_⟩
    rw [hitemRows, hallocatedDb]
  · rw [hallocations, hallocatedDb]
  · rw [hwrittenDb, hallocatedDb]

/-- What a creating call does. -/
structure CreatesBatch (host : Host) (env : CallEnv) (db : Db)
    (input : CreatePayoutBatchFromAvailableAccrualsInput) (batch : PayoutBatchRecord) (db' : Db) :
    Prop where
  batchId : batch.id = batchIdOrDrawn env input.batchId
  planned : PlannedBatch (db.commissionAccruals.rows.map (mapAccrual host)) batch
  available : ∀ row ∈ db.commissionAccruals, row.id ∈ batch.accrualIds → row.status = .available
  accruals : db'.commissionAccruals.rows = db.commissionAccruals.rows.map (fun row =>
    if row.id ∈ batch.accrualIds then { row with status := .allocated } else row)
  newBatch : ∀ row ∈ db.payoutBatches, row.id ≠ batch.id
  batches : ∃ createdAt updatedAt, timestamptz host batch.createdAt = .ok createdAt ∧
    timestamptz host batch.updatedAt = .ok updatedAt ∧
    db'.payoutBatches.rows = db.payoutBatches.rows ++ [batchRowOf batch createdAt updatedAt]
  items : ∃ rows, ItemRows host batch.items rows ∧
    db'.payoutItems.rows = db.payoutItems.rows ++ rows
  allocations : db'.payoutAllocations.rows =
    db.payoutAllocations.rows ++ batch.items.flatMap PayoutItemRecord.allocations
  others : db' = { db with
    commissionAccruals := db'.commissionAccruals
    payoutBatches := db'.payoutBatches
    payoutItems := db'.payoutItems
    payoutAllocations := db'.payoutAllocations }

@[simp] theorem mapAccrual_id (row : CommissionAccrualRow) : (mapAccrual host row).id = row.id :=
  rfl

/-- The listing returns stored accruals, each once. -/
theorem selectPayoutEligibleAccruals_subperm {input : ListPayoutEligibleAccrualsInput}
    {accruals : List CommissionAccrual}
    (h : db.selectPayoutEligibleAccruals host env input = .ok accruals) :
    accruals.Subperm (db.commissionAccruals.rows.map (mapAccrual host)) := by
  rw [selectPayoutEligibleAccruals] at h
  split at h
  · exact absurd h throw_ne_ok
  split at h
  · exact absurd h throw_ne_ok
  obtain ⟨nowMs, -, h⟩ := bind_eq_ok.mp h
  rw [pure_eq_ok] at h
  subst h
  have hsorted : (sortBy (compareEligibleRows host) (db.commissionAccruals.rows.filter
      (isEligibleRow input nowMs))).Subperm db.commissionAccruals.rows :=
    (sortBy_perm _ _).subperm.trans List.filter_sublist.subperm
  have hmap : ∀ {rows : List CommissionAccrualRow}, rows.Subperm db.commissionAccruals.rows →
      (rows.map (mapAccrual host)).Subperm (db.commissionAccruals.rows.map (mapAccrual host)) := by
    rintro rows ⟨l, hperm, hl⟩
    exact ⟨l.map (mapAccrual host), hperm.map _, hl.map _⟩
  cases input.limit with
  | none => exact hmap hsorted
  | some limit => exact hmap ((List.take_sublist _ _).subperm.trans hsorted)

theorem createPayoutBatchFromAvailableAccruals_eq_ok
    {input : CreatePayoutBatchFromAvailableAccrualsInput} {batch : PayoutBatchRecord}
    (h : db.createPayoutBatchFromAvailableAccruals host env input = .ok (batch, db')) :
    CreatesBatch host env db input batch db' := by
  rw [createPayoutBatchFromAvailableAccruals] at h
  obtain ⟨accruals, hlist, h⟩ := bind_eq_ok.mp h
  obtain ⟨plan, hplan, h⟩ := bind_eq_ok.mp h
  obtain ⟨written, hwrite, h⟩ := bind_eq_ok.mp h
  rw [pure_eq_ok] at h
  injection h with hb hw
  subst hb hw
  have hsub := selectPayoutEligibleAccruals_subperm hlist
  have hids : ((input.planInput accruals).accruals.map CommissionAccrual.id).Nodup := by
    obtain ⟨l, hperm, hl⟩ := hsub
    have hall : ((db.commissionAccruals.rows.map (mapAccrual host)).map
        CommissionAccrual.id).Nodup := by
      rw [List.map_map]
      exact db.commissionAccruals.nodup
    exact (hperm.map _).nodup_iff.mp (hall.sublist (hl.map _))
  have hplanned := createPayoutBatchPlan_planned hids hplan
  have hwrites := allocateAndInsertPayoutBatch_eq_ok hwrite
  exact ⟨createPayoutBatchPlan_id hplan, hplanned.mono fun a ha => hsub.subset ha,
    hwrites.available, hwrites.accruals, hwrites.newBatch, hwrites.batches, hwrites.items,
    hwrites.allocations, hwrites.others⟩

/-- The ids of the items of a batch. -/
def itemIdsOf (db : Db) (batchId : String) : List String :=
  (db.payoutItems.rows.filter (fun item => item.payoutBatchId = batchId)).map PayoutItemRow.id

/-- The accruals the items of a batch allocate. -/
def accrualIdsOf (db : Db) (batchId : String) : List String :=
  (db.payoutAllocations.rows.filter (fun allocation =>
    allocation.payoutItemId ∈ db.itemIdsOf batchId)).map PayoutAllocationRecord.accrualId

theorem mem_itemIdsOf {batchId id : String} :
    id ∈ db.itemIdsOf batchId ↔ ∃ item ∈ db.payoutItems, item.payoutBatchId = batchId ∧
      item.id = id := by
  simp [itemIdsOf, Table.mem_def, and_assoc]

theorem mem_accrualIdsOf {batchId id : String} :
    id ∈ db.accrualIdsOf batchId ↔ ∃ allocation ∈ db.payoutAllocations,
      allocation.payoutItemId ∈ db.itemIdsOf batchId ∧ allocation.accrualId = id := by
  simp [accrualIdsOf, Table.mem_def, and_assoc]

/-- What the tables say about a loaded batch. -/
structure LoadsBatch (host : Host) (db : Db) (batchId : String) (batch : PayoutBatchRecord) :
    Prop where
  id : batch.id = batchId
  row : ∃ row, db.payoutBatches.find? batchId = some row ∧ row.status = batch.status
  items : batch.items.map (fun item => (item.id, item.amountAtomic, item.status)) =
    (db.itemRows host batchId).map (fun row => (row.id, row.amountAtomic, row.status))
  accrualIds : ∀ id, id ∈ batch.accrualIds ↔ id ∈ db.accrualIdsOf batchId

theorem mem_itemRows {batchId : String} {item : PayoutItemRow} :
    item ∈ db.itemRows host batchId ↔ item ∈ db.payoutItems ∧ item.payoutBatchId = batchId := by
  simp [itemRows, Table.mem_def]

theorem itemRows_perm (host : Host) (db : Db) (batchId : String) : (db.itemRows host batchId).Perm
    (db.payoutItems.rows.filter (fun item => item.payoutBatchId = batchId)) := sortBy_perm _ _

theorem loadPayoutBatch_eq_some {batchId : String} {batch : PayoutBatchRecord}
    (h : db.loadPayoutBatch host batchId = some batch) : LoadsBatch host db batchId batch := by
  rw [loadPayoutBatch, Option.map_eq_some_iff] at h
  obtain ⟨row, hfind, rfl⟩ := h
  have hkey : row.id = batchId := Table.key_of_find? hfind
  refine ⟨hkey, ⟨row, hfind, rfl⟩, ?_, ?_⟩
  · simp [mapPayoutBatch, mapPayoutItem]
  · intro id
    rw [mem_accrualIdsOf]
    have hids : (mapPayoutBatch host row (db.itemRows host batchId) (db.allocationRows host
        ((db.itemRows host batchId).map PayoutItemRow.id))).accrualIds =
        (db.itemRows host batchId).flatMap (fun item => ((db.allocationRows host
          ((db.itemRows host batchId).map PayoutItemRow.id)).filter (fun allocation =>
            allocation.payoutItemId = item.id)).map PayoutAllocationRecord.accrualId) := by
      simp only [PayoutBatchRecord.accrualIds, mapPayoutBatch, mapPayoutItem, List.flatMap_map]
    rw [hids]
    simp only [List.mem_flatMap, List.mem_map, List.mem_filter, allocationRows, mem_sortBy,
      decide_eq_true_eq]
    constructor
    · rintro ⟨item, hitem, allocation, ⟨⟨hallocation, -⟩, hid⟩, rfl⟩
      rw [mem_itemRows] at hitem
      exact ⟨allocation, hallocation, mem_itemIdsOf.mpr ⟨item, hitem.1, hitem.2, hid.symm⟩, rfl⟩
    · rintro ⟨allocation, hallocation, hmem, rfl⟩
      obtain ⟨item, hitem, hbatch, hid⟩ := mem_itemIdsOf.mp hmem
      have hrow : item ∈ db.itemRows host batchId := mem_itemRows.mpr ⟨hitem, hbatch⟩
      exact ⟨item, hrow, allocation, ⟨⟨hallocation, item, hrow, hid⟩, hid.symm⟩, rfl⟩

theorem loadPayoutBatch_eq_none {batchId : String} :
    db.loadPayoutBatch host batchId = none ↔ db.payoutBatches.find? batchId = none := by
  rw [loadPayoutBatch, Option.map_eq_none_iff]

/-- What a releasing call does when it knows the batch. -/
structure ReleasesBatch (host : Host) (db : Db) (input : ReleasePayoutBatchAllocationsInput)
    (batch released : PayoutBatchRecord) (db' : Db) : Prop where
  found : db.loadPayoutBatch host input.payoutBatchId = some batch
  granted : ReleaseGranted batch (db.guardTransactions batch.id) input released
  accruals : db'.commissionAccruals.rows = db.commissionAccruals.rows.map (fun row =>
    if row.id ∈ db.accrualIdsOf batch.id ∧ row.status = .allocated then
      { row with status := .available } else row)
  batches : ∃ updatedAt, timestamptz host released.updatedAt = .ok updatedAt ∧
    db'.payoutBatches.rows = db.payoutBatches.rows.map (fun row =>
      if row.id = batch.id then
        { row with
          status := .cancelled
          failureCode := released.failureCode
          failureMessage := released.failureMessage
          updatedAt := updatedAt }
      else row)
  items : db'.payoutItems.rows = db.payoutItems.rows.map (fun row =>
    if row.payoutBatchId = batch.id then { row with status := .released } else row)
  allocations : db'.payoutAllocations.rows = db.payoutAllocations.rows.filter (fun allocation =>
    allocation.payoutItemId ∉ db.itemIdsOf batch.id)
  others : db' = { db with
    commissionAccruals := db'.commissionAccruals
    payoutBatches := db'.payoutBatches
    payoutItems := db'.payoutItems
    payoutAllocations := db'.payoutAllocations }

theorem releasePayoutBatchAllocations_eq_ok {input : ReleasePayoutBatchAllocationsInput}
    {result : Option PayoutBatchRecord}
    (h : db.releasePayoutBatchAllocations host env input = .ok (result, db')) :
    (result = none ∧ db.payoutBatches.find? input.payoutBatchId = none ∧ db' = db) ∨
      ∃ batch released, result = some released ∧
        ReleasesBatch host db input batch released db' := by
  rw [releasePayoutBatchAllocations] at h
  split at h
  · rename_i hload
    rw [pure_eq_ok] at h
    injection h with hr hd
    exact .inl ⟨hr.symm, loadPayoutBatch_eq_none.mp hload, hd.symm⟩
  · rename_i batch hload
    obtain ⟨released, hplan, h⟩ := bind_eq_ok.mp h
    obtain ⟨written, hwrite, h⟩ := bind_eq_ok.mp h
    rw [pure_eq_ok] at h
    injection h with hr hd
    subst hr hd
    have hgranted := planRelease_eq_ok hplan
    obtain ⟨message, at', hreleased⟩ := hgranted.released
    have hid : released.id = batch.id := by rw [hreleased]; rfl
    have hstatus : released.status = .cancelled := by rw [hreleased]; rfl
    rw [markPayoutBatchAllocationsReleased] at hwrite
    obtain ⟨updatedAt, hupdated, hwrite⟩ := bind_eq_ok.mp hwrite
    rw [pure_eq_ok] at hwrite
    subst hwrite
    refine .inr ⟨batch, released, rfl, hload, hgranted, ?_, ⟨updatedAt, hupdated, ?_⟩, ?_, ?_, rfl⟩
    · rw [← hid]
      simp only [setAccrualStatus_rows, Bool.and_eq_true, decide_eq_true_eq]
      rfl
    · simp [hid, hstatus]
    · simp [hid]
    · rw [← hid]
      rw [Table.rows_filter]
      exact List.filter_congr fun allocation _ => (decide_not).symm

/-! ## Transactions -/

/-- The row a transaction is inserted as. -/
def transactionRowOf (transaction : PayoutTransactionRecord) (submittedAt confirmedAt finalizedAt :
    Option Int) (createdAt : Int) : PayoutTransactionRow :=
  ⟨transaction.id, transaction.payoutBatchId, transaction.sequence, transaction.attempt,
    transaction.recentBlockhash, transaction.lastValidBlockHeight,
    transaction.signedTransactionBase64, transaction.expectedSignature, transaction.status,
    submittedAt, confirmedAt, finalizedAt, transaction.error, createdAt⟩

/-- The row is that of the transaction. -/
def TransactionRow (host : Host) (transaction : PayoutTransactionRecord)
    (row : PayoutTransactionRow) : Prop :=
  ∃ submittedAt confirmedAt finalizedAt createdAt,
    optionalTimestamptz host transaction.submittedAt = .ok submittedAt ∧
    optionalTimestamptz host transaction.confirmedAt = .ok confirmedAt ∧
    optionalTimestamptz host transaction.finalizedAt = .ok finalizedAt ∧
    timestamptz host transaction.createdAt = .ok createdAt ∧
    row = transactionRowOf transaction submittedAt confirmedAt finalizedAt createdAt

theorem insertPayoutTransactionItems_eq_ok {items : List PayoutTransactionItemRecord}
    (h : items.foldlM insertPayoutTransactionItem db = .ok db') :
    db'.payoutTransactionItems.rows = db.payoutTransactionItems.rows ++ items ∧
      db' = { db with payoutTransactionItems := db'.payoutTransactionItems } := by
  induction items generalizing db with
  | nil =>
      rw [List.foldlM_nil, pure_eq_ok] at h
      subst h
      exact ⟨by simp, rfl⟩
  | cons item items ih =>
      rw [List.foldlM_cons] at h
      obtain ⟨mid, hmid, h⟩ := bind_eq_ok.mp h
      rw [insertPayoutTransactionItem] at hmid
      obtain ⟨table, hinsert, hmid⟩ := bind_eq_ok.mp hmid
      rw [pure_eq_ok] at hmid
      subst hmid
      obtain ⟨hrows, hdb⟩ := ih h
      refine ⟨?_, hdb⟩
      rw [hrows, (insertRow_eq_ok hinsert).2.2.2, List.append_assoc]
      rfl

theorem insertPayoutTransaction_eq_ok {transaction : PayoutTransactionRecord}
    (h : db.insertPayoutTransaction host transaction = .ok db') :
    (∃ row, TransactionRow host transaction row ∧
      db'.payoutTransactions.rows = db.payoutTransactions.rows ++ [row]) ∧
    (∀ row ∈ db.payoutTransactions, row.id ≠ transaction.id ∧
      (row.payoutBatchId = transaction.payoutBatchId → row.sequence = transaction.sequence →
        row.attempt ≠ transaction.attempt)) ∧
    db' = { db with payoutTransactions := db'.payoutTransactions } := by
  rw [insertPayoutTransaction] at h
  obtain ⟨submittedAt, hs, h⟩ := bind_eq_ok.mp h
  obtain ⟨confirmedAt, hc, h⟩ := bind_eq_ok.mp h
  obtain ⟨finalizedAt, hf, h⟩ := bind_eq_ok.mp h
  obtain ⟨createdAt, ht, h⟩ := bind_eq_ok.mp h
  obtain ⟨table, hinsert, h⟩ := bind_eq_ok.mp h
  rw [pure_eq_ok] at h
  subst h
  obtain ⟨-, hunique, hnew, hrows⟩ := insertRow_eq_ok hinsert
  refine ⟨⟨_, ⟨submittedAt, confirmedAt, finalizedAt, createdAt, hs, hc, hf, ht, rfl⟩, hrows⟩, ?_,
    rfl⟩
  intro row hrow
  refine ⟨hnew row hrow, fun hbatch hseq hattempt => ?_⟩
  have hall := List.all_eq_true.mp hunique row hrow
  simp [hbatch, hseq, hattempt] at hall

/-- Transactions are inserted in order, each followed by its mappings. -/
theorem insertTransactions_eq_ok {records : List PayoutTransactionRecord}
    (h : records.foldlM (insertTransactionWithItems host) db = .ok db') :
    (∃ rows, List.Forall₂ (TransactionRow host) records rows ∧
      db'.payoutTransactions.rows = db.payoutTransactions.rows ++ rows) ∧
    (∀ record ∈ records, ∀ row ∈ db.payoutTransactions, row.id ≠ record.id ∧
      (row.payoutBatchId = record.payoutBatchId → row.sequence = record.sequence →
        row.attempt ≠ record.attempt)) ∧
    db'.payoutTransactionItems.rows =
      db.payoutTransactionItems.rows ++ records.flatMap PayoutTransactionRecord.items ∧
    db' = { db with
      payoutTransactions := db'.payoutTransactions
      payoutTransactionItems := db'.payoutTransactionItems } := by
  induction records generalizing db with
  | nil =>
      rw [List.foldlM_nil, pure_eq_ok] at h
      subst h
      exact ⟨⟨[], .nil, by simp⟩, by simp, by simp, rfl⟩
  | cons record records ih =>
      rw [List.foldlM_cons] at h
      obtain ⟨mid, hmid, h⟩ := bind_eq_ok.mp h
      rw [insertTransactionWithItems] at hmid
      obtain ⟨withRow, hrow, hmid⟩ := bind_eq_ok.mp hmid
      obtain ⟨⟨row, htransaction, hrows⟩, hnew, hrowdb⟩ := insertPayoutTransaction_eq_ok hrow
      obtain ⟨hitems, hmiddb⟩ := insertPayoutTransactionItems_eq_ok hmid
      obtain ⟨⟨rows, hforall, hall⟩, hnews, hallItems, hdb⟩ := ih h
      have hmidrows : mid.payoutTransactions.rows = db.payoutTransactions.rows ++ [row] := by
        rw [hmiddb]
        exact hrows
      refine ⟨⟨row :: rows, .cons htransaction hforall, ?_⟩, ?_, ?_, ?_⟩
      · rw [hall, hmidrows, List.append_assoc]
        rfl
      · intro r hr old hold
        rcases List.mem_cons.mp hr with rfl | hr
        · exact hnew old hold
        · refine hnews r hr old ?_
          rw [Table.mem_def, hmidrows]
          exact List.mem_append_left _ hold
      · rw [hallItems, hitems, hrowdb, List.flatMap_cons, List.append_assoc]
      · rw [hdb, hmiddb, hrowdb]

/-- What a saving call does. -/
structure SavesTransactions (host : Host) (env : CallEnv) (reads db : Db)
    (input : SaveSignedPayoutTransactionsInput) (batch : PayoutBatchRecord)
    (records : List PayoutTransactionRecord) (db' : Db) : Prop where
  found : reads.loadPayoutBatch host input.payoutBatchId = some batch
  planned : planSignedPayoutTransactions host env input batch = .ok records
  newRows : ∀ record ∈ records, ∀ row ∈ db.payoutTransactions, row.id ≠ record.id ∧
    (row.payoutBatchId = record.payoutBatchId → row.sequence = record.sequence →
      row.attempt ≠ record.attempt)
  transactions : ∃ rows, List.Forall₂ (TransactionRow host) records rows ∧
    db'.payoutTransactions.rows = db.payoutTransactions.rows ++ rows
  transactionItems : db'.payoutTransactionItems.rows =
    db.payoutTransactionItems.rows ++ records.flatMap PayoutTransactionRecord.items
  others : db' = { db with
    payoutTransactions := db'.payoutTransactions
    payoutTransactionItems := db'.payoutTransactionItems }

theorem saveSignedPayoutTransactions_eq_ok {input : SaveSignedPayoutTransactionsInput}
    {records : List PayoutTransactionRecord}
    (h : saveSignedPayoutTransactions host env reads db input = .ok (records, db')) :
    ∃ batch, SavesTransactions host env reads db input batch records db' := by
  rw [saveSignedPayoutTransactions] at h
  obtain ⟨records', hread, h⟩ := bind_eq_ok.mp h
  obtain ⟨written, hwrite, h⟩ := bind_eq_ok.mp h
  rw [pure_eq_ok] at h
  injection h with hr hd
  subst hr hd
  rw [readSignedPayoutTransactions] at hread
  split at hread
  · exact absurd hread throw_ne_ok
  rename_i batch hload
  obtain ⟨planned, hplan, hread⟩ := bind_eq_ok.mp hread
  dsimp only at hread
  split at hread
  · exact absurd hread throw_ne_ok
  rw [pure_eq_ok] at hread
  subst hread
  obtain ⟨hrows, hnew, hitems, hdb⟩ := insertTransactions_eq_ok hwrite
  exact ⟨batch, hload, hplan, hnew, hrows, hitems, hdb⟩

/-! ## Rollup -/

/-- The status the updates of a rollup give an item, in the order they are written. -/
def statusAfter (updates : List PayoutBatchItemStatusUpdate) (row : PayoutItemRow) :
    PayoutItemStatus :=
  updates.foldl (fun status update =>
    if row.id = update.payoutItemId then update.status else status) row.status

theorem writeRollup_items (db : Db) (payoutBatchId : String) (rollup : PayoutBatchTransactionItemRollup)
    (updatedAt : Int) :
    (db.writeRollup payoutBatchId rollup updatedAt).payoutItems.rows =
      db.payoutItems.rows.map (fun row =>
        { row with status := statusAfter rollup.updatedItems row }) := by
  rw [writeRollup]
  dsimp only
  generalize db.payoutItems = table
  induction rollup.updatedItems generalizing table with
  | nil => simp [statusAfter]
  | cons update updates ih =>
      rw [List.foldl_cons, ih, updateWhere_rows, List.map_map]
      refine List.map_congr_left fun row _ => ?_
      by_cases hk : row.id = update.payoutItemId
      · simp [statusAfter, hk]
      · simp [statusAfter, hk]

/-- What a rollup does. -/
theorem rollUpPayoutBatchFinality_eq_ok {payoutBatchId updatedAt : String}
    (h : db.rollUpPayoutBatchFinality host payoutBatchId updatedAt = .ok db') :
    (db' = db ∧ (db.payoutBatches.find? payoutBatchId = none ∨
      db.listPayoutTransactions host payoutBatchId = [])) ∨
    ∃ batch rollup updatedMs, db.loadPayoutBatch host payoutBatchId = some batch ∧
      summarizePayoutBatchTransactionItemFinality host batch
        (db.listPayoutTransactions host payoutBatchId) = some rollup ∧
      timestamptz host updatedAt = .ok updatedMs ∧
      db' = db.writeRollup payoutBatchId rollup updatedMs := by
  rw [rollUpPayoutBatchFinality] at h
  split at h
  · rename_i hload
    rw [pure_eq_ok] at h
    exact .inl ⟨h.symm, .inl (loadPayoutBatch_eq_none.mp hload)⟩
  · rename_i batch hload
    split at h
    · rename_i hnone
      rw [pure_eq_ok] at h
      exact .inl ⟨h.symm, .inr (summarize_eq_none hnone)⟩
    · rename_i rollup hrollup
      obtain ⟨updatedMs, ht, h⟩ := bind_eq_ok.mp h
      rw [pure_eq_ok] at h
      exact .inr ⟨batch, rollup, updatedMs, hload, hrollup, ht, h.symm⟩

/-- The database with one transaction row changed. -/
def changeTransaction (db : Db) (id : String) (change : PayoutTransactionRow → PayoutTransactionRow)
    (hkey : ∀ row, (change row).id = row.id) : Db :=
  { db with
    payoutTransactions := updateWhere db.payoutTransactions (fun row => row.id = id) change hkey }

/-- What a mark does to a transaction: change its row and roll its batch up. -/
structure MarksTransaction (host : Host) (db : Db) (row : PayoutTransactionRow)
    (change : PayoutTransactionRow → PayoutTransactionRow)
    (hkey : ∀ row, (change row).id = row.id) (at' : String) (db' : Db) : Prop where
  found : db.payoutTransactions.find? row.id = some row
  rolledUp : ∃ rolled, (db.changeTransaction row.id change hkey).rollUpPayoutBatchFinality host
    row.payoutBatchId at' = .ok rolled ∧ SameButOutbox rolled db'

theorem updateTransactionRow_eq_ok {id : String} {expectedStatus : Option PayoutTransactionStatus}
    {unique : Bool} {change : PayoutTransactionRow → PayoutTransactionRow}
    {hkey : ∀ row, (change row).id = row.id} {result : Option PayoutTransactionRecord}
    (h : db.updateTransactionRow host id expectedStatus unique change hkey = .ok (result, db'))
    (hbatch : ∀ row, (change row).payoutBatchId = row.payoutBatchId) :
    (result = none ∧ db' = db) ∨ ∃ row transaction, result = some transaction ∧
      db.payoutTransactions.find? id = some row ∧ expectedStatus.all (· = row.status) = true ∧
      transaction.payoutBatchId = row.payoutBatchId ∧ unique = true ∧
      db' = db.changeTransaction id change hkey := by
  rw [updateTransactionRow] at h
  dsimp only at h
  split at h
  · rw [pure_eq_ok] at h
    injection h with hr hd
    exact .inl ⟨hr.symm, hd.symm⟩
  rename_i hany
  split at h
  · exact absurd h throw_ne_ok
  rename_i hunique
  rw [pure_eq_ok] at h
  injection h with hr hd
  simp only [Bool.not_eq_true', Bool.not_eq_false, List.any_eq_true] at hany
  obtain ⟨row, hrow, hselect⟩ := hany
  rw [Bool.and_eq_true, decide_eq_true_eq] at hselect
  obtain ⟨hid, hexpected⟩ := hselect
  have hfind : db.payoutTransactions.find? id = some row := Table.find?_eq_some.mpr ⟨hrow, hid⟩
  -- the update selects the row with the id and no other
  have hsame : updateWhere db.payoutTransactions
      (fun row => row.id = id && expectedStatus.all (· = row.status)) change hkey =
      updateWhere db.payoutTransactions (fun row => row.id = id) change hkey := by
    refine Table.ext ?_
    rw [updateWhere_rows, updateWhere_rows]
    refine List.map_congr_left fun other hother => ?_
    by_cases hk : other.id = id
    · have : other = row := Table.eq_of_key hother hrow (hk.trans hid.symm)
      simp [this, hid, hexpected]
    · simp [hk]
  rw [hsame] at hr hd
  refine .inr ⟨row, ?_⟩
  have hmem : change row ∈ (db.changeTransaction id change hkey).payoutTransactions := by
    rw [Table.mem_def, changeTransaction, updateWhere_rows]
    exact List.mem_map.mpr ⟨row, hrow, by simp [hid]⟩
  have hget : (db.changeTransaction id change hkey).payoutTransactions.find? id =
      some (change row) := Table.find?_eq_some.mpr ⟨hmem, (hkey row).trans hid⟩
  rw [getPayoutTransaction] at hr
  rw [changeTransaction] at hget
  rw [hget, Option.map_some] at hr
  exact ⟨_, hr.symm, hfind, hexpected, hbatch row, by simpa using hunique, hd.symm⟩

/-- The change a submit mark makes. -/
def submittedRow (submittedAt : Int) (expectedSignature : Option String)
    (row : PayoutTransactionRow) : PayoutTransactionRow :=
  { row with
    status := .submitted
    submittedAt := some submittedAt
    expectedSignature := expectedSignature }

@[simp] theorem submittedRow_id (submittedAt : Int) (expectedSignature : Option String)
    (row : PayoutTransactionRow) : (submittedRow submittedAt expectedSignature row).id = row.id :=
  rfl

theorem markPayoutTransactionSubmitted_eq_ok {input : MarkPayoutTransactionSubmittedInput}
    {result : Option PayoutTransactionRecord}
    (h : markPayoutTransactionSubmitted host env reads db input = .ok (result, db')) :
    (result = none ∧ db' = db) ∨ ∃ row submittedAt submittedMs expectedSignature,
      row.id = input.id ∧
      MarksTransaction host db row (submittedRow submittedMs expectedSignature)
        (submittedRow_id _ _) submittedAt db' := by
  rw [markPayoutTransactionSubmitted] at h
  split at h
  · rw [pure_eq_ok] at h
    injection h with hr hd
    exact .inl ⟨hr.symm, hd.symm⟩
  rename_i existing hget
  split at h
  · exact absurd h throw_ne_ok
  obtain ⟨submittedAt, -, h⟩ := bind_eq_ok.mp h
  obtain ⟨submittedMs, -, h⟩ := bind_eq_ok.mp h
  dsimp only at h
  obtain ⟨⟨written, mid⟩, hupdate, hrest⟩ := bind_eq_ok.mp h
  change db.updateTransactionRow host input.id none _
    (submittedRow submittedMs (input.expectedSignature.or existing.expectedSignature))
    (submittedRow_id _ _) = _ at hupdate
  rcases updateTransactionRow_eq_ok hupdate (fun _ => rfl) with
    ⟨rfl, rfl⟩ | ⟨row, transaction, rfl, hfind, -, hbatch, -, rfl⟩
  · dsimp only at hrest
    rw [pure_eq_ok] at hrest
    injection hrest with hr hd
    exact .inl ⟨hr.symm, hd.symm⟩
  · dsimp only at hrest
    obtain ⟨rolled, hroll, hrest⟩ := bind_eq_ok.mp hrest
    obtain ⟨written, hevents, hrest⟩ := bind_eq_ok.mp hrest
    rw [pure_eq_ok] at hrest
    injection hrest with hr hd
    subst hd
    have hid : row.id = input.id := Table.key_of_find? hfind
    rw [hbatch, ← hid] at hroll
    rw [← hid] at hfind
    exact .inr ⟨row, submittedAt, submittedMs, _, hid, hfind, rolled, hroll,
      insertPayoutLifecycleEventsIfBatchMatches_eq_ok hevents⟩

/-- The change a finality mark makes. -/
def finalityRow (status : PayoutTransactionStatus) (confirmedAt finalizedAt : Option Int)
    (error : Option (List (String × Json))) (row : PayoutTransactionRow) : PayoutTransactionRow :=
  { row with
    status := status
    confirmedAt := confirmedAt
    finalizedAt := finalizedAt
    errorJson := error }

@[simp] theorem finalityRow_id (status : PayoutTransactionStatus)
    (confirmedAt finalizedAt : Option Int) (error : Option (List (String × Json)))
    (row : PayoutTransactionRow) :
    (finalityRow status confirmedAt finalizedAt error row).id = row.id := rfl

theorem markPayoutTransactionFinality_eq_ok {input : MarkPayoutTransactionFinalityInput}
    {result : Option PayoutTransactionRecord}
    (h : markPayoutTransactionFinality host env reads db input = .ok (result, db')) :
    (result = none ∧ db' = db) ∨ ∃ row observedAt confirmedAt finalizedAt error,
      row.id = input.id ∧ input.expectedStatus.all (· = row.status) = true ∧
      MarksTransaction host db row
        (finalityRow input.status.toStatus confirmedAt finalizedAt error)
        (finalityRow_id _ _ _ _) observedAt db' := by
  rw [markPayoutTransactionFinality] at h
  split at h
  · rw [pure_eq_ok] at h
    injection h with hr hd
    exact .inl ⟨hr.symm, hd.symm⟩
  rename_i existing hget
  obtain ⟨observedAt, -, h⟩ := bind_eq_ok.mp h
  obtain ⟨confirmedAt, -, h⟩ := bind_eq_ok.mp h
  obtain ⟨finalizedAt, -, h⟩ := bind_eq_ok.mp h
  obtain ⟨⟨written, mid⟩, hupdate, hrest⟩ := bind_eq_ok.mp h
  change db.updateTransactionRow host input.id input.expectedStatus true
    (finalityRow input.status.toStatus confirmedAt finalizedAt (input.error.or existing.error))
    (finalityRow_id _ _ _ _) = _ at hupdate
  rcases updateTransactionRow_eq_ok hupdate (fun _ => rfl) with
    ⟨rfl, rfl⟩ | ⟨row, transaction, rfl, hfind, hexpected, hbatch, -, rfl⟩
  · dsimp only at hrest
    rw [pure_eq_ok] at hrest
    injection hrest with hr hd
    exact .inl ⟨hr.symm, hd.symm⟩
  · dsimp only at hrest
    obtain ⟨rolled, hroll, hrest⟩ := bind_eq_ok.mp hrest
    obtain ⟨written, hevents, hrest⟩ := bind_eq_ok.mp hrest
    rw [pure_eq_ok] at hrest
    injection hrest with hr hd
    subst hd
    have hid : row.id = input.id := Table.key_of_find? hfind
    rw [hbatch, ← hid] at hroll
    rw [← hid] at hfind
    exact .inr ⟨row, observedAt, confirmedAt, finalizedAt, _, hid, hexpected, hfind, rolled, hroll,
      insertPayoutLifecycleEvents_eq_ok hevents⟩

/-! ## Ledger closure -/

/-- The ledger has a transaction that closes the batch. -/
def HasClosed (db : Db) (batchId : String) : Prop :=
  ∃ row ∈ db.ledgerTransactions, row.sourceType = .payoutBatch ∧ row.sourceId = batchId

/-- What the first closing call of a batch does. -/
structure ClosesLedger (host : Host) (reads db : Db) (input : ClosePayoutBatchLedgerInput)
    (batch : PayoutBatchRecord) (transaction : LedgerTransaction) (db' : Db) : Prop where
  found : reads.loadPayoutBatch host input.payoutBatchId = some batch
  first : ¬ db.HasClosed input.payoutBatchId
  closes : ClosesBatch batch transaction
  ledgers : ∃ createdAt, db'.ledgerTransactions.rows = db.ledgerTransactions.rows ++
    [⟨transaction.id, transaction.sourceType, transaction.sourceId, transaction.asset, createdAt⟩]
  entries : db'.ledgerEntries.rows = db.ledgerEntries.rows ++ transaction.entries
  accruals : db'.commissionAccruals.rows = db.commissionAccruals.rows.map (fun row =>
    if row.id ∈ batch.accrualIds ∧ row.status = .allocated then { row with status := .paid }
    else row)
  others : db' = { db with
    ledgerTransactions := db'.ledgerTransactions
    ledgerEntries := db'.ledgerEntries
    commissionAccruals := db'.commissionAccruals
    outboxEvents := db'.outboxEvents }

/-- `markBatchAccrualsPaid` pays the allocated accruals of the finalized items. -/
theorem markBatchAccrualsPaid_eq (db : Db) (batch : PayoutBatchRecord) :
    (db.markBatchAccrualsPaid batch).commissionAccruals.rows =
      db.commissionAccruals.rows.map (fun row =>
        if row.id ∈ batch.finalizedAccrualIds ∧ row.status = .allocated then
          { row with status := .paid } else row) ∧
    db.markBatchAccrualsPaid batch = { db with
      commissionAccruals := (db.markBatchAccrualsPaid batch).commissionAccruals } := by
  rw [markBatchAccrualsPaid]
  induction batch.finalizedAccrualIds generalizing db with
  | nil => exact ⟨by simp, rfl⟩
  | cons id ids ih =>
      rw [List.foldl_cons]
      obtain ⟨hrows, hdb⟩ := @ih (db.setAccrualStatus
        (fun row => row.id = id && row.status = .allocated) .paid)
      refine ⟨?_, hdb⟩
      rw [hrows, setAccrualStatus_rows, List.map_map]
      refine List.map_congr_left fun row _ => ?_
      by_cases hk : row.id = id <;> by_cases hs : row.status = .allocated <;> simp [hk, hs]

theorem commitClosure_eq_ok {batch : PayoutBatchRecord} {transaction : LedgerTransaction}
    (h : db.commitClosure host env batch transaction = .ok db') :
    ∃ ledgered, InsertsLedger db transaction ledgered ∧
      SameButOutbox (ledgered.markBatchAccrualsPaid batch) db' := by
  rw [commitClosure] at h
  obtain ⟨ledgered, hledger, h⟩ := bind_eq_ok.mp h
  obtain ⟨finalized, -, h⟩ := bind_eq_ok.mp h
  obtain ⟨mid, hmid, h⟩ := bind_eq_ok.mp h
  obtain ⟨webhook, -, h⟩ := bind_eq_ok.mp h
  exact ⟨ledgered, insertLedger_eq_ok hledger,
    (insertOutboxEvent_eq_ok hmid).trans (insertOutboxEvent_eq_ok h)⟩

theorem closeFinalizedPayoutBatchLedger_eq_ok {input : ClosePayoutBatchLedgerInput}
    {result : Option LedgerTransaction}
    (h : closeFinalizedPayoutBatchLedger host env reads db input = .ok (result, db')) :
    (db' = db ∧ (result = none ∨
      result = reads.loadLedgerTransactionBySource host .payoutBatch input.payoutBatchId)) ∨
      ∃ batch transaction, result = some transaction ∧
        ClosesLedger host reads db input batch transaction db' := by
  rw [closeFinalizedPayoutBatchLedger] at h
  obtain ⟨closure, hread, h⟩ := bind_eq_ok.mp h
  rw [readClosure] at hread
  split at hread
  · rename_i existing hexisting
    rw [pure_eq_ok] at hread
    subst hread
    rw [pure_eq_ok] at h
    injection h with hr hd
    exact .inl ⟨hd.symm, .inr (by rw [hexisting, hr])⟩
  · split at hread
    · rw [pure_eq_ok] at hread
      subst hread
      rw [pure_eq_ok] at h
      injection h with hr hd
      exact .inl ⟨hd.symm, .inl hr.symm⟩
    · rename_i batch hload
      obtain ⟨-, -, hread⟩ := bind_eq_ok.mp hread
      obtain ⟨transaction, hcreate, hread⟩ := bind_eq_ok.mp hread
      rw [pure_eq_ok] at hread
      subst hread
      dsimp only at h
      obtain ⟨committed, hcommit, h⟩ := bind_eq_ok.mp h
      rw [pure_eq_ok] at h
      injection h with hr hd
      subst hr hd
      have hcloses := createPayoutFinalizationLedgerTransaction_eq_ok hcreate
      obtain ⟨ledgered, hledger, events, hsame⟩ := commitClosure_eq_ok hcommit
      obtain ⟨hpaid, hpaidDb⟩ := markBatchAccrualsPaid_eq ledgered batch
      obtain ⟨createdAt, hledgerRows⟩ := hledger.rows
      have hid : batch.id = input.payoutBatchId := (loadPayoutBatch_eq_some hload).id
      have hkept : ledgered.commissionAccruals = db.commissionAccruals := by rw [hledger.others]
      refine .inr ⟨batch, transaction, rfl, hload, ?_, hcloses, ⟨createdAt, ?_⟩, ?_, ?_, ?_⟩
      · rintro ⟨row, hrow, htype, hsource⟩
        rcases hledger.newSource row hrow with hne | hne
        · exact hne (htype.trans hcloses.sourceType.symm)
        · exact hne (hsource.trans (hid.symm.trans hcloses.sourceId.symm))
      · rw [hsame, hpaidDb]
        exact hledgerRows
      · rw [hsame, hpaidDb]
        exact hledger.entries
      · rw [hsame]
        rw [hcloses.finalizedAccrualIds, hkept] at hpaid
        exact hpaid
      · rw [hsame, hpaidDb, hledger.others]

end Db

end Split402

import Split402.Proof.PostgresOps
import Split402.Proof.Rollup
import Split402.Store.Runs

/-! # The Postgres store moves like the abstract payouts

The same abstraction over the tables, and the same theorem: every SQL transaction is a move. A
saving call reads its batch before its transaction, so the move also needs that what was read is
still there: items are never deleted (`PayoutsInv.persists`). -/

namespace Split402

open Base

variable {host : Host} {env : CallEnv}

namespace Db

variable {db db' reads : Db}

/-! ## The abstraction -/

/-- The mapping table ties the transaction to the item. -/
def Pays (db : Db) (payoutTransactionId payoutItemId : String) : Prop :=
  ∃ mapping ∈ db.payoutTransactionItems, mapping.payoutTransactionId = payoutTransactionId ∧
    mapping.payoutItemId = payoutItemId

/-- What the model keeps of a transaction row. -/
def signedOf (db : Db) (row : PayoutTransactionRow) : SignedTransaction :=
  ⟨row.payoutBatchId, row.sequence, row.attempt, row.status, db.Pays row.id⟩

def payouts (db : Db) : Payouts where
  batch b := (db.payoutBatches.find? b).map PayoutBatchRow.status
  item b i s := ∃ row ∈ db.payoutItems, row.payoutBatchId = b ∧ row.id = i ∧ row.status = s
  transaction id := (db.payoutTransactions.find? id).map db.signedOf

theorem payouts_congr (hb : db'.payoutBatches = db.payoutBatches)
    (hi : db'.payoutItems = db.payoutItems)
    (ht : db'.payoutTransactions = db.payoutTransactions)
    (hm : db'.payoutTransactionItems = db.payoutTransactionItems) :
    db'.payouts = db.payouts := by
  have hsigned : db'.signedOf = db.signedOf := by
    funext row
    rw [signedOf, show db'.Pays = db.Pays by unfold Pays; rw [hm]]
    rfl
  simp [payouts, hb, hi, ht, hsigned]

theorem SameButOutbox.payouts (h : SameButOutbox db db') : db'.payouts = db.payouts := by
  obtain ⟨events, rfl⟩ := h
  exact payouts_congr rfl rfl rfl rfl

theorem payouts_batch_of_find {b : String} {row : PayoutBatchRow}
    (h : db.payoutBatches.find? b = some row) : db.payouts.batch b = some row.status := by
  simp [payouts, h]

theorem payouts_batch_eq_none {b : String} :
    db.payouts.batch b = none ↔ db.payoutBatches.find? b = none := by
  simp [payouts]

theorem payouts_transaction_of_find {id : String} {row : PayoutTransactionRow}
    (h : db.payoutTransactions.find? id = some row) :
    db.payouts.transaction id = some (db.signedOf row) := by
  simp [payouts, h]

theorem payouts_transaction_eq_some {id : String} {t : SignedTransaction} :
    db.payouts.transaction id = some t ↔
      ∃ row, db.payoutTransactions.find? id = some row ∧ db.signedOf row = t := by
  simp [payouts]

/-- A loaded batch has the items of the table. -/
theorem LoadsBatch.item {batchId : String} {batch : PayoutBatchRecord}
    (h : LoadsBatch host db batchId batch) (i : String) (s : PayoutItemStatus) :
    db.payouts.item batchId i s ↔ ∃ item ∈ batch.items, item.id = i ∧ item.status = s := by
  have hitems : batch.items.map (fun item => (item.id, item.status)) =
      (db.itemRows host batchId).map (fun row => (row.id, row.status)) := by
    have hmap := congrArg (List.map (fun x : String × String × PayoutItemStatus =>
      (x.1, x.2.2))) h.items
    rwa [List.map_map, List.map_map] at hmap
  have hmem : (i, s) ∈ batch.items.map (fun item => (item.id, item.status)) ↔
      ∃ item ∈ batch.items, item.id = i ∧ item.status = s := by
    simp [List.mem_map, Prod.ext_iff]
  have hrow : (i, s) ∈ (db.itemRows host batchId).map (fun row => (row.id, row.status)) ↔
      db.payouts.item batchId i s := by
    simp [payouts, List.mem_map, Prod.ext_iff, mem_itemRows, and_assoc]
  rw [← hmem, hitems, hrow]

theorem LoadsBatch.itemIds {batchId : String} {batch : PayoutBatchRecord}
    (h : LoadsBatch host db batchId batch) (i : String) :
    (∃ s, db.payouts.item batchId i s) ↔ i ∈ batch.items.map PayoutItemRecord.id := by
  simp [h.item]

theorem LoadsBatch.batch {batchId : String} {batch : PayoutBatchRecord}
    (h : LoadsBatch host db batchId batch) : db.payouts.batch batchId = some batch.status := by
  obtain ⟨row, hfind, hstatus⟩ := h.row
  rw [payouts_batch_of_find hfind, hstatus]

/-- A mapped transaction record keeps what the model keeps of its row. -/
theorem signed_mapPayoutTransaction {row : PayoutTransactionRow}
    {items : List PayoutTransactionItemRecord}
    (h : ∀ mapping, mapping ∈ items ↔
      mapping ∈ db.payoutTransactionItems ∧ mapping.payoutTransactionId = row.id) :
    (mapPayoutTransaction host row items).signed = db.signedOf row := by
  have hpays : (fun i => (mapPayoutTransaction host row items).covers i = true) =
      db.Pays row.id := by
    funext i
    refine propext ?_
    rw [PayoutTransactionRecord.covers, List.any_eq_true]
    constructor
    · rintro ⟨mapping, hmem, hi⟩
      obtain ⟨hstored, hid⟩ := (h mapping).mp hmem
      exact ⟨mapping, hstored, hid, by simpa using hi⟩
    · rintro ⟨mapping, hstored, hid, hi⟩
      exact ⟨mapping, (h mapping).mpr ⟨hstored, hid⟩, by simpa using hi⟩
  rw [PayoutTransactionRecord.signed, signedOf, hpays]
  rfl

/-- The listed transactions of a batch are the abstract ones. -/
theorem payouts_lists (host : Host) (db : Db) (batchId : String) :
    db.payouts.Lists batchId (db.listPayoutTransactions host batchId) := by
  have hmapped : ∀ record, record ∈ db.listPayoutTransactions host batchId ↔
      ∃ row ∈ db.payoutTransactions, row.payoutBatchId = batchId ∧
        record = mapPayoutTransaction host row ((db.listPayoutTransactionItems host
          ((db.transactionRows host batchId).map PayoutTransactionRow.id)).filter
            (fun item => item.payoutTransactionId = row.id)) := by
    intro record
    simp only [listPayoutTransactions, mapPayoutTransactionsWithItems, List.mem_map,
      transactionRows, mem_sortBy, List.mem_filter, decide_eq_true_eq, Table.mem_def]
    constructor
    · rintro ⟨row, ⟨hrow, hb⟩, rfl⟩
      exact ⟨row, hrow, hb, rfl⟩
    · rintro ⟨row, hrow, hb, rfl⟩
      exact ⟨row, ⟨hrow, hb⟩, rfl⟩
  have hsigned : ∀ row ∈ db.payoutTransactions, row.payoutBatchId = batchId →
      (mapPayoutTransaction host row ((db.listPayoutTransactionItems host
        ((db.transactionRows host batchId).map PayoutTransactionRow.id)).filter
          (fun item => item.payoutTransactionId = row.id))).signed = db.signedOf row := by
    intro row hrow hb
    refine signed_mapPayoutTransaction fun mapping => ?_
    simp only [List.mem_filter, listPayoutTransactionItems, mem_sortBy, decide_eq_true_eq,
      Table.mem_def]
    constructor
    · rintro ⟨⟨hmem, -⟩, hid⟩
      exact ⟨hmem, hid⟩
    · rintro ⟨hmem, hid⟩
      refine ⟨⟨hmem, ?_⟩, hid⟩
      rw [hid]
      exact List.mem_map_of_mem ((mem_sortBy _).mpr (List.mem_filter.mpr ⟨hrow, by simpa using hb⟩))
  intro id t
  constructor
  · rintro ⟨hstored, hb⟩
    obtain ⟨row, hfind, rfl⟩ := payouts_transaction_eq_some.mp hstored
    have hrow := Table.mem_of_find? hfind
    have hid : row.id = id := Table.key_of_find? hfind
    exact ⟨_, (hmapped _).mpr ⟨row, hrow, hb, rfl⟩, hid, hsigned row hrow hb⟩
  · rintro ⟨record, hmem, rfl, rfl⟩
    obtain ⟨row, hrow, hb, rfl⟩ := (hmapped record).mp hmem
    rw [hsigned row hrow hb]
    exact ⟨payouts_transaction_of_find (Table.find?_of_mem hrow), hb⟩

/-! ## Each operation is a move -/

theorem create_move (hknown : db.payouts.ItemsKnown)
    {input : CreatePayoutBatchFromAvailableAccrualsInput} {batch : PayoutBatchRecord}
    (h : CreatesBatch host env db input batch db') :
    db.payouts.Creates batch.id db'.payouts := by
  obtain ⟨createdAt, updatedAt, -, -, hbatches⟩ := h.batches
  obtain ⟨rows, hforall, hrows⟩ := h.items
  have hnone : db.payoutBatches.find? batch.id = none := Table.find?_eq_none.mpr h.newBatch
  have hfind : db'.payoutBatches.find? batch.id = some (batchRowOf batch createdAt updatedAt) := by
    refine Table.find?_eq_some.mpr ⟨?_, rfl⟩
    rw [Table.mem_def, hbatches]
    simp
  -- a new item row is an allocated item of the new batch
  have hnew : ∀ row ∈ rows, row.payoutBatchId = batch.id ∧ row.status = .allocated := by
    intro row hrow
    have hmap := hforall.map_eq (g := fun item => (item.payoutBatchId, item.status))
      (k := fun row => (row.payoutBatchId, row.status)) (fun _ _ => rfl)
    have hmem : (row.payoutBatchId, row.status) ∈
        batch.items.map (fun item => (item.payoutBatchId, item.status)) :=
      hmap ▸ List.mem_map_of_mem hrow
    obtain ⟨item, hitem, he⟩ := List.mem_map.mp hmem
    obtain ⟨hstatus, hb⟩ := h.planned.items item hitem
    injection he with he₁ he₂
    exact ⟨he₁.symm.trans hb, he₂.symm.trans hstatus⟩
  have hold : ∀ row ∈ db.payoutItems, row.payoutBatchId ≠ batch.id := by
    intro row hrow hb
    exact hknown batch.id row.id row.status ⟨row, hrow, hb, rfl, rfl⟩
      (payouts_batch_eq_none.mpr hnone)
  have hmem : ∀ row, row ∈ db'.payoutItems ↔ row ∈ db.payoutItems ∨ row ∈ rows := by
    intro row
    rw [Table.mem_def, hrows, List.mem_append]
    rfl
  refine ⟨payouts_batch_eq_none.mpr hnone, ?_, ?_, ?_, ?_, ?_⟩
  · rintro i s ⟨row, hrow, hb, -⟩
    exact hold row hrow hb
  · rw [payouts_batch_of_find hfind]
    exact congrArg some h.planned.planned
  · rintro i s ⟨row, hrow, hb, -, rfl⟩
    rcases (hmem row).mp hrow with hrow | hrow
    · exact absurd hb (hold row hrow)
    · exact (hnew row hrow).2
  · intro c hc
    have hself : (batchRowOf batch createdAt updatedAt).id ≠ c := fun hk => hc hk.symm
    have hfindc : db'.payoutBatches.find? c = db.payoutBatches.find? c := by
      rw [Table.find?, hbatches, List.find?_append, Table.find?]
      simp [hself]
    refine ⟨by simp [payouts, hfindc], ?_⟩
    funext i s
    refine propext ?_
    constructor
    · rintro ⟨row, hrow, hb, hrest⟩
      rcases (hmem row).mp hrow with hrow | hrow
      · exact ⟨row, hrow, hb, hrest⟩
      · exact absurd ((hnew row hrow).1.symm.trans hb) (Ne.symm hc)
    · rintro ⟨row, hrow, hrest⟩
      exact ⟨row, (hmem row).mpr (.inl hrow), hrest⟩
  · rw [h.others]
    rfl

theorem release_move {input : ReleasePayoutBatchAllocationsInput}
    {batch released : PayoutBatchRecord} (h : ReleasesBatch host db input batch released db') :
    db.payouts.Releases input.payoutBatchId db'.payouts := by
  have hload := loadPayoutBatch_eq_some h.found
  obtain ⟨updatedAt, -, hbatches⟩ := h.batches
  obtain ⟨batchRow, hfind, hstatus⟩ := hload.row
  have hfindc : ∀ c, db'.payoutBatches.find? c = (db.payoutBatches.find? c).map (fun row =>
      if row.id = batch.id then
        { row with
          status := .cancelled
          failureCode := released.failureCode
          failureMessage := released.failureMessage
          updatedAt := updatedAt }
      else row) := by
    intro c
    refine Table.find?_of_map (fun row => ?_) hbatches c
    split <;> rfl
  have hmem : ∀ c i s, db'.payouts.item c i s ↔
      ∃ row ∈ db.payoutItems, row.payoutBatchId = c ∧ row.id = i ∧
        (if c = batch.id then .released else row.status) = s := by
    intro c i s
    constructor
    · rintro ⟨row, hrow, rfl, rfl, rfl⟩
      rw [Table.mem_def, h.items] at hrow
      obtain ⟨original, horiginal, rfl⟩ := List.mem_map.mp hrow
      by_cases hb : original.payoutBatchId = batch.id
      · exact ⟨original, horiginal, by simp [hb], by simp [hb], by simp [hb]⟩
      · exact ⟨original, horiginal, by simp [hb], by simp [hb], by simp [hb]⟩
    · rintro ⟨original, horiginal, rfl, rfl, rfl⟩
      refine ⟨if original.payoutBatchId = batch.id then { original with status := .released }
        else original, ?_, ?_⟩
      · rw [Table.mem_def, h.items]
        exact List.mem_map.mpr ⟨original, horiginal, rfl⟩
      · by_cases hb : original.payoutBatchId = batch.id <;> simp [hb]
  rw [← hload.id]
  refine ⟨?_, ?_, ?_, ?_, ?_, ?_, ?_⟩
  · rw [hload.id, hload.batch]
    intro hfinal
    injection hfinal with hfinal
    -- a finalized batch is neither releasable nor of unknown outcome
    rcases h.granted.status with hallowed | ⟨hunknown, -⟩
    · rw [hfinal] at hallowed
      cases hallowed
    · rw [hfinal] at hunknown
      cases hunknown
  · rw [hload.id, hload.batch]
    exact Option.some_ne_none _
  · have hfind' := hfindc batch.id
    rw [hload.id, hfind, Option.map_some, ← hload.id,
      if_pos ((Table.key_of_find? hfind).trans hload.id.symm)] at hfind'
    rw [payouts_batch_of_find hfind']
  · intro i s hi
    obtain ⟨row, -, -, -, hs⟩ := (hmem batch.id i s).mp hi
    rw [if_pos rfl] at hs
    exact hs.symm
  · intro c hc
    refine ⟨?_, ?_⟩
    · change (db'.payoutBatches.find? c).map _ = (db.payoutBatches.find? c).map _
      rw [hfindc c]
      cases hfc : db.payoutBatches.find? c with
      | none => rfl
      | some row =>
          have hne : row.id ≠ batch.id := (Table.key_of_find? hfc) ▸ hc
          simp [hne]
    · funext i s
      refine propext ?_
      rw [hmem]
      simp only [if_neg hc]
      rfl
  · intro c i
    constructor
    · rintro ⟨s, hi⟩
      obtain ⟨row, hrow, hb, hid, -⟩ := (hmem c i s).mp hi
      exact ⟨row.status, row, hrow, hb, hid, rfl⟩
    · rintro ⟨s, row, hrow, hb, hid, -⟩
      exact ⟨_, (hmem c i _).mpr ⟨row, hrow, hb, hid, rfl⟩⟩
  · rw [h.others]
    rfl

/-- Every mapping belongs to a stored transaction. -/
def MappingsKnown (db : Db) : Prop :=
  ∀ mapping ∈ db.payoutTransactionItems, ∃ row ∈ db.payoutTransactions,
    row.id = mapping.payoutTransactionId

theorem MappingsKnown.congr (h : db.MappingsKnown)
    (ht : db'.payoutTransactions = db.payoutTransactions)
    (hm : db'.payoutTransactionItems = db.payoutTransactionItems) : db'.MappingsKnown := by
  unfold MappingsKnown
  rw [ht, hm]
  exact h

theorem save_mappingsKnown (hknown : db.MappingsKnown)
    {input : SaveSignedPayoutTransactionsInput} {batch : PayoutBatchRecord}
    {records : List PayoutTransactionRecord}
    (h : SavesTransactions host env reads db input batch records db') : db'.MappingsKnown := by
  obtain ⟨rows, hforall, hrows⟩ := h.transactions
  have hplan := planSignedPayoutTransactions_eq_ok h.planned
  intro mapping hmapping
  rw [Table.mem_def, h.transactionItems] at hmapping
  rcases List.mem_append.mp hmapping with hmapping | hmapping
  · obtain ⟨row, hrow, hid⟩ := hknown mapping hmapping
    refine ⟨row, ?_, hid⟩
    rw [Table.mem_def, hrows]
    exact List.mem_append_left _ hrow
  · obtain ⟨record, hr, hm⟩ := List.mem_flatMap.mp hmapping
    obtain ⟨transaction, -, hof⟩ := hplan.exists_transaction hr
    obtain ⟨i, hi, rfl⟩ := List.mem_iff_getElem.mp hr
    have hlt : i < rows.length := hforall.length_eq ▸ hi
    obtain ⟨_, _, _, _, -, -, -, -, hrow⟩ := hforall.get hi hlt
    refine ⟨rows[i], ?_, ?_⟩
    · rw [Table.mem_def, hrows]
      exact List.mem_append_right _ (List.getElem_mem hlt)
    · rw [hof.owned mapping hm]
      exact congrArg PayoutTransactionRow.id hrow

/-- The row of a record of a saving call. -/
theorem SavesTransactions.exists_row {input : SaveSignedPayoutTransactionsInput}
    {batch : PayoutBatchRecord} {records : List PayoutTransactionRecord}
    (h : SavesTransactions host env reads db input batch records db')
    {record : PayoutTransactionRecord} (hr : record ∈ records) :
    ∃ row ∈ db'.payoutTransactions, row.id = record.id ∧
      row.payoutBatchId = record.payoutBatchId ∧ row.sequence = record.sequence ∧
      row.attempt = record.attempt ∧ row.status = record.status := by
  obtain ⟨rows, hforall, hrows⟩ := h.transactions
  obtain ⟨i, hi, rfl⟩ := List.mem_iff_getElem.mp hr
  have hlt : i < rows.length := hforall.length_eq ▸ hi
  obtain ⟨_, _, _, _, -, -, -, -, hrow⟩ := hforall.get hi hlt
  refine ⟨rows[i], ?_, ?_⟩
  · rw [Table.mem_def, hrows]
    exact List.mem_append_right _ (List.getElem_mem hlt)
  · have hrow' : rows[i] = _ := hrow
    rw [hrow']
    exact ⟨rfl, rfl, rfl, rfl, rfl⟩

/-- Every row is an old one or that of a record. -/
theorem SavesTransactions.row_cases {input : SaveSignedPayoutTransactionsInput}
    {batch : PayoutBatchRecord} {records : List PayoutTransactionRecord}
    (h : SavesTransactions host env reads db input batch records db')
    {row : PayoutTransactionRow} (hrow : row ∈ db'.payoutTransactions) :
    row ∈ db.payoutTransactions ∨ ∃ record ∈ records, row.id = record.id := by
  obtain ⟨rows, hforall, hrows⟩ := h.transactions
  rw [Table.mem_def, hrows] at hrow
  rcases List.mem_append.mp hrow with hrow | hrow
  · exact .inl hrow
  · obtain ⟨i, hi, rfl⟩ := List.mem_iff_getElem.mp hrow
    have hlt : i < records.length := hforall.length_eq.symm ▸ hi
    obtain ⟨_, _, _, _, -, -, -, -, hrow'⟩ := hforall.get hlt hi
    exact .inr ⟨records[i], List.getElem_mem hlt, congrArg PayoutTransactionRow.id hrow'⟩

/-- No two records share an id. -/
theorem SavesTransactions.ids_nodup {input : SaveSignedPayoutTransactionsInput}
    {batch : PayoutBatchRecord} {records : List PayoutTransactionRecord}
    (h : SavesTransactions host env reads db input batch records db') :
    (records.map PayoutTransactionRecord.id).Nodup := by
  obtain ⟨rows, hforall, hrows⟩ := h.transactions
  have hnodup := db'.payoutTransactions.nodup
  rw [hrows, List.map_append, List.nodup_append] at hnodup
  have hsame : rows.map PayoutTransactionRow.id = records.map PayoutTransactionRecord.id := by
    clear hrows hnodup h
    induction hforall with
    | nil => rfl
    | cons hhead _ ih =>
        obtain ⟨_, _, _, _, -, -, -, -, rfl⟩ := hhead
        rw [List.map_cons, List.map_cons, ih]
        rfl
  exact hsame ▸ hnodup.2.1

theorem save_move (hknown : db.MappingsKnown)
    (hpersists : ∀ b i, (∃ s, reads.payouts.item b i s) → ∃ s, db.payouts.item b i s)
    {input : SaveSignedPayoutTransactionsInput} {batch : PayoutBatchRecord}
    {records : List PayoutTransactionRecord}
    (h : SavesTransactions host env reads db input batch records db') :
    db.payouts.Signs input.payoutBatchId (signedById records) db'.payouts ∧
      db.payouts.SignedBy input (signedById records) := by
  have hplan := planSignedPayoutTransactions_eq_ok h.planned
  have hload := loadPayoutBatch_eq_some h.found
  have hmappings : ∀ mapping, mapping ∈ db'.payoutTransactionItems ↔
      mapping ∈ db.payoutTransactionItems ∨ ∃ record ∈ records, mapping ∈ record.items := by
    intro mapping
    rw [Table.mem_def, h.transactionItems, List.mem_append, List.mem_flatMap]
    rfl
  have howned : ∀ record ∈ records, ∀ mapping ∈ record.items,
      mapping.payoutTransactionId = record.id := by
    intro record hr mapping hm
    obtain ⟨transaction, -, hof⟩ := hplan.exists_transaction hr
    exact hof.owned mapping hm
  have hnone : ∀ record ∈ records, db.payoutTransactions.find? record.id = none :=
    fun record hr => Table.find?_eq_none.mpr fun row hrow => (h.newRows record hr row hrow).1
  refine hplan.signs ?_ ?_ ?_ ?_ ?_ ?_
  · rw [h.others]
    rfl
  · rw [h.others]
    rfl
  · intro id
    cases hold : db.payoutTransactions.find? id with
    | some row =>
        have hrow := Table.mem_of_find? hold
        have hid : row.id = id := Table.key_of_find? hold
        have hfind : db'.payoutTransactions.find? id = some row := by
          refine Table.find?_eq_some.mpr ⟨?_, hid⟩
          obtain ⟨rows, -, hrows⟩ := h.transactions
          rw [Table.mem_def, hrows]
          exact List.mem_append_left _ hrow
        -- the new mappings are not its own
        have hpays : db'.Pays row.id = db.Pays row.id := by
          funext i
          refine propext ⟨?_, ?_⟩
          · rintro ⟨mapping, hmapping, hmid, hi⟩
            rcases (hmappings mapping).mp hmapping with hmapping | ⟨record, hr, hm⟩
            · exact ⟨mapping, hmapping, hmid, hi⟩
            · exact absurd (hmid.symm.trans (howned record hr mapping hm))
                (h.newRows record hr row hrow).1
          · rintro ⟨mapping, hmapping, hrest⟩
            exact ⟨mapping, (hmappings mapping).mpr (.inl hmapping), hrest⟩
        rw [payouts_transaction_of_find hfind, payouts_transaction_of_find hold, Option.some_or,
          signedOf, hpays]
        rfl
    | none =>
        have hleft : db.payouts.transaction id = none := by simp [payouts, hold]
        rw [hleft, Option.none_or]
        cases hs : records.reverse.find? (fun record => record.id = id) with
        | some record =>
            have hr := List.mem_reverse.mp (List.mem_of_find?_eq_some hs)
            have hid := List.find?_some hs
            rw [decide_eq_true_eq] at hid
            obtain ⟨row, hrow, hrid, hb, hseq, hattempt, hstatus⟩ := h.exists_row hr
            have hfind : db'.payoutTransactions.find? id = some row :=
              Table.find?_eq_some.mpr ⟨hrow, hrid.trans hid⟩
            have hpays : db'.Pays row.id = fun i => record.covers i = true := by
              funext i
              refine propext ?_
              rw [PayoutTransactionRecord.covers, List.any_eq_true]
              constructor
              · rintro ⟨mapping, hmapping, hmid, hi⟩
                rcases (hmappings mapping).mp hmapping with hmapping | ⟨other, ho, hm⟩
                · obtain ⟨stored, hstored, hsid⟩ := hknown mapping hmapping
                  exact absurd (hsid.trans (hmid.trans hrid)) (h.newRows record hr stored hstored).1
                · have hsame : other = record := List.inj_on_of_nodup_map h.ids_nodup ho hr
                    ((howned other ho mapping hm).symm.trans (hmid.trans hrid))
                  exact ⟨mapping, hsame ▸ hm, by simpa using hi⟩
              · rintro ⟨mapping, hm, hi⟩
                exact ⟨mapping, (hmappings mapping).mpr (.inr ⟨record, hr, hm⟩),
                  (howned record hr mapping hm).trans hrid.symm, by simpa using hi⟩
            rw [payouts_transaction_of_find hfind, signedById, hs, Option.map_some, signedOf,
              hpays, hb, hseq, hattempt, hstatus]
            rfl
        | none =>
            have hfind : db'.payoutTransactions.find? id = none := by
              refine Table.find?_eq_none.mpr fun row hrow hid => ?_
              rcases h.row_cases hrow with hrow | ⟨record, hr, hrid⟩
              · exact Table.find?_eq_none.mp hold row hrow hid
              · have hno := List.find?_eq_none.mp hs record (List.mem_reverse.mpr hr)
                exact hno (by simpa using hrid.symm.trans hid)
            simp [payouts, hfind, signedById, hs]
  · intro record hr
    simp [payouts, hnone record hr]
  · intro record hr id u hu hb hseq
    obtain ⟨row, hfind, rfl⟩ := payouts_transaction_eq_some.mp hu
    exact (h.newRows record hr row (Table.mem_of_find? hfind)).2 hb hseq
  · exact fun i hi => hpersists input.payoutBatchId i ((hload.itemIds i).mpr hi)

/-- The status a rollup writes to a row is its own or that of an update of it. -/
theorem statusAfter_cases (updates : List PayoutBatchItemStatusUpdate) (row : PayoutItemRow) :
    statusAfter updates row = row.status ∨
      ∃ update ∈ updates, update.payoutItemId = row.id ∧
        update.status = statusAfter updates row := by
  have hfold : ∀ status : PayoutItemStatus,
      updates.foldl (fun status update =>
        if row.id = update.payoutItemId then update.status else status) status = status ∨
      ∃ update ∈ updates, update.payoutItemId = row.id ∧
        update.status = updates.foldl (fun status update =>
          if row.id = update.payoutItemId then update.status else status) status := by
    induction updates with
    | nil => exact fun _ => .inl rfl
    | cons update rest ih =>
        intro status
        rw [List.foldl_cons]
        rcases ih (if row.id = update.payoutItemId then update.status else status) with
          h | ⟨other, hother, hid, hstatus⟩
        · rw [h]
          by_cases hk : row.id = update.payoutItemId
          · rw [if_pos hk]
            exact .inr ⟨update, List.mem_cons_self, hk.symm, rfl⟩
          · exact .inl (if_neg hk)
        · exact .inr ⟨other, List.mem_cons_of_mem _ hother, hid, hstatus⟩
  exact hfold row.status

/-- The items of another batch are not updated. -/
theorem statusAfter_other {batchId : String} {batch : PayoutBatchRecord}
    {active : List PayoutTransactionRecord} {rollup : PayoutBatchTransactionItemRollup}
    (hload : LoadsBatch host db batchId batch) (hsum : Summary batch active rollup)
    {row : PayoutItemRow} (hrow : row ∈ db.payoutItems) (hb : row.payoutBatchId ≠ batchId) :
    statusAfter rollup.updatedItems row = row.status := by
  rcases statusAfter_cases rollup.updatedItems row with h | ⟨update, hupdate, hid, -⟩
  · exact h
  · obtain ⟨item, hitem, hitemId⟩ := hsum.ids update hupdate
    obtain ⟨s, other, hother, hob, hoid, -⟩ := (hload.itemIds item.id).mpr
      (List.mem_map_of_mem hitem)
    have hsame : other = row := Table.eq_of_key hother hrow (hoid.trans (hitemId.trans hid))
    exact absurd (hsame ▸ hob) hb

/-- Rolling up a batch with transactions is a rollup of the model. -/
theorem rollUp_move (hdistinct : db.payouts.Distinct) {payoutBatchId updatedAt : String}
    (hlist : db.listPayoutTransactions host payoutBatchId ≠ [])
    (h : db.rollUpPayoutBatchFinality host payoutBatchId updatedAt = .ok db') :
    (db' = db ∧ db.payouts.batch payoutBatchId = none) ∨
      db.payouts.RollsUp payoutBatchId db'.payouts := by
  rcases rollUpPayoutBatchFinality_eq_ok h with
    ⟨rfl, hnone | hnil⟩ | ⟨batch, rollup, updatedMs, hfound, hrollup, -, rfl⟩
  · exact .inl ⟨rfl, payouts_batch_eq_none.mpr hnone⟩
  · exact absurd hnil hlist
  · right
    have hload := loadPayoutBatch_eq_some hfound
    have hkey := hload.id
    subst hkey
    have hsum := summarize_summary hrollup
    obtain ⟨batchRow, hfind, -⟩ := hload.row
    have hitems := writeRollup_items db batch.id rollup updatedMs
    have hfindc : ∀ c, (db.writeRollup batch.id rollup updatedMs).payoutBatches.find? c =
        (db.payoutBatches.find? c).map (fun row =>
          if row.id = batch.id then
            { row with
              status := rollup.batchStatus
              failureCode := rollup.failureCode
              failureMessage := rollup.failureMessage
              updatedAt := updatedMs }
          else row) := by
      intro c
      refine Table.find?_of_map (fun row => ?_) ?_ c
      · split <;> rfl
      · rw [writeRollup, updateWhere_rows]
        refine List.map_congr_left fun row _ => ?_
        by_cases hk : row.id = batch.id <;> simp [hk]
    have hmem : ∀ c i s, (db.writeRollup batch.id rollup updatedMs).payouts.item c i s ↔
        ∃ row ∈ db.payoutItems, row.payoutBatchId = c ∧ row.id = i ∧
          statusAfter rollup.updatedItems row = s := by
      intro c i s
      constructor
      · rintro ⟨row, hrow, rfl, rfl, rfl⟩
        rw [Table.mem_def, hitems] at hrow
        obtain ⟨original, horiginal, rfl⟩ := List.mem_map.mp hrow
        exact ⟨original, horiginal, rfl, rfl, rfl⟩
      · rintro ⟨original, horiginal, rfl, rfl, rfl⟩
        refine ⟨{ original with status := statusAfter rollup.updatedItems original }, ?_,
          rfl, rfl, rfl⟩
        rw [Table.mem_def, hitems]
        exact List.mem_map_of_mem horiginal
    refine Payouts.rollsUp_of_summary hrollup (payouts_lists host db batch.id) hdistinct
      hload.item ?_ ?_ ?_ ?_ ?_
    · rw [writeRollup]
      rfl
    · intro c hc
      refine ⟨?_, ?_⟩
      · change ((db.writeRollup batch.id rollup updatedMs).payoutBatches.find? c).map _ =
          (db.payoutBatches.find? c).map _
        rw [hfindc c]
        cases hfc : db.payoutBatches.find? c with
        | none => rfl
        | some row =>
            have hne : row.id ≠ batch.id := (Table.key_of_find? hfc) ▸ hc
            simp [hne]
      · funext i s
        refine propext ?_
        rw [hmem]
        constructor
        · rintro ⟨row, hrow, hb, hid, hs⟩
          rw [statusAfter_other hload hsum hrow (hb ▸ hc)] at hs
          exact ⟨row, hrow, hb, hid, hs⟩
        · rintro ⟨row, hrow, hb, hid, hs⟩
          exact ⟨row, hrow, hb, hid,
            (statusAfter_other hload hsum hrow (hb ▸ hc)).trans hs⟩
    · have hfind' := hfindc batch.id
      rw [hfind, Option.map_some, if_pos (Table.key_of_find? hfind)] at hfind'
      rw [payouts_batch_of_find hfind']
    · intro i
      constructor
      · rintro ⟨s, hi⟩
        obtain ⟨row, hrow, hb, hid, -⟩ := (hmem _ _ _).mp hi
        exact ⟨row.status, row, hrow, hb, hid, rfl⟩
      · rintro ⟨s, row, hrow, hb, hid, -⟩
        exact ⟨_, (hmem _ _ _).mpr ⟨row, hrow, hb, hid, rfl⟩⟩
    · intro i s hi
      obtain ⟨row, hrow, hb, rfl, rfl⟩ := (hmem _ _ _).mp hi
      rcases statusAfter_cases rollup.updatedItems row with hs | hupdate
      · exact .inl ⟨row, hrow, hb, rfl, hs.symm⟩
      · exact .inr hupdate

/-- A changed transaction row that keeps its place is a transaction in a new status. -/
theorem payouts_changeTransaction {row : PayoutTransactionRow}
    {change : PayoutTransactionRow → PayoutTransactionRow}
    {hkey : ∀ row, (change row).id = row.id} {status : PayoutTransactionStatus}
    (hchange : ∀ row, db.signedOf (change row) = { db.signedOf row with status := status }) :
    (db.changeTransaction row.id change hkey).payouts = db.payouts.setStatus row.id status := by
  have hfind : ∀ id, (db.changeTransaction row.id change hkey).payoutTransactions.find? id =
      (db.payoutTransactions.find? id).map (fun r => if r.id = row.id then change r else r) := by
    intro id
    refine Table.find?_of_map (fun r => ?_) ?_ id
    · split
      · exact hkey r
      · rfl
    · rw [changeTransaction, updateWhere_rows]
      refine List.map_congr_left fun r _ => ?_
      by_cases hk : r.id = row.id <;> simp [hk]
  have htransaction : ∀ id, (db.changeTransaction row.id change hkey).payouts.transaction id =
      (db.payouts.setStatus row.id status).transaction id := by
    intro id
    change ((db.changeTransaction row.id change hkey).payoutTransactions.find? id).map
      db.signedOf = _
    rw [hfind, Payouts.setStatus]
    dsimp only [payouts]
    cases hf : db.payoutTransactions.find? id with
    | none => simp
    | some r =>
        have hid : r.id = id := Table.key_of_find? hf
        by_cases hk : id = row.id
        · simp [hid, hk, hchange]
        · simp [hid, hk]
  have hall : (db.changeTransaction row.id change hkey).payouts =
      { db.payouts with
        transaction := (db.changeTransaction row.id change hkey).payouts.transaction } := rfl
  rw [hall, funext htransaction]
  rfl

theorem mark_mappingsKnown (hknown : db.MappingsKnown) {row : PayoutTransactionRow}
    {change : PayoutTransactionRow → PayoutTransactionRow}
    {hkey : ∀ row, (change row).id = row.id} {at' : String}
    (h : MarksTransaction host db row change hkey at' db') : db'.MappingsKnown := by
  obtain ⟨rolled, hroll, events, rfl⟩ := h.rolledUp
  have hchanged : (db.changeTransaction row.id change hkey).MappingsKnown := by
    intro mapping hmapping
    obtain ⟨stored, hstored, hid⟩ := hknown mapping hmapping
    refine ⟨if stored.id = row.id then change stored else stored, ?_, ?_⟩
    · rw [Table.mem_def, changeTransaction, updateWhere_rows]
      exact List.mem_map.mpr ⟨stored, hstored, by by_cases hk : stored.id = row.id <;> simp [hk]⟩
    · split
      · exact (hkey stored).trans hid
      · exact hid
  rcases rollUpPayoutBatchFinality_eq_ok hroll with ⟨rfl, -⟩ | ⟨batch, rollup, updatedMs, -, -, -, rfl⟩
  · exact hchanged.congr rfl rfl
  · exact hchanged.congr rfl rfl

/-- A mark is a mark of the model. -/
theorem mark_move (hdistinct : db.payouts.Distinct) {row : PayoutTransactionRow}
    {change : PayoutTransactionRow → PayoutTransactionRow}
    {hkey : ∀ row, (change row).id = row.id} {at' : String} {status : PayoutTransactionStatus}
    (hchange : ∀ row, db.signedOf (change row) = { db.signedOf row with status := status })
    (h : MarksTransaction host db row change hkey at' db') :
    db.payouts.Marks row.id status true db'.payouts := by
  obtain ⟨rolled, hroll, hsame⟩ := h.rolledUp
  have hwritten := @payouts_changeTransaction db row change hkey status hchange
  refine ⟨db.signedOf row, payouts_transaction_of_find h.found, ?_⟩
  -- the marked transaction itself is listed
  have hlist : (db.changeTransaction row.id change hkey).listPayoutTransactions host
      row.payoutBatchId ≠ [] := by
    have hstored : (db.changeTransaction row.id change hkey).payouts.transaction row.id =
        some { db.signedOf row with status := status } := by
      rw [hwritten]
      exact Payouts.setStatus_transaction.mpr
        (.inr ⟨rfl, db.signedOf row, payouts_transaction_of_find h.found, rfl⟩)
    obtain ⟨record, hmem, -⟩ := (payouts_lists host _ row.payoutBatchId row.id _).mp ⟨hstored, rfl⟩
    exact List.ne_nil_of_mem hmem
  rw [hsame.payouts]
  rcases rollUp_move (hwritten ▸ hdistinct.setStatus _ _) hlist hroll with ⟨rfl, hnone⟩ | hrolls
  · rw [hwritten] at hnone ⊢
    exact .inl ⟨rfl, .inr hnone⟩
  · rw [hwritten] at hrolls
    exact .inr ⟨rfl, hrolls⟩

end Db

namespace Timeline

variable {timeline : Timeline}

/-! ## Calls -/

/-- What the moves of a run rely on. -/
structure PayoutsInv (timeline : Timeline) : Prop where
  distinct : timeline.current.payouts.Distinct
  itemsKnown : timeline.current.payouts.ItemsKnown
  mappingsKnown : timeline.current.MappingsKnown
  /-- an item a call has read is still there -/
  persists : ∀ db ∈ timeline.versions, ∀ b i, (∃ s, db.payouts.item b i s) →
    ∃ s, timeline.current.payouts.item b i s

/-- A transaction that leaves the four tables alone is no move. -/
theorem idle_move {db db' : Db} (hm : db.MappingsKnown) (hb : db'.payoutBatches = db.payoutBatches)
    (hi : db'.payoutItems = db.payoutItems) (ht : db'.payoutTransactions = db.payoutTransactions)
    (hmi : db'.payoutTransactionItems = db.payoutTransactionItems) {op : StoreOp} :
    ∃ move, (db.payouts.Step move db'.payouts ∧ db.payouts.Makes true op move) ∧
      db'.MappingsKnown :=
  ⟨.idle, ⟨Db.payouts_congr hb hi ht hmi, trivial⟩, hm.congr ht hmi⟩

/-- **Every SQL transaction is a move of the abstract model.** -/
theorem next_payouts (host : Host) {request : Request} (hinv : timeline.PayoutsInv)
    (hreads : request.reads ∈ timeline.versions) :
    ∃ move, (timeline.current.payouts.Step move (timeline.next host request).current.payouts ∧
      timeline.current.payouts.Makes true request.call.op move) ∧
      (timeline.next host request).current.MappingsKnown := by
  change ∃ move, (timeline.current.payouts.Step move
    (Db.next host request.reads timeline.current request.call).payouts ∧ _) ∧
    (Db.next host request.reads timeline.current request.call).MappingsKnown
  have hmappings := hinv.mappingsKnown
  rw [Db.next]
  split
  · rename_i db' hexec
    obtain ⟨reads, env, op⟩ := request
    cases op with
    | save snapshot =>
        have h := Db.save_eq_ok hexec
        exact idle_move hmappings (by rw [h.others]) (by rw [h.others]) (by rw [h.others])
          (by rw [h.others])
    | markReceiptChainVerified input =>
        obtain ⟨⟨result, db'⟩, hop, rfl⟩ := map_eq_ok.mp hexec
        rw [Db.markReceiptChainVerified] at hop
        obtain ⟨verifiedAt, -, hop⟩ := bind_eq_ok.mp hop
        rw [pure_eq_ok] at hop
        injection hop with hr hd
        subst hd
        exact idle_move hmappings rfl rfl rfl rfl
    | markReceiptChainRejected input =>
        rw [Db.exec, pure_eq_ok] at hexec
        subst hexec
        exact idle_move hmappings rfl rfl rfl rfl
    | createPayoutBatchFromAvailableAccruals input =>
        obtain ⟨⟨batch, db'⟩, hop, rfl⟩ := map_eq_ok.mp hexec
        have h := Db.createPayoutBatchFromAvailableAccruals_eq_ok hop
        exact ⟨.create batch.id, ⟨Db.create_move hinv.itemsKnown h, trivial⟩,
          hmappings.congr (by rw [h.others]) (by rw [h.others])⟩
    | releasePayoutBatchAllocations input =>
        obtain ⟨⟨result, db'⟩, hop, rfl⟩ := map_eq_ok.mp hexec
        rcases Db.releasePayoutBatchAllocations_eq_ok hop with ⟨-, -, rfl⟩ | ⟨batch, released, -, h⟩
        · exact idle_move hmappings rfl rfl rfl rfl
        · exact ⟨.release input.payoutBatchId, ⟨Db.release_move h, input, rfl, rfl⟩,
            hmappings.congr (by rw [h.others]) (by rw [h.others])⟩
    | saveSignedPayoutTransactions input =>
        obtain ⟨⟨records, db'⟩, hop, rfl⟩ := map_eq_ok.mp hexec
        obtain ⟨batch, h⟩ := Db.saveSignedPayoutTransactions_eq_ok hop
        obtain ⟨hsigns, hby⟩ := Db.save_move hmappings (hinv.persists reads hreads) h
        exact ⟨.sign input.payoutBatchId (signedById records),
          ⟨hsigns, input, rfl, rfl, hby⟩, Db.save_mappingsKnown hmappings h⟩
    | markPayoutTransactionSubmitted input =>
        obtain ⟨⟨result, db'⟩, hop, rfl⟩ := map_eq_ok.mp hexec
        rcases Db.markPayoutTransactionSubmitted_eq_ok hop with
          ⟨-, rfl⟩ | ⟨row, at', submittedMs, signature, hid, h⟩
        · exact idle_move hmappings rfl rfl rfl rfl
        · refine ⟨.mark row.id .submitted true,
            ⟨Db.mark_move hinv.distinct (fun _ => rfl) h, .inl ⟨input, rfl, hid, rfl, rfl⟩⟩,
            Db.mark_mappingsKnown hmappings h⟩
    | markPayoutTransactionFinality input =>
        obtain ⟨⟨result, db'⟩, hop, rfl⟩ := map_eq_ok.mp hexec
        rcases Db.markPayoutTransactionFinality_eq_ok hop with
          ⟨-, rfl⟩ | ⟨row, at', confirmedAt, finalizedAt, error, hid, hexpected, h⟩
        · exact idle_move hmappings rfl rfl rfl rfl
        · refine ⟨.mark row.id input.status.toStatus true,
            ⟨Db.mark_move hinv.distinct (fun _ => rfl) h,
              .inr ⟨input, rfl, hid, rfl, rfl, fun t ht expected he => ?_⟩⟩,
            Db.mark_mappingsKnown hmappings h⟩
          rw [Db.payouts_transaction_of_find h.found] at ht
          injection ht with ht
          subst ht
          rw [he, Option.all_some, decide_eq_true_eq] at hexpected
          exact hexpected
    | closeFinalizedPayoutBatchLedger input =>
        obtain ⟨⟨result, db'⟩, hop, rfl⟩ := map_eq_ok.mp hexec
        rcases Db.closeFinalizedPayoutBatchLedger_eq_ok hop with ⟨rfl, -⟩ | ⟨batch, t, -, h⟩
        · exact idle_move hmappings rfl rfl rfl rfl
        · exact idle_move hmappings (by rw [h.others]) (by rw [h.others]) (by rw [h.others])
            (by rw [h.others])
  · exact idle_move hmappings rfl rfl rfl rfl

theorem PayoutsInv.next (hinv : timeline.PayoutsInv) (host : Host) {request : Request}
    (hreads : request.reads ∈ timeline.versions) : (timeline.next host request).PayoutsInv := by
  obtain ⟨move, ⟨hstep, -⟩, hmappings⟩ := next_payouts host hinv hreads
  refine ⟨hstep.distinct hinv.distinct, hstep.itemsKnown hinv.itemsKnown, hmappings, ?_⟩
  intro db hdb b i hi
  rcases List.mem_cons.mp hdb with rfl | hdb
  · exact hi
  · exact hstep.keepsItem (hinv.persists db hdb b i hi)

/-- The invariant holds in every state of every run. -/
theorem reachable_payoutsInv {ok : Timeline → Request → Prop}
    (h : (system host).Reachable ok timeline) : timeline.PayoutsInv := by
  refine h.invariant ?_ ?_
  · rintro timeline ⟨merchants, wallets, rfl⟩
    refine ⟨?_, ?_, ?_, ?_⟩
    · intro id t ht
      cases ht
    · rintro b i s ⟨row, hrow, -⟩
      exact absurd hrow Table.not_mem_empty
    · exact fun mapping hmapping => absurd hmapping Table.not_mem_empty
    · intro db hdb
      rw [List.mem_singleton.mp hdb]
      exact fun _ _ hi => hi
  · rintro timeline request timeline' - hinv - ⟨hreads, -, rfl⟩
    exact hinv.next host hreads

end Timeline

end Split402

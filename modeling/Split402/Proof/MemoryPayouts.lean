import Split402.Proof.MemoryOps
import Split402.Proof.Rollup
import Split402.Store.Runs

/-! # The in-memory store moves like the abstract payouts

`Memory.payouts` forgets everything but the statuses and the signed transactions; `next_payouts`
says that every call is a move of the abstract model, and which. -/

namespace Split402.Memory

open Base

variable {host : Host} {env : CallEnv} {store store' : Memory}

/-! ## The abstraction -/

def payouts (store : Memory) : Payouts where
  batch b := (store.payoutBatchesById.find? b).map PayoutBatchRecord.status
  item b i s := ∃ batch, store.payoutBatchesById.find? b = some batch ∧
    ∃ item ∈ batch.items, item.id = i ∧ item.status = s
  transaction id := (store.payoutTransactionsById.find? id).map PayoutTransactionRecord.signed

theorem payouts_congr (hb : store'.payoutBatchesById = store.payoutBatchesById)
    (ht : store'.payoutTransactionsById = store.payoutTransactionsById) :
    store'.payouts = store.payouts := by
  simp [payouts, hb, ht]

theorem payouts_batch_eq_some {b : String} {s : PayoutBatchStatus} :
    store.payouts.batch b = some s ↔
      ∃ batch, store.payoutBatchesById.find? b = some batch ∧ batch.status = s := by
  simp [payouts]

theorem payouts_batch_of_find {b : String} {batch : PayoutBatchRecord}
    (h : store.payoutBatchesById.find? b = some batch) :
    store.payouts.batch b = some batch.status := payouts_batch_eq_some.mpr ⟨batch, h, rfl⟩

theorem payouts_batch_eq_none {b : String} :
    store.payouts.batch b = none ↔ store.payoutBatchesById.find? b = none := by
  simp [payouts]

theorem payouts_item_of_find {b : String} {batch : PayoutBatchRecord}
    (h : store.payoutBatchesById.find? b = some batch) {i : String} {s : PayoutItemStatus} :
    store.payouts.item b i s ↔ ∃ item ∈ batch.items, item.id = i ∧ item.status = s := by
  simp [payouts, h]

theorem payouts_itemIds_of_find {b : String} {batch : PayoutBatchRecord}
    (h : store.payoutBatchesById.find? b = some batch) {i : String} :
    (∃ s, store.payouts.item b i s) ↔ i ∈ batch.items.map PayoutItemRecord.id := by
  simp [payouts_item_of_find h]

theorem payouts_transaction_eq_some {id : String} {t : SignedTransaction} :
    store.payouts.transaction id = some t ↔
      ∃ record, store.payoutTransactionsById.find? id = some record ∧ record.signed = t := by
  simp [payouts]

theorem payouts_transaction_of_find {id : String} {record : PayoutTransactionRecord}
    (h : store.payoutTransactionsById.find? id = some record) :
    store.payouts.transaction id = some record.signed :=
  payouts_transaction_eq_some.mpr ⟨record, h, rfl⟩

/-- A written batch leaves the others as they were. -/
theorem payouts_upsert_other {batch : PayoutBatchRecord}
    (hb : store'.payoutBatchesById = store.payoutBatchesById.upsert batch) {c : String}
    (hc : c ≠ batch.id) :
    store'.payouts.batch c = store.payouts.batch c ∧
      store'.payouts.item c = store.payouts.item c := by
  have hfind : store'.payoutBatchesById.find? c = store.payoutBatchesById.find? c := by
    rw [hb, Table.find?_upsert, if_neg (Ne.symm hc)]
  simp [payouts, hfind]

theorem payouts_transaction_congr
    (ht : store'.payoutTransactionsById = store.payoutTransactionsById) :
    store'.payouts.transaction = store.payouts.transaction := by
  simp [payouts, ht]

/-- A written transaction that keeps its place is a transaction in a new status. -/
theorem payouts_setStatus {existing updated : PayoutTransactionRecord}
    {status : PayoutTransactionStatus} (hfind : store.payoutTransactionsById.find? existing.id =
      some existing) (hid : updated.id = existing.id)
    (hsigned : updated.signed = { existing.signed with status := status }) :
    ({ store with
      payoutTransactionsById := store.payoutTransactionsById.upsert updated } : Memory).payouts =
      store.payouts.setStatus existing.id status := by
  have htransaction : ∀ id, ((store.payoutTransactionsById.upsert updated).find? id).map
      PayoutTransactionRecord.signed = (store.payouts.setStatus existing.id status).transaction id := by
    intro id
    rw [Payouts.setStatus, Table.find?_upsert, hid]
    dsimp only
    by_cases hk : id = existing.id
    · subst hk
      rw [if_pos rfl, if_pos rfl, payouts_transaction_of_find hfind, Option.map_some,
        Option.map_some, hsigned]
    · rw [if_neg (Ne.symm hk), if_neg hk]
      rfl
  rw [Payouts.setStatus] at htransaction ⊢
  simp only [payouts, Payouts.mk.injEq, true_and]
  exact funext htransaction

/-- The listed transactions of a batch are the abstract ones. -/
theorem payouts_lists (host : Host) (store : Memory) (batchId : String) :
    store.payouts.Lists batchId (store.listPayoutTransactions host batchId) := by
  intro id t
  constructor
  · rintro ⟨hstored, hb⟩
    obtain ⟨record, hfind, rfl⟩ := payouts_transaction_eq_some.mp hstored
    exact ⟨record, mem_listPayoutTransactions.mpr ⟨Table.mem_of_find? hfind, hb⟩,
      Table.key_of_find? hfind, rfl⟩
  · rintro ⟨record, hmem, rfl, rfl⟩
    obtain ⟨hstored, hb⟩ := mem_listPayoutTransactions.mp hmem
    exact ⟨payouts_transaction_of_find (Table.find?_of_mem hstored), hb⟩

/-! ## Each operation is a move -/

theorem create_move {input : CreatePayoutBatchFromAvailableAccrualsInput}
    {batch : PayoutBatchRecord}
    (hfresh : store.payoutBatchesById.has (batchIdOrDrawn env input.batchId) = false)
    (h : store.createPayoutBatchFromAvailableAccruals host env input = .ok (batch, store')) :
    store.payouts.Creates batch.id store'.payouts := by
  obtain ⟨hid, hstatus, hitems, hbatches, htransactions⟩ :=
    createPayoutBatchFromAvailableAccruals_writes h
  have hfind : store'.payoutBatchesById.find? batch.id = some batch := by
    rw [hbatches, Table.find?_upsert, if_pos rfl]
  have hnone : store.payoutBatchesById.find? batch.id = none :=
    hid ▸ Table.find?_eq_none.mpr (Table.has_eq_false.mp hfresh)
  refine ⟨payouts_batch_eq_none.mpr hnone, ?_, ?_, ?_,
    fun c hc => payouts_upsert_other hbatches hc, payouts_transaction_congr htransactions⟩
  · rintro i s ⟨stored, hstored, -⟩
    rw [hnone] at hstored
    cases hstored
  · rw [payouts_batch_of_find hfind, hstatus]
  · intro i s hi
    obtain ⟨item, hitem, -, rfl⟩ := (payouts_item_of_find hfind).mp hi
    exact hitems item hitem

theorem release_move {input : ReleasePayoutBatchAllocationsInput}
    {batch released : PayoutBatchRecord} (h : ReleasesBatch host store input batch released store') :
    store.payouts.Releases input.payoutBatchId store'.payouts := by
  obtain ⟨message, updatedAt, hreleased⟩ := h.granted.released
  have hkey : batch.id = input.payoutBatchId := Table.key_of_find? h.found
  have hid : released.id = input.payoutBatchId := by rw [hreleased, released_id, hkey]
  have hbatches : store'.payoutBatchesById = store.payoutBatchesById.upsert released := by
    rw [h.writes, setAccrualStatus_batches]
  have htransactions : store'.payoutTransactionsById = store.payoutTransactionsById := by
    rw [h.writes, setAccrualStatus_transactions]
  have hfind : store'.payoutBatchesById.find? input.payoutBatchId = some released := by
    rw [hbatches, Table.find?_upsert, if_pos hid]
  have hothers : ∀ c, c ≠ input.payoutBatchId →
      store'.payouts.batch c = store.payouts.batch c ∧
        store'.payouts.item c = store.payouts.item c :=
    fun c hc => payouts_upsert_other hbatches (hid ▸ hc)
  refine ⟨?_, ?_, ?_, ?_, hothers, ?_, payouts_transaction_congr htransactions⟩
  · rw [payouts_batch_of_find h.found]
    intro hfinal
    injection hfinal with hfinal
    -- a finalized batch is neither releasable nor of unknown outcome
    rcases h.granted.status with hallowed | ⟨hunknown, -⟩
    · rw [hfinal] at hallowed
      cases hallowed
    · rw [hfinal] at hunknown
      cases hunknown
  · rw [payouts_batch_of_find h.found]
    exact Option.some_ne_none _
  · rw [payouts_batch_of_find hfind, hreleased, released_status]
  · intro i s hi
    obtain ⟨item, hitem, -, rfl⟩ := (payouts_item_of_find hfind).mp hi
    rw [hreleased, PayoutBatchRecord.released] at hitem
    obtain ⟨original, -, rfl⟩ := List.mem_map.mp hitem
    rfl
  · intro c i
    by_cases hc : c = input.payoutBatchId
    · subst hc
      rw [payouts_itemIds_of_find hfind, payouts_itemIds_of_find h.found, hreleased,
        PayoutBatchRecord.released, List.map_map]
      rfl
    · rw [(hothers c hc).2]

theorem save_move {input : SaveSignedPayoutTransactionsInput} {batch : PayoutBatchRecord}
    {records : List PayoutTransactionRecord}
    (h : SavesTransactions host env store input batch records store') :
    store.payouts.Signs input.payoutBatchId (signedById records) store'.payouts ∧
      store.payouts.SignedBy input (signedById records) := by
  have hbatches : store'.payoutBatchesById = store.payoutBatchesById := by rw [h.writes]
  have hnew : ∀ record ∈ records, store.payoutTransactionsById.find? record.id = none :=
    fun record hr => Table.find?_eq_none.mpr (h.newIds record hr)
  refine (planSignedPayoutTransactions_eq_ok h.planned).signs ?_ ?_ ?_ ?_ ?_ ?_
  · simp [payouts, hbatches]
  · simp [payouts, hbatches]
  · intro id
    have hfind : store'.payoutTransactionsById.find? id =
        (records.reverse.find? (fun record => record.id = id)).or
          (store.payoutTransactionsById.find? id) := by
      rw [h.writes]
      exact Table.find?_upsertAll
    change (store'.payoutTransactionsById.find? id).map _ = _
    rw [hfind]
    cases hs : records.reverse.find? (fun record => record.id = id) with
    | none => simp [payouts, signedById, hs]
    | some record =>
        -- a new record has a new id
        have hid := List.find?_some hs
        rw [decide_eq_true_eq] at hid
        have hnone := hnew record (List.mem_reverse.mp (List.mem_of_find?_eq_some hs))
        rw [hid] at hnone
        simp [payouts, signedById, hs, hnone]
  · intro record hr
    simp [payouts, hnew record hr]
  · intro record hr id u hu hb hseq
    obtain ⟨stored, hfind, rfl⟩ := payouts_transaction_eq_some.mp hu
    exact h.newAttempts record hr stored (Table.mem_of_find? hfind) hb hseq
  · exact fun i hi => (payouts_itemIds_of_find h.found).mpr hi

/-- Rolling up a batch with transactions is a rollup of the model. -/
theorem rollUp_move (host : Host) {store : Memory} (hdistinct : store.payouts.Distinct)
    {payoutBatchId : String} (updatedAt : String)
    (hlist : store.listPayoutTransactions host payoutBatchId ≠ []) :
    (store.rollUpPayoutBatchFinality host payoutBatchId updatedAt = store ∧
      store.payouts.batch payoutBatchId = none) ∨
    store.payouts.RollsUp payoutBatchId
      (store.rollUpPayoutBatchFinality host payoutBatchId updatedAt).payouts := by
  rcases rollUpPayoutBatchFinality_cases host store payoutBatchId updatedAt with
    ⟨h, hnone | hnil⟩ | ⟨batch, rollup, hfind, hrollup, h⟩
  · exact .inl ⟨h, payouts_batch_eq_none.mpr hnone⟩
  · exact absurd hnil hlist
  · right
    have hkey : batch.id = payoutBatchId := Table.key_of_find? hfind
    subst hkey
    rw [h]
    have hfind' : (store.payoutBatchesById.upsert (rolledUpBatch batch rollup updatedAt)).find?
        batch.id = some (rolledUpBatch batch rollup updatedAt) := by
      rw [Table.find?_upsert]
      exact if_pos rfl
    refine Payouts.rollsUp_of_summary hrollup (payouts_lists host store batch.id) hdistinct
      (fun i s => payouts_item_of_find hfind) rfl ?_ ?_ ?_ ?_
    · intro c hc
      exact @payouts_upsert_other store _ (rolledUpBatch batch rollup updatedAt) rfl c hc
    · rw [payouts_batch_of_find hfind']
      rfl
    · intro i
      rw [payouts_itemIds_of_find hfind', payouts_itemIds_of_find hfind, rolledUpBatch,
        List.map_map]
      rfl
    · intro i s hi
      obtain ⟨item, hitem, rfl, rfl⟩ := (payouts_item_of_find hfind').mp hi
      rw [rolledUpBatch] at hitem
      obtain ⟨original, horiginal, rfl⟩ := List.mem_map.mp hitem
      cases hupdate : rollup.updatedItems.find? (fun update =>
          update.payoutItemId = original.id) with
      | none =>
          exact .inl ((payouts_item_of_find hfind).mpr ⟨original, horiginal, rfl, rfl⟩)
      | some update =>
          have hid := List.find?_some hupdate
          exact .inr ⟨update, List.mem_of_find?_eq_some hupdate, by simpa using hid, rfl⟩

theorem submitted_move {existing : PayoutTransactionRecord}
    (hfind : store.payoutTransactionsById.find? existing.id = some existing)
    (signature submittedAt : Option String) :
    store.payouts.Marks existing.id .submitted false
      ({ store with
        payoutTransactionsById := store.payoutTransactionsById.upsert { existing with
          status := .submitted
          expectedSignature := signature
          submittedAt := submittedAt } } : Memory).payouts := by
  refine ⟨existing.signed, payouts_transaction_of_find hfind, .inl ⟨?_, .inl rfl⟩⟩
  exact payouts_setStatus hfind rfl rfl

theorem finality_move (host : Host) (hdistinct : store.payouts.Distinct)
    {existing : PayoutTransactionRecord} (input : MarkPayoutTransactionFinalityInput)
    (observedAt : String)
    (hfind : store.payoutTransactionsById.find? existing.id = some existing) :
    store.payouts.Marks existing.id input.status.toStatus true
      (({ store with
        payoutTransactionsById := store.payoutTransactionsById.upsert
          (finalityTransaction existing input observedAt) } : Memory).rollUpPayoutBatchFinality host
            existing.payoutBatchId observedAt).payouts := by
  have hwritten : ({ store with
      payoutTransactionsById := store.payoutTransactionsById.upsert
        (finalityTransaction existing input observedAt) } : Memory).payouts =
      store.payouts.setStatus existing.id input.status.toStatus := payouts_setStatus hfind rfl rfl
  refine ⟨existing.signed, payouts_transaction_of_find hfind, ?_⟩
  -- the marked transaction itself is listed
  have hlist : ({ store with
      payoutTransactionsById := store.payoutTransactionsById.upsert
        (finalityTransaction existing input observedAt) } : Memory).listPayoutTransactions host
          existing.payoutBatchId ≠ [] := by
    refine List.ne_nil_of_mem (mem_listPayoutTransactions.mpr
      ⟨Table.mem_upsert.mpr (.inl rfl), rfl⟩)
  rcases rollUp_move host (hwritten ▸ hdistinct.setStatus _ _) observedAt hlist with
    ⟨h, hnone⟩ | h
  · rw [h]
    exact .inl ⟨hwritten, .inr hnone⟩
  · rw [hwritten] at h
    exact .inr ⟨rfl, h⟩

/-! ## Calls -/

/-- **Every call is a move of the abstract model.** -/
theorem next_payouts (host : Host) (hdistinct : store.payouts.Distinct) {call : StoreCall}
    (hfresh : store.fresh call = true) :
    ∃ move, store.payouts.Step move (store.next host call).payouts ∧
      store.payouts.Makes false call.op move := by
  rw [next]
  split
  · rename_i store' hexec
    obtain ⟨env, op⟩ := call
    cases op with
    | save snapshot =>
        rw [exec, pure_eq_ok] at hexec
        exact ⟨.idle, hexec ▸ payouts_congr (save_batches _) (save_transactions _), trivial⟩
    | markReceiptChainVerified input =>
        rw [exec, pure_eq_ok] at hexec
        subst hexec
        rw [markReceiptChainVerified]
        split
        · exact ⟨.idle, rfl, trivial⟩
        · exact ⟨.idle, payouts_congr (save_batches _) (save_transactions _), trivial⟩
    | markReceiptChainRejected input =>
        rw [exec, pure_eq_ok] at hexec
        subst hexec
        rw [markReceiptChainRejected]
        split
        · exact ⟨.idle, rfl, trivial⟩
        · exact ⟨.idle, payouts_congr (save_batches _) (save_transactions _), trivial⟩
    | createPayoutBatchFromAvailableAccruals input =>
        obtain ⟨⟨batch, store'⟩, hop, rfl⟩ := map_eq_ok.mp hexec
        have hnew : store.payoutBatchesById.has (batchIdOrDrawn env input.batchId) = false := by
          simpa [fresh] using hfresh
        exact ⟨.create batch.id, create_move hnew hop, trivial⟩
    | releasePayoutBatchAllocations input =>
        obtain ⟨⟨result, store'⟩, hop, rfl⟩ := map_eq_ok.mp hexec
        rcases releasePayoutBatchAllocations_eq_ok hop with ⟨-, -, rfl⟩ | ⟨batch, released, -, h⟩
        · exact ⟨.idle, rfl, trivial⟩
        · exact ⟨.release input.payoutBatchId, release_move h, input, rfl, rfl⟩
    | saveSignedPayoutTransactions input =>
        obtain ⟨⟨records, store'⟩, hop, rfl⟩ := map_eq_ok.mp hexec
        obtain ⟨batch, h⟩ := saveSignedPayoutTransactions_eq_ok hop
        obtain ⟨hsigns, hby⟩ := save_move h
        exact ⟨.sign input.payoutBatchId (signedById records), hsigns, input, rfl, rfl, hby⟩
    | markPayoutTransactionSubmitted input =>
        obtain ⟨⟨result, store'⟩, hop, rfl⟩ := map_eq_ok.mp hexec
        rcases markPayoutTransactionSubmitted_eq_ok hop with
          ⟨-, rfl⟩ | ⟨existing, submittedAt, hfind, rfl⟩
        · exact ⟨.idle, rfl, trivial⟩
        · have hid : existing.id = input.id := Table.key_of_find? hfind
          rw [← hid] at hfind
          exact ⟨.mark existing.id .submitted false, submitted_move hfind _ _,
            .inl ⟨input, rfl, hid, rfl, rfl⟩⟩
    | markPayoutTransactionFinality input =>
        obtain ⟨⟨result, store'⟩, hop, rfl⟩ := map_eq_ok.mp hexec
        rcases markPayoutTransactionFinality_eq_ok hop with
          ⟨-, rfl⟩ | ⟨existing, observedAt, -, hfind, hadmits, rfl⟩
        · exact ⟨.idle, rfl, trivial⟩
        · have hid : existing.id = input.id := Table.key_of_find? hfind
          rw [← hid] at hfind
          refine ⟨.mark existing.id input.status.toStatus true, finality_move host hdistinct input observedAt hfind,
            .inr ⟨input, rfl, hid, rfl, rfl, fun t ht expected hexpected => ?_⟩⟩
          rw [payouts_transaction_of_find hfind] at ht
          injection ht with ht
          subst ht
          rw [MarkPayoutTransactionFinalityInput.admits, hexpected, Option.all_some,
            beq_iff_eq] at hadmits
          exact hadmits
    | closeFinalizedPayoutBatchLedger input =>
        obtain ⟨⟨result, store'⟩, hop, rfl⟩ := map_eq_ok.mp hexec
        rcases closeFinalizedPayoutBatchLedger_eq_ok hop with ⟨rfl, -⟩ | ⟨batch, t, -, h⟩
        · exact ⟨.idle, rfl, trivial⟩
        · refine ⟨.idle, ?_, trivial⟩
          rw [h.writes]
          exact payouts_congr (setAccrualStatus_batches _ _) (setAccrualStatus_transactions _ _)
  · exact ⟨.idle, rfl, trivial⟩

/-- In a reachable store the transactions of a batch have different places. -/
theorem reachable_distinct {ok : Memory → StoreCall → Prop}
    (h : (system host).Reachable ok store) : store.payouts.Distinct := by
  refine System.Reachable.invariant (P := fun store => store.payouts.Distinct) h ?_ ?_
  · rintro store rfl id t ht
    cases ht
  · rintro store call store' - hdistinct - ⟨hfresh, rfl⟩
    obtain ⟨move, hstep, -⟩ := next_payouts host hdistinct hfresh
    exact hstep.distinct hdistinct

end Split402.Memory

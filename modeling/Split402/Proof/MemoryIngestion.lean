import Split402.Proof.ExactlyOnce
import Split402.Proof.MemoryOps

/-! # Ingestion over the in-memory store

The save of the in-memory store checks nothing, so what a call found when it looked for conflicts
has to hold still when it saves. A call relies on that: as long as none of its keys is stored, or
one it has still to look up is (`Clear`), no receipt is stored twice and none is replaced. -/

namespace Split402

open Base Base.Async

/-! ## What stays of a stored receipt -/

/-- The snapshot is still there: but for the states of its receipt and accrual, nothing has changed,
and an accrual that has left `pending_chain_verification` has not come back to it. -/
structure ReceiptIngestionSnapshot.Keeps (row row' : ReceiptIngestionSnapshot) : Prop where
  keys : row'.keys = row.keys
  receipt : row'.receipt.receipt = row.receipt.receipt
  ledgerTransaction : row'.ledgerTransaction = row.ledgerTransaction
  accrual : ∀ accrual, row.accrual = some accrual → ∃ accrual', row'.accrual = some accrual' ∧
    accrual'.id = accrual.id ∧ accrual'.payoutWallet = accrual.payoutWallet ∧
    accrual'.amountAtomic = accrual.amountAtomic ∧
    (accrual.status ≠ .pendingChainVerification → accrual'.status ≠ .pendingChainVerification)

namespace ReceiptIngestionSnapshot.Keeps

variable {row row' row'' : ReceiptIngestionSnapshot}

theorem refl (row : ReceiptIngestionSnapshot) : row.Keeps row :=
  ⟨rfl, rfl, rfl, fun accrual h => ⟨accrual, h, rfl, rfl, rfl, id⟩⟩

theorem trans (h : row.Keeps row') (h' : row'.Keeps row'') : row.Keeps row'' := by
  refine ⟨h'.keys.trans h.keys, h'.receipt.trans h.receipt,
    h'.ledgerTransaction.trans h.ledgerTransaction, ?_⟩
  intro accrual haccrual
  obtain ⟨accrual', haccrual', hid, hwallet, hamount, hstatus⟩ := h.accrual accrual haccrual
  obtain ⟨accrual'', haccrual'', hid', hwallet', hamount', hstatus'⟩ :=
    h'.accrual accrual' haccrual'
  exact ⟨accrual'', haccrual'', hid'.trans hid, hwallet'.trans hwallet, hamount'.trans hamount,
    fun hs => hstatus' (hstatus hs)⟩

theorem withAccrualStatus (row : ReceiptIngestionSnapshot) {status : AccrualStatus}
    (h : status ≠ .pendingChainVerification) : row.Keeps (row.withAccrualStatus status) := by
  refine ⟨rfl, rfl, rfl, ?_⟩
  intro accrual haccrual
  exact ⟨{ accrual with status := status }, by simp [ReceiptIngestionSnapshot.withAccrualStatus,
    haccrual], rfl, rfl, rfl, fun _ => h⟩

theorem verified (row : ReceiptIngestionSnapshot) (verifiedAt : String) :
    row.Keeps (Memory.verifiedSnapshot row verifiedAt) := by
  refine ⟨rfl, rfl, rfl, ?_⟩
  intro accrual haccrual
  refine ⟨_, congrArg (Option.map _) haccrual, ?_⟩
  dsimp only
  split
  · exact ⟨rfl, rfl, rfl, fun _ h => nomatch h⟩
  · exact ⟨rfl, rfl, rfl, id⟩

theorem rejected (row : ReceiptIngestionSnapshot) (reason : String) :
    row.Keeps (Memory.rejectedSnapshot row reason) := by
  refine ⟨rfl, rfl, rfl, ?_⟩
  intro accrual haccrual
  refine ⟨_, congrArg (Option.map _) haccrual, ?_⟩
  dsimp only
  split
  · exact ⟨rfl, rfl, rfl, fun _ h => nomatch h⟩
  · exact ⟨rfl, rfl, rfl, id⟩

end ReceiptIngestionSnapshot.Keeps

namespace Memory

variable {host : Host} {store store' : Memory} {snapshot : ReceiptIngestionSnapshot}

/-! ## The indexes -/

/-- Every stored receipt is found under its payment id and its settlement signature. -/
structure Indexed (store : Memory) : Prop where
  payment : ∀ row ∈ store.receiptsById, store.receiptIdByPaymentId.find?
    row.receipt.receipt.paymentId = some (row.receipt.receipt.paymentId, row.receipt.id)
  settlement : ∀ row ∈ store.receiptsById, store.receiptIdBySettlementTx.find?
    row.receipt.receipt.settlementTxSignature =
      some (row.receipt.receipt.settlementTxSignature, row.receipt.id)

theorem Indexed.eq_of_payment (h : Indexed store) {row row' : ReceiptIngestionSnapshot}
    (hrow : row ∈ store.receiptsById) (hrow' : row' ∈ store.receiptsById)
    (heq : row.receipt.receipt.paymentId = row'.receipt.receipt.paymentId) : row = row' := by
  have hfind := h.payment row hrow
  rw [heq, h.payment row' hrow', Option.some.injEq, Prod.mk.injEq] at hfind
  exact Table.eq_of_key hrow hrow' hfind.2.symm

theorem Indexed.eq_of_settlement (h : Indexed store) {row row' : ReceiptIngestionSnapshot}
    (hrow : row ∈ store.receiptsById) (hrow' : row' ∈ store.receiptsById)
    (heq : row.receipt.receipt.settlementTxSignature = row'.receipt.receipt.settlementTxSignature) :
    row = row' := by
  have hfind := h.settlement row hrow
  rw [heq, h.settlement row' hrow', Option.some.injEq, Prod.mk.injEq] at hfind
  exact Table.eq_of_key hrow hrow' hfind.2.symm

/-- A save keeps the indexes when the receipts of other ids have other keys. -/
theorem Indexed.save (h : Indexed store)
    (hothers : ∀ row ∈ store.receiptsById, row.receipt.id ≠ snapshot.receipt.id →
      snapshot.receipt.receipt.paymentId ≠ row.receipt.receipt.paymentId ∧
        snapshot.receipt.receipt.settlementTxSignature ≠
          row.receipt.receipt.settlementTxSignature) : Indexed (store.save snapshot) := by
  refine ⟨?_, ?_⟩
  · intro row hrow
    show (store.receiptIdByPaymentId.upsert _).find? _ = _
    rw [Table.find?_upsert]
    rcases Table.mem_upsert.mp hrow with rfl | ⟨hrow, hne⟩
    · exact if_pos rfl
    · rw [if_neg (hothers row hrow hne).1]
      exact h.payment row hrow
  · intro row hrow
    show (store.receiptIdBySettlementTx.upsert _).find? _ = _
    rw [Table.find?_upsert]
    rcases Table.mem_upsert.mp hrow with rfl | ⟨hrow, hne⟩
    · exact if_pos rfl
    · rw [if_neg (hothers row hrow hne).2]
      exact h.settlement row hrow

/-- Writing back a stored receipt in another state keeps the indexes. -/
theorem Indexed.save_back (h : Indexed store) {row : ReceiptIngestionSnapshot}
    (hrow : row ∈ store.receiptsById) (hkeys : snapshot.keys = row.keys) :
    Indexed (store.save snapshot) := by
  have hid : snapshot.receipt.id = row.receipt.id := congrArg ReceiptKeys.receiptId hkeys
  have hpayment := congrArg ReceiptKeys.paymentId hkeys
  have hsettlement := congrArg ReceiptKeys.settlementTxSignature hkeys
  refine h.save fun other hother hne => ⟨?_, ?_⟩
  · intro heq
    refine hne ?_
    rw [hid, h.eq_of_payment hother hrow (heq.symm.trans hpayment)]
  · intro heq
    refine hne ?_
    rw [hid, h.eq_of_settlement hother hrow (heq.symm.trans hsettlement)]

theorem Indexed.foldl_save {snapshots : List ReceiptIngestionSnapshot} (h : Indexed store)
    (hrows : ∀ snapshot ∈ snapshots, ∃ row ∈ store.receiptsById, snapshot.keys = row.keys) :
    Indexed (snapshots.foldl Memory.save store) := by
  induction snapshots generalizing store with
  | nil => exact h
  | cons snapshot snapshots ih =>
      obtain ⟨row, hrow, hkeys⟩ := hrows snapshot List.mem_cons_self
      refine ih (h.save_back hrow hkeys) ?_
      intro other hother
      obtain ⟨row', hrow', hkeys'⟩ := hrows other (List.mem_cons_of_mem _ hother)
      by_cases hid : row'.receipt.id = snapshot.receipt.id
      · -- the row just written
        have hsame : row'.receipt.id = row.receipt.id :=
          hid.trans (congrArg ReceiptKeys.receiptId hkeys)
        refine ⟨snapshot, Table.mem_upsert.mpr (.inl rfl), ?_⟩
        rw [hkeys', Table.eq_of_key hrow' hrow hsame, hkeys]
      · exact ⟨row', Table.mem_upsert.mpr (.inr ⟨hrow', hid⟩), hkeys'⟩

theorem Indexed.setAccrualStatus (h : Indexed store) (select : CommissionAccrual → Bool)
    (status : AccrualStatus) : Indexed (store.setAccrualStatus select status) := by
  refine h.foldl_save ?_
  intro snapshot hsnapshot
  obtain ⟨row, hrow, rfl⟩ := List.mem_map.mp hsnapshot
  exact ⟨row, (List.mem_filter.mp hrow).1, rfl⟩

/-! ## What an operation does to the stored receipts -/

/-- The store afterwards has the same receipts, in other states. -/
structure Kept (store store' : Memory) : Prop where
  indexed : Indexed store → Indexed store'
  rows : ∃ f : ReceiptIngestionSnapshot → ReceiptIngestionSnapshot,
    store'.receiptsById.rows = store.receiptsById.rows.map f ∧
      ∀ row ∈ store.receiptsById, row.Keeps (f row)

theorem Kept.of_receipts (h : store'.receiptsById = store.receiptsById)
    (hpayment : store'.receiptIdByPaymentId = store.receiptIdByPaymentId)
    (hsettlement : store'.receiptIdBySettlementTx = store.receiptIdBySettlementTx) :
    Kept store store' := by
  refine ⟨?_, id, ?_, ?_⟩
  · intro hindexed
    refine ⟨?_, ?_⟩
    · rw [h, hpayment]
      exact hindexed.payment
    · rw [h, hsettlement]
      exact hindexed.settlement
  · rw [h, List.map_id]
  · exact fun row _ => .refl row

theorem Kept.setAccrualStatus (store : Memory) (select : CommissionAccrual → Bool)
    (status : AccrualStatus) (h : status ≠ .pendingChainVerification) :
    Kept store (store.setAccrualStatus select status) := by
  refine ⟨fun hindexed => hindexed.setAccrualStatus select status, _,
    setAccrualStatus_rows select status, ?_⟩
  intro row _
  split
  · exact .withAccrualStatus row h
  · exact .refl row

/-- Writing back one receipt in another state. -/
theorem Kept.save_back {row : ReceiptIngestionSnapshot} (hrow : row ∈ store.receiptsById)
    {change : ReceiptIngestionSnapshot → ReceiptIngestionSnapshot}
    (h : ∀ row : ReceiptIngestionSnapshot, row.Keeps (change row)) : Kept store (store.save (change row)) := by
  refine ⟨fun hindexed => hindexed.save_back hrow (h row).keys, _,
    Table.rows_upsert_of_mem hrow (congrArg ReceiptKeys.receiptId (h row).keys), ?_⟩
  intro other _
  split
  · exact h other
  · exact .refl other

theorem createPayoutBatchFromAvailableAccruals_kept {env : CallEnv}
    {input : CreatePayoutBatchFromAvailableAccrualsInput} {batch : PayoutBatchRecord}
    (h : store.createPayoutBatchFromAvailableAccruals host env input = .ok (batch, store')) :
    Kept store store' := by
  rw [createPayoutBatchFromAvailableAccruals] at h
  obtain ⟨accruals, -, h⟩ := bind_eq_ok.mp h
  rw [createPayoutBatch] at h
  obtain ⟨plan, -, h⟩ := bind_eq_ok.mp h
  dsimp only at h
  split at h
  · exact absurd h throw_ne_ok
  split at h
  · exact absurd h throw_ne_ok
  rw [pure_eq_ok] at h
  injection h with _ hs
  subst hs
  obtain ⟨hindexed, hrows⟩ := Kept.setAccrualStatus store
    (fun accrual => accrual.id ∈ plan.accrualIds.dedup) .allocated (by decide)
  exact ⟨fun h => ⟨(hindexed h).payment, (hindexed h).settlement⟩, hrows⟩

/-- **Every operation but a save keeps the stored receipts.** -/
theorem exec_kept {call : StoreCall} (hsave : call.op.isSave = false)
    (h : store.exec host call = .ok store') : Kept store store' := by
  obtain ⟨env, op⟩ := call
  cases op with
  | save snapshot => cases hsave
  | markReceiptChainVerified input =>
      rw [exec, pure_eq_ok] at h
      subst h
      rw [markReceiptChainVerified]
      cases hfind : store.getByReceiptId input.receiptId with
      | none => exact .of_receipts rfl rfl rfl
      | some snapshot =>
          exact .save_back (Table.mem_of_find? hfind) fun row => .verified row input.verifiedAt
  | markReceiptChainRejected input =>
      rw [exec, pure_eq_ok] at h
      subst h
      rw [markReceiptChainRejected]
      cases hfind : store.getByReceiptId input.receiptId with
      | none => exact .of_receipts rfl rfl rfl
      | some snapshot =>
          exact .save_back (Table.mem_of_find? hfind) fun row => .rejected row input.reason
  | createPayoutBatchFromAvailableAccruals input =>
      obtain ⟨⟨batch, made⟩, hmade, rfl⟩ := map_eq_ok.mp h
      exact createPayoutBatchFromAvailableAccruals_kept hmade
  | releasePayoutBatchAllocations input =>
      obtain ⟨⟨result, made⟩, hmade, rfl⟩ := map_eq_ok.mp h
      rcases releasePayoutBatchAllocations_eq_ok hmade with ⟨-, -, rfl⟩ | ⟨batch, released, -, hreleases⟩
      · exact .of_receipts rfl rfl rfl
      · obtain ⟨hindexed, hrows⟩ := Kept.setAccrualStatus
          { store with payoutBatchesById := store.payoutBatchesById.upsert released }
          (fun accrual => accrual.status = .allocated && accrual.id ∈ released.accrualIds)
          .available (by decide)
        rw [hreleases.writes]
        exact ⟨fun h => hindexed ⟨h.payment, h.settlement⟩, hrows⟩
  | saveSignedPayoutTransactions input =>
      obtain ⟨⟨records, made⟩, hmade, rfl⟩ := map_eq_ok.mp h
      obtain ⟨batch, hsaves⟩ := saveSignedPayoutTransactions_eq_ok hmade
      rw [hsaves.writes]
      exact .of_receipts rfl rfl rfl
  | markPayoutTransactionSubmitted input =>
      obtain ⟨⟨result, made⟩, hmade, rfl⟩ := map_eq_ok.mp h
      rcases markPayoutTransactionSubmitted_eq_ok hmade with ⟨-, rfl⟩ | ⟨_, _, -, rfl⟩
      · exact .of_receipts rfl rfl rfl
      · exact .of_receipts rfl rfl rfl
  | markPayoutTransactionFinality input =>
      obtain ⟨⟨result, made⟩, hmade, rfl⟩ := map_eq_ok.mp h
      rcases markPayoutTransactionFinality_eq_ok hmade with ⟨-, rfl⟩ | ⟨_, _, -, -, -, rfl⟩
      · exact .of_receipts rfl rfl rfl
      · rw [rollUpPayoutBatchFinality]
        split
        · exact .of_receipts rfl rfl rfl
        · split <;> exact .of_receipts rfl rfl rfl
  | closeFinalizedPayoutBatchLedger input =>
      obtain ⟨⟨result, made⟩, hmade, rfl⟩ := map_eq_ok.mp h
      rcases closeFinalizedPayoutBatchLedger_eq_ok hmade with ⟨rfl, -⟩ | ⟨batch, transaction, -, hcloses⟩
      · exact .of_receipts rfl rfl rfl
      · obtain ⟨hindexed, hrows⟩ := Kept.setAccrualStatus
          { store with payoutLedgerTransactionsByBatchId :=
              store.payoutLedgerTransactionsByBatchId.upsert transaction }
          (fun accrual => accrual.status = .allocated && accrual.id ∈ batch.finalizedAccrualIds)
          .paid (by decide)
        rw [hcloses.writes]
        exact ⟨fun h => hindexed ⟨h.payment, h.settlement⟩, hrows⟩

/-! ## Lookups that find nothing -/

theorem getByReceiptId_eq_none {receiptId : String} (h : store.getByReceiptId receiptId = none) :
    ∀ row ∈ store.receiptsById, row.keys.get .receiptId ≠ receiptId :=
  Table.find?_eq_none.mp h

theorem getByPaymentId_eq_none (hindexed : Indexed store) {paymentId : String}
    (h : store.getByPaymentId paymentId = none) :
    ∀ row ∈ store.receiptsById, row.keys.get .paymentId ≠ paymentId := by
  intro row hrow heq
  have heq : row.receipt.receipt.paymentId = paymentId := heq
  subst heq
  rw [getByPaymentId, hindexed.payment row hrow, Option.bind_some] at h
  exact Table.find?_eq_none.mp h row hrow rfl

theorem getBySettlementTxSignature_eq_none (hindexed : Indexed store) {signature : String}
    (h : store.getBySettlementTxSignature signature = none) :
    ∀ row ∈ store.receiptsById, row.keys.get .settlementTxSignature ≠ signature := by
  intro row hrow heq
  have heq : row.receipt.receipt.settlementTxSignature = signature := heq
  subst heq
  rw [getBySettlementTxSignature, hindexed.settlement row hrow, Option.bind_some] at h
  exact Table.find?_eq_none.mp h row hrow rfl

/-- No stored receipt has a key in common with the snapshot. -/
def New (store : Memory) (snapshot : ReceiptIngestionSnapshot) : Prop :=
  ∀ row ∈ store.receiptsById, ∀ key ∈ ReceiptIngestor.conflictKeys,
    row.keys.get key ≠ snapshot.keys.get key

theorem New.rows (h : store.New snapshot) :
    (store.save snapshot).receiptsById.rows = store.receiptsById.rows ++ [snapshot] :=
  Table.rows_upsert_of_new fun row hrow => h row hrow .receiptId (by decide)

theorem New.indexed (h : store.New snapshot) (hindexed : Indexed store) :
    Indexed (store.save snapshot) := by
  refine hindexed.save fun row hrow _ => ⟨?_, ?_⟩
  · exact (h row hrow .paymentId (by decide)).symm
  · exact (h row hrow .settlementTxSignature (by decide)).symm

end Memory

namespace ReceiptIngestor

variable {ν : Type} (ingestor : ReceiptIngestor ν)

/-! ## One call -/

/-- The call will not save a receipt that is stored already: if its own checks let it through, it
finds one of its keys among those it has still to look up, or no stored receipt has its keys. -/
def Clear (call : IngestCall) (remaining : List ReceiptKey) (store : Memory) : Prop :=
  ∀ mine, ingestor.callKeys call = some mine → ingestor.passes call = true →
    (∃ row ∈ store.receiptsById, ∃ key ∈ remaining, row.keys.get key = mine.get key) ∨
      ∀ row ∈ store.receiptsById, ∀ key ∈ conflictKeys, row.keys.get key ≠ mine.get key

/-- What a call over the in-memory store relies on. -/
def ReliesOnMemory (call : IngestCall) (o : Option Op) (s t : Memory) : Prop :=
  ∀ op, o = some op → ingestor.Clear call op.remaining s → ingestor.Clear call op.remaining t

/-- What a call sees to: it saves a receipt only when none of its keys is stored. -/
def SavesNew (store : Memory) : Op → Prop
  | .save snapshot => store.New snapshot
  | _ => True

/-- A program that sees to it. -/
abbrev MeetsMemory (call : IngestCall) {α : Type} (p : Await α) (s : Memory) : Prop :=
  Meets (fun call s op t answer => serveMemory call s op = (t, answer)) Memory.Indexed
    (ReliesOnMemory ingestor) (fun _ => SavesNew) call (fun _ _ => True) p s

variable {ingestor} {call : IngestCall} {s : Memory}

theorem clear_start (call : IngestCall) (store : Memory) :
    ingestor.Clear call conflictKeys store := by
  intro mine _ _
  by_cases h : ∃ row ∈ store.receiptsById, ∃ key ∈ conflictKeys, row.keys.get key = mine.get key
  · exact .inl h
  · right
    intro row hrow key hkey heq
    exact h ⟨row, hrow, key, hkey, heq⟩

/-- A lookup that finds nothing leaves the other keys. -/
theorem Clear.looked {key : ReceiptKey} {remaining : List ReceiptKey} {mine : ReceiptKeys}
    (h : ingestor.Clear call (key :: remaining) s) (hmine : ingestor.callKeys call = some mine)
    (hnone : ∀ row ∈ s.receiptsById, row.keys.get key ≠ mine.get key) :
    ingestor.Clear call remaining s := by
  intro mine' hmine' hpasses
  obtain rfl : mine' = mine := Option.some.inj (hmine'.symm.trans hmine)
  rcases h mine' hmine' hpasses with ⟨row, hrow, other, hother, heq⟩ | hfree
  · rcases List.mem_cons.mp hother with rfl | hother
    · exact absurd heq (hnone row hrow)
    · exact .inl ⟨row, hrow, other, hother, heq⟩
  · exact .inr hfree

theorem meetsMemory_done {α : Type} (result : Except PayoutError α) :
    MeetsMemory ingestor call (.done result) s := .done trivial

theorem meetsMemory_ofExcept_bind {α : Type} {result : Except PayoutError α}
    {next : α → Await ReceiptIngestResult}
    (h : ∀ a, result = .ok a → MeetsMemory ingestor call (next a) s) :
    MeetsMemory ingestor call (Await.ofExcept result >>= next) s := by
  cases result with
  | ok a => exact h a rfl
  | error e => exact .done trivial

/-- The rule of an await that is not a save: what is clear before it is clear when it is served. -/
theorem meetsMemory_call_bind {α : Type} {op : Op} (hop : op.isSave = false)
    {next : op.Answer → Await α} (hclear : ingestor.Clear call op.remaining s)
    (h : ∀ t a, Memory.Indexed t → ingestor.Clear call op.remaining t →
      (serveMemory call t op).2 = .ok a → MeetsMemory ingestor call (next a) t) :
    MeetsMemory ingestor call (Async.call op >>= next) s := by
  have hsame : ∀ t, (serveMemory call t op).1 = t := by
    intro t
    cases op with
    | save _ => cases hop
    | _ => rfl
  refine Meets.call_bind ?_ ?_ fun _ _ _ _ _ _ => trivial
  · intro t _ _
    cases op with
    | save _ => cases hop
    | _ => trivial
  · intro t u a hindexed hrely hserve
    have hu : u = t := by rw [← hsame t, hserve]
    subst hu
    exact h u a hindexed (hrely op rfl hclear) (by rw [hserve])

/-- **The lookups for a conflict** leave nothing to look up. -/
theorem meetsMemory_findConflict_bind {receipt : Split402ReceiptV1} {receiptHash : String}
    (hmine : ingestor.callKeys call = some ⟨receiptHash, receipt.receiptId, receipt.paymentId,
      receipt.settlementTxSignature⟩)
    {next : Option ReceiptIngestResult → Await ReceiptIngestResult}
    (hsome : ∀ t conflict, MeetsMemory ingestor call (next (some conflict)) t)
    (hnone : ∀ t, ingestor.Clear call [] t → MeetsMemory ingestor call (next none) t) :
    MeetsMemory ingestor call (findConflict receipt receiptHash >>= next) s := by
  unfold findConflict
  rw [bind_assoc]
  refine meetsMemory_call_bind rfl (clear_start call s) ?_
  intro t byReceiptId _ hclear hserve
  cases byReceiptId with
  | some _ => exact hsome t _
  | none =>
      have hfree := Memory.getByReceiptId_eq_none (Except.ok.inj hserve)
      show MeetsMemory ingestor call ((Await.getByPaymentId receipt.paymentId >>= _) >>= next) t
      rw [bind_assoc]
      refine meetsMemory_call_bind rfl (hclear.looked hmine hfree) ?_
      intro u byPaymentId hindexed hclear hserve
      cases byPaymentId with
      | some _ => exact hsome u _
      | none =>
          have hfree := Memory.getByPaymentId_eq_none hindexed (Except.ok.inj hserve)
          show MeetsMemory ingestor call
            ((Await.getBySettlementTxSignature receipt.settlementTxSignature >>= _) >>= next) u
          rw [bind_assoc]
          refine meetsMemory_call_bind rfl (hclear.looked hmine hfree) ?_
          intro v bySettlementTx hindexed hclear hserve
          cases bySettlementTx with
          | some _ => exact hsome v _
          | none =>
              have hfree :=
                Memory.getBySettlementTxSignature_eq_none hindexed (Except.ok.inj hserve)
              exact hnone v (hclear.looked hmine hfree)

/-- A call that passes its checks with nothing stored under its keys saves a new receipt. -/
theorem meetsMemory_saveSnapshot {receipt : Split402ReceiptV1} {receiptHash : String}
    {snapshot : ReceiptIngestionSnapshot} (hmine : ingestor.callKeys call = some snapshot.keys)
    (hpasses : ingestor.passes call = true) (hclear : ingestor.Clear call [] s) :
    MeetsMemory ingestor call (saveSnapshot receipt receiptHash snapshot) s := by
  rw [saveSnapshot_eq]
  refine .await ?_ ?_
  · intro t _ hrely
    rcases hrely _ rfl hclear _ hmine hpasses with ⟨_, _, _, hkey, _⟩ | hfree
    · cases hkey
    · exact hfree
  · intro t u answer _ _ hserve
    obtain ⟨rfl, rfl⟩ := Prod.mk.inj hserve
    exact .done trivial

/-- **A call saves only what is new.** -/
theorem meetsMemory_ingest (call : IngestCall) (s : Memory) :
    MeetsMemory ingestor call (ingestor.ingest call) s := by
  unfold ingest
  split
  · exact .done trivial
  rename_i receipt hparsed
  refine meetsMemory_ofExcept_bind fun receiptHash hhash => ?_
  have hhash := ofProtocol_eq_ok.mp hhash
  have hmine : ingestor.callKeys call = some ⟨receiptHash, receipt.receiptId, receipt.paymentId,
      receipt.settlementTxSignature⟩ := by
    rw [callKeys, hparsed, Option.bind_some, hhash]
    rfl
  refine meetsMemory_call_bind rfl (clear_start call s) ?_
  intro t duplicate _ _ _
  cases duplicate with
  | some _ => exact .done trivial
  | none =>
      refine meetsMemory_findConflict_bind hmine (fun _ _ => .done trivial) ?_
      intro u hclear
      unfold verifyAndSave
      refine meetsMemory_call_bind rfl hclear ?_
      intro v merchantPublicKey _ hclear hkey
      cases merchantPublicKey with
      | none => exact .done trivial
      | some merchantPublicKey =>
          refine meetsMemory_ofExcept_bind fun verification hverification => ?_
          have hverification := ofProtocol_eq_ok.mp hverification
          split
          · exact .done trivial
          rename_i hok
          rw [Bool.not_eq_true, Bool.not_eq_false'] at hok
          refine meetsMemory_call_bind rfl hclear ?_
          intro w policy _ hclear hpolicy
          split
          · exact .done trivial
          rename_i hpolicies
          refine meetsMemory_ofExcept_bind fun snapshot hsnapshot => ?_
          have hsnapshots : Snapshots ingestor call receipt receiptHash snapshot :=
            ⟨hparsed, hhash, ⟨_, _, hverification, hok⟩, hsnapshot⟩
          obtain ⟨hreceipt, hid, hhash'⟩ := hsnapshots.record
          refine meetsMemory_saveSnapshot ?_ ?_ hclear
          · rw [hmine, ReceiptIngestionSnapshot.keys, hreceipt, hid, hhash']
          · have hkey : call.merchantPublicKey = .ok (some merchantPublicKey) := hkey
            have hpolicy : call.policy = .ok policy := hpolicy
            unfold passes
            rw [hparsed, hkey, hpolicy]
            dsimp only
            rw [hverification]
            dsimp only
            rw [hok, Bool.true_and]
            cases policy with
            | none => rfl
            | some result => simpa using hpolicies

/-! ## All calls -/

variable {pool pool' : Calls Memory} {event : Pool.Event IngestCall StoreCall}

theorem Clear.of_keys {remaining : List ReceiptKey} {t : Memory}
    (h : ingestor.Clear call remaining s)
    (hkeys : t.receiptsById.rows.map ReceiptIngestionSnapshot.keys =
      s.receiptsById.rows.map ReceiptIngestionSnapshot.keys) : ingestor.Clear call remaining t := by
  have hmem : ∀ keys, (∃ row ∈ t.receiptsById, row.keys = keys) ↔
      ∃ row ∈ s.receiptsById, row.keys = keys := by
    intro keys
    have hiff : keys ∈ t.receiptsById.rows.map ReceiptIngestionSnapshot.keys ↔
        keys ∈ s.receiptsById.rows.map ReceiptIngestionSnapshot.keys := by rw [hkeys]
    rwa [List.mem_map, List.mem_map] at hiff
  intro mine hmine hpasses
  rcases h mine hmine hpasses with ⟨row, hrow, key, hkey, heq⟩ | hfree
  · obtain ⟨row', hrow', hsame⟩ := (hmem row.keys).mpr ⟨row, hrow, rfl⟩
    exact .inl ⟨row', hrow', key, hkey, by rw [hsame, heq]⟩
  · right
    intro row hrow key hkey
    obtain ⟨row', hrow', hsame⟩ := (hmem row.keys).mp ⟨row, hrow, rfl⟩
    rw [← hsame]
    exact hfree row' hrow' key hkey

/-- A save keeps a call clear that will see the saved receipt, if they have a key in common. -/
theorem Clear.save {remaining : List ReceiptKey} {snapshot : ReceiptIngestionSnapshot}
    (h : ingestor.Clear call remaining s) (hnew : s.New snapshot)
    (hsees : ∀ mine, ingestor.callKeys call = some mine → ingestor.passes call = true →
      (∃ key ∈ conflictKeys, snapshot.keys.get key = mine.get key) →
      ∃ key ∈ remaining, snapshot.keys.get key = mine.get key ∨
        ∃ row ∈ s.receiptsById, row.keys.get key = mine.get key) :
    ingestor.Clear call remaining (s.save snapshot) := by
  have hmem : ∀ row, row ∈ (s.save snapshot).receiptsById ↔ row ∈ s.receiptsById ∨ row = snapshot := by
    intro row
    rw [Table.mem_def, hnew.rows, List.mem_append, List.mem_singleton]
    rfl
  intro mine hmine hpasses
  rcases h mine hmine hpasses with ⟨row, hrow, key, hkey, heq⟩ | hfree
  · exact .inl ⟨row, (hmem row).mpr (.inl hrow), key, hkey, heq⟩
  · by_cases hshare : ∃ key ∈ conflictKeys, snapshot.keys.get key = mine.get key
    · obtain ⟨key, hkey, heq | ⟨row, hrow, heq⟩⟩ := hsees mine hmine hpasses hshare
      · exact .inl ⟨snapshot, (hmem snapshot).mpr (.inr rfl), key, hkey, heq⟩
      · exact .inl ⟨row, (hmem row).mpr (.inl hrow), key, hkey, heq⟩
    · right
      intro row hrow key hkey
      rcases (hmem row).mp hrow with hrow | rfl
      · exact hfree row hrow key hkey
      · exact fun heq => hshare ⟨key, hkey, heq⟩

/-- Another call sees what a step saves, when the step does not save unseen. -/
theorem sees_of_not_savesUnseen {i j : Nat} {op : Op} {snapshot : ReceiptIngestionSnapshot}
    {resume : Except PayoutError Unit → Await ReceiptIngestResult} {other : IngestCall}
    {p : Await ReceiptIngestResult} (h : ingestor.savesUnseen pool (.resume i) = false)
    (hi : pool.calls[i]? = some (other, .await (.save snapshot) resume))
    (hj : pool.calls[j]? = some (call, p)) (hne : j ≠ i) (hop : p.waitsFor = some op)
    {mine : ReceiptKeys} (hmine : ingestor.callKeys call = some mine)
    (hpasses : ingestor.passes call = true)
    (hshare : ∃ key ∈ conflictKeys, snapshot.keys.get key = mine.get key) :
    ∃ key ∈ op.remaining, snapshot.keys.get key = mine.get key ∨
      ∃ row ∈ pool.shared.receiptsById, row.keys.get key = mine.get key := by
  by_contra hunseen
  have hmem : (call, p) ∈ pool.calls.eraseIdx i :=
    List.mem_eraseIdx_iff_getElem?.mpr ⟨j, hne, hj⟩
  simp only [savesUnseen, hi] at h
  have hfalse := List.any_eq_false.mp h _ hmem
  simp only [hpasses, hmine, hop, Bool.true_and, Bool.and_eq_true, List.any_eq_true,
    List.all_eq_true, beq_iff_eq, bne_iff_ne] at hfalse
  refine hfalse ⟨hshare, fun key hkey => ⟨?_, fun row hrow => ?_⟩⟩
  · exact fun heq => hunseen ⟨key, hkey, .inl heq⟩
  · exact fun heq => hunseen ⟨key, hkey, .inr ⟨row, hrow, heq⟩⟩

/-- What the calls see to is seen to by every call that saves. -/
theorem indexed_and_new (h : ingestor.memorySystem.Reachable
    (fun pool event => ingestor.savesUnseen pool event = false) pool) :
    Memory.Indexed pool.shared ∧ ∀ entry ∈ pool.calls,
      MeetsMemory ingestor entry.1 entry.2 pool.shared := by
  refine Pool.meets h ?_ ?_ ?_ (fun call s _ => meetsMemory_ingest call s) ?_ ?_ ?_ ?_
  · rintro _ rfl
    exact ⟨fun _ hrow => absurd hrow Table.not_mem_empty,
      fun _ hrow => absurd hrow Table.not_mem_empty⟩
  · intro call s op t answer hindexed hnew hserve
    cases op with
    | save snapshot =>
        obtain ⟨rfl, -⟩ := Prod.mk.inj hserve
        exact Memory.New.indexed hnew hindexed
    | _ =>
        obtain ⟨rfl, -⟩ := Prod.mk.inj hserve
        exact hindexed
  · exact fun s call t hindexed hx => (Memory.exec_kept hx.1 hx.2).indexed hindexed
  · exact fun call o s t u hst htu op hop hclear => htu op hop (hst op hop hclear)
  · exact fun _ _ _ _ _ => id
  · exact fun _ _ _ _ _ _ => trivial
  · intro pool pool' event i call p _ hok hstep hneed hi hne op hop hclear
    cases hstep with
    | start c => exact hclear
    | outside hx =>
        obtain ⟨f, hrows, hkeeps⟩ := (Memory.exec_kept hx.1 hx.2).rows
        refine hclear.of_keys ?_
        show List.map _ (Table.rows _) = _
        rw [hrows, List.map_map]
        exact List.map_congr_left fun row hrow => (hkeeps row hrow).keys
    | @resume j other op' resume u answer hj hserve =>
        cases op' with
        | save snapshot =>
            obtain ⟨rfl, -⟩ := Prod.mk.inj hserve
            have hij : i ≠ j := fun heq => hne (by rw [heq])
            refine hclear.save (hneed j other _ _ rfl hj) ?_
            intro mine hmine hpasses hshare
            exact sees_of_not_savesUnseen hok hj hi hij hop hmine hpasses hshare
        | _ =>
            obtain ⟨rfl, -⟩ := Prod.mk.inj hserve
            exact hclear

/-- A step keeps the stored receipts. -/
theorem keeps_of_step (h : ingestor.memorySystem.Reachable
      (fun pool event => ingestor.savesUnseen pool event = false) pool)
    (hstep : ingestor.memorySystem.step pool event pool') {row : ReceiptIngestionSnapshot}
    (hrow : row ∈ pool.shared.receiptsById) :
    ∃ row' ∈ pool'.shared.receiptsById, row.Keeps row' := by
  cases hstep with
  | start c => exact ⟨row, hrow, .refl row⟩
  | outside hx =>
      obtain ⟨f, hrows, hkeeps⟩ := (Memory.exec_kept hx.1 hx.2).rows
      refine ⟨f row, ?_, hkeeps row hrow⟩
      rw [Table.mem_def, hrows]
      exact List.mem_map_of_mem hrow
  | @resume j other op resume u answer hj hserve =>
      cases op with
      | save snapshot =>
          obtain ⟨rfl, -⟩ := Prod.mk.inj hserve
          obtain ⟨hindexed, hcalls⟩ := indexed_and_new h
          cases hcalls _ (List.mem_of_getElem? hj) with
          | await hnew _ =>
              have hnew : pool.shared.New snapshot := hnew _ hindexed fun _ _ => id
              refine ⟨row, ?_, .refl row⟩
              rw [Table.mem_def, hnew.rows]
              exact List.mem_append_left _ hrow
      | _ =>
          obtain ⟨rfl, -⟩ := Prod.mk.inj hserve
          exact ⟨row, hrow, .refl row⟩

/-! ## The theorem -/

/-- **No receipt is lost or overwritten**, however the calls, the chain verification marks and the
payout operations interleave, when no call saves a receipt unseen by another call that shares a key
with it: a payment id or settlement signature is stored once, and what is stored stays. -/
theorem memory_ingestion_keeps (h : ingestor.memorySystem.Reachable
      (fun pool event => ingestor.savesUnseen pool event = false) pool) :
    (pool.shared.receiptsById.rows.map (fun row => row.receipt.receipt.paymentId)).Nodup ∧
    (pool.shared.receiptsById.rows.map (fun row =>
      row.receipt.receipt.settlementTxSignature)).Nodup ∧
    ∀ pool', ingestor.memorySystem.Run
        (fun pool event => ingestor.savesUnseen pool event = false) pool pool' →
      ∀ row ∈ pool.shared.receiptsById, ∃ row' ∈ pool'.shared.receiptsById, row.Keeps row' := by
  obtain ⟨hindexed, -⟩ := indexed_and_new h
  refine ⟨?_, ?_, ?_⟩
  · refine List.Nodup.map_on ?_ (Table.rows_nodup _)
    exact fun row hrow row' hrow' heq => hindexed.eq_of_payment hrow hrow' heq
  · refine List.Nodup.map_on ?_ (Table.rows_nodup _)
    exact fun row hrow row' hrow' heq => hindexed.eq_of_settlement hrow hrow' heq
  · intro pool' hrun row hrow
    have hkept := hrun.invariant (P := fun pool' => ingestor.memorySystem.Reachable
        (fun pool event => ingestor.savesUnseen pool event = false) pool' ∧
      ∃ row' ∈ pool'.shared.receiptsById, row.Keeps row') ⟨h, row, hrow, .refl row⟩ ?_
    · exact hkept.2
    · rintro s event t ⟨hreach, row', hrow', hkeeps⟩ hok hstep
      obtain ⟨row'', hrow'', hkeeps'⟩ := keeps_of_step hreach hstep hrow'
      exact ⟨.step hreach hok hstep, row'', hrow'', hkeeps.trans hkeeps'⟩

/-! ## A sale submitted twice -/

/-- A call of the in-memory store for something else than a save. -/
def applyMemory (store : Memory) (call : StoreCall) : Option Memory :=
  if call.op.isSave then none else (store.exec sampleIngestor.host call).toOption

theorem applyMemory_eq_some {store store' : Memory} {call : StoreCall}
    (h : applyMemory store call = some store') :
    call.op.isSave = false ∧ store.exec sampleIngestor.host call = .ok store' := by
  unfold applyMemory at h
  split at h
  · cases h
  · rename_i hsave
    refine ⟨by simpa using hsave, ?_⟩
    cases hexec : store.exec sampleIngestor.host call with
    | error e =>
        rw [hexec] at h
        cases h
    | ok t =>
        rw [hexec] at h
        cases h
        rfl

/-- The pool a schedule leads to. -/
def scheduledMemory (pool : Calls Memory) (schedule : List (Pool.Event IngestCall StoreCall)) :
    Calls Memory :=
  schedule.foldl (Pool.advance serveMemory applyMemory sampleIngestor.ingest) pool

/-- Every event of the schedule can happen and is accepted. -/
def admitsMemory (accept : Calls Memory → Pool.Event IngestCall StoreCall → Bool)
    (pool : Calls Memory) (schedule : List (Pool.Event IngestCall StoreCall)) : Bool :=
  System.admittedAlong (Pool.advance serveMemory applyMemory sampleIngestor.ingest)
    (fun pool event => Pool.canAdvance applyMemory pool event && accept pool event) pool schedule

variable {accept : Calls Memory → Pool.Event IngestCall StoreCall → Bool}
  {schedule : List (Pool.Event IngestCall StoreCall)}

theorem scheduledMemory_reachable (h : admitsMemory accept ⟨Memory.empty, []⟩ schedule = true) :
    sampleIngestor.memorySystem.Reachable (fun pool event => accept pool event = true)
      (scheduledMemory ⟨Memory.empty, []⟩ schedule) := by
  unfold memorySystem scheduledMemory
  refine Pool.reachable_of_schedule ?_ ?_ ?_ h
  · exact fun _ _ _ _ _ => id
  · exact fun _ _ _ => applyMemory_eq_some
  · rfl

theorem scheduledMemory_run {pool : Calls Memory} (h : admitsMemory accept pool schedule = true) :
    sampleIngestor.memorySystem.Run (fun pool event => accept pool event = true) pool
      (scheduledMemory pool schedule) := by
  unfold memorySystem scheduledMemory
  refine Pool.run_of_schedule ?_ ?_ h
  · exact fun _ _ _ _ _ => id
  · exact fun _ _ _ => applyMemory_eq_some

/-- The sale is verified on chain. -/
def verifySale : Pool.Event IngestCall StoreCall :=
  .outside ⟨(sampleCall Sample.freeSale).env,
    .markReceiptChainVerified ⟨Sample.freeSale.receiptId, Sample.now⟩⟩

/-- The sale is submitted, saved and verified. -/
def submitAndVerify : List (Pool.Event IngestCall StoreCall) :=
  [.start (sampleCall Sample.freeSale), .resume 0, .resume 0, .resume 0, .resume 0, .resume 0,
    .resume 0, .resume 0, verifySale]

/-- The sale is submitted again. -/
def submitAgain : List (Pool.Event IngestCall StoreCall) :=
  [.start (sampleCall Sample.freeSale), .resume 1]

/-- The sale is submitted twice at once: both calls look for conflicts before one saves, and the
sale is verified. -/
def submitTwice : List (Pool.Event IngestCall StoreCall) :=
  [.start (sampleCall Sample.freeSale), .start (sampleCall Sample.freeSale),
    .resume 0, .resume 0, .resume 0, .resume 0, .resume 1, .resume 1, .resume 1, .resume 1,
    .resume 0, .resume 0, .resume 0, verifySale]

/-- The second call goes on to its save. -/
def saveAgain : List (Pool.Event IngestCall StoreCall) := [.resume 1, .resume 1, .resume 1]

/-- Whether one of the stored accruals has left `pending_chain_verification`. -/
def settles (pool : Calls Memory) : Bool :=
  pool.shared.receiptsById.rows.any (fun row =>
    row.accrual.any (fun accrual => accrual.status != .pendingChainVerification))

/-- The four schedules, run once. -/
theorem submissions_computed :
    (admitsMemory (fun pool event => !sampleIngestor.savesUnseen pool event)
        ⟨Memory.empty, []⟩ submitAndVerify &&
      admitsMemory (fun pool event => !sampleIngestor.savesUnseen pool event)
        (scheduledMemory ⟨Memory.empty, []⟩ submitAndVerify) submitAgain &&
      admitsMemory (fun _ _ => true) ⟨Memory.empty, []⟩ submitTwice &&
      admitsMemory (fun _ _ => true) (scheduledMemory ⟨Memory.empty, []⟩ submitTwice) saveAgain &&
      settles (scheduledMemory ⟨Memory.empty, []⟩ submitAndVerify) &&
      settles (scheduledMemory ⟨Memory.empty, []⟩ submitTwice) &&
      !settles (scheduledMemory (scheduledMemory ⟨Memory.empty, []⟩ submitTwice) saveAgain)) =
        true := by
  decide +kernel

theorem memory_ingestion_keeps_submitAgain :
    ∃ row ∈ (scheduledMemory ⟨Memory.empty, []⟩ submitAndVerify).shared.receiptsById,
      ∃ row' ∈ (scheduledMemory (scheduledMemory ⟨Memory.empty, []⟩ submitAndVerify)
        submitAgain).shared.receiptsById, row.Keeps row' := by
  have hcomputed := submissions_computed
  simp only [Bool.and_eq_true] at hcomputed
  obtain ⟨⟨⟨⟨⟨⟨hfirst, hagain⟩, -⟩, -⟩, hsettled⟩, -⟩, -⟩ := hcomputed
  have hreachable := (scheduledMemory_reachable hfirst).mono fun _ _ h => Bool.not_eq_true' _ |>.mp h
  have hrun := (scheduledMemory_run hagain).mono fun _ _ h => Bool.not_eq_true' _ |>.mp h
  obtain ⟨row, hrow, -⟩ := List.any_eq_true.mp hsettled
  exact ⟨row, hrow, (memory_ingestion_keeps hreachable).2.2 _ hrun row hrow⟩

/-- The second call's save makes the accrual of the verified sale pending again. -/
theorem not_memory_ingestion_keeps :
    ¬ ∀ pool pool', sampleIngestor.memorySystem.Reachable (fun _ _ => True) pool →
      sampleIngestor.memorySystem.Run (fun _ _ => True) pool pool' →
      ∀ row ∈ pool.shared.receiptsById, ∃ row' ∈ pool'.shared.receiptsById, row.Keeps row' := by
  intro h
  have hcomputed := submissions_computed
  simp only [Bool.and_eq_true] at hcomputed
  obtain ⟨⟨⟨⟨⟨-, hboth⟩, hsave⟩, -⟩, hsettled⟩, hpending⟩ := hcomputed
  have hreachable := (scheduledMemory_reachable hboth).mono fun _ _ _ => trivial
  have hrun := (scheduledMemory_run hsave).mono fun _ _ _ => trivial
  obtain ⟨row, hrow, haccrual⟩ := List.any_eq_true.mp hsettled
  obtain ⟨accrual, hfound, hstatus⟩ := (Option.any_eq_true _ _).mp haccrual
  obtain ⟨row', hrow', hkeeps⟩ := h _ _ hreachable hrun row hrow
  obtain ⟨accrual', hfound', -, -, -, hstatus'⟩ := hkeeps.accrual accrual hfound
  have hnone := List.any_eq_false.mp ((Bool.not_eq_true' _).mp hpending) row' hrow'
  rw [hfound', Option.any_some] at hnone
  refine hnone ?_
  rw [bne_iff_ne] at hstatus ⊢
  exact hstatus' hstatus

end ReceiptIngestor

end Split402

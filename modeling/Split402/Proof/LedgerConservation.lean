import Split402.Base.Sums
import Split402.Proof.AccrualLifecycle
import Split402.Proof.CommissionLedger
import Split402.Proof.MemoryEscrow

/-! # The ledger against the accruals

What the ledger says is payable to a wallet is what the wallet's accruals are worth that are neither
paid nor rejected. An ingestion posts a credit with its accrual; a closure debits every wallet with
its items, and pays the accruals the items allocate, which its batch still holds. A rejection posts
nothing: it takes the accrual away and leaves the credit. -/

namespace Split402

open Base Base.Escrow

variable {host : Host} {env : CallEnv}

/-! ## Both sides -/

/-- What an accrual that is neither paid nor rejected owes a wallet in an asset. -/
def CommissionAccrual.owes (accrual : CommissionAccrual) (wallet asset : String) : Int :=
  if accrual.payoutWallet = wallet ∧ accrual.asset = asset ∧ accrual.status ≠ .paid ∧
      accrual.status ≠ .rejected then
    (atomicOf accrual.amountAtomic : Int)
  else 0

namespace Memory

/-- The ledger transactions of accruals and of payouts. -/
def ledgerTransactions (store : Memory) : List LedgerTransaction :=
  store.receiptsById.rows.filterMap ReceiptIngestionSnapshot.ledgerTransaction ++
    store.payoutLedgerTransactionsByBatchId.rows

/-- What the ledger says is payable to a wallet in an asset. -/
def payableTo (store : Memory) (wallet asset : String) : Int :=
  (store.ledgerTransactions.map (fun transaction => transaction.payableTo wallet asset)).sum

/-- What the accruals owe it. -/
def owedTo (store : Memory) (wallet asset : String) : Int :=
  (store.listAccruals.map (fun accrual => accrual.owes wallet asset)).sum

/-- The ledger reconciles with the accruals. -/
def Reconciles (store : Memory) : Prop :=
  ∀ wallet asset, store.payableTo wallet asset = store.owedTo wallet asset

/-- The runs in which what is saved is what an ingestion saves. -/
def ledgerSystem (host : Host) : System Memory StoreCall where
  init store := store = empty
  step store call store' := store.fresh call = true ∧
    (∀ snapshot, call.op = .save snapshot → ∃ (ν : Type) (ingestor : ReceiptIngestor ν)
      (ingest : IngestCall), Async.Awaits (ingestor.ingest ingest) (.save snapshot)) ∧
    store' = store.next host call

/-- The call rejects no receipt whose accrual waits for the chain. -/
def rejectsNothingOwed (store : Memory) (call : StoreCall) : Bool :=
  match call.op with
  | .markReceiptChainRejected input =>
      (store.getByReceiptId input.receiptId).all (fun snapshot =>
        snapshot.accrual.all (fun accrual => accrual.status != .pendingChainVerification))
  | _ => true

/-- It also leaves cancelled batches alone. -/
def keepsBooks (store : Memory) (call : StoreCall) : Bool :=
  store.respectsCancellation call && store.rejectsNothingOwed call

end Memory

/-! ## What is posted for a receipt -/

/-- The accrual and the ledger transaction of a snapshot are worth the same to everyone. -/
def ReceiptIngestionSnapshot.Balanced (snapshot : ReceiptIngestionSnapshot) : Prop :=
  ∀ wallet asset,
    ((snapshot.ledgerTransaction.map (fun transaction =>
      transaction.payableTo wallet asset)).getD 0) =
    (snapshot.accrual.map (fun accrual => accrual.owes wallet asset)).getD 0

namespace ReceiptIngestor

variable {ν : Type} {ingestor : ReceiptIngestor ν} {call : IngestCall} {receipt : Split402ReceiptV1}
  {createdAt : String}

/-- The credit of an accrual is a positive amount. -/
theorem createAccrual_amount {accrual : CommissionAccrual}
    (h : ingestor.createAccrual call receipt createdAt = .ok (some accrual)) :
    readLedgerAmount receipt.referrerCreditAtomic =
      .ok (atomicOf receipt.referrerCreditAtomic : Int) := by
  unfold createAccrual at h
  split at h
  · obtain ⟨credit, hread, h⟩ := bind_eq_ok.mp h
    split at h
    · rw [pure_eq_ok] at h
      cases h
    · rename_i hpos
      rw [hread]
      unfold readLedgerAmount at hread
      split at hread
      · split at hread
        · rw [pure_eq_ok] at hread
          omega
        · exact absurd hread throw_ne_ok
      · split at hread
        · rename_i amount hparse
          rw [pure_eq_ok] at hread
          rw [atomicOf, hparse, ← hread]
          rfl
        · exact absurd hread throw_ne_ok
  · rw [pure_eq_ok] at h
    cases h

/-- The referrer's entry is the only payable of an accrual's transaction. -/
theorem createLedgerTransaction_payable {accrual : CommissionAccrual}
    {transaction : LedgerTransaction}
    (h : ingestor.createLedgerTransaction call receipt accrual createdAt = .ok transaction)
    (hread : readLedgerAmount receipt.referrerCreditAtomic =
      .ok (atomicOf receipt.referrerCreditAtomic : Int)) (wallet asset : String) :
    transaction.payableTo wallet asset =
      if accrual.payoutWallet = wallet ∧ receipt.asset = asset then
        (atomicOf receipt.referrerCreditAtomic : Int) else 0 := by
  unfold createLedgerTransaction at h
  obtain ⟨liability, -, h⟩ := bind_eq_ok.mp h
  obtain ⟨-, -, h⟩ := bind_eq_ok.mp h
  rw [pure_eq_ok] at h
  subst h
  simp only [LedgerTransaction.payableTo, LedgerEntry.payableTo, List.map_cons, List.map_nil,
    List.sum_cons, List.sum_nil, reduceCtorEq, false_and, if_false, true_and, zero_add, add_zero]
  split
  · rw [ledgerAmountOf, hread]
  · rfl

/-- **An ingestion credits what it accrues.** -/
theorem createSnapshot_balanced {receiptHash : String} {source : ReceiptIngestSource}
    {snapshot : ReceiptIngestionSnapshot}
    (h : ingestor.createSnapshot call receipt receiptHash source = .ok snapshot) :
    snapshot.Balanced := by
  obtain ⟨createdAt, -, haccrual, hnone, hsome⟩ := createSnapshot_eq_ok h
  intro wallet asset
  cases ha : snapshot.accrual with
  | none =>
      rw [hnone ha]
      rfl
  | some accrual =>
      obtain ⟨transaction, htransaction, hcreate⟩ := hsome accrual ha
      rw [ha] at haccrual
      obtain ⟨hstatus, -, hasset, hamount⟩ := createAccrual_eq_ok haccrual accrual rfl
      have hread := createAccrual_amount haccrual
      rw [htransaction, Option.map_some, Option.getD_some, Option.map_some, Option.getD_some,
        createLedgerTransaction_payable hcreate hread]
      simp [CommissionAccrual.owes, hstatus, hasset, hamount]

end ReceiptIngestor

/-! ## Items and what they allocate -/

/-- A change of accruals that keeps whom they are payable to, and how much. -/
structure KeepsTerms (f : CommissionAccrual → CommissionAccrual) : Prop where
  id : ∀ accrual, (f accrual).id = accrual.id
  payoutWallet : ∀ accrual, (f accrual).payoutWallet = accrual.payoutWallet
  asset : ∀ accrual, (f accrual).asset = accrual.asset
  amountAtomic : ∀ accrual, (f accrual).amountAtomic = accrual.amountAtomic

/-- A change of status keeps them. -/
theorem KeepsTerms.withStatusIf (select : CommissionAccrual → Bool) (status : AccrualStatus) :
    KeepsTerms (fun accrual => accrual.withStatusIf select status) := by
  refine ⟨fun accrual => ?_, fun accrual => ?_, fun accrual => ?_, fun accrual => ?_⟩ <;>
    unfold CommissionAccrual.withStatusIf <;> split <;> rfl

/-- An accrual that is outstanding as before owes as before. -/
theorem KeepsTerms.owes {f : CommissionAccrual → CommissionAccrual} (hf : KeepsTerms f)
    {accrual : CommissionAccrual}
    (h : ((f accrual).status ≠ .paid ∧ (f accrual).status ≠ .rejected) ↔
      (accrual.status ≠ .paid ∧ accrual.status ≠ .rejected)) (wallet asset : String) :
    (f accrual).owes wallet asset = accrual.owes wallet asset := by
  unfold CommissionAccrual.owes
  rw [hf.payoutWallet, hf.asset, hf.amountAtomic]
  simp only [h]

/-- Every item is worth the accruals it allocates, which are payable to its wallet. -/
def ItemsFunded (accruals : List CommissionAccrual) (batch : PayoutBatchRecord) : Prop :=
  ∀ item ∈ batch.items,
    atomicOf item.amountAtomic =
      (item.allocations.map (fun allocation => atomicOf allocation.amountAtomic)).sum ∧
    ∀ allocation ∈ item.allocations, ∃ accrual ∈ accruals,
      accrual.id = allocation.accrualId ∧ accrual.payoutWallet = item.destinationWallet ∧
        accrual.asset = batch.asset ∧ accrual.amountAtomic = allocation.amountAtomic

theorem ItemsFunded.map {accruals : List CommissionAccrual} {batch : PayoutBatchRecord}
    (h : ItemsFunded accruals batch) {f : CommissionAccrual → CommissionAccrual}
    (hf : KeepsTerms f) : ItemsFunded (accruals.map f) batch := by
  intro item hitem
  obtain ⟨hamount, hall⟩ := h item hitem
  refine ⟨hamount, ?_⟩
  intro allocation hallocation
  obtain ⟨accrual, hmem, hid, hwallet, hasset, hworth⟩ := hall allocation hallocation
  exact ⟨f accrual, List.mem_map_of_mem hmem, (hf.id _).trans hid, (hf.payoutWallet _).trans hwallet,
    (hf.asset _).trans hasset, (hf.amountAtomic _).trans hworth⟩

theorem ItemsFunded.mono {accruals accruals' : List CommissionAccrual} {batch : PayoutBatchRecord}
    (h : ItemsFunded accruals batch) (hsub : ∀ accrual ∈ accruals, accrual ∈ accruals') :
    ItemsFunded accruals' batch := by
  intro item hitem
  obtain ⟨hamount, hall⟩ := h item hitem
  refine ⟨hamount, ?_⟩
  intro allocation hallocation
  obtain ⟨accrual, hmem, hrest⟩ := hall allocation hallocation
  exact ⟨accrual, hsub accrual hmem, hrest⟩

/-- Items that only change their statuses stay funded. -/
theorem ItemsFunded.of_items {accruals : List CommissionAccrual} {batch batch' : PayoutBatchRecord}
    (h : ItemsFunded accruals batch) {g : PayoutItemRecord → PayoutItemRecord}
    (hg : ∀ item, (g item).destinationWallet = item.destinationWallet ∧
      (g item).amountAtomic = item.amountAtomic ∧ (g item).allocations = item.allocations)
    (hitems : batch'.items = batch.items.map g) (hasset : batch'.asset = batch.asset) :
    ItemsFunded accruals batch' := by
  intro item' hitem'
  rw [hitems] at hitem'
  obtain ⟨item, hitem, rfl⟩ := List.mem_map.mp hitem'
  obtain ⟨hwallet, hamount, hallocations⟩ := hg item
  rw [hwallet, hamount, hallocations, hasset]
  exact h item hitem

/-- The items of a new batch are funded. -/
theorem PlannedBatch.itemsFunded {accruals : List CommissionAccrual} {batch : PayoutBatchRecord}
    (hids : (accruals.map CommissionAccrual.id).Nodup) (h : PlannedBatch accruals batch) :
    ItemsFunded accruals batch := by
  intro item hitem
  refine ⟨?_, ?_⟩
  · rw [h.itemAmount item hitem, atomicOf_serialize]
  · intro allocation hallocation
    obtain ⟨-, accrual, hmem, hid, hamount, -, -, hasset, -⟩ :=
      h.allocation item hitem allocation hallocation
    obtain ⟨payee, hpayee, hpid, hwallet⟩ := h.payee item hitem allocation hallocation
    have hsame : payee = accrual := List.inj_on_of_nodup_map hids hpayee hmem (hpid.trans hid.symm)
    exact ⟨accrual, hmem, hid, hsame ▸ hwallet, hasset, hamount⟩

/-- What a wallet is owed of an accrual whatever its status. -/
def CommissionAccrual.share (accrual : CommissionAccrual) (wallet asset : String) : Int :=
  if accrual.payoutWallet = wallet ∧ accrual.asset = asset then
    (atomicOf accrual.amountAtomic : Int) else 0

/-- **The accruals a funded batch allocates are worth to a wallet what its items pay it.** -/
theorem ItemsFunded.paysTo {accruals : List CommissionAccrual} {batch : PayoutBatchRecord}
    (h : ItemsFunded accruals batch) (hids : (accruals.map CommissionAccrual.id).Nodup)
    (hnodup : batch.accrualIds.Nodup) (wallet asset : String) :
    (accruals.map (fun accrual =>
      if accrual.id ∈ batch.accrualIds then accrual.share wallet asset else 0)).sum =
      batch.paysTo wallet asset := by
  let worth : String → Int := fun id =>
    ((lookupAccrual accruals id).map (fun accrual => accrual.share wallet asset)).getD 0
  have hworth : ∀ accrual ∈ accruals, worth accrual.id = accrual.share wallet asset := by
    intro accrual hmem
    show ((lookupAccrual accruals accrual.id).map _).getD 0 = _
    rw [show lookupAccrual accruals accrual.id = some accrual from
      lookupAccrual_of_mem hids hmem]
    rfl
  have hall : ∀ id ∈ batch.accrualIds, ∃ accrual ∈ accruals, accrual.id = id := by
    intro id hid
    obtain ⟨item, hitem, hmem⟩ := List.mem_flatMap.mp hid
    obtain ⟨allocation, hallocation, rfl⟩ := List.mem_map.mp hmem
    obtain ⟨accrual, haccrual, hide, -⟩ := (h item hitem).2 allocation hallocation
    exact ⟨accrual, haccrual, hide⟩
  have hitem : ∀ item ∈ batch.items,
      ((item.allocations.map PayoutAllocationRecord.accrualId).map worth).sum =
        if item.destinationWallet = wallet ∧ batch.asset = asset then
          (atomicOf item.amountAtomic : Int) else 0 := by
    intro item hitem
    obtain ⟨hamount, hallocated⟩ := h item hitem
    have hshare : ∀ allocation ∈ item.allocations, worth allocation.accrualId =
        if item.destinationWallet = wallet ∧ batch.asset = asset then
          (atomicOf allocation.amountAtomic : Int) else 0 := by
      intro allocation hallocation
      obtain ⟨accrual, hmem, hide, hwallet, hasset, hvalue⟩ := hallocated allocation hallocation
      rw [← hide, hworth accrual hmem, CommissionAccrual.share, hwallet, hasset, hvalue]
    rw [List.map_map]
    have hsum := congrArg List.sum (List.map_congr_left hshare)
    rw [show (worth ∘ PayoutAllocationRecord.accrualId) = fun allocation =>
      worth allocation.accrualId from rfl, hsum]
    by_cases hto : item.destinationWallet = wallet ∧ batch.asset = asset
    · rw [if_pos hto, hamount, Nat.cast_list_sum, List.map_map]
      simp only [if_pos hto]
      rfl
    · rw [if_neg hto]
      simp only [if_neg hto]
      exact List.sum_map_zero
  rw [sum_map_listed hids hnodup hall hworth, PayoutBatchRecord.paysTo,
    PayoutBatchRecord.accrualIds, List.map_flatMap, List.flatMap_def, List.sum_flatten,
    List.map_map]
  exact congrArg List.sum (List.map_congr_left hitem)

/-! ## What every call keeps -/

namespace Memory

variable {store store' : Memory}

/-- The books are in order: the ledger reconciles with the accruals, and the items of every batch
are funded. -/
structure Books (store : Memory) : Prop where
  funded : ∀ batch ∈ store.payoutBatchesById, ItemsFunded store.listAccruals batch
  reconciles : store.Reconciles

/-- Snapshots that change under their ledger transactions. -/
theorem ledgerTransactions_of_map {g : ReceiptIngestionSnapshot → ReceiptIngestionSnapshot}
    (hg : ∀ snapshot, (g snapshot).ledgerTransaction = snapshot.ledgerTransaction)
    (hrows : store'.receiptsById.rows = store.receiptsById.rows.map g)
    (hpayouts : store'.payoutLedgerTransactionsByBatchId =
      store.payoutLedgerTransactionsByBatchId) :
    store'.ledgerTransactions = store.ledgerTransactions := by
  unfold ledgerTransactions
  rw [hrows, hpayouts, List.filterMap_map]
  congr 2
  funext snapshot
  exact hg snapshot

/-- A call that posts nothing and leaves outstanding what is outstanding. -/
theorem Books.quiet (h : Books store) {f : CommissionAccrual → CommissionAccrual}
    (hf : KeepsTerms f) (hacc : store'.listAccruals = store.listAccruals.map f)
    (hout : ∀ accrual ∈ store.listAccruals,
      ((f accrual).status ≠ .paid ∧ (f accrual).status ≠ .rejected) ↔
        (accrual.status ≠ .paid ∧ accrual.status ≠ .rejected))
    (hledger : store'.ledgerTransactions = store.ledgerTransactions)
    (hbatches : ∀ batch ∈ store'.payoutBatchesById, ItemsFunded store.listAccruals batch) :
    Books store' := by
  refine ⟨fun batch hbatch => hacc ▸ (hbatches batch hbatch).map hf, ?_⟩
  intro wallet asset
  have hpayable : store'.payableTo wallet asset = store.payableTo wallet asset := by
    unfold payableTo
    rw [hledger]
  have howed : store'.owedTo wallet asset = store.owedTo wallet asset := by
    unfold owedTo
    rw [hacc, List.map_map]
    refine congrArg List.sum (List.map_congr_left fun accrual haccrual => ?_)
    exact hf.owes (hout accrual haccrual) wallet asset
  rw [hpayable, howed]
  exact h.reconciles wallet asset

/-- A call that writes neither accruals nor the ledger. -/
theorem Books.of_eq (h : Books store) (hreceipts : store'.receiptsById = store.receiptsById)
    (hpayouts : store'.payoutLedgerTransactionsByBatchId =
      store.payoutLedgerTransactionsByBatchId)
    (hbatches : ∀ batch ∈ store'.payoutBatchesById, ItemsFunded store.listAccruals batch) :
    Books store' := by
  have hsame : KeepsTerms (fun accrual => accrual) :=
    ⟨fun _ => rfl, fun _ => rfl, fun _ => rfl, fun _ => rfl⟩
  refine h.quiet hsame ?_ (fun _ _ => Iff.rfl) ?_ hbatches
  · unfold listAccruals
    rw [hreceipts]
    exact (List.map_id _).symm
  · unfold ledgerTransactions
    rw [hreceipts, hpayouts]

/-- A new snapshot posts what it accrues. -/
theorem Books.save (h : Books store) {snapshot : ReceiptIngestionSnapshot}
    (hnew : store.receiptsById.has snapshot.receipt.id = false) (hbalanced : snapshot.Balanced) :
    Books (store.save snapshot) := by
  have hacc := listAccruals_save_new hnew
  refine ⟨?_, ?_⟩
  · intro batch hbatch
    rw [hacc]
    exact (h.funded batch hbatch).mono fun accrual ha => List.mem_append_left _ ha
  · intro wallet asset
    have howed : (store.save snapshot).owedTo wallet asset = store.owedTo wallet asset +
        (snapshot.accrual.map (fun accrual => accrual.owes wallet asset)).getD 0 := by
      unfold owedTo
      rw [hacc, List.map_append, List.sum_append]
      cases snapshot.accrual <;> simp
    have hpayable : (store.save snapshot).payableTo wallet asset = store.payableTo wallet asset +
        ((snapshot.ledgerTransaction.map (fun transaction =>
          transaction.payableTo wallet asset)).getD 0) := by
      unfold payableTo ledgerTransactions
      rw [save_receiptsById, Table.rows_upsert_of_new (Table.has_eq_false.mp hnew), save_ledgers,
        List.filterMap_append]
      simp only [List.map_append, List.sum_append]
      cases ht : snapshot.ledgerTransaction with
      | none => simp [ht]
      | some transaction =>
          simp only [ht, List.filterMap_cons, List.filterMap_nil, List.map_cons, List.map_nil,
            List.sum_cons, List.sum_nil, Option.map_some, Option.getD_some]
          omega
    rw [hpayable, howed, h.reconciles wallet asset, hbalanced wallet asset]

/-- A mark of a receipt that leaves its accrual outstanding. -/
theorem Books.mark (h : Books store) (hwf : store.WellFormed) {snapshot : ReceiptIngestionSnapshot}
    (hmem : snapshot ∈ store.receiptsById)
    (change : ReceiptIngestionSnapshot → ReceiptIngestionSnapshot)
    (f : CommissionAccrual → CommissionAccrual) (hf : KeepsTerms f)
    (hkey : (change snapshot).receipt.id = snapshot.receipt.id)
    (hacc : (change snapshot).accrual = snapshot.accrual.map f)
    (hledger : ∀ s, (change s).ledgerTransaction = s.ledgerTransaction)
    (hout : ∀ accrual, snapshot.accrual = some accrual →
      (((f accrual).status ≠ .paid ∧ (f accrual).status ≠ .rejected) ↔
        (accrual.status ≠ .paid ∧ accrual.status ≠ .rejected))) :
    Books (store.save (change snapshot)) := by
  have hkeeps : KeepsTerms (fun accrual =>
      if snapshot.accrual.any (·.id = accrual.id) then f accrual else accrual) := by
    refine ⟨fun accrual => ?_, fun accrual => ?_, fun accrual => ?_, fun accrual => ?_⟩ <;> split
    · exact hf.id accrual
    · rfl
    · exact hf.payoutWallet accrual
    · rfl
    · exact hf.asset accrual
    · rfl
    · exact hf.amountAtomic accrual
    · rfl
  refine h.quiet hkeeps (listAccruals_save_changed hwf.accrualIds hmem hkey hacc) ?_ ?_ h.funded
  · intro accrual haccrual
    split
    · rename_i hany
      obtain ⟨own, hown, hid⟩ := (Option.any_eq_true _ _).mp hany
      rw [decide_eq_true_eq] at hid
      have hlisted : own ∈ store.listAccruals := List.mem_filterMap.mpr ⟨snapshot, hmem, hown⟩
      have hsame : own = accrual :=
        List.inj_on_of_nodup_map hwf.accrualIds hlisted haccrual hid
      exact hsame ▸ hout own hown
    · exact Iff.rfl
  · have hrows := Table.rows_upsert_of_mem (f := change) hmem hkey
    refine ledgerTransactions_of_map (g := fun s =>
      if s.receipt.id = snapshot.receipt.id then change s else s) ?_ hrows rfl
    intro s
    split
    · exact hledger s
    · rfl

theorem Books.verified (h : Books store) (hwf : store.WellFormed)
    (input : MarkReceiptChainVerifiedInput) :
    Books (store.markReceiptChainVerified input).2 := by
  unfold markReceiptChainVerified
  split
  · exact h
  · rename_i snapshot hfind
    refine h.mark hwf (Table.mem_of_find? hfind)
      (fun snapshot => verifiedSnapshot snapshot input.verifiedAt)
      (fun accrual => if accrual.status = .pendingChainVerification then
        { accrual with status := .available, availableAt := some input.verifiedAt } else accrual)
      ?_ rfl rfl (fun _ => rfl) ?_
    · refine ⟨fun _ => ?_, fun _ => ?_, fun _ => ?_, fun _ => ?_⟩ <;> split <;> rfl
    · intro accrual _
      split
      · rename_i hpending
        rw [hpending]
        exact ⟨fun _ => ⟨nofun, nofun⟩, fun _ => ⟨nofun, nofun⟩⟩
      · exact Iff.rfl

/-- A rejection that finds no pending accrual takes nothing away. -/
theorem Books.rejected (h : Books store) (hwf : store.WellFormed)
    (input : MarkReceiptChainRejectedInput)
    (hnothing : store.rejectsNothingOwed ⟨env, .markReceiptChainRejected input⟩ = true) :
    Books (store.markReceiptChainRejected input).2 := by
  unfold rejectsNothingOwed at hnothing
  unfold markReceiptChainRejected
  split
  · exact h
  · rename_i snapshot hfind
    refine h.mark hwf (Table.mem_of_find? hfind)
      (fun snapshot => rejectedSnapshot snapshot input.reason)
      (fun accrual => if accrual.status = .pendingChainVerification then
        { accrual with status := .rejected } else accrual)
      ?_ rfl rfl (fun _ => rfl) ?_
    · refine ⟨fun _ => ?_, fun _ => ?_, fun _ => ?_, fun _ => ?_⟩ <;> split <;> rfl
    · intro accrual haccrual
      dsimp only at hnothing
      rw [hfind, Option.all_some, haccrual, Option.all_some, bne_iff_ne] at hnothing
      rw [if_neg hnothing]

/-- Snapshots whose accruals change their statuses keep their ledger transactions. -/
theorem ledgerTransactions_setAccrualStatus (select : CommissionAccrual → Bool)
    (status : AccrualStatus) :
    (store.setAccrualStatus select status).ledgerTransactions = store.ledgerTransactions := by
  refine ledgerTransactions_of_map ?_ (setAccrualStatus_rows select status)
    (setAccrualStatus_ledgers select status)
  intro snapshot
  split <;> rfl

theorem Books.create (h : Books store) (hwf : store.WellFormed)
    {input : CreatePayoutBatchFromAvailableAccrualsInput} {batch : PayoutBatchRecord}
    (hcreates : CreatesBatch env store input batch store') : Books store' := by
  refine h.quiet (KeepsTerms.withStatusIf (fun accrual => accrual.id ∈ batch.accrualIds.dedup)
    .allocated) ?_ ?_ ?_ ?_
  · rw [hcreates.writes]
    exact listAccruals_setAccrualStatus _ _
  · intro accrual haccrual
    by_cases hid : accrual.id ∈ batch.accrualIds
    · rw [CommissionAccrual.withStatusIf, if_pos (by simpa using hid),
        hcreates.available accrual haccrual hid]
      simp
    · rw [CommissionAccrual.withStatusIf, if_neg (by simpa using hid)]
  · rw [hcreates.writes]
    exact ledgerTransactions_setAccrualStatus _ _
  · intro b hb
    rw [hcreates.writes] at hb
    rcases Table.mem_upsert.mp hb with rfl | ⟨hold, -⟩
    · exact hcreates.planned.itemsFunded hwf.accrualIds
    · exact h.funded b hold

theorem Books.release (h : Books store) {input : ReleasePayoutBatchAllocationsInput}
    {batch released : PayoutBatchRecord}
    (hreleases : ReleasesBatch host store input batch released store') : Books store' := by
  obtain ⟨message, updatedAt, hreleased⟩ := hreleases.granted.released
  refine h.quiet (KeepsTerms.withStatusIf (fun accrual =>
    accrual.status = .allocated && accrual.id ∈ released.accrualIds) .available) ?_ ?_ ?_ ?_
  · rw [hreleases.writes]
    exact listAccruals_setAccrualStatus _ _
  · intro accrual _
    unfold CommissionAccrual.withStatusIf
    split
    · rename_i hselect
      rw [Bool.and_eq_true, decide_eq_true_eq] at hselect
      rw [hselect.1]
      exact ⟨fun _ => ⟨nofun, nofun⟩, fun _ => ⟨nofun, nofun⟩⟩
    · exact Iff.rfl
  · rw [hreleases.writes]
    exact ledgerTransactions_setAccrualStatus _ _
  · intro b hb
    rw [hreleases.writes, setAccrualStatus_batches] at hb
    rcases Table.mem_upsert.mp hb with rfl | ⟨hold, -⟩
    · have hfunded := h.funded batch (Table.mem_of_find? hreleases.found)
      rw [hreleased]
      exact hfunded.of_items (g := fun item => { item with status := .released })
        (fun _ => ⟨rfl, rfl, rfl⟩) rfl rfl
    · exact h.funded b hold

theorem Books.finality (h : Books store) {existing : PayoutTransactionRecord}
    {input : MarkPayoutTransactionFinalityInput} {observedAt : String} :
    Books (({ store with
      payoutTransactionsById := store.payoutTransactionsById.upsert
        (finalityTransaction existing input observedAt) } : Memory).rollUpPayoutBatchFinality host
          existing.payoutBatchId observedAt) := by
  rcases rollUpPayoutBatchFinality_cases host
    { store with
      payoutTransactionsById := store.payoutTransactionsById.upsert
        (finalityTransaction existing input observedAt) } existing.payoutBatchId observedAt with
    ⟨hsame, -⟩ | ⟨batch, rollup, hfound, -, hsame⟩
  · rw [hsame]
    exact h.of_eq rfl rfl h.funded
  · rw [hsame]
    refine h.of_eq rfl rfl ?_
    intro b hb
    rcases Table.mem_upsert.mp hb with rfl | ⟨hold, -⟩
    · refine (h.funded batch (Table.mem_of_find? hfound)).of_items ?_ rfl rfl
      intro item
      exact ⟨rfl, rfl, rfl⟩
    · exact h.funded b hold

/-- **A closure debits every wallet with what it pays of its accruals.** -/
theorem Books.close (h : Books store) (hwf : store.WellFormed) (hinv : Inv store.escrow)
    {input : ClosePayoutBatchLedgerInput} {batch : PayoutBatchRecord}
    {transaction : LedgerTransaction} (hcloses : ClosesLedger store input batch transaction store') :
    Books store' := by
  have hbid : batch.id = input.payoutBatchId := Table.key_of_find? hcloses.found
  have hfind : store.payoutBatchesById.find? batch.id = some batch := hbid ▸ hcloses.found
  have hlive : store.escrow.live batch.id := ⟨batch, hfind, by rw [hcloses.closes.finalized]; nofun⟩
  have hholds : store.escrow.holds batch.id = batch.accrualIds := by simp [escrow, hfind]
  have hopen : ¬ store.escrow.closed batch.id := by
    intro hclosed
    obtain ⟨t, ht, hsource⟩ := Table.has_eq_true.mp hclosed
    exact Table.find?_eq_none.mp hcloses.first t ht (hsource.trans hbid)
  -- the batch still holds what it allocates
  have hheld : ∀ accrual ∈ store.listAccruals, accrual.id ∈ batch.accrualIds →
      accrual.status = .allocated := by
    intro accrual haccrual hid
    have hcond := hinv.held batch.id hlive hopen accrual.id (hholds ▸ hid)
    have hlook : lookupAccrual store.listAccruals accrual.id = some accrual :=
      lookupAccrual_of_mem hwf.accrualIds haccrual
    rw [escrow_cond, condIn_of_lookup hlook, condition_eq_held] at hcond
    exact hcond
  have hkeeps := KeepsTerms.withStatusIf (fun accrual =>
    accrual.status = .allocated && accrual.id ∈ batch.finalizedAccrualIds) .paid
  have hacc : store'.listAccruals = store.listAccruals.map (fun accrual =>
      accrual.withStatusIf (fun accrual =>
        accrual.status = .allocated && accrual.id ∈ batch.finalizedAccrualIds) .paid) := by
    rw [hcloses.writes]
    exact listAccruals_setAccrualStatus _ _
  have hfunded := h.funded batch (Table.mem_of_find? hcloses.found)
  refine ⟨?_, ?_⟩
  · intro b hb
    rw [hcloses.writes, setAccrualStatus_batches] at hb
    rw [hacc]
    exact (h.funded b hb).map hkeeps
  · intro wallet asset
    have hpayable : store'.payableTo wallet asset =
        store.payableTo wallet asset - batch.paysTo wallet asset := by
      unfold payableTo
      rw [hcloses.writes, ledgerTransactions_setAccrualStatus]
      unfold ledgerTransactions
      have hnew : ∀ t ∈ store.payoutLedgerTransactionsByBatchId, t.sourceId ≠ transaction.sourceId := by
        intro t ht hsource
        exact Table.find?_eq_none.mp hcloses.first t ht
          (hsource.trans (hcloses.closes.sourceId.trans hbid))
      rw [Table.rows_upsert_of_new hnew]
      simp only [List.map_append, List.sum_append, List.map_cons, List.map_nil, List.sum_cons,
        List.sum_nil, hcloses.closes.payable]
      omega
    have howed : store.owedTo wallet asset =
        store'.owedTo wallet asset + batch.paysTo wallet asset := by
      rw [← hfunded.paysTo hwf.accrualIds (hholds ▸ hinv.nodup batch.id hlive)]
      unfold owedTo
      rw [hacc, List.map_map, ← List.sum_map_add]
      refine congrArg List.sum (List.map_congr_left fun accrual haccrual => ?_)
      rw [Function.comp_apply]
      by_cases hid : accrual.id ∈ batch.accrualIds
      · have hstatus := hheld accrual haccrual hid
        have hpaid : (accrual.withStatusIf (fun accrual => accrual.status = .allocated &&
            accrual.id ∈ batch.finalizedAccrualIds) .paid).status = .paid := by
          rw [CommissionAccrual.withStatusIf,
            if_pos (by simp [hstatus, hcloses.closes.finalizedAccrualIds, hid])]
        rw [if_pos hid, CommissionAccrual.owes, CommissionAccrual.owes, hpaid,
          CommissionAccrual.share, hstatus]
        simp
      · have hkept : accrual.withStatusIf (fun accrual => accrual.status = .allocated &&
            accrual.id ∈ batch.finalizedAccrualIds) .paid = accrual := by
          rw [CommissionAccrual.withStatusIf,
            if_neg (by simp [hcloses.closes.finalizedAccrualIds, hid])]
        rw [if_neg hid, hkept, add_zero]
    rw [hpayable, h.reconciles wallet asset, howed]
    omega

/-- **Every call that keeps the books keeps them in order.** -/
theorem Books.exec (h : Books store) (hwf : store.WellFormed) (hinv : Inv store.escrow)
    {call : StoreCall} (hfresh : store.fresh call = true)
    (hsaves : ∀ snapshot, call.op = .save snapshot → snapshot.Balanced)
    (hnothing : store.rejectsNothingOwed call = true)
    (hexec : store.exec host call = .ok store') : Books store' := by
  obtain ⟨env, op⟩ := call
  cases op with
  | save snapshot =>
      rw [Memory.exec, pure_eq_ok] at hexec
      unfold fresh at hfresh
      simp only [Bool.and_eq_true, Bool.not_eq_true'] at hfresh
      exact hexec ▸ h.save hfresh.1 (hsaves snapshot rfl)
  | markReceiptChainVerified input =>
      rw [Memory.exec, pure_eq_ok] at hexec
      exact hexec ▸ h.verified hwf input
  | markReceiptChainRejected input =>
      rw [Memory.exec, pure_eq_ok] at hexec
      exact hexec ▸ h.rejected hwf input hnothing
  | createPayoutBatchFromAvailableAccruals input =>
      obtain ⟨⟨batch, left⟩, hop, rfl⟩ := map_eq_ok.mp hexec
      exact h.create hwf (createPayoutBatchFromAvailableAccruals_eq_ok hwf.accrualIds hop)
  | releasePayoutBatchAllocations input =>
      obtain ⟨⟨result, left⟩, hop, rfl⟩ := map_eq_ok.mp hexec
      rcases releasePayoutBatchAllocations_eq_ok hop with
        ⟨-, -, rfl⟩ | ⟨batch, released, -, hreleases⟩
      · exact h
      · exact h.release hreleases
  | saveSignedPayoutTransactions input =>
      obtain ⟨⟨records, left⟩, hop, rfl⟩ := map_eq_ok.mp hexec
      obtain ⟨batch, hwrites⟩ := saveSignedPayoutTransactions_eq_ok hop
      rw [hwrites.writes]
      exact h.of_eq rfl rfl h.funded
  | markPayoutTransactionSubmitted input =>
      obtain ⟨⟨result, left⟩, hop, rfl⟩ := map_eq_ok.mp hexec
      rcases markPayoutTransactionSubmitted_eq_ok hop with ⟨-, rfl⟩ | ⟨_, _, -, rfl⟩
      · exact h
      · exact h.of_eq rfl rfl h.funded
  | markPayoutTransactionFinality input =>
      obtain ⟨⟨result, left⟩, hop, rfl⟩ := map_eq_ok.mp hexec
      rcases markPayoutTransactionFinality_eq_ok hop with ⟨-, rfl⟩ | ⟨_, _, -, -, -, rfl⟩
      · exact h
      · exact h.finality
  | closeFinalizedPayoutBatchLedger input =>
      obtain ⟨⟨result, left⟩, hop, rfl⟩ := map_eq_ok.mp hexec
      rcases closeFinalizedPayoutBatchLedger_eq_ok hop with ⟨rfl, -⟩ | ⟨batch, t, -, hcloses⟩
      · exact h
      · exact h.close hwf hinv hcloses

/-! ## Runs -/

/-- A run that keeps the books respects cancellation. -/
theorem respecting_of_ledgerSystem
    (h : (ledgerSystem host).Reachable (fun store call => store.keepsBooks call = true) store) :
    Respecting host store := by
  induction h with
  | init h => exact .init h
  | step _ hok hs ih =>
      obtain ⟨hfresh, -, rfl⟩ := hs
      unfold keepsBooks at hok
      rw [Bool.and_eq_true] at hok
      exact .step ih hok.1 ⟨hfresh, rfl⟩

/-- **In every run that rejects no pending accrual and leaves cancelled batches alone, the ledger
reconciles with the accruals.** -/
theorem ledger_reconciles
    (h : (ledgerSystem host).Reachable (fun store call => store.keepsBooks call = true) store) :
    store.Reconciles := by
  have hbooks : Books store := by
    refine h.invariant ?_ ?_
    · rintro _ rfl
      exact ⟨fun batch hbatch => absurd hbatch Table.not_mem_empty, fun _ _ => rfl⟩
    · intro s call s' hr hbooks hok hstep
      obtain ⟨hfresh, hsaves, rfl⟩ := hstep
      obtain ⟨hwf, hinv⟩ := (respecting_of_ledgerSystem hr).inv
      unfold keepsBooks at hok
      rw [Bool.and_eq_true] at hok
      unfold next
      split
      · rename_i left hexec
        refine hbooks.exec hwf hinv hfresh ?_ hok.2 hexec
        intro snapshot hop
        obtain ⟨ν, ingestor, ingest, hawaits⟩ := hsaves snapshot hop
        obtain ⟨receipt, receiptHash, hsnapshots⟩ :=
          ReceiptIngestor.snapshots_of_awaits hawaits
        exact ReceiptIngestor.createSnapshot_balanced hsnapshots.created
      · exact hbooks
  exact hbooks.reconciles

end Memory

/-! ## A sale that is paid, and one that is rejected -/

namespace Sample

def saleDigest : String := "b0d669a9916071831d30cf05a87dad5bc78f544a386b95bdcd78c26c6f64c7f6"

/-- The snapshot of the sale, as its ingestion saves it. -/
def saleSnapshot : ReceiptIngestionSnapshot where
  receipt := ⟨freeSale.receiptId, "sha256:" ++ saleDigest, freeSale, .buyer,
    .pendingChainVerification, none, now⟩
  accrual := some ⟨"acr_b0d669a9916071831d30cf05a87dad5b", freeSale.receiptId, freeSale.merchantId,
    freeSale.campaignId, idOf "rte" 1, wallet, wallet, wallet, "10", .pendingChainVerification, none,
    now⟩
  ledgerTransaction := some ⟨"ldg_b0d669a9916071831d30cf05a87dad5b", .commissionAccrual,
    "acr_b0d669a9916071831d30cf05a87dad5b", wallet,
    [⟨"lde_b0d669a9916071831d30cf05a87dad5b", "ldg_b0d669a9916071831d30cf05a87dad5b",
        .merchantCommissionLiability, freeSale.merchantId, wallet, "-10"⟩,
      ⟨"lde_b0d669a9916071831d30cf05a87dad5b", "ldg_b0d669a9916071831d30cf05a87dad5b",
        .referrerPayable, wallet, wallet, "10"⟩,
      ⟨"lde_b0d669a9916071831d30cf05a87dad5b", "ldg_b0d669a9916071831d30cf05a87dad5b",
        .protocolFeePayable, "split402", wallet, "0"⟩], now⟩

/-- The sale is ingested and paid. -/
def paySale : List StoreOp :=
  [.save saleSnapshot, .markReceiptChainVerified ⟨freeSale.receiptId, now⟩,
    .createPayoutBatchFromAvailableAccruals
      ⟨idOf "mrc" 1, idOf "mpw" 1, "solana:devnet", wallet, none, none, some now, none,
        some (idOf "pbt" 1), some (fun _ => idOf "pit" 1), none, none⟩,
    saveSigned 1 1 0 1 none, markSubmitted 1, markFinality 1 .finalized none,
    .closeFinalizedPayoutBatchLedger (closeInput 1)]

/-- The sale is ingested and not found on chain. -/
def rejectSale : List StoreOp :=
  [.save saleSnapshot, .markReceiptChainRejected ⟨freeSale.receiptId, now, "not found"⟩]

end Sample

open ReceiptIngestor in
theorem createSnapshot_sale :
    (sampleIngestor.createSnapshot (sampleCall Sample.freeSale) Sample.freeSale
      ("sha256:" ++ Sample.saleDigest) .buyer) = .ok Sample.saleSnapshot := by
  rfl

open ReceiptIngestor in
/-- An ingestion of the sale saves it. -/
theorem awaits_saleSnapshot : Async.Awaits
    (sampleIngestor.ingest (sampleCall Sample.freeSale)) (.save Sample.saleSnapshot) := by
  have hparsed : sampleIngestor.safeParse (sampleCall Sample.freeSale) = some Sample.freeSale :=
    Option.filter_eq_some_iff.mpr ⟨rfl, Sample.freeSale_schema⟩
  have hsnapshots : Snapshots sampleIngestor (sampleCall Sample.freeSale) Sample.freeSale
      ("sha256:" ++ Sample.saleDigest) Sample.saleSnapshot :=
    ⟨hparsed, hashReceipt_eq Sample.saleRuntime_standard Sample.freeSale,
      ⟨_, _, Sample.freeSale_verifies, rfl⟩, createSnapshot_sale⟩
  exact hsnapshots.awaits

namespace Memory

/-- What the call saves, if it saves anything, is the sale. -/
def savesSale (call : StoreCall) : Bool :=
  match call.op with
  | .save snapshot => snapshot == Sample.saleSnapshot
  | _ => true

/-- A traced run in which nothing but the sale is saved. -/
theorem reachable_sales {ok : Memory → StoreCall → Bool} {ops : List StoreOp}
    (h : System.admittedAlong (next isoHost)
      (fun store call => store.fresh call && ok store call && savesSale call)
      empty (Sample.calls ops) = true) :
    (ledgerSystem isoHost).Reachable (fun store call => ok store call = true) (sample ops) := by
  refine System.Reachable.of_trace ?_ (.init rfl) h
  intro store call haccept
  rw [Bool.and_eq_true, Bool.and_eq_true] at haccept
  refine ⟨call, haccept.1.2, haccept.1.1, ?_, rfl⟩
  intro snapshot hop
  have hsale := haccept.2
  unfold savesSale at hsale
  rw [hop] at hsale
  rw [beq_iff_eq.mp hsale]
  exact ⟨_, _, _, awaits_saleSnapshot⟩

set_option maxRecDepth 100000 in
/-- The sale that is paid: the ledger reconciles, with nothing left to pay. -/
theorem ledger_reconciles_paySale : (sample Sample.paySale).Reconciles ∧
    (sample Sample.paySale).ledgerTransactions.length = 2 := by
  refine ⟨@ledger_reconciles isoHost _ (reachable_sales (by decide +kernel)), ?_⟩
  decide +kernel

set_option maxRecDepth 100000 in
/-- The sale that is rejected: the credit stays, and nothing is owed. -/
theorem not_ledger_reconciles_rejectSale : ∃ store,
    (ledgerSystem isoHost).Reachable (fun _ _ => True) store ∧ ¬ store.Reconciles := by
  have hreach : (ledgerSystem isoHost).Reachable (fun _ _ => true = true)
      (sample Sample.rejectSale) := reachable_sales (by decide +kernel)
  refine ⟨_, hreach.mono fun _ _ _ => trivial, ?_⟩
  intro h
  have hpayable : (sample Sample.rejectSale).payableTo Sample.wallet Sample.wallet = 10 := by
    decide +kernel
  have howed : (sample Sample.rejectSale).owedTo Sample.wallet Sample.wallet = 0 := by
    decide +kernel
  have hsame := h Sample.wallet Sample.wallet
  rw [hpayable, howed] at hsame
  omega

end Memory

end Split402

import Split402.Proof.MemoryOps
import Split402.Proof.PostgresOps
import Split402.Store.Lifecycle

/-! # An accrual lives as its receipt does

Six operations of two stores write the status of an accrual, each with a guard of its own. In both
stores every write is a change of the accruals where they stand, so it is enough to say of each
operation which statuses it selects: an accrual then makes one of the five moves, and its receipt
stays in the state that goes with the status. -/

namespace Split402

open Base

variable {host : Host} {env : CallEnv}

/-! ## Statuses -/

/-- An accrual that is verified on chain goes with a receipt whose signature was verified. -/
theorem AccrualStatus.agrees_iff_verified {status : AccrualStatus} {state : ReceiptVerificationState}
    (h : status = .available ∨ status = .allocated ∨ status = .paid) :
    status.Agrees state ↔ state = .signatureVerified := by
  rcases h with rfl | rfl | rfl <;> rfl

/-- A paid accrual makes no move. -/
theorem AccrualStatus.not_moves_paid (status : AccrualStatus) : ¬ Moves .paid status := by
  intro h
  cases h

/-- A rejected accrual makes no move. -/
theorem AccrualStatus.not_moves_rejected (status : AccrualStatus) : ¬ Moves .rejected status := by
  intro h
  cases h

namespace ReceiptIngestor

variable {ν : Type} {ingestor : ReceiptIngestor ν} {call : IngestCall} {receipt : Split402ReceiptV1}
  {createdAt : String}

theorem createAccrual_eq_ok {accrual : Option CommissionAccrual}
    (h : ingestor.createAccrual call receipt createdAt = .ok accrual) :
    ∀ a, accrual = some a → a.status = .pendingChainVerification ∧ a.receiptId = receipt.receiptId ∧
      a.asset = receipt.asset ∧ a.amountAtomic = receipt.referrerCreditAtomic := by
  unfold createAccrual at h
  split at h
  · obtain ⟨credit, -, h⟩ := bind_eq_ok.mp h
    split at h
    · rw [pure_eq_ok] at h
      subst h
      intro a ha
      cases ha
    · rw [pure_eq_ok] at h
      subst h
      intro a ha
      injection ha with ha
      subst ha
      exact ⟨rfl, rfl, rfl, rfl⟩
  · rw [pure_eq_ok] at h
    subst h
    intro a ha
    cases ha

/-- The parts of a snapshot the ingestor makes. -/
theorem createSnapshot_eq_ok {receiptHash : String} {source : ReceiptIngestSource}
    {snapshot : ReceiptIngestionSnapshot}
    (h : ingestor.createSnapshot call receipt receiptHash source = .ok snapshot) :
    ∃ createdAt, snapshot.receipt = ⟨receipt.receiptId, receiptHash, receipt, source,
        .pendingChainVerification, none, createdAt⟩ ∧
      ingestor.createAccrual call receipt createdAt = .ok snapshot.accrual ∧
      (snapshot.accrual = none → snapshot.ledgerTransaction = none) ∧
      ∀ accrual, snapshot.accrual = some accrual → ∃ transaction,
        snapshot.ledgerTransaction = some transaction ∧
        ingestor.createLedgerTransaction call receipt accrual createdAt = .ok transaction := by
  unfold createSnapshot at h
  obtain ⟨accrual, haccrual, h⟩ := bind_eq_ok.mp h
  refine ⟨ingestor.host.toISOString call.env.clock, ?_⟩
  cases accrual with
  | none =>
      dsimp only at h
      obtain ⟨ledger, hledger, h⟩ := bind_eq_ok.mp h
      rw [pure_eq_ok] at hledger h
      subst hledger h
      refine ⟨rfl, haccrual, fun _ => rfl, ?_⟩
      intro a ha
      cases ha
  | some accrual =>
      dsimp only at h
      obtain ⟨ledger, hledger, h⟩ := bind_eq_ok.mp h
      obtain ⟨transaction, htransaction, rfl⟩ := map_eq_ok.mp hledger
      rw [pure_eq_ok] at h
      subst h
      refine ⟨rfl, haccrual, (fun hnone => nomatch hnone), ?_⟩
      intro a ha
      injection ha with ha
      subst ha
      exact ⟨transaction, rfl, htransaction⟩

/-- What the ingestor saves waits for the chain. -/
theorem createSnapshot_isPending {receiptHash : String} {source : ReceiptIngestSource}
    {snapshot : ReceiptIngestionSnapshot}
    (h : ingestor.createSnapshot call receipt receiptHash source = .ok snapshot) :
    snapshot.isPending = true := by
  obtain ⟨createdAt, hreceipt, haccrual, -, -⟩ := createSnapshot_eq_ok h
  have hspec := createAccrual_eq_ok haccrual
  unfold ReceiptIngestionSnapshot.isPending
  rw [hreceipt]
  cases ha : snapshot.accrual with
  | none => rfl
  | some accrual =>
      obtain ⟨hstatus, hid, -⟩ := hspec accrual ha
      simp [hstatus, hid]

end ReceiptIngestor

/-! ## The store in memory -/

namespace Memory

variable {store store' : Memory}

/-- What a call may do to the accruals and their receipts. -/
def KeepsLives (store store' : Memory) : Prop :=
  System.Advances AccrualStatus.Moves store.statusOf store'.statusOf ∧ store'.ReceiptsAgree

theorem KeepsLives.of_eq (hagree : store.ReceiptsAgree)
    (h : store'.receiptsById = store.receiptsById) : KeepsLives store store' := by
  refine ⟨.of_eq ?_, ?_⟩
  · funext key
    rw [statusOf, statusOf, h]
  · unfold ReceiptsAgree
    rw [h]
    exact hagree

theorem statusOf_eq_some {key : String × String} {status : AccrualStatus} :
    store.statusOf key = some status ↔ ∃ snapshot accrual,
      store.receiptsById.find? key.1 = some snapshot ∧ snapshot.accrual = some accrual ∧
        accrual.id = key.2 ∧ accrual.status = status := by
  unfold statusOf
  rw [Option.bind_eq_some_iff]
  constructor
  · rintro ⟨snapshot, hfind, h⟩
    obtain ⟨accrual, hfilter, hstatus⟩ := Option.map_eq_some_iff.mp h
    obtain ⟨haccrual, hid⟩ := Option.filter_eq_some_iff.mp hfilter
    exact ⟨snapshot, accrual, hfind, haccrual, by simpa using hid, hstatus⟩
  · rintro ⟨snapshot, accrual, hfind, haccrual, hid, hstatus⟩
    refine ⟨snapshot, hfind, ?_⟩
    rw [haccrual, Option.map_eq_some_iff]
    exact ⟨accrual, Option.filter_eq_some_iff.mpr ⟨rfl, by simpa using hid⟩, hstatus⟩

/-- The snapshot's accrual has made at most one move, and its receipt goes with it. -/
def SnapshotLives (before after : ReceiptIngestionSnapshot) : Prop :=
  (before.accrual = none → after.accrual = none) ∧
  ∀ accrual, before.accrual = some accrual →
    accrual.status.Agrees before.receipt.verificationState →
    ∃ accrual', after.accrual = some accrual' ∧ accrual'.id = accrual.id ∧
      Relation.ReflGen AccrualStatus.Moves accrual.status accrual'.status ∧
      accrual'.status.Agrees after.receipt.verificationState

/-- Snapshots that change where they stand. -/
theorem keepsLives_of_map {f : ReceiptIngestionSnapshot → ReceiptIngestionSnapshot}
    (hkey : ∀ snapshot, (f snapshot).receipt.id = snapshot.receipt.id)
    (hrows : store'.receiptsById.rows = store.receiptsById.rows.map f)
    (hagree : store.ReceiptsAgree)
    (hf : ∀ snapshot ∈ store.receiptsById, SnapshotLives snapshot (f snapshot)) :
    KeepsLives store store' := by
  have hfind := Table.find?_of_map hkey hrows
  refine ⟨?_, ?_⟩
  · intro key status hstatus
    obtain ⟨snapshot, accrual, hsnapshot, haccrual, hid, rfl⟩ := statusOf_eq_some.mp hstatus
    have hmem := Table.mem_of_find? hsnapshot
    obtain ⟨accrual', haccrual', hid', hmoves, -⟩ :=
      (hf snapshot hmem).2 accrual haccrual (hagree snapshot hmem accrual haccrual)
    have hsnapshot' : store'.receiptsById.find? key.1 = some (f snapshot) := by
      rw [hfind, hsnapshot]
      rfl
    exact ⟨accrual'.status, statusOf_eq_some.mpr
      ⟨f snapshot, accrual', hsnapshot', haccrual', hid'.trans hid, rfl⟩, hmoves⟩
  · intro after hafter accrual' haccrual'
    rw [Table.mem_def, hrows] at hafter
    obtain ⟨snapshot, hmem, rfl⟩ := List.mem_map.mp hafter
    cases haccrual : snapshot.accrual with
    | none =>
        rw [(hf snapshot hmem).1 haccrual] at haccrual'
        cases haccrual'
    | some accrual =>
        obtain ⟨moved, hmoved, -, -, hagree'⟩ :=
          (hf snapshot hmem).2 accrual haccrual (hagree snapshot hmem accrual haccrual)
        rw [hmoved] at haccrual'
        injection haccrual' with heq
        exact heq ▸ hagree'

theorem SnapshotLives.refl (snapshot : ReceiptIngestionSnapshot) :
    SnapshotLives snapshot snapshot :=
  ⟨fun h => h, fun accrual h hagrees => ⟨accrual, h, rfl, .refl, hagrees⟩⟩

/-- A snapshot is written back with its accrual moved. -/
theorem keepsLives_save (change : ReceiptIngestionSnapshot → ReceiptIngestionSnapshot)
    {snapshot : ReceiptIngestionSnapshot} (hmem : snapshot ∈ store.receiptsById)
    (hkey : ∀ snapshot, (change snapshot).receipt.id = snapshot.receipt.id)
    (hagree : store.ReceiptsAgree) (hlives : SnapshotLives snapshot (change snapshot)) :
    KeepsLives store (store.save (change snapshot)) := by
  refine keepsLives_of_map (f := fun s =>
    if s.receipt.id = snapshot.receipt.id then change s else s) ?_
    (Table.rows_upsert_of_mem hmem (hkey snapshot)) hagree ?_
  · intro s
    split
    · exact hkey s
    · rfl
  · intro s hs
    split
    · rename_i hid
      have hsame : s = snapshot := Table.eq_of_key hs hmem hid
      subst hsame
      exact hlives
    · exact .refl s

/-- A new snapshot that waits for the chain. -/
theorem keepsLives_save_new {snapshot : ReceiptIngestionSnapshot}
    (hnew : store.receiptsById.has snapshot.receipt.id = false)
    (hpending : snapshot.isPending = true) (hagree : store.ReceiptsAgree) :
    KeepsLives store (store.save snapshot) := by
  unfold ReceiptIngestionSnapshot.isPending at hpending
  simp only [Bool.and_eq_true, beq_iff_eq] at hpending
  obtain ⟨hstate, haccruals⟩ := hpending
  refine ⟨?_, ?_⟩
  · intro key status hstatus
    obtain ⟨found, accrual, hfind, hrest⟩ := statusOf_eq_some.mp hstatus
    have hne : snapshot.receipt.id ≠ key.1 := by
      intro hid
      have hkey := Table.key_of_find? hfind
      have hnot := Table.has_eq_false.mp hnew found (Table.mem_of_find? hfind)
      exact hnot (hkey.trans hid.symm)
    refine ⟨status, statusOf_eq_some.mpr ⟨found, accrual, ?_, hrest⟩, .refl⟩
    rw [save_receiptsById, Table.find?_upsert, if_neg hne]
    exact hfind
  · intro after hafter accrual haccrual
    rw [save_receiptsById] at hafter
    rcases Table.mem_upsert.mp hafter with rfl | ⟨hold, -⟩
    · rw [haccrual] at haccruals
      simp only [Option.all_some, Bool.and_eq_true, beq_iff_eq] at haccruals
      rw [haccruals.1]
      exact hstate
    · exact hagree after hold accrual haccrual

/-- The loop over the snapshots moves the accruals it selects. -/
theorem keepsLives_setAccrualStatus {select : CommissionAccrual → Bool} {status : AccrualStatus}
    (hagree : store.ReceiptsAgree)
    (hselect : ∀ accrual ∈ store.listAccruals, select accrual = true →
      AccrualStatus.Moves accrual.status status ∧
        ∀ state, accrual.status.Agrees state → status.Agrees state) :
    KeepsLives store (store.setAccrualStatus select status) := by
  refine keepsLives_of_map ?_ (setAccrualStatus_rows select status) hagree ?_
  · intro snapshot
    split <;> rfl
  · intro snapshot hmem
    split
    · rename_i hany
      obtain ⟨accrual, haccrual, hsel⟩ := (Option.any_eq_true _ _).mp hany
      have hlisted : accrual ∈ store.listAccruals := List.mem_filterMap.mpr ⟨snapshot, hmem, haccrual⟩
      obtain ⟨hmoves, hagrees⟩ := hselect accrual hlisted hsel
      refine ⟨fun hnone => (by rw [haccrual] at hnone; cases hnone), ?_⟩
      intro a ha hstate
      rw [haccrual] at ha
      injection ha with ha
      subst ha
      refine ⟨{ accrual with status := status }, ?_, rfl, .single hmoves, hagrees _ hstate⟩
      unfold ReceiptIngestionSnapshot.withAccrualStatus
      rw [haccrual]
      rfl
    · exact .refl snapshot

/-- An accrual that waits for the chain and one that does not, with what its receipt does. -/
theorem pending_iff_of_agrees {status : AccrualStatus} {state : ReceiptVerificationState}
    (h : status.Agrees state) :
    status = .pendingChainVerification ↔ state = .pendingChainVerification := by
  cases status with
  | pendingChainVerification => exact ⟨fun _ => h, fun _ => rfl⟩
  | available => exact ⟨nofun, fun hstate => nomatch hstate.symm.trans h⟩
  | held => exact h.elim
  | allocated => exact ⟨nofun, fun hstate => nomatch hstate.symm.trans h⟩
  | paid => exact ⟨nofun, fun hstate => nomatch hstate.symm.trans h⟩
  | rejected => exact ⟨nofun, fun hstate => nomatch hstate.symm.trans h⟩
  | reversed => exact h.elim

/-- A verifying mark, on the snapshot it finds. -/
theorem verifiedSnapshot_lives (snapshot : ReceiptIngestionSnapshot) (verifiedAt : String) :
    SnapshotLives snapshot (verifiedSnapshot snapshot verifiedAt) := by
  refine ⟨fun hnone => (by rw [verifiedSnapshot, hnone]; rfl), ?_⟩
  intro accrual haccrual hagrees
  have hstate := pending_iff_of_agrees hagrees
  by_cases hpending : accrual.status = .pendingChainVerification
  · refine ⟨{ accrual with status := .available, availableAt := some verifiedAt }, ?_, rfl, ?_, ?_⟩
    · rw [verifiedSnapshot, haccrual, Option.map_some, if_pos hpending]
    · rw [hpending]
      exact .single .verify
    · exact if_pos (hstate.mp hpending)
  · refine ⟨accrual, ?_, rfl, .refl, ?_⟩
    · rw [verifiedSnapshot, haccrual, Option.map_some, if_neg hpending]
    · have hkept : (verifiedSnapshot snapshot verifiedAt).receipt.verificationState =
          snapshot.receipt.verificationState := if_neg (mt hstate.mpr hpending)
      rw [hkept]
      exact hagrees

/-- A rejecting mark, on the snapshot it finds. -/
theorem rejectedSnapshot_lives (snapshot : ReceiptIngestionSnapshot) (reason : String) :
    SnapshotLives snapshot (rejectedSnapshot snapshot reason) := by
  refine ⟨fun hnone => (by rw [rejectedSnapshot, hnone]; rfl), ?_⟩
  intro accrual haccrual hagrees
  have hstate := pending_iff_of_agrees hagrees
  by_cases hpending : accrual.status = .pendingChainVerification
  · refine ⟨{ accrual with status := .rejected }, ?_, rfl, ?_, ?_⟩
    · rw [rejectedSnapshot, haccrual, Option.map_some, if_pos hpending]
    · rw [hpending]
      exact .single .reject
    · exact if_pos (hstate.mp hpending)
  · refine ⟨accrual, ?_, rfl, .refl, ?_⟩
    · rw [rejectedSnapshot, haccrual, Option.map_some, if_neg hpending]
    · have hkept : (rejectedSnapshot snapshot reason).receipt.verificationState =
          snapshot.receipt.verificationState := if_neg (mt hstate.mpr hpending)
      rw [hkept]
      exact hagrees

theorem markReceiptChainVerified_lives (hagree : store.ReceiptsAgree)
    (input : MarkReceiptChainVerifiedInput) :
    KeepsLives store (store.markReceiptChainVerified input).2 := by
  unfold markReceiptChainVerified
  split
  · exact .of_eq hagree rfl
  · rename_i snapshot hfind
    exact keepsLives_save (fun s => verifiedSnapshot s input.verifiedAt)
      (Table.mem_of_find? hfind) (fun _ => rfl) hagree (verifiedSnapshot_lives _ _)

theorem markReceiptChainRejected_lives (hagree : store.ReceiptsAgree)
    (input : MarkReceiptChainRejectedInput) :
    KeepsLives store (store.markReceiptChainRejected input).2 := by
  unfold markReceiptChainRejected
  split
  · exact .of_eq hagree rfl
  · rename_i snapshot hfind
    exact keepsLives_save (fun s => rejectedSnapshot s input.reason)
      (Table.mem_of_find? hfind) (fun _ => rfl) hagree (rejectedSnapshot_lives _ _)

theorem createPayoutBatch_lives {input : CreatePayoutBatchInput} {batch : PayoutBatchRecord}
    (hagree : store.ReceiptsAgree)
    (h : store.createPayoutBatch host env input = .ok (batch, store')) :
    KeepsLives store store' := by
  obtain ⟨-, havailable, rfl⟩ := createPayoutBatch_eq_ok h
  refine keepsLives_setAccrualStatus hagree ?_
  intro accrual haccrual hselect
  have hstatus := havailable accrual haccrual (by simpa using hselect)
  rw [hstatus]
  exact ⟨.allocate, fun _ hstate => hstate⟩

/-- The accruals a release or a closure selects are allocated. -/
theorem setAllocated_lives {store : Memory} {ids : List String} {status : AccrualStatus}
    (hagree : store.ReceiptsAgree) (hstatus : status = .available ∨ status = .paid) :
    KeepsLives store (store.setAccrualStatus
      (fun accrual => accrual.status = .allocated && accrual.id ∈ ids) status) := by
  refine keepsLives_setAccrualStatus hagree ?_
  intro accrual _ hselect
  rw [Bool.and_eq_true, decide_eq_true_eq] at hselect
  rw [hselect.1]
  rcases hstatus with rfl | rfl
  · exact ⟨.release, fun _ hstate => hstate⟩
  · exact ⟨.pay, fun _ hstate => hstate⟩

/-- Every call that returns moves accruals with their receipts. -/
theorem execAccrualCall_lives {call : AccrualCall} (hpending : store.savesPending call = true)
    (hagree : store.ReceiptsAgree) (h : store.execAccrualCall host call = .ok store') :
    KeepsLives store store' := by
  cases call with
  | createPayoutBatch env input =>
      obtain ⟨⟨batch, left⟩, hcall, rfl⟩ := map_eq_ok.mp h
      exact createPayoutBatch_lives hagree hcall
  | store call =>
      obtain ⟨env, op⟩ := call
      cases op with
      | save snapshot =>
          rw [savesPending, Bool.and_eq_true, Bool.not_eq_true'] at hpending
          rw [execAccrualCall, exec, pure_eq_ok] at h
          subst h
          exact keepsLives_save_new hpending.2 hpending.1 hagree
      | markReceiptChainVerified input =>
          rw [execAccrualCall, exec, pure_eq_ok] at h
          subst h
          exact markReceiptChainVerified_lives hagree input
      | markReceiptChainRejected input =>
          rw [execAccrualCall, exec, pure_eq_ok] at h
          subst h
          exact markReceiptChainRejected_lives hagree input
      | createPayoutBatchFromAvailableAccruals input =>
          obtain ⟨⟨batch, left⟩, hcall, rfl⟩ := map_eq_ok.mp h
          obtain ⟨accruals, -, hcreate⟩ := bind_eq_ok.mp hcall
          exact createPayoutBatch_lives hagree hcreate
      | releasePayoutBatchAllocations input =>
          obtain ⟨⟨result, left⟩, hcall, rfl⟩ := map_eq_ok.mp h
          rcases releasePayoutBatchAllocations_eq_ok hcall with
            ⟨-, -, rfl⟩ | ⟨batch, released, -, hreleases⟩
          · exact .of_eq hagree rfl
          · rw [hreleases.writes]
            have hlives := @setAllocated_lives
              { store with payoutBatchesById := store.payoutBatchesById.upsert released }
              released.accrualIds .available hagree (.inl rfl)
            exact hlives
      | saveSignedPayoutTransactions input =>
          obtain ⟨⟨records, left⟩, hcall, rfl⟩ := map_eq_ok.mp h
          obtain ⟨batch, hsaves⟩ := saveSignedPayoutTransactions_eq_ok hcall
          rw [hsaves.writes]
          exact .of_eq hagree rfl
      | markPayoutTransactionSubmitted input =>
          obtain ⟨⟨result, left⟩, hcall, rfl⟩ := map_eq_ok.mp h
          rcases markPayoutTransactionSubmitted_eq_ok hcall with ⟨-, rfl⟩ | ⟨_, _, -, rfl⟩
          · exact .of_eq hagree rfl
          · exact .of_eq hagree rfl
      | markPayoutTransactionFinality input =>
          obtain ⟨⟨result, left⟩, hcall, rfl⟩ := map_eq_ok.mp h
          rcases markPayoutTransactionFinality_eq_ok hcall with ⟨-, rfl⟩ | ⟨existing, at', -, -, -, rfl⟩
          · exact .of_eq hagree rfl
          · refine .of_eq hagree ?_
            rcases rollUpPayoutBatchFinality_cases host
              { store with
                payoutTransactionsById := store.payoutTransactionsById.upsert
                  (finalityTransaction existing input at') } existing.payoutBatchId at' with
              ⟨hsame, -⟩ | ⟨batch, rollup, -, -, hsame⟩
            · rw [hsame]
            · rw [hsame]
      | closeFinalizedPayoutBatchLedger input =>
          obtain ⟨⟨result, left⟩, hcall, rfl⟩ := map_eq_ok.mp h
          rcases closeFinalizedPayoutBatchLedger_eq_ok hcall with
            ⟨rfl, -⟩ | ⟨batch, transaction, -, hcloses⟩
          · exact .of_eq hagree rfl
          · rw [hcloses.writes]
            have hlives := @setAllocated_lives
              { store with
                payoutLedgerTransactionsByBatchId :=
                  store.payoutLedgerTransactionsByBatchId.upsert transaction }
              batch.finalizedAccrualIds .paid hagree (.inr rfl)
            exact hlives

/-- Every step moves accruals with their receipts. -/
theorem accrualSystem_lives {call : AccrualCall} (hagree : store.ReceiptsAgree)
    (h : (accrualSystem host).step store call store') : KeepsLives store store' := by
  obtain ⟨hpending, rfl⟩ := h
  unfold nextAccrualCall
  cases hcall : store.execAccrualCall host call with
  | error error => exact .of_eq hagree rfl
  | ok left => exact execAccrualCall_lives hpending hagree hcall

/-- In every run, receipts are in the states that go with their accruals. -/
theorem receiptsAgree_of_reachable
    (h : (accrualSystem host).Reachable (fun _ _ => True) store) : store.ReceiptsAgree := by
  refine h.invariant ?_ ?_
  · rintro _ rfl snapshot hsnapshot
    exact absurd hsnapshot Table.not_mem_empty
  · intro s call s' _ hagree _ hstep
    exact (accrualSystem_lives hagree hstep).2

end Memory

/-! ## The store in Postgres -/

namespace Db

variable {reads db db' : Db}

/-- What a transaction may do to the accruals and their receipts. -/
def KeepsLives (db db' : Db) : Prop :=
  System.Advances AccrualStatus.Moves db.statusOf db'.statusOf ∧ db'.ReceiptsAgree

theorem KeepsLives.of_eq (hagree : db.ReceiptsAgree)
    (haccruals : db'.commissionAccruals = db.commissionAccruals)
    (hreceipts : db'.paymentReceipts = db.paymentReceipts) : KeepsLives db db' := by
  refine ⟨.of_eq ?_, ?_⟩
  · funext key
    rw [statusOf, statusOf, haccruals]
  · unfold ReceiptsAgree
    rw [haccruals, hreceipts]
    exact hagree

/-- Rows that change where they stand. -/
theorem keepsLives_of_map {f : CommissionAccrualRow → CommissionAccrualRow}
    {g : PaymentReceiptRow → PaymentReceiptRow}
    (hkey : ∀ row, (f row).id = row.id) (hreceipt : ∀ row, (f row).receiptId = row.receiptId)
    (hid : ∀ receipt, (g receipt).id = receipt.id)
    (haccruals : db'.commissionAccruals.rows = db.commissionAccruals.rows.map f)
    (hreceipts : db'.paymentReceipts.rows = db.paymentReceipts.rows.map g)
    (hagree : db.ReceiptsAgree)
    (hf : ∀ row ∈ db.commissionAccruals, ∀ receipt : PaymentReceiptRow,
      receipt.id = row.receiptId → row.status.Agrees receipt.verificationState →
      Relation.ReflGen AccrualStatus.Moves row.status (f row).status ∧
        (f row).status.Agrees (g receipt).verificationState) :
    KeepsLives db db' := by
  refine ⟨?_, ?_⟩
  · intro key status hstatus
    obtain ⟨row, hrow, rfl⟩ := Option.map_eq_some_iff.mp hstatus
    have hmem := Table.mem_of_find? hrow
    obtain ⟨receipt, -, hof, hstate⟩ := hagree row hmem
    refine ⟨(f row).status, ?_, (hf row hmem receipt hof hstate).1⟩
    rw [statusOf, Table.find?_of_map hkey haccruals, hrow]
    rfl
  · intro row' hrow'
    rw [Table.mem_def, haccruals] at hrow'
    obtain ⟨row, hrow, rfl⟩ := List.mem_map.mp hrow'
    obtain ⟨receipt, hmem, hof, hstate⟩ := hagree row hrow
    refine ⟨g receipt, ?_, ?_, (hf row hrow receipt hof hstate).2⟩
    · rw [Table.mem_def, hreceipts]
      exact List.mem_map_of_mem hmem
    · rw [hid, hof, hreceipt]

/-- The accruals that satisfy `select` get a new status; the receipts stay. -/
theorem keepsLives_of_select {select : CommissionAccrualRow → Prop} [DecidablePred select]
    {status : AccrualStatus}
    (haccruals : db'.commissionAccruals.rows = db.commissionAccruals.rows.map (fun row =>
      if select row then { row with status := status } else row))
    (hreceipts : db'.paymentReceipts = db.paymentReceipts) (hagree : db.ReceiptsAgree)
    (hselect : ∀ row ∈ db.commissionAccruals, select row →
      AccrualStatus.Moves row.status status ∧
        ∀ state, row.status.Agrees state → status.Agrees state) :
    KeepsLives db db' := by
  refine keepsLives_of_map (g := fun receipt => receipt) ?_ ?_ (fun _ => rfl) haccruals ?_ hagree ?_
  · intro row
    split <;> rfl
  · intro row
    split <;> rfl
  · rw [hreceipts]
    exact (List.map_id _).symm
  · intro row hrow receipt _ hstate
    split
    · rename_i hsel
      obtain ⟨hmoves, hagrees⟩ := hselect row hrow hsel
      exact ⟨.single hmoves, hagrees _ hstate⟩
    · exact ⟨.refl, hstate⟩

/-- A mark of a receipt writes its row and its accrual's while both wait for the chain. -/
theorem keepsLives_mark {receiptId : String} {state : ReceiptVerificationState}
    {status : AccrualStatus} (changeReceipt : PaymentReceiptRow → PaymentReceiptRow)
    (changeAccrual : CommissionAccrualRow → CommissionAccrualRow)
    (hreceipt : ∀ row, (changeReceipt row).id = row.id ∧ (changeReceipt row).verificationState = state)
    (haccrual : ∀ row, (changeAccrual row).id = row.id ∧
      (changeAccrual row).receiptId = row.receiptId ∧ (changeAccrual row).status = status)
    (hmoves : AccrualStatus.Moves .pendingChainVerification status) (hstate : status.Agrees state)
    (hagree : db.ReceiptsAgree)
    (haccruals : db'.commissionAccruals.rows = db.commissionAccruals.rows.map (fun row =>
      if row.receiptId = receiptId && row.status = .pendingChainVerification then changeAccrual row
      else row))
    (hreceipts : db'.paymentReceipts.rows = db.paymentReceipts.rows.map (fun row =>
      if row.id = receiptId && row.verificationState = .pendingChainVerification then
        changeReceipt row
      else row)) : KeepsLives db db' := by
  refine keepsLives_of_map ?_ ?_ ?_ haccruals hreceipts hagree ?_
  · intro row
    split
    · exact (haccrual row).1
    · rfl
  · intro row
    split
    · exact (haccrual row).2.1
    · rfl
  · intro row
    split
    · exact (hreceipt row).1
    · rfl
  · intro row _ receipt hof hagrees
    have hboth := Memory.pending_iff_of_agrees hagrees
    by_cases hsel : row.receiptId = receiptId ∧ row.status = .pendingChainVerification
    · obtain ⟨hid, hpending⟩ := hsel
      rw [if_pos (by simp [hid, hpending]), if_pos (by simp [hof, hid, hboth.mp hpending]),
        (haccrual row).2.2, (hreceipt receipt).2, hpending]
      exact ⟨.single hmoves, hstate⟩
    · have hother : ¬ (receipt.id = receiptId ∧
          receipt.verificationState = .pendingChainVerification) := by
        rintro ⟨hid, hpending⟩
        exact hsel ⟨hof.symm.trans hid, hboth.mpr hpending⟩
      rw [if_neg (by simpa using hsel), if_neg (by simpa using hother)]
      exact ⟨.refl, hagrees⟩

theorem markReceiptChainVerified_lives {input : MarkReceiptChainVerifiedInput}
    {result : Option ReceiptIngestionSnapshot} (hagree : db.ReceiptsAgree)
    (h : db.markReceiptChainVerified host input = .ok (result, db')) : KeepsLives db db' := by
  unfold markReceiptChainVerified at h
  obtain ⟨verifiedAt, -, h⟩ := bind_eq_ok.mp h
  rw [pure_eq_ok] at h
  injection h with _ hleft
  subst hleft
  exact keepsLives_mark
    (fun row => { row with verificationState := .signatureVerified, verificationReason := none })
    (fun row => { row with status := .available, availableAt := some verifiedAt })
    (fun _ => ⟨rfl, rfl⟩) (fun _ => ⟨rfl, rfl, rfl⟩) .verify rfl hagree rfl rfl

theorem markReceiptChainRejected_lives (hagree : db.ReceiptsAgree)
    (input : MarkReceiptChainRejectedInput) :
    KeepsLives db (db.markReceiptChainRejected host input).2 :=
  keepsLives_mark
    (fun row => { row with
      verificationState := .chainRejected
      verificationReason := some input.reason })
    (fun row => { row with status := .rejected })
    (fun _ => ⟨rfl, rfl⟩) (fun _ => ⟨rfl, rfl, rfl⟩) .reject rfl hagree rfl rfl

/-- A new receipt, with its accrual, waits for the chain. -/
theorem save_lives {snapshot : ReceiptIngestionSnapshot} (hpending : snapshot.isPending = true)
    (hagree : db.ReceiptsAgree) (h : SavesSnapshot host db snapshot db') : KeepsLives db db' := by
  obtain ⟨createdAt, -, hreceipts⟩ := h.receipts
  obtain ⟨rows, haccruals, hrows⟩ := h.accruals
  unfold ReceiptIngestionSnapshot.isPending at hpending
  simp only [Bool.and_eq_true, beq_iff_eq] at hpending
  obtain ⟨hstate, haccrual⟩ := hpending
  refine ⟨?_, ?_⟩
  · intro key status hstatus
    obtain ⟨row, hrow, hrest⟩ := Option.map_eq_some_iff.mp hstatus
    obtain ⟨hmem, hkey⟩ := Table.find?_eq_some.mp hrow
    refine ⟨status, Option.map_eq_some_iff.mpr ⟨row, Table.find?_eq_some.mpr ⟨?_, hkey⟩, hrest⟩, .refl⟩
    rw [Table.mem_def, haccruals]
    exact List.mem_append_left _ hmem
  · intro row hrow
    rw [Table.mem_def, haccruals] at hrow
    rcases List.mem_append.mp hrow with hold | hnew
    · obtain ⟨receipt, hmem, hof, hagrees⟩ := hagree row hold
      refine ⟨receipt, ?_, hof, hagrees⟩
      rw [Table.mem_def, hreceipts]
      exact List.mem_append_left _ hmem
    · obtain ⟨accrual, createdAt', hsome, -, rfl⟩ := hrows row hnew
      rw [hsome] at haccrual
      simp only [Option.all_some, Bool.and_eq_true, beq_iff_eq] at haccrual
      refine ⟨⟨snapshot.receipt.id, snapshot.receipt.receiptHash, snapshot.receipt.receipt,
        snapshot.receipt.source, snapshot.receipt.verificationState,
        snapshot.receipt.verificationReason, createdAt⟩, ?_, ?_, ?_⟩
      · rw [Table.mem_def, hreceipts]
        exact List.mem_append_right _ (List.mem_singleton.mpr rfl)
      · exact haccrual.2.symm
      · show accrual.status.Agrees snapshot.receipt.verificationState
        rw [haccrual.1]
        exact hstate

theorem allocate_lives {batch : PayoutBatchRecord} (hagree : db.ReceiptsAgree)
    (h : AllocatesBatch host db batch db') : KeepsLives db db' := by
  refine keepsLives_of_select h.accruals (by rw [h.others]) hagree ?_
  intro row hrow hid
  rw [h.available row hrow hid]
  exact ⟨.allocate, fun _ hstate => hstate⟩

/-- A rollup writes batches and items only. -/
theorem rollUp_same {payoutBatchId updatedAt : String}
    (h : db.rollUpPayoutBatchFinality host payoutBatchId updatedAt = .ok db') :
    db'.commissionAccruals = db.commissionAccruals ∧ db'.paymentReceipts = db.paymentReceipts := by
  rcases rollUpPayoutBatchFinality_eq_ok h with ⟨rfl, -⟩ | ⟨_, _, _, -, -, -, rfl⟩
  · exact ⟨rfl, rfl⟩
  · exact ⟨rfl, rfl⟩

theorem marks_lives {row : PayoutTransactionRow} {change : PayoutTransactionRow → PayoutTransactionRow}
    {hkey : ∀ row, (change row).id = row.id} {at' : String} (hagree : db.ReceiptsAgree)
    (h : MarksTransaction host db row change hkey at' db') : KeepsLives db db' := by
  obtain ⟨rolled, hroll, events, rfl⟩ := h.rolledUp
  obtain ⟨haccruals, hreceipts⟩ := rollUp_same hroll
  exact .of_eq hagree haccruals hreceipts

/-- Every call whose transaction commits moves accruals with their receipts. -/
theorem execAccrualCall_lives {call : AccrualCall} (hpending : savesPending call = true)
    (hagree : db.ReceiptsAgree) (h : execAccrualCall host reads db call = .ok db') :
    KeepsLives db db' := by
  cases call with
  | createPayoutBatch env input =>
      obtain ⟨⟨batch, left⟩, hcall, rfl⟩ := map_eq_ok.mp h
      rw [createPayoutBatch] at hcall
      obtain ⟨plan, -, hcall⟩ := bind_eq_ok.mp hcall
      obtain ⟨written, hwrite, hcall⟩ := bind_eq_ok.mp hcall
      rw [pure_eq_ok] at hcall
      injection hcall with _ hleft
      subst hleft
      exact allocate_lives hagree (allocateAndInsertPayoutBatch_eq_ok hwrite)
  | store call =>
      obtain ⟨env, op⟩ := call
      cases op with
      | save snapshot => exact save_lives hpending hagree (save_eq_ok h)
      | markReceiptChainVerified input =>
          obtain ⟨⟨result, left⟩, hcall, rfl⟩ := map_eq_ok.mp h
          exact markReceiptChainVerified_lives hagree hcall
      | markReceiptChainRejected input =>
          rw [execAccrualCall, exec, pure_eq_ok] at h
          subst h
          exact markReceiptChainRejected_lives hagree input
      | createPayoutBatchFromAvailableAccruals input =>
          obtain ⟨⟨batch, left⟩, hcall, rfl⟩ := map_eq_ok.mp h
          have hcreates := createPayoutBatchFromAvailableAccruals_eq_ok hcall
          exact allocate_lives hagree ⟨hcreates.available, hcreates.accruals, hcreates.newBatch,
            hcreates.batches, hcreates.items, hcreates.allocations, hcreates.others⟩
      | releasePayoutBatchAllocations input =>
          obtain ⟨⟨result, left⟩, hcall, rfl⟩ := map_eq_ok.mp h
          rcases releasePayoutBatchAllocations_eq_ok hcall with
            ⟨-, -, rfl⟩ | ⟨batch, released, -, hreleases⟩
          · exact .of_eq hagree rfl rfl
          · refine keepsLives_of_select hreleases.accruals ?_ hagree ?_
            · show left.paymentReceipts = db.paymentReceipts
              rw [hreleases.others]
            · intro row _ hsel
              rw [hsel.2]
              exact ⟨.release, fun _ hstate => hstate⟩
      | saveSignedPayoutTransactions input =>
          obtain ⟨⟨records, left⟩, hcall, rfl⟩ := map_eq_ok.mp h
          obtain ⟨batch, hsaves⟩ := saveSignedPayoutTransactions_eq_ok hcall
          refine .of_eq hagree ?_ ?_
          · show left.commissionAccruals = db.commissionAccruals
            rw [hsaves.others]
          · show left.paymentReceipts = db.paymentReceipts
            rw [hsaves.others]
      | markPayoutTransactionSubmitted input =>
          obtain ⟨⟨result, left⟩, hcall, rfl⟩ := map_eq_ok.mp h
          rcases markPayoutTransactionSubmitted_eq_ok hcall with
            ⟨-, rfl⟩ | ⟨row, _, _, _, -, hmarks⟩
          · exact .of_eq hagree rfl rfl
          · exact marks_lives hagree hmarks
      | markPayoutTransactionFinality input =>
          obtain ⟨⟨result, left⟩, hcall, rfl⟩ := map_eq_ok.mp h
          rcases markPayoutTransactionFinality_eq_ok hcall with
            ⟨-, rfl⟩ | ⟨row, _, _, _, _, -, -, hmarks⟩
          · exact .of_eq hagree rfl rfl
          · exact marks_lives hagree hmarks
      | closeFinalizedPayoutBatchLedger input =>
          obtain ⟨⟨result, left⟩, hcall, rfl⟩ := map_eq_ok.mp h
          rcases closeFinalizedPayoutBatchLedger_eq_ok hcall with
            ⟨rfl, -⟩ | ⟨batch, transaction, -, hcloses⟩
          · exact .of_eq hagree rfl rfl
          · refine keepsLives_of_select hcloses.accruals ?_ hagree ?_
            · show left.paymentReceipts = db.paymentReceipts
              rw [hcloses.others]
            · intro row _ hsel
              rw [hsel.2]
              exact ⟨.pay, fun _ hstate => hstate⟩

end Db

namespace Timeline

variable {timeline timeline' : Timeline}

theorem accrualSystem_lives {request : AccrualRequest} (hagree : timeline.current.ReceiptsAgree)
    (h : (accrualSystem host).step timeline request timeline') :
    Db.KeepsLives timeline.current timeline'.current := by
  obtain ⟨-, hpending, rfl⟩ := h
  show Db.KeepsLives timeline.current
    (Db.nextAccrualCall host request.reads timeline.current request.call)
  unfold Db.nextAccrualCall
  cases hcall : Db.execAccrualCall host request.reads timeline.current request.call with
  | error error => exact .of_eq hagree rfl rfl
  | ok left => exact Db.execAccrualCall_lives hpending hagree hcall

theorem receiptsAgree_of_reachable
    (h : (accrualSystem host).Reachable (fun _ _ => True) timeline) :
    timeline.current.ReceiptsAgree := by
  refine h.invariant (P := fun timeline => timeline.current.ReceiptsAgree) ?_ ?_
  · rintro _ ⟨merchants, wallets, rfl⟩ row hrow
    exact absurd hrow Table.not_mem_empty
  · intro s request s' _ hagree _ hstep
    exact (accrualSystem_lives hagree hstep).2

end Timeline

/-! ## Both stores -/

/-- **In both stores an accrual makes the five moves and no other, is final once it is paid or
rejected, and its receipt is in the state that goes with its status.** -/
theorem accruals_live (host : Host) :
    (∀ store, (Memory.accrualSystem host).Reachable (fun _ _ => True) store →
      store.ReceiptsAgree ∧
      (∀ call store', (Memory.accrualSystem host).step store call store' →
        System.Advances AccrualStatus.Moves store.statusOf store'.statusOf) ∧
      ∀ store', (Memory.accrualSystem host).Run (fun _ _ => True) store store' →
        ∀ key status, (status = .paid ∨ status = .rejected) →
          store.statusOf key = some status → store'.statusOf key = some status) ∧
    (∀ timeline, (Timeline.accrualSystem host).Reachable (fun _ _ => True) timeline →
      timeline.current.ReceiptsAgree ∧
      (∀ request timeline', (Timeline.accrualSystem host).step timeline request timeline' →
        System.Advances AccrualStatus.Moves timeline.current.statusOf timeline'.current.statusOf) ∧
      ∀ timeline', (Timeline.accrualSystem host).Run (fun _ _ => True) timeline timeline' →
        ∀ id status, (status = .paid ∨ status = .rejected) →
          timeline.current.statusOf id = some status →
          timeline'.current.statusOf id = some status) := by
  have hlast : ∀ status, status = AccrualStatus.paid ∨ status = .rejected →
      ∀ next, ¬ AccrualStatus.Moves status next := by
    rintro status (rfl | rfl)
    · exact AccrualStatus.not_moves_paid
    · exact AccrualStatus.not_moves_rejected
  refine ⟨?_, ?_⟩
  · intro store hstore
    refine ⟨Memory.receiptsAgree_of_reachable hstore, ?_, ?_⟩
    · intro call store' hstep
      exact (Memory.accrualSystem_lives (Memory.receiptsAgree_of_reachable hstore) hstep).1
    · intro store' hrun key status hstatus hfound
      refine hrun.stays Memory.statusOf hstore ?_ (hlast status hstatus) hfound
      intro s call s' hs _ hstep
      exact (Memory.accrualSystem_lives (Memory.receiptsAgree_of_reachable hs) hstep).1
  · intro timeline htimeline
    refine ⟨Timeline.receiptsAgree_of_reachable htimeline, ?_, ?_⟩
    · intro request timeline' hstep
      exact (Timeline.accrualSystem_lives (Timeline.receiptsAgree_of_reachable htimeline) hstep).1
    · intro timeline' hrun id status hstatus hfound
      refine hrun.stays (fun timeline => timeline.current.statusOf) htimeline ?_ (hlast status hstatus) hfound
      intro s request s' hs _ hstep
      exact (Timeline.accrualSystem_lives (Timeline.receiptsAgree_of_reachable hs) hstep).1

/-- One accrual is saved, verified, allocated and paid. -/
def Sample.paidCalls : List AccrualCall :=
  (Sample.calls (Sample.payOne ++ [.closeFinalizedPayoutBatchLedger (Sample.closeInput 1)])).map
    AccrualCall.store

theorem accruals_live_paid : ∃ store,
    (Memory.accrualSystem isoHost).Reachable (fun _ _ => True) store ∧
    store.statusOf (Sample.idOf "rct" 1, Sample.idOf "acr" 1) = some .paid ∧
    store.ReceiptsAgree := by
  have hreach : (Memory.accrualSystem isoHost).Reachable (fun _ _ => True)
      (Sample.paidCalls.foldl (Memory.nextAccrualCall isoHost) Memory.empty) := by
    refine System.Reachable.of_trace (fun store call haccept => ?_) (.init rfl)
      (show System.admittedAlong (Memory.nextAccrualCall isoHost) Memory.savesPending Memory.empty
        Sample.paidCalls = true by decide +kernel)
    exact ⟨call, trivial, haccept, rfl⟩
  exact ⟨_, hreach, by decide +kernel, ((accruals_live isoHost).1 _ hreach).1⟩

end Split402

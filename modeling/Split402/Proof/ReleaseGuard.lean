import Split402.Proof.MemoryOps
import Split402.Proof.PostgresOps
import Split402.Store.Runs

/-! # What a release has proven

Two guards stand before a release. One looks at the transactions whose expected signature is
stored, the other, for a batch of unknown outcome, at all of them. Together they say what is known
of a batch whose allocations were freed without an operator override. Neither looks at the signed
bytes: a signed transaction saved without an expected signature holds no release up. -/

namespace Split402

open Base

variable {host : Host} {env : CallEnv}

/-- What a release without an override has proven of the transactions of its batch. -/
structure ReleaseProven (batchStatus : PayoutBatchStatus)
    (transactions : List PayoutBatchAllocationReleaseGuardTransaction)
    (chainChecks : Option (List PayoutBatchReleaseChainCheck)) : Prop where
  signed : ∀ transaction ∈ transactions, transaction.expectedSignature.isSome = true →
    ProvenDead chainChecks transaction.id transaction.status
  outcomeUnknown : batchStatus = .outcomeUnknown → transactions ≠ [] ∧
    ∀ transaction ∈ transactions, ProvenDead chainChecks transaction.id transaction.status

/-- The order of the transactions does not matter. -/
theorem ReleaseProven.perm {batchStatus : PayoutBatchStatus}
    {transactions transactions' : List PayoutBatchAllocationReleaseGuardTransaction}
    {chainChecks : Option (List PayoutBatchReleaseChainCheck)}
    (h : ReleaseProven batchStatus transactions chainChecks)
    (hperm : transactions.Perm transactions') :
    ReleaseProven batchStatus transactions' chainChecks := by
  refine ⟨fun t ht => h.signed t (hperm.mem_iff.mpr ht), fun hstatus => ?_⟩
  obtain ⟨hne, hdead⟩ := h.outcomeUnknown hstatus
  refine ⟨?_, fun t ht => hdead t (hperm.mem_iff.mpr ht)⟩
  rintro rfl
  exact hne hperm.eq_nil

theorem ReleaseGranted.proven {batch released : PayoutBatchRecord}
    {transactions : List PayoutBatchAllocationReleaseGuardTransaction}
    {input : ReleasePayoutBatchAllocationsInput}
    (h : ReleaseGranted batch transactions input released) (hoverride : input.override = none) :
    ReleaseProven batch.status transactions input.chainChecks := by
  refine ⟨?_, ?_⟩
  · have hguard := h.guard
    rw [hoverride] at hguard
    exact assertPayoutBatchAllocationsReleasable_eq_ok hguard
  · intro hstatus
    rcases h.status with hallowed | ⟨-, hproven⟩
    · -- a batch of unknown outcome is released by proof only
      rw [hstatus] at hallowed
      cases hallowed
    · exact isOutcomeUnknownPayoutBatchReleaseProven_iff.mp hproven

/-- What the guards read of the stored transactions of a batch. -/
def Memory.guardTransactions (store : Memory) (payoutBatchId : String) :
    List PayoutBatchAllocationReleaseGuardTransaction :=
  (store.payoutTransactionsById.rows.filter (fun transaction =>
    transaction.payoutBatchId = payoutBatchId)).map PayoutTransactionRecord.guard

theorem Memory.guardTransactions_perm (host : Host) (store : Memory) (payoutBatchId : String) :
    ((store.listPayoutTransactions host payoutBatchId).map PayoutTransactionRecord.guard).Perm
      (store.guardTransactions payoutBatchId) :=
  (sortBy_perm _ _).map _

/-- **A release that needs no override has proven every transaction with an expected signature
dead, and, for a batch of unknown outcome, every transaction** — in both stores, whatever their
state. -/
theorem release_proven (host : Host) :
    (∀ (store store' : Memory) env input result, input.override = none →
      store.releasePayoutBatchAllocations host env input = .ok (result, store') →
      (result = none ∧ store' = store) ∨
        ∃ batch, store.payoutBatchesById.find? input.payoutBatchId = some batch ∧
          ReleaseProven batch.status (store.guardTransactions input.payoutBatchId)
            input.chainChecks) ∧
    (∀ (db db' : Db) env input result, input.override = none →
      db.releasePayoutBatchAllocations host env input = .ok (result, db') →
      (result = none ∧ db' = db) ∨
        ∃ row, db.payoutBatches.find? input.payoutBatchId = some row ∧
          ReleaseProven row.status (db.guardTransactions input.payoutBatchId)
            input.chainChecks) := by
  constructor
  · intro store store' env input result hoverride h
    rcases Memory.releasePayoutBatchAllocations_eq_ok h with
      ⟨hresult, -, hsame⟩ | ⟨batch, released, -, hreleases⟩
    · exact .inl ⟨hresult, hsame⟩
    · have hid : batch.id = input.payoutBatchId := Table.key_of_find? hreleases.found
      have hproven := hreleases.granted.proven hoverride
      rw [hid] at hproven
      exact .inr ⟨batch, hreleases.found, hproven.perm (Memory.guardTransactions_perm host _ _)⟩
  · intro db db' env input result hoverride h
    rcases Db.releasePayoutBatchAllocations_eq_ok h with
      ⟨hresult, -, hsame⟩ | ⟨batch, released, -, hreleases⟩
    · exact .inl ⟨hresult, hsame⟩
    · have hload := Db.loadPayoutBatch_eq_some hreleases.found
      obtain ⟨row, hfind, hstatus⟩ := hload.row
      have hproven := hreleases.granted.proven hoverride
      rw [hload.id, ← hstatus] at hproven
      exact .inr ⟨row, hfind, hproven⟩

/-! ## Concrete runs -/

/-- Whether a releasing call freed a batch. -/
def grantedRelease {σ : Type} : Except PayoutError (Option PayoutBatchRecord × σ) → Bool
  | .ok (some _, _) => true
  | _ => false

theorem exists_of_grantedRelease {σ : Type}
    {r : Except PayoutError (Option PayoutBatchRecord × σ)} (h : grantedRelease r = true) :
    ∃ released s, r = .ok (some released, s) := by
  unfold grantedRelease at h
  split at h
  · rename_i released s
    exact ⟨released, s, rfl⟩
  · cases h

section Runs

open Sample (env idOf signOne releaseInput)

/-- The signed transaction of the sample is found expired on chain. -/
def expiredOnChain : ReleasePayoutBatchAllocationsInput :=
  releaseInput 1 (some [⟨idOf "ptx" 1, .expired⟩])

set_option maxRecDepth 100000 in
theorem release_proven_expiredOnChain :
    (∃ batch, (Memory.sample (signOne (some "signature"))).payoutBatchesById.find?
        (idOf "pbt" 1) = some batch ∧
      ReleaseProven batch.status
        ((Memory.sample (signOne (some "signature"))).guardTransactions (idOf "pbt" 1))
        expiredOnChain.chainChecks) ∧
    (∃ row, (Timeline.sample (signOne (some "signature"))).current.payoutBatches.find?
        (idOf "pbt" 1) = some row ∧
      ReleaseProven row.status
        ((Timeline.sample (signOne (some "signature"))).current.guardTransactions (idOf "pbt" 1))
        expiredOnChain.chainChecks) := by
  constructor
  · obtain ⟨released, store', h⟩ := exists_of_grantedRelease
      (show grantedRelease ((Memory.sample (signOne (some "signature"))).releasePayoutBatchAllocations
        isoHost (env 9) expiredOnChain) = true by decide +kernel)
    rcases (release_proven isoHost).1 _ _ _ _ _ rfl h with ⟨hnone, -⟩ | hproven
    · cases hnone
    · exact hproven
  · obtain ⟨released, db', h⟩ := exists_of_grantedRelease
      (show grantedRelease ((Timeline.sample (signOne (some "signature"))).current.releasePayoutBatchAllocations
        isoHost (env 9) expiredOnChain) = true by decide +kernel)
    rcases (release_proven isoHost).2 _ _ _ _ _ rfl h with ⟨hnone, -⟩ | hproven
    · cases hnone
    · exact hproven

set_option maxRecDepth 100000 in
/-- A signed transaction without an expected signature is stored, nothing is known of it, and its
batch is released. -/
theorem not_release_proven_signOne :
    (∃ store, (Memory.system isoHost).Reachable (fun _ _ => True) store ∧
      ∃ env input released store', input.override = none ∧
        store.releasePayoutBatchAllocations isoHost env input = .ok (some released, store') ∧
        ∃ t ∈ store.payoutTransactionsById.rows, t.payoutBatchId = input.payoutBatchId ∧
          t.signedTransactionBase64.isSome = true ∧
          ¬ ProvenDead input.chainChecks t.id t.status) ∧
    (∃ timeline, (Timeline.system isoHost).Reachable (fun _ _ => True) timeline ∧
      ∃ env input released db', input.override = none ∧
        timeline.current.releasePayoutBatchAllocations isoHost env input =
          .ok (some released, db') ∧
        ∃ row ∈ timeline.current.payoutTransactions.rows,
          row.payoutBatchId = input.payoutBatchId ∧
          row.signedTransactionBase64.isSome = true ∧
          ¬ ProvenDead input.chainChecks row.id row.status) := by
  constructor
  · obtain ⟨released, store', h⟩ := exists_of_grantedRelease
      (show grantedRelease ((Memory.sample (signOne none)).releasePayoutBatchAllocations
        isoHost (env 9) (releaseInput 1 none)) = true by decide +kernel)
    exact ⟨_, Memory.reachable_sample_true (by decide +kernel), _, _, released, store', rfl, h,
      by decide +kernel⟩
  · obtain ⟨released, db', h⟩ := exists_of_grantedRelease
      (show grantedRelease ((Timeline.sample (signOne none)).current.releasePayoutBatchAllocations
        isoHost (env 9) (releaseInput 1 none)) = true by decide +kernel)
    exact ⟨_, Timeline.reachable_sample_true (by decide +kernel), _, _, released, db', rfl, h,
      by decide +kernel⟩

end Runs

end Split402

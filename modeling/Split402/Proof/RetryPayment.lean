import Split402.Payouts.Reconciliation
import Split402.Proof.MemoryOps
import Split402.Proof.Rollup
import Split402.Store.Runs

/-! # Whether a payment may be retried

`retryPaymentAllowed` is read off the batch a reconciliation leaves, and the last rollup made the
batch `failed` when the first latest attempt that failed, expired or has an unknown outcome is
`failed`. One such attempt speaks for all of them: the flag is safe exactly when no other latest
attempt is left in another status. -/

namespace Split402

open Base

variable {host : Host} {env : CallEnv}

/-! ## Changes that keep the attempts -/

/-- A change of transactions that keeps what tells the attempts of a batch apart and orders them. -/
structure KeepsAttempts (g : PayoutTransactionRecord → PayoutTransactionRecord) : Prop where
  id : ∀ t, (g t).id = t.id
  payoutBatchId : ∀ t, (g t).payoutBatchId = t.payoutBatchId
  sequence : ∀ t, (g t).sequence = t.sequence
  attempt : ∀ t, (g t).attempt = t.attempt
  createdAt : ∀ t, (g t).createdAt = t.createdAt

namespace KeepsAttempts

variable {f g : PayoutTransactionRecord → PayoutTransactionRecord}

theorem refl : KeepsAttempts (fun t => t) :=
  ⟨fun _ => rfl, fun _ => rfl, fun _ => rfl, fun _ => rfl, fun _ => rfl⟩

theorem comp (hf : KeepsAttempts f) (hg : KeepsAttempts g) : KeepsAttempts (fun t => g (f t)) where
  id t := (hg.id _).trans (hf.id t)
  payoutBatchId t := (hg.payoutBatchId _).trans (hf.payoutBatchId t)
  sequence t := (hg.sequence _).trans (hf.sequence t)
  attempt t := (hg.attempt _).trans (hf.attempt t)
  createdAt t := (hg.createdAt _).trans (hf.createdAt t)

/-- A change of the transactions with one id. -/
theorem ofId (hf : KeepsAttempts f) (id : String) :
    KeepsAttempts (fun t => if t.id = id then f t else t) := by
  refine ⟨fun t => ?_, fun t => ?_, fun t => ?_, fun t => ?_, fun t => ?_⟩ <;> split
  · exact hf.id t
  · rfl
  · exact hf.payoutBatchId t
  · rfl
  · exact hf.sequence t
  · rfl
  · exact hf.attempt t
  · rfl
  · exact hf.createdAt t
  · rfl

theorem comparePayoutTransactions (hg : KeepsAttempts g) (t u : PayoutTransactionRecord) :
    Split402.comparePayoutTransactions host (g t) (g u) =
      Split402.comparePayoutTransactions host t u := by
  unfold Split402.comparePayoutTransactions
  rw [hg.sequence, hg.sequence, hg.attempt, hg.attempt, hg.createdAt, hg.createdAt, hg.id, hg.id]

theorem keepLatest (hg : KeepsAttempts g) {bySequence bySequence' : AttemptMap}
    (h : bySequence'.rows = bySequence.rows.map g) (t : PayoutTransactionRecord) :
    (Split402.keepLatest host bySequence' (g t)).rows =
      (Split402.keepLatest host bySequence t).rows.map g := by
  have hupsert := Table.rows_upsert_map hg.sequence h t
  have hfind := Table.find?_of_map hg.sequence h t.sequence
  unfold Split402.keepLatest
  rw [hg.sequence, hfind]
  cases bySequence.find? t.sequence with
  | none => exact hupsert
  | some existing =>
      have hsame : supersedes host (g t) (g existing) = supersedes host t existing := by
        unfold supersedes
        rw [hg.attempt, hg.attempt, hg.createdAt, hg.createdAt]
      dsimp only [Option.map_some]
      rw [hsame]
      split
      · exact hupsert
      · exact h

theorem foldl_keepLatest (hg : KeepsAttempts g) (transactions : List PayoutTransactionRecord)
    {bySequence bySequence' : AttemptMap} (h : bySequence'.rows = bySequence.rows.map g) :
    ((transactions.map g).foldl (Split402.keepLatest host) bySequence').rows =
      (transactions.foldl (Split402.keepLatest host) bySequence).rows.map g := by
  induction transactions generalizing bySequence bySequence' with
  | nil => exact h
  | cons t rest ih => exact ih (hg.keepLatest h t)

/-- The latest attempts of changed transactions are the latest attempts, changed. -/
theorem latestAttemptBySequence (hg : KeepsAttempts g)
    (transactions : List PayoutTransactionRecord) :
    Split402.latestAttemptBySequence host (transactions.map g) =
      (Split402.latestAttemptBySequence host transactions).map g := by
  unfold Split402.latestAttemptBySequence
  have hrows : ((transactions.map g).foldl (Split402.keepLatest host) Table.empty).rows =
      (transactions.foldl (Split402.keepLatest host) Table.empty).rows.map g :=
    hg.foldl_keepLatest transactions rfl
  rw [hrows]
  exact sortBy_map _ hg.comparePayoutTransactions _

theorem listPayoutTransactions (hg : KeepsAttempts g) {store store' : Memory}
    (h : store'.payoutTransactionsById.rows = store.payoutTransactionsById.rows.map g)
    (payoutBatchId : String) : store'.listPayoutTransactions host payoutBatchId =
      (store.listPayoutTransactions host payoutBatchId).map g := by
  unfold Memory.listPayoutTransactions
  rw [h, List.filter_map]
  have hsame : ((fun t : PayoutTransactionRecord => decide (t.payoutBatchId = payoutBatchId)) ∘ g) =
      (fun t => decide (t.payoutBatchId = payoutBatchId)) := by
    funext t
    simp [hg.payoutBatchId]
  rw [hsame]
  exact sortBy_map _ hg.comparePayoutTransactions _

end KeepsAttempts

/-! ## What decides the batch -/

/-- The statuses of the latest attempts of a batch. -/
def Memory.latestStatuses (host : Host) (store : Memory) (payoutBatchId : String) :
    List PayoutTransactionStatus :=
  (latestAttemptBySequence host (store.listPayoutTransactions host payoutBatchId)).map
    PayoutTransactionRecord.status

/-- The first latest attempt that failed, expired or has an unknown outcome is `failed`. -/
def FirstFailureFailed (statuses : List PayoutTransactionStatus) : Prop :=
  statuses.find? PayoutTransactionStatus.isTerminalFailure = some .failed

/-- The status a rollup takes from the items is not `failed`. -/
theorem rollupBatchStatus_eq_failed {terminalFailure : Option PayoutTransactionStatus}
    {statuses : List PayoutItemStatus} :
    rollupBatchStatus terminalFailure statuses = .failed ↔ terminalFailure = some .failed := by
  constructor
  · intro h
    unfold rollupBatchStatus at h
    split at h
    · rfl
    · cases h
    · cases h
    · split at h
      · cases h
      · split at h
        · cases h
        · split at h <;> cases h
  · intro h
    rw [h]
    rfl

/-- A rollup fails the batch exactly when the first failure of the latest attempts is `failed`. -/
theorem summarize_failed {batch : PayoutBatchRecord} {transactions : List PayoutTransactionRecord}
    {rollup : PayoutBatchTransactionItemRollup}
    (h : summarizePayoutBatchTransactionItemFinality host batch transactions = some rollup) :
    rollup.batchStatus = .failed ↔ FirstFailureFailed
      ((latestAttemptBySequence host transactions).map PayoutTransactionRecord.status) := by
  rw [summarizePayoutBatchTransactionItemFinality] at h
  split at h
  · cases h
  · injection h with h
    subst h
    rw [FirstFailureFailed, List.find?_map]
    exact rollupBatchStatus_eq_failed

/-! ## What a reconciliation writes -/

/-- The status the monitor's answer about a transaction writes, if it writes one. -/
def answeredStatus (monitor : PayoutFinalityMonitor) (transaction : PayoutTransactionRecord) :
    Option PayoutTransactionFinalityStatus :=
  (monitor transaction).toOption.bind (fun result => persistablePayoutFinalityStatus result.status)

/-- The status a transaction has after its batch was reconciled. -/
def settledStatus (monitor : PayoutFinalityMonitor) (transaction : PayoutTransactionRecord) :
    PayoutTransactionStatus :=
  if isPayoutTransactionOutcomeUnknown transaction then
    ((answeredStatus monitor transaction).map
      PayoutTransactionFinalityStatus.toStatus).getD transaction.status
  else transaction.status

namespace Memory

variable {store store' : Memory} {monitor : PayoutFinalityMonitor} {observedAt : String}

theorem keepsAttempts_finalityTransaction (input : MarkPayoutTransactionFinalityInput)
    (observedAt : String) : KeepsAttempts (fun t => finalityTransaction t input observedAt) :=
  ⟨fun _ => rfl, fun _ => rfl, fun _ => rfl, fun _ => rfl, fun _ => rfl⟩

/-- A mark without a guard changes the transaction where it stands. -/
theorem markPayoutTransactionFinality_writes {input : MarkPayoutTransactionFinalityInput}
    {transaction : PayoutTransactionRecord} {updated : Option PayoutTransactionRecord}
    (hmem : transaction ∈ store.payoutTransactionsById) (hid : input.id = transaction.id)
    (hguard : input.expectedStatus = none)
    (h : store.markPayoutTransactionFinality host env input = .ok (updated, store')) :
    ∃ observed, store'.payoutTransactionsById.rows = store.payoutTransactionsById.rows.map
        (fun t => if t.id = transaction.id then finalityTransaction t input observed else t) ∧
      ∀ batch, store.payoutBatchesById.find? transaction.payoutBatchId = some batch →
        ∃ batch', store'.payoutBatchesById.find? transaction.payoutBatchId = some batch' ∧
          (batch'.status = .failed ↔
            FirstFailureFailed (store'.latestStatuses host transaction.payoutBatchId)) := by
  have hfind : store.payoutTransactionsById.find? input.id = some transaction := by
    rw [hid]
    exact Table.find?_of_mem hmem
  have hadmits : input.admits transaction = true := by
    unfold MarkPayoutTransactionFinalityInput.admits
    rw [hguard]
    rfl
  unfold markPayoutTransactionFinality at h
  rw [hfind] at h
  dsimp only at h
  rw [hadmits] at h
  obtain ⟨observed, -, h⟩ := bind_eq_ok.mp h
  rw [pure_eq_ok] at h
  injection h with hupdated hleft
  have hrows := Table.rows_upsert_of_mem
    (f := fun t => finalityTransaction t input observed) hmem rfl
  rcases rollUpPayoutBatchFinality_cases host
    { store with
      payoutTransactionsById := store.payoutTransactionsById.upsert
        (finalityTransaction transaction input observed) }
    transaction.payoutBatchId observed with ⟨hsame, hnothing⟩ | ⟨batch, rollup, hbatch, hsum, hsame⟩
  · refine ⟨observed, ?_, ?_⟩
    · rw [← hleft]
      exact (congrArg (fun s : Memory => s.payoutTransactionsById.rows) hsame).trans hrows
    · intro batch hbatch
      -- the batch is there and has this transaction, so it is rolled up
      rcases hnothing with hnone | hnone
      · rw [hbatch] at hnone
        cases hnone
      · have hlisted : finalityTransaction transaction input observed ∈
            ({ store with
              payoutTransactionsById := store.payoutTransactionsById.upsert
                (finalityTransaction transaction input observed) } :
              Memory).listPayoutTransactions host transaction.payoutBatchId :=
          mem_listPayoutTransactions.mpr ⟨Table.mem_upsert.mpr (.inl rfl), rfl⟩
        rw [hnone] at hlisted
        cases hlisted
  · have hstore : store' = _ := hleft.symm.trans hsame
    subst hstore
    refine ⟨observed, hrows, ?_⟩
    intro before hbefore
    have hkey : batch.id = transaction.payoutBatchId := Table.key_of_find? hbatch
    refine ⟨rolledUpBatch batch rollup observed, ?_, summarize_failed hsum⟩
    rw [Table.find?_upsert]
    exact if_pos hkey

/-- One turn of the loop. -/
theorem reconcileTransactions_cons {transaction : PayoutTransactionRecord}
    {rest : List PayoutTransactionRecord}
    {outcome : List PayoutReconciliationFinalityResult × List PayoutTransactionRecord}
    (h : reconcileTransactions host env monitor observedAt (transaction :: rest) store =
      (store', .ok outcome)) :
    ∃ marked outcome', reconcileTransactions host env monitor observedAt rest marked =
        (store', .ok outcome') ∧
      ((answeredStatus monitor transaction = none ∧ marked = store) ∨
        ∃ status input updated, answeredStatus monitor transaction = some status ∧
          input.id = transaction.id ∧ input.status = status ∧ input.expectedStatus = none ∧
          store.markPayoutTransactionFinality host env input = .ok (updated, marked)) := by
  have hanswer : answeredStatus monitor transaction = (monitor transaction).toOption.bind
      (fun result => persistablePayoutFinalityStatus result.status) := rfl
  rw [reconcileTransactions] at h
  cases hmonitor : monitor transaction with
  | error error =>
      rw [hmonitor] at h
      injection h with _ h
      cases h
  | ok result =>
      rw [hmonitor] at h hanswer
      replace hanswer : answeredStatus monitor transaction =
        persistablePayoutFinalityStatus result.status := hanswer
      dsimp only at h
      cases hstatus : persistablePayoutFinalityStatus result.status with
      | none =>
          have hmark : reconciliationMark transaction result observedAt = none := by
            rw [reconciliationMark, hstatus]
            rfl
          rw [hmark] at h
          rcases hrest : reconcileTransactions host env monitor observedAt rest store with
            ⟨left, outcome'⟩
          rw [hrest] at h
          injection h with hleft h
          subst hleft
          cases outcome' with
          | error error => cases h
          | ok outcome' => exact ⟨store, outcome', hrest, .inl ⟨hanswer.trans hstatus, rfl⟩⟩
      | some status =>
          obtain ⟨input, hmark, hid, hinput, hguard⟩ : ∃ input,
              reconciliationMark transaction result observedAt = some input ∧
              input.id = transaction.id ∧ input.status = status ∧ input.expectedStatus = none := by
            rw [reconciliationMark, hstatus]
            exact ⟨_, rfl, rfl, rfl, rfl⟩
          rw [hmark] at h
          dsimp only at h
          rcases hwrite : store.markPayoutTransactionFinality host env input with
            error | ⟨updated, marked⟩
          · rw [hwrite] at h
            injection h with _ h
            cases h
          · rw [hwrite] at h
            dsimp only at h
            rcases hrest : reconcileTransactions host env monitor observedAt rest marked with
              ⟨left, outcome'⟩
            rw [hrest] at h
            injection h with hleft h
            subst hleft
            cases outcome' with
            | error error => cases h
            | ok outcome' =>
                exact ⟨marked, outcome', hrest, .inr ⟨status, input, updated,
                  hanswer.trans hstatus, hid, hinput, hguard, hwrite⟩⟩

/-- The loop changes each candidate it gets an answer about, and no other transaction. -/
theorem reconcileTransactions_changes {candidates : List PayoutTransactionRecord}
    {outcome : List PayoutReconciliationFinalityResult × List PayoutTransactionRecord}
    (h : reconcileTransactions host env monitor observedAt candidates store =
      (store', .ok outcome))
    (hmem : ∀ t ∈ candidates, t ∈ store.payoutTransactionsById)
    (hids : (candidates.map PayoutTransactionRecord.id).Nodup) :
    ∃ g, KeepsAttempts g ∧
      store'.payoutTransactionsById.rows = store.payoutTransactionsById.rows.map g ∧
      ∀ t ∈ store.payoutTransactionsById, (g t).status =
        if t.id ∈ candidates.map PayoutTransactionRecord.id then
          ((answeredStatus monitor t).map PayoutTransactionFinalityStatus.toStatus).getD t.status
        else t.status := by
  induction candidates generalizing store outcome with
  | nil =>
      rw [reconcileTransactions] at h
      injection h with h _
      subst h
      exact ⟨fun t => t, .refl, (List.map_id _).symm, fun t _ => rfl⟩
  | cons transaction rest ih =>
      obtain ⟨marked, outcome', hrest, hturn⟩ := reconcileTransactions_cons h
      rw [List.map_cons, List.nodup_cons] at hids
      have hfirst := hmem transaction List.mem_cons_self
      rcases hturn with ⟨hnone, rfl⟩ | ⟨status, input, updated, hsome, hid, hstatus, hguard, hwrite⟩
      · obtain ⟨g, hg, hrows, hsettled⟩ :=
          ih hrest (fun t ht => hmem t (List.mem_cons_of_mem _ ht)) hids.2
        refine ⟨g, hg, hrows, ?_⟩
        intro t ht
        rw [hsettled t ht, List.map_cons]
        by_cases hk : t.id = transaction.id
        · have ht' : t = transaction := Table.eq_of_key ht hfirst hk
          subst ht'
          rw [if_neg hids.1, if_pos List.mem_cons_self, hnone]
          rfl
        · simp only [List.mem_cons, hk, false_or]
      · obtain ⟨observed, hrows₁, -⟩ :=
          markPayoutTransactionFinality_writes hfirst hid hguard hwrite
        have hkeeps := (keepsAttempts_finalityTransaction input observed).ofId transaction.id
        have hother : ∀ t ∈ store.payoutTransactionsById, t.id ≠ transaction.id →
            t ∈ marked.payoutTransactionsById := by
          intro t ht hne
          rw [Table.mem_def, hrows₁]
          exact List.mem_map.mpr ⟨t, ht, if_neg hne⟩
        have hrestmem : ∀ t ∈ rest, t ∈ marked.payoutTransactionsById := by
          intro t ht
          refine hother t (hmem t (List.mem_cons_of_mem _ ht)) ?_
          intro hk
          exact hids.1 (hk ▸ List.mem_map_of_mem ht)
        obtain ⟨g, hg, hrows₂, hsettled⟩ := ih hrest hrestmem hids.2
        refine ⟨_, hkeeps.comp hg, ?_, ?_⟩
        · rw [hrows₂, hrows₁, List.map_map]
          rfl
        · intro t ht
          by_cases hk : t.id = transaction.id
          · have ht' : t = transaction := Table.eq_of_key ht hfirst hk
            subst ht'
            -- the rest does not touch the transaction it has just marked
            have hmarked : finalityTransaction t input observed ∈ marked.payoutTransactionsById := by
              rw [Table.mem_def, hrows₁]
              exact List.mem_map.mpr ⟨t, ht, if_pos rfl⟩
            have hkept := hsettled _ hmarked
            rw [if_neg (show (finalityTransaction t input observed).id ∉ _ from hids.1)] at hkept
            rw [if_pos (List.mem_map_of_mem List.mem_cons_self), hsome, if_pos rfl, hkept]
            exact congrArg PayoutTransactionFinalityStatus.toStatus hstatus
          · have hkept := hsettled t (hother t ht hk)
            rw [if_neg hk, hkept, List.map_cons]
            simp only [List.mem_cons, hk, false_or]

/-- The loop leaves the store as it is, or the batch as the last write rolled it up. -/
theorem reconcileTransactions_rolls {candidates : List PayoutTransactionRecord}
    {outcome : List PayoutReconciliationFinalityResult × List PayoutTransactionRecord}
    {payoutBatchId : String} {batch : PayoutBatchRecord}
    (h : reconcileTransactions host env monitor observedAt candidates store =
      (store', .ok outcome))
    (hmem : ∀ t ∈ candidates, t ∈ store.payoutTransactionsById ∧ t.payoutBatchId = payoutBatchId)
    (hids : (candidates.map PayoutTransactionRecord.id).Nodup)
    (hbatch : store.payoutBatchesById.find? payoutBatchId = some batch) :
    ((∀ t ∈ candidates, answeredStatus monitor t = none) ∧ store' = store) ∨
      ((∃ t ∈ candidates, answeredStatus monitor t ≠ none) ∧
        ∃ batch', store'.payoutBatchesById.find? payoutBatchId = some batch' ∧
          (batch'.status = .failed ↔
            FirstFailureFailed (store'.latestStatuses host payoutBatchId))) := by
  induction candidates generalizing store outcome batch with
  | nil =>
      rw [reconcileTransactions] at h
      injection h with h _
      exact .inl ⟨fun t ht => absurd ht List.not_mem_nil, h.symm⟩
  | cons transaction rest ih =>
      obtain ⟨marked, outcome', hrest, hturn⟩ := reconcileTransactions_cons h
      rw [List.map_cons, List.nodup_cons] at hids
      obtain ⟨hfirst, hof⟩ := hmem transaction List.mem_cons_self
      rcases hturn with ⟨hnone, rfl⟩ | ⟨status, input, updated, hsome, hid, hstatus, hguard, hwrite⟩
      · rcases ih hrest (fun t ht => hmem t (List.mem_cons_of_mem _ ht)) hids.2 hbatch with
          ⟨hnothing, rfl⟩ | ⟨⟨t, ht, hanswer⟩, hrolled⟩
        · refine .inl ⟨?_, rfl⟩
          intro t ht
          rcases List.mem_cons.mp ht with rfl | ht
          · exact hnone
          · exact hnothing t ht
        · exact .inr ⟨⟨t, List.mem_cons_of_mem _ ht, hanswer⟩, hrolled⟩
      · refine .inr ⟨⟨transaction, List.mem_cons_self, by rw [hsome]; exact Option.some_ne_none _⟩, ?_⟩
        obtain ⟨observed, hrows, hroll⟩ :=
          markPayoutTransactionFinality_writes hfirst hid hguard hwrite
        rw [hof] at hroll
        obtain ⟨batch', hbatch', hfailed⟩ := hroll batch hbatch
        have hrestmem : ∀ t ∈ rest,
            t ∈ marked.payoutTransactionsById ∧ t.payoutBatchId = payoutBatchId := by
          intro t ht
          obtain ⟨hthere, hof'⟩ := hmem t (List.mem_cons_of_mem _ ht)
          have hne : t.id ≠ transaction.id := by
            intro hk
            exact hids.1 (hk ▸ List.mem_map_of_mem ht)
          refine ⟨?_, hof'⟩
          rw [Table.mem_def, hrows]
          exact List.mem_map.mpr ⟨t, hthere, if_neg hne⟩
        rcases ih hrest hrestmem hids.2 hbatch' with ⟨-, rfl⟩ | ⟨-, hrolled⟩
        · exact ⟨batch', hbatch', hfailed⟩
        · exact hrolled

/-- The candidates are transactions of the batch, each once. -/
theorem candidates_spec (host : Host) (store : Memory) (payoutBatchId : String) :
    (∀ t ∈ (store.listPayoutTransactions host payoutBatchId).filter
        isPayoutTransactionOutcomeUnknown,
      t ∈ store.payoutTransactionsById ∧ t.payoutBatchId = payoutBatchId) ∧
      (((store.listPayoutTransactions host payoutBatchId).filter
        isPayoutTransactionOutcomeUnknown).map PayoutTransactionRecord.id).Nodup := by
  refine ⟨fun t ht => mem_listPayoutTransactions.mp (List.mem_filter.mp ht).1, ?_⟩
  have hrows : ((store.payoutTransactionsById.rows.filter
      (fun t => t.payoutBatchId = payoutBatchId)).map PayoutTransactionRecord.id).Nodup :=
    store.payoutTransactionsById.nodup.sublist (List.filter_sublist.map _)
  have hlist : ((store.listPayoutTransactions host payoutBatchId).map
      PayoutTransactionRecord.id).Nodup :=
    ((sortBy_perm _ _).map _).nodup_iff.mpr hrows
  exact hlist.sublist (List.filter_sublist.map _)

theorem reconcilePayoutBatch_eq_ok {batch : PayoutBatchRecord} {observedAt : Option String}
    {report : PayoutBatchReconciliationReport}
    (h : store.reconcilePayoutBatch host env batch monitor observedAt = (store', .ok report)) :
    batch.status = .outcomeUnknown ∧ (∃ observed outcome,
      reconcileTransactions host env monitor observed
        ((store.listPayoutTransactions host batch.id).filter isPayoutTransactionOutcomeUnknown)
        store = (store', .ok outcome)) ∧
      report.retryPaymentAllowed =
        decide (((store'.payoutBatchesById.find? batch.id).getD batch).status = .failed) := by
  unfold reconcilePayoutBatch at h
  split at h
  · injection h with _ h
    cases h
  · rename_i hstatus
    dsimp only at h
    split at h
    · injection h with _ h
      cases h
    · split at h
      · injection h with _ h
        cases h
      · rename_i observed _
        rcases hloop : reconcileTransactions host env monitor observed
          ((store.listPayoutTransactions host batch.id).filter isPayoutTransactionOutcomeUnknown)
          store with ⟨left, outcome⟩
        rw [hloop] at h
        injection h with hleft h
        subst hleft
        cases outcome with
        | error error => cases h
        | ok outcome =>
            injection h with h
            subst h
            exact ⟨not_not.mp hstatus, ⟨observed, outcome, hloop⟩, rfl⟩

/-- What the latest attempts of a batch are after it was reconciled. -/
theorem latestStatuses_reconcilePayoutBatch {batch : PayoutBatchRecord}
    {observedAt : Option String} {report : PayoutBatchReconciliationReport}
    (h : store.reconcilePayoutBatch host env batch monitor observedAt = (store', .ok report)) :
    store'.latestStatuses host batch.id =
      (latestAttemptBySequence host (store.listPayoutTransactions host batch.id)).map
        (settledStatus monitor) := by
  obtain ⟨-, ⟨observed, outcome, hloop⟩, -⟩ := reconcilePayoutBatch_eq_ok h
  obtain ⟨hmem, hids⟩ := candidates_spec host store batch.id
  obtain ⟨g, hg, hrows, hsettled⟩ :=
    reconcileTransactions_changes hloop (fun t ht => (hmem t ht).1) hids
  rw [latestStatuses, hg.listPayoutTransactions hrows, hg.latestAttemptBySequence, List.map_map]
  refine List.map_congr_left fun t ht => ?_
  have hlisted := mem_of_mem_latest ht
  obtain ⟨hthere, hof⟩ := mem_listPayoutTransactions.mp hlisted
  have hcandidate : t.id ∈ ((store.listPayoutTransactions host batch.id).filter
      isPayoutTransactionOutcomeUnknown).map PayoutTransactionRecord.id ↔
        isPayoutTransactionOutcomeUnknown t = true := by
    constructor
    · intro hk
      obtain ⟨u, hu, hid⟩ := List.mem_map.mp hk
      have hsame : u = t := Table.eq_of_key (hmem u hu).1 hthere hid
      exact hsame ▸ (List.mem_filter.mp hu).2
    · intro hk
      exact List.mem_map_of_mem (List.mem_filter.mpr ⟨hlisted, hk⟩)
  rw [Function.comp_apply, hsettled t hthere, settledStatus]
  by_cases hunknown : isPayoutTransactionOutcomeUnknown t = true
  · rw [if_pos (hcandidate.mpr hunknown), if_pos hunknown]
  · rw [if_neg (mt hcandidate.mp hunknown), if_neg hunknown]

end Memory

/-! ## The flag -/

section Flag

variable {store store' : Memory} {batch : PayoutBatchRecord} {monitor : PayoutFinalityMonitor}
  {observedAt : Option String} {report : PayoutBatchReconciliationReport}

/-- An answer is written, and then a `failed` attempt is the first failure of the batch although
another attempt has not failed. -/
def MaskedByFailure (host : Host) (store : Memory) (payoutBatchId : String)
    (monitor : PayoutFinalityMonitor) : Prop :=
  (∃ t ∈ store.listPayoutTransactions host payoutBatchId,
    isPayoutTransactionOutcomeUnknown t = true ∧ answeredStatus monitor t ≠ none) ∧
  FirstFailureFailed
    ((latestAttemptBySequence host (store.listPayoutTransactions host payoutBatchId)).map
      (settledStatus monitor)) ∧
  ∃ t ∈ latestAttemptBySequence host (store.listPayoutTransactions host payoutBatchId),
    settledStatus monitor t ≠ .failed

/-- The flag is set exactly when an answer was written and a failed attempt is the first failure. -/
theorem retryPaymentAllowed_iff (hbatch : store.payoutBatchesById.find? batch.id = some batch)
    (h : store.reconcilePayoutBatch host env batch monitor observedAt = (store', .ok report)) :
    report.retryPaymentAllowed = true ↔
      (∃ t ∈ store.listPayoutTransactions host batch.id,
        isPayoutTransactionOutcomeUnknown t = true ∧ answeredStatus monitor t ≠ none) ∧
      FirstFailureFailed (store'.latestStatuses host batch.id) := by
  obtain ⟨hunknown, ⟨observed, outcome, hloop⟩, hflag⟩ := Memory.reconcilePayoutBatch_eq_ok h
  obtain ⟨hmem, hids⟩ := Memory.candidates_spec host store batch.id
  rw [hflag, decide_eq_true_eq]
  rcases Memory.reconcileTransactions_rolls hloop hmem hids hbatch with
    ⟨hnothing, rfl⟩ | ⟨⟨t, ht, hanswer⟩, batch', hbatch', hfailed⟩
  · rw [hbatch, Option.getD_some, hunknown]
    constructor
    · intro hcontra
      cases hcontra
    · rintro ⟨⟨t, ht, hcandidate, hanswer⟩, -⟩
      exact absurd (hnothing t (List.mem_filter.mpr ⟨ht, hcandidate⟩)) hanswer
  · rw [hbatch', Option.getD_some, hfailed]
    obtain ⟨hlisted, hcandidate⟩ := List.mem_filter.mp ht
    constructor
    · intro hfirst
      exact ⟨⟨t, hlisted, hcandidate, hanswer⟩, hfirst⟩
    · intro hboth
      exact hboth.2

/-- **The flag promises that every latest attempt has failed exactly when no failed attempt stands
for another that has not.** -/
theorem retryPaymentAllowed_safe_iff
    (hbatch : store.payoutBatchesById.find? batch.id = some batch)
    (h : store.reconcilePayoutBatch host env batch monitor observedAt = (store', .ok report)) :
    (report.retryPaymentAllowed = true →
      ∀ t ∈ latestAttemptBySequence host (store'.listPayoutTransactions host batch.id),
        t.status = .failed) ↔ ¬ MaskedByFailure host store batch.id monitor := by
  have hflag := retryPaymentAllowed_iff hbatch h
  have hstatuses := Memory.latestStatuses_reconcilePayoutBatch h
  rw [hstatuses] at hflag
  have hall : (∀ t ∈ latestAttemptBySequence host (store'.listPayoutTransactions host batch.id),
      t.status = .failed) ↔
      ∀ t ∈ latestAttemptBySequence host (store.listPayoutTransactions host batch.id),
        settledStatus monitor t = .failed := by
    rw [Memory.latestStatuses] at hstatuses
    have hboth := congrArg (fun statuses : List PayoutTransactionStatus =>
      ∀ status ∈ statuses, status = .failed) hstatuses
    simpa only [List.forall_mem_map] using Iff.of_eq hboth
  rw [hflag, hall]
  constructor
  · rintro hsafe ⟨hanswered, hfirst, t, ht, hne⟩
    exact hne (hsafe ⟨hanswered, hfirst⟩ t ht)
  · rintro hnot ⟨hanswered, hfirst⟩ t ht
    by_contra hne
    exact hnot ⟨hanswered, hfirst, t, ht, hne⟩

end Flag

/-! ## One failed transaction of two -/

namespace Sample

/-- The `n`th snapshot, payable to a wallet of its own. -/
def walletSnapshot (n : Nat) : ReceiptIngestionSnapshot :=
  { snapshot n with
    accrual := (snapshot n).accrual.map ({ · with payoutWallet := idOf "wallet" n }) }

/-- Save a signed transaction `n` that pays item `n` of batch 1. -/
def saveSignedItem (n : Nat) (sequence : Int) : StoreOp :=
  .saveSignedPayoutTransactions ⟨idOf "pbt" 1,
    [⟨some (idOf "ptx" n), sequence, some 1, none, none, "AAAA", none,
      some [⟨idOf "pit" n, "10", idOf "wallet" n, none⟩]⟩], some now, none⟩

/-- A batch of two items, paid by a transaction each: the second is finalized, what became of the
first is unknown. -/
def oneOfTwoUnknown : List StoreOp :=
  [.save (walletSnapshot 1), .markReceiptChainVerified ⟨idOf "rct" 1, now⟩,
    .save (walletSnapshot 2), .markReceiptChainVerified ⟨idOf "rct" 2, now⟩,
    .createPayoutBatchFromAvailableAccruals
      ⟨idOf "mrc" 1, idOf "mpw" 1, "solana:devnet", "USDC", none, none, some now, none,
        some (idOf "pbt" 1), some (fun n => idOf "pit" (n + 1)), none, none⟩,
    saveSignedItem 1 0, saveSignedItem 2 1, markSubmitted 1, markSubmitted 2,
    markFinality 2 .finalized none, markFinality 1 .outcomeUnknown none]

/-- A monitor that reports every transaction it is asked about as failed. -/
def failedMonitor : PayoutFinalityMonitor := fun transaction =>
  .ok ⟨transaction.id, .failed, none, none, none, none, none, none⟩

/-- The reconciliation of that batch. -/
def reconcileOneOfTwo : Option (PayoutBatchRecord × Memory × PayoutBatchReconciliationReport) :=
  ((Memory.sample oneOfTwoUnknown).payoutBatchesById.find? (idOf "pbt" 1)).bind (fun batch =>
    match (Memory.sample oneOfTwoUnknown).reconcilePayoutBatch isoHost (Sample.env 11) batch
        failedMonitor none with
    | (left, .ok report) => some (batch, left, report)
    | (_, .error _) => none)

theorem reconcileOneOfTwo_spec : ∃ batch store' report,
    (Memory.sample oneOfTwoUnknown).payoutBatchesById.find? batch.id = some batch ∧
    (Memory.sample oneOfTwoUnknown).reconcilePayoutBatch isoHost (Sample.env 11) batch failedMonitor none =
      (store', .ok report) ∧
    report.retryPaymentAllowed = true ∧
    ∃ t ∈ latestAttemptBySequence isoHost (store'.listPayoutTransactions isoHost batch.id),
      t.status = .finalized := by
  have hcheck : reconcileOneOfTwo.any (fun (batch, left, report) =>
      report.retryPaymentAllowed &&
        (latestAttemptBySequence isoHost (left.listPayoutTransactions isoHost batch.id)).any
          (fun t => t.status == .finalized)) = true := by
    decide +kernel
  obtain ⟨⟨batch, left, report⟩, hsome, hboth⟩ := (Option.any_eq_true _ _).mp hcheck
  unfold reconcileOneOfTwo at hsome
  obtain ⟨found, hfound, hsome⟩ := Option.bind_eq_some_iff.mp hsome
  have hid : found.id = idOf "pbt" 1 := Table.key_of_find? hfound
  split at hsome
  · rename_i store' outcome hcall
    injection hsome with hsome
    obtain ⟨rfl, rfl, rfl⟩ := hsome
    rw [Bool.and_eq_true, List.any_eq_true] at hboth
    obtain ⟨hflag, t, ht, hfinal⟩ := hboth
    exact ⟨_, _, _, hid ▸ hfound, hcall, hflag, t, ht, by simpa using hfinal⟩
  · cases hsome

end Sample

/-- The flag is set although a transaction of the batch is finalized. -/
theorem not_retryPaymentAllowed_safe : ∃ store batch store' report,
    (Memory.system isoHost).Reachable (fun _ _ => True) store ∧
    store.payoutBatchesById.find? batch.id = some batch ∧
    store.reconcilePayoutBatch isoHost (Sample.env 11) batch Sample.failedMonitor none =
      (store', .ok report) ∧
    report.retryPaymentAllowed = true ∧
    ∃ t ∈ latestAttemptBySequence isoHost (store'.listPayoutTransactions isoHost batch.id),
      t.status = .finalized := by
  obtain ⟨batch, store', report, hrest⟩ := Sample.reconcileOneOfTwo_spec
  exact ⟨_, batch, store', report, Memory.reachable_sample_true (by decide +kernel), hrest⟩

theorem retryPaymentAllowed_safe_iff_sample : ∃ batch store' report,
    (Memory.sample Sample.oneOfTwoUnknown).reconcilePayoutBatch isoHost (Sample.env 11) batch
      Sample.failedMonitor none = (store', .ok report) ∧
    ((report.retryPaymentAllowed = true →
      ∀ t ∈ latestAttemptBySequence isoHost (store'.listPayoutTransactions isoHost batch.id),
        t.status = .failed) ↔
      ¬ MaskedByFailure isoHost (Memory.sample Sample.oneOfTwoUnknown) batch.id
        Sample.failedMonitor) := by
  obtain ⟨batch, store', report, hfound, hcall, -⟩ := Sample.reconcileOneOfTwo_spec
  exact ⟨batch, store', report, hcall, retryPaymentAllowed_safe_iff hfound hcall⟩

end Split402

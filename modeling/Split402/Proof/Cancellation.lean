import Split402.Proof.MemoryPayouts
import Split402.Proof.PostgresPayouts

/-! # Cancellation is final until a mark rolls up

A released batch is cancelled and its items are released. Nothing a store does to it changes that,
except the rollup after a mark on one of its transactions: it computes the status of the batch from
the transactions alone. In the database both marks roll up, in memory only the finality mark. -/

namespace Split402

open Base

variable {host : Host} {env : CallEnv}

namespace Memory

variable {store store' : Memory} {b : String}

/-- The batch is cancelled and its items are released. -/
def isCancelled (store : Memory) (b : String) : Bool :=
  (store.payoutBatchesById.find? b).any (fun batch =>
    batch.status == .cancelled && batch.items.all (fun item => item.status == .released))

/-- The call writes a finality mark on a transaction of the batch. -/
def marksBatch (b : String) (store : Memory) (call : StoreCall) : Bool :=
  match call.op with
  | .markPayoutTransactionFinality input =>
      (store.payoutTransactionsById.find? input.id).any (fun existing =>
        existing.payoutBatchId == b && input.admits existing)
  | _ => false

theorem isCancelled_iff : store.isCancelled b = true ↔ store.payouts.Cancelled b := by
  rw [isCancelled, Option.any_eq_true]
  constructor
  · rintro ⟨batch, hfind, h⟩
    simp only [Bool.and_eq_true, beq_iff_eq, List.all_eq_true] at h
    refine ⟨payouts_batch_eq_some.mpr ⟨batch, hfind, h.1⟩, ?_⟩
    intro i s hi
    obtain ⟨item, hitem, -, rfl⟩ := (payouts_item_of_find hfind).mp hi
    exact h.2 item hitem
  · rintro ⟨hbatch, hitems⟩
    obtain ⟨batch, hfind, hstatus⟩ := payouts_batch_eq_some.mp hbatch
    refine ⟨batch, hfind, ?_⟩
    simp only [Bool.and_eq_true, beq_iff_eq, List.all_eq_true]
    exact ⟨hstatus, fun item hitem => hitems item.id item.status
      ((payouts_item_of_find hfind).mpr ⟨item, hitem, rfl, rfl⟩)⟩

/-- A move that rolls the batch up is made by a call that marks it. -/
theorem marksBatch_of_rolls {call : StoreCall} {move : Payouts.Move}
    (hmakes : store.payouts.Makes false call.op move)
    (hrolls : store.payouts.RollsBatch b move) : store.marksBatch b call = true := by
  obtain ⟨env, op⟩ := call
  cases move with
  | mark id status rolls =>
      cases rolls with
      | true =>
          obtain ⟨t, ht, hb⟩ := hrolls
          obtain ⟨record, hfind, rfl⟩ := payouts_transaction_eq_some.mp ht
          rcases hmakes with ⟨input, -, -, -, hfalse⟩ | ⟨input, rfl, rfl, -, -, hexpected⟩
          · cases hfalse
          · have hadmits : input.admits record = true := by
              rw [MarkPayoutTransactionFinalityInput.admits]
              cases he : input.expectedStatus with
              | none => rfl
              | some expected =>
                  rw [Option.all_some, beq_iff_eq]
                  exact hexpected record.signed ht expected he
            have hbatch : record.payoutBatchId = b := hb
            simp [marksBatch, hfind, hbatch, hadmits]
      | false => exact hrolls.elim
  | idle => exact hrolls.elim
  | create batchId => exact hrolls.elim
  | release batchId => exact hrolls.elim
  | sign batchId signed => exact hrolls.elim

theorem next_isCancelled (host : Host) (hdistinct : store.payouts.Distinct) {call : StoreCall}
    (hfresh : store.fresh call = true) (hmarks : store.marksBatch b call = false)
    (h : store.isCancelled b = true) : (store.next host call).isCancelled b = true := by
  obtain ⟨move, hstep, hmakes⟩ := next_payouts host hdistinct hfresh
  refine isCancelled_iff.mpr (hstep.cancelled (isCancelled_iff.mp h) fun hrolls => ?_)
  rw [marksBatch_of_rolls hmakes hrolls] at hmarks
  cases hmarks

/-- A closing call on a cancelled batch posts nothing. -/
theorem close_of_isCancelled (h : store.isCancelled b = true) {input : ClosePayoutBatchLedgerInput}
    (hb : input.payoutBatchId = b) {result : Option LedgerTransaction}
    (hclose : store.closeFinalizedPayoutBatchLedger host env input = .ok (result, store')) :
    store' = store := by
  rcases closeFinalizedPayoutBatchLedger_eq_ok hclose with ⟨hsame, -⟩ | ⟨batch, t, -, hcloses⟩
  · exact hsame
  · have hcancelled := (isCancelled_iff.mp h).batch
    rw [← hb, payouts_batch_of_find hcloses.found, hcloses.closes.finalized] at hcancelled
    cases hcancelled

/-- A finality mark that writes reopens the batch of its transaction. -/
theorem not_isCancelled_of_finality (hdistinct : store.payouts.Distinct)
    {input : MarkPayoutTransactionFinalityInput} {existing updated : PayoutTransactionRecord}
    (hfind : store.payoutTransactionsById.find? input.id = some existing)
    (hknown : store.payoutBatchesById.find? existing.payoutBatchId ≠ none)
    (h : store.markPayoutTransactionFinality host env input = .ok (some updated, store')) :
    store'.isCancelled existing.payoutBatchId = false := by
  rcases markPayoutTransactionFinality_eq_ok h with
    ⟨hnone, -⟩ | ⟨existing', observedAt, -, hfind', -, rfl⟩
  · cases hnone
  · rw [hfind] at hfind'
    injection hfind' with hsame
    subst hsame
    have hid : existing.id = input.id := Table.key_of_find? hfind
    rw [← hid] at hfind
    have hmark : store.payouts.Step (.mark existing.id input.status.toStatus true) _ :=
      finality_move host hdistinct input observedAt hfind
    rw [Bool.eq_false_iff]
    intro hcancelled
    refine hmark.not_cancelled
      ⟨existing.signed, payouts_transaction_of_find hfind, rfl⟩ ?_ (isCancelled_iff.mp hcancelled)
    exact fun hnone => hknown (payouts_batch_eq_none.mp hnone)

end Memory

namespace Db

variable {db db' reads : Db} {b : String}

/-- The batch is cancelled and its items are released. -/
def isCancelled (db : Db) (b : String) : Bool :=
  (db.payoutBatches.find? b).any (fun row => row.status == .cancelled) &&
    db.payoutItems.rows.all (fun row => row.payoutBatchId != b || row.status == .released)

theorem isCancelled_iff : db.isCancelled b = true ↔ db.payouts.Cancelled b := by
  rw [isCancelled, Bool.and_eq_true, Option.any_eq_true, List.all_eq_true]
  constructor
  · rintro ⟨⟨row, hfind, hstatus⟩, hitems⟩
    rw [beq_iff_eq] at hstatus
    refine ⟨by rw [payouts_batch_of_find hfind, hstatus], ?_⟩
    rintro i s ⟨item, hitem, hb, -, rfl⟩
    simpa [hb] using hitems item hitem
  · rintro ⟨hbatch, hitems⟩
    obtain ⟨row, hfind, hstatus⟩ := Option.map_eq_some_iff.mp hbatch
    refine ⟨⟨row, hfind, by rw [hstatus]; rfl⟩, fun item hitem => ?_⟩
    by_cases hb : item.payoutBatchId = b
    · have hreleased := hitems item.id item.status ⟨item, hitem, hb, rfl, rfl⟩
      simp [hreleased]
    · simp [hb]

/-- A closing call that reads a cancelled batch posts nothing. -/
theorem close_of_isCancelled (h : reads.isCancelled b = true) {input : ClosePayoutBatchLedgerInput}
    (hb : input.payoutBatchId = b) {result : Option LedgerTransaction}
    (hclose : closeFinalizedPayoutBatchLedger host env reads db input = .ok (result, db')) :
    db' = db := by
  rcases closeFinalizedPayoutBatchLedger_eq_ok hclose with ⟨hsame, -⟩ | ⟨batch, t, -, hcloses⟩
  · exact hsame
  · have hcancelled := (isCancelled_iff.mp h).batch
    rw [← hb, (loadPayoutBatch_eq_some hcloses.found).batch, hcloses.closes.finalized] at hcancelled
    cases hcancelled

/-- A mark that writes reopens the batch of its transaction. -/
theorem not_isCancelled_of_marks (hdistinct : db.payouts.Distinct) {row : PayoutTransactionRow}
    {change : PayoutTransactionRow → PayoutTransactionRow}
    {hkey : ∀ row, (change row).id = row.id} {at' : String} {status : PayoutTransactionStatus}
    (hchange : ∀ row, db.signedOf (change row) = { db.signedOf row with status := status })
    (hknown : db.payoutBatches.find? row.payoutBatchId ≠ none)
    (h : MarksTransaction host db row change hkey at' db') :
    db'.isCancelled row.payoutBatchId = false := by
  rw [Bool.eq_false_iff]
  intro hcancelled
  have hmark : db.payouts.Step (.mark row.id status true) db'.payouts :=
    mark_move hdistinct hchange h
  refine hmark.not_cancelled ⟨db.signedOf row, payouts_transaction_of_find h.found, rfl⟩ ?_
    (isCancelled_iff.mp hcancelled)
  exact fun hnone => hknown (payouts_batch_eq_none.mp hnone)

end Db

namespace Timeline

variable {timeline : Timeline} {b : String}

/-- The call writes a mark on a transaction of the batch. -/
def marksBatch (b : String) (timeline : Timeline) (request : Request) : Bool :=
  match request.call.op with
  | .markPayoutTransactionSubmitted input =>
      (timeline.current.payoutTransactions.find? input.id).any (fun row => row.payoutBatchId == b)
  | .markPayoutTransactionFinality input =>
      (timeline.current.payoutTransactions.find? input.id).any (fun row =>
        row.payoutBatchId == b && input.expectedStatus.all (· == row.status))
  | _ => false

/-- A move that rolls the batch up is made by a call that marks it. -/
theorem marksBatch_of_rolls {request : Request} {move : Payouts.Move}
    (hmakes : timeline.current.payouts.Makes true request.call.op move)
    (hrolls : timeline.current.payouts.RollsBatch b move) :
    timeline.marksBatch b request = true := by
  obtain ⟨reads, env, op⟩ := request
  cases move with
  | mark id status rolls =>
      cases rolls with
      | true =>
          obtain ⟨t, ht, hb⟩ := hrolls
          obtain ⟨row, hfind, rfl⟩ := Db.payouts_transaction_eq_some.mp ht
          have hbatch : row.payoutBatchId = b := hb
          rcases hmakes with ⟨input, rfl, rfl, -, -⟩ | ⟨input, rfl, rfl, -, -, hexpected⟩
          · simp [marksBatch, hfind, hbatch]
          · have hadmits : input.expectedStatus.all (· == row.status) = true := by
              cases he : input.expectedStatus with
              | none => rfl
              | some expected =>
                  rw [Option.all_some, beq_iff_eq]
                  exact hexpected (timeline.current.signedOf row) ht expected he
            simp [marksBatch, hfind, hbatch, hadmits]
      | false => exact hrolls.elim
  | idle => exact hrolls.elim
  | create batchId => exact hrolls.elim
  | release batchId => exact hrolls.elim
  | sign batchId signed => exact hrolls.elim

theorem next_isCancelled (host : Host) (hinv : timeline.PayoutsInv) {request : Request}
    (hreads : request.reads ∈ timeline.versions)
    (hmarks : timeline.marksBatch b request = false)
    (h : timeline.current.isCancelled b = true) :
    (timeline.next host request).current.isCancelled b = true := by
  obtain ⟨move, ⟨hstep, hmakes⟩, -⟩ := next_payouts host hinv hreads
  refine Db.isCancelled_iff.mpr (hstep.cancelled (Db.isCancelled_iff.mp h) fun hrolls => ?_)
  rw [marksBatch_of_rolls hmakes hrolls] at hmarks
  cases hmarks

end Timeline

/-- **A cancelled batch stays cancelled, with its items released, in every run that marks none of
its transactions, and no closing call that reads it posts anything** — in both stores. -/
theorem cancellation_final (host : Host) (b : String) :
    (∀ store store', (Memory.system host).Reachable (fun _ _ => True) store →
      store.isCancelled b = true →
      (Memory.system host).Run (fun store call => store.marksBatch b call = false) store store' →
      store'.isCancelled b = true ∧
        ∀ env input result store'', input.payoutBatchId = b →
          store'.closeFinalizedPayoutBatchLedger host env input = .ok (result, store'') →
          store'' = store') ∧
    (∀ timeline timeline', (Timeline.system host).Reachable (fun _ _ => True) timeline →
      timeline.current.isCancelled b = true →
      (Timeline.system host).Run (fun timeline request => timeline.marksBatch b request = false)
        timeline timeline' →
      timeline'.current.isCancelled b = true ∧
        ∀ env db input result db', input.payoutBatchId = b →
          Db.closeFinalizedPayoutBatchLedger host env timeline'.current db input =
            .ok (result, db') →
          db' = db) := by
  constructor
  · intro store store' hreachable h hrun
    have hkept := System.Run.invariant
      (P := fun store => store.payouts.Distinct ∧ store.isCancelled b = true)
      hrun ⟨Memory.reachable_distinct hreachable, h⟩ (by
        rintro s call s' ⟨hdistinct, hcancelled⟩ hmarks ⟨hfresh, rfl⟩
        obtain ⟨move, hstep, -⟩ := Memory.next_payouts host hdistinct hfresh
        exact ⟨hstep.distinct hdistinct,
          Memory.next_isCancelled host hdistinct hfresh hmarks hcancelled⟩)
    exact ⟨hkept.2, fun env input result store'' hb hclose =>
      Memory.close_of_isCancelled hkept.2 hb hclose⟩
  · intro timeline timeline' hreachable h hrun
    have hkept := System.Run.invariant
      (P := fun timeline => timeline.PayoutsInv ∧ timeline.current.isCancelled b = true)
      hrun ⟨Timeline.reachable_payoutsInv hreachable, h⟩ (by
        rintro s request s' ⟨hinv, hcancelled⟩ hmarks ⟨hreads, -, rfl⟩
        exact ⟨hinv.next host hreads,
          Timeline.next_isCancelled host hinv hreads hmarks hcancelled⟩)
    exact ⟨hkept.2, fun env db input result db' hb hclose =>
      Db.close_of_isCancelled hkept.2 hb hclose⟩

/-! ## Concrete runs -/

section Runs

open Sample (idOf callsFrom releaseSigned saveSigned markSubmitted markFinality closeInput)

/-- A second attempt is signed after the release. -/
def signsAgain : List StoreOp := [saveSigned 1 2 0 2 none]

set_option maxRecDepth 100000 in
theorem cancellation_final_signsAgain :
    ((callsFrom 5 signsAgain).foldl (Memory.next isoHost)
      (Memory.sample releaseSigned)).isCancelled (idOf "pbt" 1) = true ∧
    ((callsFrom 5 signsAgain).foldl (Timeline.nextAlone isoHost)
      (Timeline.sample releaseSigned)).current.isCancelled (idOf "pbt" 1) = true := by
  constructor
  · exact ((cancellation_final isoHost (idOf "pbt" 1)).1 _ _
      (Memory.reachable_sample_true (by decide +kernel)) (by decide +kernel)
      ((Memory.run_sample (p := fun store call => !store.marksBatch (idOf "pbt" 1) call)
        (by decide +kernel)).mono (fun _ _ h => by simpa using h))).1
  · exact ((cancellation_final isoHost (idOf "pbt" 1)).2 _ _
      (Timeline.reachable_sample_true (by decide +kernel)) (by decide +kernel)
      ((Timeline.run_sample (p := fun timeline request =>
        !timeline.marksBatch (idOf "pbt" 1) request)
        (by decide +kernel)).mono (fun _ _ h => by simpa using h))).1

set_option maxRecDepth 100000 in
/-- A released batch is reopened by the finality mark of its transaction, and closed; in the
database the submitted mark reopens it too. -/
theorem not_cancellation_final_landsAfterRelease :
    (∃ store, (Memory.system isoHost).Reachable (fun _ _ => True) store ∧
      store.isCancelled (idOf "pbt" 1) = true ∧
      (store.next isoHost ⟨Sample.env 5, markFinality 1 .finalized none⟩).isCancelled (idOf "pbt" 1) =
        false ∧
      ∃ transaction store', (store.next isoHost
        ⟨Sample.env 5, markFinality 1 .finalized none⟩).closeFinalizedPayoutBatchLedger isoHost (Sample.env 6)
          (closeInput 1) = .ok (some transaction, store') ∧
        store'.payoutLedgerTransactionsByBatchId.rows = [transaction]) ∧
    (∃ timeline, (Timeline.system isoHost).Reachable (fun _ _ => True) timeline ∧
      timeline.current.isCancelled (idOf "pbt" 1) = true ∧
      (timeline.nextAlone isoHost ⟨Sample.env 5, markFinality 1 .finalized none⟩).current.isCancelled
        (idOf "pbt" 1) = false ∧
      (timeline.nextAlone isoHost ⟨Sample.env 5, markSubmitted 1⟩).current.isCancelled
        (idOf "pbt" 1) = false) := by
  constructor
  · obtain ⟨transaction, store', hclose, hposted⟩ := exists_of_postedWith
      (fun transaction (store' : Memory) =>
        decide (store'.payoutLedgerTransactionsByBatchId.rows = [transaction]))
      (show postedWith _ (((Memory.sample releaseSigned).next isoHost
        ⟨Sample.env 5, markFinality 1 .finalized none⟩).closeFinalizedPayoutBatchLedger isoHost (Sample.env 6)
          (closeInput 1)) = true by decide +kernel)
    exact ⟨Memory.sample releaseSigned, Memory.reachable_sample_true (by decide +kernel),
      by decide +kernel, by decide +kernel, transaction, store', hclose, of_decide_eq_true hposted⟩
  · exact ⟨Timeline.sample releaseSigned, Timeline.reachable_sample_true (by decide +kernel),
      by decide +kernel, by decide +kernel, by decide +kernel⟩

end Runs

end Split402

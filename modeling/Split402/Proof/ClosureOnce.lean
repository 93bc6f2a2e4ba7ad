import Split402.Payouts.Closure
import Split402.Proof.MemoryOps

/-! # A batch is closed once

The store keeps the ledger transaction recorded last for a batch, and no other call writes one. So a
batch has one ledger transaction, which every closing call returns, as long as no call writes after
another has written: between its look for a transaction and its write a call awaits the verifier of
transfers, and it does not look again. -/

namespace Split402.Closing

open Base Base.Async

variable {host : Host}

/-! ## The ledger of a store -/

theorem exec_ledgers {store store' : Memory} {call : StoreCall}
    (hother : ∀ input, call.op ≠ .closeFinalizedPayoutBatchLedger input)
    (h : store.exec host call = .ok store') :
    store'.payoutLedgerTransactionsByBatchId = store.payoutLedgerTransactionsByBatchId := by
  obtain ⟨env, op⟩ := call
  cases op with
  | save snapshot =>
      cases h
      rfl
  | markReceiptChainVerified input =>
      cases h
      unfold Memory.markReceiptChainVerified
      split <;> rfl
  | markReceiptChainRejected input =>
      cases h
      unfold Memory.markReceiptChainRejected
      split <;> rfl
  | createPayoutBatchFromAvailableAccruals input =>
      obtain ⟨⟨batch, made⟩, hmade, rfl⟩ := map_eq_ok.mp h
      obtain ⟨accruals, -, hmade⟩ := bind_eq_ok.mp hmade
      obtain ⟨plan, -, hmade⟩ := bind_eq_ok.mp hmade
      dsimp only at hmade
      split at hmade
      · cases hmade
      · split at hmade
        · cases hmade
        · cases hmade
          exact Memory.setAccrualStatus_ledgers _ _
  | releasePayoutBatchAllocations input =>
      obtain ⟨⟨result, made⟩, hmade, rfl⟩ := map_eq_ok.mp h
      rcases Memory.releasePayoutBatchAllocations_eq_ok hmade with
        ⟨-, -, rfl⟩ | ⟨batch, released, -, hreleases⟩
      · rfl
      · rw [hreleases.writes]
        exact Memory.setAccrualStatus_ledgers _ _
  | saveSignedPayoutTransactions input =>
      obtain ⟨⟨records, made⟩, hmade, rfl⟩ := map_eq_ok.mp h
      obtain ⟨batch, hsaves⟩ := Memory.saveSignedPayoutTransactions_eq_ok hmade
      rw [hsaves.writes]
  | markPayoutTransactionSubmitted input =>
      obtain ⟨⟨result, made⟩, hmade, rfl⟩ := map_eq_ok.mp h
      rcases Memory.markPayoutTransactionSubmitted_eq_ok hmade with ⟨-, rfl⟩ | ⟨_, _, -, rfl⟩
      · rfl
      · rfl
  | markPayoutTransactionFinality input =>
      obtain ⟨⟨result, made⟩, hmade, rfl⟩ := map_eq_ok.mp h
      rcases Memory.markPayoutTransactionFinality_eq_ok hmade with
        ⟨-, rfl⟩ | ⟨existing, observedAt, -, -, -, rfl⟩
      · rfl
      · rcases Memory.rollUpPayoutBatchFinality_cases host
          { store with
            payoutTransactionsById := store.payoutTransactionsById.upsert
              (Memory.finalityTransaction existing input observedAt) }
          existing.payoutBatchId observedAt with ⟨heq, -⟩ | ⟨_, _, -, -, heq⟩
        · rw [heq]
        · rw [heq]
  | closeFinalizedPayoutBatchLedger input => exact absurd rfl (hother input)

theorem record_ledgers (store : Memory) (batch : PayoutBatchRecord)
    (transaction : LedgerTransaction) :
    (record store batch transaction).payoutLedgerTransactionsByBatchId =
      store.payoutLedgerTransactionsByBatchId.upsert transaction :=
  Memory.setAccrualStatus_ledgers _ _

/-! ## A call by itself -/

/-- A call whose parts follow one another is the closing call of the store. -/
theorem run_closeFinalizedPayoutBatchLedger (call : ClosingCall) (ledger : LedgerHistory) :
    ∃ recorded, (closeFinalizedPayoutBatchLedger host call).run (serve host call) ledger =
      match ledger.store.closeFinalizedPayoutBatchLedger host call.env call.input with
      | .ok (result, store) => (⟨store, recorded⟩, .ok result)
      | .error e => (ledger, .error e) := by
  unfold closeFinalizedPayoutBatchLedger Memory.closeFinalizedPayoutBatchLedger
  cases hexisting : ledger.store.payoutLedgerTransactionsByBatchId.find?
      call.input.payoutBatchId with
  | some existing =>
      refine ⟨ledger.recorded, ?_⟩
      simp [Await.load, Async.call, Async.run, serve, load, hexisting, pure, Except.pure]
  | none =>
      cases hbatch : ledger.store.payoutBatchesById.find? call.input.payoutBatchId with
      | none =>
          refine ⟨ledger.recorded, ?_⟩
          simp [Await.load, Async.call, Async.run, serve, load, hexisting, hbatch, pure, Except.pure]
      | some batch =>
          cases hverify : verifyPayoutFinalizedTransfersBeforeLedgerClosure
              call.input.verification with
          | error e =>
              refine ⟨ledger.recorded, ?_⟩
              simp [Await.load, Await.verifyFinalizedPayout, Await.ofExcept, Async.call, Async.run,
                serve, load, hexisting, hbatch, hverify, bind, Except.bind, Async.bind]
          | ok u =>
              cases hcreate : createPayoutFinalizationLedgerTransaction host call.env batch
                  call.input with
              | error e =>
                  refine ⟨ledger.recorded, ?_⟩
                  simp [Await.load, Await.verifyFinalizedPayout, Await.ofExcept, Async.call,
                    Async.run, serve, load, hexisting, hbatch, hverify, hcreate, bind, Except.bind,
                    Async.bind]
              | ok transaction =>
                  refine ⟨ledger.recorded ++ [transaction], ?_⟩
                  simp [Await.load, Await.verifyFinalizedPayout, Await.record, Await.ofExcept,
                    Async.call, Async.run, serve, load, record, hexisting, hbatch, hverify, hcreate,
                    bind, Except.bind, Async.bind, pure, Except.pure]

/-! ## What calls rely on -/

/-- The ledger transactions of a batch that have been recorded. -/
def recordedFor (ledger : LedgerHistory) (payoutBatchId : String) : List LedgerTransaction :=
  ledger.recorded.filter (fun transaction => transaction.sourceId = payoutBatchId)

/-- The store keeps the transaction recorded last. -/
def KeepsLast (ledger : LedgerHistory) : Prop :=
  ∀ payoutBatchId, ledger.store.payoutLedgerTransactionsByBatchId.find? payoutBatchId =
    (recordedFor ledger payoutBatchId).getLast?

/-- No transaction of the ledger is replaced. -/
def rely (_ : ClosingCall) (_ : Option Op) (s t : LedgerHistory) : Prop :=
  ∀ payoutBatchId transaction,
    s.store.payoutLedgerTransactionsByBatchId.find? payoutBatchId = some transaction →
    t.store.payoutLedgerTransactionsByBatchId.find? payoutBatchId = some transaction

/-- A call writes the transaction of its batch. -/
def need (call : ClosingCall) (_ : LedgerHistory) : Op → Prop
  | .record batch transaction =>
      batch.id = call.input.payoutBatchId ∧ transaction.sourceId = call.input.payoutBatchId
  | _ => True

/-- A transaction that is returned is the one the store has. -/
def post (call : ClosingCall) (s : LedgerHistory)
    (result : Except PayoutError (Option LedgerTransaction)) : Prop :=
  ∀ transaction, result = .ok (some transaction) →
    s.store.payoutLedgerTransactionsByBatchId.find? call.input.payoutBatchId = some transaction

theorem sourceId_of_create {env : CallEnv} {batch : PayoutBatchRecord}
    {input : ClosePayoutBatchLedgerInput} {transaction : LedgerTransaction}
    (h : createPayoutFinalizationLedgerTransaction host env batch input = .ok transaction) :
    transaction.sourceId = batch.id :=
  (createPayoutFinalizationLedgerTransaction_eq_ok h).sourceId

theorem meets_close (call : ClosingCall) (s : LedgerHistory) :
    Meets (handle host) KeepsLast rely need call (post call)
      (closeFinalizedPayoutBatchLedger host call) s := by
  have hthrows : ∀ (t : LedgerHistory) (e : PayoutError), post call t (.error e) := by
    intro t e transaction h
    cases h
  unfold closeFinalizedPayoutBatchLedger
  refine Meets.call_bind (fun _ _ _ => trivial) ?_ (fun _ u e _ _ _ => hthrows u e)
  intro t u loaded _ _ hload
  obtain ⟨rfl, hloaded⟩ := Prod.mk.inj hload
  obtain rfl := Except.ok.inj hloaded
  cases hexisting : t.store.payoutLedgerTransactionsByBatchId.find? call.input.payoutBatchId with
  | some existing =>
      simp only [load, hexisting]
      refine .done ?_
      intro transaction h
      obtain rfl := Option.some.inj (Except.ok.inj h)
      exact hexisting
  | none =>
      cases hbatch : t.store.payoutBatchesById.find? call.input.payoutBatchId with
      | none =>
          simp only [load, hexisting, hbatch, Option.map_none]
          refine .done ?_
          intro transaction h
          cases Except.ok.inj h
      | some batch =>
          have hid : batch.id = call.input.payoutBatchId := Table.key_of_find? hbatch
          simp only [load, hexisting, hbatch, Option.map_some]
          refine Meets.call_bind (fun _ _ _ => trivial) ?_ (fun _ u e _ _ _ => hthrows u e)
          intro _ _ verification _ _ _
          cases verifyPayoutFinalizedTransfersBeforeLedgerClosure verification with
          | error e => exact .done (hthrows _ e)
          | ok _ =>
              cases hcreate : createPayoutFinalizationLedgerTransaction host call.env batch
                  call.input with
              | error e => exact .done (hthrows _ e)
              | ok transaction =>
                  have hsource := (sourceId_of_create hcreate).trans hid
                  refine Meets.call_bind (fun _ _ _ => ⟨hid, hsource⟩) ?_
                    (fun _ u e _ _ _ => hthrows u e)
                  intro v w _ _ _ hrecord
                  obtain ⟨rfl, -⟩ := Prod.mk.inj hrecord
                  refine .done ?_
                  intro returned h
                  obtain rfl := Option.some.inj (Except.ok.inj h)
                  show (record v.store batch transaction).payoutLedgerTransactionsByBatchId.find? _ =
                    _
                  rw [record_ledgers, Table.find?_upsert, if_pos hsource]

theorem keepsLast_record {s : LedgerHistory} {batch : PayoutBatchRecord}
    {transaction : LedgerTransaction} (h : KeepsLast s) :
    KeepsLast ⟨record s.store batch transaction, s.recorded ++ [transaction]⟩ := by
  intro payoutBatchId
  show (record s.store batch transaction).payoutLedgerTransactionsByBatchId.find? _ =
    ((s.recorded ++ [transaction]).filter _).getLast?
  rw [record_ledgers, Table.find?_upsert, List.filter_append]
  by_cases hid : transaction.sourceId = payoutBatchId
  · rw [if_pos hid, List.filter_cons_of_pos (by simpa using hid), List.filter_nil,
      List.getLast?_concat]
  · rw [if_neg hid, List.filter_cons_of_neg (by simpa using hid), List.filter_nil, List.append_nil]
    exact h payoutBatchId

/-! ## All calls -/

variable {pool pool' : Calls} {payoutBatchId : String}

theorem find?_exec {s t : LedgerHistory} {call : StoreCall} (h : others host s call t) :
    t.store.payoutLedgerTransactionsByBatchId = s.store.payoutLedgerTransactionsByBatchId ∧
      t.recorded = s.recorded := by
  obtain ⟨hother, rfl⟩ := h
  refine ⟨?_, rfl⟩
  cases hexec : s.store.exec host call with
  | error e => rfl
  | ok store' => exact exec_ledgers hother hexec

/-- A step that is not late replaces no transaction. -/
theorem rely_of_step {event : Pool.Event ClosingCall StoreCall} (call : ClosingCall)
    (waits : Option Op) (hlate : late pool event = false)
    (hneed : ∀ j c op resume, event = .resume j → pool.calls[j]? = some (c, .await op resume) →
      need c pool.shared op)
    (hstep : (closureSystem host).step pool event pool') :
    rely call waits pool.shared pool'.shared := by
  intro id transaction hfind
  cases hstep with
  | start c => exact hfind
  | @resume i c op resume u answer hi hhandle =>
      cases op with
      | load payoutBatchId =>
          obtain ⟨rfl, -⟩ := Prod.mk.inj hhandle
          exact hfind
      | verifyFinalizedPayout batch transactions =>
          obtain rfl := hhandle
          exact hfind
      | record batch recorded =>
          obtain ⟨rfl, -⟩ := Prod.mk.inj hhandle
          obtain ⟨hid, hsource⟩ := hneed i c _ resume rfl hi
          rw [late, hi] at hlate
          show (record pool.shared.store batch recorded).payoutLedgerTransactionsByBatchId.find? id =
            _
          rw [record_ledgers, Table.find?_upsert]
          by_cases hsame : recorded.sourceId = id
          · -- the batch has no transaction yet
            have hnone := Table.has_eq_false.mp hlate
            rw [← hsame, hsource, ← hid] at hfind
            have hmem := Table.mem_of_find? hfind
            exact absurd (Table.key_of_find? hfind) (hnone transaction hmem)
          · rw [if_neg hsame]
            exact hfind
  | outside hothers =>
      rw [(find?_exec hothers).1]
      exact hfind

theorem meets_of_reachable
    (h : (closureSystem host).Reachable (fun pool event => late pool event = false) pool) :
    KeepsLast pool.shared ∧ ∀ entry ∈ pool.calls,
      Meets (handle host) KeepsLast rely need entry.1 (post entry.1) entry.2 pool.shared := by
  unfold closureSystem at h
  refine Pool.meets h ?_ ?_ ?_ ?_ ?_ ?_ ?_ ?_
  · intro s hs
    rw [hs]
    exact fun _ => rfl
  · intro c s op t answer hinv _ hhandle
    cases op with
    | load payoutBatchId =>
        obtain ⟨rfl, -⟩ := Prod.mk.inj hhandle
        exact hinv
    | verifyFinalizedPayout batch transactions =>
        obtain rfl := hhandle
        exact hinv
    | record batch transaction =>
        obtain ⟨rfl, -⟩ := Prod.mk.inj hhandle
        exact keepsLast_record hinv
  · intro s call t hinv hothers payoutBatchId
    obtain ⟨hledgers, hrecorded⟩ := find?_exec hothers
    rw [hledgers, recordedFor, hrecorded]
    exact hinv payoutBatchId
  · exact fun c s _ => meets_close c s
  · exact fun c o s t u hst htu id transaction hfind => htu id transaction (hst id transaction hfind)
  · exact fun c o s id transaction hfind => hfind
  · exact fun c s t r hpost hrely transaction hr => hrely _ _ (hpost transaction hr)
  · intro pool pool' event i c p _ hok hstep hneed _ _
    exact rely_of_step c p.waitsFor hok hneed hstep

/-- What an operation of a reachable pool sees to. -/
theorem need_of_reachable
    (h : (closureSystem host).Reachable (fun pool event => late pool event = false) pool)
    {i : Nat} {c : ClosingCall} {op : Op}
    {resume : Except PayoutError op.Answer → Await (Option LedgerTransaction)}
    (hi : pool.calls[i]? = some (c, .await op resume)) : need c pool.shared op := by
  obtain ⟨hinv, hcalls⟩ := meets_of_reachable h
  cases hcalls _ (List.mem_of_getElem? hi) with
  | await hneed _ => exact hneed _ hinv fun _ _ hfind => hfind

/-- A batch without a transaction in the store has none recorded. -/
theorem recordedFor_eq_nil {s : LedgerHistory} (h : KeepsLast s)
    (hnone : s.store.payoutLedgerTransactionsByBatchId.find? payoutBatchId = none) :
    recordedFor s payoutBatchId = [] := by
  rw [h payoutBatchId] at hnone
  exact List.getLast?_eq_none_iff.mp hnone

/-- One transaction at most is recorded for a batch. -/
theorem length_recordedFor_le
    (h : (closureSystem host).Reachable (fun pool event => late pool event = false) pool)
    (payoutBatchId : String) : (recordedFor pool.shared payoutBatchId).length ≤ 1 := by
  refine System.Reachable.invariant
    (P := fun pool => (recordedFor pool.shared payoutBatchId).length ≤ 1) h ?_ ?_
  · intro pool hinit
    rw [hinit.1]
    exact Nat.zero_le 1
  · intro pool event pool' hr ih hok hstep
    cases hstep with
    | start c => exact ih
    | outside hothers =>
        unfold recordedFor
        rw [(find?_exec hothers).2]
        exact ih
    | @resume i c op resume u answer hi hhandle =>
        cases op with
        | load payoutBatchId =>
            obtain ⟨rfl, -⟩ := Prod.mk.inj hhandle
            exact ih
        | verifyFinalizedPayout batch transactions =>
            obtain rfl := hhandle
            exact ih
        | record batch transaction =>
            obtain ⟨rfl, -⟩ := Prod.mk.inj hhandle
            obtain ⟨hid, hsource⟩ := need_of_reachable hr hi
            rw [late, hi] at hok
            show ((pool.shared.recorded ++ [transaction]).filter _).length ≤ 1
            rw [List.filter_append]
            by_cases hsame : transaction.sourceId = payoutBatchId
            · have hnone : pool.shared.store.payoutLedgerTransactionsByBatchId.find? payoutBatchId =
                  none := by
                rw [← hsame, hsource, ← hid, Table.find?_eq_none]
                exact Table.has_eq_false.mp hok
              have hnil := recordedFor_eq_nil (meets_of_reachable hr).1 hnone
              unfold recordedFor at hnil
              rw [hnil, List.nil_append]
              exact List.length_filter_le _ _
            · rw [List.filter_cons_of_neg (by simpa using hsame), List.filter_nil, List.append_nil]
              exact ih

/-- A batch is closed once: one ledger transaction at most has been recorded for it, which the store
has and every call for it returns that returns one; and the store has it ever after. -/
structure ClosedOnce (host : Host) (ok : Calls → Pool.Event ClosingCall StoreCall → Prop)
    (pool : Calls) (payoutBatchId : String) : Prop where
  once : (recordedFor pool.shared payoutBatchId).length ≤ 1
  stored : pool.shared.store.payoutLedgerTransactionsByBatchId.find? payoutBatchId =
    (recordedFor pool.shared payoutBatchId).head?
  returned : ∀ entry ∈ pool.calls, entry.1.input.payoutBatchId = payoutBatchId → ∀ transaction,
    entry.2 = .done (.ok (some transaction)) →
    recordedFor pool.shared payoutBatchId = [transaction]
  kept : ∀ pool', (closureSystem host).Run ok pool pool' → ∀ transaction,
    pool.shared.store.payoutLedgerTransactionsByBatchId.find? payoutBatchId = some transaction →
    pool'.shared.store.payoutLedgerTransactionsByBatchId.find? payoutBatchId = some transaction

/-- A closing call for the batch that is paid, with a transaction id of its own. -/
def sampleClosing (n : Nat) : ClosingCall :=
  ⟨Sample.env n, { Sample.closeInput 1 with transactionId := some (Sample.idOf "ltx" n) }⟩

/-- Two calls for a finalized batch: the operations that finalize it, and a schedule of the calls. -/
def closeTwice (schedule : List Nat) : List (Pool.Event ClosingCall StoreCall) :=
  (Sample.calls Sample.payOne).map .outside ++
    [.start (sampleClosing 1), .start (sampleClosing 2)] ++ schedule.map .resume

def applyCall (s : LedgerHistory) (call : StoreCall) : Option LedgerHistory :=
  match call.op with
  | .closeFinalizedPayoutBatchLedger _ => none
  | _ => some { s with store := (s.store.exec isoHost call).toOption.getD s.store }

/-- The pool it leads to. -/
def closedTwice (schedule : List Nat) : Calls :=
  (closeTwice schedule).foldl
    (Pool.advance (serve isoHost) applyCall (closeFinalizedPayoutBatchLedger isoHost))
    ⟨⟨Memory.empty, []⟩, []⟩

theorem closedTwice_reachable {schedule : List Nat}
    {accept : Calls → Pool.Event ClosingCall StoreCall → Bool}
    (h : System.admittedAlong
      (Pool.advance (serve isoHost) applyCall (closeFinalizedPayoutBatchLedger isoHost))
      (fun pool event => Pool.canAdvance applyCall pool event && accept pool event)
      ⟨⟨Memory.empty, []⟩, []⟩ (closeTwice schedule) = true) :
    (closureSystem isoHost).Reachable (fun pool event => accept pool event = true)
      (closedTwice schedule) := by
  unfold closureSystem closedTwice
  refine Pool.reachable_of_schedule ?_ ?_ ?_ h
  · intro c s op t answer hserve
    cases op with
    | verifyFinalizedPayout batch transactions => exact (Prod.mk.inj hserve).1.symm
    | load payoutBatchId => exact hserve
    | record batch transaction => exact hserve
  · intro s call t happly
    unfold applyCall at happly
    split at happly
    · cases happly
    · rename_i hother
      exact ⟨hother, (Option.some.inj happly).symm⟩
  · rfl

end Split402.Closing

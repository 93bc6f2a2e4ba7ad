import Split402.Receipts.Ingestion
import Split402.Store.Runs

/-! # The life of an accrual

The statuses an accrual goes through, and the runs in which it does: the calls of the other runs and
`createPayoutBatch`, which takes accruals its caller chose. All that is asked of the callers is that
a saved snapshot is one the ingestor makes, of a receipt the store in memory does not have. -/

namespace Split402

open Base

/-- The moves of an accrual's status. -/
inductive AccrualStatus.Moves : AccrualStatus → AccrualStatus → Prop
  | verify : Moves .pendingChainVerification .available
  | reject : Moves .pendingChainVerification .rejected
  | allocate : Moves .available .allocated
  | release : Moves .allocated .available
  | pay : Moves .allocated .paid

/-- What the state of its receipt is while an accrual has a status; no accrual is held or
reversed. -/
def AccrualStatus.Agrees : AccrualStatus → ReceiptVerificationState → Prop
  | .pendingChainVerification, state => state = .pendingChainVerification
  | .available, state | .allocated, state | .paid, state => state = .signatureVerified
  | .rejected, state => state = .chainRejected
  | .held, _ | .reversed, _ => False

/-- A snapshot as the ingestor makes it: the receipt waits for the chain, and so does its accrual. -/
def ReceiptIngestionSnapshot.isPending (snapshot : ReceiptIngestionSnapshot) : Bool :=
  snapshot.receipt.verificationState == .pendingChainVerification &&
    snapshot.accrual.all (fun accrual =>
      accrual.status == .pendingChainVerification && accrual.receiptId == snapshot.receipt.id)

/-- A call of the other runs, or one that allocates given accruals. -/
inductive AccrualCall
  | store (call : StoreCall)
  | createPayoutBatch (env : CallEnv) (input : CreatePayoutBatchInput)

namespace Memory

def execAccrualCall (host : Host) (store : Memory) : AccrualCall → Except PayoutError Memory
  | .store call => store.exec host call
  | .createPayoutBatch env input => Prod.snd <$> store.createPayoutBatch host env input

/-- A failed call leaves the store as it is. -/
def nextAccrualCall (host : Host) (store : Memory) (call : AccrualCall) : Memory :=
  (store.execAccrualCall host call).toOption.getD store

/-- A saved snapshot is one the ingestor makes, of a new receipt. -/
def savesPending (store : Memory) : AccrualCall → Bool
  | .store ⟨_, .save snapshot⟩ =>
      snapshot.isPending && !store.receiptsById.has snapshot.receipt.id
  | _ => true

def accrualSystem (host : Host) : System Memory AccrualCall where
  init store := store = empty
  step store call store' := store.savesPending call = true ∧ store' = store.nextAccrualCall host call

/-- The status of an accrual, by the receipt it belongs to and its own id. -/
def statusOf (store : Memory) (key : String × String) : Option AccrualStatus :=
  (store.receiptsById.find? key.1).bind (fun snapshot =>
    (snapshot.accrual.filter (fun accrual => accrual.id = key.2)).map CommissionAccrual.status)

/-- The receipt of every accrual is in the state that goes with its status. -/
def ReceiptsAgree (store : Memory) : Prop :=
  ∀ snapshot ∈ store.receiptsById, ∀ accrual, snapshot.accrual = some accrual →
    accrual.status.Agrees snapshot.receipt.verificationState

end Memory

namespace Db

def execAccrualCall (host : Host) (reads db : Db) : AccrualCall → Except PayoutError Db
  | .store call => exec host reads db call
  | .createPayoutBatch env input => Prod.snd <$> db.createPayoutBatch host env input

/-- The database after a call: a failed one is rolled back. -/
def nextAccrualCall (host : Host) (reads db : Db) (call : AccrualCall) : Db :=
  (execAccrualCall host reads db call).toOption.getD db

/-- A saved snapshot is one the ingestor makes. -/
def savesPending : AccrualCall → Bool
  | .store ⟨_, .save snapshot⟩ => snapshot.isPending
  | _ => true

/-- The status of an accrual by its id. -/
def statusOf (db : Db) (accrualId : String) : Option AccrualStatus :=
  (db.commissionAccruals.find? accrualId).map CommissionAccrualRow.status

/-- Every accrual has its receipt, in the state that goes with its status. -/
def ReceiptsAgree (db : Db) : Prop :=
  ∀ row ∈ db.commissionAccruals, ∃ receipt ∈ db.paymentReceipts, receipt.id = row.receiptId ∧
    row.status.Agrees receipt.verificationState

end Db

/-- A call with the committed database it reads before its transaction. -/
structure AccrualRequest where
  reads : Db
  call : AccrualCall

def Timeline.accrualSystem (host : Host) : System Timeline AccrualRequest where
  init timeline := ∃ merchants merchantPayoutWallets,
    timeline = ⟨Db.empty merchants merchantPayoutWallets, []⟩
  step timeline request timeline' := request.reads ∈ timeline.versions ∧
    Db.savesPending request.call = true ∧
    timeline' = ⟨Db.nextAccrualCall host request.reads timeline.current request.call,
      timeline.versions⟩

end Split402

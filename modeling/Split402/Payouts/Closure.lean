import Split402.Base.Async
import Split402.Store.Memory

/-! # Closing calls under way

`closeFinalizedPayoutBatchLedger` of the store in memory awaits its verifier of transfers between its
look for a ledger transaction and the write of one. Here it is a program of these parts, and any
number of closing calls are under way over one store. A resumed call of JavaScript goes on to its
next await; here others may come in between its verification and its write too. -/

namespace Split402

open Base

/-- One call: its input, with what its verifier answers, and what it sees of the outside. -/
structure ClosingCall where
  env : CallEnv
  input : ClosePayoutBatchLedgerInput

/-- The store, and the ledger transactions of batches in the order they were recorded. -/
structure LedgerHistory where
  store : Memory
  recorded : List LedgerTransaction

namespace Closing

/-- What the part before the await reads, the verifier, and the part that writes. -/
inductive Op
  | load (payoutBatchId : String)
  | verifyFinalizedPayout (batch : PayoutBatchRecord) (transactions : List PayoutTransactionRecord)
  | record (batch : PayoutBatchRecord) (transaction : LedgerTransaction)

abbrev Op.Answer : Op → Type
  | .load _ =>
      Option LedgerTransaction × Option (PayoutBatchRecord × List PayoutTransactionRecord)
  | .verifyFinalizedPayout _ _ => PayoutFinalizedTransferVerificationResult
  | .record _ _ => Unit

/-- A program of these. -/
abbrev Await (α : Type) : Type := Async Op Op.Answer PayoutError α

namespace Await

def load (payoutBatchId : String) :
    Await (Option LedgerTransaction × Option (PayoutBatchRecord × List PayoutTransactionRecord)) :=
  Async.call (Op.load payoutBatchId)

def verifyFinalizedPayout (batch : PayoutBatchRecord)
    (transactions : List PayoutTransactionRecord) :
    Await PayoutFinalizedTransferVerificationResult :=
  Async.call (Op.verifyFinalizedPayout batch transactions)

def record (batch : PayoutBatchRecord) (transaction : LedgerTransaction) : Await Unit :=
  Async.call (Op.record batch transaction)

/-- What throws at once, without an await. -/
def ofExcept {α : Type} (result : Except PayoutError α) : Await α := Async.done result

end Await

variable (host : Host)

def closeFinalizedPayoutBatchLedger (call : ClosingCall) : Await (Option LedgerTransaction) := do
  match ← Await.load call.input.payoutBatchId with
  | (some existing, _) => pure (some existing)
  | (none, none) => pure none
  | (none, some (batch, transactions)) => do
      let verification ← Await.verifyFinalizedPayout batch transactions
      Await.ofExcept (verifyPayoutFinalizedTransfersBeforeLedgerClosure verification)
      let transaction ← Await.ofExcept
        (createPayoutFinalizationLedgerTransaction host call.env batch call.input)
      Await.record batch transaction
      pure (some transaction)

/-- What the part before the await reads of a store. -/
def load (store : Memory) (payoutBatchId : String) :
    Option LedgerTransaction × Option (PayoutBatchRecord × List PayoutTransactionRecord) :=
  (store.payoutLedgerTransactionsByBatchId.find? payoutBatchId,
    (store.payoutBatchesById.find? payoutBatchId).map (fun batch =>
      (batch, store.listPayoutTransactions host batch.id)))

/-- The write: the transaction of the batch, and its allocated accruals as paid. -/
def record (store : Memory) (batch : PayoutBatchRecord) (transaction : LedgerTransaction) : Memory :=
  ({ store with
      payoutLedgerTransactionsByBatchId :=
        store.payoutLedgerTransactionsByBatchId.upsert transaction } : Memory).setAccrualStatus
    (fun accrual => accrual.status = .allocated && accrual.id ∈ batch.finalizedAccrualIds) .paid

/-- How an operation of a call is served, when the verifier answers as the input says. -/
def serve (call : ClosingCall) (ledger : LedgerHistory) :
    (op : Op) → LedgerHistory × Except PayoutError op.Answer
  | .load payoutBatchId => (ledger, .ok (load host ledger.store payoutBatchId))
  | .verifyFinalizedPayout _ _ => (ledger, .ok call.input.verification)
  | .record batch transaction =>
      (⟨record ledger.store batch transaction, ledger.recorded ++ [transaction]⟩, .ok ())

/-- An operation is served; the verifier may answer anything, or throw. -/
def handle (call : ClosingCall) (s : LedgerHistory) (op : Op) (t : LedgerHistory)
    (answer : Except PayoutError op.Answer) : Prop :=
  match op with
  | .verifyFinalizedPayout _ _ => t = s
  | op => serve host call s op = (t, answer)

/-- Closing calls under way over a store. -/
abbrev Calls : Type :=
  Pool ClosingCall LedgerHistory Op Op.Answer PayoutError (Option LedgerTransaction)

/-- Other calls change the store meanwhile. -/
def others (s : LedgerHistory) (call : StoreCall) (t : LedgerHistory) : Prop :=
  (∀ input, call.op ≠ .closeFinalizedPayoutBatchLedger input) ∧
    t = { s with store := (s.store.exec host call).toOption.getD s.store }

/-- Any number of closing calls over a store that starts empty. -/
def closureSystem : System Calls (Pool.Event ClosingCall StoreCall) :=
  Pool.system (handle host) (others host) (closeFinalizedPayoutBatchLedger host)
    (fun s => s = ⟨Memory.empty, []⟩)

/-- The step writes a transaction for a batch that has one by now. -/
def late (pool : Calls) : Pool.Event ClosingCall StoreCall → Bool
  | .resume i =>
      match pool.calls[i]? with
      | some (_, .await (.record batch _) _) =>
          pool.shared.store.payoutLedgerTransactionsByBatchId.has batch.id
      | _ => false
  | _ => false

end Closing

end Split402

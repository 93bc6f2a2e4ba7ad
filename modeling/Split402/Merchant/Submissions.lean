import Split402.Merchant.Outbox

/-! # The submissions of an outbox

What dispatches ask of the submitter, written down next to the outbox: nothing in the SDK keeps such a
log, and no dispatch reads it. -/

namespace Split402

open Base (Async Pool System)

/-- `getByReceiptId`. -/
def MerchantOutbox.getByReceiptId (store : MerchantOutbox) (receiptId : String) :
    Option MerchantReceiptOutboxRecord :=
  (store.recordIdByReceiptId.find? receiptId).bind fun entry => store.recordsById.find? entry.2

namespace MerchantDispatch

/-- A submission: the receipt, the time, what the outbox has of the receipt then, and the answer. -/
structure Submission where
  receipt : Split402ReceiptV1
  clock : Int
  record : Option MerchantReceiptOutboxRecord
  answer : Except String MerchantReceiptSubmissionResult

/-- An outbox and the submissions so far. -/
abbrev Observed : Type := MerchantOutbox × List Submission

def Op.submission (call : DispatchCall) (store : MerchantOutbox) : Op → Option Submission
  | .submitReceipt receipt =>
      some ⟨receipt, call.clock, store.getByReceiptId receipt.receiptId, call.submission⟩
  | _ => none

variable (host : Host)

/-- An operation is served as ever, and a submission is written down. -/
def serveObserved (call : DispatchCall) (s : Observed) (op : Op) :
    Observed × Except String op.Answer :=
  (((serve host call s.1 op).1, s.2 ++ (op.submission call s.1).toList),
    (serve host call s.1 op).2)

/-- Dispatches under way over an outbox, with their submissions. -/
abbrev ObservedDispatches : Type :=
  Pool DispatchCall Observed Op Op.Answer String MerchantReceiptOutboxDispatchResult

variable {ν : Type} (runtime : Runtime ν) (zod : Zod)

def observedSystem : System ObservedDispatches (Pool.Event DispatchCall EnqueueMerchantReceiptInput) :=
  Pool.system (fun call s op t answer => serveObserved host call s op = (t, answer))
    (fun s input t =>
      (∃ record, s.1.enqueueReceipt host runtime zod input = .ok (record, t.1)) ∧ t.2 = s.2)
    (dispatchNext host) (fun s => s = (MerchantOutbox.empty, []))

/-- A time that `Date` can represent, and writes and reads back in UTC. -/
def isDate (ms : Int) : Bool :=
  decide (ms.natAbs ≤ 8640000000000000) && (host.toISOString ms).toList.getLast? == some 'Z' &&
    host.dateParse (host.toISOString ms) == some ms

/-- One dispatch after the other, each with a clock that shows a date and a submitter that answers,
all with the same bound on the attempts; and no receipt is enqueued under the id of another. -/
def orderly (maxAttempts : Nat) (pool : ObservedDispatches) :
    Pool.Event DispatchCall EnqueueMerchantReceiptInput → Bool
  | .start call =>
      call.dispatcher.maxAttempts == maxAttempts && call.submission.isOk &&
        isDate host call.clock && isDate host (call.clock + call.dispatcher.retryDelayMs) &&
        pool.calls.all (·.2.waitsFor.isNone)
  | .resume _ => true
  | .outside input =>
      pool.shared.1.recordIdByReceiptId.has input.receipt.receiptId ||
        !pool.shared.1.recordsById.has (input.id.getD input.drawnId)

end MerchantDispatch

end Split402

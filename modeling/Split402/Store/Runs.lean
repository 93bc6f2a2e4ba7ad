import Split402.Base.Run
import Split402.Store.Memory
import Split402.Store.Postgres

/-! # Runs of the stores

The stores as state machines whose inputs are calls. A call that fails leaves a store as it is.
In the database several calls are under way at once: what a call reads before its transaction
may come from any database committed earlier, so a run remembers the databases it went
through. -/

namespace Split402

open Base

namespace Memory

/-- The store after a call: a failed call leaves it as it is. -/
def next (host : Host) (store : Memory) (call : StoreCall) : Memory :=
  match store.exec host call with
  | .ok store' => store'
  | .error _ => store

/-- What the callers promise: a saved snapshot and its accrual are new, the accrual is neither
allocated nor paid, and a created batch has a new id. -/
def fresh (store : Memory) (call : StoreCall) : Bool :=
  match call.op with
  | .save snapshot =>
      !store.receiptsById.has snapshot.receipt.id &&
        snapshot.accrual.all (fun accrual =>
          accrual.status != .allocated && accrual.status != .paid &&
            store.listAccruals.all (fun other => other.id != accrual.id))
  | .createPayoutBatchFromAvailableAccruals input =>
      !store.payoutBatchesById.has (batchIdOrDrawn call.env input.batchId)
  | _ => true

/-- The runs of the store from empty. -/
def system (host : Host) : System Memory StoreCall where
  init store := store = empty
  step store call store' := store.fresh call = true ∧ store' = store.next host call

/-- The store after a run of sample operations. -/
def sample (ops : List StoreOp) : Memory := (Sample.calls ops).foldl (next isoHost) empty

/-- A traced run of the store. -/
theorem reachable_sample {ok : Memory → StoreCall → Bool} {ops : List StoreOp}
    (h : System.admittedAlong (next isoHost) (fun store call => store.fresh call && ok store call)
      empty (Sample.calls ops) = true) :
    (system isoHost).Reachable (fun store call => ok store call = true) (sample ops) := by
  refine System.Reachable.of_trace ?_ (.init rfl) h
  intro store call haccept
  rw [Bool.and_eq_true] at haccept
  exact ⟨call, haccept.2, haccept.1, rfl⟩

/-- A traced run of the store that goes on from a state. -/
theorem run_sample {p : Memory → StoreCall → Bool} {store : Memory} {n : Nat}
    {ops : List StoreOp}
    (h : System.admittedAlong (next isoHost) (fun store call => store.fresh call && p store call)
      store (Sample.callsFrom n ops) = true) :
    (system isoHost).Run (fun store call => p store call = true) store
      ((Sample.callsFrom n ops).foldl (next isoHost) store) := by
  refine System.Run.of_trace ?_ (.refl store) h
  intro store call haccept
  rw [Bool.and_eq_true] at haccept
  exact ⟨call, haccept.2, haccept.1, rfl⟩

/-- A traced run of the store without a condition. -/
theorem reachable_sample_true {ops : List StoreOp}
    (h : System.admittedAlong (next isoHost) (fun store call => store.fresh call && true) empty
      (Sample.calls ops) = true) :
    (system isoHost).Reachable (fun _ _ => True) (sample ops) :=
  (@reachable_sample (fun _ _ => true) ops h).mono fun _ _ _ => trivial

end Memory

namespace Db

/-- The database after a call. -/
def next (host : Host) (reads db : Db) (call : StoreCall) : Db :=
  match exec host reads db call with
  | .ok db' => db'
  | .error _ => db

/-- What the callers promise: a saved accrual is neither allocated nor paid, and comes with a
ledger transaction of an accrual. The constraints of the tables reject what is not new. -/
def fresh (call : StoreCall) : Bool :=
  match call.op with
  | .save snapshot =>
      snapshot.accrual.all (fun accrual =>
        accrual.status != .allocated && accrual.status != .paid) &&
        snapshot.ledgerTransaction.all (fun transaction =>
          transaction.sourceType == .commissionAccrual)
  | _ => true

end Db

/-- The database with the databases committed before it. -/
structure Timeline where
  current : Db
  past : List Db

/-- A call with the committed database it reads before its transaction. -/
structure Request where
  reads : Db
  call : StoreCall

namespace Timeline

def versions (timeline : Timeline) : List Db := timeline.current :: timeline.past

def next (host : Host) (timeline : Timeline) (request : Request) : Timeline :=
  ⟨Db.next host request.reads timeline.current request.call, timeline.versions⟩

/-- The runs of the database after its migration. -/
def system (host : Host) : System Timeline Request where
  init timeline := ∃ merchants merchantPayoutWallets,
    timeline = ⟨Db.empty merchants merchantPayoutWallets, []⟩
  step timeline request timeline' := request.reads ∈ timeline.versions ∧
    Db.fresh request.call = true ∧ timeline' = timeline.next host request

/-- The call runs alone: what it reads is what its transaction runs on. -/
def nextAlone (host : Host) (timeline : Timeline) (call : StoreCall) : Timeline :=
  timeline.next host ⟨timeline.current, call⟩

/-- The database after a run of sample operations, one call after the other. -/
def sample (ops : List StoreOp) : Timeline :=
  (Sample.calls ops).foldl (nextAlone isoHost)
    ⟨Db.empty [Sample.idOf "mrc" 1] [Sample.idOf "mpw" 1], []⟩

/-- A traced run of the database. -/
theorem reachable_sample {ok : Timeline → Request → Bool} {ops : List StoreOp}
    (h : System.admittedAlong (nextAlone isoHost) (fun timeline call =>
      Db.fresh call && ok timeline ⟨timeline.current, call⟩)
      ⟨Db.empty [Sample.idOf "mrc" 1] [Sample.idOf "mpw" 1], []⟩ (Sample.calls ops) = true) :
    (system isoHost).Reachable (fun timeline request => ok timeline request = true)
      (sample ops) := by
  refine System.Reachable.of_trace ?_ (System.Reachable.init (show (system isoHost).init _ from ⟨_, _, rfl⟩)) h
  intro timeline call haccept
  rw [Bool.and_eq_true] at haccept
  exact ⟨⟨timeline.current, call⟩, haccept.2, List.mem_cons_self, haccept.1, rfl⟩

/-- A traced run of the database that goes on from a state. -/
theorem run_sample {p : Timeline → Request → Bool} {timeline : Timeline} {n : Nat}
    {ops : List StoreOp}
    (h : System.admittedAlong (nextAlone isoHost) (fun timeline call =>
      Db.fresh call && p timeline ⟨timeline.current, call⟩)
      timeline (Sample.callsFrom n ops) = true) :
    (system isoHost).Run (fun timeline request => p timeline request = true) timeline
      ((Sample.callsFrom n ops).foldl (nextAlone isoHost) timeline) := by
  refine System.Run.of_trace ?_ (.refl timeline) h
  intro timeline call haccept
  rw [Bool.and_eq_true] at haccept
  exact ⟨⟨timeline.current, call⟩, haccept.2, List.mem_cons_self, haccept.1, rfl⟩

/-- A traced run of the database without a condition. -/
theorem reachable_sample_true {ops : List StoreOp}
    (h : System.admittedAlong (nextAlone isoHost) (fun _ call => Db.fresh call && true)
      ⟨Db.empty [Sample.idOf "mrc" 1] [Sample.idOf "mpw" 1], []⟩ (Sample.calls ops) = true) :
    (system isoHost).Reachable (fun _ _ => True) (sample ops) :=
  (@reachable_sample (fun _ _ => true) ops h).mono fun _ _ _ => trivial

end Timeline

/-! ## Closing calls of a sample -/

/-- Whether a closing call posted a transaction that passes a check. -/
def postedWith {σ : Type} (check : LedgerTransaction → σ → Bool) :
    Except PayoutError (Option LedgerTransaction × σ) → Bool
  | .ok (some transaction, s) => check transaction s
  | _ => false

theorem exists_of_postedWith {σ : Type} (check : LedgerTransaction → σ → Bool)
    {r : Except PayoutError (Option LedgerTransaction × σ)} (h : postedWith check r = true) :
    ∃ transaction s, r = .ok (some transaction, s) ∧ check transaction s = true := by
  unfold postedWith at h
  split at h
  · rename_i transaction s
    exact ⟨transaction, s, rfl, h⟩
  · cases h

end Split402

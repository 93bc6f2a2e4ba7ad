import Split402.Receipts.Ingestion
import Split402.Store.Memory

/-! # Concurrent ingestion

The keys by which receipts are told apart, a store that saves a receipt only when it has none of its
keys, as the unique constraints of the Postgres tables make it, and the calls that run over such a
store, one await at a time. -/

namespace Split402

open Base

/-! ## Keys -/

/-- The four keys of a receipt. -/
structure ReceiptKeys where
  receiptHash : String
  receiptId : String
  paymentId : String
  settlementTxSignature : String
  deriving DecidableEq, Repr

inductive ReceiptKey
  | receiptHash | receiptId | paymentId | settlementTxSignature
  deriving DecidableEq, Repr

def ReceiptKeys.get (keys : ReceiptKeys) : ReceiptKey → String
  | .receiptHash => keys.receiptHash
  | .receiptId => keys.receiptId
  | .paymentId => keys.paymentId
  | .settlementTxSignature => keys.settlementTxSignature

/-- Two receipts have a key in common. -/
def ReceiptKeys.share (a b : ReceiptKeys) : Bool :=
  a.receiptHash == b.receiptHash || a.receiptId == b.receiptId || a.paymentId == b.paymentId ||
    a.settlementTxSignature == b.settlementTxSignature

theorem ReceiptKeys.share_eq_true {a b : ReceiptKeys} :
    a.share b = true ↔ ∃ key, a.get key = b.get key := by
  simp only [ReceiptKeys.share, Bool.or_eq_true, beq_iff_eq]
  constructor
  · rintro (((h | h) | h) | h)
    · exact ⟨.receiptHash, h⟩
    · exact ⟨.receiptId, h⟩
    · exact ⟨.paymentId, h⟩
    · exact ⟨.settlementTxSignature, h⟩
  · rintro ⟨key, h⟩
    cases key with
    | receiptHash => exact .inl (.inl (.inl h))
    | receiptId => exact .inl (.inl (.inr h))
    | paymentId => exact .inl (.inr h)
    | settlementTxSignature => exact .inr h

def ReceiptIngestionSnapshot.keys (snapshot : ReceiptIngestionSnapshot) : ReceiptKeys :=
  ⟨snapshot.receipt.receiptHash, snapshot.receipt.id, snapshot.receipt.receipt.paymentId,
    snapshot.receipt.receipt.settlementTxSignature⟩

/-! ## Stores with unique keys -/

/-- A store whose save is atomic and fails with a persistence conflict exactly when one of the keys
is there. `saved` lists the keys of what was saved; a lookup may return what it found in another
state of verification, but under the same keys, and a save changes no answer it gives. -/
structure UniqueReceiptStore (σ : Type) where
  empty : σ
  saved : σ → List ReceiptKeys
  find : ReceiptKey → String → σ → Option ReceiptIngestionSnapshot
  save : ReceiptIngestionSnapshot → σ → Except PayoutError σ
  saved_empty : saved empty = []
  find_some : ∀ {key value s snapshot}, find key value s = some snapshot →
    snapshot.keys ∈ saved s ∧ snapshot.keys.get key = value
  find_none : ∀ {key value s}, find key value s = none → ∀ keys ∈ saved s, keys.get key ≠ value
  save_ok : ∀ {snapshot s t}, save snapshot s = .ok t →
    (∀ keys ∈ saved s, keys.share snapshot.keys = false) ∧ saved t = saved s ++ [snapshot.keys] ∧
      ∀ {key value found}, find key value s = some found → find key value t = some found
  save_error : ∀ {snapshot s error}, save snapshot s = .error error →
    error = .persistenceConflict ∧ ∃ keys ∈ saved s, keys.share snapshot.keys = true

/-- The snapshots in the order they were saved: the plainest such store. -/
def rowStore : UniqueReceiptStore (List ReceiptIngestionSnapshot) where
  empty := []
  saved rows := rows.map ReceiptIngestionSnapshot.keys
  find key value rows := rows.find? (fun snapshot => snapshot.keys.get key == value)
  save snapshot rows :=
    if rows.any (fun row => row.keys.share snapshot.keys) then .error .persistenceConflict
    else .ok (rows ++ [snapshot])
  saved_empty := rfl
  find_some h := ⟨List.mem_map_of_mem (List.mem_of_find?_eq_some h),
    by simpa using List.find?_some h⟩
  find_none h := by
    intro keys hkeys heq
    obtain ⟨snapshot, hsnapshot, rfl⟩ := List.mem_map.mp hkeys
    have hne := List.find?_eq_none.mp h snapshot hsnapshot
    rw [beq_iff_eq] at hne
    exact hne heq
  save_ok := by
    intro snapshot rows t h
    split at h
    · cases h
    · rename_i hany
      rw [Except.ok.injEq] at h
      subst h
      refine ⟨?_, List.map_append, ?_⟩
      · intro keys hkeys
        obtain ⟨row, hrow, rfl⟩ := List.mem_map.mp hkeys
        rw [Bool.eq_false_iff]
        intro hshare
        exact hany (List.any_eq_true.mpr ⟨row, hrow, hshare⟩)
      · intro key value found hfound
        rw [List.find?_append, hfound]
        rfl
  save_error := by
    intro snapshot rows error h
    split at h
    · rename_i hany
      rw [Except.error.injEq] at h
      obtain ⟨row, hrow, hshare⟩ := List.any_eq_true.mp hany
      exact ⟨h.symm, row.keys, List.mem_map_of_mem hrow, hshare⟩
    · cases h

/-! ## Calls over a store -/

namespace ReceiptIngestor

variable {ν σ : Type} (ingestor : ReceiptIngestor ν)

/-- How an operation of a call is served: the store looks up and saves, the key directory and the
policy verifier answer what they answer this call. -/
def serve (store : UniqueReceiptStore σ) (call : IngestCall) (s : σ) :
    (op : Op) → σ × Except PayoutError op.Answer
  | .getByReceiptHash receiptHash => (s, .ok (store.find .receiptHash receiptHash s))
  | .getByReceiptId receiptId => (s, .ok (store.find .receiptId receiptId s))
  | .getByPaymentId paymentId => (s, .ok (store.find .paymentId paymentId s))
  | .getBySettlementTxSignature signature =>
      (s, .ok (store.find .settlementTxSignature signature s))
  | .resolveMerchantPublicKey _ => (s, call.merchantPublicKey)
  | .verifyPolicy _ => (s, call.policy)
  | .save snapshot =>
      match store.save snapshot s with
      | .ok t => (t, .ok ())
      | .error error => (s, .error error)

/-- Calls under way over a store. -/
abbrev Calls (σ : Type) : Type := Pool IngestCall σ Op Op.Answer PayoutError ReceiptIngestResult

/-- Any number of calls over a store that starts empty; nothing else writes. -/
def ingestSystem (store : UniqueReceiptStore σ) : System (Calls σ) (Pool.Event IngestCall Empty) :=
  Pool.system (fun call s op t answer => serve store call s op = (t, answer))
    (fun _ nothing _ => nomatch nothing) ingestor.ingest (· = store.empty)

/-- The hash of a call's receipt. -/
def hashOf (call : IngestCall) : Option String :=
  (ingestor.safeParse call).bind (fun receipt => (hashReceipt ingestor.runtime receipt).toOption)

/-- The keys of a call's receipt. -/
def callKeys (call : IngestCall) : Option ReceiptKeys :=
  (ingestor.safeParse call).bind (fun receipt =>
    (hashReceipt ingestor.runtime receipt).toOption.map (fun receiptHash =>
      ⟨receiptHash, receipt.receiptId, receipt.paymentId, receipt.settlementTxSignature⟩))

/-- The operation is one of the lookups for a conflict. -/
def Op.looksForConflict : Op → Bool
  | .getByReceiptId _ | .getByPaymentId _ | .getBySettlementTxSignature _ => true
  | _ => false

/-- The step saves a receipt while another call with the same hash looks for a conflict: it has
found no receipt with the hash, and is about to find the one that is being saved. -/
def overtakes (store : UniqueReceiptStore σ) (pool : Calls σ) :
    Pool.Event IngestCall Empty → Bool
  | .resume i =>
      match pool.calls[i]? with
      | some (_, .await (.save snapshot) _) =>
          (store.save snapshot pool.shared).toOption.isSome &&
            pool.calls.any (fun entry =>
              ingestor.hashOf entry.1 == some snapshot.receipt.receiptHash &&
                entry.2.waitsFor.any Op.looksForConflict)
      | _ => false
  | _ => false

/-! ## Calls over the in-memory store -/

/-- How an operation of a call is served by the in-memory store, whose save checks nothing. -/
def serveMemory (call : IngestCall) (store : Memory) :
    (op : Op) → Memory × Except PayoutError op.Answer
  | .getByReceiptHash receiptHash => (store, .ok (store.getByReceiptHash receiptHash))
  | .getByReceiptId receiptId => (store, .ok (store.getByReceiptId receiptId))
  | .getByPaymentId paymentId => (store, .ok (store.getByPaymentId paymentId))
  | .getBySettlementTxSignature signature => (store, .ok (store.getBySettlementTxSignature signature))
  | .resolveMerchantPublicKey _ => (store, call.merchantPublicKey)
  | .verifyPolicy _ => (store, call.policy)
  | .save snapshot => (store.save snapshot, .ok ())

/-- Any number of calls over an in-memory store that starts empty. In between, the store is called
for everything else it offers: chain verification marks, payout batches, their transactions. -/
def memorySystem : System (Calls Memory) (Pool.Event IngestCall StoreCall) :=
  Pool.system (fun call s op t answer => serveMemory call s op = (t, answer))
    (fun s call t => call.op.isSave = false ∧ s.exec ingestor.host call = .ok t)
    ingestor.ingest (· = Memory.empty)

/-- The keys a call looks for conflicts under. -/
def conflictKeys : List ReceiptKey := [.receiptId, .paymentId, .settlementTxSignature]

/-- Of these, the keys that a call which waits for the operation has still to look up. -/
def Op.remaining : Op → List ReceiptKey
  | .getByReceiptHash _ | .getByReceiptId _ => conflictKeys
  | .getByPaymentId _ => [.paymentId, .settlementTxSignature]
  | .getBySettlementTxSignature _ => [.settlementTxSignature]
  | .resolveMerchantPublicKey _ | .verifyPolicy _ | .save _ => []

/-- The call's own checks let it through: the schema, the merchant's key, the verification of the
receipt and the policy. -/
def passes (call : IngestCall) : Bool :=
  match ingestor.safeParse call, call.merchantPublicKey, call.policy with
  | some receipt, .ok (some merchantPublicKey), .ok policy =>
      (match verifySplit402ReceiptObject ingestor.runtime receipt merchantPublicKey with
      | .ok verification => verification.ok
      | .error _ => false) && policy.all ProtocolVerificationResult.ok
  | _, _, _ => false

/-- The step saves a receipt that another call has a key in common with, and the other call, which
its own checks let through, will not see it: under the keys it has still to look up it will find
neither the saved receipt nor another one. -/
def savesUnseen (pool : Calls Memory) : Pool.Event IngestCall StoreCall → Bool
  | .resume i =>
      match pool.calls[i]? with
      | some (_, .await (.save snapshot) _) =>
          (pool.calls.eraseIdx i).any (fun entry =>
            ingestor.passes entry.1 &&
              match ingestor.callKeys entry.1, entry.2.waitsFor with
              | some mine, some op =>
                  conflictKeys.any (fun key => snapshot.keys.get key == mine.get key) &&
                    op.remaining.all (fun key =>
                      snapshot.keys.get key != mine.get key &&
                        pool.shared.receiptsById.rows.all (fun row =>
                          row.keys.get key != mine.get key))
              | _, _ => false)
      | _ => false
  | _ => false

end ReceiptIngestor

end Split402

import Split402.Receipts.Ingestion

/-! # What an ingest call may do

A call reads, then saves at most once: what it saves is the snapshot of a receipt the schema admits
and that verifies under the key it was given. -/

namespace Split402

open Base Base.Async

variable {ν : Type}

namespace ReceiptIngestor

/-- The operation is not a save. -/
def Op.isSave : Op → Bool
  | .save _ => true
  | _ => false

/-! ## Reads -/

theorem findConflict_reads {receipt : Split402ReceiptV1} {receiptHash : String} {op : Op}
    (h : Awaits (findConflict receipt receiptHash) op) : op.isSave = false := by
  unfold findConflict at h
  rcases awaits_bind h with h | ⟨byReceiptId, -, h⟩
  · rcases awaits_await.mp h with rfl | ⟨_, h⟩
    · rfl
    · cases h
  · cases byReceiptId with
    | some _ => cases h
    | none =>
        rcases awaits_bind h with h | ⟨byPaymentId, -, h⟩
        · rcases awaits_await.mp h with rfl | ⟨_, h⟩
          · rfl
          · cases h
        · cases byPaymentId with
          | some _ => cases h
          | none =>
              rcases awaits_bind h with h | ⟨bySettlementTx, -, h⟩
              · rcases awaits_await.mp h with rfl | ⟨_, h⟩
                · rfl
                · cases h
              · cases bySettlementTx <;> cases h

/-- What a call does when its save fails. -/
def afterSaveFails (receipt : Split402ReceiptV1) (receiptHash : String) (error : PayoutError) :
    Await ReceiptIngestResult := do
  if !isReceiptIngestionPersistenceConflict error then throw error
  else
    match ← Await.getByReceiptHash receiptHash with
    | some duplicateAfterConflict => pure (.duplicate duplicateAfterConflict)
    | none =>
        match ← findConflict receipt receiptHash with
        | some writeConflict => pure writeConflict
        | none => throw error

/-- A call that saves is done when the save succeeds. -/
theorem saveSnapshot_eq (receipt : Split402ReceiptV1) (receiptHash : String)
    (snapshot : ReceiptIngestionSnapshot) :
    saveSnapshot receipt receiptHash snapshot = .await (.save snapshot) (fun answer =>
      match answer with
      | .ok () => .done (.ok (.created snapshot))
      | .error error => afterSaveFails receipt receiptHash error) := by
  refine congrArg (Async.await (Op.save snapshot)) (funext fun answer => ?_)
  cases answer <;> rfl

theorem afterSaveFails_reads {receipt : Split402ReceiptV1} {receiptHash : String}
    {error : PayoutError} {op : Op} (h : Awaits (afterSaveFails receipt receiptHash error) op) :
    op.isSave = false := by
  unfold afterSaveFails at h
  split at h
  · cases h
  · rcases awaits_bind h with h | ⟨duplicate, -, h⟩
    · rcases awaits_await.mp h with rfl | ⟨_, h⟩
      · rfl
      · cases h
    · cases duplicate with
      | some _ => cases h
      | none =>
          rcases awaits_bind h with h | ⟨conflict, -, h⟩
          · exact findConflict_reads h
          · cases conflict <;> cases h

theorem saveSnapshot_awaits {receipt : Split402ReceiptV1} {receiptHash : String}
    {snapshot saved : ReceiptIngestionSnapshot}
    (h : Awaits (saveSnapshot receipt receiptHash snapshot) (.save saved)) : saved = snapshot := by
  rw [saveSnapshot_eq] at h
  rcases awaits_await.mp h with heq | ⟨answer, h⟩
  · injection heq with heq
    exact heq.symm
  · cases answer with
    | ok _ => cases h
    | error error => exact nomatch afterSaveFails_reads h

/-! ## The saved snapshot -/

theorem ends_ofExcept {α : Type} {result : Except PayoutError α} {a : α}
    (h : Ends (Await.ofExcept result) (.ok a)) : result = .ok a := by
  cases h
  rfl

theorem ofProtocol_eq_ok {α : Type} {result : Except String α} {a : α} :
    ofProtocol result = .ok a ↔ result = .ok a := by
  cases result <;> simp [ofProtocol]

variable (ingestor : ReceiptIngestor ν)

/-- The snapshot a call makes of its receipt, which verifies under some key. -/
structure Snapshots (call : IngestCall) (receipt : Split402ReceiptV1) (receiptHash : String)
    (snapshot : ReceiptIngestionSnapshot) : Prop where
  parsed : ingestor.safeParse call = some receipt
  hash : hashReceipt ingestor.runtime receipt = .ok receiptHash
  verified : ∃ merchantPublicKey result,
    verifySplit402ReceiptObject ingestor.runtime receipt merchantPublicKey = .ok result ∧
      result.ok = true
  created : ingestor.createSnapshot call receipt receiptHash (call.source.getD .unknown) =
    .ok snapshot

variable {ingestor}

/-- **What a call saves is the snapshot of its verified receipt.** -/
theorem snapshots_of_awaits {call : IngestCall} {snapshot : ReceiptIngestionSnapshot}
    (h : Awaits (ingestor.ingest call) (.save snapshot)) :
    ∃ receipt receiptHash, Snapshots ingestor call receipt receiptHash snapshot := by
  unfold ingest at h
  split at h
  · cases h
  rename_i receipt hparsed
  rcases awaits_bind h with h | ⟨receiptHash, hhash, h⟩
  · cases h
  have hhash := ofProtocol_eq_ok.mp (ends_ofExcept hhash)
  rcases awaits_bind h with h | ⟨duplicate, -, h⟩
  · rcases awaits_await.mp h with heq | ⟨_, h⟩
    · cases heq
    · cases h
  cases duplicate with
  | some _ => cases h
  | none =>
      rcases awaits_bind h with h | ⟨conflict, -, h⟩
      · exact nomatch findConflict_reads h
      cases conflict with
      | some _ => cases h
      | none =>
          -- neither known nor in conflict
          unfold verifyAndSave at h
          rcases awaits_bind h with h | ⟨merchantPublicKey, -, h⟩
          · rcases awaits_await.mp h with heq | ⟨_, h⟩
            · cases heq
            · cases h
          cases merchantPublicKey with
          | none => cases h
          | some merchantPublicKey =>
              rcases awaits_bind h with h | ⟨result, hresult, h⟩
              · cases h
              have hresult := ofProtocol_eq_ok.mp (ends_ofExcept hresult)
              split at h
              · cases h
              rename_i hok
              rcases awaits_bind h with h | ⟨policy, -, h⟩
              · rcases awaits_await.mp h with heq | ⟨_, h⟩
                · cases heq
                · cases h
              split at h
              · cases h
              rcases awaits_bind h with h | ⟨made, hmade, h⟩
              · cases h
              have hmade := ends_ofExcept hmade
              rw [← saveSnapshot_awaits h] at hmade
              exact ⟨receipt, receiptHash, hparsed, hhash,
                ⟨merchantPublicKey, result, hresult, by simpa using hok⟩, hmade⟩

theorem awaits_ofExcept_bind {α β : Type} {result : Except PayoutError α} {a : α}
    {next : α → Await β} {op : Op} (h : result = .ok a) (hnext : Awaits (next a) op) :
    Awaits (Await.ofExcept result >>= next) op := by
  subst h
  exact hnext

theorem awaits_of_findConflict {receipt : Split402ReceiptV1} {receiptHash : String} {op : Op}
    {next : Option ReceiptIngestResult → Await ReceiptIngestResult} (h : Awaits (next none) op) :
    Awaits (findConflict receipt receiptHash >>= next) op :=
  .later (.ok none) (.later (.ok none) (.later (.ok none) h))

/-- A call that finds nothing and is let through saves its snapshot. -/
theorem Snapshots.awaits {call : IngestCall} {receipt : Split402ReceiptV1} {receiptHash : String}
    {snapshot : ReceiptIngestionSnapshot} (h : Snapshots ingestor call receipt receiptHash snapshot) :
    Awaits (ingestor.ingest call) (.save snapshot) := by
  obtain ⟨merchantPublicKey, result, hresult, hok⟩ := h.verified
  unfold ingest
  rw [h.parsed]
  refine awaits_ofExcept_bind (ofProtocol_eq_ok.mpr h.hash) ?_
  refine Awaits.call_bind none ?_
  refine awaits_of_findConflict ?_
  unfold verifyAndSave
  refine Awaits.call_bind (some merchantPublicKey) ?_
  refine awaits_ofExcept_bind (ofProtocol_eq_ok.mpr hresult) ?_
  rw [hok]
  refine Awaits.call_bind none ?_
  refine awaits_ofExcept_bind h.created ?_
  rw [saveSnapshot_eq]
  exact .here _ _

end ReceiptIngestor

end Split402

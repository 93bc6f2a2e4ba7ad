import Split402.Proof.ReceiptIdentity
import Split402.Router.Recorder

/-! # Recorded receipts

What the recorder reads in the answers of the control plane. An ingestion that is answered as created
or as a duplicate has left its receipt in the control plane. The recorder takes a conflict on its own
receipt id for a duplicate too; it then knows only that a receipt with this id is there. -/

namespace Split402

open Base Base.Async

/-! ## Readings -/

section Readings

variable {recorder : Split402ControlPlaneReceiptRecorder} {receipt : Split402ReceiptV1}
  {answer : HttpAnswer} {result : ReceiptIngestResult} {recording : Split402ReceiptRecordingResult}

/-- The results that the recorder takes for a recorded receipt. -/
def ReceiptIngestResult.recordedAs (receiptId : String) :
    ReceiptIngestResult → Option ReceiptRecordingStatus
  | .created _ => some .created
  | .duplicate _ => some .duplicate
  | .conflict .receiptId existingReceiptId _ =>
      if existingReceiptId = receiptId then some .duplicate else none
  | .conflict _ _ _ => none
  | .rejected _ => none

theorem ReceiptIngestResult.recordedAs_isSome {receiptId : String} :
    (result.recordedAs receiptId).isSome ↔ (∃ snapshot, result = .created snapshot) ∨
      (∃ snapshot, result = .duplicate snapshot) ∨
      ∃ receiptHash, result = .conflict .receiptId receiptId receiptHash := by
  cases result with
  | created snapshot => simp [recordedAs]
  | duplicate snapshot => simp [recordedAs]
  | rejected errors => simp [recordedAs]
  | conflict field id conflictHash =>
      cases field with
      | receiptId =>
          by_cases hid : id = receiptId
          · simp [recordedAs, hid]
          · simp [recordedAs, hid]
      | paymentId => simp [recordedAs]
      | settlementTxSignature => simp [recordedAs]

theorem isDuplicateReceiptIdConflict_toJson {receiptId : String} {field : ConflictField}
    {existingReceiptId receiptHash : String} :
    isDuplicateReceiptIdConflict
        (some (ReceiptIngestResult.conflict field existingReceiptId receiptHash).toJson) receiptId =
      true ↔ field = .receiptId ∧ existingReceiptId = receiptId := by
  have hproperties : isDuplicateReceiptIdConflict
      (some (ReceiptIngestResult.conflict field existingReceiptId receiptHash).toJson) receiptId =
        (field.text == "receiptId" && existingReceiptId == receiptId) := by
    simp [isDuplicateReceiptIdConflict, ReceiptIngestResult.toJson, Json.property?, Json.isString,
      List.lookup]
  rw [hproperties, Bool.and_eq_true, beq_iff_eq, beq_iff_eq]
  cases field <;> simp [ConflictField.text]

/-- An answer with a status of success is recorded as its body says. -/
theorem record_of_success (hlow : 200 ≤ answer.status) (hhigh : answer.status < 300) :
    recorder.record receipt (.ok answer) = .ok recording ↔
      readReceiptRecorderResponseStatus answer.json = some recording.status ∧
        recording.source = recorder.source := by
  obtain ⟨status, source⟩ := recording
  have hsuccess : ¬ (answer.status < 200 ∨ answer.status ≥ 300) := by omega
  unfold Split402ControlPlaneReceiptRecorder.record
  simp only [bind, Except.bind, if_neg hsuccess]
  cases readReceiptRecorderResponseStatus answer.json with
  | none => simp
  | some read =>
      simp only [pure_eq_ok, Split402ReceiptRecordingResult.mk.injEq, Option.some.injEq]
      exact and_congr_right fun _ => eq_comm

/-- Of the others, the recorder resolves those that say a conflict on the id of the receipt. -/
theorem record_of_failure (hfailure : answer.status < 200 ∨ answer.status ≥ 300) :
    recorder.record receipt (.ok answer) = .ok recording ↔
      (answer.status = 409 ∧ isDuplicateReceiptIdConflict answer.json receipt.receiptId = true) ∧
        recording.status = .duplicate ∧ recording.source = recorder.source := by
  obtain ⟨status, source⟩ := recording
  unfold Split402ControlPlaneReceiptRecorder.record
  simp only [bind, Except.bind, if_pos hfailure]
  by_cases hconflict : answer.status = 409 ∧
      isDuplicateReceiptIdConflict answer.json receipt.receiptId = true
  · rw [if_pos hconflict, pure_eq_ok, Split402ReceiptRecordingResult.mk.injEq]
    constructor
    · rintro ⟨rfl, rfl⟩
      exact ⟨hconflict, rfl, rfl⟩
    · rintro ⟨-, rfl, rfl⟩
      exact ⟨rfl, rfl⟩
  · rw [if_neg hconflict]
    simp [hconflict]

/-- The recorder resolves an answer of the ingestion exactly as the result says. -/
theorem record_of_ok (h : answer.OfIngest (.ok result)) :
    recorder.record receipt (.ok answer) = .ok recording ↔
      result.recordedAs receipt.receiptId = some recording.status ∧
        recording.source = recorder.source := by
  obtain ⟨hstatus, hjson⟩ := h
  cases result with
  | created snapshot =>
      have hcode : answer.status = 201 := hstatus
      have hread : readReceiptRecorderResponseStatus answer.json = some .created := by
        rw [hjson]
        rfl
      rw [record_of_success (by omega) (by omega), hread]
      rfl
  | duplicate snapshot =>
      have hcode : answer.status = 200 := hstatus
      have hread : readReceiptRecorderResponseStatus answer.json = some .duplicate := by
        rw [hjson]
        rfl
      rw [record_of_success (by omega) (by omega), hread]
      rfl
  | conflict field existingReceiptId receiptHash =>
      have hcode : answer.status = 409 := hstatus
      rw [record_of_failure (by omega), hjson, isDuplicateReceiptIdConflict_toJson]
      cases field with
      | receiptId =>
          by_cases hid : existingReceiptId = receipt.receiptId
          · simp [ReceiptIngestResult.recordedAs, hcode, hid, eq_comm]
          · simp [ReceiptIngestResult.recordedAs, hid]
      | paymentId => simp [ReceiptIngestResult.recordedAs]
      | settlementTxSignature => simp [ReceiptIngestResult.recordedAs]
  | rejected errors =>
      have hcode : answer.status = 400 := hstatus
      rw [record_of_failure (by omega)]
      simp [ReceiptIngestResult.recordedAs, hcode]

/-- What the ingestion throws is an error of the recorder too. -/
theorem record_of_error {e : PayoutError} (h : answer.OfIngest (.error e)) :
    recorder.record receipt (.ok answer) ≠ .ok recording := by
  obtain ⟨hstatus, hjson⟩ := h
  rw [ne_eq, record_of_failure (by omega)]
  rintro ⟨⟨-, hconflict⟩, -⟩
  rcases hjson with hjson | ⟨message, hjson⟩
  · rw [hjson] at hconflict
    cases hconflict
  · rw [hjson] at hconflict
    have hfalse : isDuplicateReceiptIdConflict (some (jsonErrorBody message)) receipt.receiptId =
        false := rfl
    rw [hfalse] at hconflict
    cases hconflict

end Readings

/-! ## What an ingestion leaves -/

namespace ReceiptIngestor

variable {ν σ : Type} {ingestor : ReceiptIngestor ν} {store : UniqueReceiptStore σ}

variable (ingestor store)

/-- What a call has come to, told of the saved receipts, whatever the others save meanwhile: its own
receipt is there, or one with the key of the conflict, which may be its own. -/
def Leaves (call : IngestCall) (s : σ) : Except PayoutError ReceiptIngestResult → Prop
  | .ok (.created snapshot) | .ok (.duplicate snapshot) => snapshot.keys ∈ store.saved s ∧
      ∃ mine, callKeys ingestor call = some mine ∧ snapshot.keys.receiptHash = mine.receiptHash
  | .ok (.conflict field id _) => ∃ mine, callKeys ingestor call = some mine ∧
      ∃ keys ∈ store.saved s, keys.receiptId = id ∧ keys.get field.key = mine.get field.key
  | .ok (.rejected _) | .error _ => True

/-- Receipts are added, and none is removed. -/
def Grows (_ : IngestCall) (_ : Option Op) (s t : σ) : Prop :=
  ∀ keys ∈ store.saved s, keys ∈ store.saved t

variable {ingestor store}

/-- A program leaves what its call comes to, while the others add receipts. -/
abbrev MeetsLeaves (store : UniqueReceiptStore σ) (call : IngestCall) {α : Type} (post : σ → Except PayoutError α → Prop) (p : Await α) (s : σ) :
    Prop :=
  Meets (fun call s op t answer => serve store call s op = (t, answer)) (fun _ => True)
    (Grows store) (fun _ _ _ => True) call post p s

variable {call : IngestCall} {mine : ReceiptKeys}

theorem Leaves.mono {s t : σ} {result : Except PayoutError ReceiptIngestResult}
    (h : Leaves ingestor store call s result)
    (hgrow : ∀ keys ∈ store.saved s, keys ∈ store.saved t) : Leaves ingestor store call t result := by
  cases result with
  | error e => trivial
  | ok result =>
      cases result with
      | created snapshot => exact ⟨hgrow _ h.1, h.2⟩
      | duplicate snapshot => exact ⟨hgrow _ h.1, h.2⟩
      | conflict field id receiptHash =>
          obtain ⟨mine, hmine, keys, hkeys, hrest⟩ := h
          exact ⟨mine, hmine, keys, hgrow _ hkeys, hrest⟩
      | rejected errors => trivial

/-- What a lookup for a conflict has found. -/
def FindsSaved (ingestor : ReceiptIngestor ν) (store : UniqueReceiptStore σ) (call : IngestCall)
    (s : σ) : Except PayoutError (Option ReceiptIngestResult) → Prop
  | .ok (some result) => Leaves ingestor store call s (.ok result)
  | .ok none | .error _ => True

theorem leaves_conflict (field : ConflictField) (receiptHash : String) {s : σ}
    {found : ReceiptIngestionSnapshot} (hmine : callKeys ingestor call = some mine)
    (hfound : store.find field.key (mine.get field.key) s = some found) :
    Leaves ingestor store call s (.ok (.conflict field found.receipt.id receiptHash)) := by
  obtain ⟨hsaved, hkey⟩ := store.find_some hfound
  exact ⟨mine, hmine, found.keys, hsaved, rfl, hkey⟩

theorem finds_findConflict {receipt : Split402ReceiptV1} {receiptHash : String} {s : σ}
    (hmine : callKeys ingestor call = some ⟨receiptHash, receipt.receiptId, receipt.paymentId,
      receipt.settlementTxSignature⟩) :
    MeetsLeaves store call (FindsSaved ingestor store call)
      (findConflict receipt receiptHash) s := by
  unfold findConflict
  refine Meets.call_bind (fun _ _ _ => trivial) ?_ (fun _ _ _ _ _ _ => trivial)
  intro t _ byReceiptId _ _ hserve
  obtain ⟨rfl, hfind⟩ := Prod.mk.inj hserve
  rw [Except.ok.injEq] at hfind
  cases byReceiptId with
  | some found => exact .done (leaves_conflict .receiptId receiptHash hmine hfind)
  | none =>
      refine Meets.call_bind (fun _ _ _ => trivial) ?_ (fun _ _ _ _ _ _ => trivial)
      intro t _ byPaymentId _ _ hserve
      obtain ⟨rfl, hfind⟩ := Prod.mk.inj hserve
      rw [Except.ok.injEq] at hfind
      cases byPaymentId with
      | some found => exact .done (leaves_conflict .paymentId receiptHash hmine hfind)
      | none =>
          refine Meets.call_bind (fun _ _ _ => trivial) ?_ (fun _ _ _ _ _ _ => trivial)
          intro t _ bySettlementTx _ _ hserve
          obtain ⟨rfl, hfind⟩ := Prod.mk.inj hserve
          rw [Except.ok.injEq] at hfind
          cases bySettlementTx with
          | some found =>
              exact .done (leaves_conflict .settlementTxSignature receiptHash hmine hfind)
          | none => exact .done trivial

/-- The lookup by the hash, and what follows when it finds nothing. -/
theorem leaves_lookup {receiptHash : String} {next : Await ReceiptIngestResult} {s : σ}
    (hmine : callKeys ingestor call = some mine) (hhash : mine.receiptHash = receiptHash)
    (hnext : ∀ t, MeetsLeaves store call (Leaves ingestor store call) next t) :
    MeetsLeaves store call (Leaves ingestor store call)
      (Await.getByReceiptHash receiptHash >>= fun
        | some duplicate => pure (.duplicate duplicate)
        | none => next) s := by
  refine Meets.call_bind (fun _ _ _ => trivial) ?_ (fun _ _ _ _ _ _ => trivial)
  intro t _ duplicate _ _ hserve
  obtain ⟨rfl, hfind⟩ := Prod.mk.inj hserve
  rw [Except.ok.injEq] at hfind
  cases duplicate with
  | some found =>
      obtain ⟨hsaved, hkey⟩ := store.find_some hfind
      exact .done ⟨hsaved, mine, hmine, hkey.trans hhash.symm⟩
  | none => exact hnext t

/-- The lookups for a conflict, and what follows when they find none. -/
theorem leaves_findConflict_bind {receipt : Split402ReceiptV1} {receiptHash : String}
    {next : Await ReceiptIngestResult} {s : σ}
    (hmine : callKeys ingestor call = some ⟨receiptHash, receipt.receiptId, receipt.paymentId,
      receipt.settlementTxSignature⟩)
    (hnext : ∀ t, MeetsLeaves store call (Leaves ingestor store call) next t) :
    MeetsLeaves store call (Leaves ingestor store call)
      (findConflict receipt receiptHash >>= fun
        | some conflict => pure conflict
        | none => next) s := by
  refine Meets.bind (finds_findConflict hmine) ?_ (fun _ _ _ => trivial)
  intro t conflict hconflict
  cases conflict with
  | some conflict => exact .done hconflict
  | none => exact hnext t

theorem leaves_saveSnapshot {receipt : Split402ReceiptV1} {receiptHash : String}
    {snapshot : ReceiptIngestionSnapshot} {s : σ}
    (hmine : callKeys ingestor call = some ⟨receiptHash, receipt.receiptId, receipt.paymentId,
      receipt.settlementTxSignature⟩) (hhash : snapshot.receipt.receiptHash = receiptHash) :
    MeetsLeaves store call (Leaves ingestor store call)
      (saveSnapshot receipt receiptHash snapshot) s := by
  rw [saveSnapshot_eq]
  refine .await (fun _ _ _ => trivial) ?_
  intro t u answer _ _ hserve
  rw [serve] at hserve
  cases hsave : store.save snapshot t with
  | ok v =>
      rw [hsave] at hserve
      obtain ⟨rfl, rfl⟩ := Prod.mk.inj hserve
      refine .done ⟨?_, _, hmine, hhash⟩
      rw [(store.save_ok hsave).2.1]
      exact List.mem_append_right _ List.mem_cons_self
  | error e =>
      rw [hsave] at hserve
      obtain ⟨rfl, rfl⟩ := Prod.mk.inj hserve
      obtain ⟨rfl, -⟩ := store.save_error hsave
      -- another call has saved one of the keys since the lookups
      exact leaves_lookup hmine rfl fun t => leaves_findConflict_bind hmine fun t => .done trivial

/-- What throws at once leaves nothing to tell. -/
theorem leaves_ofExcept_bind {α : Type} {result : Except PayoutError α}
    {next : α → Await ReceiptIngestResult} {s : σ}
    (hnext : ∀ a, result = .ok a →
      MeetsLeaves store call (Leaves ingestor store call) (next a) s) :
    MeetsLeaves store call (Leaves ingestor store call)
      (Await.ofExcept result >>= next) s := by
  cases result with
  | ok a => exact hnext a rfl
  | error e => exact .done trivial

theorem receiptHash_of_createSnapshot {receipt : Split402ReceiptV1} {receiptHash : String}
    {source : ReceiptIngestSource} {snapshot : ReceiptIngestionSnapshot}
    (h : ingestor.createSnapshot call receipt receiptHash source = .ok snapshot) :
    snapshot.receipt.receiptHash = receiptHash := by
  unfold createSnapshot at h
  obtain ⟨accrual, -, h⟩ := bind_eq_ok.mp h
  cases accrual with
  | none => rw [← Except.ok.inj h]
  | some accrual =>
      obtain ⟨ledgerTransaction, -, h⟩ := bind_eq_ok.mp h
      rw [← Except.ok.inj h]

theorem leaves_verifyAndSave {receipt : Split402ReceiptV1} {receiptHash : String} {s : σ}
    (hmine : callKeys ingestor call = some ⟨receiptHash, receipt.receiptId, receipt.paymentId,
      receipt.settlementTxSignature⟩) :
    MeetsLeaves store call (Leaves ingestor store call)
      (ingestor.verifyAndSave call receipt receiptHash) s := by
  unfold verifyAndSave
  refine Meets.call_bind (fun _ _ _ => trivial) ?_ (fun _ _ _ _ _ _ => trivial)
  intro t _ merchantPublicKey _ _ _
  cases merchantPublicKey with
  | none => exact .done trivial
  | some merchantPublicKey =>
      refine leaves_ofExcept_bind fun verification _ => ?_
      split
      · exact .done trivial
      refine Meets.call_bind (fun _ _ _ => trivial) ?_ (fun _ _ _ _ _ _ => trivial)
      intro u _ policy _ _ _
      split
      · exact .done trivial
      refine leaves_ofExcept_bind fun snapshot hsnapshot => ?_
      exact leaves_saveSnapshot hmine (receiptHash_of_createSnapshot hsnapshot)

/-- **A call leaves what it comes to.** -/
theorem leaves_ingest (hstd : ingestor.runtime.Standard) (call : IngestCall) (s : σ) :
    MeetsLeaves store call (Leaves ingestor store call) (ingestor.ingest call) s := by
  unfold ingest
  split
  · exact .done trivial
  rename_i receipt hparsed
  have hmine := callKeys_eq hstd hparsed
  refine leaves_ofExcept_bind fun receiptHash hhash => ?_
  rw [ofProtocol_eq_ok, hashReceipt_eq hstd, Except.ok.injEq] at hhash
  rw [hhash] at hmine
  exact leaves_lookup hmine rfl fun t => leaves_findConflict_bind hmine fun t =>
    leaves_verifyAndSave hmine

theorem leaves_of_reachable (hstd : ingestor.runtime.Standard) {pool : Calls σ}
    (h : (ingestSystem ingestor store).Reachable (fun _ _ => True) pool)
    {result : Except PayoutError ReceiptIngestResult} (hdone : (call, .done result) ∈ pool.calls) :
    Leaves ingestor store call pool.shared result := by
  have hstart : ∀ call s, True →
      MeetsLeaves store call (Leaves ingestor store call) (ingestor.ingest call) s :=
    fun call s _ => leaves_ingest hstd call s
  have hmeets := Pool.meets h (fun _ _ => trivial) (fun _ _ _ _ _ _ _ _ => trivial)
    (fun _ _ _ _ _ => trivial) hstart ?_ ?_ ?_ ?_
  · cases hmeets.2 _ hdone with
    | done hleaves => exact hleaves
  · exact fun c o s t u hst htu keys hkeys => htu keys (hst keys hkeys)
  · exact fun c o s keys => id
  · exact fun c s t r hleaves hgrow => hleaves.mono hgrow
  · intro pool pool' event i call p _ _ hstep _ _ _
    exact saved_subset_of_step hstep

/-! ## The theorem -/

/-- The store finds what has been saved. -/
theorem found_of_saved {s : σ} {keys : ReceiptKeys} {value : String} (key : ReceiptKey)
    (hsaved : keys ∈ store.saved s) (hkey : keys.get key = value) :
    ∃ snapshot, store.find key value s = some snapshot ∧ snapshot.keys.get key = value := by
  cases hfind : store.find key value s with
  | none => exact absurd hkey (store.find_none hfind keys hsaved)
  | some snapshot => exact ⟨snapshot, rfl, (store.find_some hfind).2⟩

/-- The keys of a call are those of its receipt. -/
theorem hashed_of_callKeys {receipt : Split402ReceiptV1} (hcall : call.receipt = some receipt)
    (hmine : callKeys ingestor call = some mine) :
    hashReceipt ingestor.runtime receipt = .ok mine.receiptHash ∧
      mine.receiptId = receipt.receiptId := by
  obtain ⟨parsed, hparsed, hkeys⟩ := Option.bind_eq_some_iff.mp hmine
  have hsame : parsed = receipt := by
    rw [safeParse, hcall] at hparsed
    exact (Option.some.inj (Option.filter_eq_some_iff.mp hparsed).1).symm
  subst hsame
  obtain ⟨receiptHash, hhash, rfl⟩ := Option.map_eq_some_iff.mp hkeys
  cases hresult : hashReceipt ingestor.runtime parsed with
  | error message =>
      rw [hresult] at hhash
      cases hhash
  | ok hash =>
      rw [hresult] at hhash
      obtain rfl := Option.some.inj hhash
      exact ⟨rfl, rfl⟩

/-- **A recorded receipt is in the control plane**, unless it was answered a conflict with another
receipt of its id, which is recorded as a duplicate. All other conflicts, rejections and errors of
the ingestion are errors of the recorder. -/
theorem recorded_receipts (hstd : ingestor.runtime.Standard) {pool : Calls σ}
    (h : (ingestSystem ingestor store).Reachable (fun _ _ => True) pool)
    {receipt : Split402ReceiptV1} (hcall : call.receipt = some receipt)
    {result : Except PayoutError ReceiptIngestResult} (hdone : (call, .done result) ∈ pool.calls)
    {answer : HttpAnswer} (hanswer : answer.OfIngest result)
    (recorder : Split402ControlPlaneReceiptRecorder) :
    (∀ recording, recorder.record receipt (.ok answer) = .ok recording →
      ∃ receiptHash, hashReceipt ingestor.runtime receipt = .ok receiptHash ∧
        ((∃ snapshot, store.find .receiptHash receiptHash pool.shared = some snapshot ∧
            snapshot.receipt.receiptHash = receiptHash) ∨
          recording.status = .duplicate ∧ answer.status = 409 ∧
            ∃ snapshot, store.find .receiptId receipt.receiptId pool.shared = some snapshot ∧
              snapshot.receipt.receiptHash ≠ receiptHash)) ∧
    ((∃ recording, recorder.record receipt (.ok answer) = .ok recording) ↔
      (∃ snapshot, result = .ok (.created snapshot)) ∨
      (∃ snapshot, result = .ok (.duplicate snapshot)) ∨
      ∃ receiptHash, result = .ok (.conflict .receiptId receipt.receiptId receiptHash)) := by
  have hleaves := leaves_of_reachable hstd h hdone
  cases result with
  | error e =>
      refine ⟨fun recording hrecord => absurd hrecord (record_of_error hanswer), ?_⟩
      constructor
      · rintro ⟨recording, hrecord⟩
        exact absurd hrecord (record_of_error hanswer)
      · rintro (⟨_, h⟩ | ⟨_, h⟩ | ⟨_, h⟩) <;> cases h
  | ok ingested =>
      have hresolves : (∃ recording, recorder.record receipt (.ok answer) = .ok recording) ↔
          (ingested.recordedAs receipt.receiptId).isSome := by
        constructor
        · rintro ⟨recording, hrecord⟩
          rw [((record_of_ok hanswer).mp hrecord).1]
          rfl
        · intro hsome
          obtain ⟨status, hstatus⟩ := Option.isSome_iff_exists.mp hsome
          exact ⟨⟨status, recorder.source⟩, (record_of_ok hanswer).mpr ⟨hstatus, rfl⟩⟩
      refine ⟨?_, hresolves.trans ?_⟩
      · intro recording hrecord
        have hrecorded := ((record_of_ok hanswer).mp hrecord).1
        -- a receipt with the call's hash is found
        have hfound : ∀ snapshot : ReceiptIngestionSnapshot,
            (snapshot.keys ∈ store.saved pool.shared ∧ ∃ mine, callKeys ingestor call = some mine ∧
              snapshot.keys.receiptHash = mine.receiptHash) →
            ∃ receiptHash, hashReceipt ingestor.runtime receipt = .ok receiptHash ∧
              ∃ found, store.find .receiptHash receiptHash pool.shared = some found ∧
                found.receipt.receiptHash = receiptHash := by
          rintro snapshot ⟨hsaved, mine, hmine, hhash⟩
          obtain ⟨found, hfind, hkey⟩ := found_of_saved .receiptHash hsaved hhash
          exact ⟨_, (hashed_of_callKeys hcall hmine).1, found, hfind, hkey⟩
        cases ingested with
        | created snapshot =>
            obtain ⟨receiptHash, hhash, hfound⟩ := hfound snapshot hleaves
            exact ⟨receiptHash, hhash, .inl hfound⟩
        | duplicate snapshot =>
            obtain ⟨receiptHash, hhash, hfound⟩ := hfound snapshot hleaves
            exact ⟨receiptHash, hhash, .inl hfound⟩
        | rejected errors => cases hrecorded
        | conflict field id conflictHash =>
            obtain ⟨mine, hmine, keys, hsaved, hid, hkey⟩ := hleaves
            obtain ⟨hhash, hmineId⟩ := hashed_of_callKeys hcall hmine
            refine ⟨mine.receiptHash, hhash, ?_⟩
            cases field with
            | paymentId => cases hrecorded
            | settlementTxSignature => cases hrecorded
            | receiptId =>
                have hduplicate : recording.status = .duplicate := by
                  have hread : (if id = receipt.receiptId then some .duplicate else none) =
                    some recording.status := hrecorded
                  split at hread
                  · exact (Option.some.inj hread).symm
                  · cases hread
                have hreceiptId : keys.receiptId = receipt.receiptId := hkey.trans hmineId
                obtain ⟨found, hfind, -⟩ := found_of_saved .receiptId hsaved hreceiptId
                by_cases hsame : found.receipt.receiptHash = mine.receiptHash
                · -- another submission of the receipt has overtaken this one
                  exact .inl (found_of_saved .receiptHash (store.find_some hfind).1 hsame)
                · exact .inr ⟨hduplicate, hanswer.1, found, hfind, hsame⟩
      · rw [ReceiptIngestResult.recordedAs_isSome]
        simp only [Except.ok.injEq]

/-! ## Submissions by themselves -/

/-- An operation is answered and returns. -/
theorem run_call_bind {σ : Type} {serve : σ → (op : Op) → σ × Except PayoutError op.Answer} {op : Op}
    {next : op.Answer → Await ReceiptIngestResult} {s t : σ} {a : op.Answer}
    (h : serve s op = (t, .ok a)) :
    (Async.call op >>= next).run serve s = (next a).run serve t := by
  show ((Async.await op .done >>= next).run serve s) = _
  rw [await_bind, Async.run, h]
  rfl

/-- A receipt whose id is there under another hash is answered a conflict. -/
theorem submit_conflict {s : σ} {receipt : Split402ReceiptV1} {receiptHash : String}
    {found : ReceiptIngestionSnapshot} (hparsed : ingestor.safeParse call = some receipt)
    (hhash : hashReceipt ingestor.runtime receipt = .ok receiptHash)
    (hnew : store.find .receiptHash receiptHash s = none)
    (hfound : store.find .receiptId receipt.receiptId s = some found) :
    ingestor.submit store call s = (s, .ok (.conflict .receiptId found.receipt.id receiptHash)) := by
  unfold submit ingest
  rw [hparsed]
  dsimp only
  rw [ofProtocol_eq_ok.mpr hhash, Await.ofExcept, done_ok_bind]
  have hlookup : serve store call s (.getByReceiptHash receiptHash) = (s, .ok none) := by
    rw [serve, hnew]
  have hconflict : serve store call s (.getByReceiptId receipt.receiptId) = (s, .ok (some found)) := by
    rw [serve, hfound]
  refine (run_call_bind hlookup).trans ?_
  dsimp only
  rw [findConflict, bind_assoc]
  exact run_call_bind hconflict

/-- Nothing is found in an empty store. -/
theorem find_empty (key : ReceiptKey) (value : String) : store.find key value store.empty = none := by
  cases hfind : store.find key value store.empty with
  | none => rfl
  | some found =>
      have hsaved := (store.find_some hfind).1
      rw [store.saved_empty] at hsaved
      cases hsaved

/-- What is looked up in an empty store comes to nothing. -/
theorem run_lookups_empty {receipt : Split402ReceiptV1} {receiptHash : String}
    {next : Option ReceiptIngestResult → Await ReceiptIngestResult} :
    (findConflict receipt receiptHash >>= next).run (serve store call) store.empty =
      (next none).run (serve store call) store.empty := by
  have hid : serve store call store.empty (.getByReceiptId receipt.receiptId) =
      (store.empty, .ok none) := by
    rw [serve, find_empty]
  have hpayment : serve store call store.empty (.getByPaymentId receipt.paymentId) =
      (store.empty, .ok none) := by
    rw [serve, find_empty]
  have hsettlement : serve store call store.empty
      (.getBySettlementTxSignature receipt.settlementTxSignature) = (store.empty, .ok none) := by
    rw [serve, find_empty]
  rw [findConflict, bind_assoc]
  refine (run_call_bind hid).trans ?_
  dsimp only
  rw [bind_assoc]
  refine (run_call_bind hpayment).trans ?_
  dsimp only
  rw [bind_assoc]
  exact run_call_bind hsettlement

/-- A receipt that passes is created in an empty store. -/
theorem submit_empty (hstd : ingestor.runtime.Standard) (hpasses : Passes ingestor call) :
    ∃ t snapshot, ingestor.submit store call store.empty = (t, .ok (.created snapshot)) ∧
      store.saved t = [snapshot.keys] ∧ callKeys ingestor call = some snapshot.keys := by
  obtain ⟨⟨receipt, merchantPublicKey, result, hparsed, hkey, hresult, hok⟩, policy, hpolicy,
    hallowed⟩ := hpasses
  have hhash := hashReceipt_eq hstd receipt
  have hmine := callKeys_eq hstd hparsed
  generalize "sha256:" ++ ingestor.runtime.sha256Hex (receiptBytes ingestor.runtime receipt) =
    receiptHash at hhash hmine
  obtain ⟨commission, protocolFee, referrerCredit, hamounts⟩ := receiptAmounts_of_ok hresult hok
  obtain ⟨snapshot, hsnapshot, hreceipt, hid, hsnapshotHash, -⟩ :=
    @createSnapshot_books _ ingestor call receipt receiptHash (call.source.getD .unknown) _ _ _
      hamounts
  have hkeys : snapshot.keys = ⟨receiptHash, receipt.receiptId, receipt.paymentId,
      receipt.settlementTxSignature⟩ := by
    rw [ReceiptIngestionSnapshot.keys, hreceipt, hid, hsnapshotHash]
  have hlookup : serve store call store.empty (.getByReceiptHash receiptHash) =
      (store.empty, .ok none) := by
    rw [serve, find_empty]
  have hdirectory : serve store call store.empty (.resolveMerchantPublicKey receipt) =
      (store.empty, .ok (some merchantPublicKey)) := by
    rw [serve, hkey]
  have hverifier : serve store call store.empty (.verifyPolicy receipt) =
      (store.empty, .ok policy) := by
    rw [serve, hpolicy]
  have hrefused : ¬ policy.any (fun result => !result.ok) = true := by
    cases policy with
    | none => exact Bool.false_ne_true
    | some policy => simpa using hallowed
  cases hsave : store.save snapshot store.empty with
  | error e =>
      obtain ⟨-, keys, hsaved, -⟩ := store.save_error hsave
      rw [store.saved_empty] at hsaved
      cases hsaved
  | ok t =>
      have hsaved := (store.save_ok hsave).2.1
      rw [store.saved_empty, List.nil_append] at hsaved
      refine ⟨t, snapshot, ?_, hsaved, by rw [hmine, hkeys]⟩
      unfold submit ingest
      rw [hparsed]
      dsimp only
      rw [ofProtocol_eq_ok.mpr hhash, Await.ofExcept, done_ok_bind]
      refine (run_call_bind hlookup).trans ?_
      dsimp only
      rw [run_lookups_empty]
      dsimp only [verifyAndSave]
      refine (run_call_bind hdirectory).trans ?_
      dsimp only
      rw [ofProtocol_eq_ok.mpr hresult, Await.ofExcept, done_ok_bind, hok]
      refine (run_call_bind hverifier).trans ?_
      rw [if_neg hrefused, hsnapshot, Await.ofExcept, done_ok_bind, saveSnapshot_eq, Async.run, serve,
        hsave]
      rfl

/-! ## A merchant with two receipts of one id -/

def feeSaleHash : String :=
  "sha256:90a1868aae34a634886e98c23f890976bd278c2488003d92300576cdc69e83b9"

/-- The digests of the two sales. -/
def salesDigest (bytes : ByteArray) : String :=
  if bytes = receiptBytes Sample.saleRuntime Sample.feeSale then
    "90a1868aae34a634886e98c23f890976bd278c2488003d92300576cdc69e83b9"
  else "b0d669a9916071831d30cf05a87dad5bc78f544a386b95bdcd78c26c6f64c7f6"

/-- An engine that knows the digests and the signatures of the two sales. -/
def salesRuntime : Runtime Whole := { Sample.saleRuntime with sha256Hex := salesDigest }

def salesIngestor : ReceiptIngestor Whole := ⟨isoHost, salesRuntime, Sample.zod, fun _ => []⟩

theorem salesIngestor_standard : salesIngestor.runtime.Standard :=
  ⟨wholeNumbers_standard, fun _ => rfl⟩

theorem sales_differ : receiptBytes Sample.saleRuntime Sample.freeSale ≠
    receiptBytes Sample.saleRuntime Sample.feeSale := by
  intro h
  have hsignature := (keys_eq_of_bytes_eq Sample.saleRuntime_standard h).2.2.2
  exact absurd hsignature (by decide)

theorem digest_sales (receipt : Split402ReceiptV1) :
    salesIngestor.runtime.sha256Hex (receiptBytes salesIngestor.runtime receipt) =
      salesDigest (receiptBytes Sample.saleRuntime receipt) := by
  have hbytes : receiptBytes salesIngestor.runtime receipt =
      receiptBytes Sample.saleRuntime receipt := rfl
  have hdigest : salesIngestor.runtime.sha256Hex = salesDigest := rfl
  rw [hbytes, hdigest]

theorem digest_freeSale : salesDigest (receiptBytes Sample.saleRuntime Sample.freeSale) =
    "b0d669a9916071831d30cf05a87dad5bc78f544a386b95bdcd78c26c6f64c7f6" := by
  rw [salesDigest, if_neg sales_differ]

theorem hash_feeSale : hashReceipt salesIngestor.runtime Sample.feeSale = .ok feeSaleHash := by
  rw [hashReceipt_eq salesIngestor_standard, digest_sales, salesDigest, if_pos rfl]
  rfl

theorem freeSale_passes : Passes salesIngestor (sampleCall Sample.freeSale) where
  verified := by
    have hparsed : salesIngestor.safeParse (sampleCall Sample.freeSale) = some Sample.freeSale :=
      Option.filter_eq_some_iff.mpr ⟨rfl, Sample.freeSale_schema⟩
    have hknown : ∀ message, salesIngestor.runtime.nodeVerify Sample.merchantKeyBytes message
        (Sample.merchantSignatures.getD 0 []) = true := by
      have hsignature : (Sample.merchantKeyBytes == Sample.merchantKeyBytes &&
          Sample.merchantSignatures.contains (Sample.merchantSignatures.getD 0 [])) = true := by
        decide
      exact fun _ => hsignature
    exact ⟨_, _, _, hparsed, rfl, Sample.verifies salesIngestor_standard Sample.merchantKey_decodes
      Sample.freeSale_decodes hknown Sample.freeSale_arithmetic, rfl⟩
  policy := ⟨none, rfl, rfl⟩

/-- What the control plane answers the buyer who submits the second sale. -/
def conflictAnswer : HttpAnswer where
  status := 409
  text := ""
  json := some (ReceiptIngestResult.conflict .receiptId Sample.feeSale.receiptId feeSaleHash).toJson

/-- The merchant has submitted one of its sales when a buyer submits the other, of the same id. -/
theorem equivocated : ∃ pool : Calls (List ReceiptIngestionSnapshot),
    (ingestSystem salesIngestor rowStore).Reachable (fun _ _ => True) pool ∧
    (sampleCall Sample.feeSale,
      .done (.ok (.conflict .receiptId Sample.feeSale.receiptId feeSaleHash))) ∈ pool.calls ∧
    rowStore.find .receiptHash feeSaleHash pool.shared = none := by
  obtain ⟨rows, snapshot, hfirst, hsaved, hkeys⟩ :=
    @submit_empty _ _ salesIngestor rowStore _ salesIngestor_standard freeSale_passes
  have hparsedFree : salesIngestor.safeParse (sampleCall Sample.freeSale) = some Sample.freeSale :=
    Option.filter_eq_some_iff.mpr ⟨rfl, Sample.freeSale_schema⟩
  have hparsed : salesIngestor.safeParse (sampleCall Sample.feeSale) = some Sample.feeSale :=
    Option.filter_eq_some_iff.mpr ⟨rfl, Sample.feeSale_schema⟩
  rw [callKeys_eq salesIngestor_standard hparsedFree, Option.some.injEq, digest_sales,
    digest_freeSale] at hkeys
  -- the second sale is not there, and its id is
  have hnew : rowStore.find .receiptHash feeSaleHash rows = none := by
    cases hfind : rowStore.find .receiptHash feeSaleHash rows with
    | none => rfl
    | some found =>
        obtain ⟨hmem, hkey⟩ := rowStore.find_some hfind
        rw [hsaved, List.mem_singleton] at hmem
        rw [hmem, ← hkeys] at hkey
        exact absurd hkey (by decide)
  have hid : snapshot.keys.get .receiptId = Sample.feeSale.receiptId := by
    rw [← hkeys]
    rfl
  have hmem : snapshot.keys ∈ rowStore.saved rows := by
    rw [hsaved]
    exact List.mem_singleton_self _
  obtain ⟨found, hfound, hfoundId⟩ := found_of_saved .receiptId hmem hid
  have hsecond := submit_conflict hparsed hash_feeSale hnew hfound
  have hserve : ∀ (call : IngestCall) s op, serve rowStore call s op =
      ((serve rowStore call s op).1, (serve rowStore call s op).2) := fun _ _ _ => rfl
  have hempty : (ingestSystem salesIngestor rowStore).Reachable (fun _ _ => True)
      ⟨rowStore.empty, []⟩ := .init ⟨rfl, rfl⟩
  have hone := Pool.reachable_run (sampleCall Sample.freeSale) (fun _ _ => trivial) (hserve _) hempty
  have htwo := Pool.reachable_run (sampleCall Sample.feeSale) (fun _ _ => trivial) (hserve _) hone
  rw [show (salesIngestor.ingest (sampleCall Sample.freeSale)).run
    (serve rowStore (sampleCall Sample.freeSale)) rowStore.empty = _ from hfirst] at htwo
  rw [show (salesIngestor.ingest (sampleCall Sample.feeSale)).run
    (serve rowStore (sampleCall Sample.feeSale)) rows = _ from hsecond] at htwo
  refine ⟨_, htwo, ?_, hnew⟩
  have hfoundReceipt : found.receipt.id = Sample.feeSale.receiptId := hfoundId
  rw [hfoundReceipt]
  exact List.mem_append_right _ (List.mem_singleton_self _)

end ReceiptIngestor

/-- The buyer records the second sale as a duplicate of the first. -/
theorem recorded_receipts_feeSale : ∃ recording,
    Split402ControlPlaneReceiptRecorder.default.record Sample.feeSale
      (.ok ReceiptIngestor.conflictAnswer) = .ok recording := by
  obtain ⟨pool, hreachable, hdone, -⟩ := ReceiptIngestor.equivocated
  exact (ReceiptIngestor.recorded_receipts ReceiptIngestor.salesIngestor_standard hreachable rfl hdone
    ⟨rfl, rfl⟩ _).2.mpr (.inr (.inr ⟨_, rfl⟩))

/-- A recorded receipt need not be in the control plane. -/
theorem not_recorded_receipts : ¬ ∀ (ingestor : ReceiptIngestor Whole)
    (pool : ReceiptIngestor.Calls (List ReceiptIngestionSnapshot)) (call : IngestCall)
    (receipt : Split402ReceiptV1) (result : Except PayoutError ReceiptIngestResult)
    (answer : HttpAnswer) (recorder : Split402ControlPlaneReceiptRecorder)
    (recording : Split402ReceiptRecordingResult) (receiptHash : String),
    ingestor.runtime.Standard →
    (ReceiptIngestor.ingestSystem ingestor rowStore).Reachable (fun _ _ => True) pool →
    call.receipt = some receipt → (call, .done result) ∈ pool.calls → answer.OfIngest result →
    recorder.record receipt (.ok answer) = .ok recording →
    hashReceipt ingestor.runtime receipt = .ok receiptHash →
    ∃ snapshot, rowStore.find .receiptHash receiptHash pool.shared = some snapshot := by
  intro h
  obtain ⟨pool, hreachable, hdone, hnew⟩ := ReceiptIngestor.equivocated
  obtain ⟨snapshot, hfind⟩ := h _ pool _ _ _ ReceiptIngestor.conflictAnswer
    Split402ControlPlaneReceiptRecorder.default ⟨.duplicate, .buyer⟩ _
    ReceiptIngestor.salesIngestor_standard hreachable rfl hdone ⟨rfl, rfl⟩ rfl
    ReceiptIngestor.hash_feeSale
  rw [hnew] at hfind
  cases hfind

end Split402

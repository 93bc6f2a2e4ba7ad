import Split402.Proof.CommissionLedger
import Split402.Receipts.Concurrent

/-! # Exactly-once ingestion

Calls over a store with unique keys. Two facts are about one call alone: it is done as created when
its save succeeds and in no other way (`endsAt_ingest`), and what it answers is true of the store
when the others only add receipts (`meets_ingest`). The second needs one thing more: that nobody
saves the call's own receipt while it looks for conflicts, for then it would take that receipt for
another. -/

namespace Split402

open Base Base.Async

/-- The key a conflict is about. -/
def ConflictField.key : ConflictField → ReceiptKey
  | .receiptId => .receiptId
  | .paymentId => .paymentId
  | .settlementTxSignature => .settlementTxSignature

namespace ReceiptIngestor

variable {ν σ : Type} {ingestor : ReceiptIngestor ν} {store : UniqueReceiptStore σ}

/-! ## How operations are served -/

/-- Only a save that succeeds changes the store. -/
theorem serve_cases {call : IngestCall} {s t : σ} {op : Op} {answer : Except PayoutError op.Answer}
    (h : serve store call s op = (t, answer)) :
    t = s ∨ ∃ snapshot, op = .save snapshot ∧ store.save snapshot s = .ok t := by
  cases op with
  | save snapshot =>
      rw [serve] at h
      cases hsave : store.save snapshot s with
      | ok u =>
          rw [hsave] at h
          injection h with hu _
          exact .inr ⟨snapshot, rfl, by rw [hsave, hu]⟩
      | error e =>
          rw [hsave] at h
          injection h with hu _
          exact .inl hu.symm
  | _ =>
      injection h with hu _
      exact .inl hu.symm

/-! ## What creates a receipt -/

/-- A save that succeeds is the last operation, and the call has created what it saved. -/
def createdBy : (op : Op) → Except PayoutError op.Answer →
    Option (Except PayoutError ReceiptIngestResult)
  | .save snapshot, .ok _ => some (.ok (.created snapshot))
  | _, _ => none

/-- The keys of what a result has created. -/
def createdKeys : Except PayoutError ReceiptIngestResult → Option ReceiptKeys
  | .ok (.created snapshot) => some snapshot.keys
  | _ => none

/-- A program that creates by its save only. -/
abbrev CreatesBySave (p : Await ReceiptIngestResult) : Prop :=
  p.EndsAt createdBy (fun result => createdKeys result = none)

theorem createsBySave_done {result : Except PayoutError ReceiptIngestResult}
    (h : createdKeys result = none) : CreatesBySave (.done result) := .done h

theorem createsBySave_call_bind {op : Op} (hop : op.isSave = false)
    {next : op.Answer → Await ReceiptIngestResult} (h : ∀ a, CreatesBySave (next a)) :
    CreatesBySave (Async.call op >>= next) := by
  refine EndsAt.call_bind (fun answer => ?_) (fun _ => rfl) h
  cases op with
  | save snapshot => cases hop
  | _ => rfl

theorem createsBySave_ofExcept_bind {α : Type} (result : Except PayoutError α)
    {next : α → Await ReceiptIngestResult} (h : ∀ a, CreatesBySave (next a)) :
    CreatesBySave (Await.ofExcept result >>= next) := by
  cases result with
  | ok a => exact h a
  | error e => exact createsBySave_done rfl

theorem createsBySave_findConflict_bind {receipt : Split402ReceiptV1} {receiptHash : String}
    {next : Option ReceiptIngestResult → Await ReceiptIngestResult} (hnone : CreatesBySave (next none))
    (hsome : ∀ field id, CreatesBySave (next (some (.conflict field id receiptHash)))) :
    CreatesBySave (findConflict receipt receiptHash >>= next) := by
  unfold findConflict
  rw [bind_assoc]
  refine createsBySave_call_bind rfl fun byReceiptId => ?_
  cases byReceiptId with
  | some _ => exact hsome _ _
  | none =>
      show CreatesBySave ((Await.getByPaymentId receipt.paymentId >>= _) >>= next)
      rw [bind_assoc]
      refine createsBySave_call_bind rfl fun byPaymentId => ?_
      cases byPaymentId with
      | some _ => exact hsome _ _
      | none =>
          show CreatesBySave
            ((Await.getBySettlementTxSignature receipt.settlementTxSignature >>= _) >>= next)
          rw [bind_assoc]
          refine createsBySave_call_bind rfl fun bySettlementTx => ?_
          cases bySettlementTx with
          | some _ => exact hsome _ _
          | none => exact hnone

theorem createsBySave_afterSaveFails (receipt : Split402ReceiptV1) (receiptHash : String)
    (error : PayoutError) : CreatesBySave (afterSaveFails receipt receiptHash error) := by
  unfold afterSaveFails
  split
  · exact createsBySave_done rfl
  · refine createsBySave_call_bind rfl fun duplicate => ?_
    cases duplicate with
    | some _ => exact createsBySave_done rfl
    | none =>
        refine createsBySave_findConflict_bind ?_ ?_
        · exact createsBySave_done rfl
        · exact fun _ _ => createsBySave_done rfl

theorem createsBySave_saveSnapshot (receipt : Split402ReceiptV1) (receiptHash : String)
    (snapshot : ReceiptIngestionSnapshot) :
    CreatesBySave (saveSnapshot receipt receiptHash snapshot) := by
  rw [saveSnapshot_eq]
  refine .await ?_ ?_
  · intro answer result h
    cases answer with
    | ok _ =>
        injection h with h
        rw [← h]
    | error _ => cases h
  · intro answer h
    cases answer with
    | ok _ => cases h
    | error error => exact createsBySave_afterSaveFails receipt receiptHash error

/-- **A call creates a receipt by saving it, and in no other way.** -/
theorem endsAt_ingest (call : IngestCall) : CreatesBySave (ingestor.ingest call) := by
  unfold ingest
  split
  · exact createsBySave_done rfl
  refine createsBySave_ofExcept_bind _ fun receiptHash => ?_
  refine createsBySave_call_bind rfl fun duplicate => ?_
  cases duplicate with
  | some _ => exact createsBySave_done rfl
  | none =>
      refine createsBySave_findConflict_bind ?_ fun _ _ => createsBySave_done rfl
      unfold verifyAndSave
      refine createsBySave_call_bind rfl fun merchantPublicKey => ?_
      cases merchantPublicKey with
      | none => exact createsBySave_done rfl
      | some merchantPublicKey =>
          dsimp only
          refine createsBySave_ofExcept_bind _ fun verification => ?_
          split
          · exact createsBySave_done rfl
          refine createsBySave_call_bind rfl fun policy => ?_
          split
          · exact createsBySave_done rfl
          refine createsBySave_ofExcept_bind _ fun snapshot => ?_
          exact createsBySave_saveSnapshot _ _ _

/-! ## What a call answers -/

variable (ingestor store)

/-- The call's own checks let it through: the schema, the merchant's key, the verification of the
receipt and the policy. -/
structure Passes (call : IngestCall) : Prop where
  verified : ∃ receipt merchantPublicKey result, ingestor.safeParse call = some receipt ∧
    call.merchantPublicKey = .ok (some merchantPublicKey) ∧
    verifySplit402ReceiptObject ingestor.runtime receipt merchantPublicKey = .ok result ∧
    result.ok = true
  policy : ∃ policy, call.policy = .ok policy ∧ policy.all ProtocolVerificationResult.ok = true

/-- What the result of a call says about the saved receipts: it saved its own; or its own was there;
or another one was there with one of its keys; or its own checks stopped it. -/
def Answers (call : IngestCall) (s : σ) : Except PayoutError ReceiptIngestResult → Prop
  | .ok (.created snapshot) =>
      callKeys ingestor call = some snapshot.keys ∧ snapshot.keys ∈ store.saved s
  | .ok (.duplicate snapshot) => snapshot.keys ∈ store.saved s ∧
      ∃ mine, callKeys ingestor call = some mine ∧ snapshot.keys.receiptHash = mine.receiptHash
  | .ok (.conflict field id receiptHash) =>
      ∃ mine, callKeys ingestor call = some mine ∧ receiptHash = mine.receiptHash ∧
        ∃ keys ∈ store.saved s, keys.receiptHash ≠ mine.receiptHash ∧ keys.receiptId = id ∧
          keys.get field.key = mine.get field.key
  | .ok (.rejected _) => ¬ Passes ingestor call
  | .error e => call.merchantPublicKey = .error e ∨ call.policy = .error e

/-- What a call relies on: receipts are added and none is removed, and while the call looks for
conflicts nobody saves a receipt with its hash. -/
def Relies (call : IngestCall) (o : Option Op) (s t : σ) : Prop :=
  (∀ keys ∈ store.saved s, keys ∈ store.saved t) ∧
  (o.any Op.looksForConflict = true → ∀ mine, callKeys ingestor call = some mine →
    (∀ keys ∈ store.saved s, keys.receiptHash ≠ mine.receiptHash) →
    ∀ keys ∈ store.saved t, keys.receiptHash ≠ mine.receiptHash)

variable {ingestor store}

/-- A program meets what its call has to answer. -/
abbrev MeetsAnswers (ingestor : ReceiptIngestor ν) (store : UniqueReceiptStore σ)
    (call : IngestCall) {α : Type} (post : σ → Except PayoutError α → Prop) (p : Await α) (s : σ) :
    Prop :=
  Meets (fun call s op t answer => serve store call s op = (t, answer)) (fun _ => True)
    (Relies ingestor store) (fun _ _ _ => True) call post p s

variable {call : IngestCall} {mine : ReceiptKeys}

theorem Answers.mono {s t : σ} {result : Except PayoutError ReceiptIngestResult}
    (h : Answers ingestor store call s result)
    (hgrow : ∀ keys ∈ store.saved s, keys ∈ store.saved t) :
    Answers ingestor store call t result := by
  cases result with
  | error e => exact h
  | ok result =>
      cases result with
      | created snapshot => exact ⟨h.1, hgrow _ h.2⟩
      | duplicate snapshot => exact ⟨hgrow _ h.1, h.2⟩
      | conflict field id receiptHash =>
          obtain ⟨mine, hmine, hhash, keys, hkeys, hrest⟩ := h
          exact ⟨mine, hmine, hhash, keys, hgrow _ hkeys, hrest⟩
      | rejected errors => exact h

/-- What the lookups for a conflict answer: a receipt under one of the call's keys that is not the
call's own, or nothing when no receipt had one of these keys at the start. -/
def FindsConflict (ingestor : ReceiptIngestor ν) (store : UniqueReceiptStore σ) (call : IngestCall)
    (mine : ReceiptKeys) (start s : σ) : Except PayoutError (Option ReceiptIngestResult) → Prop
  | .ok none => ∀ keys ∈ store.saved start, ∀ key, key ≠ .receiptHash → keys.get key ≠ mine.get key
  | .ok (some result) => Answers ingestor store call s (.ok result)
  | .error _ => False

theorem answers_conflict {s : σ} {field : ConflictField} {found : ReceiptIngestionSnapshot}
    (hmine : callKeys ingestor call = some mine)
    (hnew : ∀ keys ∈ store.saved s, keys.receiptHash ≠ mine.receiptHash)
    (hfound : store.find field.key (mine.get field.key) s = some found) :
    Answers ingestor store call s
      (.ok (.conflict field found.receipt.id mine.receiptHash)) := by
  obtain ⟨hsaved, hkey⟩ := store.find_some hfound
  exact ⟨mine, hmine, rfl, found.keys, hsaved, hnew _ hsaved, rfl, hkey⟩

/-- **The lookups for a conflict**, by a call whose own receipt is not saved. -/
theorem meets_findConflict {receipt : Split402ReceiptV1} {receiptHash : String} {s : σ}
    (hmine : callKeys ingestor call = some mine)
    (hreceipt : mine = ⟨receiptHash, receipt.receiptId, receipt.paymentId,
      receipt.settlementTxSignature⟩)
    (hnew : ∀ keys ∈ store.saved s, keys.receiptHash ≠ mine.receiptHash) :
    MeetsAnswers ingestor store call (FindsConflict ingestor store call mine s)
      (findConflict receipt receiptHash) s := by
  subst hreceipt
  -- a lookup that finds nothing has found nothing of the start
  have hmiss : ∀ {key value t}, (∀ keys ∈ store.saved s, keys ∈ store.saved t) →
      none = store.find key value t → ∀ keys ∈ store.saved s, keys.get key ≠ value := by
    intro key value t hgrow hfind keys hkeys
    exact store.find_none hfind.symm keys (hgrow keys hkeys)
  unfold findConflict
  refine Meets.call_bind (fun _ _ _ => trivial) ?_ (fun _ _ _ _ _ hserve => by cases hserve)
  intro t _ byReceiptId _ hrely hserve
  obtain ⟨rfl, hfind⟩ := Prod.mk.inj hserve
  rw [Except.ok.injEq] at hfind
  have hnewt := hrely.2 rfl _ hmine hnew
  cases byReceiptId with
  | some found => exact .done (@answers_conflict _ _ _ _ _ _ _ .receiptId found hmine hnewt hfind)
  | none =>
      have hid := hmiss hrely.1 hfind.symm
      refine Meets.call_bind (fun _ _ _ => trivial) ?_ (fun _ _ _ _ _ hserve => by cases hserve)
      intro t' _ byPaymentId _ hrely' hserve'
      obtain ⟨rfl, hfind'⟩ := Prod.mk.inj hserve'
      rw [Except.ok.injEq] at hfind'
      have hnewt' := hrely'.2 rfl _ hmine hnewt
      have hgrow := fun keys hkeys => hrely'.1 keys (hrely.1 keys hkeys)
      cases byPaymentId with
      | some found =>
          exact .done (@answers_conflict _ _ _ _ _ _ _ .paymentId found hmine hnewt' hfind')
      | none =>
          have hpayment := hmiss hgrow hfind'.symm
          refine Meets.call_bind (fun _ _ _ => trivial) ?_ (fun _ _ _ _ _ hserve => by cases hserve)
          intro t'' _ bySettlementTx _ hrely'' hserve''
          obtain ⟨rfl, hfind''⟩ := Prod.mk.inj hserve''
          rw [Except.ok.injEq] at hfind''
          have hnewt'' := hrely''.2 rfl _ hmine hnewt'
          cases bySettlementTx with
          | some found =>
              exact .done
                (@answers_conflict _ _ _ _ _ _ _ .settlementTxSignature found hmine hnewt'' hfind'')
          | none =>
              have hsettlement :=
                hmiss (fun keys hkeys => hrely''.1 keys (hgrow keys hkeys)) hfind''.symm
              refine .done ?_
              intro keys hkeys key hkey
              cases key with
              | receiptHash => exact absurd rfl hkey
              | receiptId => exact hid keys hkeys
              | paymentId => exact hpayment keys hkeys
              | settlementTxSignature => exact hsettlement keys hkeys

/-- **After a save that failed**, the call finds its own receipt or the one it conflicts with. -/
theorem meets_afterSaveFails {receipt : Split402ReceiptV1} {receiptHash : String} {s : σ}
    (hmine : callKeys ingestor call = some mine)
    (hreceipt : mine = ⟨receiptHash, receipt.receiptId, receipt.paymentId,
      receipt.settlementTxSignature⟩)
    (hshared : ∃ keys ∈ store.saved s, ∃ key, keys.get key = mine.get key) :
    MeetsAnswers ingestor store call (Answers ingestor store call)
      (afterSaveFails receipt receiptHash .persistenceConflict) s := by
  obtain ⟨keys, hkeys, key, hkey⟩ := hshared
  unfold afterSaveFails
  refine Meets.call_bind (fun _ _ _ => trivial) ?_ (fun _ _ _ _ _ hserve => by cases hserve)
  intro t _ duplicate _ hrely hserve
  obtain ⟨rfl, hfind⟩ := Prod.mk.inj hserve
  rw [Except.ok.injEq] at hfind
  cases duplicate with
  | some found =>
      obtain ⟨hsaved, hhash⟩ := store.find_some hfind
      exact .done ⟨hsaved, mine, hmine, by rw [hreceipt]; exact hhash⟩
  | none =>
      have hnew : ∀ keys ∈ store.saved t, keys.receiptHash ≠ mine.receiptHash := by
        rw [hreceipt]
        exact store.find_none hfind
      refine Meets.bind (meets_findConflict hmine hreceipt hnew) ?_ ?_
      · intro u conflict hconflict
        cases conflict with
        | some conflict => exact .done hconflict
        | none =>
            -- the receipt that made the save fail is still there
            have hkeyne : key ≠ .receiptHash := by
              rintro rfl
              exact hnew keys (hrely.1 keys hkeys) hkey
            exact absurd hkey (hconflict keys (hrely.1 keys hkeys) key hkeyne)
      · intro u e h
        exact h.elim

/-- **The save.** -/
theorem meets_saveSnapshot {receipt : Split402ReceiptV1} {receiptHash : String}
    {snapshot : ReceiptIngestionSnapshot} {s : σ} (hmine : callKeys ingestor call = some snapshot.keys)
    (hreceipt : snapshot.keys = ⟨receiptHash, receipt.receiptId, receipt.paymentId,
      receipt.settlementTxSignature⟩) :
    MeetsAnswers ingestor store call (Answers ingestor store call)
      (saveSnapshot receipt receiptHash snapshot) s := by
  rw [saveSnapshot_eq]
  refine .await (fun _ _ _ => trivial) ?_
  intro t u answer _ hrely hserve
  rw [serve] at hserve
  cases hsave : store.save snapshot t with
  | ok v =>
      rw [hsave] at hserve
      obtain ⟨rfl, rfl⟩ := Prod.mk.inj hserve
      refine .done ⟨hmine, ?_⟩
      rw [(store.save_ok hsave).2.1]
      exact List.mem_append_right _ List.mem_cons_self
  | error e =>
      rw [hsave] at hserve
      obtain ⟨rfl, rfl⟩ := Prod.mk.inj hserve
      obtain ⟨rfl, keys, hkeys, hshare⟩ := store.save_error hsave
      exact meets_afterSaveFails hmine hreceipt ⟨keys, hkeys, ReceiptKeys.share_eq_true.mp hshare⟩

theorem meets_ofExcept_bind {α : Type} {result : Except PayoutError α} {a : α}
    {next : α → Await ReceiptIngestResult} {s : σ} (h : result = .ok a)
    (hnext : MeetsAnswers ingestor store call (Answers ingestor store call) (next a) s) :
    MeetsAnswers ingestor store call (Answers ingestor store call)
      (Await.ofExcept result >>= next) s := by
  subst h
  exact hnext

/-- **The checks and the save.** -/
theorem meets_verifyAndSave (hstd : ingestor.runtime.Standard) {receipt : Split402ReceiptV1}
    {receiptHash : String} {s : σ} (hparsed : ingestor.safeParse call = some receipt)
    (hmine : callKeys ingestor call = some ⟨receiptHash, receipt.receiptId, receipt.paymentId,
      receipt.settlementTxSignature⟩) :
    MeetsAnswers ingestor store call (Answers ingestor store call)
      (ingestor.verifyAndSave call receipt receiptHash) s := by
  have hschema := (Option.filter_eq_some_iff.mp hparsed).2
  unfold verifyAndSave
  refine Meets.call_bind (fun _ _ _ => trivial) ?_ ?_
  · intro t _ merchantPublicKey _ _ hserve
    obtain ⟨rfl, hkey⟩ := Prod.mk.inj hserve
    cases merchantPublicKey with
    | none =>
        refine .done ?_
        rintro ⟨⟨_, _, _, _, hkey', _⟩, _⟩
        rw [hkey] at hkey'
        cases hkey'
    | some merchantPublicKey =>
        obtain ⟨result, hresult⟩ :=
          verifySplit402ReceiptObject_returns hstd hschema merchantPublicKey
        dsimp only
        refine meets_ofExcept_bind (ofProtocol_eq_ok.mpr hresult) ?_
        -- what the call would have to pass, it has been given
        have hpasses : Passes ingestor call → result.ok = true ∧
            ∃ policy, call.policy = .ok policy ∧ policy.all ProtocolVerificationResult.ok = true := by
          rintro ⟨⟨receipt', key', result', hparsed', hkey', hresult', hok'⟩, hpolicy⟩
          rw [hparsed, Option.some.injEq] at hparsed'
          rw [hkey, Except.ok.injEq, Option.some.injEq] at hkey'
          rw [← hparsed', ← hkey', hresult, Except.ok.injEq] at hresult'
          exact ⟨by rw [hresult', hok'], hpolicy⟩
        by_cases hok : result.ok = true
        · rw [hok]
          refine Meets.call_bind (fun _ _ _ => trivial) ?_ ?_
          · intro v _ policy _ _ hserve
            obtain ⟨rfl, hpolicy⟩ := Prod.mk.inj hserve
            by_cases hrefused : policy.any (fun result => !result.ok) = true
            · rw [if_pos hrefused]
              refine .done ?_
              intro hall
              obtain ⟨-, policy', hpolicy', hallowed⟩ := hpasses hall
              rw [hpolicy, Except.ok.injEq] at hpolicy'
              subst hpolicy'
              cases policy with
              | none => cases hrefused
              | some policy => simp_all
            · rw [if_neg hrefused]
              obtain ⟨commission, protocolFee, referrerCredit, hamounts⟩ :=
                receiptAmounts_of_ok hresult hok
              obtain ⟨snapshot, hsnapshot, hreceipt, hid, hhash, -⟩ :=
                @createSnapshot_books _ ingestor call receipt receiptHash
                  (call.source.getD .unknown) _ _ _ hamounts
              have hkeys : snapshot.keys = ⟨receiptHash, receipt.receiptId, receipt.paymentId,
                  receipt.settlementTxSignature⟩ := by
                rw [ReceiptIngestionSnapshot.keys, hreceipt, hid, hhash]
              refine meets_ofExcept_bind hsnapshot ?_
              exact meets_saveSnapshot (by rw [hmine, hkeys]) hkeys
          · intro _ _ e _ _ hserve
            exact .inr (Prod.mk.inj hserve).2
        · rw [Bool.not_eq_true] at hok
          rw [hok]
          refine .done ?_
          intro hall
          rw [hok] at hpasses
          exact nomatch (hpasses hall).1
  · intro _ _ e _ _ hserve
    exact .inl (Prod.mk.inj hserve).2

theorem callKeys_eq (hstd : ingestor.runtime.Standard) {receipt : Split402ReceiptV1}
    (hparsed : ingestor.safeParse call = some receipt) : callKeys ingestor call =
      some ⟨"sha256:" ++ ingestor.runtime.sha256Hex (receiptBytes ingestor.runtime receipt),
        receipt.receiptId, receipt.paymentId, receipt.settlementTxSignature⟩ := by
  rw [callKeys, hparsed, Option.bind_some, hashReceipt_eq hstd receipt]
  rfl

/-- **A call answers what is true of the store.** -/
theorem meets_ingest (hstd : ingestor.runtime.Standard) (call : IngestCall) (s : σ) :
    MeetsAnswers ingestor store call (Answers ingestor store call) (ingestor.ingest call) s := by
  unfold ingest
  split
  · rename_i hparsed
    refine .done ?_
    rintro ⟨⟨_, _, _, hparsed', _⟩, _⟩
    rw [hparsed] at hparsed'
    cases hparsed'
  rename_i receipt hparsed
  have hhash := hashReceipt_eq hstd receipt
  have hmine := callKeys_eq hstd hparsed
  refine meets_ofExcept_bind (ofProtocol_eq_ok.mpr hhash) ?_
  refine Meets.call_bind (fun _ _ _ => trivial) ?_ (fun _ _ _ _ _ hserve => by cases hserve)
  intro t _ duplicate _ _ hserve
  obtain ⟨rfl, hfind⟩ := Prod.mk.inj hserve
  rw [Except.ok.injEq] at hfind
  cases duplicate with
  | some found =>
      obtain ⟨hsaved, hkey⟩ := store.find_some hfind
      exact .done ⟨hsaved, _, hmine, hkey⟩
  | none =>
      refine Meets.bind (meets_findConflict hmine rfl (store.find_none hfind)) ?_ ?_
      · intro u conflict hconflict
        cases conflict with
        | some conflict => exact .done hconflict
        | none => exact meets_verifyAndSave hstd hparsed hmine
      · intro u e h
        exact h.elim

/-! ## Runs -/

variable (ingestor store)

/-- The receipts the finished calls have created. -/
def created (pool : Calls σ) : List ReceiptKeys := Pool.produced createdKeys pool

variable {ingestor store}
variable {pool pool' : Calls σ} {event : Pool.Event IngestCall Empty}

theorem saved_of_step (h : (ingestSystem ingestor store).step pool event pool') :
    (store.saved pool'.shared = store.saved pool.shared ∧
      ∀ {key value found}, store.find key value pool.shared = some found →
        store.find key value pool'.shared = some found) ∨
    ∃ i call snapshot resume, event = .resume i ∧
      pool.calls[i]? = some (call, .await (.save snapshot) resume) ∧
      store.save snapshot pool.shared = .ok pool'.shared := by
  cases h with
  | start c => exact .inl ⟨rfl, id⟩
  | resume hi hserve =>
      rcases serve_cases hserve with rfl | ⟨snapshot, rfl, hsave⟩
      · exact .inl ⟨rfl, id⟩
      · exact .inr ⟨_, _, snapshot, _, rfl, hi, hsave⟩
  | outside h => exact nomatch h

/-- The keys of the saved receipts are distinct, and the finished calls have created them. -/
structure Consistent (ingestor : ReceiptIngestor ν) (store : UniqueReceiptStore σ)
    (pool : Calls σ) : Prop where
  distinct : (store.saved pool.shared).Pairwise (fun a b => a.share b = false)
  createdSaved : (created pool).Perm (store.saved pool.shared)
  programs : ∀ entry ∈ pool.calls, (∃ snapshot, entry.2 = .done (.ok (.created snapshot))) ∨
    CreatesBySave entry.2

theorem pairwise_append_singleton {l : List ReceiptKeys} {keys : ReceiptKeys}
    (h : l.Pairwise (fun a b => a.share b = false)) (hnew : ∀ a ∈ l, a.share keys = false) :
    (l ++ [keys]).Pairwise (fun a b => a.share b = false) := by
  rw [List.pairwise_append]
  refine ⟨h, List.pairwise_singleton _ _, ?_⟩
  intro a ha b hb
  rw [List.mem_singleton.mp hb]
  exact hnew a ha

theorem Consistent.start (h : Consistent ingestor store pool) (call : IngestCall) :
    Consistent ingestor store
      { pool with calls := pool.calls ++ [(call, ingestor.ingest call)] } := by
  refine ⟨h.distinct, ?_, ?_⟩
  · rw [created, Pool.produced_start, (endsAt_ingest call).outcome_eq_none, Option.toList_none,
      List.append_nil]
    exact h.createdSaved
  · intro entry hentry
    rcases List.mem_append.mp hentry with hentry | hentry
    · exact h.programs entry hentry
    · rw [List.mem_singleton.mp hentry]
      exact .inr (endsAt_ingest call)

/-- A call goes on without having created anything. -/
theorem Consistent.reads (h : Consistent ingestor store pool) {i : Nat} {call : IngestCall} {op : Op}
    {resume : Except PayoutError op.Answer → Await ReceiptIngestResult}
    {p : Await ReceiptIngestResult} (hi : pool.calls[i]? = some (call, .await op resume))
    (hp : CreatesBySave p) :
    Consistent ingestor store ⟨pool.shared, pool.calls.set i (call, p)⟩ := by
  refine ⟨h.distinct, ?_, ?_⟩
  · refine (Pool.produced_resume hi).trans ?_
    rw [hp.outcome_eq_none, Option.toList_none, List.append_nil]
    exact h.createdSaved
  · intro entry hentry
    rcases List.mem_or_eq_of_mem_set hentry with hentry | rfl
    · exact h.programs entry hentry
    · exact .inr hp

/-- A call saves its receipt, and is done. -/
theorem Consistent.saves (h : Consistent ingestor store pool) {i : Nat} {call : IngestCall} {op : Op}
    {resume : Except PayoutError op.Answer → Await ReceiptIngestResult} {u : σ}
    {snapshot : ReceiptIngestionSnapshot} (hi : pool.calls[i]? = some (call, .await op resume))
    (hsave : store.save snapshot pool.shared = .ok u) :
    Consistent ingestor store
      ⟨u, pool.calls.set i (call, .done (.ok (.created snapshot)))⟩ := by
  obtain ⟨hnew, hsaved, -⟩ := store.save_ok hsave
  refine ⟨?_, ?_, ?_⟩
  · show (store.saved u).Pairwise _
    rw [hsaved]
    exact pairwise_append_singleton h.distinct hnew
  · show (Pool.produced createdKeys _).Perm (store.saved u)
    rw [hsaved]
    exact (Pool.produced_resume hi).trans (h.createdSaved.append_right [snapshot.keys])
  · intro entry hentry
    rcases List.mem_or_eq_of_mem_set hentry with hentry | rfl
    · exact h.programs entry hentry
    · exact .inl ⟨snapshot, rfl⟩

theorem Consistent.step (h : Consistent ingestor store pool)
    (hstep : (ingestSystem ingestor store).step pool event pool') :
    Consistent ingestor store pool' := by
  cases hstep with
  | start call => exact h.start call
  | @resume i call op resume u answer hi hserve =>
      have hprogram : CreatesBySave (.await op resume) := by
        rcases h.programs _ (List.mem_of_getElem? hi) with ⟨snapshot, hdone⟩ | hprogram
        · cases hdone
        · exact hprogram
      cases hprogram with
      | await hlast hrest =>
          cases op with
          | save snapshot =>
              rw [serve] at hserve
              cases hsave : store.save snapshot pool.shared with
              | ok v =>
                  rw [hsave] at hserve
                  obtain ⟨rfl, rfl⟩ := Prod.mk.inj hserve
                  rw [hlast _ _ rfl]
                  exact h.saves hi hsave
              | error e =>
                  rw [hsave] at hserve
                  obtain ⟨rfl, rfl⟩ := Prod.mk.inj hserve
                  exact h.reads hi (hrest _ rfl)
          | _ =>
              obtain ⟨rfl, rfl⟩ := Prod.mk.inj hserve
              exact h.reads hi (hrest _ rfl)
  | outside h => exact nomatch h

theorem consistent_reachable {ok : Calls σ → Pool.Event IngestCall Empty → Prop}
    (h : (ingestSystem ingestor store).Reachable ok pool) : Consistent ingestor store pool := by
  refine h.invariant ?_ ?_
  · intro pool hinit
    refine ⟨?_, ?_, ?_⟩
    · rw [hinit.1, store.saved_empty]
      exact List.Pairwise.nil
    · rw [hinit.1, store.saved_empty, created, Pool.produced, hinit.2]
      exact List.Perm.refl _
    · rw [hinit.2]
      exact fun entry hentry => nomatch hentry
  · exact fun pool event pool' _ ih _ hstep => ih.step hstep

theorem saved_subset_of_step (h : (ingestSystem ingestor store).step pool event pool') :
    ∀ keys ∈ store.saved pool.shared, keys ∈ store.saved pool'.shared := by
  intro keys hkeys
  rcases saved_of_step h with ⟨hsame, -⟩ | ⟨_, _, snapshot, _, -, -, hsave⟩
  · rw [hsame]
    exact hkeys
  · rw [(store.save_ok hsave).2.1]
    exact List.mem_append_left _ hkeys

theorem hashOf_eq {call : IngestCall} {mine : ReceiptKeys}
    (hmine : callKeys ingestor call = some mine) :
    ingestor.hashOf call = some mine.receiptHash := by
  rw [callKeys, Option.bind_eq_some_iff] at hmine
  obtain ⟨receipt, hparsed, hmine⟩ := hmine
  obtain ⟨receiptHash, hhash, rfl⟩ := Option.map_eq_some_iff.mp hmine
  rw [hashOf, hparsed, Option.bind_some]
  exact hhash

/-- **What the finished calls have answered is true**, when no save overtakes the lookups of a call
for the same receipt. -/
theorem answers_of_reachable (hstd : ingestor.runtime.Standard)
    (h : (ingestSystem ingestor store).Reachable
      (fun pool event => overtakes ingestor store pool event = false) pool)
    {call : IngestCall} {result : Except PayoutError ReceiptIngestResult}
    (hdone : (call, .done result) ∈ pool.calls) : Answers ingestor store call pool.shared result := by
  have hstart : ∀ call s, True →
      MeetsAnswers ingestor store call (Answers ingestor store call) (ingestor.ingest call) s :=
    fun call s _ => meets_ingest hstd call s
  have hmeets := Pool.meets h (fun _ _ => trivial) (fun _ _ _ _ _ _ _ _ => trivial)
    (fun _ _ _ _ _ => trivial) hstart ?_ ?_ ?_ ?_
  · cases hmeets.2 _ hdone with
    | done hanswer => exact hanswer
  · intro c o s t u hst htu
    refine ⟨fun keys hkeys => htu.1 keys (hst.1 keys hkeys), ?_⟩
    intro ho mine hmine hnew
    exact htu.2 ho mine hmine (hst.2 ho mine hmine hnew)
  · exact fun c o s => ⟨fun _ => id, fun _ _ _ => id⟩
  · exact fun c s t r hanswer hrely => hanswer.mono hrely.1
  · intro pool pool' event i call p _ hok hstep _ hi _
    refine ⟨saved_subset_of_step hstep, ?_⟩
    intro ho mine hmine hnew
    rcases saved_of_step hstep with ⟨hsame, -⟩ | ⟨j, other, snapshot, resume, rfl, hj, hsave⟩
    · rw [hsame]
      exact hnew
    · rw [(store.save_ok hsave).2.1]
      intro keys hkeys
      rcases List.mem_append.mp hkeys with hkeys | hkeys
      · exact hnew keys hkeys
      · -- the saved receipt is another one
        rw [List.mem_singleton.mp hkeys]
        intro hsame
        have hovertakes : overtakes ingestor store pool (.resume j) = true := by
          have hentry : pool.calls.any (fun entry =>
              ingestor.hashOf entry.1 == some snapshot.receipt.receiptHash &&
                entry.2.waitsFor.any Op.looksForConflict) = true := by
            refine List.any_eq_true.mpr ⟨(call, p), List.mem_of_getElem? hi, ?_⟩
            rw [Bool.and_eq_true, beq_iff_eq]
            refine ⟨?_, ho⟩
            rw [hashOf_eq hmine, ← hsame]
            rfl
          simp only [overtakes, hj, hsave, hentry, Except.toOption, Option.isSome_some,
            Bool.and_self]
        rw [hovertakes] at hok
        cases hok

/-! ## The theorem -/

/-- The hash tells the receipts of the calls apart. -/
def NoCollision (ingestor : ReceiptIngestor ν) (pool : Calls σ) : Prop :=
  ∀ entry ∈ pool.calls, ∀ entry' ∈ pool.calls, ∀ receipt receipt',
    ingestor.safeParse entry.1 = some receipt → ingestor.safeParse entry'.1 = some receipt' →
    ingestor.runtime.sha256Hex (receiptBytes ingestor.runtime receipt) =
      ingestor.runtime.sha256Hex (receiptBytes ingestor.runtime receipt') →
    receiptBytes ingestor.runtime receipt = receiptBytes ingestor.runtime receipt'

/-- Calls for receipts with one hash are for receipts with the same keys. -/
theorem NoCollision.keys_eq (h : NoCollision ingestor pool) (hstd : ingestor.runtime.Standard)
    {entry entry' : IngestCall × Await ReceiptIngestResult} (hentry : entry ∈ pool.calls)
    (hentry' : entry' ∈ pool.calls) {mine mine' : ReceiptKeys}
    (hmine : callKeys ingestor entry.1 = some mine)
    (hmine' : callKeys ingestor entry'.1 = some mine')
    (hhash : mine.receiptHash = mine'.receiptHash) : mine = mine' := by
  have hparsed : ∀ {call : IngestCall} {mine : ReceiptKeys}, callKeys ingestor call = some mine →
      ∃ receipt, ingestor.safeParse call = some receipt ∧ mine =
        ⟨"sha256:" ++ ingestor.runtime.sha256Hex (receiptBytes ingestor.runtime receipt),
          receipt.receiptId, receipt.paymentId, receipt.settlementTxSignature⟩ := by
    intro call mine hmine
    cases hparsed : ingestor.safeParse call with
    | none =>
        rw [callKeys, hparsed] at hmine
        cases hmine
    | some receipt =>
        rw [callKeys_eq hstd hparsed, Option.some.injEq] at hmine
        exact ⟨receipt, rfl, hmine.symm⟩
  obtain ⟨receipt, hreceipt, rfl⟩ := hparsed hmine
  obtain ⟨receipt', hreceipt', rfl⟩ := hparsed hmine'
  have hbytes := h entry hentry entry' hentry' receipt receipt' hreceipt hreceipt'
    (String.append_right_inj _ |>.mp hhash)
  obtain ⟨hid, hpayment, hsettlement, -⟩ := keys_eq_of_bytes_eq hstd hbytes
  rw [hbytes, hid, hpayment, hsettlement]

/-- The saved receipts with a key in common are one. -/
theorem Consistent.eq_of_share (h : Consistent ingestor store pool) {a b : ReceiptKeys}
    (ha : a ∈ store.saved pool.shared) (hb : b ∈ store.saved pool.shared)
    (hshare : a.share b = true) : a = b := by
  have hsymm : Std.Symm (fun a b : ReceiptKeys => a.share b = false) := by
    refine ⟨fun x y hxy => ?_⟩
    rw [Bool.eq_false_iff] at hxy ⊢
    intro hyx
    obtain ⟨key, hkey⟩ := ReceiptKeys.share_eq_true.mp hyx
    exact hxy (ReceiptKeys.share_eq_true.mpr ⟨key, hkey.symm⟩)
  by_contra hne
  have hfalse := h.distinct.forall ha hb hne
  rw [hshare] at hfalse
  cases hfalse

theorem Consistent.nodup (h : Consistent ingestor store pool) (key : ReceiptKey) :
    ((store.saved pool.shared).map (fun keys => keys.get key)).Nodup := by
  refine List.pairwise_map.mpr (h.distinct.imp ?_)
  intro a b hshare heq
  rw [ReceiptKeys.share_eq_true.mpr ⟨key, heq⟩] at hshare
  cases hshare

/-- Every saved receipt is that of a call that is done and has created it. -/
theorem Consistent.exists_call (h : Consistent ingestor store pool) {keys : ReceiptKeys}
    (hkeys : keys ∈ store.saved pool.shared) : ∃ call snapshot,
      (call, .done (.ok (.created snapshot))) ∈ pool.calls ∧ snapshot.keys = keys := by
  have hcreated := h.createdSaved.mem_iff.mpr hkeys
  obtain ⟨⟨call, p⟩, hentry, houtcome⟩ := List.mem_filterMap.mp hcreated
  cases p with
  | await op resume => cases houtcome
  | done result =>
      cases result with
      | error e => cases houtcome
      | ok result =>
          cases result with
          | created snapshot =>
              injection houtcome with houtcome
              exact ⟨call, snapshot, hentry, houtcome⟩
          | _ => cases houtcome

/-- What exactly-once says of a state: the saved receipts are distinct in each key and are what the
finished calls have created; a finished call that passes its own checks is answered `created` with
its own receipt, `duplicate` when that receipt is saved by another, or `conflict` when it is not
saved and a saved one has one of its keys; and only the key directory and the policy verifier make
a call throw. -/
structure ExactlyOnce (ingestor : ReceiptIngestor ν) (store : UniqueReceiptStore σ)
    (pool : Calls σ) : Prop where
  distinct : ∀ key, ((store.saved pool.shared).map (fun keys => keys.get key)).Nodup
  createdSaved : (created pool).Perm (store.saved pool.shared)
  answered : ∀ call result, (call, .done result) ∈ pool.calls → Passes ingestor call →
    ∃ mine, callKeys ingestor call = some mine ∧
      ((∃ snapshot, result = .ok (.created snapshot) ∧ snapshot.keys = mine ∧
          mine ∈ store.saved pool.shared) ∨
        ((∃ keys ∈ store.saved pool.shared, keys.receiptHash = mine.receiptHash) ∧
          ∃ snapshot, result = .ok (.duplicate snapshot) ∧
            snapshot.receipt.receiptHash = mine.receiptHash) ∨
        ((∀ keys ∈ store.saved pool.shared, keys.receiptHash ≠ mine.receiptHash) ∧
          (∃ keys ∈ store.saved pool.shared, keys.share mine = true) ∧
          ∃ field id, result = .ok (.conflict field id mine.receiptHash)))
  throws : ∀ call e, (call, .done (.error e)) ∈ pool.calls →
    call.merchantPublicKey = .error e ∨ call.policy = .error e

/-- **Ingestion is exactly-once**, however the calls interleave, when no save overtakes another
call's lookups for the same receipt; and what a lookup finds it finds from then on. -/
theorem ingestion_exactly_once (hstd : ingestor.runtime.Standard)
    (h : (ingestSystem ingestor store).Reachable
      (fun pool event => overtakes ingestor store pool event = false) pool)
    (hcollision : NoCollision ingestor pool) :
    ExactlyOnce ingestor store pool ∧
      ∀ pool', (ingestSystem ingestor store).Run (fun _ _ => True) pool pool' →
        ∀ key value found, store.find key value pool.shared = some found →
          store.find key value pool'.shared = some found := by
  have hconsistent := consistent_reachable h
  refine ⟨⟨hconsistent.nodup, hconsistent.createdSaved, ?_, ?_⟩, ?_⟩
  · intro call result hdone hpasses
    have hanswer := answers_of_reachable hstd h hdone
    cases result with
    | error e =>
        -- a call that passes is not stopped by the directory or the policy
        obtain ⟨⟨_, _, _, _, hkey, _⟩, policy, hpolicy, _⟩ := hpasses
        rcases hanswer with he | he
        · rw [he] at hkey
          cases hkey
        · rw [he] at hpolicy
          cases hpolicy
    | ok result =>
        cases result with
        | created snapshot =>
            exact ⟨snapshot.keys, hanswer.1, .inl ⟨snapshot, rfl, rfl, hanswer.2⟩⟩
        | duplicate snapshot =>
            obtain ⟨hsaved, mine, hmine, hhash⟩ := hanswer
            exact ⟨mine, hmine, .inr (.inl ⟨⟨snapshot.keys, hsaved, hhash⟩, snapshot, rfl, hhash⟩)⟩
        | conflict field id receiptHash =>
            obtain ⟨mine, hmine, rfl, keys, hkeys, hne, -, hshare⟩ := hanswer
            have hshares : keys.share mine = true := ReceiptKeys.share_eq_true.mpr ⟨_, hshare⟩
            refine ⟨mine, hmine, .inr (.inr ⟨?_, ⟨keys, hkeys, hshares⟩, field, id, rfl⟩)⟩
            -- were the call's receipt saved, it would be the one found
            intro other hother hhash
            obtain ⟨caller, snapshot, hcaller, rfl⟩ := hconsistent.exists_call hother
            have hown := (answers_of_reachable hstd h hcaller).1
            have hsame := hcollision.keys_eq hstd hcaller hdone hown hmine hhash
            rw [← hsame] at hshares
            have heq := hconsistent.eq_of_share hkeys hother hshares
            exact hne (by rw [heq, hhash])
        | rejected errors => exact absurd hpasses hanswer
  · intro call e hdone
    exact answers_of_reachable hstd h hdone
  · intro pool' hrun key value found hfound
    refine hrun.invariant (P := fun pool => store.find key value pool.shared = some found) hfound ?_
    intro s i s' hs _ hstep
    rcases saved_of_step hstep with ⟨-, hkept⟩ | ⟨_, _, snapshot, _, -, -, hsave⟩
    · exact hkept hs
    · exact (store.save_ok hsave).2.2 hs

/-! ## Two submissions of one sale -/

/-- The calls of a schedule over the plain store. -/
def scheduled (schedule : List (Pool.Event IngestCall Empty)) :
    Calls (List ReceiptIngestionSnapshot) :=
  schedule.foldl (Pool.advance (serve rowStore) (fun _ nothing => nomatch nothing)
    sampleIngestor.ingest) ⟨rowStore.empty, []⟩

/-- Every event of the schedule can happen and is accepted. -/
def admits (accept : Calls (List ReceiptIngestionSnapshot) → Pool.Event IngestCall Empty → Bool)
    (schedule : List (Pool.Event IngestCall Empty)) : Bool :=
  System.admittedAlong (Pool.advance (serve rowStore) (fun _ nothing => nomatch nothing)
      sampleIngestor.ingest)
    (fun pool event => Pool.canAdvance (fun _ nothing => nomatch nothing) pool event &&
      accept pool event) ⟨rowStore.empty, []⟩ schedule

theorem scheduled_reachable {schedule : List (Pool.Event IngestCall Empty)}
    {accept : Calls (List ReceiptIngestionSnapshot) → Pool.Event IngestCall Empty → Bool}
    (h : admits accept schedule = true) :
    (ingestSystem sampleIngestor rowStore).Reachable (fun pool event => accept pool event = true)
      (scheduled schedule) := by
  unfold ingestSystem scheduled
  refine Pool.reachable_of_schedule ?_ ?_ ?_ h
  · exact fun _ _ _ _ _ => id
  · exact fun _ nothing => nomatch nothing
  · rfl

/-- The sale is submitted twice, the second time after the first. -/
def oneAfterTheOther : List (Pool.Event IngestCall Empty) :=
  [.start (sampleCall Sample.freeSale), .resume 0, .resume 0, .resume 0, .resume 0, .resume 0,
    .resume 0, .resume 0, .start (sampleCall Sample.freeSale), .resume 1]

/-- The sale is submitted twice at once; the first call saves it between two lookups of the
second. -/
def overtaking : List (Pool.Event IngestCall Empty) :=
  [.start (sampleCall Sample.freeSale), .start (sampleCall Sample.freeSale), .resume 0, .resume 1,
    .resume 0, .resume 0, .resume 0, .resume 0, .resume 0, .resume 0, .resume 1]

theorem calls_scheduled {schedule : List (Pool.Event IngestCall Empty)}
    (h : ∀ c ∈ schedule.filterMap Pool.Event.started, c = sampleCall Sample.freeSale)
    {entry : IngestCall × Await ReceiptIngestResult} (hentry : entry ∈ (scheduled schedule).calls) :
    entry.1 = sampleCall Sample.freeSale := by
  have hmem := List.mem_map_of_mem (f := Prod.fst) hentry
  rw [scheduled, Pool.calls_foldl_advance] at hmem
  exact h _ hmem

theorem sample_noCollision {schedule : List (Pool.Event IngestCall Empty)}
    (h : ∀ c ∈ schedule.filterMap Pool.Event.started, c = sampleCall Sample.freeSale) :
    NoCollision sampleIngestor (scheduled schedule) := by
  intro entry hentry entry' hentry' receipt receipt' hreceipt hreceipt' _
  rw [calls_scheduled h hentry] at hreceipt
  rw [calls_scheduled h hentry', hreceipt, Option.some.injEq] at hreceipt'
  rw [hreceipt']

theorem sampleCall_passes : Passes sampleIngestor (sampleCall Sample.freeSale) where
  verified := by
    have hparsed : sampleIngestor.safeParse (sampleCall Sample.freeSale) = some Sample.freeSale :=
      Option.filter_eq_some_iff.mpr ⟨rfl, Sample.freeSale_schema⟩
    exact ⟨_, _, _, hparsed, rfl, Sample.freeSale_verifies, rfl⟩
  policy := ⟨none, rfl, rfl⟩

/-- The call has been answered a conflict. -/
def conflicts (entry : IngestCall × Await ReceiptIngestResult) : Bool :=
  match entry.2 with
  | .done (.ok (.conflict _ _ _)) => true
  | _ => false

/-- The two schedules, run once. -/
theorem submissions_scheduled :
    (admits (fun pool event => !overtakes sampleIngestor rowStore pool event) oneAfterTheOther &&
      admits (fun _ _ => true) overtaking && (scheduled overtaking).calls.any conflicts &&
      (sampleIngestor.callKeys (sampleCall Sample.freeSale)).all
        (fun mine => (rowStore.saved (scheduled overtaking).shared).contains mine)) = true := by
  decide +kernel

theorem ingestion_exactly_once_oneAfterTheOther :
    ExactlyOnce sampleIngestor rowStore (scheduled oneAfterTheOther) := by
  have hcomputed := submissions_scheduled
  simp only [Bool.and_eq_true] at hcomputed
  have hreachable := (scheduled_reachable hcomputed.1.1.1).mono
    fun _ _ h => (Bool.not_eq_true' _).mp h
  exact (ingestion_exactly_once Sample.saleRuntime_standard hreachable
    (sample_noCollision (by simp [oneAfterTheOther, Pool.Event.started]))).1

/-- A call whose receipt another saves between its lookups is answered a conflict with it. -/
theorem not_ingestion_exactly_once :
    ¬ ∀ pool, (ingestSystem sampleIngestor rowStore).Reachable (fun _ _ => True) pool →
      NoCollision sampleIngestor pool → ExactlyOnce sampleIngestor rowStore pool := by
  intro h
  have hcomputed := submissions_scheduled
  simp only [Bool.and_eq_true] at hcomputed
  obtain ⟨⟨⟨-, hadmits⟩, hany⟩, hsaved⟩ := hcomputed
  have hstarted : ∀ c ∈ overtaking.filterMap Pool.Event.started, c = sampleCall Sample.freeSale := by
    simp [overtaking, Pool.Event.started]
  have hreachable := (scheduled_reachable hadmits).mono fun _ _ _ => trivial
  have honce := h _ hreachable (sample_noCollision hstarted)
  obtain ⟨⟨call, p⟩, hentry, hconflicts⟩ := List.any_eq_true.mp hany
  obtain rfl : call = sampleCall Sample.freeSale := calls_scheduled hstarted hentry
  cases p with
  | await op resume => cases hconflicts
  | done result =>
      obtain ⟨mine, hmine, ⟨snapshot, rfl, -⟩ | ⟨-, snapshot, rfl, -⟩ | ⟨hnew, -⟩⟩ :=
        honce.answered _ _ hentry sampleCall_passes
      · cases hconflicts
      · cases hconflicts
      · -- its receipt is saved all the same
        rw [hmine, Option.all_some, List.contains_iff_mem] at hsaved
        exact hnew mine hsaved rfl

end ReceiptIngestor

end Split402

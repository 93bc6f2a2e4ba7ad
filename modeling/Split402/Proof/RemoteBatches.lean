import Split402.Proof.RemoteSigner

/-! # Batches through the appliance

The delegate of an appliance has the transaction of a batch with one item signed, and none of a larger
batch. Whatever the appliance signs is one transfer that a holder of one of its keys has asked for. -/

namespace Split402

open Base SolanaPlan PayoutSignerApp

variable {ν : Type}

section Pair

variable {appliance : Appliance ν} {policy : SolanaPayoutSignerPolicy}
  {options : RemoteSigner.Options} {key : PayoutSignerAuthKey} {now : Int}

/-! ## The delegate -/

/-- What the delegate of this appliance does. -/
def delegateOf (appliance : Appliance ν) (policy : SolanaPayoutSignerPolicy)
    (options : RemoteSigner.Options) (now : Int) : SolanaPayoutTransactionSigningDelegate :=
  RemoteSigner.createRemoteSolanaPayoutSigningDelegate appliance.runtime appliance.numbers
    appliance.host appliance.hmac appliance.library policy options fun request =>
      .ok (respond appliance now request)

/-- The appliance answers with a success when it has signed. -/
theorem fetch_eq_ok {request : RemoteSignerRequest ν} {body : RpcJson ν} :
    RemoteSigner.fetchRemoteSigner (fun request => .ok (respond appliance now request)) request =
      .ok body ↔ signPayout appliance now request = .ok body := by
  unfold RemoteSigner.fetchRemoteSigner
  dsimp only
  unfold respond
  cases hsign : signPayout appliance now request with
  | ok signed =>
      dsimp only
      rw [if_pos (by decide), pure_eq_ok, Except.ok.injEq]
  | error error =>
      have hcode : ¬ (200 ≤ (readSignerErrorResponse error).1 ∧
          (readSignerErrorResponse error).1 < 300) := by
        cases error with
        | unauthorized message => exact fun h => absurd h.2 (by decide : ¬ 401 < 300)
        | forbidden message => exact fun h => absurd h.2 (by decide : ¬ 403 < 300)
        | invalidRequest message => exact fun h => absurd h.2 (by decide : ¬ 400 < 300)
        | other message => exact fun h => absurd h.2 (by decide : ¬ 500 < 300)
      dsimp only
      rw [if_neg hcode]
      refine iff_of_false throw_ne_ok ?_
      intro h
      cases h

theorem ne_empty_of_trimmed {s : String} (h : isBlank s = false) : s ≠ "" := by
  intro hempty
  rw [hempty] at h
  cases h

/-- The delegate takes the answer of the appliance. -/
theorem readResponse_eq_ok (hstd : appliance.Standard) {signed signature : String}
    (hbase64 : isBase64 signed = true) (hblank : isBlank signature = false) :
    RemoteSigner.readRemoteSignerResponse appliance.numbers
      (.record [("transactionIndex", some (.number (appliance.runtime.ofNat 0))),
        ("signedTransactionBase64", some (.string signed)),
        ("expectedSignature", some (.string signature))]) 0 = .ok ⟨signed, some signature⟩ := by
  have hindex : RemoteSigner.readOptionalInteger appliance.numbers
      (some (.number (appliance.runtime.ofNat 0))) "transactionIndex" = .ok (some 0) := by
    show some <$> Split402.readInteger appliance.numbers _ _ = _
    rw [Split402.readInteger]
    rw [hstd.whole 0 (by omega)]
    rfl
  have hsigned : Split402.readRequiredString (some (.string signed : RpcJson ν))
      "signedTransactionBase64" = .ok signed := by
    rw [Split402.readRequiredString, if_neg (ne_empty_of_trimmed (trimmed_of_isBase64 hbase64).1)]
    rfl
  have hsignature : RemoteSigner.readExpectedSignature (some (.string signature : RpcJson ν)) =
      .ok (some signature) := by
    show some <$> Split402.readRequiredString _ _ = _
    rw [Split402.readRequiredString, if_neg (ne_empty_of_trimmed hblank)]
    rfl
  have htransaction := assertBase64_of hbase64 "signedTransactionBase64"
  exact bind_eq_ok.mpr ⟨_, rfl, bind_eq_ok.mpr ⟨_, hindex, bind_eq_ok.mpr ⟨(), rfl,
    bind_eq_ok.mpr ⟨_, hsigned, bind_eq_ok.mpr ⟨_, htransaction, bind_eq_ok.mpr ⟨_, hsignature,
      rfl⟩⟩⟩⟩⟩⟩

section Transaction

variable {planning : CreateSolanaPayoutTransactionPlanInput} {plan : SolanaPayoutTransactionPlan}
  {hash : String} {input : SolanaPayoutTransactionSigningDelegateInput}
  {message : DecodedSolanaTransactionMessage}

theorem guard_eq_of_carriesOut {library : SolanaLibrary} {planned : SolanaPayoutPlannedTransaction}
    {transactionBase64 : String}
    (hdecode : decodeSolanaTransactionMessageBytes library transactionBase64 = .ok message)
    (hcarries : CarriesOut library policy planned message) :
    assertSolanaPayoutTransactionBytesMatchPlan library policy transactionBase64 planned = .ok () := by
  obtain ⟨result, hresult, hok⟩ := verified_of_carriesOut hdecode hcarries
  unfold assertSolanaPayoutTransactionBytesMatchPlan
  rw [hresult]
  show (if result.ok = true then pure () else throw _ : Except String Unit) = .ok ()
  rw [if_pos hok]
  rfl

/-- The appliance signs the transaction of a batch with one item. -/
theorem signPayout_of_single (hstd : appliance.Standard)
    (hpaired : Paired appliance policy options key now)
    (hplan : PlanOf appliance.library planning plan)
    (hpolicy : PolicyOf appliance.library policy plan hash)
    (hhash : hashSolanaPayoutDestinationAmountList appliance.runtime plan = .ok hash)
    (hinput : InputOf policy plan hash input) (hsingle : Single plan)
    (hbytes : IsBase64Text input.transactionBase64)
    (hdecode : decodeSolanaTransactionMessageBytes appliance.library input.transactionBase64 =
      .ok message)
    (hcarries : CarriesOut appliance.library policy input.plannedTransaction message) :
    ∃ signed signature, signPayout appliance now (RemoteSigner.requestOf appliance.runtime
        appliance.numbers appliance.host appliance.hmac policy options input) = .ok (.record
          [("transactionIndex", some (.number (appliance.runtime.ofNat 0))),
            ("signedTransactionBase64", some (.string signed)),
            ("expectedSignature", some (.string signature))]) ∧
      isBase64 signed = true ∧ isBlank signature = false := by
  have hchecked := checked_of_single hstd hpaired hplan hpolicy hhash hinput hsingle hbytes hdecode
    hcarries
  obtain ⟨-, messageBytes, hdecoded⟩ := isBase64_of_decodes hdecode
  obtain ⟨signed, signature, hsigned, hbase64, hblank⟩ := hstd.signs _ _ hdecoded
  refine ⟨signed, signature, ?_, hbase64, hblank⟩
  refine bind_eq_ok.mpr ⟨_, hchecked, bind_eq_ok.mpr ⟨(signed, signature), ?_, ?_⟩⟩
  · exact ofControlPlane_eq_ok.mpr hsigned
  · show _ = Except.ok (RpcJson.record _)
    rw [← hsingle.index hplan hinput.transaction]
    rfl

/-- The delegate has the transaction of a batch with one item signed. -/
theorem delegateOf_of_single (hstd : appliance.Standard)
    (hpaired : Paired appliance policy options key now)
    (hplan : PlanOf appliance.library planning plan)
    (hpolicy : PolicyOf appliance.library policy plan hash)
    (hhash : hashSolanaPayoutDestinationAmountList appliance.runtime plan = .ok hash)
    (hinput : InputOf policy plan hash input) (hsingle : Single plan)
    (hbytes : IsBase64Text input.transactionBase64)
    (hdecode : decodeSolanaTransactionMessageBytes appliance.library input.transactionBase64 =
      .ok message)
    (hcarries : CarriesOut appliance.library policy input.plannedTransaction message) :
    ∃ signed signature, delegateOf appliance policy options now input = .ok ⟨signed, some signature⟩ ∧
      isBase64 signed = true ∧ isBlank signature = false := by
  obtain ⟨signed, signature, hanswer, hbase64, hblank⟩ := signPayout_of_single hstd hpaired hplan
    hpolicy hhash hinput hsingle hbytes hdecode hcarries
  refine ⟨signed, signature, ?_, hbase64, hblank⟩
  refine bind_eq_ok.mpr ⟨(), ?_, bind_eq_ok.mpr ⟨(), ?_, bind_eq_ok.mpr ⟨_, fetch_eq_ok.mpr hanswer,
    ?_⟩⟩⟩
  · exact require_eq_ok.mpr (decide_eq_true (hinput.signerReference.trans hpaired.delegate))
  · exact guard_eq_of_carriesOut hdecode hcarries
  · rw [hsingle.index hplan hinput.transaction]
    exact readResponse_eq_ok hstd hbase64 hblank

end Transaction

/-! ## Batches -/

/-- The bytes are those of a transaction that does what the plan says. -/
def Faithful (library : SolanaLibrary) (policy : SolanaPayoutSignerPolicy)
    (planned : SolanaPayoutPlannedTransaction) (transactionBase64 : String) : Prop :=
  IsBase64Text transactionBase64 ∧ ∃ message,
    decodeSolanaTransactionMessageBytes library transactionBase64 = .ok message ∧
      CarriesOut library policy planned message

section Batch

variable {planning : CreateSolanaPayoutTransactionPlanInput} {plan : SolanaPayoutTransactionPlan}
  {hash : String} {serialized : List SolanaSerializedPayoutTransaction}

theorem exists_mapM_iff {α β : Type} {f : α → Except String β} {xs : List α} :
    (∃ ys, xs.mapM f = .ok ys) ↔ ∀ x ∈ xs, ∃ y, f x = .ok y := by
  simp only [mapM_eq_ok_iff]
  induction xs with
  | nil => simp
  | cons x xs ih =>
      simp only [List.forall₂_cons_left_iff, List.forall_mem_cons, ← ih]
      constructor
      · intro ⟨_, y, ys, hy, hys, _⟩
        exact ⟨⟨y, hy⟩, ys, hys⟩
      · intro ⟨⟨y, hy⟩, ys, hys⟩
        exact ⟨y :: ys, y, ys, hy, hys, rfl⟩

/-- The amounts of the items of a plan are read. -/
theorem PlanOf.sum (hstd : appliance.Standard) (hplan : PlanOf appliance.library planning plan)
    {transaction : SolanaPayoutPlannedTransaction} (hmem : transaction ∈ plan.transactions) :
    sumPlannedTransactionAmount transaction = .ok (plannedAmount transaction.items) := by
  have hread : ∀ item ∈ transaction.items, ∃ amount, readBigInt item.amountAtomic = .ok amount := by
    intro item hitem
    obtain ⟨n, hn⟩ := (hplan.writtenItem hstd (List.mem_flatMap.mpr ⟨_, hmem, hitem⟩)).1.amount
    exact ⟨n, readBigInt_eq_ok.mpr hn⟩
  obtain ⟨amounts, hamounts⟩ := exists_mapM_iff.mpr hread
  refine bind_eq_ok.mpr ⟨amounts, hamounts, ?_⟩
  rw [pure_eq_ok, plannedAmount_eq_sum hamounts]

/-- One round of the signer succeeds exactly for a batch with one item. -/
theorem signPlanned_iff (hstd : appliance.Standard)
    (hdetermines : HashDetermines appliance.runtime (plan.destinationAmountList appliance.runtime))
    (hpaired : Paired appliance policy options key now)
    (hplan : PlanOf appliance.library planning plan)
    (hpolicy : PolicyOf appliance.library policy plan hash)
    (hhash : hashSolanaPayoutDestinationAmountList appliance.runtime plan = .ok hash)
    {transaction : SolanaPayoutPlannedTransaction} (hmem : transaction ∈ plan.transactions)
    {found : SolanaSerializedPayoutTransaction}
    (hfind : serialized.find? (·.index = transaction.index) = some found)
    (hfaithful : Faithful appliance.library policy transaction found.transactionBase64) :
    (∃ signed, signPlannedTransaction policy plan (delegateOf appliance policy options now) hash
      serialized transaction = .ok signed) ↔ Single plan := by
  obtain ⟨hbytes, message, hdecode, hcarries⟩ := hfaithful
  have hsum := hplan.sum hstd hmem
  unfold signPlannedTransaction
  rw [hfind]
  dsimp only
  constructor
  · intro ⟨signed, h⟩
    obtain ⟨amount, hamount, h⟩ := bind_eq_ok.mp h
    obtain ⟨result, hresult, -⟩ := bind_eq_ok.mp h
    rw [hsum, Except.ok.injEq] at hamount
    obtain ⟨_, -, hresult⟩ := bind_eq_ok.mp hresult
    obtain ⟨_, -, hresult⟩ := bind_eq_ok.mp hresult
    obtain ⟨body, hbody, -⟩ := bind_eq_ok.mp hresult
    obtain ⟨signRequest, hchecked, -⟩ := bind_eq_ok.mp (fetch_eq_ok.mp hbody)
    exact single_of_checked hstd hdetermines hplan hhash
      ⟨rfl, rfl, rfl, rfl, hmem, congrArg serializeAtomicAmount hamount.symm⟩ hcarries hchecked
  · intro hsingle
    have hinput : InputOf policy plan hash
        { batchId := plan.batchId
          network := plan.network
          signerReference := policy.signerReference
          destinationAmountListHash := hash
          plannedTransaction := transaction
          transactionBase64 := found.transactionBase64
          amountAtomic := serializeAtomicAmount (plannedAmount transaction.items) } :=
      ⟨rfl, rfl, rfl, rfl, hmem, rfl⟩
    obtain ⟨signed, signature, hresult, hbase64, hblank⟩ := delegateOf_of_single hstd hpaired hplan
      hpolicy hhash hinput hsingle hbytes hdecode hcarries
    refine ⟨⟨transaction.index, signed, some signature⟩, bind_eq_ok.mpr ⟨_, hsum, ?_⟩⟩
    refine bind_eq_ok.mpr ⟨⟨signed, some signature⟩, hresult, ?_⟩
    refine bind_eq_ok.mpr ⟨signed, assertBase64_of hbase64 _, ?_⟩
    exact bind_eq_ok.mpr ⟨some signature, map_eq_ok.mpr ⟨signature, assertNonEmpty_of hblank _, rfl⟩, rfl⟩

/-- Every transaction of the plan has been submitted. -/
theorem exists_submitted {submission : SignSolanaPayoutTransactionsInput}
    (hread : readSerializedPayoutTransactions submission = .ok serialized)
    {transaction : SolanaPayoutPlannedTransaction} (hmem : transaction ∈ submission.plan.transactions) :
    ∃ found ∈ submission.transactions, found.index = transaction.index ∧
      serialized.find? (·.index = transaction.index) = some found := by
  obtain ⟨hserialized, hnodup, hindexes, hlength⟩ := readSerialized_eq_ok hread
  subst hserialized
  have hsubset : submission.transactions.map (·.index) ⊆
      submission.plan.transactions.map (·.index) := by
    intro index hindex
    obtain ⟨submitted, hsubmitted, rfl⟩ := List.mem_map.mp hindex
    exact hindexes submitted hsubmitted
  have hperm := (List.subperm_of_subset hnodup hsubset).perm_of_length_le
    (by rw [List.length_map, List.length_map, hlength])
  obtain ⟨submitted, hsubmitted, hsame⟩ := List.mem_map.mp
    (hperm.mem_iff.mpr (List.mem_map_of_mem hmem))
  cases hfind : submission.transactions.find? (·.index = transaction.index) with
  | none => exact absurd (decide_eq_true hsame) (List.find?_eq_none.mp hfind submitted hsubmitted)
  | some found =>
      have hfound := List.find?_some hfind
      exact ⟨found, List.mem_of_find?_eq_some hfind, of_decide_eq_true hfound, rfl⟩

theorem single_iff (hstd : appliance.Standard) (hplan : PlanOf appliance.library planning plan)
    (hne : plan.transactions ≠ []) :
    Single plan ↔ planning.batch.items.length ≤ 1 ∧
      ∀ item ∈ planning.batch.items, Trimmed planning.batch.id ∧ Trimmed item.id := by
  have hlength : planning.batch.items.length = (plan.transactions.flatMap (·.items)).length :=
    hplan.items.length_eq
  obtain ⟨transaction, htransaction⟩ := List.exists_mem_of_ne_nil _ hne
  obtain ⟨some', hsome⟩ := List.exists_mem_of_ne_nil _ (hplan.nonempty transaction htransaction)
  have hpos := List.length_pos_of_mem (List.mem_flatMap.mpr ⟨_, htransaction, hsome⟩)
  constructor
  · intro h
    refine ⟨by rw [hlength, h.one], ?_⟩
    intro record hrecord
    obtain ⟨item, hitem, hplanned⟩ := exists_left_of_mem hplan.items.flip hrecord
    refine ⟨hplan.batchId ▸ h.batchId, ?_⟩
    rw [← (writtenItem_of_planned hstd hplanned).2]
    exact h.itemIds item hitem
  · intro ⟨hle, hids⟩
    have hone : (plan.transactions.flatMap (·.items)).length = 1 := by
      rw [← hlength] at hpos ⊢
      omega
    refine ⟨hone, ?_, ?_⟩
    · obtain ⟨-, record, hrecord, -⟩ := hplan.writtenItem hstd
        (List.mem_flatMap.mpr ⟨_, htransaction, hsome⟩)
      rw [hplan.batchId]
      exact (hids record hrecord).1
    · intro item hitem
      obtain ⟨-, record, hrecord, hid⟩ := hplan.writtenItem hstd hitem
      rw [hid]
      exact (hids record hrecord).2

end Batch

end Pair

namespace Vault

def wallet : String := "GmaDrppBC7P5ARKV8g3djiwP89vz1jLK23V2GBjuAEGB"

/-- Without the signature, and with it. -/
def transactionChars : List Char :=
  "AQ".toList ++ Payday.zeros 85 ++ "BAAIF6kpsY+KcUgq+9VB7Ey7F+ZVHdq6+vnuSQh7qaRRG0iw".toList ++
    Payday.zeros 42 ++ 'g' :: Payday.zeros 41 ++ 'E' :: Payday.zeros 42 ++
    "MG3fbh12Whk9nL4UbO63msHLSF7V9bN5E6jPWFfv8AqQ".toList ++ Payday.zeros 43 ++
    "QQEAQMCAAoMYK4KAAAAAAAG".toList

def signedChars : List Char :=
  "AZ0fHngwG7ixbI07em1n9prnmtVKKfCvxsCGK7wTE0iecki0PHN3Fcwe91f3ZKcCq6UUYtOmenp9M5ZNrV9qfgQB".toList ++
    "AAIF6kpsY+KcUgq+9VB7Ey7F+ZVHdq6+vnuSQh7qaRRG0iw".toList ++ Payday.zeros 42 ++
    'g' :: Payday.zeros 41 ++ 'E' :: Payday.zeros 42 ++
    "MG3fbh12Whk9nL4UbO63msHLSF7V9bN5E6jPWFfv8AqQ".toList ++ Payday.zeros 43 ++
    "QQEAQMCAAoMYK4KAAAAAAAG".toList

def transaction : String := String.ofList transactionChars

def signed : String := String.ofList signedChars

def signature : String :=
  "49CYfDgd2YrYfqcs6B394vCLWUXtm2bnMcyGHGCZop4tXGLQ86pCSZUfX6dcJz55Gzh6TcZmUPFYMrnzEHLydedh"

def input : CreateSolanaPayoutTransactionPlanInput :=
  { Payday.input with
    batch :=
      { Payday.input.batch with
        totalAmountAtomic := "700000"
        itemCount := 1
        accrualCount := 1
        items := [Payday.item "itm_1" Payday.firstAccount "700000"] }
    fundingWallet := wallet }

def planned : SolanaPayoutPlannedTransaction :=
  ⟨0, [⟨"itm_1", Payday.firstAccount, Payday.firstAccount, "700000", false⟩], [.transferChecked
    ⟨SOLANA_TOKEN_PROGRAM_ID, Payday.source, Payday.mint, Payday.firstAccount, wallet, "700000", 6,
      "itm_1"⟩]⟩

def plan : SolanaPayoutTransactionPlan :=
  ⟨"pay_1", "solana:devnet", Payday.mint, SOLANA_TOKEN_PROGRAM_ID, 6, wallet, Payday.source, "700000",
    1, 1, [planned]⟩

def policy : SolanaPayoutSignerPolicy :=
  { Payday.policy with
    signerReference := "vault:payday"
    fundingWallet := wallet
    maxBatchAmountAtomic := some "700000" }

def listBytes : ByteArray :=
  (plan.destinationAmountList Sample.saleRuntime).bytes Sample.saleRuntime

def planDigest : String := "c109040ccfe74c59a8f28140d9b9e366041af513a6c1b2bec14ba97f450fd476"

/-- The digest of the list of the plan is known. -/
def digest (bytes : ByteArray) : String :=
  if bytes = listBytes then planDigest else String.ofList (List.replicate 64 '0')

def simulation : SolanaPayoutSimulationReport :=
  ⟨"pay_1", "solana:devnet", .succeeded, [⟨0, .succeeded⟩]⟩

def runtime : Runtime Whole := { Sample.saleRuntime with sha256Hex := digest }

def hash : String := "sha256:" ++ planDigest

def numbers : RpcNumbers Whole where
  toInteger n := match n with
    | .nat n => some n
    | .negativeZero => some 0
    | .nan => none
  text n := match n with
    | .nat n => toString n
    | .negativeZero => "0"
    | .nan => "null"

def key : PayoutSignerAuthKey where
  keyId := ⟨"default", by decide⟩
  sharedSecret := ⟨"payday-secret", by decide⟩
  status := .active

/-- It knows the keyed hash of one request, and signs one transaction. -/
def appliance : Appliance Whole where
  runtime := runtime
  numbers := numbers
  library :=
    { Payday.library with
      isAddress := fun value => base58Regex value && Payday.library.isAddress value }
  host := isoHost
  hmac _ _ := "78fd6c05e91b535c658c74df2d83df4fa8dfb883a795929f106db42bde80d276"
  config :=
    { signerReference := ⟨"vault:payday", by decide⟩
      network := ⟨"solana:devnet", by decide⟩
      expectedFundingWallet := ⟨wallet, by decide⟩
      authKeys := ⟨[key], List.nodup_singleton _, key, List.mem_singleton_self key, rfl⟩
      signatureToleranceSeconds := 300 }
  signTransaction _ := .ok (signed, signature)

def options : RemoteSigner.Options := ⟨"vault:payday", some "default", some "payday-secret", 1767225600000⟩

/-! It is as documented. -/

def message : DecodedSolanaTransactionMessage :=
  ⟨1, [wallet, Payday.source, Payday.firstAccount, Payday.mint, SOLANA_TOKEN_PROGRAM_ID],
    [⟨4, [1, 3, 2, 0], [12, 0x60, 0xae, 0x0a, 0, 0, 0, 0, 0, 6]⟩], 0⟩

def base64Chars (chars : List Char) : List Char :=
  let text := (Base.Base64.encode ((bufferFromBase64 chars).map UInt8.toNat)).map base64Char
  padEnd text (text.length + (4 - text.length % 4) % 4)

-- One evaluation for all of them: the terms share what they unfold to.
theorem computed :
    ((Payday.isBase64Chars transactionChars ∧ Payday.isBase64Chars signedChars) ∧
      (bufferFromBase64 transactionChars ≠ [] ∧ base64Chars transactionChars = transactionChars) ∧
      Payday.decodeChars transactionChars = .ok message) ∧
    (createSolanaPayoutTransactionPlan appliance.library input = .ok plan ∧
      assertPayoutSignerPolicy appliance.library policy plan hash (some simulation) = .ok () ∧
      appliance.library.isAddress wallet = true ∧
      serializeAtomicAmount (plannedAmount planned.items) = "700000") ∧
    (sha256Regex hash = true ∧
      sha256Regex ("sha256:" ++ String.ofList (List.replicate 64 '0')) = true ∧
      String.ofList (List.replicate 64 '0') ≠ planDigest ∧
      (appliance.hmac "" "").toList.all isLowerHex = true) ∧
    (isoHost.toISOString options.clock = "2026-01-01T00:00:00.000Z" ∧
      isoHost.dateParse "2026-01-01T00:00:00.000Z" = some options.clock) ∧
    base58Chars.all (fun c => !isJsWhitespace c) = true := by
  decide +kernel

theorem transaction_computed :
    (Payday.isBase64Chars transactionChars ∧ Payday.isBase64Chars signedChars) ∧
      (bufferFromBase64 transactionChars ≠ [] ∧ base64Chars transactionChars = transactionChars) ∧
      Payday.decodeChars transactionChars = .ok message := computed.1

theorem plan_computed :
    createSolanaPayoutTransactionPlan appliance.library input = .ok plan ∧
      assertPayoutSignerPolicy appliance.library policy plan hash (some simulation) = .ok () ∧
      appliance.library.isAddress wallet = true ∧
      serializeAtomicAmount (plannedAmount planned.items) = "700000" := computed.2.1

theorem digests_computed :
    sha256Regex hash = true ∧
      sha256Regex ("sha256:" ++ String.ofList (List.replicate 64 '0')) = true ∧
      String.ofList (List.replicate 64 '0') ≠ planDigest ∧
      (appliance.hmac "" "").toList.all isLowerHex = true := computed.2.2.1

theorem clock_computed :
    isoHost.toISOString options.clock = "2026-01-01T00:00:00.000Z" ∧
      isoHost.dateParse "2026-01-01T00:00:00.000Z" = some options.clock := computed.2.2.2.1

theorem base58_computed : base58Chars.all (fun c => !isJsWhitespace c) = true := computed.2.2.2.2

theorem trimmed_of_base58 {s : String} (h : base58Regex s = true) : Trimmed s := by
  have hletter : ∀ c ∈ base58Alphabet, isJsWhitespace c = false := by
    intro c hc
    rw [base58Alphabet_eq] at hc
    simpa using List.all_eq_true.mp base58_computed c hc
  simp only [base58Regex, Bool.and_eq_true, decide_eq_true_eq, List.all_eq_true] at h
  obtain ⟨⟨hlength, -⟩, hchars⟩ := h
  refine trimmed_of_no_whitespace ?_ fun c hc => hletter c (hchars c hc)
  intro hnil
  rw [hnil, List.length_nil] at hlength
  omega

theorem digest_eq {bytes : ByteArray} (h : bytes = listBytes) : digest bytes = planDigest := by
  rw [digest, if_pos h]

theorem digest_ne {bytes : ByteArray} (h : bytes ≠ listBytes) : digest bytes ≠ planDigest := by
  obtain ⟨-, -, hne, -⟩ := digests_computed
  rw [digest, if_neg h]
  exact hne

theorem runtime_digest (bytes : ByteArray) : appliance.runtime.sha256Hex bytes = digest bytes := rfl

theorem appliance_standard : appliance.Standard where
  runtime := ⟨wholeNumbers_standard, fun _ => rfl⟩
  whole _ _ := rfl
  digest bytes := by
    obtain ⟨hplan, hother, -⟩ := digests_computed
    rw [runtime_digest]
    by_cases h : bytes = listBytes
    · rw [digest_eq h]
      exact hplan
    · rw [digest, if_neg h]
      exact hother
  hmac _ _ := by
    obtain ⟨-, -, -, hhex⟩ := digests_computed
    exact hhex
  address s h := by
    have haddress : (base58Regex s && Payday.library.isAddress s) = true := h
    rw [Bool.and_eq_true] at haddress
    exact trimmed_of_base58 haddress.1
  derived _ _ _ _ h := absurd h throw_ne_ok
  signs _ _ _ := ⟨signed, signature, rfl, Payday.isBase64_ofList transaction_computed.1.2, by decide⟩

theorem appliance_host : appliance.host = isoHost := rfl

theorem paired : Paired appliance policy options key 1767225601000 where
  delegate := rfl
  signerReference := rfl
  network := rfl
  fundingWallet := rfl
  known := List.mem_singleton_self key
  active := rfl
  secret := rfl
  keyId := .inl rfl
  written := by
    rw [appliance_host, clock_computed.1]
    decide
  parsed := by
    rw [appliance_host, clock_computed.1]
    exact clock_computed.2
  fresh := by decide

theorem bytes_plan : (plan.destinationAmountList appliance.runtime).bytes appliance.runtime =
    listBytes := DestinationAmountList.bytes_plan_eq rfl rfl plan

theorem determines : HashDetermines appliance.runtime (plan.destinationAmountList appliance.runtime) := by
  intro other h
  rw [bytes_plan] at h ⊢
  rw [runtime_digest, runtime_digest, digest_eq rfl] at h
  by_contra hne
  exact digest_ne hne h

theorem hashed : hashSolanaPayoutDestinationAmountList appliance.runtime plan = .ok hash := by
  rw [DestinationAmountList.hashOfPlan_eq appliance_standard.runtime, bytes_plan, runtime_digest,
    digest_eq rfl, hash]

theorem assertBase64_transaction (label : String) :
    assertBase64Transaction transaction label = .ok transaction :=
  assertBase64_of (Payday.isBase64_ofList transaction_computed.1.1) label

theorem transaction_decodes :
    decodeSolanaTransactionMessageBytes appliance.library transaction = .ok message := by
  refine bind_eq_ok.mpr ⟨_, assertBase64_transaction _, ?_⟩
  rw [transaction, String.toList_ofList]
  exact transaction_computed.2.2

theorem carriesOut : CarriesOut appliance.library policy planned message where
  fundingWallet := by
    obtain ⟨-, -, hwallet, -⟩ := plan_computed
    exact hwallet
  signer := rfl
  feePayer := rfl
  noLookups := rfl
  instructions := by
    refine .cons ⟨⟨⟨TOKEN_PROGRAM_IDS, rfl, by decide⟩, rfl, rfl, rfl, _, rfl, rfl, rfl⟩, ?_⟩ .nil
    refine ⟨.transfer SOLANA_TOKEN_PROGRAM_ID Payday.source Payday.mint Payday.firstAccount wallet
      700000 6, ?_, ?_⟩
    · rfl
    · rfl

theorem faithful : Faithful appliance.library policy planned transaction := by
  obtain ⟨-, ⟨hne, hsame⟩, -⟩ := transaction_computed
  refine ⟨⟨?_, ?_⟩, message, transaction_decodes, carriesOut⟩
  · rwa [transaction, String.toList_ofList]
  · rw [transaction, String.toList_ofList]
    exact congrArg String.ofList hsame

/-- What the delegate is asked to have signed. -/
def signing : SolanaPayoutTransactionSigningDelegateInput :=
  ⟨"pay_1", "solana:devnet", "vault:payday", hash, planned, transaction, "700000"⟩

theorem inputOf : InputOf policy plan hash signing := by
  obtain ⟨-, -, -, hamount⟩ := plan_computed
  exact ⟨rfl, rfl, rfl, rfl, List.mem_singleton_self planned, hamount.symm⟩

theorem single : Single plan := by
  refine ⟨rfl, by decide, ?_⟩
  intro item hitem
  rw [List.mem_singleton.mp hitem]
  decide

theorem submission_reads :
    readSerializedPayoutTransactions ⟨plan, [⟨0, transaction⟩], some simulation⟩ =
      .ok [⟨0, transaction⟩] := by
  have hone : readSerializedPayoutTransaction plan [] ⟨0, transaction⟩ = .ok [⟨0, transaction⟩] := by
    unfold readSerializedPayoutTransaction
    rw [assertBase64_transaction]
    rfl
  have hfold : [(⟨0, transaction⟩ : SolanaSerializedPayoutTransaction)].foldlM
      (readSerializedPayoutTransaction plan) [] = .ok [⟨0, transaction⟩] := by
    rw [List.foldlM_cons, bind_eq_ok]
    exact ⟨_, hone, rfl⟩
  exact bind_eq_ok.mpr ⟨_, hfold, rfl⟩

end Vault

section Signed

variable {appliance : Appliance ν} {now : Int}

/-- The message makes one payment out of the wallet of the configuration, as the request has it. -/
structure PaysRequest (config : PayoutSignerConfig) (request : RemotePayoutSignRequest ν)
    (amount : Nat) (message : DecodedSolanaTransactionMessage) : Prop where
  fundingWallet : request.policy.fundingWallet = config.expectedFundingWallet.val
  network : request.network = config.network.val ∧ request.policy.network = config.network.val
  signerReference : request.signerReference = config.signerReference.val
  signer : message.numRequiredSignatures = 1
  feePayer : message.accountKeys[0]? = some config.expectedFundingWallet.val
  noLookups : message.addressTableLookupCount = 0
  requested : parseAtomicAmount request.amountAtomic = some amount
  transfer : OneTransfer request.policy request.plannedTransaction.items amount message
  limit : ∀ limit ∈ request.policy.maxTransactionAmountAtomic, ∃ most,
    parseAtomicAmount limit = some most ∧ amount ≤ most

/-- The answer has the bytes with their signature. -/
def HasSignature (appliance : Appliance ν) (transactionBase64 : String) (response : RpcJson ν) :
    Prop :=
  ∃ index signedTransactionBase64 signature,
    appliance.signTransaction (bufferFromBase64 transactionBase64.toList) =
      .ok (signedTransactionBase64, signature) ∧
    response = .record [("transactionIndex", some (.number index)),
      ("signedTransactionBase64", some (.string signedTransactionBase64)),
      ("expectedSignature", some (.string signature))]

theorem paysRequest_of_admitted {request : RemotePayoutSignRequest ν}
    {message : DecodedSolanaTransactionMessage} (hadmitted : Admitted appliance request)
    (hcarries : CarriesOut appliance.library request.policy
      (RemotePlannedTransaction.toPlanned request.plannedTransaction) message) :
    ∃ amount, PaysRequest appliance.config request amount message := by
  obtain ⟨transfer, hsingle, htransfer, -⟩ := hadmitted.transfer
  obtain ⟨amount, hamount, hone⟩ := oneTransfer_of_carriesOut hcarries hsingle htransfer
  refine ⟨amount, hadmitted.fundingWallet, hadmitted.network, hadmitted.signerReference.1,
    hcarries.signer, ?_, hcarries.noLookups, hamount, hone, ?_⟩
  · rw [← hadmitted.fundingWallet]
    exact hcarries.feePayer
  · intro limit hlimit
    obtain ⟨amount', most, hamount', hmost, hle⟩ := htransfer.limit limit hlimit
    rw [hamount, Option.some_inj] at hamount'
    exact ⟨most, hmost, hamount' ▸ hle⟩

end Signed

/-- **What the appliance signs is one payment**: when it answers a request, a holder of an active key
has asked for it just now, the bytes that it has signed make one transfer out of its wallet, of the
amount and to an account of the request, and all else they do is to create accounts. -/
theorem signs_only_payouts (appliance : Appliance ν) (now : Int) (request : RemoteSignerRequest ν)
    (response : RpcJson ν) (h : signPayout appliance now request = .ok response) :
    (∃ key, AskedBy appliance now request key) ∧
      ∃ signRequest message amount,
        readRemotePayoutSignRequest appliance.numbers request.body = .ok signRequest ∧
        decodeSolanaTransactionMessageBytes appliance.library signRequest.transactionBase64 =
          .ok message ∧
        PaysRequest appliance.config signRequest amount message ∧
        HasSignature appliance signRequest.transactionBase64 response := by
  obtain ⟨signRequest, hchecked, h⟩ := bind_eq_ok.mp h
  obtain ⟨signed, hsigned, h⟩ := bind_eq_ok.mp h
  rw [pure_eq_ok] at h
  obtain ⟨⟨key, hkey⟩, hread, hadmitted, message, hdecode, hcarries⟩ := checkedRequest_eq_ok.mp hchecked
  obtain ⟨amount, hpays⟩ := paysRequest_of_admitted hadmitted hcarries
  refine ⟨⟨key, assertRequestSignature_eq_ok hkey⟩, signRequest, message, amount, hread, hdecode, hpays,
    ?_⟩
  exact ⟨_, signed.1, signed.2, ofControlPlane_eq_ok.mp hsigned, h.symm⟩

/-- The request for a batch with one item is answered. -/
theorem signs_only_payouts_one :
    ∃ request response, signPayout Vault.appliance 1767225601000 request = .ok response ∧
      (∃ key, AskedBy Vault.appliance 1767225601000 request key) ∧
      ∃ signRequest message amount,
        readRemotePayoutSignRequest Vault.appliance.numbers request.body = .ok signRequest ∧
        decodeSolanaTransactionMessageBytes Vault.appliance.library signRequest.transactionBase64 =
          .ok message ∧
        PaysRequest Vault.appliance.config signRequest amount message ∧
        HasSignature Vault.appliance signRequest.transactionBase64 response := by
  obtain ⟨signed, signature, hanswer, -⟩ := signPayout_of_single Vault.appliance_standard
    Vault.paired (createPlan_eq_ok Vault.plan_computed.1) (policyOf_of_asserted Vault.plan_computed.2.1)
    Vault.hashed Vault.inputOf Vault.single Vault.faithful.1 Vault.transaction_decodes Vault.carriesOut
  exact ⟨_, _, hanswer, signs_only_payouts Vault.appliance 1767225601000 _ _ hanswer⟩

end Split402

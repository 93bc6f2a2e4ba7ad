import Mathlib
import Split402.Proof.DestinationList

/-! # The delegate and the appliance

The delegate sends the hash of the whole plan, and the appliance compares it with the hash of the one
transaction, with the one transfer, that it is asked to sign. So it lets the transaction of a plan
through exactly when the plan has one item. -/

namespace Split402

open Base SolanaPlan PayoutSignerApp

variable {ν : Type}

/-! ## The two sides -/

/-- The engine, the libraries and the key do what they are documented to do. -/
structure PayoutSignerApp.Appliance.Standard (appliance : Appliance ν) : Prop where
  runtime : appliance.runtime.Standard
  whole : ReadsWhole appliance.runtime appliance.numbers
  digest : ∀ bytes, sha256Regex ("sha256:" ++ appliance.runtime.sha256Hex bytes) = true
  hmac : ∀ secret text, (appliance.hmac secret text).toList.all isLowerHex = true
  address : ∀ s, appliance.library.isAddress s = true → Trimmed s
  derived : ∀ owner program mint account,
    appliance.library.findAssociatedTokenPda owner program mint = .ok account →
      appliance.library.isAddress account = true
  signs : ∀ bytes message, appliance.library.decodeTransaction bytes = .ok message →
    ∃ signed signature, appliance.signTransaction bytes = .ok (signed, signature) ∧
      isBase64 signed = true ∧ isBlank signature = false

/-- The delegate and the appliance are set up for each other, share a key, and their clocks agree. -/
structure Paired (appliance : Appliance ν) (policy : SolanaPayoutSignerPolicy)
    (options : RemoteSigner.Options) (key : PayoutSignerAuthKey) (now : Int) : Prop where
  delegate : policy.signerReference = options.signerReference
  signerReference : policy.signerReference = appliance.config.signerReference.val
  network : policy.network = appliance.config.network.val
  fundingWallet : policy.fundingWallet = appliance.config.expectedFundingWallet.val
  known : key ∈ appliance.config.authKeys.keys
  active : key.status = .active
  secret : options.sharedSecret = some key.sharedSecret.val
  keyId : options.keyId = some key.keyId.val ∨
    (options.keyId = none ∧ appliance.config.authKeys.keys = [key])
  written : Trimmed (appliance.host.toISOString options.clock)
  parsed : appliance.host.dateParse (appliance.host.toISOString options.clock) = some options.clock
  fresh : (now - options.clock).natAbs ≤ appliance.config.signatureToleranceSeconds * 1000

section Pair

variable {appliance : Appliance ν} {policy : SolanaPayoutSignerPolicy}
  {options : RemoteSigner.Options} {key : PayoutSignerAuthKey} {now : Int}

theorem readHeader_of_trimmed {s name : String} (h : Trimmed s) :
    readHeader (some s) name = .ok s := by
  have hfilter : (some s).filter (fun value => !isBlank value) = some s := by
    rw [Option.filter_some, h.1]
    rfl
  unfold readHeader
  rw [hfilter]
  exact congrArg Except.ok h.2

theorem trimmed_signature (hstd : appliance.Standard) (timestamp body secret : String) :
    Trimmed (RemoteSigner.createRequestSignature appliance.hmac timestamp body secret) := by
  have hhex := hstd.hmac secret (timestamp ++ "." ++ body)
  rw [List.all_eq_true] at hhex
  have hlist : (RemoteSigner.createRequestSignature appliance.hmac timestamp body secret).toList =
      'v' :: '1' :: '=' :: (appliance.hmac secret (timestamp ++ "." ++ body)).toList := by
    rw [RemoteSigner.createRequestSignature, String.toList_append]
    rfl
  refine trimmed_of_no_whitespace (by rw [hlist]; exact List.cons_ne_nil _ _) ?_
  intro c hc
  rw [hlist] at hc
  simp only [List.mem_cons] at hc
  rcases hc with rfl | rfl | rfl | hc
  · rfl
  · rfl
  · rfl
  · have hc := hhex c hc
    simp only [isLowerHex, Bool.or_eq_true, Bool.and_eq_true, decide_eq_true_eq] at hc
    rcases hc with hc | hc
    · exact isJsWhitespace_of_le (by decide) (by decide) hc.1 hc.2
    · exact isJsWhitespace_of_le (by decide) (by decide) hc.1 hc.2

/-- No other key has the id. -/
theorem find_key (keys : AuthKeys) (hknown : key ∈ keys.keys) :
    keys.keys.find? (·.keyId.val = key.keyId.val) = some key := by
  have hnodup := keys.keyIds
  cases hfind : keys.keys.find? (·.keyId.val = key.keyId.val) with
  | none => exact absurd (decide_eq_true rfl) (List.find?_eq_none.mp hfind key hknown)
  | some found =>
      have hsame : found.keyId = key.keyId := Subtype.ext (by simpa using List.find?_some hfind)
      rw [List.inj_on_of_nodup_map hnodup (List.mem_of_find?_eq_some hfind) hknown hsame]

theorem Paired.selectAuthKey (h : Paired appliance policy options key now)
    {headers : RemoteSignerHeaders} (hkeyId : headers.signerKeyId = options.keyId) :
    PayoutSignerApp.selectAuthKey headers appliance.config.authKeys.keys = .ok key := by
  have hactive : assertActive (some key) = .ok key := by
    rw [assertActive, if_pos h.active]
    rfl
  unfold PayoutSignerApp.selectAuthKey
  rw [hkeyId]
  rcases h.keyId with hid | ⟨hnone, hsingle⟩
  · have hread : readOptionalHeader (some key.keyId.val) = some key.keyId.val := by
      obtain ⟨hblank, htrim⟩ := key.keyId.property
      rw [readOptionalHeader, Option.filter_some, hblank, Bool.not_false, if_pos rfl, Option.map_some,
        htrim]
    rw [hid, hread]
    dsimp only
    rw [find_key _ h.known, hactive]
  · rw [hnone, hsingle]
    exact hactive

/-- The appliance knows the request for the delegate's. -/
theorem Paired.asked (hstd : appliance.Standard) (h : Paired appliance policy options key now)
    (body : RpcJson ν) :
    assertRequestSignature appliance.host appliance.hmac appliance.config now
      (RemoteSigner.headersOf appliance.numbers appliance.host appliance.hmac options body)
      (body.stringify appliance.numbers) = .ok key := by
  have hfresh : assertFreshSignatureTimestamp appliance.host appliance.config now
      (appliance.host.toISOString options.clock) = .ok () := by
    unfold assertFreshSignatureTimestamp
    rw [h.parsed]
    refine ensure_eq_ok.mpr (decide_eq_true ?_)
    have hfresh := h.fresh
    omega
  have htimestamp : readHeader (RemoteSigner.headersOf appliance.numbers appliance.host appliance.hmac
      options body).signatureTimestamp "x-split402-signature-timestamp" =
        .ok (appliance.host.toISOString options.clock) := by
    rw [RemoteSigner.headersOf, h.secret]
    exact readHeader_of_trimmed h.written
  have hsignature : readHeader (RemoteSigner.headersOf appliance.numbers appliance.host appliance.hmac
      options body).signature "x-split402-signature" =
        .ok (RemoteSigner.createRequestSignature appliance.hmac
          (appliance.host.toISOString options.clock) (body.stringify appliance.numbers)
          key.sharedSecret.val) := by
    rw [RemoteSigner.headersOf, h.secret]
    exact readHeader_of_trimmed (trimmed_signature hstd _ _ _)
  exact bind_eq_ok.mpr ⟨_, htimestamp, bind_eq_ok.mpr ⟨_, hsignature, bind_eq_ok.mpr ⟨(), hfresh,
    bind_eq_ok.mpr ⟨key, h.selectAuthKey rfl, bind_eq_ok.mpr ⟨(),
      ensure_eq_ok.mpr (decide_eq_true rfl), rfl⟩⟩⟩⟩⟩

/-! ## What is written of a plan -/

theorem assertSolanaAddress_iff {library : SolanaLibrary} {value label address : String} :
    assertSolanaAddress library value label = .ok address ↔
      library.isAddress value = true ∧ address = value := by
  unfold assertSolanaAddress
  split
  · rename_i h
    rw [pure_eq_ok, eq_comm]
    exact (and_iff_right h).symm
  · rename_i h
    exact iff_of_false throw_ne_ok fun hand => h hand.1

/-- The addresses and the amount of a planned item. -/
structure WrittenItem (library : SolanaLibrary) (item : SolanaPayoutPlannedItem) : Prop where
  wallet : library.isAddress item.destinationWallet = true
  account : library.isAddress item.destinationTokenAccount = true
  amount : ∃ n, parseAtomicAmount item.amountAtomic = some n

theorem writtenItem_of_planned (hstd : appliance.Standard) {record : PayoutItemRecord}
    {item : SolanaPayoutPlannedItem} {asset program : String}
    (h : planSolanaPayoutItem appliance.library record asset program = .ok item) :
    WrittenItem appliance.library item ∧ item.payoutItemId = record.id := by
  obtain ⟨_, -, h⟩ := bind_eq_ok.mp h
  obtain ⟨wallet, hwallet, h⟩ := bind_eq_ok.mp h
  obtain ⟨account, haccount, h⟩ := bind_eq_ok.mp h
  obtain ⟨_, hamount, h⟩ := bind_eq_ok.mp h
  obtain ⟨amount, hparse, -⟩ := exists_of_assertPositive hamount
  rw [pure_eq_ok] at h
  subst h
  obtain ⟨haddress, hsame⟩ := assertSolanaAddress_iff.mp hwallet
  refine ⟨⟨hsame ▸ haddress, ?_, amount, hparse⟩, rfl⟩
  cases hnamed : record.destinationTokenAccount with
  | none =>
      rw [hnamed] at haccount
      exact hstd.derived _ _ _ _ haccount
  | some named =>
      rw [hnamed] at haccount
      obtain ⟨haddress, hsame⟩ := assertSolanaAddress_iff.mp haccount
      exact hsame ▸ haddress

theorem trimmed_of_parse {s : String} {n : Nat} (h : parseAtomicAmount s = some n) : Trimmed s :=
  trimmed_of_numeral (Option.isSome_iff_exists.mpr ⟨n, h⟩)

theorem legibleAmount_of_parse {s : String} {n : Nat} (h : parseAtomicAmount s = some n) :
    LegibleAmount s := by
  have htrim := trimmed_of_parse h
  refine ⟨htrim.1, ?_⟩
  rw [htrim.2]
  exact Option.isSome_iff_exists.mpr ⟨n, h⟩

theorem WrittenItem.legible (hstd : appliance.Standard) {item : SolanaPayoutPlannedItem}
    (h : WrittenItem appliance.library item) (hid : Trimmed item.payoutItemId) :
    LegibleItem item ∧ trimmedItem item = item := by
  obtain ⟨n, hn⟩ := h.amount
  have hwallet := hstd.address _ h.wallet
  have haccount := hstd.address _ h.account
  have hamount := trimmed_of_parse hn
  constructor
  · exact ⟨by simp [hid.1, hwallet.1, haccount.1, hamount.1], (legibleAmount_of_parse hn).2⟩
  · rw [trimmedItem, hid.2, hwallet.2, haccount.2, hamount.2]

/-- The token programs are written without white space. -/
theorem trimmed_of_tokenProgram {program : String} (h : program ∈ TOKEN_PROGRAM_IDS) :
    Trimmed program := by
  have hall : ∀ id ∈ TOKEN_PROGRAM_IDS, isBlank id = false ∧ jsTrim id = id := by decide
  exact hall program h

theorem WrittenItem.legible_instructions (hstd : appliance.Standard)
    {item : SolanaPayoutPlannedItem} {asset wallet source program : String} {decimals : Nat}
    (h : WrittenItem appliance.library item) (hid : Trimmed item.payoutItemId)
    (hasset : appliance.library.isAddress asset = true)
    (hwallet : appliance.library.isAddress wallet = true)
    (hsource : appliance.library.isAddress source = true) (hprogram : program ∈ TOKEN_PROGRAM_IDS)
    {instruction : SolanaPayoutInstructionPlan}
    (hmem : instruction ∈ createSolanaPayoutInstructions item asset wallet source decimals program) :
    LegibleInstruction instruction ∧ trimmedInstruction instruction = instruction := by
  obtain ⟨n, hn⟩ := h.amount
  have hata : isBlank ASSOCIATED_TOKEN_PROGRAM_ID = false ∧
      jsTrim ASSOCIATED_TOKEN_PROGRAM_ID = ASSOCIATED_TOKEN_PROGRAM_ID := by decide
  have hprogram := trimmed_of_tokenProgram hprogram
  have hasset := hstd.address _ hasset
  have hwallet := hstd.address _ hwallet
  have hsource := hstd.address _ hsource
  have howner := hstd.address _ h.wallet
  have haccount := hstd.address _ h.account
  have hamount := trimmed_of_parse hn
  rcases List.mem_append.mp hmem with hmem | hmem
  · split at hmem
    · obtain rfl := List.mem_singleton.mp hmem
      constructor
      · simp [LegibleInstruction, hata.1, hwallet.1, haccount.1, howner.1, hasset.1, hprogram.1]
      · simp only [trimmedInstruction, hata.2, hwallet.2, haccount.2, howner.2, hasset.2, hprogram.2]
    · cases hmem
  · obtain rfl := List.mem_singleton.mp hmem
    constructor
    · refine ⟨?_, (legibleAmount_of_parse hn).2⟩
      simp [hprogram.1, hsource.1, hasset.1, haccount.1, hwallet.1, hamount.1, hid.1]
    · simp only [trimmedInstruction, hprogram.2, hsource.2, hasset.2, haccount.2, hwallet.2, hamount.2,
        hid.2]

/-! ## What the policy has been found to say -/

/-- What the control plane's own check has found. -/
structure PolicyOf (library : SolanaLibrary) (policy : SolanaPayoutSignerPolicy)
    (plan : SolanaPayoutTransactionPlan) (hash : String) : Prop where
  network : plan.network = policy.network
  fundingWallet : library.isAddress policy.fundingWallet = true ∧
    plan.fundingWallet = policy.fundingWallet
  sourceTokenAccount : library.isAddress policy.sourceTokenAccount = true ∧
    plan.sourceTokenAccount = policy.sourceTokenAccount
  mint : library.isAddress policy.mint = true ∧ plan.asset = policy.mint
  programs : ∃ allowed, readAllowedTokenProgramIds library policy.allowedTokenProgramIds =
    .ok allowed ∧ plan.tokenProgramId ∈ allowed
  expectedHash : ∀ expected ∈ policy.expectedDestinationAmountListHash, expected = hash
  limits : assertPayoutSignerAmountLimits policy plan = .ok ()

theorem policyOf_of_asserted {library : SolanaLibrary} {plan : SolanaPayoutTransactionPlan}
    {hash : String} {report : Option SolanaPayoutSimulationReport} {u : Unit}
    (h : assertPayoutSignerPolicy library policy plan hash report = .ok u) :
    PolicyOf library policy plan hash := by
  obtain ⟨network, hnetwork, h⟩ := bind_eq_ok.mp h
  obtain ⟨_, hsameNetwork, h⟩ := bind_eq_ok.mp h
  obtain ⟨_, -, h⟩ := bind_eq_ok.mp h
  obtain ⟨wallet, hwallet, h⟩ := bind_eq_ok.mp h
  obtain ⟨_, hsameWallet, h⟩ := bind_eq_ok.mp h
  obtain ⟨source, hsource, h⟩ := bind_eq_ok.mp h
  obtain ⟨_, hsameSource, h⟩ := bind_eq_ok.mp h
  obtain ⟨mint, hmint, h⟩ := bind_eq_ok.mp h
  obtain ⟨_, hsameMint, h⟩ := bind_eq_ok.mp h
  obtain ⟨allowed, hallowed, h⟩ := bind_eq_ok.mp h
  obtain ⟨_, hprogram, h⟩ := bind_eq_ok.mp h
  obtain ⟨_, hexpected, h⟩ := bind_eq_ok.mp h
  obtain ⟨_, -, h⟩ := bind_eq_ok.mp h
  obtain ⟨_, hlimits, h⟩ := bind_eq_ok.mp h
  have hread : network = policy.network := by
    unfold SolanaPlan.assertNonEmptyString at hnetwork
    split at hnetwork
    · exact absurd hnetwork throw_ne_ok
    · exact (pure_eq_ok.mp hnetwork).symm
  obtain ⟨hwalletAddress, rfl⟩ := assertSolanaAddress_iff.mp hwallet
  obtain ⟨hsourceAddress, rfl⟩ := assertSolanaAddress_iff.mp hsource
  obtain ⟨hmintAddress, rfl⟩ := assertSolanaAddress_iff.mp hmint
  refine ⟨?_, ⟨hwalletAddress, of_decide_eq_true (require_eq_ok.mp hsameWallet)⟩,
    ⟨hsourceAddress, of_decide_eq_true (require_eq_ok.mp hsameSource)⟩,
    ⟨hmintAddress, of_decide_eq_true (require_eq_ok.mp hsameMint)⟩,
    ⟨allowed, hallowed, of_decide_eq_true (require_eq_ok.mp hprogram)⟩, ?_, hlimits⟩
  · rw [← hread]
    exact of_decide_eq_true (require_eq_ok.mp hsameNetwork)
  · intro expected hmem
    rw [Option.mem_def] at hmem
    have hall := require_eq_ok.mp hexpected
    rw [hmem, Option.all_some, decide_eq_true_eq] at hall
    exact hall

/-- The programs that a policy names are those it allows, and they are addresses. -/
theorem readAllowed_some {library : SolanaLibrary} {ids allowed : List String}
    (h : readAllowedTokenProgramIds library (some ids) = .ok allowed) :
    allowed = ids ∧ ∀ id ∈ ids, library.isAddress id = true := by
  cases ids with
  | nil => exact absurd h throw_ne_ok
  | cons first rest =>
      have hall := mapM_eq_ok_iff.mp h
      have hone : ∀ id read, assertSupportedTokenProgramId library id = .ok read →
          read = id ∧ library.isAddress id = true := by
        intro id read hread
        obtain ⟨address, haddress, hread⟩ := bind_eq_ok.mp hread
        obtain ⟨hvalid, hsame⟩ := assertSolanaAddress_iff.mp haddress
        by_cases hprogram : address ∈ TOKEN_PROGRAM_IDS
        · rw [if_pos hprogram, pure_eq_ok] at hread
          exact ⟨hread.symm.trans hsame, hvalid⟩
        · rw [if_neg hprogram] at hread
          exact absurd hread throw_ne_ok
      generalize first :: rest = ids at hall
      clear h
      induction hall with
      | nil => simp
      | cons hhead _ ih =>
          obtain ⟨hsame, hvalid⟩ := hone _ _ hhead
          obtain ⟨ihsame, ihvalid⟩ := ih
          rw [hsame, ihsame]
          exact ⟨rfl, List.forall_mem_cons.mpr ⟨hvalid, ihvalid⟩⟩

theorem map_eq_self_of_trimmed {value : Option String} (h : ∀ s ∈ value, Trimmed s) :
    value.map jsTrim = value := by
  cases value with
  | none => rfl
  | some s => rw [Option.map_some, (h s rfl).2]

theorem PolicyOf.legible (hstd : appliance.Standard) {plan : SolanaPayoutTransactionPlan}
    {hash : String} (h : PolicyOf appliance.library policy plan hash)
    (hnetwork : Trimmed policy.network) (hreference : Trimmed policy.signerReference)
    (hhash : sha256Regex hash = true) : LegiblePolicy policy ∧ trimmedPolicy policy = policy := by
  have hwallet := hstd.address _ h.fundingWallet.1
  have hsource := hstd.address _ h.sourceTokenAccount.1
  have hmint := hstd.address _ h.mint.1
  obtain ⟨allowed, hallowed, -⟩ := h.programs
  have hids : ∀ ids ∈ policy.allowedTokenProgramIds, ∀ id ∈ ids, Trimmed id := by
    intro ids hmem id hid
    rw [Option.mem_def] at hmem
    rw [hmem] at hallowed
    exact hstd.address _ ((readAllowed_some hallowed).2 id hid)
  obtain ⟨hbatch, htransaction⟩ := assertLimits_eq_ok h.limits
  have hmax : ∀ s ∈ policy.maxTransactionAmountAtomic, ∃ n, parseAtomicAmount s = some n := by
    intro s hs
    obtain ⟨most, hmost, -⟩ := htransaction s hs
    exact ⟨most, hmost⟩
  have hmaxBatch : ∀ s ∈ policy.maxBatchAmountAtomic, ∃ n, parseAtomicAmount s = some n := by
    intro s hs
    obtain ⟨most, -, hmost, -⟩ := hbatch s hs
    exact ⟨most, hmost⟩
  have hexpected : ∀ s ∈ policy.expectedDestinationAmountListHash, sha256Regex s = true := by
    intro s hs
    rw [h.expectedHash s hs]
    exact hhash
  constructor
  · refine ⟨by simp [hnetwork.1, hreference.1, hwallet.1, hsource.1, hmint.1],
      fun ids hmem id hid => (hids ids hmem id hid).1, ?_, ?_, ?_⟩
    · intro s hs
      obtain ⟨n, hn⟩ := hmax s hs
      exact legibleAmount_of_parse hn
    · intro s hs
      obtain ⟨n, hn⟩ := hmaxBatch s hs
      exact legibleAmount_of_parse hn
    · intro s hs
      have htrim := trimmed_of_sha256 (hexpected s hs)
      refine ⟨htrim.1, ?_⟩
      rw [htrim.2]
      exact hexpected s hs
  · have hprograms : policy.allowedTokenProgramIds.map (List.map jsTrim) =
        policy.allowedTokenProgramIds := by
      cases hsome : policy.allowedTokenProgramIds with
      | none => rfl
      | some ids =>
          rw [Option.map_some, Option.some_inj]
          exact (List.map_congr_left fun id hid => (hids ids hsome id hid).2).trans (List.map_id ids)
    have htrimMax := map_eq_self_of_trimmed fun s hs =>
      trimmed_of_parse (hmax s hs).choose_spec
    have htrimBatch := map_eq_self_of_trimmed fun s hs =>
      trimmed_of_parse (hmaxBatch s hs).choose_spec
    have htrimHash := map_eq_self_of_trimmed fun s hs => trimmed_of_sha256 (hexpected s hs)
    rw [trimmedPolicy, hnetwork.2, hreference.2, hwallet.2, hsource.2, hmint.2, hprograms, htrimMax,
      htrimBatch, htrimHash]

/-! ## One transaction -/

/-- No other list has the hash of this one. -/
def HashDetermines (runtime : Runtime ν) (list : DestinationAmountList ν) : Prop :=
  ∀ other : DestinationAmountList ν,
    runtime.sha256Hex (other.bytes runtime) = runtime.sha256Hex (list.bytes runtime) →
      other.bytes runtime = list.bytes runtime

/-- What the delegate is asked to have signed: a transaction of the plan. -/
structure InputOf (policy : SolanaPayoutSignerPolicy) (plan : SolanaPayoutTransactionPlan)
    (hash : String) (input : SolanaPayoutTransactionSigningDelegateInput) : Prop where
  batchId : input.batchId = plan.batchId
  network : input.network = plan.network
  signerReference : input.signerReference = policy.signerReference
  hash : input.destinationAmountListHash = hash
  transaction : input.plannedTransaction ∈ plan.transactions
  amount : input.amountAtomic = serializeAtomicAmount (plannedAmount input.plannedTransaction.items)

/-- The batch has one item, and there is nothing to trim about its id and the batch's. -/
structure Single (plan : SolanaPayoutTransactionPlan) : Prop where
  one : (plan.transactions.flatMap (·.items)).length = 1
  batchId : Trimmed plan.batchId
  itemIds : ∀ item ∈ plan.transactions.flatMap (·.items), Trimmed item.payoutItemId

section Transaction

variable {planning : CreateSolanaPayoutTransactionPlanInput} {plan : SolanaPayoutTransactionPlan}
  {hash : String} {input : SolanaPayoutTransactionSigningDelegateInput}
  {message : DecodedSolanaTransactionMessage}

theorem decimals_lt {data : List UInt8} {amount decimals : Nat}
    (h : decodeTransferCheckedInstructionData data = some (amount, decimals)) : decimals < 256 := by
  unfold decodeTransferCheckedInstructionData at h
  split at h
  · rename_i byte
    rw [Option.some_inj, Prod.mk.injEq] at h
    rw [← h.2]
    exact byte.toNat_lt
  · cases h

/-- The decimals of a transfer that is carried out are one byte. -/
theorem safe_of_carriesOut {library : SolanaLibrary} {planned : SolanaPayoutPlannedTransaction}
    (h : CarriesOut library policy planned message) :
    ∀ instruction ∈ planned.instructions, SafeDecimals instruction := by
  intro instruction hmem
  obtain ⟨actual, -, -, effect, hactual, heffect⟩ := exists_left_of_mem h.instructions hmem
  cases instruction with
  | createAssociatedTokenIdempotent plan => trivial
  | transferChecked plan =>
      obtain ⟨amount, -, rfl⟩ := Option.map_eq_some_iff.mp heffect
      cases hprogram : message.accountKeys[actual.programIdIndex.toNat]? with
      | none =>
          rw [effectOf, hprogram] at hactual
          cases hactual
      | some program =>
          obtain ⟨-, -, hdata, -⟩ := (effectOf_transfer_iff hprogram).mp hactual
          have hlt := decimals_lt hdata
          show plan.decimals < 9007199254740992
          omega

/-- Every item has one transfer, however its strings are trimmed. -/
theorem length_transfers (items : List SolanaPayoutPlannedItem) :
    (((plan.instructionsOf items).map trimmedInstruction).filterMap transferOf).length =
      items.length := by
  induction items with
  | nil => rfl
  | cons item items ih =>
      have hcons : plan.instructionsOf (item :: items) =
          plan.instructionsOf [item] ++ plan.instructionsOf items := by
        simp [SolanaPayoutTransactionPlan.instructionsOf]
      have hone : (((plan.instructionsOf [item]).map trimmedInstruction).filterMap
          transferOf).length = 1 := by
        rw [SolanaPayoutTransactionPlan.instructionsOf, List.flatMap_singleton,
          createSolanaPayoutInstructions]
        cases item.createAssociatedTokenAccount with
        | false => rfl
        | true => rfl
      rw [hcons, List.map_append, List.filterMap_append, List.length_append, hone, ih,
        List.length_cons]
      omega

theorem finite_single (hstd : appliance.Standard) (request : RemotePayoutSignRequest ν) {index : Nat}
    (hindex : request.plannedTransaction.index = appliance.runtime.ofNat index)
    (transfer : SolanaTransferCheckedInstructionPlan) :
    (createSingleTransactionPlan request transfer).Finite appliance.runtime := by
  intro transaction htransaction
  rw [List.mem_singleton.mp htransaction]
  show appliance.runtime.numbers.isFinite request.plannedTransaction.index = true
  rw [hindex]
  exact hstd.runtime.finite index

/-- **What the appliance lets through is the transaction of a batch with one item.** -/
theorem single_of_checked (hstd : appliance.Standard)
    (hdetermines : HashDetermines appliance.runtime (plan.destinationAmountList appliance.runtime))
    (hplan : PlanOf appliance.library planning plan)
    (hhash : hashSolanaPayoutDestinationAmountList appliance.runtime plan = .ok hash)
    (hinput : InputOf policy plan hash input)
    (hcarries : CarriesOut appliance.library policy input.plannedTransaction message)
    {signRequest : RemotePayoutSignRequest ν}
    (h : checkedRequest appliance now (RemoteSigner.requestOf appliance.runtime appliance.numbers
      appliance.host appliance.hmac policy options input) = .ok signRequest) : Single plan := by
  obtain ⟨-, hread, hadmitted, -⟩ := checkedRequest_eq_ok.mp h
  obtain ⟨hlegible, rfl⟩ :=
    (readRequest_eq_ok hstd.whole (safe_of_carriesOut hcarries)).mp hread
  obtain ⟨transfer, hsingle, -, hsame⟩ := hadmitted.transfer
  rw [DestinationAmountList.hashOfPlan_eq hstd.runtime, Except.ok.injEq] at hhash
  -- the two hashes are one, so the two lists agree
  have hagrees : DestinationAmountList.Agrees (createSingleTransactionPlan (trimmedRequest
      (RemoteSigner.payload appliance.runtime policy input)) transfer)
      (plan.destinationAmountList appliance.runtime) := by
    have hfinite := finite_single hstd (trimmedRequest
      (RemoteSigner.payload appliance.runtime policy input)) rfl transfer
    have htrim : jsTrim input.destinationAmountListHash = hash := by
      rw [hinput.hash]
      refine (trimmed_of_sha256 ?_).2
      rw [← hhash]
      exact hstd.digest _
    refine DestinationAmountList.agrees_of_bytes_eq hstd.runtime hfinite
      (DestinationAmountList.finite_of_plan hstd.runtime plan) (hdetermines _ ?_)
    have hone := (DestinationAmountList.hash_eq hstd.runtime hfinite).symm.trans hsame
    have htwo := Except.ok.inj hone
    rw [← String.append_right_inj "sha256:", hhash]
    exact htwo.trans htrim
  obtain ⟨hbatch, hitems⟩ := hagrees
  -- the plan has one transaction, which is the one that is asked for
  rw [SolanaPayoutTransactionPlan.destinationAmountList, List.forall₂_map_right_iff] at hitems
  obtain ⟨transaction, rest, hids, hrest, htransactions⟩ := List.forall₂_cons_left_iff.mp hitems
  rw [List.forall₂_nil_left_iff] at hrest
  subst hrest
  have hmine := hinput.transaction
  rw [htransactions, List.mem_singleton] at hmine
  subst hmine
  have hall : plan.transactions.flatMap (·.items) = input.plannedTransaction.items := by
    rw [htransactions, List.flatMap_singleton]
  refine ⟨?_, ?_, ?_⟩
  · have hlength := congrArg List.length hsingle
    have hinstructions := hplan.instructions input.plannedTransaction hinput.transaction
    change ((input.plannedTransaction.instructions.map trimmedInstruction).filterMap
      transferOf).length = 1 at hlength
    rw [hinstructions, length_transfers] at hlength
    rw [hall, hlength]
  · have htexts := hlegible.texts input.batchId List.mem_cons_self
    rw [hinput.batchId] at htexts
    refine ⟨htexts, ?_⟩
    rw [← hinput.batchId]
    exact hbatch.trans hinput.batchId.symm
  · intro item hitem
    rw [hall] at hitem
    have hlegibleItem := hlegible.transaction.items item hitem
    refine ⟨hlegibleItem.texts _ List.mem_cons_self, ?_⟩
    change (input.plannedTransaction.items.map trimmedItem).map (·.payoutItemId) =
      input.plannedTransaction.items.map (·.payoutItemId) at hids
    rw [List.map_map] at hids
    exact List.map_inj_left.mp hids item hitem

/-- A plan with one item has one transaction. -/
theorem Single.transactions (h : Single plan) (hplan : PlanOf appliance.library planning plan)
    (hmem : input.plannedTransaction ∈ plan.transactions) :
    plan.transactions = [input.plannedTransaction] ∧
      ∃ item, input.plannedTransaction.items = [item] := by
  have hone := h.one
  have hnonempty := hplan.nonempty
  cases htransactions : plan.transactions with
  | nil =>
      rw [htransactions] at hmem
      cases hmem
  | cons first rest =>
      rw [htransactions] at hone hnonempty hmem
      rw [List.flatMap_cons, List.length_append] at hone
      have hfirst := List.length_pos_of_ne_nil (hnonempty first List.mem_cons_self)
      have hrest : rest = [] := by
        cases rest with
        | nil => rfl
        | cons second rest =>
            have hsecond := List.length_pos_of_ne_nil
              (hnonempty second (List.mem_cons_of_mem _ List.mem_cons_self))
            rw [List.flatMap_cons, List.length_append] at hone
            omega
      subst hrest
      obtain rfl := List.mem_singleton.mp hmem
      refine ⟨rfl, List.length_eq_one_iff.mp ?_⟩
      rw [List.flatMap_nil, List.length_nil] at hone
      omega

theorem Single.index (h : Single plan) (hplan : PlanOf appliance.library planning plan)
    (hmem : input.plannedTransaction ∈ plan.transactions) : input.plannedTransaction.index = 0 := by
  have hindexes := hplan.indexes
  rw [(h.transactions hplan hmem).1] at hindexes
  exact List.singleton_inj.mp hindexes

/-- Every planned item has been written from a record. -/
theorem PlanOf.writtenItem (hstd : appliance.Standard)
    (hplan : PlanOf appliance.library planning plan) {item : SolanaPayoutPlannedItem}
    (hmem : item ∈ plan.transactions.flatMap (·.items)) :
    WrittenItem appliance.library item ∧ ∃ record ∈ planning.batch.items, item.payoutItemId = record.id := by
  obtain ⟨record, hrecord, hitem⟩ := exists_left_of_mem hplan.items hmem
  obtain ⟨hwritten, hid⟩ := writtenItem_of_planned hstd hitem
  exact ⟨hwritten, record, hrecord, hid⟩

theorem isJsWhitespace_of_base64 {c : Char} (h : (c.isAlphanum || c == '+' || c == '/') = true) :
    isJsWhitespace c = false := by
  simp only [Char.isAlphanum, Char.isAlpha, Char.isUpper, Char.isLower, Char.isDigit, Bool.or_eq_true,
    Bool.and_eq_true, decide_eq_true_eq, beq_iff_eq] at h
  rcases h with ((((⟨ha, hb⟩ | ⟨ha, hb⟩) | ⟨ha, hb⟩) | rfl) | rfl)
  · exact isJsWhitespace_of_le (a := 'A') (b := 'Z') (by decide) (by decide) ha hb
  · exact isJsWhitespace_of_le (a := 'a') (b := 'z') (by decide) (by decide) ha hb
  · exact isJsWhitespace_of_le (a := '0') (b := '9') (by decide) (by decide) ha hb
  · rfl
  · rfl

theorem trimmed_of_isBase64 {s : String} (h : isBase64 s = true) : Trimmed s := by
  unfold isBase64 at h
  simp only [Bool.and_eq_true, Bool.not_eq_true', List.isEmpty_eq_false_iff, List.all_eq_true] at h
  obtain ⟨⟨⟨-, -⟩, hne⟩, hbody⟩ := h
  have hsplit := @List.takeWhile_append_dropWhile _ (· == '=') s.toList.reverse
  refine trimmed_of_no_whitespace ?_ ?_
  · intro hnil
    rw [hnil] at hne
    exact hne rfl
  · intro c hc
    rw [← List.mem_reverse, ← hsplit, List.mem_append] at hc
    rcases hc with hc | hc
    · have heq := List.all_eq_true.mp (List.all_takeWhile (p := (· == '=')) (l := s.toList.reverse)) c hc
      rw [beq_iff_eq.mp heq]
      rfl
    · exact isJsWhitespace_of_base64 (by simpa using hbody c hc)

theorem assertBase64_of {value : String} (h : isBase64 value = true) (label : String) :
    assertBase64Transaction value label = .ok value := by
  rw [assertBase64Transaction, if_pos h]
  rfl

theorem assertNonEmpty_of {value : String} (h : isBlank value = false) (label : String) :
    SolanaPlan.assertNonEmptyString value label = .ok value := by
  rw [SolanaPlan.assertNonEmptyString, h]
  rfl

theorem isBase64_of_decodes {library : SolanaLibrary} {transactionBase64 : String}
    (h : decodeSolanaTransactionMessageBytes library transactionBase64 = .ok message) :
    isBase64 transactionBase64 = true ∧
      ∃ bytes, library.decodeTransaction (bufferFromBase64 transactionBase64.toList) = .ok bytes := by
  obtain ⟨text, htext, h⟩ := bind_eq_ok.mp h
  obtain ⟨bytes, hbytes, -⟩ := bind_eq_ok.mp h
  rw [assertBase64_eq_ok htext] at hbytes
  refine ⟨?_, bytes, hbytes⟩
  unfold assertBase64Transaction at htext
  split at htext
  · assumption
  · exact absurd htext throw_ne_ok

/-- The request is read as it is written. -/
theorem legible_payload (hstd : appliance.Standard)
    (hpaired : Paired appliance policy options key now)
    (hplan : PlanOf appliance.library planning plan)
    (hpolicy : PolicyOf appliance.library policy plan hash) (hhash : sha256Regex hash = true)
    (hinput : InputOf policy plan hash input) (hsingle : Single plan)
    (hbytes : IsBase64Text input.transactionBase64)
    (hdecode : decodeSolanaTransactionMessageBytes appliance.library input.transactionBase64 =
      .ok message) :
    LegibleRequest appliance.numbers (RemoteSigner.payload appliance.runtime policy input) ∧
      trimmedRequest (RemoteSigner.payload appliance.runtime policy input) =
        RemoteSigner.payload appliance.runtime policy input := by
  have hnetwork : Trimmed policy.network := hpaired.network ▸ appliance.config.network.property
  have hreference : Trimmed policy.signerReference :=
    hpaired.signerReference ▸ appliance.config.signerReference.property
  obtain ⟨hlegiblePolicy, htrimPolicy⟩ := hpolicy.legible hstd hnetwork hreference hhash
  obtain ⟨htransactions, item, hitem⟩ := hsingle.transactions hplan hinput.transaction
  have hmem : item ∈ plan.transactions.flatMap (·.items) := by
    rw [htransactions, List.flatMap_singleton, hitem]
    exact List.mem_cons_self
  obtain ⟨hwritten, -⟩ := hplan.writtenItem hstd hmem
  have hid := hsingle.itemIds item hmem
  obtain ⟨hlegibleItem, htrimItem⟩ := hwritten.legible hstd hid
  obtain ⟨allowed, hallowed, hprogram⟩ := hpolicy.programs
  have hinstructions := hplan.instructions input.plannedTransaction hinput.transaction
  rw [hitem, SolanaPayoutTransactionPlan.instructionsOf, List.flatMap_singleton] at hinstructions
  have hinstruction := fun instruction hmem => @hwritten.legible_instructions ν appliance hstd item
    plan.asset plan.fundingWallet plan.sourceTokenAccount plan.tokenProgramId plan.tokenDecimals hid
    (hpolicy.mint.2 ▸ hpolicy.mint.1) (hpolicy.fundingWallet.2 ▸ hpolicy.fundingWallet.1)
    (hpolicy.sourceTokenAccount.2 ▸ hpolicy.sourceTokenAccount.1)
    (mem_of_allowed hallowed hprogram) instruction hmem
  have hindex := hsingle.index hplan hinput.transaction
  have hinteger : (appliance.numbers.toInteger
      (appliance.runtime.ofNat input.plannedTransaction.index)).isSome = true := by
    rw [hindex, hstd.whole 0 (by omega)]
    rfl
  have hamount := parseAtomicAmount_serialize (plannedAmount input.plannedTransaction.items)
  have hbase64 := trimmed_of_isBase64 (isBase64_of_decodes hdecode).1
  have htrimHash := trimmed_of_sha256 hhash
  constructor
  · refine ⟨?_, ?_, hinteger, ?_, ?_, ⟨hinteger, ?_, ?_⟩, hlegiblePolicy⟩
    · have hbatch := hsingle.batchId.1
      have hnetworkPlan : isBlank input.network = false := by
        rw [hinput.network, hpolicy.network]
        exact hnetwork.1
      simp only [RemoteSigner.payload, List.forall_mem_cons, hinput.batchId, hinput.signerReference]
      exact ⟨hbatch, hnetworkPlan, hreference.1, by simp⟩
    · show LegibleHash input.destinationAmountListHash
      rw [hinput.hash]
      exact ⟨htrimHash.1, htrimHash.2.symm ▸ hhash⟩
    · show LegibleAmount input.amountAtomic
      rw [hinput.amount]
      exact legibleAmount_of_parse hamount
    · exact ⟨hbase64.1, hbase64.2.symm ▸ hbytes⟩
    · intro other hother
      change other ∈ input.plannedTransaction.items at hother
      rw [hitem, List.mem_singleton] at hother
      rw [hother]
      exact hlegibleItem
    · intro instruction hmem
      change instruction ∈ input.plannedTransaction.instructions at hmem
      rw [hinstructions] at hmem
      exact (hinstruction instruction hmem).1
  · have hitems : input.plannedTransaction.items.map trimmedItem = input.plannedTransaction.items := by
      rw [hitem, List.map_singleton, htrimItem]
    have hall : input.plannedTransaction.instructions.map trimmedInstruction =
        input.plannedTransaction.instructions := by
      rw [hinstructions]
      exact (List.map_congr_left fun instruction hmem => (hinstruction instruction hmem).2).trans
        (List.map_id _)
    have hbatch : jsTrim input.batchId = input.batchId := by
      rw [hinput.batchId]
      exact hsingle.batchId.2
    have hnetworkPlan : jsTrim input.network = input.network := by
      rw [hinput.network, hpolicy.network]
      exact hnetwork.2
    have hreferencePlan : jsTrim input.signerReference = input.signerReference := by
      rw [hinput.signerReference]
      exact hreference.2
    have hhashPlan : jsTrim input.destinationAmountListHash = input.destinationAmountListHash := by
      rw [hinput.hash]
      exact htrimHash.2
    have hamountPlan : jsTrim input.amountAtomic = input.amountAtomic := by
      rw [hinput.amount]
      exact (trimmed_of_parse hamount).2
    simp only [trimmedRequest, trimmedTransaction, RemoteSigner.payload, hbatch, hnetworkPlan,
      hreferencePlan, hhashPlan, hamountPlan, hbase64.2, hitems, hall, htrimPolicy]

/-- The one transfer of a plan with one item is as the policy wants it. -/
theorem transferOf_single {library : SolanaLibrary} (hpolicy : PolicyOf library policy plan hash)
    {item : SolanaPayoutPlannedItem} {transaction : SolanaPayoutPlannedTransaction}
    (hmem : transaction ∈ plan.transactions) (hitem : transaction.items = [item])
    (hinstructions : transaction.instructions = plan.instructionsOf [item])
    (hwritten : WrittenItem library item) :
    ∃ transfer, transaction.instructions.filterMap transferOf = [transfer] ∧
      transfer.programId = plan.tokenProgramId ∧
      TransferOf policy (serializeAtomicAmount (plannedAmount transaction.items)) transfer := by
  obtain ⟨n, hn⟩ := hwritten.amount
  have hplanned : plannedAmount transaction.items = n := by
    rw [hitem, plannedAmount, List.map_singleton, List.sum_singleton, hn]
    rfl
  refine ⟨⟨plan.tokenProgramId, plan.sourceTokenAccount, plan.asset, item.destinationTokenAccount,
    plan.fundingWallet, item.amountAtomic, plan.tokenDecimals, item.payoutItemId⟩, ?_, rfl, ?_⟩
  · rw [hinstructions, SolanaPayoutTransactionPlan.instructionsOf, List.flatMap_singleton,
      createSolanaPayoutInstructions]
    cases item.createAssociatedTokenAccount with
    | false => rfl
    | true => rfl
  · refine ⟨hpolicy.sourceTokenAccount.2, hpolicy.fundingWallet.2, hpolicy.mint.2, ?_, ?_, ?_⟩
    · intro ids hids
      obtain ⟨allowed, hallowed, hprogram⟩ := hpolicy.programs
      rw [Option.mem_def] at hids
      rw [hids] at hallowed
      rwa [(readAllowed_some hallowed).1] at hprogram
    · rw [hplanned]
      exact Decimal.eq_toString_of_parse hn
    · intro limit hlimit
      obtain ⟨most, hmost, hle⟩ := (assertLimits_eq_ok hpolicy.limits).2 limit hlimit
      refine ⟨_, most, parseAtomicAmount_serialize _, hmost, hle transaction hmem⟩

/-- **The transaction of a batch with one item is let through.** -/
theorem checked_of_single (hstd : appliance.Standard)
    (hpaired : Paired appliance policy options key now)
    (hplan : PlanOf appliance.library planning plan)
    (hpolicy : PolicyOf appliance.library policy plan hash)
    (hhash : hashSolanaPayoutDestinationAmountList appliance.runtime plan = .ok hash)
    (hinput : InputOf policy plan hash input) (hsingle : Single plan)
    (hbytes : IsBase64Text input.transactionBase64)
    (hdecode : decodeSolanaTransactionMessageBytes appliance.library input.transactionBase64 =
      .ok message)
    (hcarries : CarriesOut appliance.library policy input.plannedTransaction message) :
    checkedRequest appliance now (RemoteSigner.requestOf appliance.runtime appliance.numbers
      appliance.host appliance.hmac policy options input) =
        .ok (RemoteSigner.payload appliance.runtime policy input) := by
  have hdigest : sha256Regex hash = true := by
    rw [DestinationAmountList.hashOfPlan_eq hstd.runtime, Except.ok.injEq] at hhash
    rw [← hhash]
    exact hstd.digest _
  obtain ⟨hlegible, htrim⟩ := legible_payload hstd hpaired hplan hpolicy hdigest hinput hsingle hbytes
    hdecode
  obtain ⟨htransactions, item, hitem⟩ := hsingle.transactions hplan hinput.transaction
  have hmem : item ∈ plan.transactions.flatMap (·.items) := by
    rw [htransactions, List.flatMap_singleton, hitem]
    exact List.mem_cons_self
  have hinstructions := hplan.instructions input.plannedTransaction hinput.transaction
  rw [hitem] at hinstructions
  obtain ⟨transfer, htransfer, hprogram, hof⟩ := transferOf_single hpolicy hinput.transaction hitem
    hinstructions (hplan.writtenItem hstd hmem).1
  -- the list of the one transaction is the list of the plan
  have hlist : createSingleTransactionPlan (RemoteSigner.payload appliance.runtime policy input)
      transfer = plan.destinationAmountList appliance.runtime := by
    rw [createSingleTransactionPlan, SolanaPayoutTransactionPlan.destinationAmountList, htransactions,
      List.map_singleton, hprogram, hpolicy.mint.2, hpolicy.sourceTokenAccount.2]
    rw [RemoteSigner.payload, hinput.batchId, hinput.network]
  refine checkedRequest_eq_ok.mpr ⟨⟨key, hpaired.asked hstd _⟩, ?_, ?_, message, hdecode, ?_⟩
  · exact (readRequest_eq_ok hstd.whole (safe_of_carriesOut hcarries)).mpr ⟨hlegible, htrim.symm⟩
  · refine ⟨⟨?_, hpaired.signerReference⟩, ⟨?_, hpaired.network⟩, hpaired.fundingWallet, rfl,
      ⟨transfer, htransfer, ?_, ?_⟩, ?_⟩
    · exact hinput.signerReference.trans hpaired.signerReference
    · exact (hinput.network.trans hpolicy.network).trans hpaired.network
    · show TransferOf policy input.amountAtomic transfer
      rw [hinput.amount]
      exact hof
    · rw [hlist]
      refine (DestinationAmountList.hash_eq hstd.runtime
        (DestinationAmountList.finite_of_plan hstd.runtime plan)).trans ?_
      rw [← DestinationAmountList.hashOfPlan_eq hstd.runtime, hhash]
      exact congrArg Except.ok hinput.hash.symm
    · intro expected hexpected
      exact (hpolicy.expectedHash expected hexpected).trans hinput.hash.symm
  · exact ⟨hcarries.fundingWallet, hcarries.signer, hcarries.feePayer, hcarries.noLookups,
      hcarries.instructions⟩

end Transaction

end Pair

end Split402

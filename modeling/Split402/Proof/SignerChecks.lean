import Split402.Proof.RemoteRequest

/-! # What the appliance checks

What a request has been found to be when each check of the appliance has let it through: who has asked
for it, what the configuration admits, and what the bytes do. A request has one transfer, so the bytes
make one transfer; what else they do creates token accounts. -/

namespace Split402

open Base SolanaPlan

namespace PayoutSignerApp

variable {ν : Type} {appliance : Appliance ν}

/-! ## The parts of the check -/

/-- The request carries the keyed hash of its text and of a recent time, under an active key. -/
def AskedBy (appliance : Appliance ν) (now : Int) (request : RemoteSignerRequest ν)
    (key : PayoutSignerAuthKey) : Prop :=
  key ∈ appliance.config.authKeys.keys ∧ key.status = .active ∧
    ∃ timestamp observedAt, request.headers.signatureTimestamp.map jsTrim = some timestamp ∧
      appliance.host.dateParse timestamp = some observedAt ∧
      (now - observedAt).natAbs ≤ appliance.config.signatureToleranceSeconds * 1000 ∧
      request.headers.signature.map jsTrim = some (RemoteSigner.createRequestSignature appliance.hmac
        timestamp (request.body.stringify appliance.numbers) key.sharedSecret.val)

theorem readHeader_eq_ok {value : Option String} {name read : String}
    (h : readHeader value name = .ok read) : value.map jsTrim = some read := by
  unfold readHeader at h
  split at h
  · rename_i text htext
    rw [pure_eq_ok] at h
    rw [(Option.filter_eq_some_iff.mp htext).1, Option.map_some, h]
  · exact absurd h throw_ne_ok

theorem assertActive_eq_ok {found : Option PayoutSignerAuthKey} {key : PayoutSignerAuthKey}
    (h : assertActive found = .ok key) : found = some key ∧ key.status = .active := by
  cases found with
  | none => exact absurd h throw_ne_ok
  | some found =>
      rw [assertActive] at h
      split at h
      · rename_i hactive
        rw [pure_eq_ok] at h
        rw [← h]
        exact ⟨rfl, hactive⟩
      · exact absurd h throw_ne_ok

/-- The key that is selected is one of the configuration, and active. -/
theorem selectAuthKey_eq_ok {headers : RemoteSignerHeaders} {keys : List PayoutSignerAuthKey}
    {key : PayoutSignerAuthKey} (h : selectAuthKey headers keys = .ok key) :
    key ∈ keys ∧ key.status = .active := by
  unfold selectAuthKey at h
  split at h
  · obtain ⟨hfound, hactive⟩ := assertActive_eq_ok h
    exact ⟨List.mem_of_find?_eq_some hfound, hactive⟩
  · split at h
    · exact absurd h throw_ne_ok
    · obtain ⟨hfound, hactive⟩ := assertActive_eq_ok h
      exact ⟨List.mem_of_getElem? hfound, hactive⟩

theorem assertRequestSignature_eq_ok {now : Int} {request : RemoteSignerRequest ν}
    {key : PayoutSignerAuthKey}
    (h : assertRequestSignature appliance.host appliance.hmac appliance.config now request.headers
      (request.body.stringify appliance.numbers) = .ok key) : AskedBy appliance now request key := by
  obtain ⟨timestamp, htimestamp, h⟩ := bind_eq_ok.mp h
  obtain ⟨signature, hsignature, h⟩ := bind_eq_ok.mp h
  obtain ⟨_, hfresh, h⟩ := bind_eq_ok.mp h
  obtain ⟨selected, hselected, h⟩ := bind_eq_ok.mp h
  obtain ⟨_, hsame, h⟩ := bind_eq_ok.mp h
  rw [pure_eq_ok] at h
  subst h
  obtain ⟨hmem, hactive⟩ := selectAuthKey_eq_ok hselected
  refine ⟨hmem, hactive, timestamp, ?_⟩
  unfold assertFreshSignatureTimestamp at hfresh
  split at hfresh
  · exact absurd hfresh throw_ne_ok
  · rename_i observedAt hparse
    refine ⟨observedAt, readHeader_eq_ok htimestamp, hparse, ?_, ?_⟩
    · have htolerance := of_decide_eq_true (ensure_eq_ok.mp hfresh)
      omega
    · rw [readHeader_eq_ok hsignature, of_decide_eq_true (ensure_eq_ok.mp hsame)]

/-- The instructions that have one transfer. -/
theorem readSingleTransfer_eq_ok {instructions : List SolanaPayoutInstructionPlan}
    {transfer : SolanaTransferCheckedInstructionPlan} :
    readSingleTransfer instructions = .ok transfer ↔ instructions.filterMap transferOf = [transfer] := by
  unfold readSingleTransfer
  split
  · rename_i found hfound
    rw [hfound, pure_eq_ok, List.singleton_inj]
  · rename_i hnot
    refine iff_of_false throw_ne_ok ?_
    exact hnot transfer

/-- What the transfer of a request has been found to be. -/
structure TransferOf (policy : SolanaPayoutSignerPolicy) (amountAtomic : String)
    (transfer : SolanaTransferCheckedInstructionPlan) : Prop where
  source : transfer.source = policy.sourceTokenAccount
  authority : transfer.authority = policy.fundingWallet
  mint : transfer.mint = policy.mint
  program : ∀ ids ∈ policy.allowedTokenProgramIds, transfer.programId ∈ ids
  amount : transfer.amountAtomic = amountAtomic
  limit : ∀ limit ∈ policy.maxTransactionAmountAtomic, ∃ amount most,
    parseAtomicAmount amountAtomic = some amount ∧ parseAtomicAmount limit = some most ∧ amount ≤ most

theorem assertTransfer_eq_ok {policy : SolanaPayoutSignerPolicy} {amountAtomic : String}
    {transfer : SolanaTransferCheckedInstructionPlan} {u : Unit} :
    assertTransfer policy amountAtomic transfer = .ok u ↔ TransferOf policy amountAtomic transfer := by
  have hprogram : policy.allowedTokenProgramIds.all (transfer.programId ∈ ·) = true ↔
      ∀ ids ∈ policy.allowedTokenProgramIds, transfer.programId ∈ ids := by
    cases policy.allowedTokenProgramIds with
    | none => simp
    | some ids => simp
  have hlimit : assertTransactionAmount amountAtomic policy.maxTransactionAmountAtomic = .ok u ↔
      ∀ limit ∈ policy.maxTransactionAmountAtomic, ∃ amount most,
        parseAtomicAmount amountAtomic = some amount ∧ parseAtomicAmount limit = some most ∧
          amount ≤ most := by
    cases policy.maxTransactionAmountAtomic with
    | none => simp [assertTransactionAmount]
    | some limit =>
        simp only [assertTransactionAmount, bind_eq_ok, ofControlPlane_eq_ok, readBigInt_eq_ok,
          ensure_eq_ok, decide_eq_true_eq, Option.mem_some_iff, forall_eq']
        constructor
        · intro ⟨amount, hamount, most, hmost, hle⟩
          exact ⟨amount, most, hamount, hmost, hle⟩
        · intro ⟨amount, most, hamount, hmost, hle⟩
          exact ⟨amount, hamount, most, hmost, hle⟩
  simp only [assertTransfer, bind_eq_ok, ensure_eq_ok, decide_eq_true_eq, hprogram, hlimit]
  constructor
  · intro ⟨_, hsource, _, hauthority, _, hmint, _, hids, _, hamount, hmost⟩
    exact ⟨hsource, hauthority, hmint, hids, hamount, hmost⟩
  · intro h
    exact ⟨(), h.source, (), h.authority, (), h.mint, (), h.program, (), h.amount, h.limit⟩

/-- What a request that the configuration lets through has been found to be. -/
structure Admitted (appliance : Appliance ν) (request : RemotePayoutSignRequest ν) : Prop where
  signerReference : request.signerReference = appliance.config.signerReference.val ∧
    request.policy.signerReference = appliance.config.signerReference.val
  network : request.network = appliance.config.network.val ∧
    request.policy.network = appliance.config.network.val
  fundingWallet : request.policy.fundingWallet = appliance.config.expectedFundingWallet.val
  index : appliance.numbers.toInteger request.plannedTransaction.index =
    appliance.numbers.toInteger request.transactionIndex
  transfer : ∃ transfer,
    request.plannedTransaction.instructions.filterMap transferOf = [transfer] ∧
    TransferOf request.policy request.amountAtomic transfer ∧
    hashProtocolObject appliance.runtime.numbers appliance.runtime.sha256Hex
      (destinationAmountListJson (createSingleTransactionPlan request transfer)) =
        .ok request.destinationAmountListHash
  expectedHash : ∀ hash ∈ request.policy.expectedDestinationAmountListHash,
    hash = request.destinationAmountListHash

theorem assertRemotePayoutSignRequest_eq_ok {request : RemotePayoutSignRequest ν} {u : Unit} :
    assertRemotePayoutSignRequest appliance.runtime appliance.numbers appliance.config request =
      .ok u ↔ Admitted appliance request := by
  have hexpected : ∀ hash, request.policy.expectedDestinationAmountListHash.all (· = hash) = true ↔
      ∀ expected ∈ request.policy.expectedDestinationAmountListHash, expected = hash := by
    intro hash
    cases request.policy.expectedDestinationAmountListHash with
    | none => simp
    | some expected => simp
  simp only [assertRemotePayoutSignRequest, bind_eq_ok, ensure_eq_ok, decide_eq_true_eq,
    readSingleTransfer_eq_ok, assertTransfer_eq_ok, ofControlPlane_eq_ok, hexpected]
  constructor
  · intro ⟨_, hreference, _, hpolicy, _, hnetwork, _, hwallet, _, hindex, transfer, hsingle, _,
      htransfer, hash, hhash, _, hsame, hall⟩
    subst hsame
    exact ⟨⟨hreference, hpolicy⟩, hnetwork, hwallet, hindex, ⟨transfer, hsingle, htransfer, hhash⟩,
      hall⟩
  · intro h
    obtain ⟨transfer, hsingle, htransfer, hhash⟩ := h.transfer
    exact ⟨(), h.signerReference.1, (), h.signerReference.2, (), h.network, (), h.fundingWallet, (),
      h.index, transfer, hsingle, (), htransfer, _, hhash, (), rfl, h.expectedHash⟩

theorem assertBytes_eq_ok {request : RemotePayoutSignRequest ν} {u : Unit} :
    assertRequestTransactionBytesMatchPlan appliance.library request = .ok u ↔
      ∃ message, decodeSolanaTransactionMessageBytes appliance.library request.transactionBase64 =
        .ok message ∧ CarriesOut appliance.library request.policy
          (RemotePlannedTransaction.toPlanned request.plannedTransaction) message := by
  simp only [assertRequestTransactionBytesMatchPlan, bind_eq_ok, ofControlPlane_eq_ok, ensure_eq_ok]
  constructor
  · intro ⟨result, hresult, hok⟩
    exact carriesOut_of_verified hresult hok
  · intro ⟨message, hdecode, hcarries⟩
    exact verified_of_carriesOut hdecode hcarries

theorem checkedRequest_eq_ok {now : Int} {request : RemoteSignerRequest ν}
    {signRequest : RemotePayoutSignRequest ν} :
    checkedRequest appliance now request = .ok signRequest ↔
      (∃ key, assertRequestSignature appliance.host appliance.hmac appliance.config now
        request.headers (request.body.stringify appliance.numbers) = .ok key) ∧
      readRemotePayoutSignRequest appliance.numbers request.body = .ok signRequest ∧
      Admitted appliance signRequest ∧
      ∃ message, decodeSolanaTransactionMessageBytes appliance.library
        signRequest.transactionBase64 = .ok message ∧ CarriesOut appliance.library signRequest.policy
          (RemotePlannedTransaction.toPlanned signRequest.plannedTransaction) message := by
  simp only [checkedRequest, bind_eq_ok, assertRemotePayoutSignRequest_eq_ok, assertBytes_eq_ok,
    pure_eq_ok]
  constructor
  · intro h
    obtain ⟨key, hkey, read, hread, _, hadmitted, _, hbytes, hsame⟩ := h
    rw [hsame] at hread hadmitted hbytes
    exact ⟨⟨key, hkey⟩, hread, hadmitted, hbytes⟩
  · intro h
    obtain ⟨⟨key, hkey⟩, hread, hadmitted, hbytes⟩ := h
    exact ⟨key, hkey, signRequest, hread, (), hadmitted, (), hbytes, rfl⟩

/-! ## One transfer -/

/-- The creation of an account that the wallet pays for. -/
def IsCreation (wallet mint : String) (effect : Option InstructionEffect) : Prop :=
  ∃ account owner program, effect = some (.createAccount wallet account owner mint program)

/-- A message makes one transfer and creates accounts before and after it. -/
structure OneTransfer (policy : SolanaPayoutSignerPolicy) (items : List SolanaPayoutPlannedItem)
    (amount : Nat) (message : DecodedSolanaTransactionMessage) : Prop where
  effects : ∃ creations creations' program destination decimals,
    message.effects = creations ++ some (.transfer program policy.sourceTokenAccount policy.mint
      destination policy.fundingWallet amount decimals) :: creations' ∧
    program ∈ TOKEN_PROGRAM_IDS ∧ (∃ item ∈ items, item.destinationTokenAccount = destination) ∧
    ∀ effect ∈ creations ++ creations', IsCreation policy.fundingWallet policy.mint effect
  moved : amountMoved message.effects = amount

theorem amountMoved_creations {wallet mint : String} {effects : List (Option InstructionEffect)}
    (h : ∀ effect ∈ effects, IsCreation wallet mint effect) : amountMoved effects = 0 := by
  induction effects with
  | nil => rfl
  | cons effect rest ih =>
      obtain ⟨⟨account, owner, program, heffect⟩, hrest⟩ := List.forall_mem_cons.mp h
      rw [heffect]
      have hzero : amountMoved (some (.createAccount wallet account owner mint program) :: rest) =
          0 + amountMoved rest := rfl
      rw [hzero, ih hrest]

/-- What carries a request out makes the one transfer of the request. -/
theorem oneTransfer_of_carriesOut {library : SolanaLibrary} {policy : SolanaPayoutSignerPolicy}
    {planned : SolanaPayoutPlannedTransaction} {message : DecodedSolanaTransactionMessage}
    {transfer : SolanaTransferCheckedInstructionPlan} {amountAtomic : String}
    (hcarries : CarriesOut library policy planned message)
    (hsingle : planned.instructions.filterMap transferOf = [transfer])
    (htransfer : TransferOf policy amountAtomic transfer) :
    ∃ amount, parseAtomicAmount amountAtomic = some amount ∧
      OneTransfer policy planned.items amount message := by
  obtain ⟨front, instruction, back, hinstructions, hfront, hinstruction, hback⟩ :=
    List.filterMap_eq_cons_iff.mp hsingle
  rw [List.filterMap_eq_nil_iff] at hback
  -- the other instructions create accounts
  have hcreation : ∀ other ∈ front ++ back, IsCreation policy.fundingWallet policy.mint
      (SolanaPayoutInstructionPlan.effect other) := by
    intro other hother
    have hmem : other ∈ planned.instructions := by
      rw [hinstructions]
      rcases List.mem_append.mp hother with h | h
      · exact List.mem_append_left _ h
      · exact List.mem_append_right _ (List.mem_cons_of_mem _ h)
    have hnone : transferOf other = none := by
      rcases List.mem_append.mp hother with h | h
      · exact hfront other h
      · exact hback other h
    obtain ⟨actual, -, hpermitted, -⟩ := exists_left_of_mem hcarries.instructions hmem
    cases other with
    | transferChecked plan => cases hnone
    | createAssociatedTokenIdempotent plan =>
        obtain ⟨hpayer, hmint⟩ := hpermitted
        refine ⟨plan.associatedTokenAccount, plan.owner, plan.tokenProgramId, ?_⟩
        rw [← hpayer, ← hmint]
        rfl
  cases instruction with
  | createAssociatedTokenIdempotent plan => cases hinstruction
  | transferChecked plan =>
      obtain rfl := Option.some.inj hinstruction
      have hmem : SolanaPayoutInstructionPlan.transferChecked plan ∈ planned.instructions := by
        rw [hinstructions]
        exact List.mem_append_right _ List.mem_cons_self
      obtain ⟨actual, -, hpermitted, effect, -, heffect⟩ :=
        exists_left_of_mem hcarries.instructions hmem
      obtain ⟨⟨allowed, hallowed, hprogram⟩, hsource, hmint, hauthority, item, hitem, hdestination,
        -⟩ := hpermitted
      obtain ⟨amount, hamount, -⟩ := Option.map_eq_some_iff.mp heffect
      have htransferred : SolanaPayoutInstructionPlan.effect (.transferChecked plan) =
          some (.transfer plan.programId policy.sourceTokenAccount policy.mint plan.destination
            policy.fundingWallet amount plan.decimals) := by
        rw [SolanaPayoutInstructionPlan.effect, hamount, hsource, hmint, hauthority]
        rfl
      have heffects : message.effects = front.map SolanaPayoutInstructionPlan.effect ++
          some (.transfer plan.programId policy.sourceTokenAccount policy.mint plan.destination
            policy.fundingWallet amount plan.decimals) ::
            back.map SolanaPayoutInstructionPlan.effect := by
        rw [hcarries.effects_eq, SolanaPayoutPlannedTransaction.effects, hinstructions,
          List.map_append, List.map_cons, htransferred]
      have hothers : ∀ other ∈ front.map SolanaPayoutInstructionPlan.effect ++
          back.map SolanaPayoutInstructionPlan.effect,
          IsCreation policy.fundingWallet policy.mint other := by
        intro other hother
        rw [← List.map_append] at hother
        obtain ⟨creation, hcreate, rfl⟩ := List.mem_map.mp hother
        exact hcreation creation hcreate
      refine ⟨amount, htransfer.amount ▸ hamount, ?_, ?_⟩
      · refine ⟨_, _, plan.programId, plan.destination, plan.decimals, heffects,
          mem_of_allowed hallowed hprogram, ?_, hothers⟩
        exact ⟨item, List.mem_reverse.mp (List.mem_of_find?_eq_some hitem), hdestination.symm⟩
      · have hone : amountMoved (some (.transfer plan.programId policy.sourceTokenAccount policy.mint
            plan.destination policy.fundingWallet amount plan.decimals) ::
            back.map SolanaPayoutInstructionPlan.effect) =
            amount + amountMoved (back.map SolanaPayoutInstructionPlan.effect) := rfl
        have hbackZero := amountMoved_creations fun other h =>
          hothers other (List.mem_append_right _ h)
        have hfrontZero := amountMoved_creations fun other h =>
          hothers other (List.mem_append_left _ h)
        rw [heffects, amountMoved_append, hone, hfrontZero, hbackZero]
        omega

end PayoutSignerApp

end Split402

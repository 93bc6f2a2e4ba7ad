import Split402.Proof.MessageFormat
import Split402.Solana.PayoutSigner

/-! # What a signer lets through

A message has an effect: each of its instructions creates a token account or transfers tokens, and an
instruction of another kind may do anything. The bytes that the signer lets through have the effect
that the plan has, with the funding wallet as the only signer. -/

namespace Split402

open Base SolanaPlan

/-! ## Effects -/

/-- What an instruction does. -/
inductive InstructionEffect
  | createAccount (payer account owner mint tokenProgram : String)
  | transfer (tokenProgram source mint destination authority : String) (amount decimals : Nat)
  deriving DecidableEq, Repr

/-- The address of the system program. -/
def SYSTEM_PROGRAM_ID : String := "11111111111111111111111111111111"

/-- What the programs do with an instruction, as far as it is a payout's. -/
def effectOf (accountKeys : List String) (instruction : DecodedCompiledInstruction) :
    Option InstructionEffect := do
  let program ← accountKeys[instruction.programIdIndex.toNat]?
  let accounts ← instruction.accountIndexes.mapM fun index => accountKeys[index.toNat]?
  if program = ASSOCIATED_TOKEN_PROGRAM_ID then
    match accounts, instruction.data with
    | [payer, account, owner, mint, system, tokenProgram], [1] =>
        if system = SYSTEM_PROGRAM_ID then some (.createAccount payer account owner mint tokenProgram)
        else none
    | _, _ => none
  else if program ∈ TOKEN_PROGRAM_IDS then
    match accounts with
    | [source, mint, destination, authority] => do
        let (amount, decimals) ← decodeTransferCheckedInstructionData instruction.data
        some (.transfer program source mint destination authority amount decimals)
    | _ => none
  else none

/-- What a plan says an instruction is to do. -/
def SolanaPayoutInstructionPlan.effect : SolanaPayoutInstructionPlan → Option InstructionEffect
  | .createAssociatedTokenIdempotent plan =>
      some (.createAccount plan.payer plan.associatedTokenAccount plan.owner plan.mint
        plan.tokenProgramId)
  | .transferChecked plan =>
      (parseAtomicAmount plan.amountAtomic).map fun amount =>
        .transfer plan.programId plan.source plan.mint plan.destination plan.authority amount
          plan.decimals

/-! ## The bytes against the plan -/

section Guard

variable {library : SolanaLibrary} {policy : SolanaPayoutSignerPolicy}
  {plannedTransaction : SolanaPayoutPlannedTransaction}

/-- The policy lets the instruction of the plan be signed. -/
def Permitted (library : SolanaLibrary) (policy : SolanaPayoutSignerPolicy)
    (items : List SolanaPayoutPlannedItem) : SolanaPayoutInstructionPlan → Prop
  | .createAssociatedTokenIdempotent plan =>
      plan.payer = policy.fundingWallet ∧ plan.mint = policy.mint
  | .transferChecked plan =>
      (∃ allowed, readAllowedTokenProgramIds library policy.allowedTokenProgramIds = .ok allowed ∧
        plan.programId ∈ allowed) ∧
      plan.source = policy.sourceTokenAccount ∧ plan.mint = policy.mint ∧
      plan.authority = policy.fundingWallet ∧
      ∃ item, items.reverse.find? (·.payoutItemId = plan.payoutItemId) = some item ∧
        plan.destination = item.destinationTokenAccount ∧ plan.amountAtomic = item.amountAtomic

/-- The message does what the plan says. -/
structure CarriesOut (library : SolanaLibrary) (policy : SolanaPayoutSignerPolicy)
    (plannedTransaction : SolanaPayoutPlannedTransaction)
    (message : DecodedSolanaTransactionMessage) : Prop where
  fundingWallet : library.isAddress policy.fundingWallet = true
  signer : message.numRequiredSignatures = 1
  feePayer : message.accountKeys[0]? = some policy.fundingWallet
  noLookups : message.addressTableLookupCount = 0
  instructions : List.Forall₂ (fun actual planned =>
      Permitted library policy plannedTransaction.items planned ∧
        ∃ effect, effectOf message.accountKeys actual = some effect ∧
          SolanaPayoutInstructionPlan.effect planned = some effect)
    message.instructions plannedTransaction.instructions

theorem compareAccount_eq_nil {index : Nat} {label expected : String} {actual : Option String} :
    compareAccount index label actual expected = [] ↔ actual = some expected := by
  rw [compareAccount]
  by_cases h : actual = some expected
  · simp [h]
  · simp [h]

theorem instructionAccounts_eq_some {accountKeys accounts : List String} {count : Nat}
    {actual : DecodedCompiledInstruction} :
    instructionAccounts accountKeys actual count = some accounts ↔
      actual.accountIndexes.mapM (fun index => accountKeys[index.toNat]?) = some accounts ∧
        accounts.length = count := by
  rw [instructionAccounts, Option.filter_eq_some_iff, decide_eq_true_eq]

theorem effectOf_createAccount_iff {accountKeys : List String} {actual : DecodedCompiledInstruction}
    {program payer account owner mint tokenProgram : String}
    (hprogram : accountKeys[actual.programIdIndex.toNat]? = some program) :
    effectOf accountKeys actual = some (.createAccount payer account owner mint tokenProgram) ↔
      program = ASSOCIATED_TOKEN_PROGRAM_ID ∧ actual.data = [1] ∧
        instructionAccounts accountKeys actual 6 =
          some [payer, account, owner, mint, SYSTEM_PROGRAM_ID, tokenProgram] := by
  rw [instructionAccounts_eq_some]
  unfold effectOf
  rw [hprogram]
  simp only [Option.bind_eq_bind, Option.bind_some]
  constructor
  · intro h
    obtain ⟨accounts, haccounts, h⟩ := Option.bind_eq_some_iff.mp h
    by_cases hata : program = ASSOCIATED_TOKEN_PROGRAM_ID
    · rw [if_pos hata] at h
      split at h
      · rename_i payer' account' owner' mint' system tokenProgram' hdata
        by_cases hsystem : system = SYSTEM_PROGRAM_ID
        · rw [if_pos hsystem, Option.some_inj, InstructionEffect.createAccount.injEq] at h
          obtain ⟨rfl, rfl, rfl, rfl, rfl⟩ := h
          rw [hsystem] at haccounts
          exact ⟨hata, hdata, haccounts, rfl⟩
        · rw [if_neg hsystem] at h
          cases h
      · cases h
    · rw [if_neg hata] at h
      split at h
      · split at h
        · obtain ⟨_, _, h⟩ := Option.bind_eq_some_iff.mp h
          cases h
        · cases h
      · cases h
  · intro ⟨hata, hdata, haccounts, _⟩
    rw [haccounts, hata, hdata]
    rfl

theorem effectOf_transfer_iff {accountKeys : List String} {actual : DecodedCompiledInstruction}
    {program tokenProgram source mint destination authority : String} {amount decimals : Nat}
    (hprogram : accountKeys[actual.programIdIndex.toNat]? = some program) :
    effectOf accountKeys actual =
        some (.transfer tokenProgram source mint destination authority amount decimals) ↔
      program = tokenProgram ∧ program ∈ TOKEN_PROGRAM_IDS ∧
        decodeTransferCheckedInstructionData actual.data = some (amount, decimals) ∧
        instructionAccounts accountKeys actual 4 = some [source, mint, destination, authority] := by
  have hother : ASSOCIATED_TOKEN_PROGRAM_ID ∉ TOKEN_PROGRAM_IDS := by decide
  rw [instructionAccounts_eq_some]
  unfold effectOf
  rw [hprogram]
  simp only [Option.bind_eq_bind, Option.bind_some]
  constructor
  · intro h
    obtain ⟨accounts, haccounts, h⟩ := Option.bind_eq_some_iff.mp h
    by_cases hata : program = ASSOCIATED_TOKEN_PROGRAM_ID
    · rw [if_pos hata] at h
      split at h
      · split at h
        · cases h
        · cases h
      · cases h
    · rw [if_neg hata] at h
      by_cases htoken : program ∈ TOKEN_PROGRAM_IDS
      · rw [if_pos htoken] at h
        split at h
        · obtain ⟨⟨amount', decimals'⟩, hdata, h⟩ := Option.bind_eq_some_iff.mp h
          rw [Option.some_inj, InstructionEffect.transfer.injEq] at h
          obtain ⟨rfl, rfl, rfl, rfl, rfl, rfl, rfl⟩ := h
          exact ⟨rfl, htoken, hdata, haccounts, rfl⟩
        · cases h
      · rw [if_neg htoken] at h
        cases h
  · intro ⟨hsame, htoken, hdata, haccounts, _⟩
    have hata : program ≠ ASSOCIATED_TOKEN_PROGRAM_ID := fun h => hother (h ▸ htoken)
    rw [haccounts, Option.bind_some, if_neg hata, if_pos htoken, hdata, hsame]
    rfl

/-- The accounts are these six. -/
theorem eq_six_iff {accounts : List String} {a b c d e f : String} :
    (accounts.length = 6 ∧ accounts[0]? = some a ∧ accounts[1]? = some b ∧ accounts[2]? = some c ∧
      accounts[3]? = some d ∧ accounts[4]? = some e ∧ accounts[5]? = some f) ↔
      accounts = [a, b, c, d, e, f] := by
  constructor
  · intro ⟨hlength, h⟩
    match accounts, hlength with
    | [_, _, _, _, _, _], _ => simpa using h
  · intro h
    rw [h]
    exact ⟨rfl, rfl, rfl, rfl, rfl, rfl, rfl⟩

theorem eq_four_iff {accounts : List String} {a b c d : String} :
    (accounts.length = 4 ∧ accounts[0]? = some a ∧ accounts[1]? = some b ∧ accounts[2]? = some c ∧
      accounts[3]? = some d) ↔ accounts = [a, b, c, d] := by
  constructor
  · intro ⟨hlength, h⟩
    match accounts, hlength with
    | [_, _, _, _], _ => simpa using h
  · intro h
    rw [h]
    exact ⟨rfl, rfl, rfl, rfl, rfl⟩

/-- The creation of an account passes when it is the one of the plan. -/
theorem verifyCreate_eq_nil {index : Nat} {actual : DecodedCompiledInstruction} {program : String}
    {accountKeys : List String} {planned : SolanaCreateAssociatedTokenInstructionPlan}
    (hprogram : accountKeys[actual.programIdIndex.toNat]? = some program) :
    verifyCompiledCreateAssociatedTokenInstruction policy index actual program accountKeys planned =
        [] ↔
      (planned.payer = policy.fundingWallet ∧ planned.mint = policy.mint) ∧
      effectOf accountKeys actual = some (.createAccount planned.payer planned.associatedTokenAccount
        planned.owner planned.mint planned.tokenProgramId) := by
  rw [effectOf_createAccount_iff hprogram]
  unfold verifyCompiledCreateAssociatedTokenInstruction
  cases haccounts : instructionAccounts accountKeys actual 6 with
  | none => simp
  | some accounts =>
      have hlength := (instructionAccounts_eq_some.mp haccounts).2
      dsimp only
      rw [Option.some_inj, ← eq_six_iff]
      simp only [List.append_eq_nil_iff, compareAccount_eq_nil, ite_eq_right_iff, List.cons_ne_nil,
        imp_false, not_not, ne_eq]
      rw [SYSTEM_PROGRAM_ID]
      tauto

theorem verifyTransferData_eq_nil {index : Nat} {actual : DecodedCompiledInstruction}
    {planned : SolanaTransferCheckedInstructionPlan} :
    verifyTransferData index actual planned = [] ↔
      ∃ amount, parseAtomicAmount planned.amountAtomic = some amount ∧
        decodeTransferCheckedInstructionData actual.data = some (amount, planned.decimals) := by
  unfold verifyTransferData
  cases hdata : decodeTransferCheckedInstructionData actual.data with
  | none => simp
  | some decoded =>
      obtain ⟨amount, decimals⟩ := decoded
      simp only [List.append_eq_nil_iff, ite_eq_right_iff, List.cons_ne_nil, imp_false, not_not, ne_eq,
        Option.some_inj, Prod.mk.injEq]
      constructor
      · intro ⟨hamount, hdecimals⟩
        rw [← hamount]
        exact ⟨amount, parseAtomicAmount_serialize amount, rfl, hdecimals⟩
      · intro ⟨amount', hparse, hamount, hdecimals⟩
        rw [hamount, Base.Decimal.eq_toString_of_parse hparse]
        exact ⟨rfl, hdecimals⟩

theorem verifyPlannedItem_eq_nil {index : Nat} {planned : SolanaTransferCheckedInstructionPlan}
    {item : Option SolanaPayoutPlannedItem} :
    verifyPlannedItem index planned item = [] ↔ ∃ found, item = some found ∧
      planned.destination = found.destinationTokenAccount ∧
      planned.amountAtomic = found.amountAtomic := by
  cases item with
  | none => simp [verifyPlannedItem]
  | some item =>
      simp only [verifyPlannedItem, List.append_eq_nil_iff, compareAccount_eq_nil, ite_eq_right_iff,
        List.cons_ne_nil, imp_false, not_not, ne_eq, Option.some_inj, exists_eq_left']

/-- The token programs that a policy allows are supported. -/
theorem mem_of_allowed {allowed : List String} {program : String}
    (h : readAllowedTokenProgramIds library policy.allowedTokenProgramIds = .ok allowed)
    (hmem : program ∈ allowed) : program ∈ TOKEN_PROGRAM_IDS := by
  unfold readAllowedTokenProgramIds at h
  split at h
  · rw [pure_eq_ok] at h
    rwa [h]
  · exact absurd h throw_ne_ok
  · obtain ⟨value, -, hvalue⟩ := exists_of_mem_mapM h hmem
    obtain ⟨address, -, hvalue⟩ := bind_eq_ok.mp hvalue
    split at hvalue
    · rename_i htoken
      rw [pure_eq_ok] at hvalue
      rwa [← hvalue]
    · exact absurd hvalue throw_ne_ok

/-- A transfer passes when it is the one of the plan. -/
theorem verifyTransfer_eq_nil {allowed : List String} {index : Nat}
    {actual : DecodedCompiledInstruction} {program : String} {accountKeys : List String}
    {planned : SolanaTransferCheckedInstructionPlan} {item : Option SolanaPayoutPlannedItem}
    (hprogram : accountKeys[actual.programIdIndex.toNat]? = some program)
    (hallowed : ∀ id ∈ allowed, id ∈ TOKEN_PROGRAM_IDS) :
    verifyCompiledTransferCheckedInstruction policy allowed index actual program accountKeys planned
        item = [] ↔
      (planned.programId ∈ allowed ∧ planned.source = policy.sourceTokenAccount ∧
        planned.mint = policy.mint ∧ planned.authority = policy.fundingWallet ∧
        ∃ found, item = some found ∧ planned.destination = found.destinationTokenAccount ∧
          planned.amountAtomic = found.amountAtomic) ∧
      ∃ effect, effectOf accountKeys actual = some effect ∧
        SolanaPayoutInstructionPlan.effect (.transferChecked planned) = some effect := by
  have heffect : (∃ effect, effectOf accountKeys actual = some effect ∧
      SolanaPayoutInstructionPlan.effect (.transferChecked planned) = some effect) ↔
      program = planned.programId ∧ program ∈ TOKEN_PROGRAM_IDS ∧
      (∃ amount, parseAtomicAmount planned.amountAtomic = some amount ∧
        decodeTransferCheckedInstructionData actual.data = some (amount, planned.decimals)) ∧
      instructionAccounts accountKeys actual 4 =
        some [planned.source, planned.mint, planned.destination, planned.authority] := by
    simp only [SolanaPayoutInstructionPlan.effect, Option.map_eq_some_iff]
    constructor
    · intro ⟨effect, hactual, amount, hparse, hplanned⟩
      rw [← hplanned, effectOf_transfer_iff hprogram] at hactual
      obtain ⟨hsame, htoken, hdata, haccounts⟩ := hactual
      exact ⟨hsame, htoken, ⟨amount, hparse, hdata⟩, haccounts⟩
    · intro ⟨hsame, htoken, ⟨amount, hparse, hdata⟩, haccounts⟩
      exact ⟨_, (effectOf_transfer_iff hprogram).mpr ⟨hsame, htoken, hdata, haccounts⟩, amount, hparse,
        rfl⟩
  rw [heffect]
  unfold verifyCompiledTransferCheckedInstruction
  cases haccounts : instructionAccounts accountKeys actual 4 with
  | none => simp
  | some accounts =>
      have hlength := (instructionAccounts_eq_some.mp haccounts).2
      dsimp only
      rw [Option.some_inj, ← eq_four_iff]
      simp only [List.append_eq_nil_iff, compareAccount_eq_nil, verifyPlannedItem_eq_nil,
        verifyTransferData_eq_nil, ite_eq_right_iff, List.cons_ne_nil, imp_false, not_not, ne_eq,
        Option.some_inj]
      constructor
      · intro ⟨⟨hmem, hsame⟩, ⟨⟨⟨⟨⟨⟨⟨⟨h0, h1⟩, h2⟩, h3⟩, hsource⟩, hmint⟩, hauthority⟩, hitem⟩, hdata⟩⟩
        exact ⟨⟨hsame ▸ hmem, hsource, hmint, hauthority, hitem⟩, hsame, hallowed _ hmem, hdata, hlength,
          h0, h1, h2, h3⟩
      · intro ⟨⟨hmem, hsource, hmint, hauthority, hitem⟩, hsame, _, hdata, _, h0, h1, h2, h3⟩
        exact ⟨⟨hsame ▸ hmem, hsame⟩, ⟨⟨⟨⟨⟨⟨⟨⟨h0, h1⟩, h2⟩, h3⟩, hsource⟩, hmint⟩, hauthority⟩, hitem⟩, hdata⟩⟩

theorem verifyInstruction_eq_ok_nil {index : Nat} {accountKeys : List String}
    {actual : DecodedCompiledInstruction} {planned : SolanaPayoutInstructionPlan} :
    verifyInstruction library policy plannedTransaction index accountKeys actual planned = .ok [] ↔
      Permitted library policy plannedTransaction.items planned ∧
        ∃ effect, effectOf accountKeys actual = some effect ∧
          SolanaPayoutInstructionPlan.effect planned = some effect := by
  unfold verifyInstruction
  cases hprogram : accountKeys[actual.programIdIndex.toNat]? with
  | none =>
      have heffect : effectOf accountKeys actual = none := by
        rw [effectOf, hprogram]
        rfl
      simp [heffect]
  | some program =>
      dsimp only
      cases planned with
      | createAssociatedTokenIdempotent planned =>
          rw [pure_eq_ok, verifyCreate_eq_nil hprogram]
          simp only [Permitted, SolanaPayoutInstructionPlan.effect, Option.some_inj, exists_eq_right']
      | transferChecked planned =>
          dsimp only
          rw [bind_eq_ok]
          constructor
          · intro ⟨allowed, hallowed, h⟩
            rw [pure_eq_ok, verifyTransfer_eq_nil hprogram fun _ => mem_of_allowed hallowed] at h
            obtain ⟨⟨hmem, hrest⟩, heffect⟩ := h
            exact ⟨⟨⟨allowed, hallowed, hmem⟩, hrest⟩, heffect⟩
          · intro ⟨⟨⟨allowed, hallowed, hmem⟩, hrest⟩, heffect⟩
            refine ⟨allowed, hallowed, ?_⟩
            rw [pure_eq_ok, verifyTransfer_eq_nil hprogram fun _ => mem_of_allowed hallowed]
            exact ⟨⟨hmem, hrest⟩, heffect⟩

theorem verifySigners_eq_nil {message : DecodedSolanaTransactionMessage} :
    verifySigners library policy message = [] ↔ library.isAddress policy.fundingWallet = true ∧
      message.numRequiredSignatures = 1 ∧ message.accountKeys[0]? = some policy.fundingWallet := by
  unfold verifySigners
  by_cases haddress : library.isAddress policy.fundingWallet = true
  · by_cases hsigner : message.numRequiredSignatures = 1
    · by_cases hpayer : message.accountKeys[0]? = some policy.fundingWallet
      · simp [haddress, hsigner, hpayer]
      · simp [haddress, hpayer]
    · simp [haddress, hsigner]
  · simp [haddress]

/-- Every one of the checks has come to no error. -/
theorem mapM_eq_ok_nils {α : Type} {f : α → Except String (List String)} {xs : List α} :
    (∃ errors, xs.mapM f = .ok errors ∧ errors.flatten = []) ↔ ∀ x ∈ xs, f x = .ok [] := by
  constructor
  · intro ⟨errors, hmap, hnil⟩
    have hall := mapM_eq_ok_iff.mp hmap
    clear hmap
    induction hall with
    | nil => simp
    | @cons x e xs errors hx _ ih =>
        rw [List.flatten_cons, List.append_eq_nil_iff] at hnil
        rw [hnil.1] at hx
        intro y hy
        rcases List.mem_cons.mp hy with hsame | hy
        · rw [hsame]
          exact hx
        · exact ih hnil.2 y hy
  · intro hall
    refine ⟨xs.map fun _ => [], ?_, by simp⟩
    rw [mapM_eq_ok_iff, List.forall₂_map_right_iff, List.forall₂_same]
    exact hall

/-- The checks of the instructions come to no error when every instruction does what the plan says. -/
theorem verifyInstructions_eq_nil {message : DecodedSolanaTransactionMessage} :
    (∃ errors, (message.instructions.zip plannedTransaction.instructions).zipIdx.mapM
        (fun x => verifyInstruction library policy plannedTransaction x.2 message.accountKeys x.1.1
          x.1.2) = .ok errors ∧ errors.flatten = []) ↔
      ∀ pair ∈ message.instructions.zip plannedTransaction.instructions,
        Permitted library policy plannedTransaction.items pair.2 ∧
          ∃ effect, effectOf message.accountKeys pair.1 = some effect ∧
            SolanaPayoutInstructionPlan.effect pair.2 = some effect := by
  rw [mapM_eq_ok_nils]
  constructor
  · intro h pair hpair
    obtain ⟨i, hi, hget⟩ := List.getElem_of_mem hpair
    have hmem : (pair, i) ∈
        (message.instructions.zip plannedTransaction.instructions).zipIdx := by
      rw [List.mem_zipIdx_iff_getElem?, List.getElem?_eq_getElem hi, hget]
    exact verifyInstruction_eq_ok_nil.mp (h _ hmem)
  · intro h x hx
    exact verifyInstruction_eq_ok_nil.mpr (h x.1 (List.fst_mem_of_mem_zipIdx hx))

/-- Bytes that are found without fault carry the plan out. -/
theorem carriesOut_of_verified {transactionBase64 : String} {result : ProtocolVerificationResult}
    (hresult : verifySolanaPayoutTransactionBytesAgainstPlan library policy transactionBase64
      plannedTransaction = .ok result) (hok : result.ok = true) :
    ∃ message, decodeSolanaTransactionMessageBytes library transactionBase64 = .ok message ∧
      CarriesOut library policy plannedTransaction message := by
  unfold verifySolanaPayoutTransactionBytesAgainstPlan at hresult
  cases hdecode : decodeSolanaTransactionMessageBytes library transactionBase64 with
  | error e =>
      rw [hdecode] at hresult
      dsimp only at hresult
      rw [pure_eq_ok] at hresult
      rw [← hresult] at hok
      cases hok
  | ok message =>
      rw [hdecode] at hresult
      obtain ⟨errors, herrors, hresult⟩ := bind_eq_ok.mp hresult
      rw [pure_eq_ok] at hresult
      rw [← hresult, resultOf, List.isEmpty_iff] at hok
      simp only [List.append_eq_nil_iff, verifySigners_eq_nil, ite_eq_right_iff, List.cons_ne_nil,
        imp_false, not_not, ne_eq] at hok
      obtain ⟨⟨⟨⟨haddress, hsigner, hpayer⟩, hlookups⟩, hlength⟩, hnil⟩ := hok
      have hpairs := verifyInstructions_eq_nil.mp ⟨errors, herrors, hnil⟩
      refine ⟨message, rfl, haddress, hsigner, hpayer, hlookups, ?_⟩
      rw [List.forall₂_iff_zip]
      exact ⟨hlength, fun hpair => hpairs _ hpair⟩

/-- In bytes that carry the plan out no fault is found. -/
theorem verified_of_carriesOut {transactionBase64 : String} {message : DecodedSolanaTransactionMessage}
    (hdecode : decodeSolanaTransactionMessageBytes library transactionBase64 = .ok message)
    (hcarries : CarriesOut library policy plannedTransaction message) :
    ∃ result, verifySolanaPayoutTransactionBytesAgainstPlan library policy transactionBase64
      plannedTransaction = .ok result ∧ result.ok = true := by
  obtain ⟨hlength, hpairs⟩ := List.forall₂_iff_zip.mp hcarries.instructions
  obtain ⟨errors, herrors, hnil⟩ := verifyInstructions_eq_nil.mpr fun pair hpair => hpairs hpair
  have hsigners := verifySigners_eq_nil.mpr
    ⟨hcarries.fundingWallet, hcarries.signer, hcarries.feePayer⟩
  unfold verifySolanaPayoutTransactionBytesAgainstPlan
  rw [hdecode]
  refine ⟨_, bind_eq_ok.mpr ⟨errors, herrors, rfl⟩, ?_⟩
  rw [resultOf, List.isEmpty_iff]
  simp [hsigners, hcarries.noLookups, hlength, hnil]

/-- **The signer lets exactly those bytes through that carry the plan out**: it finds no fault with
them if and only if they are a transaction whose message does what the plan says, instruction by
instruction, and is signed by the funding wallet alone. -/
theorem verify_bytes_iff (library : SolanaLibrary) (policy : SolanaPayoutSignerPolicy)
    (transactionBase64 : String) (plannedTransaction : SolanaPayoutPlannedTransaction) :
    (∃ result, verifySolanaPayoutTransactionBytesAgainstPlan library policy transactionBase64
        plannedTransaction = .ok result ∧ result.ok = true) ↔
      ∃ message, decodeSolanaTransactionMessageBytes library transactionBase64 = .ok message ∧
        CarriesOut library policy plannedTransaction message := by
  constructor
  · intro ⟨result, hresult, hok⟩
    exact carriesOut_of_verified hresult hok
  · intro ⟨message, hdecode, hcarries⟩
    exact verified_of_carriesOut hdecode hcarries

end Guard

end Split402

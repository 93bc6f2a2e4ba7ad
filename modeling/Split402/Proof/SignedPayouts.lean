import Split402.Proof.ReceiptHash
import Split402.Proof.SigningGuard

/-! # What signed payouts pay

The plan of a batch has a transfer for every item, spread over its transactions in their order. The
signer lets bytes through only if they carry out a transaction of the plan. So the signed transactions
of a batch together pay the items of the batch, each once, and no one else. -/

namespace Split402

open Base SolanaPlan

/-! ## Effects -/

/-- The tokens that an effect moves. -/
def InstructionEffect.amount : InstructionEffect → Nat
  | .createAccount _ _ _ _ _ => 0
  | .transfer _ _ _ _ _ amount _ => amount

/-- The tokens that some effects move together. -/
def amountMoved (effects : List (Option InstructionEffect)) : Nat :=
  (effects.map fun effect => (effect.map InstructionEffect.amount).getD 0).sum

/-- What the instructions of a message do, one after the other. -/
def DecodedSolanaTransactionMessage.effects (message : DecodedSolanaTransactionMessage) :
    List (Option InstructionEffect) :=
  message.instructions.map (effectOf message.accountKeys)

def SolanaPayoutPlannedTransaction.effects (transaction : SolanaPayoutPlannedTransaction) :
    List (Option InstructionEffect) :=
  transaction.instructions.map SolanaPayoutInstructionPlan.effect

/-- What discharges an item of a batch: its account is created if it names none, and it is paid. -/
inductive Discharges (library : SolanaLibrary) (tokenProgram source mint authority : String)
    (decimals : Nat) : PayoutItemRecord → List InstructionEffect → Prop
  | named {record : PayoutItemRecord} {account : String} {amount : Nat}
      (haccount : record.destinationTokenAccount = some account)
      (hamount : parseAtomicAmount record.amountAtomic = some amount) :
      Discharges library tokenProgram source mint authority decimals record
        [.transfer tokenProgram source mint account authority amount decimals]
  | derived {record : PayoutItemRecord} {account : String} {amount : Nat}
      (haccount : record.destinationTokenAccount = none)
      (hderived : library.findAssociatedTokenPda record.destinationWallet tokenProgram mint = .ok account)
      (hamount : parseAtomicAmount record.amountAtomic = some amount) :
      Discharges library tokenProgram source mint authority decimals record
        [.createAccount authority account record.destinationWallet mint tokenProgram,
          .transfer tokenProgram source mint account authority amount decimals]

theorem amountMoved_append (xs ys : List (Option InstructionEffect)) :
    amountMoved (xs ++ ys) = amountMoved xs + amountMoved ys := by
  rw [amountMoved, List.map_append, List.sum_append, amountMoved, amountMoved]

/-- A message that carries a transaction of the plan out does what the transaction says. -/
theorem CarriesOut.effects_eq {library : SolanaLibrary} {policy : SolanaPayoutSignerPolicy}
    {plannedTransaction : SolanaPayoutPlannedTransaction} {message : DecodedSolanaTransactionMessage}
    (h : CarriesOut library policy plannedTransaction message) :
    message.effects = plannedTransaction.effects := by
  have hinstructions := h.instructions
  unfold DecodedSolanaTransactionMessage.effects SolanaPayoutPlannedTransaction.effects
  generalize plannedTransaction.instructions = planned at hinstructions
  generalize message.instructions = actual at hinstructions
  induction hinstructions with
  | nil => rfl
  | cons hhead _ ih =>
      obtain ⟨-, effect, hactual, hplanned⟩ := hhead
      rw [List.map_cons, List.map_cons, hactual, hplanned, ih]

/-! ## Plans -/

theorem flatten_slices {α : Type} (items : List α) (size count : Nat) :
    ((List.range count).map fun chunk => (items.drop (chunk * size)).take size).flatten =
      items.take (count * size) := by
  induction count with
  | zero => simp
  | succ count ih =>
      rw [List.range_succ, List.map_append, List.flatten_append, ih, List.map_singleton,
        List.flatten_singleton, Nat.succ_mul, List.take_add]

/-- The slices of a list are the list. -/
theorem flatten_chunkItems {α : Type} {items : List α} {size : Nat} (hsize : 0 < size) :
    (chunkItems items size).flatten = items := by
  rw [chunkItems, flatten_slices, List.take_of_length_le]
  have hdiv := Nat.div_add_mod (items.length + size - 1) size
  have hmod := Nat.mod_lt (items.length + size - 1) hsize
  have hcomm := Nat.mul_comm size ((items.length + size - 1) / size)
  omega

/-- No slice is empty. -/
theorem ne_nil_of_mem_chunkItems {α : Type} {items chunk : List α} {size : Nat} (hsize : 0 < size)
    (h : chunk ∈ chunkItems items size) : chunk ≠ [] := by
  obtain ⟨k, hk, rfl⟩ := List.mem_map.mp h
  have hle : (k + 1) * size ≤ items.length + size - 1 :=
    (Nat.le_div_iff_mul_le hsize).mp (List.mem_range.mp hk)
  rw [Nat.succ_mul] at hle
  refine List.ne_nil_of_length_pos ?_
  rw [List.length_take, List.length_drop]
  omega

/-- The instructions that a plan has for its items. -/
def SolanaPayoutTransactionPlan.instructionsOf (plan : SolanaPayoutTransactionPlan)
    (items : List SolanaPayoutPlannedItem) : List SolanaPayoutInstructionPlan :=
  items.flatMap fun item => createSolanaPayoutInstructions item plan.asset plan.fundingWallet
    plan.sourceTokenAccount plan.tokenDecimals plan.tokenProgramId

/-- What a plan has been made of. -/
structure PlanOf (library : SolanaLibrary) (input : CreateSolanaPayoutTransactionPlanInput)
    (plan : SolanaPayoutTransactionPlan) : Prop where
  batchId : plan.batchId = input.batch.id
  asset : plan.asset = input.batch.asset
  total : plan.totalAmountAtomic = input.batch.totalAmountAtomic
  indexes : plan.transactions.map (·.index) = List.range plan.transactions.length
  nonempty : ∀ transaction ∈ plan.transactions, transaction.items ≠ []
  items : List.Forall₂ (fun record item =>
      planSolanaPayoutItem library record plan.asset plan.tokenProgramId = .ok item)
    input.batch.items (plan.transactions.flatMap (·.items))
  instructions : ∀ transaction ∈ plan.transactions,
    transaction.instructions = plan.instructionsOf transaction.items
  amounts : ∃ amounts : List Nat, (plan.transactions.flatMap (·.items)).mapM
    (fun item => readBigInt item.amountAtomic) = .ok amounts ∧
      plan.totalAmountAtomic = serializeAtomicAmount amounts.sum

theorem require_eq_ok {condition : Bool} {message : String} {u : Unit} :
    require condition message = .ok u ↔ condition = true := by
  cases condition with
  | false => exact iff_of_false throw_ne_ok Bool.false_ne_true
  | true => exact iff_of_true rfl rfl

theorem assertSolanaAddress_eq_ok {library : SolanaLibrary} {value label address : String}
    (h : assertSolanaAddress library value label = .ok address) : address = value := by
  unfold assertSolanaAddress at h
  split at h
  · rw [pure_eq_ok] at h
    exact h.symm
  · exact absurd h throw_ne_ok

theorem createPlan_eq_ok {library : SolanaLibrary} {input : CreateSolanaPayoutTransactionPlanInput}
    {plan : SolanaPayoutTransactionPlan}
    (h : createSolanaPayoutTransactionPlan library input = .ok plan) : PlanOf library input plan := by
  unfold createSolanaPayoutTransactionPlan at h
  obtain ⟨_, -, h⟩ := bind_eq_ok.mp h
  obtain ⟨decimals, -, h⟩ := bind_eq_ok.mp h
  obtain ⟨fundingWallet, -, h⟩ := bind_eq_ok.mp h
  obtain ⟨asset, hasset, h⟩ := bind_eq_ok.mp h
  obtain ⟨_, -, h⟩ := bind_eq_ok.mp h
  obtain ⟨_, -, h⟩ := bind_eq_ok.mp h
  obtain ⟨maxItems, -, h⟩ := bind_eq_ok.mp h
  obtain ⟨_, hmax, h⟩ := bind_eq_ok.mp h
  obtain ⟨sourceTokenAccount, -, h⟩ := bind_eq_ok.mp h
  obtain ⟨items, hitems, h⟩ := bind_eq_ok.mp h
  obtain ⟨amounts, hamounts, h⟩ := bind_eq_ok.mp h
  obtain ⟨_, htotal, h⟩ := bind_eq_ok.mp h
  rw [pure_eq_ok] at h
  subst h
  have hflat : ((chunkItems items maxItems).zipIdx.map fun chunk =>
      (⟨chunk.2, chunk.1, chunk.1.flatMap fun item => createSolanaPayoutInstructions item asset
        fundingWallet sourceTokenAccount decimals (input.tokenProgramId.getD SOLANA_TOKEN_PROGRAM_ID)⟩ :
        SolanaPayoutPlannedTransaction)).flatMap (·.items) = items := by
    rw [List.flatMap_map, List.flatMap_def]
    have hfst : (chunkItems items maxItems).zipIdx.map (fun chunk => chunk.1) =
        chunkItems items maxItems := List.zipIdx_map_fst _ _
    rw [hfst]
    exact flatten_chunkItems (of_decide_eq_true (require_eq_ok.mp hmax))
  have hsize : 0 < maxItems := of_decide_eq_true (require_eq_ok.mp hmax)
  refine ⟨rfl, assertSolanaAddress_eq_ok hasset, of_decide_eq_true (require_eq_ok.mp htotal), ?_, ?_,
    ?_, ?_, amounts, ?_, rfl⟩
  · show List.map _ (List.map _ _) = _
    rw [List.map_map, List.length_map, List.length_zipIdx]
    rw [List.range_eq_range']
    exact List.zipIdx_map_snd 0 _
  · intro transaction htransaction
    obtain ⟨chunk, hchunk, rfl⟩ := List.mem_map.mp htransaction
    exact ne_nil_of_mem_chunkItems hsize (List.fst_mem_of_mem_zipIdx hchunk)
  · rw [hflat]
    exact mapM_eq_ok_iff.mp hitems
  · intro transaction htransaction
    obtain ⟨chunk, -, rfl⟩ := List.mem_map.mp htransaction
    rfl
  · rw [hflat]
    exact hamounts

/-! ### What the instructions of an item do -/

theorem readBigInt_eq_ok {value : String} {amount : Nat} :
    readBigInt value = .ok amount ↔ parseAtomicAmount value = some amount := by
  unfold readBigInt
  cases parseAtomicAmount value with
  | none => exact iff_of_false throw_ne_ok (fun h => by cases h)
  | some n => rw [pure_eq_ok, Option.some_inj]

theorem exists_of_assertPositive {value label : String} {u : Unit}
    (h : assertPositiveAtomicAmount value label = .ok u) :
    ∃ amount, parseAtomicAmount value = some amount ∧ 0 < amount := by
  unfold assertPositiveAtomicAmount at h
  cases hparse : parseAtomicAmount value with
  | none =>
      rw [hparse] at h
      exact absurd h throw_ne_ok
  | some amount =>
      rw [hparse] at h
      by_cases hpos : 0 < amount
      · exact ⟨amount, rfl, hpos⟩
      · rw [if_neg (by simpa using hpos)] at h
        exact absurd h throw_ne_ok

section Items

variable {library : SolanaLibrary} {plan : SolanaPayoutTransactionPlan}

/-- The instructions of an item discharge it. -/
theorem exists_discharges {record : PayoutItemRecord} {item : SolanaPayoutPlannedItem}
    (h : planSolanaPayoutItem library record plan.asset plan.tokenProgramId = .ok item) :
    ∃ effects, Discharges library plan.tokenProgramId plan.sourceTokenAccount plan.asset
        plan.fundingWallet plan.tokenDecimals record effects ∧
      (plan.instructionsOf [item]).map SolanaPayoutInstructionPlan.effect = effects.map some := by
  obtain ⟨_, -, h⟩ := bind_eq_ok.mp h
  obtain ⟨wallet, hwallet, h⟩ := bind_eq_ok.mp h
  obtain ⟨account, haccount, h⟩ := bind_eq_ok.mp h
  obtain ⟨_, hamount, h⟩ := bind_eq_ok.mp h
  obtain ⟨amount, hparse, -⟩ := exists_of_assertPositive hamount
  rw [pure_eq_ok] at h
  have hsame := assertSolanaAddress_eq_ok hwallet
  subst hsame
  subst h
  cases hnamed : record.destinationTokenAccount with
  | none =>
      rw [hnamed] at haccount
      refine ⟨_, .derived hnamed haccount hparse, ?_⟩
      simp [SolanaPayoutTransactionPlan.instructionsOf, createSolanaPayoutInstructions,
        SolanaPayoutInstructionPlan.effect, hparse]
  | some named =>
      rw [hnamed] at haccount
      have hsame := assertSolanaAddress_eq_ok haccount
      subst hsame
      refine ⟨_, .named hnamed hparse, ?_⟩
      simp [SolanaPayoutTransactionPlan.instructionsOf, createSolanaPayoutInstructions,
        SolanaPayoutInstructionPlan.effect, hparse]

/-- The instructions of all items discharge them, one after the other. -/
theorem exists_discharges_all {records : List PayoutItemRecord} {items : List SolanaPayoutPlannedItem}
    (h : List.Forall₂ (fun record item =>
      planSolanaPayoutItem library record plan.asset plan.tokenProgramId = .ok item) records items) :
    ∃ effects, List.Forall₂ (Discharges library plan.tokenProgramId plan.sourceTokenAccount plan.asset
        plan.fundingWallet plan.tokenDecimals) records effects ∧
      (plan.instructionsOf items).map SolanaPayoutInstructionPlan.effect = effects.flatten.map some := by
  induction h with
  | nil => exact ⟨[], .nil, rfl⟩
  | @cons record item records items hitem _ ih =>
      obtain ⟨first, hfirst, hone⟩ := exists_discharges hitem
      obtain ⟨rest, hrest, hall⟩ := ih
      refine ⟨first :: rest, .cons hfirst hrest, ?_⟩
      have hcons : plan.instructionsOf (item :: items) =
          plan.instructionsOf [item] ++ plan.instructionsOf items := by
        simp [SolanaPayoutTransactionPlan.instructionsOf]
      rw [hcons, List.map_append, hone, hall, List.flatten_cons, List.map_append]

/-- The amounts of some items together. -/
def plannedAmount (items : List SolanaPayoutPlannedItem) : Nat :=
  (items.map fun item => (parseAtomicAmount item.amountAtomic).getD 0).sum

theorem plannedAmount_eq_sum {items : List SolanaPayoutPlannedItem} {amounts : List Nat}
    (h : items.mapM (fun item => readBigInt item.amountAtomic) = .ok amounts) :
    plannedAmount items = amounts.sum := by
  have hall := mapM_eq_ok_iff.mp h
  clear h
  induction hall with
  | nil => rfl
  | cons hhead _ ih =>
      rw [plannedAmount, List.map_cons, List.sum_cons, List.sum_cons, readBigInt_eq_ok.mp hhead]
      unfold plannedAmount at ih
      rw [ih]
      rfl

/-- The instructions of some items move what the items come to. -/
theorem amountMoved_instructionsOf (items : List SolanaPayoutPlannedItem) :
    amountMoved ((plan.instructionsOf items).map SolanaPayoutInstructionPlan.effect) =
      plannedAmount items := by
  induction items with
  | nil => rfl
  | cons item items ih =>
      have hcons : plan.instructionsOf (item :: items) =
          plan.instructionsOf [item] ++ plan.instructionsOf items := by
        simp [SolanaPayoutTransactionPlan.instructionsOf]
      have hone : amountMoved ((plan.instructionsOf [item]).map SolanaPayoutInstructionPlan.effect) =
          (parseAtomicAmount item.amountAtomic).getD 0 := by
        cases hcreate : item.createAssociatedTokenAccount <;>
          cases hparse : parseAtomicAmount item.amountAtomic <;>
            simp [SolanaPayoutTransactionPlan.instructionsOf, createSolanaPayoutInstructions,
              SolanaPayoutInstructionPlan.effect, amountMoved, InstructionEffect.amount, hcreate, hparse]
      rw [hcons, List.map_append, amountMoved_append, hone, ih, plannedAmount, plannedAmount,
        List.map_cons, List.sum_cons]

end Items

/-! ## Signing -/

theorem assertBase64_eq_ok {value label bytes : String}
    (h : assertBase64Transaction value label = .ok bytes) : bytes = value := by
  unfold assertBase64Transaction at h
  split at h
  · rw [pure_eq_ok] at h
    exact h.symm
  · exact absurd h throw_ne_ok

/-- The serialized transactions are those that have been submitted, no two for one index. -/
theorem readSerialized_eq_ok {input : SignSolanaPayoutTransactionsInput}
    {serialized : List SolanaSerializedPayoutTransaction}
    (h : readSerializedPayoutTransactions input = .ok serialized) :
    serialized = input.transactions ∧ (input.transactions.map (·.index)).Nodup ∧
      (∀ transaction ∈ input.transactions,
        transaction.index ∈ input.plan.transactions.map (·.index)) ∧
      input.transactions.length = input.plan.transactions.length := by
  obtain ⟨final, hfold, h⟩ := bind_eq_ok.mp h
  obtain ⟨_, hlength, h⟩ := bind_eq_ok.mp h
  rw [pure_eq_ok] at h
  subst h
  have hloop : ∀ (rest done : List SolanaSerializedPayoutTransaction) {final},
      rest.foldlM (readSerializedPayoutTransaction input.plan) done = .ok final →
      (done.map (·.index)).Nodup →
      final = done ++ rest ∧ ((done ++ rest).map (·.index)).Nodup ∧
        ∀ transaction ∈ rest, transaction.index ∈ input.plan.transactions.map (·.index) := by
    intro rest
    induction rest with
    | nil =>
        intro done final hfold hnodup
        rw [List.foldlM_nil, pure_eq_ok] at hfold
        rw [← hfold, List.append_nil]
        exact ⟨rfl, hnodup, by simp⟩
    | cons transaction rest ih =>
        intro done final hfold hnodup
        rw [List.foldlM_cons] at hfold
        obtain ⟨next, hnext, hfold⟩ := bind_eq_ok.mp hfold
        obtain ⟨_, hplanned, hnext⟩ := bind_eq_ok.mp hnext
        obtain ⟨_, hnew, hnext⟩ := bind_eq_ok.mp hnext
        obtain ⟨bytes, hbytes, hnext⟩ := bind_eq_ok.mp hnext
        rw [pure_eq_ok, assertBase64_eq_ok hbytes] at hnext
        rw [require_eq_ok] at hplanned hnew
        have hfresh : ∀ other ∈ done, other.index ≠ transaction.index := by
          simpa using hnew
        have hnodup' : (next.map (·.index)).Nodup := by
          rw [← hnext, List.map_append, List.nodup_append]
          refine ⟨hnodup, by simp, ?_⟩
          intro a ha b hb
          obtain ⟨other, hother, rfl⟩ := List.mem_map.mp ha
          rw [List.map_singleton, List.mem_singleton] at hb
          rw [hb]
          exact hfresh other hother
        obtain ⟨hfinal, hall, hmem⟩ := ih next hfold hnodup'
        rw [← hnext, List.append_assoc] at hfinal hall
        refine ⟨hfinal, hall, ?_⟩
        intro other hother
        rcases List.mem_cons.mp hother with hother | hother
        · rw [hother]
          obtain ⟨planned, hmem, hindex⟩ := List.any_eq_true.mp hplanned
          exact List.mem_map.mpr ⟨planned, hmem, of_decide_eq_true hindex⟩
        · exact hmem other hother
  obtain ⟨hfinal, hnodup, hmem⟩ := hloop input.transactions [] hfold List.nodup_nil
  rw [List.nil_append] at hfinal hnodup
  refine ⟨hfinal, hnodup, hmem, ?_⟩
  rw [← hfinal]
  exact of_decide_eq_true (require_eq_ok.mp hlength)

section Signing

variable {ν : Type} {runtime : Runtime ν} {library : SolanaLibrary} {policy : SolanaPayoutSignerPolicy}
  {plan : SolanaPayoutTransactionPlan} {signerReference label : String}
  {external : SolanaPayoutTransactionSigningDelegate}

/-- The bytes that are handed on have been decoded and carry the transaction of the plan out. -/
theorem guardedDelegate_eq_ok {input : SolanaPayoutTransactionSigningDelegateInput}
    {result : SolanaPayoutTransactionSigningDelegateResult}
    (h : guardedDelegate library policy signerReference label external input = .ok result) :
    external input = .ok result ∧ ∃ message,
      decodeSolanaTransactionMessageBytes library input.transactionBase64 = .ok message ∧
        CarriesOut library policy input.plannedTransaction message := by
  obtain ⟨_, -, h⟩ := bind_eq_ok.mp h
  obtain ⟨_, hguard, h⟩ := bind_eq_ok.mp h
  refine ⟨h, ?_⟩
  obtain ⟨verdict, hverdict, hguard⟩ := bind_eq_ok.mp hguard
  cases hok : verdict.ok with
  | false =>
      rw [hok] at hguard
      exact absurd hguard throw_ne_ok
  | true => exact carriesOut_of_verified hverdict hok

/-- The bytes of a signed transaction: where they come from and who has signed them. -/
def HandedOver (library : SolanaLibrary) (external : SolanaPayoutTransactionSigningDelegate)
    (submitted : List SolanaSerializedPayoutTransaction) (signed : SolanaSignedPayoutTransaction)
    (message : DecodedSolanaTransactionMessage) : Prop :=
  ∃ transaction ∈ submitted, transaction.index = signed.index ∧
    decodeSolanaTransactionMessageBytes library transaction.transactionBase64 = .ok message ∧
    ∃ call result, external call = .ok result ∧
      call.transactionBase64 = transaction.transactionBase64 ∧
      result.signedTransactionBase64 = signed.signedTransactionBase64

/-- One round of the loop signs bytes that carry the transaction of the plan out. -/
theorem signPlannedTransaction_eq_ok {hash : String}
    {serialized : List SolanaSerializedPayoutTransaction}
    {plannedTransaction : SolanaPayoutPlannedTransaction} {signed : SolanaSignedPayoutTransaction}
    (h : signPlannedTransaction policy plan
      (guardedDelegate library policy signerReference label external) hash serialized
      plannedTransaction = .ok signed) :
    signed.index = plannedTransaction.index ∧ ∃ message,
      HandedOver library external serialized signed message ∧
        CarriesOut library policy plannedTransaction message := by
  unfold signPlannedTransaction at h
  cases hfind : serialized.find? (·.index = plannedTransaction.index) with
  | none =>
      rw [hfind] at h
      exact absurd h throw_ne_ok
  | some transaction =>
      rw [hfind] at h
      dsimp only at h
      have hindex : transaction.index = plannedTransaction.index := by
        simpa using List.find?_some hfind
      obtain ⟨amount, -, h⟩ := bind_eq_ok.mp h
      obtain ⟨result, hresult, h⟩ := bind_eq_ok.mp h
      obtain ⟨bytes, hbytes, h⟩ := bind_eq_ok.mp h
      obtain ⟨signature, -, h⟩ := bind_eq_ok.mp h
      rw [pure_eq_ok] at h
      subst h
      obtain ⟨hexternal, message, hdecode, hcarries⟩ := guardedDelegate_eq_ok hresult
      refine ⟨rfl, message, ⟨transaction, List.mem_of_find?_eq_some hfind, hindex, hdecode, _, result,
        hexternal, rfl, (assertBase64_eq_ok hbytes).symm⟩, hcarries⟩

/-- What the policy has been found to say of the plan. -/
theorem assertPayoutSignerPolicy_eq_ok {hash : String} {report : Option SolanaPayoutSimulationReport}
    {u : Unit} (h : assertPayoutSignerPolicy library policy plan hash report = .ok u) :
    plan.fundingWallet = policy.fundingWallet ∧ plan.sourceTokenAccount = policy.sourceTokenAccount ∧
      assertPayoutSignerAmountLimits policy plan = .ok () := by
  obtain ⟨_, -, h⟩ := bind_eq_ok.mp h
  obtain ⟨_, -, h⟩ := bind_eq_ok.mp h
  obtain ⟨_, -, h⟩ := bind_eq_ok.mp h
  obtain ⟨wallet, hwallet, h⟩ := bind_eq_ok.mp h
  obtain ⟨_, hfunding, h⟩ := bind_eq_ok.mp h
  obtain ⟨source, hsource, h⟩ := bind_eq_ok.mp h
  obtain ⟨_, hsame, h⟩ := bind_eq_ok.mp h
  obtain ⟨_, -, h⟩ := bind_eq_ok.mp h
  obtain ⟨_, -, h⟩ := bind_eq_ok.mp h
  obtain ⟨_, -, h⟩ := bind_eq_ok.mp h
  obtain ⟨_, -, h⟩ := bind_eq_ok.mp h
  obtain ⟨_, -, h⟩ := bind_eq_ok.mp h
  obtain ⟨_, -, h⟩ := bind_eq_ok.mp h
  obtain ⟨_, hlimits, h⟩ := bind_eq_ok.mp h
  refine ⟨?_, ?_, hlimits⟩
  · rw [of_decide_eq_true (require_eq_ok.mp hfunding), assertSolanaAddress_eq_ok hwallet]
  · rw [of_decide_eq_true (require_eq_ok.mp hsame), assertSolanaAddress_eq_ok hsource]

theorem readOptionalAtomicLimit_eq_ok {limit : String} {read : Option Nat}
    (h : readOptionalAtomicLimit (some limit) label = .ok read) :
    ∃ n, parseAtomicAmount limit = some n ∧ read = some n := by
  obtain ⟨_, -, h⟩ := bind_eq_ok.mp h
  rw [map_eq_ok] at h
  obtain ⟨n, hn, h⟩ := h
  exact ⟨n, readBigInt_eq_ok.mp hn, h.symm⟩

/-! ## The batch -/

/-- What the signatures of a batch come to. -/
structure SignedBatch (library : SolanaLibrary) (policy : SolanaPayoutSignerPolicy)
    (external : SolanaPayoutTransactionSigningDelegate) (batch : PayoutBatchRecord)
    (plan : SolanaPayoutTransactionPlan) (submitted : List SolanaSerializedPayoutTransaction)
    (signed : List SolanaSignedPayoutTransaction) (messages : List DecodedSolanaTransactionMessage) :
    Prop where
  /-- A signature is over bytes that have been submitted, and these decode to a message. -/
  handedOver : List.Forall₂ (HandedOver library external submitted) signed messages
  /-- Every transaction that has been submitted is signed, once. -/
  once : (submitted.map (·.index)).Perm (signed.map (·.index)) ∧ (signed.map (·.index)).Nodup
  soleSigner : ∀ message ∈ messages, message.numRequiredSignatures = 1 ∧
    message.accountKeys[0]? = some policy.fundingWallet ∧ message.addressTableLookupCount = 0
  /-- The messages do for one item after the other what discharges it, and nothing else. -/
  effects : ∃ effects, List.Forall₂ (Discharges library plan.tokenProgramId policy.sourceTokenAccount
      batch.asset policy.fundingWallet plan.tokenDecimals) batch.items effects ∧
    messages.flatMap (·.effects) = effects.flatten.map some
  total : batch.totalAmountAtomic =
    serializeAtomicAmount (amountMoved (messages.flatMap (·.effects)))
  batchLimit : ∀ limit, policy.maxBatchAmountAtomic = some limit →
    ∃ most, parseAtomicAmount limit = some most ∧ amountMoved (messages.flatMap (·.effects)) ≤ most
  transactionLimit : ∀ limit, policy.maxTransactionAmountAtomic = some limit →
    ∃ most, parseAtomicAmount limit = some most ∧ ∀ message ∈ messages, amountMoved message.effects ≤ most

/-- The rounds of the loop, with the message of each. -/
theorem exists_messages {hash : String} {serialized : List SolanaSerializedPayoutTransaction}
    {transactions : List SolanaPayoutPlannedTransaction} {signed : List SolanaSignedPayoutTransaction}
    (h : List.Forall₂ (fun plannedTransaction signed => signPlannedTransaction policy plan
      (guardedDelegate library policy signerReference label external) hash serialized
      plannedTransaction = .ok signed) transactions signed) :
    signed.map (·.index) = transactions.map (·.index) ∧ ∃ messages,
      List.Forall₂ (HandedOver library external serialized) signed messages ∧
        List.Forall₂ (CarriesOut library policy) transactions messages := by
  induction h with
  | nil => exact ⟨rfl, [], .nil, .nil⟩
  | cons hround _ ih =>
      obtain ⟨hindex, message, hhanded, hcarries⟩ := signPlannedTransaction_eq_ok hround
      obtain ⟨hindexes, messages, hhandedAll, hcarriesAll⟩ := ih
      refine ⟨?_, message :: messages, .cons hhanded hhandedAll, .cons hcarries hcarriesAll⟩
      rw [List.map_cons, List.map_cons, hindex, hindexes]

theorem exists_left_of_mem {α β : Type} {R : α → β → Prop} {xs : List α} {ys : List β}
    (h : List.Forall₂ R xs ys) {y : β} (hmem : y ∈ ys) : ∃ x ∈ xs, R x y := by
  induction h with
  | nil => cases hmem
  | cons hhead _ ih =>
      rcases List.mem_cons.mp hmem with hmem | hmem
      · exact ⟨_, List.mem_cons_self, hmem ▸ hhead⟩
      · obtain ⟨x, hx, hR⟩ := ih hmem
        exact ⟨x, List.mem_cons_of_mem _ hx, hR⟩

theorem flatMap_effects_eq {transactions : List SolanaPayoutPlannedTransaction}
    {messages : List DecodedSolanaTransactionMessage}
    (h : List.Forall₂ (CarriesOut library policy) transactions messages) :
    messages.flatMap (·.effects) = transactions.flatMap (·.effects) := by
  induction h with
  | nil => rfl
  | cons hhead _ ih => rw [List.flatMap_cons, List.flatMap_cons, hhead.effects_eq, ih]

/-- The transactions of a plan do what the instructions of its items do. -/
theorem PlanOf.flatMap_effects {input : CreateSolanaPayoutTransactionPlanInput}
    (h : PlanOf library input plan) :
    plan.transactions.flatMap (·.effects) =
      (plan.instructionsOf (plan.transactions.flatMap (·.items))).map
        SolanaPayoutInstructionPlan.effect := by
  have hall := h.instructions
  generalize plan.transactions = transactions at hall
  induction transactions with
  | nil => rfl
  | cons transaction transactions ih =>
      have hfirst := hall transaction List.mem_cons_self
      have hrest := ih fun other hother => hall other (List.mem_cons_of_mem _ hother)
      have happend : ∀ xs ys, plan.instructionsOf (xs ++ ys) =
          plan.instructionsOf xs ++ plan.instructionsOf ys := fun _ _ => List.flatMap_append
      rw [List.flatMap_cons, List.flatMap_cons, hrest, happend, List.map_append, ← hfirst]
      rfl

/-- The bounds of the policy that have been checked. -/
theorem assertLimits_eq_ok {u : Unit} (h : assertPayoutSignerAmountLimits policy plan = .ok u) :
    (∀ limit, policy.maxBatchAmountAtomic = some limit → ∃ most batchAmount,
      parseAtomicAmount limit = some most ∧
        parseAtomicAmount plan.totalAmountAtomic = some batchAmount ∧ batchAmount ≤ most) ∧
    (∀ limit, policy.maxTransactionAmountAtomic = some limit → ∃ most,
      parseAtomicAmount limit = some most ∧
        ∀ transaction ∈ plan.transactions, plannedAmount transaction.items ≤ most) := by
  obtain ⟨maxTransaction, htransaction, h⟩ := bind_eq_ok.mp h
  obtain ⟨maxBatch, hbatch, h⟩ := bind_eq_ok.mp h
  obtain ⟨batchAmount, hamount, h⟩ := bind_eq_ok.mp h
  obtain ⟨_, hbound, h⟩ := bind_eq_ok.mp h
  constructor
  · intro limit hlimit
    rw [hlimit] at hbatch
    obtain ⟨most, hmost, hread⟩ := readOptionalAtomicLimit_eq_ok hbatch
    have hle := require_eq_ok.mp hbound
    rw [hread, Option.all_some, decide_eq_true_eq] at hle
    exact ⟨most, batchAmount, hmost, readBigInt_eq_ok.mp hamount, hle⟩
  · intro limit hlimit
    rw [hlimit] at htransaction
    obtain ⟨most, hmost, hread⟩ := readOptionalAtomicLimit_eq_ok htransaction
    refine ⟨most, hmost, ?_⟩
    rw [hread] at h
    intro transaction hmem
    have hcheck := forM_eq_ok h transaction hmem
    obtain ⟨amount, hsum, hle⟩ := bind_eq_ok.mp hcheck
    obtain ⟨amounts, hamounts, hsum⟩ := bind_eq_ok.mp hsum
    rw [pure_eq_ok] at hsum
    rw [plannedAmount_eq_sum hamounts, hsum]
    exact of_decide_eq_true (require_eq_ok.mp hle)

end Signing

/-- **What is signed for a batch pays the batch**: when the signer has signed the transactions of its
plan, their messages, taken in order, create the accounts that the items do not name and pay every
item its amount, once and nothing more, out of the funding wallet and within the limits of the
policy. -/
theorem signed_payouts_pay_batch {ν : Type} (runtime : Runtime ν) (library : SolanaLibrary)
    (policy : SolanaPayoutSignerPolicy) (signerReference label : String)
    (external : SolanaPayoutTransactionSigningDelegate)
    (input : CreateSolanaPayoutTransactionPlanInput) (submission : SignSolanaPayoutTransactionsInput)
    (report : SolanaPayoutSigningReport)
    (hplan : createSolanaPayoutTransactionPlan library input = .ok submission.plan)
    (hsign : SolanaPolicyEnforcedPayoutSigner.sign runtime library policy
      (guardedDelegate library policy signerReference label external) submission = .ok report) :
    ∃ messages, SignedBatch library policy external input.batch submission.plan
      submission.transactions report.signedTransactions messages := by
  have hof := createPlan_eq_ok hplan
  obtain ⟨serialized, hread, hsign⟩ := bind_eq_ok.mp hsign
  obtain ⟨hash, -, hsign⟩ := bind_eq_ok.mp hsign
  obtain ⟨_, hpolicy, hsign⟩ := bind_eq_ok.mp hsign
  obtain ⟨signed, hrounds, hsign⟩ := bind_eq_ok.mp hsign
  rw [pure_eq_ok] at hsign
  subst hsign
  obtain ⟨hserialized, hnodup, hmem, hlength⟩ := readSerialized_eq_ok hread
  subst hserialized
  obtain ⟨hwallet, hsource, hlimits⟩ := assertPayoutSignerPolicy_eq_ok hpolicy
  obtain ⟨hbatchLimit, htransactionLimit⟩ := assertLimits_eq_ok hlimits
  obtain ⟨hindexes, messages, hhanded, hcarries⟩ := exists_messages (mapM_eq_ok_iff.mp hrounds)
  obtain ⟨effects, hdischarges, heffects⟩ := exists_discharges_all hof.items
  obtain ⟨amounts, hamounts, htotal⟩ := hof.amounts
  -- what the messages do is what the instructions of all items do
  have hall : messages.flatMap (·.effects) =
      (submission.plan.instructionsOf (submission.plan.transactions.flatMap (·.items))).map
        SolanaPayoutInstructionPlan.effect := by
    rw [flatMap_effects_eq hcarries, hof.flatMap_effects]
  have hmoved : amountMoved (messages.flatMap (·.effects)) = amounts.sum := by
    rw [hall, amountMoved_instructionsOf, plannedAmount_eq_sum hamounts]
  refine ⟨messages, hhanded, ⟨?_, ?_⟩, ?_, ⟨effects, ?_, ?_⟩, ?_, ?_, ?_⟩
  · rw [hindexes]
    have hsubset : submission.transactions.map (·.index) ⊆
        submission.plan.transactions.map (·.index) := by
      intro index hindex
      obtain ⟨transaction, htransaction, rfl⟩ := List.mem_map.mp hindex
      exact hmem transaction htransaction
    refine (List.subperm_of_subset hnodup hsubset).perm_of_length_le ?_
    rw [List.length_map, List.length_map, hlength]
  · rw [hindexes, hof.indexes]
    exact List.nodup_range
  · intro message hmessage
    obtain ⟨transaction, -, hone⟩ := exists_left_of_mem hcarries hmessage
    exact ⟨hone.signer, hone.feePayer, hone.noLookups⟩
  · rw [← hwallet, ← hsource, ← hof.asset]
    exact hdischarges
  · rw [hall, heffects]
  · rw [hmoved, ← hof.total, htotal]
  · intro limit hlimit
    obtain ⟨most, batchAmount, hmost, hbatch, hle⟩ := hbatchLimit limit hlimit
    rw [htotal, parseAtomicAmount_serialize, Option.some_inj] at hbatch
    exact ⟨most, hmost, by omega⟩
  · intro limit hlimit
    obtain ⟨most, hmost, hle⟩ := htransactionLimit limit hlimit
    refine ⟨most, hmost, ?_⟩
    intro message hmessage
    obtain ⟨transaction, htransaction, hone⟩ := exists_left_of_mem hcarries hmessage
    rw [hone.effects_eq, SolanaPayoutPlannedTransaction.effects,
      hof.instructions transaction htransaction, amountMoved_instructionsOf]
    exact hle transaction htransaction

/-! ### Two items -/

namespace Payday

/-- A library for transactions with one signature, on accounts that are all named. -/
def library : SolanaLibrary where
  isAddress value :=
    match base58Decode value with
    | .ok bytes => bytes.length = 32
    | .error _ => false
  findAssociatedTokenPda _ _ _ := throw "no account to derive"
  decodeTransaction
    | 1 :: bytes => pure (bytes.drop 64)
    | _ => throw "not a transaction with one signature"

/-- An engine that knows the digest of the list. -/
def runtime : Runtime Whole :=
  { Sample.saleRuntime with
    sha256Hex := fun _ => "ada1f9399bda9c366ec3790abcfd90e2a2d532689f66ea94cef8e339f1f5fdd2" }

def wallet : String := "11111111111111111111111111111112"

def source : String := "11111111111111111111111111111113"

def mint : String := "11111111111111111111111111111114"

def firstAccount : String := "11111111111111111111111111111115"

def secondAccount : String := "11111111111111111111111111111116"

def item (id account amount : String) : PayoutItemRecord :=
  ⟨id, "pay_1", account, some account, amount, .allocated, "2026-01-01T00:00:00.000Z", []⟩

def input : CreateSolanaPayoutTransactionPlanInput where
  batch :=
    { id := "pay_1"
      merchantId := "mrc_1"
      payoutWalletId := "wal_1"
      network := "solana:devnet"
      asset := mint
      status := .planned
      totalAmountAtomic := "1000000"
      itemCount := 2
      accrualCount := 2
      failureCode := none
      failureMessage := none
      createdAt := "2026-01-01T00:00:00.000Z"
      updatedAt := "2026-01-01T00:00:00.000Z"
      items := [item "itm_1" firstAccount "700000", item "itm_2" secondAccount "300000"] }
  fundingWallet := wallet
  tokenDecimals := .finite 6
  tokenProgramId := none
  sourceTokenAccount := some source
  maxItemsPerTransaction := some (.finite 1)

def planned (index : Nat) (id account amount : String) : SolanaPayoutPlannedTransaction :=
  ⟨index, [⟨id, account, account, amount, false⟩], [.transferChecked
    ⟨SOLANA_TOKEN_PROGRAM_ID, source, mint, account, wallet, amount, 6, id⟩]⟩

def plan : SolanaPayoutTransactionPlan :=
  ⟨"pay_1", "solana:devnet", mint, SOLANA_TOKEN_PROGRAM_ID, 6, wallet, source, "1000000", 2, 2,
    [planned 0 "itm_1" firstAccount "700000", planned 1 "itm_2" secondAccount "300000"]⟩

def policy : SolanaPayoutSignerPolicy where
  network := "solana:devnet"
  signerReference := "local-dev:payday"
  fundingWallet := wallet
  sourceTokenAccount := source
  mint := mint
  allowedTokenProgramIds := none
  maxTransactionAmountAtomic := some "700000"
  maxBatchAmountAtomic := some "1000000"
  requireSuccessfulSimulation := none
  expectedDestinationAmountListHash := none

def simulation : SolanaPayoutSimulationReport :=
  ⟨"pay_1", "solana:devnet", .succeeded, [⟨0, .succeeded⟩, ⟨1, .succeeded⟩]⟩

def zeros (count : Nat) : List Char := List.replicate count 'A'

/-- A transfer to the account with this character in its key, of the amount with these. -/
def transactionChars (key : Char) (amount : String) : List Char :=
  "AQ".toList ++ zeros 85 ++ "BAAIF".toList ++ zeros 42 ++ 'E' :: zeros 42 ++ 'g' :: zeros 41 ++
    key :: zeros 42 ++ "MG3fbh12Whk9nL4UbO63msHLSF7V9bN5E6jPWFfv8AqQ".toList ++ zeros 43 ++
    "QQEAQMCAAoM".toList ++ amount.toList ++ zeros 7 ++ ['G']

def transaction (key : Char) (amount : String) : String := String.ofList (transactionChars key amount)

/-- They are submitted with the second one first. -/
def transactions : List SolanaSerializedPayoutTransaction :=
  [⟨1, transaction 'F' "4JME"⟩, ⟨0, transaction 'E' "YK4K"⟩]

def message (account : String) (amount : List UInt8) : DecodedSolanaTransactionMessage :=
  ⟨1, [wallet, source, account, mint, SOLANA_TOKEN_PROGRAM_ID],
    [⟨4, [1, 3, 2, 0], 12 :: amount ++ [0, 0, 0, 0, 0, 6]⟩], 0⟩

def sign : SolanaPayoutTransactionSigningDelegate := fun input => pure ⟨input.transactionBase64, none⟩

def isBase64Chars (chars : List Char) : Bool :=
  chars.length % 4 == 0 && (chars.reverse.takeWhile (· == '=')).length ≤ 2 &&
    !(chars.reverse.dropWhile (· == '=')).isEmpty &&
    (chars.reverse.dropWhile (· == '=')).all fun x => x.isAlphanum || x == '+' || x == '/'

theorem isBase64_ofList {chars : List Char} (h : isBase64Chars chars = true) :
    isBase64 (String.ofList chars) = true := by
  rw [isBase64, String.toList_ofList]
  exact h

def decodeChars (chars : List Char) : Except String DecodedSolanaTransactionMessage :=
  library.decodeTransaction (bufferFromBase64 chars) >>= decodeCompiledSolanaMessage

def hash : String := "sha256:ada1f9399bda9c366ec3790abcfd90e2a2d532689f66ea94cef8e339f1f5fdd2"

def verifyMessage (message : DecodedSolanaTransactionMessage)
    (plannedTransaction : SolanaPayoutPlannedTransaction) : Except String (List String) := do
  let errors ← (message.instructions.zip plannedTransaction.instructions).zipIdx.mapM
    fun ((actual, planned), index) =>
      verifyInstruction library policy plannedTransaction index message.accountKeys actual planned
  pure (verifySigners library policy message ++ errors.flatten)

theorem plan_computed : createSolanaPayoutTransactionPlan library input = .ok plan ∧
    hashSolanaPayoutDestinationAmountList runtime plan = .ok hash ∧
    assertPayoutSignerPolicy library policy plan hash (some simulation) = .ok () := by
  decide +kernel

theorem transactions_computed :
    (isBase64Chars (transactionChars 'E' "YK4K") ∧
      decodeChars (transactionChars 'E' "YK4K") = .ok (message firstAccount [0x60, 0xae, 0x0a]) ∧
      verifyMessage (message firstAccount [0x60, 0xae, 0x0a]) (planned 0 "itm_1" firstAccount "700000") =
        .ok []) ∧
    (isBase64Chars (transactionChars 'F' "4JME") ∧
      decodeChars (transactionChars 'F' "4JME") = .ok (message secondAccount [0xe0, 0x93, 0x04]) ∧
      verifyMessage (message secondAccount [0xe0, 0x93, 0x04]) (planned 1 "itm_2" secondAccount "300000") =
        .ok []) := by
  decide +kernel

theorem assertBase64_transaction {key : Char} {amount : String} (label : String)
    (h : isBase64Chars (transactionChars key amount) = true) :
    assertBase64Transaction (transaction key amount) label = .ok (transaction key amount) := by
  rw [assertBase64Transaction, transaction, isBase64_ofList h]
  rfl

theorem transaction_decodes {key : Char} {amount : String} {message : DecodedSolanaTransactionMessage}
    (h : isBase64Chars (transactionChars key amount) = true)
    (hmessage : decodeChars (transactionChars key amount) = .ok message) :
    decodeSolanaTransactionMessageBytes library (transaction key amount) = .ok message := by
  refine bind_eq_ok.mpr ⟨_, assertBase64_transaction _ h, ?_⟩
  rw [transaction, String.toList_ofList]
  exact hmessage

/-- A transaction that the delegate lets through is signed. -/
theorem round_ok {key : Char} {amount atomic id account : String} {amountBytes : List UInt8}
    {index : Nat} (hbase64 : isBase64Chars (transactionChars key amount) = true)
    (hmessage : decodeChars (transactionChars key amount) = .ok (message account amountBytes))
    (hverify : verifyMessage (message account amountBytes) (planned index id account atomic) = .ok [])
    (hfind : transactions.find? (·.index = index) = some ⟨index, transaction key amount⟩)
    (hamount : ∃ n, readBigInt atomic = .ok n) :
    signPlannedTransaction policy plan
      (guardedDelegate library policy "local-dev:payday" "local-dev" sign) hash transactions
      (planned index id account atomic) = .ok ⟨index, transaction key amount, none⟩ := by
  obtain ⟨n, hamount⟩ := hamount
  obtain ⟨errors, herrors, hnil⟩ := bind_eq_ok.mp hverify
  rw [pure_eq_ok] at hnil
  have hverified : verifySolanaPayoutTransactionBytesAgainstPlan library policy
      (transaction key amount) (planned index id account atomic) = .ok ⟨true, []⟩ := by
    unfold verifySolanaPayoutTransactionBytesAgainstPlan
    rw [transaction_decodes hbase64 hmessage]
    refine bind_eq_ok.mpr ⟨errors, herrors, ?_⟩
    rw [List.append_eq_nil_iff] at hnil
    rw [hnil.1, hnil.2]
    rfl
  unfold signPlannedTransaction
  rw [show (planned index id account atomic).index = index from rfl, hfind]
  have hsum : sumPlannedTransactionAmount (planned index id account atomic) = .ok n := by
    simp [sumPlannedTransactionAmount, planned, hamount]
  refine bind_eq_ok.mpr ⟨n, hsum, bind_eq_ok.mpr ⟨⟨transaction key amount, none⟩, ?_, ?_⟩⟩
  · refine bind_eq_ok.mpr ⟨(), rfl, bind_eq_ok.mpr ⟨(), ?_, rfl⟩⟩
    exact bind_eq_ok.mpr ⟨_, hverified, rfl⟩
  · exact bind_eq_ok.mpr ⟨_, assertBase64_transaction _ hbase64, rfl⟩

theorem read_ok {done : List SolanaSerializedPayoutTransaction} {index : Nat} {key : Char}
    {amount : String} (hplanned : plan.transactions.any (·.index = index) = true)
    (hnew : done.any (·.index = index) = false)
    (hbase64 : isBase64Chars (transactionChars key amount) = true) :
    readSerializedPayoutTransaction plan done ⟨index, transaction key amount⟩ =
      .ok (done ++ [⟨index, transaction key amount⟩]) := by
  unfold readSerializedPayoutTransaction
  dsimp only
  rw [hplanned, hnew, assertBase64_transaction _ hbase64]
  rfl

theorem submission_reads {report : Option SolanaPayoutSimulationReport} :
    readSerializedPayoutTransactions ⟨plan, transactions, report⟩ = .ok transactions := by
  obtain ⟨⟨hfirst, -⟩, hsecond, -⟩ := transactions_computed
  have hfold : transactions.foldlM (readSerializedPayoutTransaction plan) [] = .ok transactions := by
    rw [transactions, List.foldlM_cons, bind_eq_ok]
    refine ⟨_, read_ok rfl rfl hsecond, ?_⟩
    rw [List.foldlM_cons, bind_eq_ok]
    refine ⟨_, read_ok rfl rfl hfirst, ?_⟩
    rw [List.foldlM_nil, pure_eq_ok, List.nil_append, List.singleton_append]
  exact bind_eq_ok.mpr ⟨transactions, hfold, rfl⟩

def report : SolanaPayoutSigningReport :=
  ⟨"pay_1", "solana:devnet", "local-dev:payday", hash,
    [⟨0, transaction 'E' "YK4K", none⟩, ⟨1, transaction 'F' "4JME", none⟩]⟩

theorem signed : SolanaPolicyEnforcedPayoutSigner.sign runtime library policy
    (guardedDelegate library policy "local-dev:payday" "local-dev" sign)
    ⟨plan, transactions, some simulation⟩ = .ok report := by
  obtain ⟨⟨hfirst, hfirstMessage, hfirstVerify⟩, hsecond, hsecondMessage, hsecondVerify⟩ :=
    transactions_computed
  refine bind_eq_ok.mpr ⟨_, submission_reads, bind_eq_ok.mpr ⟨hash, plan_computed.2.1, ?_⟩⟩
  refine bind_eq_ok.mpr ⟨(), plan_computed.2.2, bind_eq_ok.mpr ⟨report.signedTransactions, ?_, rfl⟩⟩
  refine mapM_eq_ok_iff.mpr (.cons ?_ (.cons ?_ .nil))
  · exact round_ok hfirst hfirstMessage hfirstVerify rfl ⟨700000, rfl⟩
  · exact round_ok hsecond hsecondMessage hsecondVerify rfl ⟨300000, rfl⟩

end Payday

/-- Two items in two transactions, submitted in the other order. -/
theorem signed_payouts_pay_batch_two :
    ∃ messages, SignedBatch Payday.library Payday.policy Payday.sign Payday.input.batch Payday.plan
      Payday.transactions Payday.report.signedTransactions messages :=
  signed_payouts_pay_batch Payday.runtime Payday.library Payday.policy "local-dev:payday" "local-dev"
    Payday.sign Payday.input ⟨Payday.plan, Payday.transactions, some Payday.simulation⟩ Payday.report
    Payday.plan_computed.1 Payday.signed

end Split402

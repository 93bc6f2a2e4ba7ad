import Split402.Proof.FinalizedTransfers

/-! # Matching transfers with items

`verifyFinalizedPayoutTransfersForTransaction` lets every transfer take the first open item of its
amount and looks at the owner of its destination afterwards. So it finds a matching only if one is
first fit: where two items of one amount are listed in another order than their transfers, it
reports an owner that does not match although every item was paid. -/

namespace Split402

open Base.FirstFit

namespace SolanaRpcPayoutFinalizedTransferVerifier

variable {verifier : SolanaRpcPayoutFinalizedTransferVerifier} {batch : PayoutBatchRecord}
  {confirmed : SolanaConfirmedTransaction}

/-- The destination of the transfer belongs to the wallet of the item: the wallet owns it, or it is
the wallet's associated token account; it is the account the item names, if it names one, and what
the transaction says about it agrees with the asset and the program. -/
structure BelongsTo (verifier : SolanaRpcPayoutFinalizedTransferVerifier)
    (batch : PayoutBatchRecord) (confirmed : SolanaConfirmedTransaction)
    (transfer : SolanaTokenTransfer) (item : PayoutTransactionItemRecord) : Prop where
  owner : (∃ evidence, confirmed.tokenAccounts transfer.destination = some evidence ∧
      evidence.owner = some item.destinationWallet) ∨
    verifier.isAssociatedTokenAccount transfer.destination item.destinationWallet batch.asset
      verifier.programId = true
  named : ∀ account, item.destinationTokenAccount = some account → transfer.destination = account
  evidence : ∀ evidence, confirmed.tokenAccounts transfer.destination = some evidence →
    evidence.mint = batch.asset ∧
      (evidence.programId = none ∨ evidence.programId = transfer.programId)

theorem transferRecipientMatchesPayoutItem_iff {transfer : SolanaTokenTransfer}
    {item : PayoutTransactionItemRecord} :
    verifier.transferRecipientMatchesPayoutItem transfer item confirmed.tokenAccounts batch.asset =
        true ↔ BelongsTo verifier batch confirmed transfer item := by
  unfold transferRecipientMatchesPayoutItem
  have hnamed : item.destinationTokenAccount.any (transfer.destination != ·) = false ↔
      ∀ account, item.destinationTokenAccount = some account → transfer.destination = account := by
    cases item.destinationTokenAccount with
    | none => simp
    | some account => simp
  by_cases h : item.destinationTokenAccount.any (transfer.destination != ·) = true
  · rw [if_pos h]
    constructor
    · intro hfalse
      cases hfalse
    · intro hbelongs
      rw [hnamed.mpr hbelongs.named] at h
      cases h
  · rw [if_neg h]
    have hnamed := hnamed.mp (Bool.not_eq_true _ ▸ h)
    cases hevidence : confirmed.tokenAccounts transfer.destination with
    | none =>
        simp only [Option.any_none, Option.all_none, Bool.true_and, Bool.false_or]
        constructor
        · intro hata
          exact ⟨.inr hata, hnamed, by simp [hevidence]⟩
        · intro hbelongs
          rcases hbelongs.owner with ⟨evidence, hsome, -⟩ | hata
          · rw [hevidence] at hsome
            cases hsome
          · exact hata
    | some evidence =>
        simp only [Option.any_some, Option.all_some, Bool.and_eq_true, Bool.or_eq_true,
          beq_iff_eq, Option.isNone_iff_eq_none]
        constructor
        · rintro ⟨⟨hmint, hprogram⟩, howner⟩
          refine ⟨?_, hnamed, ?_⟩
          · rcases howner with howner | hata
            · exact .inl ⟨evidence, hevidence, howner⟩
            · exact .inr hata
          · intro other hother
            rw [hevidence] at hother
            injection hother with hother
            subst hother
            exact ⟨hmint, hprogram⟩
        · intro hbelongs
          refine ⟨hbelongs.evidence evidence hevidence, ?_⟩
          rcases hbelongs.owner with ⟨other, hother, howner⟩ | hata
          · rw [hevidence] at hother
            injection hother with hother
            subst hother
            exact .inl howner
          · exact .inr hata

/-- The transfer may stand for the item: by the program of the policy, with its amount, to an
account of its wallet. -/
structure Matches (verifier : SolanaRpcPayoutFinalizedTransferVerifier)
    (batch : PayoutBatchRecord) (confirmed : SolanaConfirmedTransaction)
    (transfer : SolanaTokenTransfer) (item : PayoutTransactionItemRecord) : Prop where
  program : transfer.programId = some verifier.programId
  amount : item.amountAtomic = transfer.amount
  belongs : BelongsTo verifier batch confirmed transfer item

theorem pays_iff_matches {transfer : SolanaTokenTransfer} {item : PayoutTransactionItemRecord} :
    Pays verifier batch confirmed transfer item ↔
      Matches verifier batch confirmed transfer item := by
  constructor
  · intro h
    have hfits := h.fits
    rw [fits, Bool.and_eq_true, beq_iff_eq] at hfits
    exact ⟨h.program, hfits.1, transferRecipientMatchesPayoutItem_iff.mp h.recipient⟩
  · intro h
    refine ⟨h.program, ?_, transferRecipientMatchesPayoutItem_iff.mpr h.belongs⟩
    rw [fits, Bool.and_eq_true, beq_iff_eq]
    refine ⟨h.amount, ?_⟩
    cases haccount : item.destinationTokenAccount with
    | none => rfl
    | some account =>
        have := h.belongs.named account haccount
        simp [this]

/-- The items in the order in which the transfers take them: each item once, by a transfer that
matches it. -/
def IsMatching (verifier : SolanaRpcPayoutFinalizedTransferVerifier) (batch : PayoutBatchRecord)
    (items : List PayoutTransactionItemRecord) (confirmed : SolanaConfirmedTransaction)
    (taken : List PayoutTransactionItemRecord) : Prop :=
  taken.Perm items ∧
    List.Forall₂ (Matches verifier batch confirmed) (verifier.payoutTransfers batch confirmed) taken

/-- No transfer has the amount (and the named account) of an item that is listed before its own and
that a later transfer takes. -/
def IsFirstFit (verifier : SolanaRpcPayoutFinalizedTransferVerifier) (batch : PayoutBatchRecord)
    (items : List PayoutTransactionItemRecord) (confirmed : SolanaConfirmedTransaction)
    (taken : List PayoutTransactionItemRecord) : Prop :=
  Stable fits (verifier.payoutTransfers batch confirmed) items taken

theorem paidBy_iff_isMatching {items taken : List PayoutTransactionItemRecord} :
    PaidBy verifier batch items confirmed taken ↔
      IsMatching verifier batch items confirmed taken := by
  have heq : Pays verifier batch confirmed = Matches verifier batch confirmed := by
    funext transfer item
    exact propext pays_iff_matches
  rw [PaidBy, IsMatching, heq]

/-- **The transfers verify if and only if they match, exactly where a matching can be found first
fit.** The items of a transaction have different ids. -/
theorem verify_iff_matching {transaction : PayoutTransactionRecord}
    (hitems : (transaction.items.map PayoutTransactionItemRecord.payoutItemId).Nodup) :
    (verifier.verifyFinalizedPayoutTransfersForTransaction batch transaction confirmed = [] ↔
        ∃ taken, IsMatching verifier batch transaction.items confirmed taken) ↔
      ((∃ taken, IsMatching verifier batch transaction.items confirmed taken) →
        ∃ taken, IsMatching verifier batch transaction.items confirmed taken ∧
          IsFirstFit verifier batch transaction.items confirmed taken) := by
  have hverify : verifier.verifyFinalizedPayoutTransfersForTransaction batch transaction confirmed =
        [] ↔ ∃ taken, IsMatching verifier batch transaction.items confirmed taken ∧
          IsFirstFit verifier batch transaction.items confirmed taken := by
    rw [verifyTransfers_eq_nil hitems, ToldApart]
    simp only [paidBy_iff_isMatching, IsFirstFit]
  rw [hverify]
  constructor
  · intro h hexists
    exact h.mpr hexists
  · intro h
    refine ⟨?_, h⟩
    rintro ⟨taken, hmatching, -⟩
    exact ⟨taken, hmatching⟩

/-- Where the amounts of the items differ, every matching is first fit. -/
theorem isFirstFit_of_amounts {items taken : List PayoutTransactionItemRecord}
    (hamounts : (items.map PayoutTransactionItemRecord.amountAtomic).Nodup)
    (h : IsMatching verifier batch items confirmed taken) :
    IsFirstFit verifier batch items confirmed taken := by
  obtain ⟨hperm, hmatches⟩ := h
  have hzip : ∀ p ∈ (verifier.payoutTransfers batch confirmed).zip taken,
      Matches verifier batch confirmed p.1 p.2 :=
    fun p hp => (List.forall₂_iff_zip.mp hmatches).2 hp
  refine List.pairwise_of_forall_mem_list fun p hp q hq hfits hsub => ?_
  rw [fits, Bool.and_eq_true, beq_iff_eq] at hfits
  -- an item that the transfer fits is its own
  have hsame : q.2 = p.2 := by
    have hmem : ∀ r ∈ (verifier.payoutTransfers batch confirmed).zip taken, r.2 ∈ items :=
      fun r hr => hperm.mem_iff.mp (List.of_mem_zip hr).2
    refine List.inj_on_of_nodup_map hamounts (hmem q hq) (hmem p hp) ?_
    rw [hfits.1, (hzip p hp).amount]
  rw [hsame] at hsub
  have htwice := (hamounts.of_map _).sublist hsub
  simp at htwice

/-! ## Two items of one amount -/

def itemOfTen (id wallet : String) : PayoutTransactionItemRecord where
  payoutTransactionId := "ptx_1"
  payoutItemId := id
  amountAtomic := "10"
  destinationWallet := wallet
  destinationTokenAccount := none

def twoItems : PayoutTransactionRecord :=
  { attempt 1 .finalized with items := [itemOfTen "pit_1" "wallet1", itemOfTen "pit_2" "wallet2"] }

def transferOfTen (destination : String) : SolanaTokenTransfer :=
  ⟨some SOLANA_TOKEN_PROGRAM_ID, some "source", "mint", destination, "funding", "10"⟩

/-- A transaction with transfers of ten to token accounts of the two wallets. -/
def paidTo (destinations : List String) : SolanaConfirmedTransaction where
  signatures := ["signature1"]
  metaErr := none
  tokenAccounts account :=
    if account = "account1" then some ⟨"mint", some "wallet1", none⟩
    else if account = "account2" then some ⟨"mint", some "wallet2", none⟩ else none
  transfers := destinations.map transferOfTen

theorem verify_iff_matching_inOrder :
    (sampleVerifier.verifyFinalizedPayoutTransfersForTransaction paidBatch twoItems
        (paidTo ["account1", "account2"]) = [] ↔
      ∃ taken, IsMatching sampleVerifier paidBatch twoItems.items
        (paidTo ["account1", "account2"]) taken) := by
  have hitems : (twoItems.items.map PayoutTransactionItemRecord.payoutItemId).Nodup := by decide
  refine (verify_iff_matching hitems).mpr fun _ => ⟨twoItems.items, ?_, ?_⟩
  · refine paidBy_iff_isMatching.mp ⟨.rfl, ?_⟩
    exact .cons ⟨rfl, by decide, by decide⟩ (.cons ⟨rfl, by decide, by decide⟩ .nil)
  · exact stable_self (hitems.of_map _)

/-- The transfers pay both items, in the other order, and do not verify. -/
theorem not_verify_iff_matching :
    ¬ ∀ (verifier : SolanaRpcPayoutFinalizedTransferVerifier) (batch : PayoutBatchRecord)
      (transaction : PayoutTransactionRecord) (confirmed : SolanaConfirmedTransaction),
      (transaction.items.map PayoutTransactionItemRecord.payoutItemId).Nodup →
      (verifier.verifyFinalizedPayoutTransfersForTransaction batch transaction confirmed = [] ↔
        ∃ taken, IsMatching verifier batch transaction.items confirmed taken) := by
  intro h
  have hmatching : IsMatching sampleVerifier paidBatch twoItems.items
      (paidTo ["account2", "account1"])
      [itemOfTen "pit_2" "wallet2", itemOfTen "pit_1" "wallet1"] := by
    refine paidBy_iff_isMatching.mp ⟨List.Perm.swap .., ?_⟩
    exact .cons ⟨rfl, by decide, by decide⟩ (.cons ⟨rfl, by decide, by decide⟩ .nil)
  have hverified := (h sampleVerifier paidBatch twoItems (paidTo ["account2", "account1"])
    (by decide)).mpr ⟨_, hmatching⟩
  revert hverified
  decide

end SolanaRpcPayoutFinalizedTransferVerifier

end Split402

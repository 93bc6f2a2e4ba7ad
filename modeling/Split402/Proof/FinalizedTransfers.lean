import Split402.Base.FirstFit
import Split402.Payouts.TransferVerification
import Split402.Proof.Rollup

/-! # Rollup and verification of a paid batch

The rollup of a batch looks at the latest attempt of every sequence, the verifier of its transfers
at every stored transaction. A batch that is paid by its latest attempts is rolled up to
`finalized`; it verifies only when there are no earlier attempts, and when matching the transfers
one by one, first fit, finds what each of them pays. -/

namespace Split402

open Base Base.FirstFit

namespace SolanaRpcPayoutFinalizedTransferVerifier

variable {verifier : SolanaRpcPayoutFinalizedTransferVerifier} {batch : PayoutBatchRecord}

/-! ## Matching -/

section Matching

variable {confirmed : SolanaConfirmedTransaction} {items : List PayoutTransactionItemRecord}

/-- The transfer pays the item: by the program of the policy, its amount, to its destination. -/
structure Pays (verifier : SolanaRpcPayoutFinalizedTransferVerifier) (batch : PayoutBatchRecord)
    (confirmed : SolanaConfirmedTransaction) (transfer : SolanaTokenTransfer)
    (item : PayoutTransactionItemRecord) : Prop where
  program : transfer.programId = some verifier.programId
  fits : fits transfer item = true
  recipient : verifier.transferRecipientMatchesPayoutItem transfer item confirmed.tokenAccounts
    batch.asset = true

/-- The items that are still open. -/
def openItems (items : List PayoutTransactionItemRecord) (matched : List String) :
    List PayoutTransactionItemRecord :=
  items.filter (fun item => item.payoutItemId ∉ matched)

theorem find?_open (transfer : SolanaTokenTransfer) (matched : List String) :
    items.find? (fun candidate =>
      decide (candidate.payoutItemId ∉ matched) && fits transfer candidate) =
    (openItems items matched).find? (fits transfer) := by
  rw [openItems, List.find?_filter]
  congr 1
  funext candidate
  rw [Bool.decide_and, Bool.decide_eq_true, Bool.decide_eq_true]

/-- To match an item is to take it from the open ones. -/
theorem openItems_append (hnodup : (items.map PayoutTransactionItemRecord.payoutItemId).Nodup)
    {item : PayoutTransactionItemRecord} (hitem : item ∈ items) (matched : List String) :
    openItems items (matched ++ [item.payoutItemId]) = (openItems items matched).erase item := by
  have hitems : (openItems items matched).Nodup := (hnodup.of_map _).filter _
  rw [hitems.erase_eq_filter, openItems, openItems, List.filter_filter]
  refine List.filter_congr fun other hother => ?_
  have heq : other.payoutItemId = item.payoutItemId ↔ other = item :=
    ⟨fun h => List.inj_on_of_nodup_map hnodup hother hitem h, fun h => by rw [h]⟩
  simp only [List.mem_append, List.mem_singleton, heq, not_or, Bool.decide_and]
  rw [Bool.and_comm]
  by_cases h : other = item
  · simp [h]
  · simp [h]

/-- A turn without an error matches the first open item the transfer fits, and pays it. -/
theorem matchTransfer_iff {matching matching' : TransferMatching} {transfer : SolanaTokenTransfer}
    (herrors : matching.errors = []) :
    verifier.matchTransfer batch items confirmed matching transfer = matching' ∧
        matching'.errors = [] ↔
      ∃ item, (openItems items matching.matchedItemIds).find? (fits transfer) = some item ∧
        Pays verifier batch confirmed transfer item ∧
        matching' = ⟨[], matching.matchedItemIds ++ [item.payoutItemId]⟩ := by
  unfold matchTransfer
  rw [find?_open, herrors]
  constructor
  · rintro ⟨rfl, hnone⟩
    by_cases hprogram : transfer.programId ≠ some verifier.programId
    · rw [if_pos hprogram] at hnone
      cases hnone
    · rw [if_neg hprogram] at hnone ⊢
      cases hfind : (openItems items matching.matchedItemIds).find? (fits transfer) with
      | none =>
          rw [hfind] at hnone
          cases hnone
      | some item =>
          rw [hfind] at hnone
          by_cases hrecipient : verifier.transferRecipientMatchesPayoutItem transfer item
              confirmed.tokenAccounts batch.asset = true
          · refine ⟨item, rfl, ⟨of_not_not hprogram, List.find?_some hfind, hrecipient⟩, ?_⟩
            simp only [hrecipient, if_true, List.append_nil]
          · simp only [hrecipient] at hnone
            cases hnone
  · rintro ⟨item, hfind, hpays, rfl⟩
    have hprogram : ¬ transfer.programId ≠ some verifier.programId := not_not.mpr hpays.program
    rw [if_neg hprogram, hfind]
    simp only [hpays.recipient, if_true, List.append_nil, and_self]

theorem errors_subset_foldl (transfers : List SolanaTokenTransfer) (matching : TransferMatching) :
    ∀ error ∈ matching.errors,
      error ∈ (transfers.foldl (verifier.matchTransfer batch items confirmed) matching).errors := by
  induction transfers generalizing matching with
  | nil => exact fun _ => id
  | cons transfer rest ih =>
      intro error herror
      refine ih _ error ?_
      unfold matchTransfer
      split
      · exact List.mem_append_left _ herror
      · split
        · exact List.mem_append_left _ herror
        · exact List.mem_append_left _ herror

/-- **The loop over the transfers is first fit**, with every transfer paying the item it takes. -/
theorem foldl_matchTransfer_iff
    (hnodup : (items.map PayoutTransactionItemRecord.payoutItemId).Nodup)
    {transfers : List SolanaTokenTransfer} {matching matching' : TransferMatching}
    (herrors : matching.errors = []) :
    transfers.foldl (verifier.matchTransfer batch items confirmed) matching = matching' ∧
        matching'.errors = [] ↔
      ∃ taken, assign fits transfers (openItems items matching.matchedItemIds) = some taken ∧
        List.Forall₂ (Pays verifier batch confirmed) transfers taken ∧
        matching' = ⟨[], matching.matchedItemIds ++
          taken.map PayoutTransactionItemRecord.payoutItemId⟩ := by
  induction transfers generalizing matching matching' with
  | nil =>
      rw [List.foldl_nil]
      constructor
      · rintro ⟨rfl, -⟩
        refine ⟨[], rfl, .nil, ?_⟩
        rw [List.map_nil, List.append_nil, ← herrors]
      · rintro ⟨taken, -, hpays, rfl⟩
        cases hpays
        refine ⟨?_, rfl⟩
        rw [List.map_nil, List.append_nil, ← herrors]
  | cons transfer rest ih =>
      rw [List.foldl_cons]
      constructor
      · rintro ⟨hfold, hnone⟩
        have hstep : (verifier.matchTransfer batch items confirmed matching transfer).errors = [] := by
          rw [List.eq_nil_iff_forall_not_mem]
          intro error herror
          have hkept : error ∈ matching'.errors := by
            rw [← hfold]
            exact errors_subset_foldl rest _ error herror
          rw [hnone] at hkept
          cases hkept
        obtain ⟨item, hfind, hpays, hmatched⟩ := (matchTransfer_iff herrors).mp ⟨rfl, hstep⟩
        have hitem : item ∈ items := List.mem_of_mem_filter (List.mem_of_find?_eq_some hfind)
        rw [hmatched] at hfold
        obtain ⟨taken, hassign, hrest, rfl⟩ := (ih rfl).mp ⟨hfold, hnone⟩
        rw [openItems_append hnodup hitem] at hassign
        refine ⟨item :: taken, ?_, .cons hpays hrest, ?_⟩
        · rw [assign, hfind]
          dsimp only
          rw [hassign]
          rfl
        · rw [List.map_cons, List.append_assoc, List.singleton_append]
      · rintro ⟨taken, hassign, hall, rfl⟩
        cases hall with
        | @cons _ item _ taken hpays hrest =>
            rw [assign] at hassign
            cases hfind : (openItems items matching.matchedItemIds).find? (fits transfer) with
            | none =>
                rw [hfind] at hassign
                cases hassign
            | some found =>
                rw [hfind] at hassign
                obtain ⟨others, hothers, heq⟩ := Option.map_eq_some_iff.mp hassign
                rw [List.cons.injEq] at heq
                obtain ⟨rfl, rfl⟩ := heq
                have hitem : found ∈ items :=
                  List.mem_of_mem_filter (List.mem_of_find?_eq_some hfind)
                obtain ⟨hstep, -⟩ := (matchTransfer_iff herrors).mpr ⟨found, hfind, hpays, rfl⟩
                rw [← openItems_append hnodup hitem] at hothers
                have hnext : (⟨[], matching.matchedItemIds ++ [found.payoutItemId]⟩ :
                    TransferMatching).errors = [] := rfl
                obtain ⟨hfold, -⟩ := (ih hnext).mpr ⟨others, hothers, hrest, rfl⟩
                rw [hstep, hfold, List.map_cons, List.append_assoc, List.singleton_append]
                exact ⟨rfl, rfl⟩

/-- What a transaction paid: its items, each by one transfer. -/
def PaidBy (verifier : SolanaRpcPayoutFinalizedTransferVerifier) (batch : PayoutBatchRecord)
    (items : List PayoutTransactionItemRecord) (confirmed : SolanaConfirmedTransaction)
    (taken : List PayoutTransactionItemRecord) : Prop :=
  taken.Perm items ∧
    List.Forall₂ (Pays verifier batch confirmed) (verifier.payoutTransfers batch confirmed) taken

/-- The transfers can be told apart one by one: none fits an item that is listed before the one it
pays and that a later transfer pays. -/
def ToldApart (verifier : SolanaRpcPayoutFinalizedTransferVerifier) (batch : PayoutBatchRecord)
    (items : List PayoutTransactionItemRecord) (confirmed : SolanaConfirmedTransaction) : Prop :=
  ∃ taken, PaidBy verifier batch items confirmed taken ∧
    Stable fits (verifier.payoutTransfers batch confirmed) items taken

theorem verifyTransfers_eq_nil {transaction : PayoutTransactionRecord}
    (hnodup : (transaction.items.map PayoutTransactionItemRecord.payoutItemId).Nodup) :
    verifier.verifyFinalizedPayoutTransfersForTransaction batch transaction confirmed = [] ↔
      ToldApart verifier batch transaction.items confirmed := by
  have hitems : transaction.items.Nodup := hnodup.of_map _
  have hopen : openItems transaction.items [] = transaction.items := by
    rw [openItems, List.filter_eq_self]
    intro item _
    simp
  have hstart : (⟨[], []⟩ : TransferMatching).errors = [] := rfl
  unfold verifyFinalizedPayoutTransfersForTransaction
  dsimp only
  rw [List.append_eq_nil_iff, List.map_eq_nil_iff, List.filter_eq_nil_iff]
  constructor
  · rintro ⟨herrors, hmissing⟩
    obtain ⟨taken, hassign, hpays, hmatching⟩ :=
      (foldl_matchTransfer_iff hnodup hstart).mp ⟨rfl, herrors⟩
    rw [hopen] at hassign
    -- every item is matched
    have hsub : transaction.items ⊆ taken := by
      intro item hitem
      have hmatched := hmissing item hitem
      rw [hmatching, decide_eq_true_eq, not_not, List.nil_append] at hmatched
      obtain ⟨other, hother, hid⟩ := List.mem_map.mp hmatched
      have hmem := (assign_subset hassign) hother
      rwa [← List.inj_on_of_nodup_map hnodup hmem hitem hid]
    have hperm : taken.Perm transaction.items :=
      ((assign_nodup hitems hassign).subperm (assign_subset hassign)).antisymm
        (hitems.subperm hsub)
    exact ⟨taken, ⟨hperm, hpays⟩, ((assign_iff hitems).mp ⟨hassign, hperm⟩).2⟩
  · rintro ⟨taken, ⟨hperm, hpays⟩, hstable⟩
    have hfits := hpays.imp fun _ _ h => h.fits
    obtain ⟨hassign, -⟩ := (assign_iff hitems).mpr ⟨⟨hperm, hfits⟩, hstable⟩
    rw [← hopen] at hassign
    obtain ⟨hfold, -⟩ := (foldl_matchTransfer_iff hnodup hstart).mpr ⟨taken, hassign, hpays, rfl⟩
    rw [hfold]
    refine ⟨rfl, ?_⟩
    intro item hitem
    rw [decide_eq_true_eq, not_not, List.nil_append]
    exact List.mem_map_of_mem (hperm.mem_iff.mpr hitem)

/-- Transfers in the order of the items are told apart. -/
theorem toldApart_of_inOrder
    (hnodup : (items.map PayoutTransactionItemRecord.payoutItemId).Nodup)
    (h : PaidBy verifier batch items confirmed items) : ToldApart verifier batch items confirmed :=
  ⟨items, h, stable_self (hnodup.of_map _)⟩

/-- Transfers to items that name their token account are told apart. -/
theorem toldApart_of_named (hnodup : (items.map PayoutTransactionItemRecord.payoutItemId).Nodup)
    (hnamed : ∀ item ∈ items, item.destinationTokenAccount.isSome = true)
    {taken : List PayoutTransactionItemRecord} (h : PaidBy verifier batch items confirmed taken) :
    ToldApart verifier batch items confirmed := by
  obtain ⟨hperm, hpays⟩ := h
  have hitems : items.Nodup := hnodup.of_map _
  have hfits : ∀ transfer, ∀ item ∈ items, fits transfer item = true ↔
      item.amountAtomic = transfer.amount ∧
        item.destinationTokenAccount = some transfer.destination := by
    intro transfer item hitem
    obtain ⟨account, haccount⟩ := Option.isSome_iff_exists.mp (hnamed item hitem)
    simp [fits, haccount]
  have hshare : ∀ a a', ∀ b ∈ items, ∀ b' ∈ items, fits a b = true → fits a b' = true →
      fits a' b = true → fits a' b' = true := by
    intro a a' b hb b' hb' hab hab' hb''
    rw [hfits _ _ hb] at hab hb''
    rw [hfits _ _ hb'] at hab' ⊢
    exact ⟨by rw [hab'.1, ← hab.1, hb''.1], by rw [hab'.2, ← hab.2, hb''.2]⟩
  obtain ⟨taken', hassign, hperm'⟩ :=
    exists_assign hitems hshare ⟨hperm, hpays.imp fun _ _ h => h.fits⟩
  obtain ⟨hassigns, hstable⟩ := (assign_iff hitems).mp ⟨hassign, hperm'⟩
  refine ⟨taken', ⟨hperm', ?_⟩, hstable⟩
  obtain ⟨hlen, hzip⟩ := List.forall₂_iff_zip.mp hassigns.fits
  refine List.forall₂_iff_zip.mpr ⟨hlen, ?_⟩
  intro transfer item hmem
  have hitem : item ∈ items := hperm'.mem_iff.mp (List.of_mem_zip hmem).2
  -- the transfer that pays the item goes to the same account by the same program
  obtain ⟨other, hother⟩ := mem_zip_of_forall₂ hpays (hperm.mem_iff.mpr hitem)
  have hpaid := (List.forall₂_iff_zip.mp hpays).2 hother
  obtain ⟨paid, hpaid'⟩ := mem_zip_of_forall₂ hpays.flip (List.of_mem_zip hmem).1
  have hprogram := ((List.forall₂_iff_zip.mp hpays.flip).2 hpaid').program
  have hto := (hfits _ _ hitem).mp (hzip hmem)
  have hto' := (hfits _ _ hitem).mp hpaid.fits
  have hdestination : transfer.destination = other.destination :=
    Option.some.inj (hto.2.symm.trans hto'.2)
  refine ⟨hprogram, hzip hmem, ?_⟩
  have hrecipient := hpaid.recipient
  unfold transferRecipientMatchesPayoutItem at hrecipient ⊢
  rwa [hdestination, hprogram, ← hpaid.program]

end Matching

/-! ## Transactions on chain -/

/-- Some URL has the transaction of the signature, and none has another one. -/
def OnChain (verifier : SolanaRpcPayoutFinalizedTransferVerifier) (signature : String)
    (confirmed : SolanaConfirmedTransaction) : Prop :=
  (∃ rpcUrl ∈ Split402.rpcUrls verifier.rpcUrl verifier.rpcUrls,
    verifier.solana.getTransaction rpcUrl signature = .found confirmed) ∧
  ∀ rpcUrl ∈ Split402.rpcUrls verifier.rpcUrl verifier.rpcUrls, ∀ other,
    verifier.solana.getTransaction rpcUrl signature = .found other → other = confirmed

theorem requestFrom_eq {signature : String} {confirmed : SolanaConfirmedTransaction}
    {urls : List String}
    (hfound : ∃ rpcUrl ∈ urls, verifier.solana.getTransaction rpcUrl signature = .found confirmed)
    (honly : ∀ rpcUrl ∈ urls, ∀ other,
      verifier.solana.getTransaction rpcUrl signature = .found other → other = confirmed)
    (errors : List String) : verifier.requestFrom signature urls errors = .ok confirmed := by
  induction urls generalizing errors with
  | nil =>
      obtain ⟨_, hurl, -⟩ := hfound
      cases hurl
  | cons url rest ih =>
      rw [requestFrom]
      have hrest : (∀ other, verifier.solana.getTransaction url signature ≠ .found other) →
          ∀ errors, verifier.requestFrom signature rest errors = .ok confirmed := by
        intro hnot
        refine ih ?_ (fun rpcUrl h => honly rpcUrl (List.mem_cons_of_mem _ h))
        obtain ⟨rpcUrl, hurl, hanswer⟩ := hfound
        rcases List.mem_cons.mp hurl with rfl | hurl
        · exact absurd hanswer (hnot confirmed)
        · exact ⟨rpcUrl, hurl, hanswer⟩
      split
      · rename_i found hanswer
        rw [honly url List.mem_cons_self found hanswer]
        rfl
      all_goals
        rename_i hanswer
        refine hrest ?_ _
        intro other hother
        rw [hanswer] at hother
        cases hother

theorem OnChain.request {signature : String} {confirmed : SolanaConfirmedTransaction}
    (h : verifier.OnChain signature confirmed) :
    verifier.requestFinalizedTransaction signature = .ok confirmed :=
  requestFrom_eq h.1 h.2 []

/-- The transaction landed: under its signature the chain has one that did not fail, whose transfers
out of the funding account are one for each mapped item. -/
structure Landed (verifier : SolanaRpcPayoutFinalizedTransferVerifier) (batch : PayoutBatchRecord)
    (transaction : PayoutTransactionRecord) (signature : String)
    (confirmed : SolanaConfirmedTransaction) : Prop where
  expected : ∀ s, transaction.expectedSignature = some s → s = signature
  onChain : verifier.OnChain signature confirmed
  signed : signature ∈ confirmed.signatures
  succeeded : confirmed.metaErr = none
  paid : ∃ taken, PaidBy verifier batch transaction.items confirmed taken

/-- What the verifier needs of a transaction that landed. -/
structure Verifiable (verifier : SolanaRpcPayoutFinalizedTransferVerifier)
    (batch : PayoutBatchRecord) (transaction : PayoutTransactionRecord)
    (confirmed : SolanaConfirmedTransaction) : Prop where
  finalized : transaction.status = .finalized
  signature : transaction.expectedSignature.isSome = true
  items : transaction.items ≠ []
  toldApart : ToldApart verifier batch transaction.items confirmed

theorem Landed.verifyTransaction_eq_nil {transaction : PayoutTransactionRecord} {signature : String}
    {confirmed : SolanaConfirmedTransaction}
    (h : Landed verifier batch transaction signature confirmed)
    (hnodup : (transaction.items.map PayoutTransactionItemRecord.payoutItemId).Nodup) :
    verifier.verifyTransaction batch transaction = [] ↔
      Verifiable verifier batch transaction confirmed := by
  unfold verifyTransaction
  dsimp only
  cases hexpected : transaction.expectedSignature with
  | none =>
      constructor
      · intro herrors
        exact absurd (List.append_eq_nil_iff.mp herrors).2 (List.cons_ne_nil _ _)
      · intro hverifiable
        have hsome := hverifiable.signature
        rw [hexpected] at hsome
        cases hsome
  | some expected =>
      rw [h.expected expected hexpected]
      dsimp only
      by_cases hitems : transaction.items = []
      · rw [if_pos hitems]
        constructor
        · intro herrors
          exact absurd (List.append_eq_nil_iff.mp herrors).2 (List.cons_ne_nil _ _)
        · intro hverifiable
          exact absurd hitems hverifiable.items
      · rw [if_neg hitems, h.onChain.request]
        dsimp only
        rw [List.map_eq_nil_iff, h.succeeded, if_neg (not_not.mpr h.signed), List.append_nil,
          List.append_nil, List.append_eq_nil_iff, verifyTransfers_eq_nil hnodup]
        constructor
        · rintro ⟨hstatus, htold⟩
          refine ⟨?_, by rw [hexpected]; rfl, hitems, htold⟩
          by_contra hne
          rw [if_pos hne] at hstatus
          cases hstatus
        · intro hverifiable
          exact ⟨if_neg (not_not.mpr hverifiable.finalized), hverifiable.toldApart⟩

/-- An attempt that is not finalized never verifies. -/
theorem verifyTransaction_ne_nil {transaction : PayoutTransactionRecord}
    (h : transaction.status ≠ .finalized) : verifier.verifyTransaction batch transaction ≠ [] := by
  unfold verifyTransaction
  dsimp only
  rw [if_pos h]
  split
  · exact List.cons_ne_nil _ _
  · split
    · exact List.cons_ne_nil _ _
    · split
      · exact List.cons_ne_nil _ _
      · exact List.cons_ne_nil _ _

/-! ## Batches -/

/-- The verifier is set up for the batch. -/
structure SetUpFor (verifier : SolanaRpcPayoutFinalizedTransferVerifier)
    (batch : PayoutBatchRecord) : Prop where
  network : batch.network = verifier.network
  fundingWallet : verifier.solana.isAddress verifier.fundingWallet = true
  sourceTokenAccount : verifier.solana.isAddress verifier.sourceTokenAccount = true
  program : verifier.solana.isAddress verifier.programId = true ∧
    verifier.programId ∈ TOKEN_PROGRAM_IDS

theorem SetUpFor.validateBatch (h : verifier.SetUpFor batch) (hstatus : batch.status = .finalized) :
    verifier.validateBatch batch = [] := by
  unfold SolanaRpcPayoutFinalizedTransferVerifier.validateBatch
  rw [if_neg (not_not.mpr h.network), if_neg (not_not.mpr hstatus)]
  simp only [assertSolanaAddress, assertSupportedTokenProgramId, h.fundingWallet,
    h.sourceTokenAccount, h.program.1, h.program.2, if_true]
  rfl

/-- A batch paid by the latest attempts of its sequences: each is finalized and landed, together
they pay every item, and the earlier attempts failed or expired. `landed` is the chain's account of
the transactions that landed. -/
structure PaidOut (host : Host) (verifier : SolanaRpcPayoutFinalizedTransferVerifier)
    (batch : PayoutBatchRecord) (transactions : List PayoutTransactionRecord)
    (landed : PayoutTransactionRecord → String × SolanaConfirmedTransaction) : Prop where
  nonempty : transactions ≠ []
  mapped : ∀ t ∈ transactions, (t.items.map PayoutTransactionItemRecord.payoutItemId).Nodup
  latest : ∀ t ∈ latestAttemptBySequence host transactions, t.status = .finalized ∧
    Landed verifier batch t (landed t).1 (landed t).2
  earlier : ∀ t ∈ transactions, t ∉ latestAttemptBySequence host transactions →
    t.status = .failed ∨ t.status = .expired
  pays : ∀ item ∈ batch.items,
    ∃ t ∈ latestAttemptBySequence host transactions, t.covers item.id = true

/-- The batch can be closed: it is rolled up to `finalized`, and so verifies. -/
def Closable (host : Host) (verifier : SolanaRpcPayoutFinalizedTransferVerifier)
    (batch : PayoutBatchRecord) (transactions : List PayoutTransactionRecord) : Prop :=
  ∃ rollup, summarizePayoutBatchTransactionItemFinality host batch transactions = some rollup ∧
    rollup.batchStatus = .finalized ∧
    (verifier.verifyFinalizedPayout { batch with status := rollup.batchStatus } transactions).ok =
      true

theorem PaidOut.rollup {host : Host} {transactions : List PayoutTransactionRecord}
    {landed : PayoutTransactionRecord → String × SolanaConfirmedTransaction}
    (h : PaidOut host verifier batch transactions landed) :
    ∃ rollup, summarizePayoutBatchTransactionItemFinality host batch transactions = some rollup ∧
      rollup.batchStatus = .finalized := by
  cases hsummary : summarizePayoutBatchTransactionItemFinality host batch transactions with
  | none =>
      rw [summarizePayoutBatchTransactionItemFinality, if_neg h.nonempty] at hsummary
      cases hsummary
  | some rollup =>
      exact ⟨rollup, rfl, (summarize_summary hsummary).finalizes (fun t ht => (h.latest t ht).1)
        h.pays⟩

/-- **A paid batch is rolled up to `finalized`; it can be closed exactly when every stored
transaction is finalized, with its signature and its items, and its transfers can be told apart.** -/
theorem closable_iff {host : Host} {transactions : List PayoutTransactionRecord}
    {landed : PayoutTransactionRecord → String × SolanaConfirmedTransaction}
    (h : PaidOut host verifier batch transactions landed) (hsetup : verifier.SetUpFor batch) :
    Closable host verifier batch transactions ↔
      ∀ t ∈ transactions, Verifiable verifier batch t (landed t).2 := by
  obtain ⟨rollup, hsummary, hfinalized⟩ := h.rollup
  -- verification does not read the items of the batch
  have hverify : (verifier.verifyFinalizedPayout { batch with status := .finalized }
      transactions).ok = true ↔ ∀ t ∈ transactions, verifier.verifyTransaction batch t = [] := by
    have hvalid : verifier.validateBatch { batch with status := .finalized } = [] :=
      SetUpFor.validateBatch ⟨hsetup.network, hsetup.fundingWallet, hsetup.sourceTokenAccount,
        hsetup.program⟩ rfl
    unfold verifyFinalizedPayout
    dsimp only
    rw [hvalid, if_neg (not_not.mpr rfl), List.isEmpty_iff, List.flatMap_eq_nil_iff]
    exact Iff.rfl
  have hclosable : Closable host verifier batch transactions ↔
      ∀ t ∈ transactions, verifier.verifyTransaction batch t = [] := by
    rw [← hverify]
    constructor
    · rintro ⟨rollup', hsummary', hfinalized', hok⟩
      rwa [hfinalized'] at hok
    · intro hok
      refine ⟨rollup, hsummary, hfinalized, ?_⟩
      rwa [hfinalized]
  rw [hclosable]
  constructor
  · intro hall t ht
    have hfinal : t.status = .finalized := by
      by_contra hne
      exact verifyTransaction_ne_nil hne (hall t ht)
    -- what is finalized is a latest attempt
    have hlatest : t ∈ latestAttemptBySequence host transactions := by
      by_contra hnot
      rcases h.earlier t ht hnot with hfailed | hexpired
      · rw [hfinal] at hfailed
        cases hfailed
      · rw [hfinal] at hexpired
        cases hexpired
    exact ((h.latest t hlatest).2.verifyTransaction_eq_nil (h.mapped t ht)).mp (hall t ht)
  · intro hall t ht
    have hlatest : t ∈ latestAttemptBySequence host transactions := by
      by_contra hnot
      have hfinal := (hall t ht).finalized
      rcases h.earlier t ht hnot with hfailed | hexpired
      · rw [hfinal] at hfailed
        cases hfailed
      · rw [hfinal] at hexpired
        cases hexpired
    exact ((h.latest t hlatest).2.verifyTransaction_eq_nil (h.mapped t ht)).mpr (hall t ht)

/-- A batch that is paid without a second attempt, by transactions whose items name their token
accounts, can be closed. -/
theorem closable_of_named {host : Host} {transactions : List PayoutTransactionRecord}
    {landed : PayoutTransactionRecord → String × SolanaConfirmedTransaction}
    (h : PaidOut host verifier batch transactions landed) (hsetup : verifier.SetUpFor batch)
    (hlatest : ∀ t ∈ transactions, t ∈ latestAttemptBySequence host transactions)
    (hsigned : ∀ t ∈ transactions, t.expectedSignature.isSome = true)
    (hnamed : ∀ t ∈ transactions, t.items ≠ [] ∧
      ∀ item ∈ t.items, item.destinationTokenAccount.isSome = true) :
    Closable host verifier batch transactions := by
  refine (closable_iff h hsetup).mpr ?_
  intro t ht
  obtain ⟨hfinal, hlanded⟩ := h.latest t (hlatest t ht)
  obtain ⟨taken, hpaid⟩ := hlanded.paid
  exact ⟨hfinal, hsigned t ht, (hnamed t ht).1,
    toldApart_of_named (h.mapped t ht) (hnamed t ht).2 hpaid⟩

/-! ## One payout -/

def paidItem (n : Int) : PayoutTransactionItemRecord where
  payoutTransactionId := s!"ptx_{n}"
  payoutItemId := "pit_1"
  amountAtomic := "10"
  destinationWallet := "wallet"
  destinationTokenAccount := none

def attempt (n : Int) (status : PayoutTransactionStatus) : PayoutTransactionRecord where
  id := s!"ptx_{n}"
  payoutBatchId := "pbt_1"
  sequence := 0
  attempt := n
  recentBlockhash := none
  lastValidBlockHeight := none
  signedTransactionBase64 := none
  expectedSignature := some s!"signature{n}"
  status := status
  submittedAt := none
  confirmedAt := none
  finalizedAt := none
  error := none
  createdAt := "2026-01-01T00:00:00.000Z"
  items := [paidItem n]

def paidBatch : PayoutBatchRecord where
  id := "pbt_1"
  merchantId := "mrc_1"
  payoutWalletId := "pwl_1"
  network := "solana:devnet"
  asset := "mint"
  status := .submitted
  totalAmountAtomic := "10"
  itemCount := 1
  accrualCount := 0
  failureCode := none
  failureMessage := none
  createdAt := "2026-01-01T00:00:00.000Z"
  updatedAt := "2026-01-01T00:00:00.000Z"
  items := [⟨"pit_1", "pbt_1", "wallet", none, "10", .submitted, "2026-01-01T00:00:00.000Z", []⟩]

/-- The second attempt on chain: one transfer to a token account of the item's wallet. -/
def secondAttempt : SolanaConfirmedTransaction where
  signatures := ["signature2"]
  metaErr := none
  tokenAccounts account :=
    if account = "account" then some ⟨"mint", some "wallet", none⟩ else none
  transfers := [⟨some SOLANA_TOKEN_PROGRAM_ID, some "source", "mint", "account", "funding", "10"⟩]

def sampleVerifier : SolanaRpcPayoutFinalizedTransferVerifier where
  solana := ⟨fun _ => true, fun _ _ _ => none, fun _ signature =>
    if signature = "signature2" then .found secondAttempt else .notFound⟩
  rpcUrl := some "https://rpc.example"
  rpcUrls := none
  network := "solana:devnet"
  fundingWallet := "funding"
  sourceTokenAccount := "source"
  tokenProgramId := none

theorem sampleVerifier_setUp : sampleVerifier.SetUpFor paidBatch :=
  ⟨rfl, rfl, rfl, rfl, by decide⟩

theorem secondAttempt_landed : Landed sampleVerifier paidBatch (attempt 2 .finalized) "signature2"
    secondAttempt where
  expected := by
    intro s h
    exact (Option.some.inj h).symm
  onChain := by
    have hurls : Split402.rpcUrls sampleVerifier.rpcUrl sampleVerifier.rpcUrls =
        ["https://rpc.example"] := by decide
    refine ⟨⟨"https://rpc.example", by rw [hurls]; exact List.mem_singleton_self _, rfl⟩, ?_⟩
    intro _ _ other h
    injection h with h
    exact h.symm
  signed := List.mem_singleton_self _
  succeeded := rfl
  paid := by
    refine ⟨[paidItem 2], .rfl, ?_⟩
    exact .cons ⟨rfl, by decide, by decide⟩ .nil

theorem paidOut_of_latest {transactions : List PayoutTransactionRecord}
    (hlatest : latestAttemptBySequence isoHost transactions = [attempt 2 .finalized])
    (hall : ∀ t ∈ transactions, t = attempt 1 .expired ∨ t = attempt 2 .finalized)
    (hnonempty : transactions ≠ []) :
    PaidOut isoHost sampleVerifier paidBatch transactions (fun _ => ("signature2", secondAttempt)) where
  nonempty := hnonempty
  mapped := by
    intro t ht
    rcases hall t ht with rfl | rfl
    · exact List.nodup_singleton _
    · exact List.nodup_singleton _
  latest := by
    intro t ht
    rw [hlatest, List.mem_singleton] at ht
    rw [ht]
    exact ⟨rfl, secondAttempt_landed⟩
  earlier := by
    intro t ht hnot
    rcases hall t ht with rfl | rfl
    · exact .inr rfl
    · rw [hlatest] at hnot
      exact absurd (List.mem_singleton_self _) hnot
  pays := by
    intro item hitem
    rw [List.mem_singleton.mp hitem, hlatest]
    exact ⟨_, List.mem_singleton_self _, by decide⟩

theorem closable_iff_paidOnce :
    Closable isoHost sampleVerifier paidBatch [attempt 2 .finalized] ↔
      ∀ t ∈ [attempt 2 .finalized], Verifiable sampleVerifier paidBatch t secondAttempt :=
  closable_iff (paidOut_of_latest rfl (by simp) (List.cons_ne_nil _ _)) sampleVerifier_setUp

/-- A batch paid by a second attempt after the first expired is rolled up to `finalized` and does
not verify. -/
theorem not_closable_paidOnRetry :
    ¬ ∀ host verifier batch transactions landed, PaidOut host verifier batch transactions landed →
      SetUpFor verifier batch → Closable host verifier batch transactions := by
  intro h
  have hlatest : latestAttemptBySequence isoHost [attempt 1 .expired, attempt 2 .finalized] =
      [attempt 2 .finalized] := rfl
  have hpaid := paidOut_of_latest hlatest (by simp) (List.cons_ne_nil _ _)
  obtain ⟨rollup, -, hfinalized, hok⟩ := h _ _ _ _ _ hpaid sampleVerifier_setUp
  rw [hfinalized] at hok
  have hfails : (sampleVerifier.verifyFinalizedPayout { paidBatch with status := .finalized }
      [attempt 1 .expired, attempt 2 .finalized]).ok = false := by decide
  rw [hfails] at hok
  cases hok

end SolanaRpcPayoutFinalizedTransferVerifier

end Split402

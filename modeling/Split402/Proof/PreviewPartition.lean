import Split402.Proof.BatchPlan

/-! # Where a preview puts the accruals

Every pass of `createPayoutPreview` moves accrual ids and drops none: the loop puts each into an item
or onto the list of skipped accruals, the threshold and the recipient limit move the ids of whole
items onto that list, and sorting rearranges. So the ids of the items and of the skipped accruals
are the ids that came in, and with distinct ids each accrual is in exactly one place. -/

namespace Split402

open Base

variable {host : Host}

/-! ## The loop -/

/-- The accrual ids of the items of all assets. -/
def AssetMap.accrualIds (itemsByAsset : AssetMap) : List String :=
  itemsByAsset.rows.flatMap (fun entry => entry.2.rows.flatMap MutablePayoutItem.accrualIds)

theorem accrualIds_itemOf (assetItems : ItemMap) (wallet : String) :
    (itemOf assetItems wallet).accrualIds =
      ((assetItems.find? wallet).map MutablePayoutItem.accrualIds).getD [] := by
  rw [itemOf]
  cases assetItems.find? wallet <;> rfl

theorem accrualIds_itemsOf (itemsByAsset : AssetMap) (asset : String) :
    (itemsOf itemsByAsset asset).rows.flatMap MutablePayoutItem.accrualIds =
      ((itemsByAsset.find? asset).map
        (fun entry => entry.2.rows.flatMap MutablePayoutItem.accrualIds)).getD [] := by
  rw [itemsOf]
  cases itemsByAsset.find? asset <;> rfl

/-- Taking an accrual adds its id and nothing else. -/
theorem accrualIds_takeAccrual (itemsByAsset : AssetMap) (accrual : CommissionAccrual)
    (amount : Nat) (time : Option String) :
    (takeAccrual itemsByAsset accrual amount time).accrualIds.Perm
      (itemsByAsset.accrualIds ++ [accrual.id]) := by
  have hitems := Table.flatMap_upsert_perm (itemsOf itemsByAsset accrual.asset)
    ((itemOf (itemsOf itemsByAsset accrual.asset) accrual.payoutWallet).add accrual amount time)
    MutablePayoutItem.accrualIds
  have hkey : ((itemOf (itemsOf itemsByAsset accrual.asset) accrual.payoutWallet).add accrual amount
      time).destinationWallet = accrual.payoutWallet := itemOf_destinationWallet _ _
  rw [hkey, ← accrualIds_itemOf] at hitems
  have hassets := Table.flatMap_upsert_perm itemsByAsset (accrual.asset,
    (itemsOf itemsByAsset accrual.asset).upsert
      ((itemOf (itemsOf itemsByAsset accrual.asset) accrual.payoutWallet).add accrual amount time))
    (fun entry => entry.2.rows.flatMap MutablePayoutItem.accrualIds)
  rw [← accrualIds_itemsOf] at hassets
  have hswap : ∀ a b c : List String, (a ++ (b ++ c)).Perm (a ++ c ++ b) := by
    intro a b c
    rw [List.append_assoc]
    exact List.perm_append_comm.append_left a
  have hitems' := (List.perm_append_right_iff _).mp (hitems.trans (hswap _ _ _))
  exact (List.perm_append_right_iff _).mp
    (hassets.trans ((hitems'.append_left _).trans (hswap _ _ _)))

/-- The accruals that were visited are in the items or skipped. -/
theorem foldlM_visitAccrual_placed {merchantId : String} {nowMs : Option Int}
    {accruals : List CommissionAccrual} {state final : PreviewState}
    (h : accruals.foldlM (visitAccrual host merchantId nowMs) state = .ok final) :
    (final.itemsByAsset.accrualIds ++
        final.skippedAccruals.map PayoutPreviewSkippedAccrual.accrualId).Perm
      (state.itemsByAsset.accrualIds ++
        state.skippedAccruals.map PayoutPreviewSkippedAccrual.accrualId ++
          accruals.map CommissionAccrual.id) := by
  induction accruals generalizing state with
  | nil =>
      rw [List.foldlM_nil, pure_eq_ok] at h
      subst h
      simp
  | cons accrual accruals ih =>
      rw [List.foldlM_cons] at h
      obtain ⟨next, hnext, h⟩ := bind_eq_ok.mp h
      refine (ih h).trans ?_
      rw [visitAccrual] at hnext
      obtain ⟨verdict, -, hnext⟩ := bind_eq_ok.mp hnext
      rw [List.map_cons, List.append_cons _ accrual.id]
      refine List.Perm.append_right _ ?_
      cases verdict with
      | skip reason =>
          simp only [pure_eq_ok] at hnext
          subst hnext
          simp
      | take amount time =>
          simp only [pure_eq_ok] at hnext
          subst hnext
          refine ((accrualIds_takeAccrual _ accrual amount time).append_right _).trans ?_
          simp only [List.append_assoc]
          exact List.perm_append_comm.append_left _

/-! ## The passes over an item map -/

theorem accrualIds_skipItems (items : List MutablePayoutItem)
    (reason : PayoutSkippedAccrualReason) :
    (skipItems items reason).map PayoutPreviewSkippedAccrual.accrualId =
      items.flatMap MutablePayoutItem.accrualIds := by
  rw [skipItems, List.map_flatMap]
  refine List.flatMap_congr fun item _ => ?_
  rw [List.map_map]
  exact List.map_id _

/-- What the threshold and the recipient limit leave of the sorted items of an asset. -/
structure Selection (minimum : Nat) (maxRecipients : Option Nat) (itemMap : ItemMap)
    (selected : List MutablePayoutItem) (skipped : List PayoutPreviewSkippedAccrual) : Prop where
  placed : (selected.flatMap MutablePayoutItem.accrualIds ++
    skipped.map PayoutPreviewSkippedAccrual.accrualId).Perm
      (itemMap.rows.flatMap MutablePayoutItem.accrualIds)
  minimum : ∀ item ∈ selected, minimum ≤ item.amount
  limit : ∀ n, maxRecipients = some n → selected.length ≤ n

theorem selectItems_selection {minimum : Nat} {maxRecipients : Option Nat} {itemMap : ItemMap}
    {selected : List MutablePayoutItem} {skipped : List PayoutPreviewSkippedAccrual}
    (h : selectItems host minimum maxRecipients itemMap = .ok (selected, skipped)) :
    Selection minimum maxRecipients itemMap selected skipped := by
  rw [selectItems] at h
  obtain ⟨sorted, hs, h⟩ := bind_eq_ok.mp h
  have hsorted := (sortM_perm hs).flatMap_right MutablePayoutItem.accrualIds
  have hsplit : (sorted.filter (fun item => minimum ≤ item.amount) ++
      sorted.filter (fun item => ¬ minimum ≤ item.amount)).Perm sorted := by
    simpa only [decide_not] using List.filter_append_perm _ sorted
  have hmin : ∀ item ∈ sorted.filter (fun item => minimum ≤ item.amount),
      minimum ≤ item.amount := by
    intro item hitem
    simpa using (List.mem_filter.mp hitem).2
  cases maxRecipients with
  | none =>
      rw [pure_eq_ok] at h
      injection h with hsel hskip
      subst hsel hskip
      refine ⟨?_, hmin, fun n hn => by cases hn⟩
      rw [accrualIds_skipItems, ← List.flatMap_append]
      exact (hsplit.flatMap_right _).trans hsorted
  | some maxRecipients =>
      rw [pure_eq_ok] at h
      injection h with hsel hskip
      subst hsel hskip
      refine ⟨?_, fun item hitem => hmin item (List.mem_of_mem_take hitem), ?_⟩
      · -- the items behind the limit go behind those below the minimum
        rw [List.map_append, accrualIds_skipItems, accrualIds_skipItems, ← List.flatMap_append,
          ← List.flatMap_append]
        refine List.Perm.trans (List.Perm.flatMap_right _ ?_) hsorted
        refine List.Perm.trans ?_ hsplit
        refine (List.perm_append_comm.append_left _).trans ?_
        rw [← List.append_assoc, List.take_append_drop]
      · rintro n ⟨⟩
        exact List.length_take_le _ _

theorem createPreviewBatch_eq_ok {merchantId asset : String} {minimum : Nat}
    {maxRecipients : Option Nat} {funding : Option (Table (Prod.fst : String × Nat → String))}
    {itemMap : ItemMap} {batch? : Option PayoutPreviewBatch}
    {skipped : List PayoutPreviewSkippedAccrual}
    (h : createPreviewBatch host merchantId asset minimum maxRecipients funding itemMap =
      .ok (batch?, skipped)) :
    ∃ selected, selectItems host minimum maxRecipients itemMap = .ok (selected, skipped) ∧
      (selected = [] ∧ batch? = none ∨
        ∃ batch, batch? = some batch ∧ batch.asset = asset ∧
          batch.items = selected.map toPreviewItem ∧
          batch.totalAmountAtomic =
            serializeAtomicAmount (selected.map MutablePayoutItem.amount).sum ∧
          batch.itemCount = selected.length ∧
          batch.accrualCount = (selected.map (fun item => item.accrualIds.length)).sum) := by
  rw [createPreviewBatch] at h
  obtain ⟨⟨selected, skipped'⟩, hs, h⟩ := bind_eq_ok.mp h
  dsimp only at h
  split at h
  · rename_i hempty
    rw [pure_eq_ok] at h
    injection h with hb hsk
    subst hb hsk
    exact ⟨selected, hs, .inl ⟨hempty, rfl⟩⟩
  · rw [pure_eq_ok] at h
    injection h with hb hsk
    subst hb hsk
    exact ⟨selected, hs, .inr ⟨_, rfl, rfl, rfl, rfl, rfl, rfl⟩⟩

/-! ## The passes over all assets -/

/-- The accrual ids of a preview batch, item by item. -/
def PayoutPreviewBatch.accrualIds (batch : PayoutPreviewBatch) : List String :=
  batch.items.flatMap PayoutPreviewItem.accrualIds

/-- An item prints the ids it has gathered in another order. -/
theorem accrualIds_toPreviewItem (items : List MutablePayoutItem) :
    ((items.map toPreviewItem).flatMap PayoutPreviewItem.accrualIds).Perm
      (items.flatMap MutablePayoutItem.accrualIds) := by
  induction items with
  | nil => exact List.Perm.refl _
  | cons item items ih => exact (sortBy_perm compareUtf16 item.accrualIds).append ih

/-- The accruals of one asset are in its batch or skipped. -/
theorem createPreviewBatch_placed {merchantId asset : String} {minimum : Nat}
    {maxRecipients : Option Nat} {funding : Option (Table (Prod.fst : String × Nat → String))}
    {itemMap : ItemMap} {batch? : Option PayoutPreviewBatch}
    {skipped : List PayoutPreviewSkippedAccrual}
    (h : createPreviewBatch host merchantId asset minimum maxRecipients funding itemMap =
      .ok (batch?, skipped)) :
    (batch?.toList.flatMap PayoutPreviewBatch.accrualIds ++
      skipped.map PayoutPreviewSkippedAccrual.accrualId).Perm
        (itemMap.rows.flatMap MutablePayoutItem.accrualIds) := by
  obtain ⟨selected, hs, ⟨rfl, rfl⟩ | ⟨batch, rfl, -, hitems, -⟩⟩ := createPreviewBatch_eq_ok h
  · exact (selectItems_selection hs).placed
  · refine List.Perm.trans (List.Perm.append_right _ ?_) (selectItems_selection hs).placed
    rw [Option.toList_some, List.flatMap_singleton, PayoutPreviewBatch.accrualIds, hitems]
    exact accrualIds_toPreviewItem selected

/-- What is listed in two parts, entry by entry, may be gathered part by part. -/
theorem flatMap_append_perm {α β γ : Type} {R : α → β → Prop} {f : α → List γ} {g k : β → List γ}
    (hR : ∀ a b, R a b → (g b ++ k b).Perm (f a)) {as : List α} {bs : List β}
    (h : List.Forall₂ R as bs) : (bs.flatMap g ++ bs.flatMap k).Perm (as.flatMap f) := by
  induction h with
  | nil => exact List.Perm.refl _
  | @cons a b as bs hab _ ih =>
      simp only [List.flatMap_cons]
      refine List.Perm.trans ?_ ((hR a b hab).append ih)
      simp only [List.append_assoc]
      exact (List.perm_append_comm_assoc ..).append_left _

/-! ## The preview -/

/-- How a preview comes about: the passes it makes, each with its result. -/
structure PreviewPasses (host : Host) (input : CreatePayoutPreviewInput) (preview : PayoutPreview)
    (minimum : Nat) (maxRecipients : Option Nat)
    (funding : Option (Table (Prod.fst : String × Nat → String)))
    (sorted : List CommissionAccrual) (state : PreviewState)
    (results : List (Option PayoutPreviewBatch × List PayoutPreviewSkippedAccrual)) : Prop where
  threshold : parseAtomicAmount (input.minimumPayoutAmountAtomic.getD "0") = some minimum
  recipients : maxRecipients = input.maxRecipients.map Int.toNat
  positive : ∀ n, input.maxRecipients = some n → 0 < n
  sorts : sortM (compareAccrualsForPayout host) input.accruals = .ok sorted
  visits : sorted.foldlM (visitAccrual host input.merchantId (host.dateParse preview.generatedAt))
    ⟨[], Table.empty⟩ = .ok state
  creates : (sortBy (fun left right => host.localeCompare left.1 right.1)
      state.itemsByAsset.rows).mapM (fun entry =>
    createPreviewBatch host input.merchantId entry.1 minimum maxRecipients funding entry.2) =
      .ok results
  merchantId : preview.merchantId = input.merchantId
  batches : preview.batches = results.filterMap Prod.fst
  skipped : preview.skippedAccruals = state.skippedAccruals ++ results.flatMap Prod.snd
  eligibleCount : preview.eligibleAccrualCount =
    (preview.batches.map PayoutPreviewBatch.accrualCount).sum
  skippedCount : preview.skippedAccrualCount = preview.skippedAccruals.length
  byAsset : preview.totalAmountAtomicByAsset =
    preview.batches.map (fun batch => (batch.asset, batch.totalAmountAtomic))

theorem createPayoutPreview_passes {env : CallEnv} {input : CreatePayoutPreviewInput}
    {preview : PayoutPreview} (h : createPayoutPreview host env input = .ok preview) :
    ∃ minimum maxRecipients funding sorted state results,
      PreviewPasses host input preview minimum maxRecipients funding sorted state results := by
  rw [createPayoutPreview] at h
  obtain ⟨merchantId, hm, h⟩ := bind_eq_ok.mp h
  obtain ⟨generatedAt, -, h⟩ := bind_eq_ok.mp h
  obtain ⟨minimum, hmin, h⟩ := bind_eq_ok.mp h
  obtain ⟨maxRecipients, hmax, h⟩ := bind_eq_ok.mp h
  obtain ⟨funding, -, h⟩ := bind_eq_ok.mp h
  obtain ⟨sorted, hsort, h⟩ := bind_eq_ok.mp h
  obtain ⟨state, hloop, h⟩ := bind_eq_ok.mp h
  obtain ⟨results, hresults, h⟩ := bind_eq_ok.mp h
  rw [assertNonEmptyString] at hm
  split at hm
  · exact absurd hm throw_ne_ok
  rw [pure_eq_ok] at hm
  subst hm
  rw [pure_eq_ok] at h
  subst h
  have hrecipients : maxRecipients = input.maxRecipients.map Int.toNat ∧
      ∀ n, input.maxRecipients = some n → 0 < n := by
    cases hlimit : input.maxRecipients with
    | none =>
        rw [hlimit, readOptionalPositiveInteger, pure_eq_ok] at hmax
        exact ⟨hmax.symm, fun n hn => by cases hn⟩
    | some n =>
        rw [hlimit, readOptionalPositiveInteger] at hmax
        split at hmax
        · exact absurd hmax throw_ne_ok
        · rename_i hpos
          rw [pure_eq_ok] at hmax
          refine ⟨hmax.symm, fun k hk => ?_⟩
          injection hk with hk
          omega
  exact ⟨minimum, maxRecipients, funding, sorted, state, results, readAtomicAmount_eq_ok.mp hmin,
    hrecipients.1, hrecipients.2, hsort, hloop, hresults, rfl, rfl, rfl, rfl, rfl, rfl⟩

namespace PreviewPasses

variable {input : CreatePayoutPreviewInput} {preview : PayoutPreview} {minimum : Nat}
  {maxRecipients : Option Nat} {funding : Option (Table (Prod.fst : String × Nat → String))}
  {sorted : List CommissionAccrual} {state : PreviewState}
  {results : List (Option PayoutPreviewBatch × List PayoutPreviewSkippedAccrual)}

theorem flatMap_batches (p : PreviewPasses host input preview minimum maxRecipients funding sorted
      state results) :
    preview.batches.flatMap PayoutPreviewBatch.accrualIds =
      results.flatMap (fun result => result.1.toList.flatMap PayoutPreviewBatch.accrualIds) := by
  rw [p.batches]
  clear p
  induction results with
  | nil => rfl
  | cons result results ih =>
      obtain ⟨batch?, skipped⟩ := result
      cases batch? with
      | none => simpa using ih
      | some batch => simpa using ih

/-- **The ids that come in are the ids of the items and of the skipped accruals.** -/
theorem placed (p : PreviewPasses host input preview minimum maxRecipients funding sorted state
      results) :
    (preview.batches.flatMap PayoutPreviewBatch.accrualIds ++
      preview.skippedAccruals.map PayoutPreviewSkippedAccrual.accrualId).Perm
        (input.accruals.map CommissionAccrual.id) := by
  have hloop := foldlM_visitAccrual_placed p.visits
  have hsorted := (sortM_perm p.sorts).map CommissionAccrual.id
  have hentries := (sortBy_perm (fun left right => host.localeCompare left.1 right.1)
    state.itemsByAsset.rows).flatMap_right
      (fun entry => entry.2.rows.flatMap MutablePayoutItem.accrualIds)
  have hresults := flatMap_append_perm
    (R := fun (entry : String × ItemMap) result => createPreviewBatch host input.merchantId entry.1
      minimum maxRecipients funding entry.2 = .ok result)
    (fun _ _ h => createPreviewBatch_placed h) (mapM_eq_ok_iff.mp p.creates)
  rw [p.flatMap_batches, p.skipped, List.map_append, List.map_flatMap]
  refine List.Perm.trans ?_ (hloop.trans hsorted)
  -- the loop skips first, and the items of the assets are placed behind
  refine List.Perm.trans (List.perm_append_comm_assoc ..) ?_
  exact ((hresults.trans hentries).append_left _).trans List.perm_append_comm

/-- A batch of the preview is made of the item map of its asset. -/
theorem batch_of_mem (p : PreviewPasses host input preview minimum maxRecipients funding sorted state
      results) {batch : PayoutPreviewBatch} (hbatch : batch ∈ preview.batches) :
    ∃ entry ∈ state.itemsByAsset, ∃ skipped, createPreviewBatch host input.merchantId entry.1
      minimum maxRecipients funding entry.2 = .ok (some batch, skipped) := by
  rw [p.batches] at hbatch
  obtain ⟨⟨batch?, skipped⟩, hr, rfl⟩ := List.mem_filterMap.mp hbatch
  obtain ⟨entry, hentry, hcreate⟩ := exists_of_mem_mapM p.creates hr
  exact ⟨entry, (mem_sortBy _).mp hentry, skipped, hcreate⟩

/-- There is one batch for an asset. -/
theorem assets_nodup (p : PreviewPasses host input preview minimum maxRecipients funding sorted state
      results) : (preview.batches.map PayoutPreviewBatch.asset).Nodup := by
  have hentries : ((sortBy (fun left right => host.localeCompare left.1 right.1)
      state.itemsByAsset.rows).map Prod.fst).Nodup :=
    ((sortBy_perm _ _).map Prod.fst).nodup_iff.mpr state.itemsByAsset.nodup
  refine hentries.sublist ?_
  rw [p.batches]
  have hcreates := mapM_eq_ok_iff.mp p.creates
  generalize sortBy (fun left right => host.localeCompare left.1 right.1)
    state.itemsByAsset.rows = entries at hcreates
  clear p hentries
  induction hcreates with
  | nil => exact List.Sublist.refl _
  | @cons entry result entries results hcreate _ ih =>
      obtain ⟨batch?, skipped⟩ := result
      cases batch? with
      | none => exact ih.cons _
      | some batch =>
          simp only [List.filterMap_cons, List.map_cons, (createPreviewBatch_items hcreate).1]
          exact ih.cons_cons _

end PreviewPasses

/-! ## What an item stands for -/

/-- The accrual may be paid at a time: it has no time of its own, or one that is not later. -/
def CommissionAccrual.DueAt (host : Host) (accrual : CommissionAccrual) (now : String) : Prop :=
  ∀ availableAt, accrual.availableAt = some availableAt →
    ∃ ms, host.dateParse availableAt = some ms ∧
      ∀ t n, host.dateParse (host.toISOString ms) = some t → host.dateParse now = some n → t ≤ n

theorem normalizeTimestamp_eq_ok {value label normalized : String}
    (h : normalizeTimestamp host value label = .ok normalized) :
    ∃ ms, host.dateParse value = some ms ∧ normalized = host.toISOString ms := by
  rw [normalizeTimestamp] at h
  split at h
  · exact absurd h throw_ne_ok
  · split at h
    · exact absurd h throw_ne_ok
    · rename_i ms hms
      rw [pure_eq_ok] at h
      exact ⟨ms, hms, h.symm⟩

theorem judgeAccrual_take_due {merchantId now : String} {accrual : CommissionAccrual} {amount : Nat}
    {time : Option String}
    (h : judgeAccrual host merchantId (host.dateParse now) accrual = .ok (.take amount time)) :
    accrual.DueAt host now := by
  intro availableAt hat
  rw [judgeAccrual] at h
  split at h
  · simp at h
  split at h
  · simp at h
  obtain ⟨future, hfuture, h⟩ := bind_eq_ok.mp h
  split at h
  · simp at h
  rename_i hnot
  rw [hat, isAvailableInFuture] at hfuture
  obtain ⟨normalized, hnormalized, hfuture⟩ := bind_eq_ok.mp hfuture
  rw [pure_eq_ok] at hfuture
  obtain ⟨ms, hms, rfl⟩ := normalizeTimestamp_eq_ok hnormalized
  refine ⟨ms, hms, fun t n ht hn => ?_⟩
  rw [ht, hn] at hfuture
  subst hfuture
  simpa [isAfterMs] using hnot

/-- The accruals that an item of an asset pays. -/
structure PaysFor (host : Host) (input : CreatePayoutPreviewInput) (generatedAt asset : String)
    (item : PayoutPreviewItem) (accruals : List CommissionAccrual) : Prop where
  ids : item.accrualIds.Perm (accruals.map CommissionAccrual.id)
  amount : item.amountAtomic =
    serializeAtomicAmount (accruals.map (fun accrual => atomicOf accrual.amountAtomic)).sum
  payable : ∀ accrual ∈ accruals, accrual ∈ input.accruals ∧
    accrual.merchantId = input.merchantId ∧ accrual.status = .available ∧
    accrual.DueAt host generatedAt ∧ 0 < atomicOf accrual.amountAtomic ∧
    accrual.payoutWallet = item.destinationWallet ∧ accrual.asset = asset

/-- What a preview batch says, within the limits it was asked for. -/
structure BatchAddsUp (host : Host) (input : CreatePayoutPreviewInput) (generatedAt : String)
    (batch : PayoutPreviewBatch) : Prop where
  items : ∀ item ∈ batch.items, ∃ accruals, PaysFor host input generatedAt batch.asset item accruals
  wallets : (batch.items.map PayoutPreviewItem.destinationWallet).Nodup
  total : batch.totalAmountAtomic =
    serializeAtomicAmount (batch.items.map (fun item => atomicOf item.amountAtomic)).sum
  itemCount : batch.itemCount = batch.items.length
  accrualCount : batch.accrualCount = batch.accrualIds.length
  threshold : ∀ item ∈ batch.items,
    atomicOf (input.minimumPayoutAmountAtomic.getD "0") ≤ atomicOf item.amountAtomic
  recipients : ∀ n, input.maxRecipients = some n → batch.items.length ≤ n

theorem batchAddsUp_of_mem {env : CallEnv} {input : CreatePayoutPreviewInput}
    {preview : PayoutPreview} (h : createPayoutPreview host env input = .ok preview)
    {batch : PayoutPreviewBatch} (hbatch : batch ∈ preview.batches) :
    BatchAddsUp host input preview.generatedAt batch := by
  obtain ⟨minimum, maxRecipients, funding, sorted, state, results, p⟩ :=
    createPayoutPreview_passes h
  obtain ⟨taken, hi⟩ := loopInv_of_foldlM [] []
    ⟨List.Sublist.refl _, by simp, grouped_empty⟩ p.visits
  obtain ⟨entry, hentry, skipped, hcreate⟩ := p.batch_of_mem hbatch
  obtain ⟨selected, hs, ⟨-, hnone⟩ | ⟨_, hsome, hasset, hitems, htotal, hcount, haccruals⟩⟩ :=
    createPreviewBatch_eq_ok hcreate
  · cases hnone
  injection hsome with hsome
  subst hsome
  obtain ⟨sortedItems, hperm, hsub⟩ := selectItems_sublist hs
  have hselection := selectItems_selection hs
  have hminimum : atomicOf (input.minimumPayoutAmountAtomic.getD "0") = minimum := by
    rw [atomicOf, p.threshold, Option.getD_some]
  have hamounts : ∀ item : MutablePayoutItem,
      atomicOf (toPreviewItem item).amountAtomic = item.amount := fun item => atomicOf_serialize _
  refine ⟨?_, ?_, ?_, ?_, ?_, ?_, ?_⟩
  · intro item hitem
    rw [hitems] at hitem
    obtain ⟨m, hm, rfl⟩ := List.mem_map.mp hitem
    -- the item is the one of its wallet in the item map of the asset
    have hrow : m ∈ entry.2 := hperm.mem_iff.mp (hsub.subset hm)
    have hitemOf : itemOf (itemsOf state.itemsByAsset batch.asset) m.destinationWallet = m := by
      rw [hasset, itemsOf, Table.find?_of_mem hentry, itemOf, Table.find?_of_mem hrow]
      rfl
    obtain ⟨hids, hamount⟩ := hi.grouped batch.asset m.destinationWallet
    rw [hitemOf] at hids hamount
    refine ⟨(groupOf taken batch.asset m.destinationWallet).map Taken.accrual, ?_, ?_, ?_⟩
    · refine (sortBy_perm compareUtf16 m.accrualIds).trans ?_
      rw [hids, List.map_map]
      exact List.Perm.refl _
    · have hparse : (groupOf taken batch.asset m.destinationWallet).map Taken.amount =
          (groupOf taken batch.asset m.destinationWallet).map
            (fun t => atomicOf t.accrual.amountAtomic) := by
        refine List.map_congr_left fun t ht => ?_
        have hjudged := hi.judged t (List.mem_filter.mp ht).1
        rw [atomicOf, (judgeAccrual_take hjudged).2.2.1, Option.getD_some]
      rw [List.map_map]
      exact congrArg serializeAtomicAmount (hamount.trans (congrArg List.sum hparse))
    · intro accrual haccrual
      obtain ⟨t, ht, rfl⟩ := List.mem_map.mp haccrual
      obtain ⟨htaken, hgroup⟩ := List.mem_filter.mp ht
      simp only [Bool.and_eq_true, decide_eq_true_eq] at hgroup
      have hjudged := hi.judged t htaken
      obtain ⟨hmerchant, hstatus, hparse, hpos⟩ := judgeAccrual_take hjudged
      have hvisited : t.accrual ∈ sorted := hi.sublist.subset (List.mem_map_of_mem htaken)
      refine ⟨(sortM_perm p.sorts).mem_iff.mp hvisited, hmerchant, hstatus,
        judgeAccrual_take_due hjudged, ?_, hgroup.2, hgroup.1⟩
      rw [atomicOf, hparse, Option.getD_some]
      exact hpos
  · rw [hitems, List.map_map]
    exact ((hperm.map _).nodup_iff.mpr entry.2.nodup).sublist (hsub.map _)
  · rw [htotal, hitems, List.map_map]
    refine congrArg (fun amounts => serializeAtomicAmount (List.sum amounts)) ?_
    exact List.map_congr_left fun m _ => (hamounts m).symm
  · rw [hcount, hitems, List.length_map]
  · rw [haccruals, PayoutPreviewBatch.accrualIds, hitems,
      (accrualIds_toPreviewItem selected).length_eq, List.length_flatMap]
  · intro item hitem
    rw [hitems] at hitem
    obtain ⟨m, hm, rfl⟩ := List.mem_map.mp hitem
    rw [hminimum, hamounts]
    exact hselection.minimum m hm
  · intro n hn
    have hlimit := hselection.limit n.toNat (by rw [p.recipients, hn]; rfl)
    have hpos := p.positive n hn
    rw [hitems, List.length_map]
    omega

/-! ## The plan -/

/-- The preview a batch plan asks for. -/
def CreatePayoutBatchInput.previewInput (input : CreatePayoutBatchInput) (createdAt : String) :
    CreatePayoutPreviewInput where
  merchantId := input.merchantId
  accruals := input.accruals.filter (fun accrual => accrual.asset = input.asset)
  now := some createdAt
  minimumPayoutAmountAtomic := input.minimumPayoutAmountAtomic
  maxRecipients := input.maxRecipients
  fundingBalances := none

/-- A plan takes over the batch total of the preview of its asset's accruals. -/
theorem createPayoutBatchPlan_preview {env : CallEnv} {input : CreatePayoutBatchInput}
    {batch : PayoutBatchRecord} (h : createPayoutBatchPlan host env input = .ok batch) :
    ∃ preview, createPayoutPreview host env (input.previewInput batch.createdAt) = .ok preview ∧
      ∃ previewBatch ∈ preview.batches, previewBatch.asset = input.asset ∧
        batch.asset = input.asset ∧
        batch.totalAmountAtomic = previewBatch.totalAmountAtomic := by
  rw [createPayoutBatchPlan] at h
  obtain ⟨merchantId, hmerchant, h⟩ := bind_eq_ok.mp h
  obtain ⟨payoutWalletId, -, h⟩ := bind_eq_ok.mp h
  obtain ⟨network, -, h⟩ := bind_eq_ok.mp h
  obtain ⟨asset, hasset, h⟩ := bind_eq_ok.mp h
  obtain ⟨createdAt, -, h⟩ := bind_eq_ok.mp h
  obtain ⟨batchId, -, h⟩ := bind_eq_ok.mp h
  obtain ⟨preview, hpreview, h⟩ := bind_eq_ok.mp h
  have hname : ∀ {value label checked : String},
      assertNonEmptyString value label = .ok checked → checked = value := by
    intro value label checked hchecked
    rw [assertNonEmptyString] at hchecked
    split at hchecked
    · exact absurd hchecked throw_ne_ok
    · rw [pure_eq_ok] at hchecked
      exact hchecked.symm
  have := hname hmerchant
  subst this
  have := hname hasset
  subst this
  split at h
  · exact absurd h throw_ne_ok
  rename_i previewBatch hfind
  split at h
  · exact absurd h throw_ne_ok
  obtain ⟨items, -, h⟩ := bind_eq_ok.mp h
  rw [pure_eq_ok] at h
  subst h
  exact ⟨preview, hpreview, previewBatch, List.mem_of_find?_eq_some hfind,
    by simpa using List.find?_some hfind, rfl, rfl⟩

/-! ## Partition and conservation -/

/-- **A preview places every accrual once and adds up, and so does the plan of a batch.** The ids of
the accruals, which differ, are those of the items and of the skipped accruals; an item is worth the
payable accruals of its wallet and asset, a batch its items, and a plan its allocations. -/
theorem payout_preview_conserves {env : CallEnv} :
    (∀ (input : CreatePayoutPreviewInput) (preview : PayoutPreview),
      (input.accruals.map CommissionAccrual.id).Nodup →
      createPayoutPreview host env input = .ok preview →
      (∀ accrual ∈ input.accruals,
        (preview.batches.flatMap PayoutPreviewBatch.accrualIds ++
          preview.skippedAccruals.map PayoutPreviewSkippedAccrual.accrualId).count
            accrual.id = 1) ∧
      (preview.batches.flatMap PayoutPreviewBatch.accrualIds ++
        preview.skippedAccruals.map PayoutPreviewSkippedAccrual.accrualId).Perm
          (input.accruals.map CommissionAccrual.id) ∧
      (preview.batches.map PayoutPreviewBatch.asset).Nodup ∧
      (∀ batch ∈ preview.batches, BatchAddsUp host input preview.generatedAt batch) ∧
      preview.eligibleAccrualCount =
        (preview.batches.flatMap PayoutPreviewBatch.accrualIds).length ∧
      preview.skippedAccrualCount = preview.skippedAccruals.length ∧
      preview.totalAmountAtomicByAsset =
        preview.batches.map (fun batch => (batch.asset, batch.totalAmountAtomic))) ∧
    ∀ (input : CreatePayoutBatchInput) (batch : PayoutBatchRecord),
      (input.accruals.map CommissionAccrual.id).Nodup →
      createPayoutBatchPlan host env input = .ok batch →
      ∃ preview, createPayoutPreview host env (input.previewInput batch.createdAt) = .ok preview ∧
        ∃ previewBatch ∈ preview.batches, previewBatch.asset = batch.asset ∧
          previewBatch.totalAmountAtomic = batch.totalAmountAtomic ∧
          atomicOf batch.totalAmountAtomic =
            (batch.items.map (fun item => atomicOf item.amountAtomic)).sum ∧
          atomicOf batch.totalAmountAtomic =
            (batch.items.flatMap (fun item => item.allocations.map
              (fun allocation => atomicOf allocation.amountAtomic))).sum := by
  refine ⟨?_, ?_⟩
  · intro input preview hids h
    obtain ⟨minimum, maxRecipients, funding, sorted, state, results, p⟩ :=
      createPayoutPreview_passes h
    have hplaced := p.placed
    refine ⟨?_, hplaced, p.assets_nodup, fun batch hbatch => batchAddsUp_of_mem h hbatch, ?_,
      p.skippedCount, p.byAsset⟩
    · intro accrual haccrual
      rw [hplaced.count_eq]
      exact List.count_eq_one_of_mem hids (List.mem_map_of_mem haccrual)
    · rw [p.eligibleCount, List.length_flatMap]
      exact congrArg List.sum (List.map_congr_left fun batch hbatch =>
        (batchAddsUp_of_mem h hbatch).accrualCount)
  · intro input batch hids h
    obtain ⟨preview, hpreview, previewBatch, hmem, hasset, hbatchAsset, htotal⟩ :=
      createPayoutBatchPlan_preview h
    have hplanned := createPayoutBatchPlan_planned hids h
    have hsum : atomicOf batch.totalAmountAtomic =
        (batch.items.map (fun item => atomicOf item.amountAtomic)).sum := by
      rw [hplanned.totalAmount, atomicOf_serialize]
    refine ⟨preview, hpreview, previewBatch, hmem, hasset.trans hbatchAsset.symm, htotal.symm, hsum,
      ?_⟩
    rw [hsum, List.flatMap_def, List.sum_flatten, List.map_map]
    refine congrArg List.sum (List.map_congr_left fun item hitem => ?_)
    rw [hplanned.itemAmount item hitem, atomicOf_serialize]
    rfl

/-! ## Three accruals -/

def owedTo (id payoutWallet amountAtomic : String) (status : AccrualStatus) : CommissionAccrual where
  id := id
  receiptId := "rct_1"
  merchantId := "mrc_1"
  campaignId := "cmp_1"
  routeId := "rte_1"
  referrerWallet := "referrer"
  payoutWallet := payoutWallet
  asset := "mint"
  amountAtomic := amountAtomic
  status := status
  availableAt := none
  createdAt := "2026-01-01T00:00:00.000Z"

/-- Two wallets may be paid, of which one is within the limit. -/
def threeOwed : CreatePayoutPreviewInput where
  merchantId := "mrc_1"
  accruals := [owedTo "acr_1" "wallet1" "5" .available, owedTo "acr_2" "wallet2" "7" .available,
    owedTo "acr_3" "wallet3" "9" .paid]
  now := some "2026-01-01T00:00:00.000Z"
  minimumPayoutAmountAtomic := none
  maxRecipients := some 1
  fundingBalances := none

theorem payout_preview_conserves_sample :
    ∃ preview, createPayoutPreview isoHost ⟨0, fun _ => "", fun _ => ""⟩ threeOwed = .ok preview ∧
      preview.skippedAccruals = [⟨"acr_3", .notAvailable⟩, ⟨"acr_1", .recipientLimit⟩] ∧
      (preview.batches.flatMap PayoutPreviewBatch.accrualIds ++ ["acr_3", "acr_1"]).Perm
        ["acr_1", "acr_2", "acr_3"] := by
  obtain ⟨preview, hpreview, hskipped⟩ : ∃ preview,
      createPayoutPreview isoHost ⟨0, fun _ => "", fun _ => ""⟩ threeOwed = .ok preview ∧
        preview.skippedAccruals = [⟨"acr_3", .notAvailable⟩, ⟨"acr_1", .recipientLimit⟩] :=
    ⟨_, rfl, rfl⟩
  have hperm := (payout_preview_conserves.1 threeOwed preview (by decide) hpreview).2.1
  rw [hskipped] at hperm
  exact ⟨preview, hpreview, hskipped, hperm⟩

end Split402

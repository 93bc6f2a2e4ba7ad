import Mathlib.Algebra.BigOperators.Group.List.Basic
import Split402.Payouts.Preview

/-! # What a batch plan allocates

The preview groups the accruals it takes by asset and payout wallet. The loop invariant says so
literally: after any number of turns, the item of a wallet is the sum of the group of that
wallet in the list of accruals taken so far (`Grouped`). From it follows what the stores rely
on (`PlannedBatch`): a planned batch allocates pairwise different available accruals of its
merchant and asset, each with its own amount, and every item is worth what it allocates. -/

namespace Split402

open Base

variable {host : Host}

/-- The number an amount string stands for; zero when it is not a numeral. -/
def atomicOf (value : String) : Nat := (parseAtomicAmount value).getD 0

@[simp] theorem atomicOf_serialize (n : Nat) : atomicOf (serializeAtomicAmount n) = n := by
  simp [atomicOf]

/-! ## The grouping loop -/

/-- An accrual the preview took, with its amount and its normalized availability time. -/
structure Taken where
  accrual : CommissionAccrual
  amount : Nat
  availableTime : Option String

/-- The accruals taken for one asset and payout wallet. -/
def groupOf (taken : List Taken) (asset wallet : String) : List Taken :=
  taken.filter (fun t => t.accrual.asset = asset && t.accrual.payoutWallet = wallet)

/-- Every item is the sum of its group. -/
def Grouped (taken : List Taken) (itemsByAsset : AssetMap) : Prop :=
  ∀ asset wallet,
    (itemOf (itemsOf itemsByAsset asset) wallet).accrualIds =
      (groupOf taken asset wallet).map (fun t => t.accrual.id) ∧
    (itemOf (itemsOf itemsByAsset asset) wallet).amount =
      ((groupOf taken asset wallet).map Taken.amount).sum

theorem grouped_empty : Grouped [] Table.empty := by
  intro asset wallet
  exact ⟨rfl, rfl⟩

theorem itemsOf_takeAccrual (itemsByAsset : AssetMap) (accrual : CommissionAccrual) (amount : Nat)
    (time : Option String) (asset : String) :
    itemsOf (takeAccrual itemsByAsset accrual amount time) asset =
      if accrual.asset = asset then
        (itemsOf itemsByAsset asset).upsert
          ((itemOf (itemsOf itemsByAsset asset) accrual.payoutWallet).add accrual amount time)
      else itemsOf itemsByAsset asset := by
  rw [takeAccrual, itemsOf, Table.find?_upsert]
  by_cases h : accrual.asset = asset
  · simp [h]
  · simp [h, itemsOf]

theorem itemOf_destinationWallet (assetItems : ItemMap) (wallet : String) :
    (itemOf assetItems wallet).destinationWallet = wallet := by
  rw [itemOf]
  cases h : assetItems.find? wallet with
  | none => rfl
  | some item => exact Table.key_of_find? h

theorem itemOf_upsert (assetItems : ItemMap) (item : MutablePayoutItem) (wallet : String) :
    itemOf (assetItems.upsert item) wallet =
      if item.destinationWallet = wallet then item else itemOf assetItems wallet := by
  rw [itemOf, Table.find?_upsert]
  split <;> rfl

/-- Taking one more accrual adds it to its group. -/
theorem Grouped.take {taken : List Taken} {itemsByAsset : AssetMap} (h : Grouped taken itemsByAsset)
    (t : Taken) :
    Grouped (taken ++ [t]) (takeAccrual itemsByAsset t.accrual t.amount t.availableTime) := by
  intro asset wallet
  rw [itemsOf_takeAccrual]
  obtain ⟨hids, hamount⟩ := h asset wallet
  by_cases ha : t.accrual.asset = asset
  · rw [if_pos ha, itemOf_upsert]
    have hw : ((itemOf (itemsOf itemsByAsset asset) t.accrual.payoutWallet).add t.accrual t.amount
        t.availableTime).destinationWallet = t.accrual.payoutWallet :=
      itemOf_destinationWallet _ _
    rw [hw]
    by_cases hp : t.accrual.payoutWallet = wallet
    · rw [if_pos hp, hp]
      simp [groupOf, MutablePayoutItem.add, ha, hp, List.filter_append] at hids hamount ⊢
      exact ⟨hids, hamount⟩
    · rw [if_neg hp]
      simpa [groupOf, ha, hp, List.filter_append] using h asset wallet
  · rw [if_neg ha]
    simpa [groupOf, ha, List.filter_append] using h asset wallet

/-- What the loop has done with the accruals it has visited. -/
structure LoopInv (host : Host) (merchantId : String) (nowMs : Option Int)
    (visited : List CommissionAccrual) (taken : List Taken) (state : PreviewState) : Prop where
  sublist : (taken.map Taken.accrual).Sublist visited
  judged : ∀ t ∈ taken,
    judgeAccrual host merchantId nowMs t.accrual = .ok (.take t.amount t.availableTime)
  grouped : Grouped taken state.itemsByAsset

theorem loopInv_of_foldlM {merchantId : String} {nowMs : Option Int}
    {accruals : List CommissionAccrual} :
    ∀ (visited : List CommissionAccrual) (taken : List Taken) {state final : PreviewState},
      LoopInv host merchantId nowMs visited taken state →
      accruals.foldlM (visitAccrual host merchantId nowMs) state = .ok final →
      ∃ taken', LoopInv host merchantId nowMs (visited ++ accruals) taken' final := by
  induction accruals with
  | nil =>
      intro visited taken state final hi h
      rw [List.foldlM_nil, pure_eq_ok] at h
      subst h
      exact ⟨taken, by simpa using hi⟩
  | cons accrual accruals ih =>
      intro visited taken state final hi h
      rw [List.foldlM_cons] at h
      obtain ⟨next, hnext, h⟩ := bind_eq_ok.mp h
      rw [List.append_cons]
      rw [visitAccrual] at hnext
      obtain ⟨verdict, hv, hnext⟩ := bind_eq_ok.mp hnext
      cases verdict with
      | skip reason =>
          simp only [pure_eq_ok] at hnext
          subst hnext
          refine ih _ taken ?_ h
          exact ⟨hi.sublist.trans (List.sublist_append_left _ _), hi.judged, hi.grouped⟩
      | take amount time =>
          simp only [pure_eq_ok] at hnext
          subst hnext
          refine ih _ (taken ++ [⟨accrual, amount, time⟩]) ⟨?_, ?_, ?_⟩ h
          · rw [List.map_append]
            exact hi.sublist.append (List.Sublist.refl _)
          · intro t ht
            rcases List.mem_append.mp ht with ht | ht
            · exact hi.judged t ht
            · rw [List.mem_singleton] at ht
              subst ht
              exact hv
          · exact hi.grouped.take ⟨accrual, amount, time⟩

/-- An accrual that is taken is an available accrual of the merchant with a positive amount. -/
theorem judgeAccrual_take {merchantId : String} {nowMs : Option Int} {accrual : CommissionAccrual}
    {amount : Nat} {time : Option String}
    (h : judgeAccrual host merchantId nowMs accrual = .ok (.take amount time)) :
    accrual.merchantId = merchantId ∧ accrual.status = .available ∧
      parseAtomicAmount accrual.amountAtomic = some amount ∧ 0 < amount := by
  rw [judgeAccrual] at h
  split at h
  · simp at h
  · rename_i hm
    split at h
    · simp at h
    · rename_i hs
      obtain ⟨future, -, h⟩ := bind_eq_ok.mp h
      split at h
      · simp at h
      · obtain ⟨n, hn, h⟩ := bind_eq_ok.mp h
        split at h
        · simp at h
        · rename_i hpos
          have hn' : n = amount := by
            split at h
            · rw [pure_eq_ok] at h
              injection h
            · obtain ⟨normalized, -, h⟩ := bind_eq_ok.mp h
              rw [pure_eq_ok] at h
              injection h
          subst hn'
          exact ⟨by simpa using hm, by simpa using hs, readAtomicAmount_eq_ok.mp hn, by omega⟩

/-! ## The preview's batches -/

/-- The items a preview batch is made of: each the sum of the group of its own wallet. -/
structure BatchItems (taken : List Taken) (batch : PayoutPreviewBatch)
    (selected : List MutablePayoutItem) : Prop where
  items : batch.items = selected.map toPreviewItem
  total : batch.totalAmountAtomic =
    serializeAtomicAmount (selected.map MutablePayoutItem.amount).sum
  wallets : (selected.map MutablePayoutItem.destinationWallet).Nodup
  group : ∀ item ∈ selected,
    item.accrualIds =
      (groupOf taken batch.asset item.destinationWallet).map (fun t => t.accrual.id) ∧
    item.amount = ((groupOf taken batch.asset item.destinationWallet).map Taken.amount).sum

theorem selectItems_sublist {minimum : Nat} {maxRecipients : Option Nat} {itemMap : ItemMap}
    {selected : List MutablePayoutItem} {skipped : List PayoutPreviewSkippedAccrual}
    (h : selectItems host minimum maxRecipients itemMap = .ok (selected, skipped)) :
    ∃ sorted : List MutablePayoutItem, sorted.Perm itemMap.rows ∧ selected.Sublist sorted := by
  rw [selectItems] at h
  obtain ⟨sorted, hs, h⟩ := bind_eq_ok.mp h
  refine ⟨sorted, sortM_perm hs, ?_⟩
  split at h
  · rw [pure_eq_ok] at h
    injection h with h
    exact h ▸ List.filter_sublist
  · rw [pure_eq_ok] at h
    injection h with h
    exact h ▸ (List.take_sublist _ _).trans List.filter_sublist

theorem createPreviewBatch_items {merchantId asset : String} {minimum : Nat}
    {maxRecipients : Option Nat} {funding : Option (Table (Prod.fst : String × Nat → String))}
    {itemMap : ItemMap} {batch : PayoutPreviewBatch}
    {skipped : List PayoutPreviewSkippedAccrual}
    (h : createPreviewBatch host merchantId asset minimum maxRecipients funding itemMap =
      .ok (some batch, skipped)) :
    batch.asset = asset ∧ ∃ selected : List MutablePayoutItem,
      batch.items = selected.map toPreviewItem ∧
      batch.totalAmountAtomic =
        serializeAtomicAmount (selected.map MutablePayoutItem.amount).sum ∧
      (selected.map MutablePayoutItem.destinationWallet).Nodup ∧
      ∀ item ∈ selected, item ∈ itemMap := by
  rw [createPreviewBatch] at h
  obtain ⟨⟨selected, skipped'⟩, hs, h⟩ := bind_eq_ok.mp h
  obtain ⟨sorted, hperm, hsub⟩ := selectItems_sublist hs
  dsimp only at h
  split at h
  · simp at h
  · rw [pure_eq_ok] at h
    injection h with hb hsk
    injection hb with hb
    subst hb
    refine ⟨rfl, selected, rfl, rfl, ?_, ?_⟩
    · exact ((hperm.map _).nodup_iff.mpr itemMap.nodup).sublist (hsub.map _)
    · intro item hi
      exact hperm.mem_iff.mp (hsub.subset hi)

/-- Every batch of a preview is made of groups of the accruals the preview took. -/
theorem createPayoutPreview_batches {env : CallEnv} {input : CreatePayoutPreviewInput}
    {preview : PayoutPreview} (h : createPayoutPreview host env input = .ok preview) :
    ∃ (nowMs : Option Int) (sorted : List CommissionAccrual) (taken : List Taken),
      sorted.Perm input.accruals ∧ (taken.map Taken.accrual).Sublist sorted ∧
      (∀ t ∈ taken,
        judgeAccrual host input.merchantId nowMs t.accrual = .ok (.take t.amount t.availableTime)) ∧
      ∀ batch ∈ preview.batches, ∃ selected, BatchItems taken batch selected := by
  rw [createPayoutPreview] at h
  obtain ⟨merchantId, hm, h⟩ := bind_eq_ok.mp h
  obtain ⟨generatedAt, -, h⟩ := bind_eq_ok.mp h
  obtain ⟨minimum, -, h⟩ := bind_eq_ok.mp h
  obtain ⟨maxRecipients, -, h⟩ := bind_eq_ok.mp h
  obtain ⟨funding, -, h⟩ := bind_eq_ok.mp h
  obtain ⟨sorted, hsort, h⟩ := bind_eq_ok.mp h
  obtain ⟨state, hloop, h⟩ := bind_eq_ok.mp h
  obtain ⟨results, hresults, h⟩ := bind_eq_ok.mp h
  have hmerchant : merchantId = input.merchantId := by
    rw [assertNonEmptyString] at hm
    split at hm
    · exact absurd hm throw_ne_ok
    · rw [pure_eq_ok] at hm
      exact hm.symm
  subst hmerchant
  rw [pure_eq_ok] at h
  subst h
  obtain ⟨taken, hi⟩ := loopInv_of_foldlM [] []
    ⟨List.Sublist.refl _, by simp, grouped_empty⟩ hloop
  refine ⟨host.dateParse generatedAt, sorted, taken, sortM_perm hsort, hi.sublist, hi.judged, ?_⟩
  intro batch hbatch
  obtain ⟨⟨batch?, skipped⟩, hr, hb⟩ := List.mem_filterMap.mp hbatch
  dsimp only at hb
  subst hb
  obtain ⟨entry, hentry, hcreate⟩ := exists_of_mem_mapM hresults hr
  obtain ⟨hasset, selected, hitems, htotal, hwallets, hmem⟩ := createPreviewBatch_items hcreate
  refine ⟨selected, hitems, htotal, hwallets, ?_⟩
  intro item hsel
  -- the entry is the item map of its asset, and the item is the item of its own wallet there
  have hfind : state.itemsByAsset.find? entry.1 = some entry :=
    Table.find?_of_mem ((mem_sortBy _).mp hentry)
  have hitem : itemOf (itemsOf state.itemsByAsset batch.asset) item.destinationWallet = item := by
    rw [hasset, itemsOf, hfind, itemOf, Table.find?_of_mem (hmem item hsel)]
    rfl
  have hgroup := hi.grouped batch.asset item.destinationWallet
  rwa [hitem] at hgroup

/-! ## The plan -/

/-- What a planned batch allocates out of a list of accruals. -/
structure PlannedBatch (accruals : List CommissionAccrual) (batch : PayoutBatchRecord) : Prop where
  planned : batch.status = .planned
  items : ∀ item ∈ batch.items, item.status = .allocated ∧ item.payoutBatchId = batch.id
  wallets : (batch.items.map PayoutItemRecord.destinationWallet).Nodup
  accrualIds_nodup : batch.accrualIds.Nodup
  /-- an allocation is one available accrual of the batch, with its amount -/
  allocation : ∀ item ∈ batch.items, ∀ allocation ∈ item.allocations,
    allocation.payoutItemId = item.id ∧ ∃ accrual ∈ accruals,
      accrual.id = allocation.accrualId ∧ accrual.amountAtomic = allocation.amountAtomic ∧
      accrual.status = .available ∧ accrual.merchantId = batch.merchantId ∧
      accrual.asset = batch.asset ∧ 0 < atomicOf accrual.amountAtomic
  /-- the accruals of an item are payable to its wallet -/
  payee : ∀ item ∈ batch.items, ∀ allocation ∈ item.allocations, ∃ accrual ∈ accruals,
    accrual.id = allocation.accrualId ∧ accrual.payoutWallet = item.destinationWallet
  /-- an item is worth what it allocates -/
  itemAmount : ∀ item ∈ batch.items,
    item.amountAtomic = serializeAtomicAmount
      ((item.allocations.map (fun allocation => atomicOf allocation.amountAtomic)).sum)
  totalAmount : batch.totalAmountAtomic = serializeAtomicAmount
    ((batch.items.map (fun item => atomicOf item.amountAtomic)).sum)

/-- What is planned out of some of the accruals is planned out of all of them. -/
theorem PlannedBatch.mono {accruals accruals' : List CommissionAccrual}
    {batch : PayoutBatchRecord} (h : PlannedBatch accruals batch)
    (hsub : ∀ accrual ∈ accruals, accrual ∈ accruals') : PlannedBatch accruals' batch :=
  { h with
    allocation := fun item hi allocation ha => by
      obtain ⟨hid, accrual, hmem, hrest⟩ := h.allocation item hi allocation ha
      exact ⟨hid, accrual, hsub accrual hmem, hrest⟩
    payee := fun item hi allocation ha => by
      obtain ⟨accrual, hmem, hrest⟩ := h.payee item hi allocation ha
      exact ⟨accrual, hsub accrual hmem, hrest⟩ }

theorem accrualById_eq_some {accruals : List CommissionAccrual} {id : String}
    {accrual : CommissionAccrual} (h : accrualById accruals id = some accrual) :
    accrual ∈ accruals ∧ accrual.id = id := by
  rw [accrualById] at h
  exact ⟨List.mem_reverse.mp (List.mem_of_find?_eq_some h), by simpa using List.find?_some h⟩

theorem accrualById_of_mem {accruals : List CommissionAccrual}
    (hids : (accruals.map CommissionAccrual.id).Nodup) {accrual : CommissionAccrual}
    (h : accrual ∈ accruals) : accrualById accruals accrual.id = some accrual := by
  have hrev : (accruals.reverse.map CommissionAccrual.id).Nodup := by
    rw [List.map_reverse]
    exact List.nodup_reverse.mpr hids
  exact Table.find?_of_mem (t := (⟨accruals.reverse, hrev⟩ : Table CommissionAccrual.id))
    (List.mem_reverse.mpr h)

theorem createAllocation_eq_ok {accruals : List CommissionAccrual} {itemId accrualId : String}
    {allocation : PayoutAllocationRecord}
    (h : createAllocation accruals itemId accrualId = .ok allocation) :
    allocation.accrualId = accrualId ∧ allocation.payoutItemId = itemId ∧
      ∃ accrual, accrualById accruals accrualId = some accrual ∧
        allocation.amountAtomic = accrual.amountAtomic := by
  rw [createAllocation] at h
  split at h
  · exact absurd h throw_ne_ok
  · rename_i accrual ha
    rw [pure_eq_ok] at h
    subst h
    exact ⟨rfl, rfl, accrual, ha, rfl⟩

/-- A planned item allocates the accruals of its preview item. -/
theorem createPlannedItem_eq_ok {accruals : List CommissionAccrual}
    {batchId createdAt itemId : String} {previewItem : PayoutPreviewItem} {item : PayoutItemRecord}
    (h : createPlannedItem accruals batchId createdAt itemId previewItem = .ok item) :
    item.id = itemId ∧ item.payoutBatchId = batchId ∧ item.status = .allocated ∧
      item.destinationWallet = previewItem.destinationWallet ∧
      item.amountAtomic = previewItem.amountAtomic ∧
      item.allocations.map PayoutAllocationRecord.accrualId = previewItem.accrualIds ∧
      ∀ allocation ∈ item.allocations, allocation.payoutItemId = item.id ∧
        ∃ accrual, accrualById accruals allocation.accrualId = some accrual ∧
          allocation.amountAtomic = accrual.amountAtomic := by
  rw [createPlannedItem] at h
  obtain ⟨id, hid, h⟩ := bind_eq_ok.mp h
  obtain ⟨allocations, ha, h⟩ := bind_eq_ok.mp h
  rw [pure_eq_ok] at h
  subst h
  have hid' := (assertSplit402Id_eq_ok.mp hid).2
  refine ⟨hid'.symm, rfl, rfl, rfl, rfl, ?_, ?_⟩
  · have hmap := map_eq_of_mapM (g := fun x => x) (k := PayoutAllocationRecord.accrualId) ha
      (fun x y hxy => (createAllocation_eq_ok hxy).1.symm)
    simpa using hmap.symm
  · intro allocation hmem
    obtain ⟨accrualId, -, hc⟩ := exists_of_mem_mapM ha hmem
    obtain ⟨hacc, hitem, accrual, hby, hamount⟩ := createAllocation_eq_ok hc
    exact ⟨hitem, accrual, hacc ▸ hby, hamount⟩

/-- How a batch plan comes about: the accruals of its asset, the ones the preview took, and the
wallet items it selected. -/
structure PlanDerivation (accruals : List CommissionAccrual) (taken : List Taken)
    (selected : List MutablePayoutItem) (batch : PayoutBatchRecord) : Prop where
  planned : batch.status = .planned
  ids : (accruals.map CommissionAccrual.id).Nodup
  assets : ∀ accrual ∈ accruals, accrual.asset = batch.asset
  takenIds : (taken.map (fun t => t.accrual.id)).Nodup
  takenMem : ∀ t ∈ taken, t.accrual ∈ accruals
  judged : ∀ t ∈ taken, t.accrual.merchantId = batch.merchantId ∧ t.accrual.status = .available ∧
    atomicOf t.accrual.amountAtomic = t.amount ∧ 0 < t.amount
  wallets : (selected.map MutablePayoutItem.destinationWallet).Nodup
  group : ∀ m ∈ selected,
    m.accrualIds = (groupOf taken batch.asset m.destinationWallet).map (fun t => t.accrual.id) ∧
    m.amount = ((groupOf taken batch.asset m.destinationWallet).map Taken.amount).sum
  total : batch.totalAmountAtomic =
    serializeAtomicAmount (selected.map MutablePayoutItem.amount).sum
  itemWallets : batch.items.map PayoutItemRecord.destinationWallet =
    selected.map MutablePayoutItem.destinationWallet
  itemAmounts : batch.items.map PayoutItemRecord.amountAtomic =
    selected.map (fun m => serializeAtomicAmount m.amount)
  itemIds : batch.items.map (fun item => item.allocations.map PayoutAllocationRecord.accrualId) =
    selected.map (fun m => sortBy compareUtf16 m.accrualIds)
  /-- an item allocates what one selected item groups -/
  origin : ∀ item ∈ batch.items, item.status = .allocated ∧ item.payoutBatchId = batch.id ∧
    (∃ m ∈ selected, item.destinationWallet = m.destinationWallet ∧
      item.amountAtomic = serializeAtomicAmount m.amount ∧
      item.allocations.map PayoutAllocationRecord.accrualId =
        sortBy compareUtf16 m.accrualIds) ∧
    ∀ allocation ∈ item.allocations, allocation.payoutItemId = item.id ∧
      ∃ accrual, accrualById accruals allocation.accrualId = some accrual ∧
        allocation.amountAtomic = accrual.amountAtomic

theorem createPayoutBatchPlan_derivation {env : CallEnv} {input : CreatePayoutBatchInput}
    {batch : PayoutBatchRecord} (hids : (input.accruals.map CommissionAccrual.id).Nodup)
    (h : createPayoutBatchPlan host env input = .ok batch) :
    ∃ taken selected,
      PlanDerivation (input.accruals.filter (fun accrual => accrual.asset = batch.asset)) taken
        selected batch := by
  rw [createPayoutBatchPlan] at h
  obtain ⟨merchantId, -, h⟩ := bind_eq_ok.mp h
  obtain ⟨payoutWalletId, -, h⟩ := bind_eq_ok.mp h
  obtain ⟨network, -, h⟩ := bind_eq_ok.mp h
  obtain ⟨asset, -, h⟩ := bind_eq_ok.mp h
  obtain ⟨createdAt, -, h⟩ := bind_eq_ok.mp h
  obtain ⟨batchId, -, h⟩ := bind_eq_ok.mp h
  obtain ⟨preview, hpreview, h⟩ := bind_eq_ok.mp h
  split at h
  · exact absurd h throw_ne_ok
  rename_i previewBatch hfind
  split at h
  · exact absurd h throw_ne_ok
  obtain ⟨items, hitems, h⟩ := bind_eq_ok.mp h
  rw [pure_eq_ok] at h
  subst h
  have hasset : previewBatch.asset = asset := by simpa using List.find?_some hfind
  obtain ⟨nowMs, sorted, taken, hperm, hsub, hjudged, hbatches⟩ :=
    createPayoutPreview_batches hpreview
  obtain ⟨selected, hsel⟩ := hbatches previewBatch (List.mem_of_find?_eq_some hfind)
  dsimp only at hperm hjudged hitems ⊢
  have hidsA : ((input.accruals.filter (fun accrual => accrual.asset = asset)).map
      CommissionAccrual.id).Nodup := hids.sublist (List.filter_sublist.map _)
  have hmapped : ∀ {γ : Type} (g : PayoutPreviewItem → γ) (g' : PayoutItemRecord → γ),
      (∀ previewItem n item, createPlannedItem
          (input.accruals.filter (fun accrual => accrual.asset = asset)) batchId createdAt
          (input.itemIdOrDrawn env n) previewItem = .ok item → g previewItem = g' item) →
      items.map g' = selected.map (fun m => g (toPreviewItem m)) := by
    intro γ g g' hg
    have hmap := map_eq_of_mapM (g := fun p : PayoutPreviewItem × Nat => g p.1) (k := g') hitems
      (fun p item hp => hg p.1 p.2 item hp)
    have hfst : previewBatch.items.zipIdx.map (fun p => g p.1) =
        (previewBatch.items.zipIdx.map Prod.fst).map g := by
      rw [List.map_map]
      rfl
    rw [← hmap, hfst, List.zipIdx_map_fst, hsel.items, List.map_map]
    rfl
  refine ⟨taken, selected, ⟨rfl, hidsA, ?_, ?_, ?_, ?_, hsel.wallets, ?_, hsel.total, ?_, ?_, ?_, ?_⟩⟩
  · intro accrual ha
    simpa using (List.mem_filter.mp ha).2
  · have hsorted := (hperm.map CommissionAccrual.id).nodup_iff.mpr hidsA
    have hmap := hsorted.sublist (hsub.map CommissionAccrual.id)
    rwa [List.map_map] at hmap
  · intro t ht
    exact hperm.mem_iff.mp (hsub.subset (List.mem_map_of_mem ht))
  · intro t ht
    obtain ⟨hm, hs, hparse, hpos⟩ := judgeAccrual_take (hjudged t ht)
    exact ⟨hm, hs, by rw [atomicOf, hparse]; rfl, hpos⟩
  · intro m hm
    have hgroup := hsel.group m hm
    rwa [hasset] at hgroup
  · exact hmapped PayoutPreviewItem.destinationWallet _
      (fun _ _ _ hc => (createPlannedItem_eq_ok hc).2.2.2.1.symm)
  · exact hmapped PayoutPreviewItem.amountAtomic _
      (fun _ _ _ hc => (createPlannedItem_eq_ok hc).2.2.2.2.1.symm)
  · exact hmapped PayoutPreviewItem.accrualIds _
      (fun _ _ _ hc => (createPlannedItem_eq_ok hc).2.2.2.2.2.1.symm)
  · intro item hitem
    obtain ⟨⟨previewItem, n⟩, hzip, hc⟩ := exists_of_mem_mapM hitems hitem
    have hpi : previewItem ∈ previewBatch.items := List.fst_mem_of_mem_zipIdx hzip
    rw [hsel.items] at hpi
    obtain ⟨m, hm, rfl⟩ := List.mem_map.mp hpi
    obtain ⟨-, hbatch, hstatus, hwallet, hamount, hacc, hall⟩ := createPlannedItem_eq_ok hc
    exact ⟨hstatus, hbatch, ⟨m, hm, hwallet, hamount, hacc⟩, hall⟩

namespace PlanDerivation

variable {accruals : List CommissionAccrual} {taken : List Taken}
  {selected : List MutablePayoutItem} {batch : PayoutBatchRecord}

theorem lookup (d : PlanDerivation accruals taken selected batch) {t : Taken} (ht : t ∈ taken) :
    accrualById accruals t.accrual.id = some t.accrual :=
  accrualById_of_mem d.ids (d.takenMem t ht)

/-- The accrual of an allocation is one that was taken. -/
theorem taken_of_allocation (d : PlanDerivation accruals taken selected batch)
    {item : PayoutItemRecord} (hitem : item ∈ batch.items) {allocation : PayoutAllocationRecord}
    (ha : allocation ∈ item.allocations) :
    ∃ t ∈ taken, t.accrual.id = allocation.accrualId ∧
      t.accrual.amountAtomic = allocation.amountAtomic ∧
      t.accrual.payoutWallet = item.destinationWallet := by
  obtain ⟨-, -, ⟨m, hm, hwallet, -, hids⟩, hall⟩ := d.origin item hitem
  obtain ⟨-, accrual, hby, hamount⟩ := hall allocation ha
  have hid : allocation.accrualId ∈ sortBy compareUtf16 m.accrualIds :=
    hids ▸ List.mem_map_of_mem ha
  rw [mem_sortBy, (d.group m hm).1] at hid
  obtain ⟨t, ht, hte⟩ := List.mem_map.mp hid
  obtain ⟨htt, hgroup⟩ := List.mem_filter.mp ht
  simp only [Bool.and_eq_true, decide_eq_true_eq] at hgroup
  have hlook := d.lookup htt
  rw [hte, hby] at hlook
  injection hlook with hlook
  exact ⟨t, htt, hte, by rw [hamount, hlook], hgroup.2.trans hwallet.symm⟩

/-- The groups of different wallets have no accrual in common. -/
theorem groups_disjoint (d : PlanDerivation accruals taken selected batch)
    {m n : MutablePayoutItem} (hm : m ∈ selected) (hn : n ∈ selected)
    (hne : m.destinationWallet ≠ n.destinationWallet) :
    (sortBy compareUtf16 m.accrualIds).Disjoint (sortBy compareUtf16 n.accrualIds) := by
  intro id hidm hidn
  rw [mem_sortBy, (d.group m hm).1] at hidm
  rw [mem_sortBy, (d.group n hn).1] at hidn
  obtain ⟨t, ht, rfl⟩ := List.mem_map.mp hidm
  obtain ⟨u, hu, hue⟩ := List.mem_map.mp hidn
  obtain ⟨htt, htw⟩ := List.mem_filter.mp ht
  obtain ⟨hut, huw⟩ := List.mem_filter.mp hu
  have heq : u = t := List.inj_on_of_nodup_map d.takenIds hut htt hue
  subst heq
  simp only [Bool.and_eq_true, decide_eq_true_eq] at htw huw
  exact hne (htw.2.symm.trans huw.2)

theorem accrualIds_nodup (d : PlanDerivation accruals taken selected batch) :
    batch.accrualIds.Nodup := by
  rw [PayoutBatchRecord.accrualIds, List.flatMap_def, d.itemIds, ← List.flatMap_def,
    List.nodup_flatMap]
  constructor
  · intro m hm
    refine (sortBy_perm _ _).nodup_iff.mpr ?_
    rw [(d.group m hm).1]
    exact d.takenIds.sublist (List.filter_sublist.map _)
  · have hpair : selected.Pairwise (fun m n => m.destinationWallet ≠ n.destinationWallet) :=
      List.pairwise_map.mp d.wallets
    exact hpair.imp_of_mem (fun hm hn hne => d.groups_disjoint hm hn hne)

/-- An item is worth what it allocates. -/
theorem itemAmount (d : PlanDerivation accruals taken selected batch) {item : PayoutItemRecord}
    (hitem : item ∈ batch.items) :
    item.amountAtomic = serializeAtomicAmount
      ((item.allocations.map (fun allocation => atomicOf allocation.amountAtomic)).sum) := by
  obtain ⟨-, -, ⟨m, hm, -, hamount, hids⟩, hall⟩ := d.origin item hitem
  obtain ⟨hgroupIds, hgroupAmount⟩ := d.group m hm
  -- both sums read the amount of an accrual off its id
  let amountOf : String → Nat := fun id =>
    ((accrualById accruals id).map (fun accrual => atomicOf accrual.amountAtomic)).getD 0
  have hallocs : item.allocations.map (fun allocation => atomicOf allocation.amountAtomic) =
      (item.allocations.map PayoutAllocationRecord.accrualId).map amountOf := by
    rw [List.map_map]
    refine List.map_congr_left fun allocation ha => ?_
    obtain ⟨-, accrual, hby, hacc⟩ := hall allocation ha
    simp [amountOf, hby, hacc]
  have hgroup : (groupOf taken batch.asset m.destinationWallet).map Taken.amount =
      ((groupOf taken batch.asset m.destinationWallet).map (fun t => t.accrual.id)).map
        amountOf := by
    rw [List.map_map]
    refine List.map_congr_left fun t ht => ?_
    have htt : t ∈ taken := (List.mem_filter.mp ht).1
    simp [amountOf, d.lookup htt, (d.judged t htt).2.2.1]
  have hperm : (item.allocations.map PayoutAllocationRecord.accrualId).Perm m.accrualIds :=
    hids ▸ sortBy_perm _ _
  rw [hamount, hallocs, (hperm.map amountOf).sum_eq, hgroupAmount, hgroup, hgroupIds]

end PlanDerivation

/-- A planned batch has the id of its call, and its items are allocated. -/
theorem createPayoutBatchPlan_new {env : CallEnv} {input : CreatePayoutBatchInput}
    {batch : PayoutBatchRecord} (h : createPayoutBatchPlan host env input = .ok batch) :
    batch.id = batchIdOrDrawn env input.batchId ∧ batch.status = .planned ∧
      ∀ item ∈ batch.items, item.status = .allocated := by
  rw [createPayoutBatchPlan] at h
  obtain ⟨merchantId, -, h⟩ := bind_eq_ok.mp h
  obtain ⟨payoutWalletId, -, h⟩ := bind_eq_ok.mp h
  obtain ⟨network, -, h⟩ := bind_eq_ok.mp h
  obtain ⟨asset, -, h⟩ := bind_eq_ok.mp h
  obtain ⟨createdAt, -, h⟩ := bind_eq_ok.mp h
  obtain ⟨batchId, hid, h⟩ := bind_eq_ok.mp h
  obtain ⟨preview, -, h⟩ := bind_eq_ok.mp h
  split at h
  · exact absurd h throw_ne_ok
  split at h
  · exact absurd h throw_ne_ok
  obtain ⟨items, hitems, h⟩ := bind_eq_ok.mp h
  rw [pure_eq_ok] at h
  subst h
  refine ⟨(assertSplit402Id_eq_ok.mp hid).2.symm, rfl, ?_⟩
  intro item hitem
  obtain ⟨p, -, hp⟩ := exists_of_mem_mapM hitems hitem
  exact (createPlannedItem_eq_ok hp).2.2.1

/-- A planned batch has the id of its call. -/
theorem createPayoutBatchPlan_id {env : CallEnv} {input : CreatePayoutBatchInput}
    {batch : PayoutBatchRecord} (h : createPayoutBatchPlan host env input = .ok batch) :
    batch.id = batchIdOrDrawn env input.batchId := (createPayoutBatchPlan_new h).1

/-- **What a batch plan allocates.** From accruals with pairwise different ids. -/
theorem createPayoutBatchPlan_planned {env : CallEnv} {input : CreatePayoutBatchInput}
    {batch : PayoutBatchRecord} (hids : (input.accruals.map CommissionAccrual.id).Nodup)
    (h : createPayoutBatchPlan host env input = .ok batch) :
    PlannedBatch input.accruals batch := by
  obtain ⟨taken, selected, d⟩ := createPayoutBatchPlan_derivation hids h
  refine ⟨d.planned, fun item hi => ⟨(d.origin item hi).1, (d.origin item hi).2.1⟩,
    d.itemWallets ▸ d.wallets, d.accrualIds_nodup, ?_, ?_, fun item hi => d.itemAmount hi, ?_⟩
  · intro item hi allocation ha
    obtain ⟨t, ht, hid, hamount, -⟩ := d.taken_of_allocation hi ha
    obtain ⟨hmerchant, hstatus, hvalue, hpos⟩ := d.judged t ht
    have hmem := d.takenMem t ht
    exact ⟨((d.origin item hi).2.2.2 allocation ha).1, t.accrual, (List.mem_filter.mp hmem).1, hid,
      hamount, hstatus, hmerchant, d.assets _ hmem, hvalue ▸ hpos⟩
  · intro item hi allocation ha
    obtain ⟨t, ht, hid, -, hwallet⟩ := d.taken_of_allocation hi ha
    exact ⟨t.accrual, (List.mem_filter.mp (d.takenMem t ht)).1, hid, hwallet⟩
  · have hsum : batch.items.map (fun item => atomicOf item.amountAtomic) =
        selected.map MutablePayoutItem.amount := by
      calc batch.items.map (fun item => atomicOf item.amountAtomic)
          = (batch.items.map PayoutItemRecord.amountAtomic).map atomicOf := by
            rw [List.map_map]
            rfl
        _ = selected.map MutablePayoutItem.amount := by
            rw [d.itemAmounts, List.map_map]
            refine List.map_congr_left fun m _ => ?_
            simp
    rw [d.total, hsum]

end Split402

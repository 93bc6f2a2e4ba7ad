import Split402.Payouts.Balances

/-! # Balances and obligations conserve money

Every accrual that counts is in exactly one bucket of its asset, and the buckets of a summary are what
its accruals come to. The referrers' view and the merchants' view are two ways to cut the same
accruals, so over all referrers and over all merchants they come to the same, bucket by bucket. -/

namespace Split402

open Base

/-! ## Buckets -/

/-- What is in the bucket of a status. -/
def StatusAmounts.get (amounts : StatusAmounts) : ReferrerPayoutHistoryStatus → Nat
  | .pending => amounts.pending
  | .available => amounts.available
  | .held => amounts.held
  | .inFlight => amounts.inFlight
  | .paid => amounts.paid

def statuses : List ReferrerPayoutHistoryStatus := [.pending, .available, .held, .inFlight, .paid]

@[simp] theorem StatusAmounts.get_zero (status : ReferrerPayoutHistoryStatus) :
    StatusAmounts.zero.get status = 0 := by
  cases status <;> rfl

theorem StatusAmounts.get_credit (amounts : StatusAmounts) (status status' : ReferrerPayoutHistoryStatus)
    (amount : Nat) : (amounts.credit status amount).get status' =
      amounts.get status' + if status = status' then amount else 0 := by
  cases status <;> cases status' <;> rfl

theorem StatusAmounts.sum_get (amounts : StatusAmounts) :
    (statuses.map amounts.get).sum = amounts.outstanding + amounts.paid := by
  simp only [statuses, List.map_cons, List.map_nil, List.sum_cons, List.sum_nil, get, outstanding]
  omega

/-- A status is one of the statuses, once. -/
theorem sum_statuses (status : ReferrerPayoutHistoryStatus) (amount : Nat) :
    (statuses.map fun status' => if status = status' then amount else 0).sum = amount := by
  cases status <;> simp [statuses]

section Accruals

variable (payoutBatches : List PayoutBatchRecord)

def amountOf (accrual : CommissionAccrual) : Nat := (parseAtomicAmount accrual.amountAtomic).getD 0

/-- The bucket of an accrual. -/
def bucketOf (accrual : CommissionAccrual) : ReferrerPayoutHistoryStatus :=
  readReferrerPayoutHistoryStatus accrual
    (((buildPayoutAllocationIndex payoutBatches).find? accrual.id).map Prod.snd)

/-- What some accruals have in a bucket of an asset. -/
def bucketAmount (accruals : List CommissionAccrual) (asset : String)
    (status : ReferrerPayoutHistoryStatus) : Nat :=
  ((accruals.filter fun accrual => accrual.asset = asset && bucketOf payoutBatches accrual = status).map
    amountOf).sum

/-- How many accruals are in a bucket of an asset. -/
def bucketCount (accruals : List CommissionAccrual) (asset : String)
    (status : ReferrerPayoutHistoryStatus) : Nat :=
  (accruals.filter fun accrual =>
    accrual.asset = asset && bucketOf payoutBatches accrual = status).length

/-- What some accruals come to in an asset. -/
def assetAmount (accruals : List CommissionAccrual) (asset : String) : Nat :=
  ((accruals.filter (·.asset = asset)).map amountOf).sum

/-- **Every accrual is in exactly one bucket**: the buckets of an asset come to what its accruals
come to. -/
theorem sum_bucketAmount (accruals : List CommissionAccrual) (asset : String) :
    (statuses.map (bucketAmount payoutBatches accruals asset)).sum = assetAmount accruals asset := by
  induction accruals with
  | nil => rfl
  | cons accrual accruals ih =>
      have hbucket : ∀ status, bucketAmount payoutBatches (accrual :: accruals) asset status =
          (if bucketOf payoutBatches accrual = status then
            (if accrual.asset = asset then amountOf accrual else 0) else 0) +
          bucketAmount payoutBatches accruals asset status := by
        intro status
        unfold bucketAmount
        by_cases hasset : accrual.asset = asset
        · by_cases hstatus : bucketOf payoutBatches accrual = status
          · simp [hasset, hstatus]
          · simp [hstatus]
        · simp [hasset]
      rw [funext hbucket, List.sum_map_add, ih, sum_statuses]
      unfold assetAmount
      by_cases hasset : accrual.asset = asset
      · simp [hasset]
      · simp [hasset]

end Accruals

/-! ## Five accruals -/

def earnedBy (id merchantId referrerWallet amountAtomic : String) (status : AccrualStatus) :
    CommissionAccrual where
  id := id
  receiptId := "rct_1"
  merchantId := merchantId
  campaignId := "cmp_1"
  routeId := "rte_1"
  referrerWallet := referrerWallet
  payoutWallet := "wallet"
  asset := "mint"
  amountAtomic := amountAtomic
  status := status
  availableAt := none
  createdAt := "2026-01-01T00:00:00.000Z"

def fiveEarned : List CommissionAccrual :=
  [earnedBy "acr_1" "mrc_1" "referrer1" "5" .available,
    earnedBy "acr_2" "mrc_2" "referrer1" "7" .held,
    earnedBy "acr_3" "mrc_1" "referrer2" "9" .allocated,
    earnedBy "acr_4" "mrc_1" "referrer2" "4" .rejected,
    earnedBy "acr_5" "mrc_2" "referrer2" "3" .pendingChainVerification]

/-- The transfer that pays the third accrual is final, its accrual not yet marked as paid. -/
def onePaid : PayoutBatchRecord where
  id := "pbt_1"
  merchantId := "mrc_1"
  payoutWalletId := "pwl_1"
  network := "solana:devnet"
  asset := "mint"
  status := .submitted
  totalAmountAtomic := "9"
  itemCount := 1
  accrualCount := 1
  failureCode := none
  failureMessage := none
  createdAt := "2026-01-01T00:00:00.000Z"
  updatedAt := "2026-01-01T00:00:00.000Z"
  items := [⟨"pit_1", "pbt_1", "wallet", none, "9", .finalized, "2026-01-01T00:00:00.000Z",
    [⟨"pit_1", "acr_3", "9"⟩]⟩]

def balancesAt : CallEnv := ⟨0, fun _ => "", fun _ => ""⟩

def referrer2 : CreateReferrerBalanceSummaryInput :=
  ⟨"referrer2", fiveEarned, [onePaid], none, none⟩

def merchant1 : CreateMerchantObligationSummaryInput :=
  ⟨"mrc_1", fiveEarned, [onePaid], none, none, some [⟨"mint", "2"⟩]⟩


/-! ## Referrers -/

variable {host : Host} {env : CallEnv}

/-- The accruals of a referrer that count. -/
def referrerAccruals (input : CreateReferrerBalanceSummaryInput) : List CommissionAccrual :=
  input.accruals.filter fun accrual =>
    accrual.referrerWallet = input.referrerWallet && isCounted input.asset accrual

theorem assertNonEmptyString_eq_ok {value label result : String}
    (h : assertNonEmptyString value label = .ok result) : result = value := by
  unfold assertNonEmptyString at h
  split at h
  · exact absurd h throw_ne_ok
  · rw [pure_eq_ok] at h
    exact h.symm

/-- What an item says of its accrual. -/
theorem historyItem_eq_ok {payoutBatches : List PayoutBatchRecord} {accrual : CommissionAccrual}
    {item : ReferrerPayoutHistoryItem}
    (h : createReferrerPayoutHistoryItem host (buildPayoutAllocationIndex payoutBatches) accrual =
      .ok item) :
    (accrual.asset, bucketOf payoutBatches accrual, accrual.amountAtomic) =
      (item.asset, item.status, item.amountAtomic) := by
  obtain ⟨createdAt, -, h⟩ := bind_eq_ok.mp h
  obtain ⟨availableAt, -, h⟩ := bind_eq_ok.mp h
  rw [pure_eq_ok] at h
  rw [← h]
  rfl

/-- The items are those of the accruals, in some order. -/
theorem historyItems_perm {input : CreateReferrerBalanceSummaryInput}
    {items : List ReferrerPayoutHistoryItem}
    (h : createReferrerPayoutHistoryItems host
      ⟨input.referrerWallet, input.accruals, input.payoutBatches, input.asset, none⟩ = .ok items) :
    (items.map fun item => (item.asset, item.status, item.amountAtomic)).Perm
      ((referrerAccruals input).map fun accrual =>
        (accrual.asset, bucketOf input.payoutBatches accrual, accrual.amountAtomic)) := by
  obtain ⟨wallet, hwallet, h⟩ := bind_eq_ok.mp h
  obtain ⟨limit, hlimit, h⟩ := bind_eq_ok.mp h
  obtain ⟨unsorted, hitems, h⟩ := bind_eq_ok.mp h
  have hsame : wallet = input.referrerWallet := assertNonEmptyString_eq_ok hwallet
  have hnone : limit = none := (pure_eq_ok.mp hlimit).symm
  subst hnone
  have hsorted : sortBy (compareReferrerPayoutHistoryItems host) unsorted = items :=
    pure_eq_ok.mp h
  rw [hsame] at hitems
  have hmap := map_eq_of_mapM hitems fun _ _ => historyItem_eq_ok
  rw [← hsorted]
  refine ((sortBy_perm _ unsorted).map _).trans ?_
  rw [← hmap]
  exact List.Perm.refl _

/-- What some asset, bucket and amount come to in a bucket of an asset. -/
def rowsAmount (rows : List (String × ReferrerPayoutHistoryStatus × String)) (asset : String)
    (status : ReferrerPayoutHistoryStatus) : Nat :=
  ((rows.filter fun row => row.1 = asset && row.2.1 = status).map fun row =>
    (parseAtomicAmount row.2.2).getD 0).sum

def rowsTotal (rows : List (String × ReferrerPayoutHistoryStatus × String)) (asset : String) : Nat :=
  ((rows.filter (·.1 = asset)).map fun row => (parseAtomicAmount row.2.2).getD 0).sum

theorem rowsAmount_perm {rows rows' : List (String × ReferrerPayoutHistoryStatus × String)}
    (h : rows.Perm rows') (asset : String) (status : ReferrerPayoutHistoryStatus) :
    rowsAmount rows asset status = rowsAmount rows' asset status :=
  ((h.filter _).map _).sum_eq

theorem rowsTotal_perm {rows rows' : List (String × ReferrerPayoutHistoryStatus × String)}
    (h : rows.Perm rows') (asset : String) : rowsTotal rows asset = rowsTotal rows' asset :=
  ((h.filter _).map _).sum_eq

theorem rowsAmount_accruals (payoutBatches : List PayoutBatchRecord)
    (accruals : List CommissionAccrual) (asset : String) (status : ReferrerPayoutHistoryStatus) :
    rowsAmount (accruals.map fun accrual =>
      (accrual.asset, bucketOf payoutBatches accrual, accrual.amountAtomic)) asset status =
      bucketAmount payoutBatches accruals asset status := by
  rw [rowsAmount, List.filter_map, List.map_map]
  rfl

theorem rowsTotal_accruals (payoutBatches : List PayoutBatchRecord)
    (accruals : List CommissionAccrual) (asset : String) :
    rowsTotal (accruals.map fun accrual =>
      (accrual.asset, bucketOf payoutBatches accrual, accrual.amountAtomic)) asset =
      assetAmount accruals asset := by
  rw [rowsTotal, List.filter_map, List.map_map]
  rfl

theorem addHistoryItem_eq_ok {totals totals' : ReferrerTotals} {item : ReferrerPayoutHistoryItem}
    (h : addHistoryItem totals item = .ok totals') :
    (∀ status, totals'.amounts.get status = totals.amounts.get status +
      if item.status = status then (parseAtomicAmount item.amountAtomic).getD 0 else 0) ∧
    totals'.total = totals.total + (parseAtomicAmount item.amountAtomic).getD 0 := by
  obtain ⟨amount, hamount, h⟩ := bind_eq_ok.mp h
  rw [pure_eq_ok] at h
  rw [readAtomicAmount_eq_ok] at hamount
  rw [← h, hamount]
  exact ⟨fun status => StatusAmounts.get_credit _ _ _ _, rfl⟩

/-- What the loop has for an asset is what its items come to. -/
theorem totals_of_items {items : List ReferrerPayoutHistoryItem}
    {assetsByMint : Tally String ReferrerTotals}
    (h : tallyM ReferrerPayoutHistoryItem.asset ⟨.zero, 0⟩ addHistoryItem items = .ok assetsByMint)
    (asset : String) :
    (∀ status, (Tally.get assetsByMint ⟨.zero, 0⟩ asset).amounts.get status =
      rowsAmount (items.map fun item => (item.asset, item.status, item.amountAtomic)) asset status) ∧
    (Tally.get assetsByMint ⟨.zero, 0⟩ asset).total =
      rowsTotal (items.map fun item => (item.asset, item.status, item.amountAtomic)) asset := by
  have hfold := (tallyM_eq_ok h).1 asset
  constructor
  · intro status
    have hmeasure : ∀ totals item totals', addHistoryItem totals item = .ok totals' →
        totals'.amounts.get status = totals.amounts.get status +
          if decide (item.status = status) then (parseAtomicAmount item.amountAtomic).getD 0 else 0 := by
      intro totals item totals' hadd
      simpa using (addHistoryItem_eq_ok hadd).1 status
    rw [measure_of_foldlM hmeasure hfold, StatusAmounts.get_zero, Nat.zero_add, sum_map_ite_filter,
      List.filter_filter, rowsAmount, List.filter_map, List.map_map]
    congr 2
    refine List.filter_congr fun item _ => ?_
    exact Bool.and_comm _ _
  · have hmeasure : ∀ totals item totals', addHistoryItem totals item = .ok totals' →
        totals'.total = totals.total + (parseAtomicAmount item.amountAtomic).getD 0 :=
      fun _ _ _ hadd => (addHistoryItem_eq_ok hadd).2
    rw [measure_of_foldlM hmeasure hfold, Nat.zero_add, rowsTotal, List.filter_map, List.map_map]
    rfl

/-- The amount of a bucket, as the summary states it. -/
def ReferrerBalanceAsset.amountAtomic (entry : ReferrerBalanceAsset) :
    ReferrerPayoutHistoryStatus → String
  | .pending => entry.pendingAmountAtomic
  | .available => entry.availableAmountAtomic
  | .held => entry.heldAmountAtomic
  | .inFlight => entry.inFlightAmountAtomic
  | .paid => entry.paidAmountAtomic

/-- A referrer's summary says what becomes of the accruals that count: asset by asset and bucket by
bucket, with nothing left out and nothing twice. -/
structure ReferrerConserves (input : CreateReferrerBalanceSummaryInput)
    (summary : ReferrerBalanceSummary) : Prop where
  assets : (summary.assets.map (·.asset)).Nodup
  listed : ∀ asset, asset ∈ summary.assets.map (·.asset) ↔
    ∃ accrual ∈ referrerAccruals input, accrual.asset = asset
  amounts : ∀ entry ∈ summary.assets, ∀ status, parseAtomicAmount (entry.amountAtomic status) =
    some (bucketAmount input.payoutBatches (referrerAccruals input) entry.asset status)
  total : ∀ entry ∈ summary.assets, parseAtomicAmount entry.totalEarnedAmountAtomic =
    some (assetAmount (referrerAccruals input) entry.asset)
  buckets : ∀ asset, (statuses.map (bucketAmount input.payoutBatches (referrerAccruals input)
    asset)).sum = assetAmount (referrerAccruals input) asset

/-- The entries of a summary are those of the loop. -/
theorem referrerSummary_eq_ok {input : CreateReferrerBalanceSummaryInput}
    {summary : ReferrerBalanceSummary}
    (h : createReferrerBalanceSummary host env input = .ok summary) :
    ∃ items assetsByMint, createReferrerPayoutHistoryItems host
        ⟨input.referrerWallet, input.accruals, input.payoutBatches, input.asset, none⟩ = .ok items ∧
      tallyM ReferrerPayoutHistoryItem.asset ⟨.zero, 0⟩ addHistoryItem items = .ok assetsByMint ∧
      summary.assets.Perm (assetsByMint.rows.map toReferrerBalanceAsset) := by
  obtain ⟨wallet, hwallet, h⟩ := bind_eq_ok.mp h
  obtain ⟨generatedAt, -, h⟩ := bind_eq_ok.mp h
  obtain ⟨items, hitems, h⟩ := bind_eq_ok.mp h
  obtain ⟨assetsByMint, htally, h⟩ := bind_eq_ok.mp h
  have hsame : wallet = input.referrerWallet := assertNonEmptyString_eq_ok hwallet
  rw [hsame] at hitems
  refine ⟨items, assetsByMint, hitems, htally, ?_⟩
  rw [← pure_eq_ok.mp h]
  exact (sortBy_perm _ assetsByMint.rows).map _

/-- The entries: the assets of the accruals, once each, and their buckets. -/
theorem referrerSummary_entries {input : CreateReferrerBalanceSummaryInput}
    {summary : ReferrerBalanceSummary}
    (h : createReferrerBalanceSummary host env input = .ok summary) :
    (summary.assets.map (·.asset)).Nodup ∧
    (∀ asset, asset ∈ summary.assets.map (·.asset) ↔
      ∃ accrual ∈ referrerAccruals input, accrual.asset = asset) ∧
    ∀ entry ∈ summary.assets,
      (∀ status, parseAtomicAmount (entry.amountAtomic status) =
        some (bucketAmount input.payoutBatches (referrerAccruals input) entry.asset status)) ∧
      parseAtomicAmount entry.totalEarnedAmountAtomic =
        some (assetAmount (referrerAccruals input) entry.asset) := by
  obtain ⟨items, assetsByMint, hitems, htally, hperm⟩ := referrerSummary_eq_ok h
  have hrows := historyItems_perm hitems
  have hkeys : (summary.assets.map (·.asset)).Perm (assetsByMint.rows.map Prod.fst) := by
    have hmap := hperm.map (·.asset)
    rw [List.map_map] at hmap
    exact hmap
  refine ⟨hkeys.nodup_iff.mpr assetsByMint.nodup, ?_, ?_⟩
  · intro asset
    have hhas := (tallyM_eq_ok htally).2 asset
    rw [Table.has_eq_true] at hhas
    rw [hkeys.mem_iff, List.mem_map]
    refine Iff.trans hhas ?_
    have hassets := (hrows.map Prod.fst).mem_iff (a := asset)
    rw [List.map_map, List.map_map, List.mem_map, List.mem_map] at hassets
    exact hassets
  · intro entry hmem
    obtain ⟨row, hrow, rfl⟩ := List.mem_map.mp (hperm.mem_iff.mp hmem)
    obtain ⟨hamounts, htotal⟩ := totals_of_items htally row.1
    rw [Tally.get_of_mem hrow] at hamounts htotal
    constructor
    · intro status
      have hamount := hamounts status
      rw [rowsAmount_perm hrows, rowsAmount_accruals] at hamount
      show parseAtomicAmount _ = some (bucketAmount _ _ row.1 status)
      rw [← hamount]
      cases status <;> exact parseAtomicAmount_serialize _
    · rw [rowsTotal_perm hrows, rowsTotal_accruals] at htotal
      show parseAtomicAmount (serializeAtomicAmount row.2.total) = some (assetAmount _ row.1)
      rw [← htotal]
      exact parseAtomicAmount_serialize _

/-- **A referrer's balances conserve money.** -/
theorem referrer_balances_conserve (host : Host) (env : CallEnv)
    (input : CreateReferrerBalanceSummaryInput) (summary : ReferrerBalanceSummary)
    (h : createReferrerBalanceSummary host env input = .ok summary) :
    ReferrerConserves input summary := by
  obtain ⟨hassets, hlisted, hentries⟩ := referrerSummary_entries h
  refine ⟨hassets, hlisted, fun entry hmem => (hentries entry hmem).1,
    fun entry hmem => (hentries entry hmem).2, ?_⟩
  exact sum_bucketAmount input.payoutBatches (referrerAccruals input)

/-- What was paid is counted as paid before its accrual says so, what was rejected is not counted. -/
theorem referrer_balances_conserve_two :
    ∃ summary, createReferrerBalanceSummary isoHost balancesAt referrer2 = .ok summary ∧
      summary.assets = [⟨"mint", "3", "0", "0", "0", "9", "12"⟩] ∧
      bucketAmount [onePaid] (referrerAccruals referrer2) "mint" .paid = 9 := by
  obtain ⟨summary, hsummary, hassets⟩ : ∃ summary,
      createReferrerBalanceSummary isoHost balancesAt referrer2 = .ok summary ∧
        summary.assets = [⟨"mint", "3", "0", "0", "0", "9", "12"⟩] := ⟨_, rfl, rfl⟩
  have hpaid := (referrer_balances_conserve isoHost balancesAt referrer2 summary hsummary).amounts
    _ (by rw [hassets]; exact List.mem_singleton_self _) .paid
  refine ⟨summary, hsummary, hassets, ?_⟩
  exact (Option.some.inj hpaid).symm.trans (by decide)

/-! ## Merchants -/

/-- The accruals of a merchant that count. -/
def merchantAccruals (input : CreateMerchantObligationSummaryInput) : List CommissionAccrual :=
  input.accruals.filter fun accrual =>
    accrual.merchantId = input.merchantId && isCounted input.asset accrual

/-- What is known to be there for an asset: nothing, or what its balances come to. -/
def fundingOf (balances : Option (List PayoutFundingBalance)) (asset : String) : Option Nat :=
  balances.bind fun balances =>
    if balances.any (·.asset = asset) then
      some ((balances.filter (·.asset = asset)).map fun balance =>
        (parseAtomicAmount balance.amountAtomic).getD 0).sum
    else none

theorem fundingMap_eq_ok {balances : Option (List PayoutFundingBalance)}
    {fundingByAsset : Option (Table (Prod.fst : String × Nat → String))}
    (h : buildFundingBalanceMap balances = .ok fundingByAsset) (asset : String) :
    (fundingByAsset.bind fun byAsset => (byAsset.find? asset).map Prod.snd) =
      fundingOf balances asset := by
  cases balances with
  | none =>
      rw [← pure_eq_ok.mp h]
      rfl
  | some balances =>
      obtain ⟨byAsset, hfold, h⟩ := bind_eq_ok.mp h
      rw [← pure_eq_ok.mp h]
      -- the loop is a tally of the balances
      have htally : tallyM PayoutFundingBalance.asset 0 (fun known balance => do
          let _ ← assertNonEmptyString balance.asset "fundingBalances.asset"
          let amount ← readAtomicAmount balance.amountAtomic "fundingBalances.amountAtomic"
          pure (known + amount)) balances = .ok byAsset := by
        rw [← hfold, tallyM]
        refine congrArg (fun step => balances.foldlM step Table.empty) ?_
        funext byAsset balance
        cases hasset : assertNonEmptyString balance.asset "fundingBalances.asset" with
        | error e => rfl
        | ok asset =>
            have hsame := assertNonEmptyString_eq_ok hasset
            subst hsame
            cases readAtomicAmount balance.amountAtomic "fundingBalances.amountAtomic" <;> rfl
      obtain ⟨htotals, hkeys⟩ := tallyM_eq_ok htally
      have hsum : Tally.get byAsset 0 asset = ((balances.filter (·.asset = asset)).map fun balance =>
          (parseAtomicAmount balance.amountAtomic).getD 0).sum := by
        have hmeasure : ∀ (known : Nat) (balance : PayoutFundingBalance) (known' : Nat), (do
            let _ ← assertNonEmptyString balance.asset "fundingBalances.asset"
            let amount ← readAtomicAmount balance.amountAtomic "fundingBalances.amountAtomic"
            pure (known + amount)) = Except.ok known' →
            known' = known + (parseAtomicAmount balance.amountAtomic).getD 0 := by
          intro known balance known' hadd
          obtain ⟨_, -, hadd⟩ := bind_eq_ok.mp hadd
          obtain ⟨amount, hamount, hadd⟩ := bind_eq_ok.mp hadd
          rw [readAtomicAmount_eq_ok] at hamount
          rw [hamount, ← pure_eq_ok.mp hadd]
          rfl
        have hall := measure_of_foldlM hmeasure (htotals asset)
        rw [Nat.zero_add] at hall
        exact hall
      show (byAsset.find? asset).map Prod.snd = if balances.any (·.asset = asset) then some _ else none
      rw [← hsum]
      by_cases hany : balances.any (·.asset = asset) = true
      · have hhas : byAsset.has asset = true := by
          rw [hkeys]
          simpa using hany
        obtain ⟨row, hrow, hkey⟩ := Table.has_eq_true.mp hhas
        subst hkey
        rw [if_pos hany, Tally.get_of_mem hrow, Table.find?_of_mem hrow]
        rfl
      · have hhas : byAsset.has asset = false := by
          rw [← Bool.not_eq_true, hkeys]
          simpa using hany
        rw [if_neg hany, Table.find?_eq_none.mpr (Table.has_eq_false.mp hhas)]
        rfl

theorem addAccrual_eq_ok {payoutBatches : List PayoutBatchRecord} {totals totals' : MerchantTotals}
    {accrual : CommissionAccrual}
    (h : addAccrual (buildPayoutAllocationIndex payoutBatches) totals accrual = .ok totals') :
    (∀ status, totals'.amounts.get status = totals.amounts.get status +
      if bucketOf payoutBatches accrual = status then amountOf accrual else 0) ∧
    (∀ status, totals'.counts.get status = totals.counts.get status +
      if bucketOf payoutBatches accrual = status then 1 else 0) ∧
    totals'.accrualCount = totals.accrualCount + 1 := by
  obtain ⟨amount, hamount, h⟩ := bind_eq_ok.mp h
  rw [readAtomicAmount_eq_ok] at hamount
  rw [← pure_eq_ok.mp h, amountOf, hamount]
  exact ⟨fun status => StatusAmounts.get_credit _ _ _ _, fun status => StatusAmounts.get_credit _ _ _ _,
    rfl⟩

/-- What the loop has for an asset is what its accruals come to. -/
theorem totals_of_accruals {payoutBatches : List PayoutBatchRecord} {accruals : List CommissionAccrual}
    {assetsByMint : Tally String MerchantTotals}
    (h : tallyM CommissionAccrual.asset ⟨.zero, .zero, 0⟩
      (addAccrual (buildPayoutAllocationIndex payoutBatches)) accruals = .ok assetsByMint)
    (asset : String) :
    (∀ status, (Tally.get assetsByMint ⟨.zero, .zero, 0⟩ asset).amounts.get status =
      bucketAmount payoutBatches accruals asset status) ∧
    (∀ status, (Tally.get assetsByMint ⟨.zero, .zero, 0⟩ asset).counts.get status =
      bucketCount payoutBatches accruals asset status) ∧
    (Tally.get assetsByMint ⟨.zero, .zero, 0⟩ asset).accrualCount =
      (accruals.filter (·.asset = asset)).length := by
  have hfold := (tallyM_eq_ok h).1 asset
  refine ⟨fun status => ?_, fun status => ?_, ?_⟩
  · have hmeasure : ∀ totals accrual totals',
        addAccrual (buildPayoutAllocationIndex payoutBatches) totals accrual = .ok totals' →
        totals'.amounts.get status = totals.amounts.get status +
          if decide (bucketOf payoutBatches accrual = status) then amountOf accrual else 0 := by
      intro totals accrual totals' hadd
      simpa using (addAccrual_eq_ok hadd).1 status
    rw [measure_of_foldlM hmeasure hfold, StatusAmounts.get_zero, Nat.zero_add, sum_map_ite_filter,
      List.filter_filter, bucketAmount]
    congr 2
    refine List.filter_congr fun accrual _ => ?_
    exact Bool.and_comm _ _
  · have hmeasure : ∀ totals accrual totals',
        addAccrual (buildPayoutAllocationIndex payoutBatches) totals accrual = .ok totals' →
        totals'.counts.get status = totals.counts.get status +
          if decide (bucketOf payoutBatches accrual = status) then 1 else 0 := by
      intro totals accrual totals' hadd
      simpa using (addAccrual_eq_ok hadd).2.1 status
    rw [measure_of_foldlM hmeasure hfold, StatusAmounts.get_zero, Nat.zero_add, sum_map_ite_filter,
      List.filter_filter, bucketCount, List.map_const', List.sum_replicate_nat, Nat.mul_one]
    congr 1
    refine List.filter_congr fun accrual _ => ?_
    exact Bool.and_comm _ _
  · have hmeasure : ∀ totals accrual totals',
        addAccrual (buildPayoutAllocationIndex payoutBatches) totals accrual = .ok totals' →
        totals'.accrualCount = totals.accrualCount + 1 :=
      fun _ _ _ hadd => (addAccrual_eq_ok hadd).2.2
    rw [measure_of_foldlM hmeasure hfold, Nat.zero_add, List.map_const',
      List.sum_replicate_nat, Nat.mul_one]

/-- The amount of a bucket, as the summary states it. -/
def MerchantObligationAssetSummary.amountAtomic (entry : MerchantObligationAssetSummary) :
    ReferrerPayoutHistoryStatus → String
  | .pending => entry.pendingAmountAtomic
  | .available => entry.availableAmountAtomic
  | .held => entry.heldAmountAtomic
  | .inFlight => entry.inFlightAmountAtomic
  | .paid => entry.paidAmountAtomic

def MerchantObligationAssetSummary.count (entry : MerchantObligationAssetSummary) :
    ReferrerPayoutHistoryStatus → Nat
  | .pending => entry.pendingAccrualCount
  | .available => entry.availableAccrualCount
  | .held => entry.heldAccrualCount
  | .inFlight => entry.inFlightAccrualCount
  | .paid => entry.paidAccrualCount

/-- What an entry says of the funding: nothing when none is known, else the amount and what it lacks. -/
def FundingStated (funding : Option Nat) (outstanding : Nat)
    (entry : MerchantObligationAssetSummary) : Prop :=
  match funding with
  | none => entry.fundingStatus = .unknown ∧ entry.fundingAmountAtomic = none ∧
      entry.fundingDeficitAtomic = none
  | some funding =>
      entry.fundingStatus = (if outstanding ≤ funding then .covered else .deficit) ∧
        entry.fundingAmountAtomic.bind parseAtomicAmount = some funding ∧
        entry.fundingDeficitAtomic.bind parseAtomicAmount = some (outstanding - funding)

/-- A merchant's summary says what becomes of the accruals that count, and what is lacking to pay
what is owed. -/
structure MerchantConserves (input : CreateMerchantObligationSummaryInput)
    (summary : MerchantObligationSummary) : Prop where
  assets : (summary.assets.map (·.asset)).Nodup
  listed : ∀ asset, asset ∈ summary.assets.map (·.asset) ↔
    ∃ accrual ∈ merchantAccruals input, accrual.asset = asset
  amounts : ∀ entry ∈ summary.assets, ∀ status, parseAtomicAmount (entry.amountAtomic status) =
    some (bucketAmount input.payoutBatches (merchantAccruals input) entry.asset status)
  counts : ∀ entry ∈ summary.assets, (∀ status, entry.count status =
      bucketCount input.payoutBatches (merchantAccruals input) entry.asset status) ∧
    entry.accrualCount = ((merchantAccruals input).filter (·.asset = entry.asset)).length
  total : ∀ entry ∈ summary.assets, parseAtomicAmount entry.totalAccruedAmountAtomic =
    some (assetAmount (merchantAccruals input) entry.asset)
  funding : ∀ entry ∈ summary.assets, ∃ outstanding,
    parseAtomicAmount entry.outstandingAmountAtomic = some outstanding ∧
      outstanding + bucketAmount input.payoutBatches (merchantAccruals input) entry.asset .paid =
        assetAmount (merchantAccruals input) entry.asset ∧
      FundingStated (fundingOf input.fundingBalances entry.asset) outstanding entry

theorem fundingStated_of_totals {fundingByAsset : Option (Table (Prod.fst : String × Nat → String))}
    (entry : String × MerchantTotals) :
    FundingStated (fundingByAsset.bind fun byAsset => (byAsset.find? entry.1).map Prod.snd)
      entry.2.amounts.outstanding (toMerchantObligationAssetSummary fundingByAsset entry) := by
  unfold toMerchantObligationAssetSummary
  cases hfunding : fundingByAsset.bind fun byAsset => (byAsset.find? entry.1).map Prod.snd with
  | none =>
      exact ⟨rfl, rfl, rfl⟩
  | some funding =>
      by_cases hle : entry.2.amounts.outstanding ≤ funding
      · have hzero : entry.2.amounts.outstanding - funding = 0 := by omega
        simp [FundingStated, hle, hzero]
      · obtain ⟨n, hn⟩ : ∃ n, entry.2.amounts.outstanding - funding = n + 1 :=
          ⟨entry.2.amounts.outstanding - funding - 1, by omega⟩
        simp [FundingStated, hle, hn]

theorem merchantSummary_eq_ok {input : CreateMerchantObligationSummaryInput}
    {summary : MerchantObligationSummary}
    (h : createMerchantObligationSummary host env input = .ok summary) :
    ∃ fundingByAsset assetsByMint, buildFundingBalanceMap input.fundingBalances = .ok fundingByAsset ∧
      tallyM CommissionAccrual.asset ⟨.zero, .zero, 0⟩
        (addAccrual (buildPayoutAllocationIndex input.payoutBatches)) (merchantAccruals input) =
          .ok assetsByMint ∧
      summary.assets.Perm
        (assetsByMint.rows.map (toMerchantObligationAssetSummary fundingByAsset)) := by
  obtain ⟨merchantId, hmerchant, h⟩ := bind_eq_ok.mp h
  obtain ⟨generatedAt, -, h⟩ := bind_eq_ok.mp h
  obtain ⟨fundingByAsset, hfunding, h⟩ := bind_eq_ok.mp h
  obtain ⟨assetsByMint, htally, h⟩ := bind_eq_ok.mp h
  have hsame : merchantId = input.merchantId := assertNonEmptyString_eq_ok hmerchant
  rw [hsame] at htally
  refine ⟨fundingByAsset, assetsByMint, hfunding, htally, ?_⟩
  rw [← pure_eq_ok.mp h]
  exact (sortBy_perm _ assetsByMint.rows).map _

/-- The entries: the assets of the accruals, once each, with what the loop has for them. -/
theorem merchantSummary_entries {input : CreateMerchantObligationSummaryInput}
    {summary : MerchantObligationSummary}
    (h : createMerchantObligationSummary host env input = .ok summary) :
    (summary.assets.map (·.asset)).Nodup ∧
    (∀ asset, asset ∈ summary.assets.map (·.asset) ↔
      ∃ accrual ∈ merchantAccruals input, accrual.asset = asset) ∧
    ∀ entry ∈ summary.assets, ∃ totals fundingByAsset,
      buildFundingBalanceMap input.fundingBalances = .ok fundingByAsset ∧
      entry = toMerchantObligationAssetSummary fundingByAsset (entry.asset, totals) ∧
      (∀ status, totals.amounts.get status =
        bucketAmount input.payoutBatches (merchantAccruals input) entry.asset status) ∧
      (∀ status, totals.counts.get status =
        bucketCount input.payoutBatches (merchantAccruals input) entry.asset status) ∧
      totals.accrualCount = ((merchantAccruals input).filter (·.asset = entry.asset)).length := by
  obtain ⟨fundingByAsset, assetsByMint, hfunding, htally, hperm⟩ := merchantSummary_eq_ok h
  have hkeys : (summary.assets.map (·.asset)).Perm (assetsByMint.rows.map Prod.fst) := by
    have hmap := hperm.map (·.asset)
    rw [List.map_map] at hmap
    exact hmap
  refine ⟨hkeys.nodup_iff.mpr assetsByMint.nodup, ?_, ?_⟩
  · intro asset
    have hhas := (tallyM_eq_ok htally).2 asset
    rw [Table.has_eq_true] at hhas
    rw [hkeys.mem_iff, List.mem_map]
    exact hhas
  · intro entry hmem
    obtain ⟨row, hrow, rfl⟩ := List.mem_map.mp (hperm.mem_iff.mp hmem)
    have htotals := totals_of_accruals htally row.1
    rw [Tally.get_of_mem hrow] at htotals
    exact ⟨row.2, fundingByAsset, hfunding, rfl, htotals⟩

theorem amountAtomic_eq {fundingByAsset : Option (Table (Prod.fst : String × Nat → String))}
    (entry : String × MerchantTotals) (status : ReferrerPayoutHistoryStatus) :
    parseAtomicAmount ((toMerchantObligationAssetSummary fundingByAsset entry).amountAtomic status) =
      some (entry.2.amounts.get status) := by
  cases status <;> exact parseAtomicAmount_serialize _

/-- **A merchant's obligations conserve money**, and the deficit is what the funding lacks. -/
theorem merchant_obligations_conserve (host : Host) (env : CallEnv)
    (input : CreateMerchantObligationSummaryInput) (summary : MerchantObligationSummary)
    (h : createMerchantObligationSummary host env input = .ok summary) :
    MerchantConserves input summary := by
  obtain ⟨hassets, hlisted, hentries⟩ := merchantSummary_entries h
  -- what is outstanding and what is paid come to all there is
  have hsum : ∀ (totals : MerchantTotals) asset, (∀ status, totals.amounts.get status =
      bucketAmount input.payoutBatches (merchantAccruals input) asset status) →
      totals.amounts.outstanding + totals.amounts.paid =
        assetAmount (merchantAccruals input) asset := by
    intro totals asset hamounts
    rw [← StatusAmounts.sum_get, ← sum_bucketAmount input.payoutBatches, funext hamounts]
  refine ⟨hassets, hlisted, ?_, ?_, ?_, ?_⟩
  · intro entry hmem status
    obtain ⟨totals, fundingByAsset, -, hentry, hamounts, -⟩ := hentries entry hmem
    rw [← hamounts status, hentry]
    exact amountAtomic_eq (entry.asset, totals) status
  · intro entry hmem
    obtain ⟨totals, fundingByAsset, -, hentry, -, hcounts, hcount⟩ := hentries entry hmem
    refine ⟨fun status => ?_, ?_⟩
    · rw [← hcounts status, hentry]
      cases status <;> rfl
    · rw [← hcount, hentry]
      rfl
  · intro entry hmem
    obtain ⟨totals, fundingByAsset, -, hentry, hamounts, -⟩ := hentries entry hmem
    rw [← hsum totals entry.asset hamounts, hentry]
    exact parseAtomicAmount_serialize _
  · intro entry hmem
    obtain ⟨totals, fundingByAsset, hfunding, hentry, hamounts, -⟩ := hentries entry hmem
    refine ⟨totals.amounts.outstanding, ?_, ?_, ?_⟩
    · rw [hentry]
      exact parseAtomicAmount_serialize _
    · rw [← hamounts .paid]
      exact hsum totals entry.asset hamounts
    · rw [← fundingMap_eq_ok hfunding, hentry]
      exact fundingStated_of_totals (entry.asset, totals)

/-- Five are owed, two are there: three are lacking. -/
theorem merchant_obligations_conserve_one :
    ∃ summary entry, createMerchantObligationSummary isoHost balancesAt merchant1 = .ok summary ∧
      summary.assets = [entry] ∧ entry.fundingDeficitAtomic = some "3" ∧
      FundingStated (some 2) 5 entry := by
  obtain ⟨summary, entry, hsummary, hassets, houtstanding, hasset, hdeficit⟩ :
      ∃ summary entry, createMerchantObligationSummary isoHost balancesAt merchant1 = .ok summary ∧
        summary.assets = [entry] ∧ entry.outstandingAmountAtomic = "5" ∧ entry.asset = "mint" ∧
        entry.fundingDeficitAtomic = some "3" := ⟨_, _, rfl, rfl, rfl, rfl, rfl⟩
  obtain ⟨outstanding, hparse, -, hfunding⟩ :=
    (merchant_obligations_conserve isoHost balancesAt merchant1 summary hsummary).funding entry
      (by rw [hassets]; exact List.mem_singleton_self _)
  have hfive : outstanding = 5 := by
    rw [houtstanding] at hparse
    exact (Option.some.inj hparse).symm
  have htwo : fundingOf merchant1.fundingBalances "mint" = some 2 := rfl
  rw [hasset, htwo, hfive] at hfunding
  exact ⟨summary, entry, hsummary, hassets, hdeficit, hfunding⟩

/-! ## The two views -/

/-- What a referrer's summary has in a bucket of an asset. -/
def ReferrerBalanceSummary.amountIn (summary : ReferrerBalanceSummary) (asset : String)
    (status : ReferrerPayoutHistoryStatus) : Nat :=
  ((summary.assets.filter (·.asset = asset)).map fun entry =>
    (parseAtomicAmount (entry.amountAtomic status)).getD 0).sum

/-- What a merchant's summary has in a bucket of an asset. -/
def MerchantObligationSummary.amountIn (summary : MerchantObligationSummary) (asset : String)
    (status : ReferrerPayoutHistoryStatus) : Nat :=
  ((summary.assets.filter (·.asset = asset)).map fun entry =>
    (parseAtomicAmount (entry.amountAtomic status)).getD 0).sum

/-- The amounts of different keys, one of which is asked for, or which has nothing. -/
theorem sum_filter_key {α : Type} {key : α → String} {entries : List α}
    (hkeys : (entries.map key).Nodup) {amount : α → Nat} (worth : String → Nat)
    (hworth : ∀ entry ∈ entries, amount entry = worth (key entry)) {asset : String}
    (hnone : asset ∉ entries.map key → worth asset = 0) :
    ((entries.filter (key · = asset)).map amount).sum = worth asset := by
  induction entries with
  | nil => exact (hnone (by simp)).symm
  | cons entry entries ih =>
      rw [List.map_cons, List.nodup_cons] at hkeys
      by_cases hkey : key entry = asset
      · have hrest : entries.filter (key · = asset) = [] := by
          rw [List.filter_eq_nil_iff]
          intro other hother hsame
          exact hkeys.1 (List.mem_map.mpr ⟨other, hother, (of_decide_eq_true hsame).trans hkey.symm⟩)
        rw [List.filter_cons_of_pos (by simpa using hkey), hrest, List.map_singleton,
          List.sum_singleton, hworth entry List.mem_cons_self, hkey]
      · rw [List.filter_cons_of_neg (by simpa using hkey)]
        refine ih hkeys.2 (fun other hother => hworth other (List.mem_cons_of_mem _ hother)) ?_
        intro hnotMem
        refine hnone ?_
        rw [List.map_cons, List.mem_cons]
        intro h
        rcases h with h | h
        · exact hkey h.symm
        · exact hnotMem h

theorem bucketAmount_eq_zero {payoutBatches : List PayoutBatchRecord}
    {accruals : List CommissionAccrual} {asset : String} {status : ReferrerPayoutHistoryStatus}
    (h : ¬ ∃ accrual ∈ accruals, accrual.asset = asset) :
    bucketAmount payoutBatches accruals asset status = 0 := by
  have hnone : accruals.filter (fun accrual => accrual.asset = asset &&
      bucketOf payoutBatches accrual = status) = [] := by
    rw [List.filter_eq_nil_iff]
    intro accrual haccrual hsame
    rw [Bool.and_eq_true] at hsame
    exact h ⟨accrual, haccrual, of_decide_eq_true hsame.1⟩
  rw [bucketAmount, hnone]
  rfl

theorem referrer_amountIn {input : CreateReferrerBalanceSummaryInput}
    {summary : ReferrerBalanceSummary}
    (h : createReferrerBalanceSummary host env input = .ok summary) (asset : String)
    (status : ReferrerPayoutHistoryStatus) : summary.amountIn asset status =
      bucketAmount input.payoutBatches (referrerAccruals input) asset status := by
  obtain ⟨hassets, hlisted, hentries⟩ := referrerSummary_entries h
  refine sum_filter_key hassets (fun asset =>
    bucketAmount input.payoutBatches (referrerAccruals input) asset status) ?_ ?_
  · intro entry hmem
    rw [(hentries entry hmem).1 status]
    rfl
  · intro hnotMem
    exact bucketAmount_eq_zero fun hsome => hnotMem ((hlisted asset).mpr hsome)

theorem merchant_amountIn {input : CreateMerchantObligationSummaryInput}
    {summary : MerchantObligationSummary}
    (h : createMerchantObligationSummary host env input = .ok summary) (asset : String)
    (status : ReferrerPayoutHistoryStatus) : summary.amountIn asset status =
      bucketAmount input.payoutBatches (merchantAccruals input) asset status := by
  obtain ⟨hassets, hlisted, hentries⟩ := merchantSummary_entries h
  refine sum_filter_key hassets (fun asset =>
    bucketAmount input.payoutBatches (merchantAccruals input) asset status) ?_ ?_
  · intro entry hmem
    obtain ⟨totals, fundingByAsset, -, hentry, hamounts, -⟩ := hentries entry hmem
    rw [← hamounts status, hentry, amountAtomic_eq (entry.asset, totals) status]
    rfl
  · intro hnotMem
    exact bucketAmount_eq_zero fun hsome => hnotMem ((hlisted asset).mpr hsome)

/-- Cut by a key of its accruals, a bucket comes to what the accruals under these keys come to. -/
theorem sum_bucketAmount_keys {payoutBatches : List PayoutBatchRecord} {keys : List String}
    (hkeys : keys.Nodup) {key : CommissionAccrual → String} {accruals : List CommissionAccrual}
    {test : CommissionAccrual → Bool}
    (hcover : ∀ accrual ∈ accruals, test accrual = true → key accrual ∈ keys) (asset : String)
    (status : ReferrerPayoutHistoryStatus) :
    (keys.map fun k => bucketAmount payoutBatches
      (accruals.filter fun accrual => key accrual = k && test accrual) asset status).sum =
        bucketAmount payoutBatches (accruals.filter test) asset status := by
  have hone : ∀ k, bucketAmount payoutBatches
      (accruals.filter fun accrual => key accrual = k && test accrual) asset status =
      ((((accruals.filter test).filter fun accrual => accrual.asset = asset &&
        bucketOf payoutBatches accrual = status).filter (key · = k)).map amountOf).sum := by
    intro k
    rw [bucketAmount, List.filter_filter, List.filter_filter, List.filter_filter]
    congr 2
    refine List.filter_congr fun accrual _ => ?_
    cases decide (key accrual = k) <;> cases test accrual <;> simp
  rw [List.map_congr_left fun k _ => hone k, sum_over_keys hkeys, bucketAmount]
  congr 2
  rw [List.filter_eq_self]
  intro accrual haccrual
  obtain ⟨haccrual, -⟩ := List.mem_filter.mp haccrual
  obtain ⟨hmem, htest⟩ := List.mem_filter.mp haccrual
  exact decide_eq_true (hcover accrual hmem htest)

/-- **The two views agree**: in every asset and every bucket, what all referrers have is what all
merchants owe. -/
theorem views_agree (host : Host) (env : CallEnv) (accruals : List CommissionAccrual)
    (payoutBatches : List PayoutBatchRecord) (filter now : Option String)
    (fundingBalances : Option (List PayoutFundingBalance)) (referrers merchants : List String)
    (hreferrers : referrers.Nodup) (hmerchants : merchants.Nodup)
    (hallReferrers : ∀ accrual ∈ accruals, isCounted filter accrual = true →
      accrual.referrerWallet ∈ referrers)
    (hallMerchants : ∀ accrual ∈ accruals, isCounted filter accrual = true →
      accrual.merchantId ∈ merchants)
    (balances : List ReferrerBalanceSummary) (obligations : List MerchantObligationSummary)
    (hbalances : referrers.mapM (fun referrerWallet => createReferrerBalanceSummary host env
      ⟨referrerWallet, accruals, payoutBatches, filter, now⟩) = .ok balances)
    (hobligations : merchants.mapM (fun merchantId => createMerchantObligationSummary host env
      ⟨merchantId, accruals, payoutBatches, filter, now, fundingBalances⟩) = .ok obligations)
    (asset : String) (status : ReferrerPayoutHistoryStatus) :
    (balances.map fun summary => summary.amountIn asset status).sum =
      (obligations.map fun summary => summary.amountIn asset status).sum := by
  rw [← map_eq_of_mapM hbalances fun _ _ h => (referrer_amountIn h asset status).symm,
    ← map_eq_of_mapM hobligations fun _ _ h => (merchant_amountIn h asset status).symm]
  exact (sum_bucketAmount_keys hreferrers hallReferrers asset status).trans
    (sum_bucketAmount_keys hmerchants hallMerchants asset status).symm

/-- Two referrers and two merchants: three are pending, seven held and nine paid in either view. -/
theorem views_agree_two :
    ∃ balances obligations,
      ["referrer1", "referrer2"].mapM (fun referrerWallet =>
        createReferrerBalanceSummary isoHost balancesAt
          ⟨referrerWallet, fiveEarned, [onePaid], none, none⟩) = .ok balances ∧
      ["mrc_1", "mrc_2"].mapM (fun merchantId =>
        createMerchantObligationSummary isoHost balancesAt
          ⟨merchantId, fiveEarned, [onePaid], none, none, none⟩) = .ok obligations ∧
      ∀ status, (balances.map fun summary => summary.amountIn "mint" status).sum =
        (obligations.map fun summary => summary.amountIn "mint" status).sum := by
  obtain ⟨balances, hbalances⟩ : ∃ balances, ["referrer1", "referrer2"].mapM (fun referrerWallet =>
      createReferrerBalanceSummary isoHost balancesAt
        ⟨referrerWallet, fiveEarned, [onePaid], none, none⟩) = .ok balances := ⟨_, rfl⟩
  obtain ⟨obligations, hobligations⟩ : ∃ obligations, ["mrc_1", "mrc_2"].mapM (fun merchantId =>
      createMerchantObligationSummary isoHost balancesAt
        ⟨merchantId, fiveEarned, [onePaid], none, none, none⟩) = .ok obligations := ⟨_, rfl⟩
  exact ⟨balances, obligations, hbalances, hobligations, views_agree isoHost balancesAt fiveEarned
    [onePaid] none none none ["referrer1", "referrer2"] ["mrc_1", "mrc_2"] (by decide) (by decide)
    (by decide) (by decide) balances obligations hbalances hobligations "mint"⟩

end Split402

import Split402.Proof.MemoryEscrow

/-! # One live allocation for every accrual

The escrow invariant, read back on the records of the in-memory store. A release forgets nothing
of a batch but its status, so whatever makes a cancelled batch live again also revives its
allocations: the rollup of a finality mark does. -/

namespace Split402.Memory

open Base Base.Escrow

variable {host : Host} {store : Memory}

/-- No two items of batches that are not cancelled allocate one accrual, and an accrual of such a
batch is not available. -/
structure SingleLiveAllocation (store : Memory) : Prop where
  single : ∀ b ∈ store.payoutBatchesById, ∀ c ∈ store.payoutBatchesById,
    b.status ≠ .cancelled → c.status ≠ .cancelled →
    ∀ (i j : Nat) (item other : PayoutItemRecord),
      b.items[i]? = some item → c.items[j]? = some other →
    ∀ id, id ∈ item.allocations.map PayoutAllocationRecord.accrualId →
      id ∈ other.allocations.map PayoutAllocationRecord.accrualId → b.id = c.id ∧ i = j
  notAvailable : ∀ b ∈ store.payoutBatchesById, b.status ≠ .cancelled →
    ∀ accrual ∈ store.listAccruals, accrual.id ∈ b.accrualIds → accrual.status ≠ .available

/-- What an item of a batch allocates, the batch allocates. -/
theorem mem_accrualIds {batch : PayoutBatchRecord} {i : Nat} {item : PayoutItemRecord}
    (hi : batch.items[i]? = some item) {id : String}
    (h : id ∈ item.allocations.map PayoutAllocationRecord.accrualId) : id ∈ batch.accrualIds :=
  List.mem_flatMap.mpr ⟨item, List.mem_of_getElem? hi, h⟩

/-- Items of a batch that allocates nothing twice allocate different accruals. -/
theorem eq_of_mem_allocations {batch : PayoutBatchRecord} (hnodup : batch.accrualIds.Nodup)
    {i j : Nat} {item other : PayoutItemRecord} (hi : batch.items[i]? = some item)
    (hj : batch.items[j]? = some other) {id : String}
    (hid : id ∈ item.allocations.map PayoutAllocationRecord.accrualId)
    (hid' : id ∈ other.allocations.map PayoutAllocationRecord.accrualId) : i = j := by
  obtain ⟨-, hpair⟩ := List.nodup_flatMap.mp hnodup
  rw [List.pairwise_iff_getElem] at hpair
  obtain ⟨hilt, rfl⟩ := List.getElem?_eq_some_iff.mp hi
  obtain ⟨hjlt, rfl⟩ := List.getElem?_eq_some_iff.mp hj
  rcases Nat.lt_trichotomy i j with h | h | h
  · exact absurd hid' (hpair i j hilt hjlt h hid)
  · exact h
  · exact absurd hid (hpair j i hjlt hilt h hid')

/-- The escrow invariant says that accruals are allocated once. -/
theorem singleLiveAllocation_of_inv (hwf : store.WellFormed) (hinv : Inv store.escrow) :
    store.SingleLiveAllocation := by
  have hlive : ∀ b ∈ store.payoutBatchesById, b.status ≠ .cancelled →
      store.escrow.live b.id ∧ store.escrow.holds b.id = b.accrualIds := by
    intro b hb hstatus
    have hfind := Table.find?_of_mem hb
    exact ⟨⟨b, hfind, hstatus⟩, by simp [escrow, hfind]⟩
  refine ⟨?_, ?_⟩
  · intro b hb c hc hbs hcs i j item other hi hj id hid hid'
    obtain ⟨hbl, hbh⟩ := hlive b hb hbs
    obtain ⟨hcl, hch⟩ := hlive c hc hcs
    by_cases hbc : b.id = c.id
    · have hsame : b = c := Table.eq_of_key hb hc hbc
      subst hsame
      exact ⟨rfl, eq_of_mem_allocations (hbh ▸ hinv.nodup b.id hbl) hi hj hid hid'⟩
    · refine absurd (hinv.disjoint b.id c.id hbl hcl hbc (a := id) ?_) (fun h => h ?_)
      · rw [hbh]
        exact mem_accrualIds hi hid
      · rw [hch]
        exact mem_accrualIds hj hid'
  · intro b hb hbs accrual ha hmem havailable
    obtain ⟨hbl, hbh⟩ := hlive b hb hbs
    refine hinv.not_free hbl (r := accrual.id) (hbh ▸ hmem) ?_
    rw [escrow_cond]
    refine (condIn_of_lookup (lookupAccrual_of_mem hwf.accrualIds ha)).trans ?_
    rw [CommissionAccrual.isAccrual_status, havailable]
    rfl

/-- **In every run that respects cancellation, every accrual is allocated at most once.** -/
theorem Respecting.singleLiveAllocation (h : Respecting host store) :
    store.SingleLiveAllocation :=
  singleLiveAllocation_of_inv h.inv.1 h.inv.2

set_option maxRecDepth 100000 in
theorem Respecting.singleLiveAllocation_payOne : (sample Sample.payOne).SingleLiveAllocation :=
  Respecting.singleLiveAllocation (reachable_sample (by decide +kernel))

set_option maxRecDepth 100000 in
/-- The transaction that lands after the release makes the cancelled batch `finalized`, with its
accrual available. -/
theorem not_singleLiveAllocation_landsAfterRelease :
    ∃ store, (system isoHost).Reachable (fun _ _ => True) store ∧
      ¬ store.SingleLiveAllocation := by
  refine ⟨sample Sample.landsAfterRelease,
    reachable_sample_true (by decide +kernel), ?_⟩
  intro h
  have hbroken : ∃ b ∈ (sample Sample.landsAfterRelease).payoutBatchesById.rows,
      ∃ accrual ∈ (sample Sample.landsAfterRelease).listAccruals,
      b.status ≠ .cancelled ∧ accrual.id ∈ b.accrualIds ∧ accrual.status = .available := by
    decide +kernel
  obtain ⟨b, hb, accrual, ha, hstatus, hmem, havailable⟩ := hbroken
  exact h.notAvailable b hb hstatus accrual ha hmem havailable

end Split402.Memory

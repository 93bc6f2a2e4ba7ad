import Split402.Proof.PayoutModel
import Split402.Proof.PayoutRules

/-! # What a rollup writes

`summarizePayoutBatchTransactionItemFinality` keeps the latest attempt of every sequence in one
loop and folds the item statuses over what it kept in another. Two loop invariants say what is kept
and where a status comes from; `rollsUp_of_summary` is what they add up to in the abstract model,
and both stores reach it with the batch and the transactions they load. -/

namespace Split402

open Base

variable {host : Host}

/-! ## The latest attempts -/

/-- What one turn keeps: nothing but what it had and what it reads. -/
theorem mem_keepLatest {bySequence : AttemptMap} {transaction r : PayoutTransactionRecord}
    (h : r ∈ keepLatest host bySequence transaction) : r ∈ bySequence ∨ r = transaction := by
  rw [keepLatest] at h
  split at h
  · rcases Table.mem_upsert.mp h with rfl | ⟨hr, -⟩
    · exact .inr rfl
    · exact .inl hr
  · split at h
    · rcases Table.mem_upsert.mp h with rfl | ⟨hr, -⟩
      · exact .inr rfl
      · exact .inl hr
    · exact .inl h

/-- A turn keeps an attempt of the sequence it reads that is at least as late. -/
theorem keepLatest_covers (host : Host) (bySequence : AttemptMap)
    (transaction : PayoutTransactionRecord) :
    ∃ r ∈ keepLatest host bySequence transaction, r.sequence = transaction.sequence ∧
      transaction.attempt ≤ r.attempt := by
  rw [keepLatest]
  split
  · exact ⟨transaction, Table.mem_upsert.mpr (.inl rfl), rfl, le_refl _⟩
  · rename_i existing hfind
    split
    · exact ⟨transaction, Table.mem_upsert.mpr (.inl rfl), rfl, le_refl _⟩
    · rename_i hkeep
      refine ⟨existing, Table.mem_of_find? hfind, Table.key_of_find? hfind, ?_⟩
      simp only [supersedes, Bool.or_eq_true, decide_eq_true_eq, not_or, not_lt] at hkeep
      exact hkeep.1

/-- What was kept is only replaced by a later attempt. -/
theorem keepLatest_keeps {bySequence : AttemptMap} {transaction r : PayoutTransactionRecord}
    (h : r ∈ bySequence) : ∃ s ∈ keepLatest host bySequence transaction,
      s.sequence = r.sequence ∧ r.attempt ≤ s.attempt := by
  rw [keepLatest]
  split
  · rename_i hfind
    have hne : r.sequence ≠ transaction.sequence := Table.find?_eq_none.mp hfind r h
    exact ⟨r, Table.mem_upsert.mpr (.inr ⟨h, hne⟩), rfl, le_refl _⟩
  · rename_i existing hfind
    split
    · rename_i hlater
      by_cases hseq : r.sequence = transaction.sequence
      · have hsame : existing = r := Table.eq_of_key (Table.mem_of_find? hfind) h
          ((Table.key_of_find? hfind).trans hseq.symm)
        subst hsame
        refine ⟨transaction, Table.mem_upsert.mpr (.inl rfl), hseq.symm, ?_⟩
        simp only [supersedes, Bool.or_eq_true, Bool.and_eq_true, decide_eq_true_eq,
          beq_iff_eq] at hlater
        omega
      · exact ⟨r, Table.mem_upsert.mpr (.inr ⟨h, hseq⟩), rfl, le_refl _⟩
    · exact ⟨r, h, rfl, le_refl _⟩

/-- The loop invariant: what is kept was read, and everything read is covered by what is kept. -/
theorem foldl_keepLatest (host : Host) (transactions : List PayoutTransactionRecord)
    (bySequence : AttemptMap) :
    (∀ r ∈ transactions.foldl (keepLatest host) bySequence, r ∈ bySequence ∨ r ∈ transactions) ∧
    ∀ t, t ∈ bySequence ∨ t ∈ transactions →
      ∃ r ∈ transactions.foldl (keepLatest host) bySequence, r.sequence = t.sequence ∧
        t.attempt ≤ r.attempt := by
  induction transactions generalizing bySequence with
  | nil =>
      refine ⟨fun r hr => .inl hr, ?_⟩
      rintro t (ht | ht)
      · exact ⟨t, ht, rfl, le_refl _⟩
      · cases ht
  | cons transaction rest ih =>
      obtain ⟨hmem, hcovers⟩ := ih (keepLatest host bySequence transaction)
      rw [List.foldl_cons]
      refine ⟨?_, ?_⟩
      · intro r hr
        rcases hmem r hr with hr | hr
        · rcases mem_keepLatest hr with hr | rfl
          · exact .inl hr
          · exact .inr List.mem_cons_self
        · exact .inr (List.mem_cons_of_mem _ hr)
      · -- what covers an attempt after this turn is covered by what the rest keeps
        have htrans : ∀ {t : PayoutTransactionRecord}, (∃ r ∈ keepLatest host bySequence transaction,
            r.sequence = t.sequence ∧ t.attempt ≤ r.attempt) →
            ∃ r ∈ rest.foldl (keepLatest host) (keepLatest host bySequence transaction),
              r.sequence = t.sequence ∧ t.attempt ≤ r.attempt := by
          rintro t ⟨r, hr, hseq, hle⟩
          obtain ⟨s, hs, hseq', hle'⟩ := hcovers r (.inl hr)
          exact ⟨s, hs, hseq'.trans hseq, le_trans hle hle'⟩
        rintro t (ht | ht)
        · exact htrans (keepLatest_keeps ht)
        · rcases List.mem_cons.mp ht with rfl | ht
          · exact htrans (keepLatest_covers host bySequence t)
          · exact hcovers t (.inr ht)

section Latest

variable {transactions : List PayoutTransactionRecord} {t u : PayoutTransactionRecord}

theorem mem_of_mem_latest (h : t ∈ latestAttemptBySequence host transactions) :
    t ∈ transactions := by
  rw [latestAttemptBySequence, mem_sortBy] at h
  rcases (foldl_keepLatest host transactions Table.empty).1 t h with h | h
  · exact absurd h Table.not_mem_empty
  · exact h

theorem exists_latest (host : Host) (h : t ∈ transactions) :
    ∃ r ∈ latestAttemptBySequence host transactions, r.sequence = t.sequence ∧
      t.attempt ≤ r.attempt := by
  obtain ⟨r, hr, hseq⟩ := (foldl_keepLatest host transactions Table.empty).2 t (.inr h)
  exact ⟨r, by rw [latestAttemptBySequence, mem_sortBy]; exact hr, hseq⟩

/-- No attempt of its sequence is later. -/
theorem le_of_mem_latest (h : t ∈ latestAttemptBySequence host transactions)
    (hu : u ∈ transactions) (hseq : u.sequence = t.sequence) : u.attempt ≤ t.attempt := by
  obtain ⟨r, hr, hrseq, hle⟩ := exists_latest host hu
  rw [latestAttemptBySequence, mem_sortBy] at h hr
  have hsame : r = t := Table.eq_of_key hr h (hrseq.trans hseq)
  exact hsame ▸ hle

end Latest

/-! ## The item statuses -/

section ItemStatuses

variable {statuses : ItemStatuses} {active : List PayoutTransactionRecord} {id : String}

/-- One turn, item by item. -/
theorem applyItemStatus_apply (statuses : ItemStatuses) (t : PayoutTransactionRecord)
    (id : String) : applyItemStatus statuses t id =
      match payoutItemStatusForTransactionStatus t.status with
      | none => statuses id
      | some status =>
          if t.covers id then (statuses id).map (fun _ => status) else statuses id := by
  unfold applyItemStatus
  cases payoutItemStatusForTransactionStatus t.status <;> rfl

theorem applyItemStatus_eq_some {t : PayoutTransactionRecord} {s : PayoutItemStatus}
    (h : applyItemStatus statuses t id = some s) : statuses id = some s ∨
      (t.covers id = true ∧ payoutItemStatusForTransactionStatus t.status = some s) := by
  rw [applyItemStatus_apply] at h
  split at h
  · exact .inl h
  · rename_i status hstatus
    split at h
    · rename_i hcovers
      obtain ⟨-, -, rfl⟩ := Option.map_eq_some_iff.mp h
      exact .inr ⟨hcovers, hstatus⟩
    · exact .inl h

/-- A status comes from the item or from a transaction that pays it. -/
theorem foldl_applyItemStatus_eq_some {s : PayoutItemStatus}
    (h : active.foldl applyItemStatus statuses id = some s) : statuses id = some s ∨
      ∃ t ∈ active, t.covers id = true ∧
        payoutItemStatusForTransactionStatus t.status = some s := by
  induction active generalizing statuses with
  | nil => exact .inl h
  | cons t rest ih =>
      rw [List.foldl_cons] at h
      rcases ih h with h | ⟨u, hu, hpays⟩
      · rcases applyItemStatus_eq_some h with h | hpays
        · exact .inl h
        · exact .inr ⟨t, List.mem_cons_self, hpays⟩
      · exact .inr ⟨u, List.mem_cons_of_mem _ hu, hpays⟩

theorem applyItemStatus_isSome (statuses : ItemStatuses) (t : PayoutTransactionRecord)
    (id : String) : (applyItemStatus statuses t id).isSome = (statuses id).isSome := by
  rw [applyItemStatus_apply]
  split
  · rfl
  · split
    · rw [Option.isSome_map]
    · rfl

theorem foldl_applyItemStatus_isSome (active : List PayoutTransactionRecord)
    (statuses : ItemStatuses) (id : String) :
    (active.foldl applyItemStatus statuses id).isSome = (statuses id).isSome := by
  induction active generalizing statuses with
  | nil => rfl
  | cons t rest ih => rw [List.foldl_cons, ih, applyItemStatus_isSome]

/-- When every transaction is finalized, what one of them pays is finalized. -/
theorem foldl_applyItemStatus_finalized (hfinal : ∀ t ∈ active, t.status = .finalized)
    (hknown : (statuses id).isSome = true)
    (hpaid : statuses id = some .finalized ∨ ∃ t ∈ active, t.covers id = true) :
    active.foldl applyItemStatus statuses id = some .finalized := by
  induction active generalizing statuses with
  | nil =>
      rcases hpaid with h | ⟨t, ht, -⟩
      · exact h
      · cases ht
  | cons t rest ih =>
      rw [List.foldl_cons]
      obtain ⟨s, hs⟩ := Option.isSome_iff_exists.mp hknown
      have hstep : applyItemStatus statuses t id =
          if t.covers id = true then some .finalized else some s := by
        rw [applyItemStatus_apply, hfinal t List.mem_cons_self]
        simp only [payoutItemStatusForTransactionStatus, hs, Option.map_some]
      refine ih (fun u hu => hfinal u (List.mem_cons_of_mem _ hu))
        ((applyItemStatus_isSome _ _ _).trans hknown) ?_
      rw [hstep]
      by_cases hcovers : t.covers id = true
      · exact .inl (if_pos hcovers)
      · rw [if_neg hcovers]
        rcases hpaid with h | ⟨u, hu, hu'⟩
        · exact .inl (hs ▸ h)
        · rcases List.mem_cons.mp hu with rfl | hu
          · exact absurd hu' hcovers
          · exact .inr ⟨u, hu, hu'⟩

end ItemStatuses

theorem initialItemStatuses_eq_some {batch : PayoutBatchRecord} {id : String}
    {s : PayoutItemStatus} (h : initialItemStatuses batch id = some s) :
    ∃ item ∈ batch.items, item.id = id ∧ item.status = s := by
  rw [initialItemStatuses, Option.map_eq_some_iff] at h
  obtain ⟨item, hfind, hstatus⟩ := h
  have hid := List.find?_some hfind
  exact ⟨item, List.mem_reverse.mp (List.mem_of_find?_eq_some hfind), by simpa using hid, hstatus⟩

theorem initialItemStatuses_isSome {batch : PayoutBatchRecord} {item : PayoutItemRecord}
    (h : item ∈ batch.items) : (initialItemStatuses batch item.id).isSome = true := by
  rw [initialItemStatuses, Option.isSome_map, List.find?_isSome]
  exact ⟨item, List.mem_reverse.mpr h, by simp⟩

/-! ## The summary -/

/-- What a rollup says, in terms of the latest attempts. -/
structure Summary (batch : PayoutBatchRecord) (active : List PayoutTransactionRecord)
    (rollup : PayoutBatchTransactionItemRollup) : Prop where
  notCancelled : rollup.batchStatus ≠ .cancelled
  ids : ∀ update ∈ rollup.updatedItems, ∃ item ∈ batch.items, item.id = update.payoutItemId
  updates : ∀ update ∈ rollup.updatedItems,
    (∃ item ∈ batch.items, item.id = update.payoutItemId ∧ item.status = update.status) ∨
    ∃ t ∈ active, t.covers update.payoutItemId = true ∧
      payoutItemStatusForTransactionStatus t.status = some update.status
  finalized : rollup.batchStatus = .finalized →
    (∀ item ∈ batch.items,
      (∃ other ∈ batch.items, other.id = item.id ∧ other.status = .finalized) ∨
      ∃ t ∈ active, t.covers item.id = true ∧ t.status = .finalized) ∧
    ∀ t ∈ active, t.status.isTerminalFailure = false
  finalizes : (∀ t ∈ active, t.status = .finalized) →
    (∀ item ∈ batch.items, ∃ t ∈ active, t.covers item.id = true) →
    rollup.batchStatus = .finalized

/-- A rollup is only `finalized` without a failure and with every item finalized. -/
theorem rollupBatchStatus_eq_finalized {terminalFailure : Option PayoutTransactionStatus}
    {statuses : List PayoutItemStatus}
    (hterminal : ∀ status, terminalFailure = some status → status.isTerminalFailure = true) :
    rollupBatchStatus terminalFailure statuses = .finalized ↔
      terminalFailure = none ∧ ∀ s ∈ statuses, s = .finalized := by
  cases terminalFailure with
  | some status =>
      have h := hterminal status rfl
      constructor
      · intro hfinal
        unfold rollupBatchStatus at hfinal
        split at hfinal
        · cases hfinal
        · cases hfinal
        · cases hfinal
        · -- no other status is a terminal failure
          cases status <;> simp_all [PayoutTransactionStatus.isTerminalFailure]
      · rintro ⟨hnone, -⟩
        cases hnone
  | none =>
      unfold rollupBatchStatus
      dsimp only
      constructor
      · intro h
        split at h
        · rename_i hall
          exact ⟨rfl, by simpa using hall⟩
        · split at h
          · cases h
          · split at h <;> cases h
      · rintro ⟨-, hall⟩
        rw [if_pos (by simpa using hall)]

theorem summarize_summary {batch : PayoutBatchRecord}
    {transactions : List PayoutTransactionRecord} {rollup : PayoutBatchTransactionItemRollup}
    (h : summarizePayoutBatchTransactionItemFinality host batch transactions = some rollup) :
    Summary batch (latestAttemptBySequence host transactions) rollup := by
  have hcancelled := (summarize_eq_some h).2
  rw [summarizePayoutBatchTransactionItemFinality] at h
  split at h
  · cases h
  injection h with h
  subst h
  generalize latestAttemptBySequence host transactions = active at hcancelled ⊢
  -- every item has a status after the loop
  have hsome : ∀ item ∈ batch.items, ∃ s,
      active.foldl applyItemStatus (initialItemStatuses batch) item.id = some s := by
    intro item hitem
    rw [← Option.isSome_iff_exists, foldl_applyItemStatus_isSome]
    exact initialItemStatuses_isSome hitem
  have hfrom : ∀ (id : String) (s : PayoutItemStatus),
      active.foldl applyItemStatus (initialItemStatuses batch) id = some s →
      (∃ item ∈ batch.items, item.id = id ∧ item.status = s) ∨
      ∃ t ∈ active, t.covers id = true ∧
        payoutItemStatusForTransactionStatus t.status = some s := by
    intro id s hs
    rcases foldl_applyItemStatus_eq_some hs with hs | ht
    · exact .inl (initialItemStatuses_eq_some hs)
    · exact .inr ht
  have hterminal : ∀ status, (active.find? (fun transaction =>
      transaction.status.isTerminalFailure)).map PayoutTransactionRecord.status = some status →
      status.isTerminalFailure = true := by
    intro status hstatus
    obtain ⟨t, ht, rfl⟩ := Option.map_eq_some_iff.mp hstatus
    have hfound := List.find?_some ht
    exact hfound
  have hfinal := @rollupBatchStatus_eq_finalized _ (batch.items.map (fun item =>
    (active.foldl applyItemStatus (initialItemStatuses batch) item.id).getD item.status)) hterminal
  refine ⟨hcancelled, ?_, ?_, ?_, ?_⟩
  · intro update hupdate
    obtain ⟨item, hitem, rfl⟩ := List.mem_map.mp (List.mem_of_mem_filter hupdate)
    exact ⟨item, hitem, rfl⟩
  · intro update hupdate
    obtain ⟨item, hitem, rfl⟩ := List.mem_map.mp (List.mem_of_mem_filter hupdate)
    obtain ⟨s, hs⟩ := hsome item hitem
    simp only [hs, Option.getD_some]
    exact hfrom item.id s hs
  · intro hstatus
    obtain ⟨hnone, hall⟩ := hfinal.mp hstatus
    refine ⟨?_, ?_⟩
    · intro item hitem
      obtain ⟨s, hs⟩ := hsome item hitem
      have hse := hall _ (List.mem_map_of_mem hitem)
      rw [hs, Option.getD_some] at hse
      rcases hfrom item.id s hs with ⟨other, hother, hid, hos⟩ | ⟨t, ht, hcovers, hts⟩
      · exact .inl ⟨other, hother, hid, hos.trans hse⟩
      · exact .inr ⟨t, ht, hcovers,
          payoutItemStatusForTransactionStatus_eq_finalized (hse ▸ hts)⟩
    · intro t ht
      rw [Option.map_eq_none_iff] at hnone
      exact Bool.not_eq_true _ ▸ List.find?_eq_none.mp hnone t ht
  · intro hactive hpaid
    refine hfinal.mpr ⟨?_, ?_⟩
    · rw [Option.map_eq_none_iff, List.find?_eq_none]
      intro t ht
      rw [hactive t ht]
      decide
    · intro s hs
      obtain ⟨item, hitem, rfl⟩ := List.mem_map.mp hs
      have hdone := foldl_applyItemStatus_finalized hactive (initialItemStatuses_isSome hitem)
        (.inr (hpaid item hitem))
      rw [hdone, Option.getD_some]

/-! ## A rollup of the abstract model -/

/-- The transactions are those the model has of the batch. -/
def Payouts.Lists (p : Payouts) (batchId : String) (transactions : List PayoutTransactionRecord) :
    Prop :=
  ∀ id t, (p.transaction id = some t ∧ t.batchId = batchId) ↔
    ∃ record ∈ transactions, record.id = id ∧ record.signed = t

section RollsUp

variable {p p' : Payouts} {batch : PayoutBatchRecord} {transactions : List PayoutTransactionRecord}

/-- What the loop keeps is latest in the model. -/
theorem Payouts.Lists.latest (h : p.Lists batch.id transactions) {r : PayoutTransactionRecord}
    (hr : r ∈ latestAttemptBySequence host transactions) :
    p.Latest r.id r.signed ∧ r.signed.batchId = batch.id := by
  obtain ⟨hstored, hbatch⟩ := (h r.id r.signed).mpr ⟨r, mem_of_mem_latest hr, rfl, rfl⟩
  refine ⟨⟨hstored, ?_⟩, hbatch⟩
  intro id u hu hub hseq
  obtain ⟨s, hs, -, rfl⟩ := (h id u).mp ⟨hu, hub.trans hbatch⟩
  exact le_of_mem_latest hr hs hseq

/-- And what is latest in the model, the loop keeps. -/
theorem Payouts.Lists.of_latest (host : Host) (h : p.Lists batch.id transactions)
    (hdistinct : p.Distinct) {id : String} {t : SignedTransaction} (ht : p.Latest id t)
    (hbatch : t.batchId = batch.id) :
    ∃ r ∈ latestAttemptBySequence host transactions, r.signed = t := by
  obtain ⟨s, hs, hsid, hst⟩ := (h id t).mp ⟨ht.stored, hbatch⟩
  obtain ⟨r, hr, hseq, hle⟩ := exists_latest host hs
  obtain ⟨hlatest, hrb⟩ := h.latest hr
  subst hst
  have hattempt := ht.latest r.id r.signed hlatest.stored (hrb.trans hbatch.symm) hseq
  have hid : r.id = id := hdistinct id s.signed ht.stored r.id r.signed hlatest.stored
    (hrb.trans hbatch.symm) hseq (le_antisymm hattempt hle)
  refine ⟨r, hr, ?_⟩
  have hstored := hlatest.stored
  rw [hid, ht.stored] at hstored
  injection hstored with hstored
  exact hstored.symm

/-- **A store that writes a summary rolls its batch up.** -/
theorem Payouts.rollsUp_of_summary {rollup : PayoutBatchTransactionItemRollup}
    (hsummary : summarizePayoutBatchTransactionItemFinality host batch transactions = some rollup)
    (hlists : p.Lists batch.id transactions) (hdistinct : p.Distinct)
    (hitems : ∀ i s, p.item batch.id i s ↔ ∃ item ∈ batch.items, item.id = i ∧ item.status = s)
    (htransaction : p'.transaction = p.transaction)
    (hothers : ∀ c, c ≠ batch.id → p'.batch c = p.batch c ∧ p'.item c = p.item c)
    (hbatch : p'.batch batch.id = some rollup.batchStatus)
    (hids : ∀ i, (∃ s, p'.item batch.id i s) ↔ ∃ s, p.item batch.id i s)
    (hfrom : ∀ i s, p'.item batch.id i s → p.item batch.id i s ∨
      ∃ update ∈ rollup.updatedItems, update.payoutItemId = i ∧ update.status = s) :
    p.RollsUp batch.id p' := by
  have hsum := summarize_summary hsummary
  refine ⟨htransaction, hothers, hids, ?_, ?_, ?_, ?_, ?_⟩
  · rw [hbatch]
    exact fun h => hsum.notCancelled (Option.some.inj h)
  · rw [hbatch]
    exact Option.some_ne_none _
  · intro i s his
    rcases hfrom i s his with his | ⟨update, hupdate, rfl, rfl⟩
    · exact .inl his
    · rcases hsum.updates update hupdate with hitem | ⟨r, hr, hcovers, hstatus⟩
      · exact .inl ((hitems _ _).mpr hitem)
      · obtain ⟨hlatest, hrb⟩ := hlists.latest hr
        exact .inr ⟨r.id, r.signed, hlatest, hrb, hcovers, hstatus⟩
  · intro hfinal
    rw [hbatch] at hfinal
    obtain ⟨hpaid, hnofail⟩ := hsum.finalized (Option.some.inj hfinal)
    refine ⟨?_, ?_⟩
    · intro i s his
      obtain ⟨item, hitem, rfl, -⟩ := (hitems i s).mp his
      rcases hpaid item hitem with hother | ⟨r, hr, hcovers, hstatus⟩
      · exact .inl ((hitems _ _).mpr hother)
      · obtain ⟨hlatest, hrb⟩ := hlists.latest hr
        exact .inr ⟨r.id, r.signed, hlatest, hrb, hcovers, hstatus⟩
    · intro id t ht hb
      obtain ⟨r, hr, rfl⟩ := hlists.of_latest host hdistinct ht hb
      exact hnofail r hr
  · intro hactive hpaid
    rw [hbatch]
    refine congrArg some (hsum.finalizes ?_ ?_)
    · intro r hr
      obtain ⟨hlatest, hrb⟩ := hlists.latest hr
      exact hactive r.id r.signed hlatest hrb
    · intro item hitem
      obtain ⟨id, t, ht, hb, hpays⟩ :=
        hpaid item.id item.status ((hitems _ _).mpr ⟨item, hitem, rfl, rfl⟩)
      obtain ⟨r, hr, rfl⟩ := hlists.of_latest host hdistinct ht hb
      exact ⟨r, hr, hpays⟩

end RollsUp

end Split402

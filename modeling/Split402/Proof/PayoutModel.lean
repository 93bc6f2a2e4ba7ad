import Split402.Base.Run
import Split402.Payouts.Release
import Split402.Proof.SignedRecords
import Split402.Store.Ops

/-! # Payouts, abstractly

What the payout operations do to the status of batches, items and transactions, said once for both
stores. A batch is created, released, given signed transactions, and its transactions are marked; a
mark may roll its batch up. `Step` says what each `Move` may do, and nothing about who makes it:
accruals, ledgers and timestamps are forgotten, and so is which store keeps the records.

A rollup is described by what it reads, the latest attempt of every sequence, and by what it can
write. That it never looks at the status of the batch is the reason for most conditions in the
theorems about this model. -/

namespace Split402

/-- A signed transaction: its batch, its place there, and the items it pays. -/
structure SignedTransaction where
  batchId : String
  sequence : Int
  attempt : Int
  status : PayoutTransactionStatus
  pays : String → Prop

/-- What the model keeps of a record. -/
def PayoutTransactionRecord.signed (record : PayoutTransactionRecord) : SignedTransaction :=
  ⟨record.payoutBatchId, record.sequence, record.attempt, record.status,
    fun payoutItemId => record.covers payoutItemId = true⟩

/-- Neither failed nor expired: the transaction may still land. -/
def SignedTransaction.isLive (t : SignedTransaction) : Prop := t.status.isDead = false

/-- The statuses of batches, of their items, and the signed transactions. -/
structure Payouts where
  batch : String → Option PayoutBatchStatus
  item : String → String → PayoutItemStatus → Prop
  transaction : String → Option SignedTransaction

namespace Payouts

variable {p p' : Payouts}

/-- The latest attempt of its sequence. -/
structure Latest (p : Payouts) (id : String) (t : SignedTransaction) : Prop where
  stored : p.transaction id = some t
  latest : ∀ id' u, p.transaction id' = some u → u.batchId = t.batchId →
    u.sequence = t.sequence → u.attempt ≤ t.attempt

/-- A transaction in a new status. -/
def setStatus (p : Payouts) (id : String) (status : PayoutTransactionStatus) : Payouts :=
  { p with
    transaction := fun id' =>
      if id' = id then (p.transaction id').map ({ · with status := status })
      else p.transaction id' }

/-! ## What a move does -/

inductive Move
  | idle
  | create (batchId : String)
  | release (batchId : String)
  | sign (batchId : String) (signed : String → Option SignedTransaction)
  | mark (id : String) (status : PayoutTransactionStatus) (rolls : Bool)

/-- A new batch, whose items are allocated. -/
structure Creates (p : Payouts) (batchId : String) (p' : Payouts) : Prop where
  new : p.batch batchId = none
  noItems : ∀ i s, ¬ p.item batchId i s
  batch : p'.batch batchId = some .planned
  item : ∀ i s, p'.item batchId i s → s = .allocated
  others : ∀ c, c ≠ batchId → p'.batch c = p.batch c ∧ p'.item c = p.item c
  transaction : p'.transaction = p.transaction

/-- A released batch is cancelled, and its items are released. -/
structure Releases (p : Payouts) (batchId : String) (p' : Payouts) : Prop where
  notFinalized : p.batch batchId ≠ some .finalized
  known : p.batch batchId ≠ none
  batch : p'.batch batchId = some .cancelled
  item : ∀ i s, p'.item batchId i s → s = .released
  others : ∀ c, c ≠ batchId → p'.batch c = p.batch c ∧ p'.item c = p.item c
  itemIds : ∀ c i, (∃ s, p'.item c i s) ↔ ∃ s, p.item c i s
  transaction : p'.transaction = p.transaction

/-- New transactions of a known batch. The checks compare them with each other, and with the stored
ones only by id, sequence and attempt. -/
structure Signs (p : Payouts) (batchId : String) (signed : String → Option SignedTransaction)
    (p' : Payouts) : Prop where
  batch : p'.batch = p.batch
  item : p'.item = p.item
  transaction : ∀ id, p'.transaction id = (p.transaction id).or (signed id)
  new : ∀ id t, signed id = some t → p.transaction id = none
  ofBatch : ∀ id t, signed id = some t → t.batchId = batchId
  status : ∀ id t, signed id = some t → t.status = .signed
  paysSome : ∀ id t, signed id = some t → ∃ i, t.pays i
  paysItems : ∀ id t, signed id = some t → ∀ i, t.pays i → ∃ s, p.item batchId i s
  attempts : ∀ id t, signed id = some t → ∀ id' u, p.transaction id' = some u →
    u.batchId = batchId → u.sequence = t.sequence → u.attempt ≠ t.attempt
  attempts' : ∀ id t, signed id = some t → ∀ id' u, signed id' = some u →
    u.sequence = t.sequence → u.attempt = t.attempt → id' = id
  sequences : ∀ id t, signed id = some t → ∀ id' u, signed id' = some u →
    ∀ i, t.pays i → u.pays i → u.sequence = t.sequence

/-- What a rollup may write. -/
structure RollsUp (p : Payouts) (batchId : String) (p' : Payouts) : Prop where
  transaction : p'.transaction = p.transaction
  others : ∀ c, c ≠ batchId → p'.batch c = p.batch c ∧ p'.item c = p.item c
  itemIds : ∀ i, (∃ s, p'.item batchId i s) ↔ ∃ s, p.item batchId i s
  /-- whatever the batch was, it is not cancelled now -/
  notCancelled : p'.batch batchId ≠ some .cancelled
  known : p'.batch batchId ≠ none
  /-- an item keeps its status or gets that of a latest attempt -/
  itemFrom : ∀ i s, p'.item batchId i s → p.item batchId i s ∨ ∃ id t, p.Latest id t ∧
    t.batchId = batchId ∧ t.pays i ∧ payoutItemStatusForTransactionStatus t.status = some s
  /-- a finalized batch has finalized items and no latest attempt that failed -/
  finalized : p'.batch batchId = some .finalized →
    (∀ i s, p.item batchId i s → p.item batchId i .finalized ∨ ∃ id t, p.Latest id t ∧
      t.batchId = batchId ∧ t.pays i ∧ t.status = .finalized) ∧
    ∀ id t, p.Latest id t → t.batchId = batchId → t.status.isTerminalFailure = false
  /-- when finalized transactions pay every item, the batch is finalized -/
  finalizes : (∀ id t, p.Latest id t → t.batchId = batchId → t.status = .finalized) →
    (∀ i s, p.item batchId i s → ∃ id t, p.Latest id t ∧ t.batchId = batchId ∧ t.pays i) →
    p'.batch batchId = some .finalized

/-- A mark writes the status of a transaction; then its batch, when there is one, may be rolled
up. -/
structure Marks (p : Payouts) (id : String) (status : PayoutTransactionStatus) (rolls : Bool)
    (p' : Payouts) : Prop where
  writes : ∃ t, p.transaction id = some t ∧
    (p' = p.setStatus id status ∧ (rolls = false ∨ p.batch t.batchId = none) ∨
      rolls = true ∧ (p.setStatus id status).RollsUp t.batchId p')

def Step (p : Payouts) : Move → Payouts → Prop
  | .idle, p' => p' = p
  | .create batchId, p' => p.Creates batchId p'
  | .release batchId, p' => p.Releases batchId p'
  | .sign batchId signed, p' => p.Signs batchId signed p'
  | .mark id status rolls, p' => p.Marks id status rolls p'

/-! ## Which call makes a move -/

/-- The item is one that a transaction of a saving call pays. -/
def Asks (p : Payouts) (input : SaveSignedPayoutTransactionsInput)
    (transaction : SaveSignedPayoutTransactionInput) (payoutItemId : String) : Prop :=
  if input.paysWholeBatch then ∃ s, p.item input.payoutBatchId payoutItemId s
  else payoutItemId ∈ transaction.itemIds

/-- The new transactions are those of a saving call. -/
structure SignedBy (p : Payouts) (input : SaveSignedPayoutTransactionsInput)
    (signed : String → Option SignedTransaction) : Prop where
  asked : ∀ id t, signed id = some t → ∃ transaction ∈ input.transactions,
    t.sequence = transaction.sequence ∧ ∀ i, t.pays i → p.Asks input transaction i
  sequences : (input.transactions.map SaveSignedPayoutTransactionInput.sequence).Nodup →
    ∀ id t, signed id = some t → ∀ id' u, signed id' = some u → u.sequence = t.sequence → id' = id

/-- The call makes the move. Whether a submit mark rolls its batch up depends on the store. -/
def Makes (p : Payouts) (submitRolls : Bool) (op : StoreOp) : Move → Prop
  | .idle => True
  | .create _ => True
  | .release batchId => ∃ input, op = .releasePayoutBatchAllocations input ∧
      batchId = input.payoutBatchId
  | .sign batchId signed => ∃ input, op = .saveSignedPayoutTransactions input ∧
      batchId = input.payoutBatchId ∧ p.SignedBy input signed
  | .mark id status rolls =>
      (∃ input, op = .markPayoutTransactionSubmitted input ∧ id = input.id ∧
        status = .submitted ∧ rolls = submitRolls) ∨
      ∃ input, op = .markPayoutTransactionFinality input ∧ id = input.id ∧
        status = input.status.toStatus ∧ rolls = true ∧
        ∀ t, p.transaction id = some t →
          ∀ expected, input.expectedStatus = some expected → expected = t.status

/-! ## Transactions keep their place -/

theorem setStatus_transaction {id id' : String} {status : PayoutTransactionStatus}
    {t : SignedTransaction} :
    (p.setStatus id status).transaction id' = some t ↔
      (id' ≠ id ∧ p.transaction id' = some t) ∨
      (id' = id ∧ ∃ u, p.transaction id = some u ∧ t = { u with status := status }) := by
  rw [setStatus]
  dsimp only
  by_cases hid : id' = id
  · subst hid
    simp [eq_comm]
  · simp [hid]

/-- The transaction keeps its batch, its place and its items. -/
def SamePlace (t u : SignedTransaction) : Prop :=
  t.batchId = u.batchId ∧ t.sequence = u.sequence ∧ t.attempt = u.attempt ∧ t.pays = u.pays

theorem SamePlace.rfl {t : SignedTransaction} : SamePlace t t := ⟨Eq.refl _, Eq.refl _, Eq.refl _, Eq.refl _⟩

theorem setStatus_back {id id' : String} {status : PayoutTransactionStatus} {t : SignedTransaction}
    (h : (p.setStatus id status).transaction id' = some t) :
    ∃ u, p.transaction id' = some u ∧ SamePlace t u ∧ (id' ≠ id → t = u) ∧
      (id' = id → t.status = status) := by
  rcases setStatus_transaction.mp h with ⟨hne, ht⟩ | ⟨rfl, u, hu, rfl⟩
  · exact ⟨t, ht, .rfl, fun _ => Eq.refl _, fun hid => absurd hid hne⟩
  · exact ⟨u, hu, ⟨rfl, rfl, rfl, rfl⟩, fun hne => absurd rfl hne, fun _ => rfl⟩

theorem setStatus_forth {id id' : String} {status : PayoutTransactionStatus} {u : SignedTransaction}
    (h : p.transaction id' = some u) :
    ∃ t, (p.setStatus id status).transaction id' = some t ∧ SamePlace t u ∧ (id' ≠ id → t = u) ∧
      (id' = id → t.status = status) := by
  by_cases hid : id' = id
  · subst hid
    exact ⟨{ u with status := status }, setStatus_transaction.mpr (.inr ⟨rfl, u, h, rfl⟩),
      ⟨rfl, rfl, rfl, rfl⟩, fun hne => absurd rfl hne, fun _ => rfl⟩
  · exact ⟨u, setStatus_transaction.mpr (.inl ⟨hid, h⟩), .rfl, fun _ => rfl,
      fun he => absurd he hid⟩

/-- A mark leaves the transactions as they were but for the status of one. -/
theorem Marks.transaction {id : String} {status : PayoutTransactionStatus} {rolls : Bool}
    (h : p.Marks id status rolls p') :
    p'.transaction = (p.setStatus id status).transaction := by
  obtain ⟨t, -, ⟨rfl, -⟩ | ⟨-, hroll⟩⟩ := h.writes
  · rfl
  · exact hroll.transaction

/-- No two transactions of a batch share their sequence and attempt. -/
def Distinct (p : Payouts) : Prop :=
  ∀ id t, p.transaction id = some t → ∀ id' u, p.transaction id' = some u →
    u.batchId = t.batchId → u.sequence = t.sequence → u.attempt = t.attempt → id' = id

theorem Distinct.congr (h : p.Distinct) (ht : p'.transaction = p.transaction) : p'.Distinct := by
  unfold Distinct
  rw [ht]
  exact h

theorem Distinct.setStatus (h : p.Distinct) (id : String) (status : PayoutTransactionStatus) :
    (p.setStatus id status).Distinct := by
  intro id₁ t ht id₂ u hu hbatch hseq hattempt
  obtain ⟨t₀, ht₀, ⟨hb, hs, ha, -⟩, -⟩ := setStatus_back ht
  obtain ⟨u₀, hu₀, ⟨hb', hs', ha', -⟩, -⟩ := setStatus_back hu
  exact h id₁ t₀ ht₀ id₂ u₀ hu₀ (by rw [← hb, ← hb', hbatch]) (by rw [← hs, ← hs', hseq])
    (by rw [← ha, ← ha', hattempt])

/-- Signed transactions are the stored ones and the new ones. -/
theorem Signs.transaction_eq_some {batchId : String} {signed : String → Option SignedTransaction}
    (h : p.Signs batchId signed p') {id : String} {t : SignedTransaction} :
    p'.transaction id = some t ↔ p.transaction id = some t ∨ signed id = some t := by
  rw [h.transaction, Option.or_eq_some_iff]
  constructor
  · rintro (ht | ⟨-, ht⟩)
    · exact .inl ht
    · exact .inr ht
  · rintro (ht | ht)
    · exact .inl ht
    · exact .inr ⟨h.new id t ht, ht⟩

theorem Step.distinct {move : Move} (h : p.Step move p') (hd : p.Distinct) : p'.Distinct := by
  cases move with
  | idle => exact h ▸ hd
  | create batchId => exact hd.congr h.transaction
  | release batchId => exact hd.congr h.transaction
  | mark id status rolls => exact (hd.setStatus id status).congr h.transaction
  | sign batchId signed =>
      intro id t ht id' u hu hbatch hseq hattempt
      rcases h.transaction_eq_some.mp ht with ht | ht
      · rcases h.transaction_eq_some.mp hu with hu | hu
        · exact hd id t ht id' u hu hbatch hseq hattempt
        · exact absurd hattempt.symm (h.attempts id' u hu id t ht
            (by rw [← hbatch, h.ofBatch id' u hu]) hseq.symm)
      · rcases h.transaction_eq_some.mp hu with hu | hu
        · exact absurd hattempt (h.attempts id t ht id' u hu
            (by rw [hbatch, h.ofBatch id t ht]) hseq)
        · exact h.attempts' id t ht id' u hu hseq hattempt

/-! ## Cancelled batches -/

/-- The batch is cancelled and its items are released. -/
structure Cancelled (p : Payouts) (batchId : String) : Prop where
  batch : p.batch batchId = some .cancelled
  item : ∀ i s, p.item batchId i s → s = .released

/-- The move rolls the batch up. -/
def RollsBatch (p : Payouts) (batchId : String) : Move → Prop
  | .mark id _ true => ∃ t, p.transaction id = some t ∧ t.batchId = batchId
  | _ => False

theorem Cancelled.congr {b : String} (h : p.Cancelled b) (hb : p'.batch b = p.batch b)
    (hi : p'.item b = p.item b) : p'.Cancelled b := by
  refine ⟨hb.trans h.batch, ?_⟩
  rw [hi]
  exact h.item

/-- **Only a rollup reopens a cancelled batch.** -/
theorem Step.cancelled {move : Move} {b : String} (h : p.Step move p') (hc : p.Cancelled b)
    (hmove : ¬ p.RollsBatch b move) : p'.Cancelled b := by
  cases move with
  | idle => exact h ▸ hc
  | create batchId =>
      have hne : b ≠ batchId := by
        rintro rfl
        cases h.new.symm.trans hc.batch
      exact hc.congr (h.others b hne).1 (h.others b hne).2
  | release batchId =>
      by_cases hb : b = batchId
      · subst hb
        exact ⟨h.batch, h.item⟩
      · exact hc.congr (h.others b hb).1 (h.others b hb).2
  | sign batchId signed => exact hc.congr (congrFun h.batch b) (congrFun h.item b)
  | mark id status rolls =>
      obtain ⟨t, ht, ⟨rfl, -⟩ | ⟨rfl, hroll⟩⟩ := h.writes
      · exact hc.congr rfl rfl
      · have hne : b ≠ t.batchId := fun hb => hmove ⟨t, ht, hb.symm⟩
        exact hc.congr (hroll.others b hne).1 (hroll.others b hne).2

/-- And it does. -/
theorem Step.not_cancelled {move : Move} {b : String} (h : p.Step move p')
    (hmove : p.RollsBatch b move) (hknown : p.batch b ≠ none) : ¬ p'.Cancelled b := by
  intro hc
  cases move with
  | mark id status rolls =>
      cases rolls with
      | true =>
          obtain ⟨t, ht, rfl⟩ := hmove
          obtain ⟨u, hu, ⟨-, hidle | hnone⟩ | ⟨-, hroll⟩⟩ := h.writes
          · cases hidle
          · rw [ht] at hu
            injection hu with hu
            exact hknown (hu ▸ hnone)
          · rw [ht] at hu
            injection hu with hu
            exact hroll.notCancelled (hu ▸ hc.batch)
      | false => exact hmove
  | idle => exact hmove
  | create batchId => exact hmove
  | release batchId => exact hmove
  | sign batchId signed => exact hmove

/-! ## Known items -/

/-- Items belong to known batches. -/
def ItemsKnown (p : Payouts) : Prop := ∀ b i s, p.item b i s → p.batch b ≠ none

theorem Step.itemsKnown {move : Move} (h : p.Step move p') (hk : p.ItemsKnown) :
    p'.ItemsKnown := by
  intro b i s hi
  cases move with
  | idle =>
      rw [show p' = p from h] at hi ⊢
      exact hk b i s hi
  | create batchId =>
      by_cases hb : b = batchId
      · rw [hb, h.batch]
        exact Option.some_ne_none _
      · rw [(h.others b hb).1]
        rw [(h.others b hb).2] at hi
        exact hk b i s hi
  | release batchId =>
      by_cases hb : b = batchId
      · rw [hb, h.batch]
        exact Option.some_ne_none _
      · rw [(h.others b hb).1]
        rw [(h.others b hb).2] at hi
        exact hk b i s hi
  | sign batchId signed =>
      rw [h.batch]
      rw [h.item] at hi
      exact hk b i s hi
  | mark id status rolls =>
      obtain ⟨t, ht, ⟨rfl, -⟩ | ⟨-, hroll⟩⟩ := h.writes
      · exact hk b i s hi
      · by_cases hb : b = t.batchId
        · rw [hb]
          exact hroll.known
        · rw [(hroll.others b hb).1]
          rw [(hroll.others b hb).2] at hi
          exact hk b i s hi

/-- An item stays an item of its batch. -/
theorem Step.keepsItem {move : Move} (h : p.Step move p') {b i : String} (hi : ∃ s, p.item b i s) :
    ∃ s, p'.item b i s := by
  cases move with
  | idle => exact h ▸ hi
  | create batchId =>
      have hb : b ≠ batchId := by
        rintro rfl
        obtain ⟨s, hs⟩ := hi
        exact h.noItems i s hs
      rw [(h.others b hb).2]
      exact hi
  | release batchId => exact (h.itemIds b i).mpr hi
  | sign batchId signed =>
      rw [h.item]
      exact hi
  | mark id status rolls =>
      obtain ⟨t, ht, ⟨rfl, -⟩ | ⟨-, hroll⟩⟩ := h.writes
      · exact hi
      · by_cases hb : b = t.batchId
        · rw [hb] at hi ⊢
          exact (hroll.itemIds i).mpr hi
        · rw [(hroll.others b hb).2]
          exact hi

/-- Transactions pay items of their batch. -/
def PaysItems (p : Payouts) : Prop :=
  ∀ id t, p.transaction id = some t → ∀ i, t.pays i → ∃ s, p.item t.batchId i s

theorem Step.paysItems {move : Move} (h : p.Step move p') (hp : p.PaysItems) : p'.PaysItems := by
  -- a stored transaction that keeps its place keeps its items
  have hold : ∀ u, (∀ i, u.pays i → ∃ s, p.item u.batchId i s) → ∀ t, SamePlace t u →
      ∀ i, t.pays i → ∃ s, p'.item t.batchId i s := by
    rintro u hu t ⟨hb, -, -, hpays⟩ i hi
    rw [hb]
    exact h.keepsItem (hu i (hpays ▸ hi))
  intro id t ht
  cases move with
  | idle =>
      have hsame : p' = p := h
      rw [hsame] at ht
      exact hold t (hp id t ht) t .rfl
  | create batchId =>
      rw [h.transaction] at ht
      exact hold t (hp id t ht) t .rfl
  | release batchId =>
      rw [h.transaction] at ht
      exact hold t (hp id t ht) t .rfl
  | sign batchId signed =>
      rcases h.transaction_eq_some.mp ht with ht | ht
      · exact hold t (hp id t ht) t .rfl
      · intro i hi
        rw [Signs.item h, Signs.ofBatch h id t ht]
        exact Signs.paysItems h id t ht i hi
  | mark markedId status rolls =>
      rw [Marks.transaction h] at ht
      obtain ⟨u, hu, hsame, -⟩ := setStatus_back ht
      exact hold u (hp id u hu) t hsame

end Payouts

/-! ## The transactions of a saving call -/

/-- The records of a call by id: the last one counts. -/
def signedById (records : List PayoutTransactionRecord) (id : String) :
    Option SignedTransaction :=
  (records.reverse.find? (fun record => record.id = id)).map PayoutTransactionRecord.signed

theorem signedById_eq_some {records : List PayoutTransactionRecord} {id : String}
    {t : SignedTransaction} (h : signedById records id = some t) :
    ∃ record ∈ records, record.id = id ∧ record.signed = t := by
  rw [signedById, Option.map_eq_some_iff] at h
  obtain ⟨record, hfind, hsigned⟩ := h
  have hid := List.find?_some hfind
  exact ⟨record, List.mem_reverse.mp (List.mem_of_find?_eq_some hfind), by simpa using hid,
    hsigned⟩

/-- **A store that adds the records of a planned call signs them.** -/
theorem PlansSigned.signs {p p' : Payouts} {input : SaveSignedPayoutTransactionsInput}
    {batch : PayoutBatchRecord} {records : List PayoutTransactionRecord}
    (h : PlansSigned input batch records) (hbatch : p'.batch = p.batch) (hitem : p'.item = p.item)
    (htransaction : ∀ id, p'.transaction id = (p.transaction id).or (signedById records id))
    (hnew : ∀ record ∈ records, p.transaction record.id = none)
    (hattempts : ∀ record ∈ records, ∀ id u, p.transaction id = some u →
      u.batchId = record.payoutBatchId → u.sequence = record.sequence →
      u.attempt ≠ record.attempt)
    (hitems : ∀ i ∈ batch.items.map PayoutItemRecord.id, ∃ s, p.item input.payoutBatchId i s) :
    p.Signs input.payoutBatchId (signedById records) p' ∧
      p.SignedBy input (signedById records) := by
  -- the record behind a new transaction
  have hrecord : ∀ id t, signedById records id = some t → ∃ record ∈ records, record.id = id ∧
      record.signed = t ∧ ∃ transaction ∈ input.transactions,
        SignedRecordOf input batch transaction record := by
    intro id t ht
    obtain ⟨record, hr, hid, hsigned⟩ := signedById_eq_some ht
    exact ⟨record, hr, hid, hsigned, h.exists_transaction hr⟩
  refine ⟨⟨hbatch, hitem, htransaction, ?_, ?_, ?_, ?_, ?_, ?_, ?_, ?_⟩, ?_, ?_⟩
  · intro id t ht
    obtain ⟨record, hr, rfl, -⟩ := hrecord id t ht
    exact hnew record hr
  · intro id t ht
    obtain ⟨record, -, -, rfl, transaction, -, hof⟩ := hrecord id t ht
    exact hof.batchId
  · intro id t ht
    obtain ⟨record, -, -, rfl, transaction, -, hof⟩ := hrecord id t ht
    exact hof.status
  · intro id t ht
    obtain ⟨record, -, -, rfl, transaction, -, hof⟩ := hrecord id t ht
    obtain ⟨item, hitem⟩ := List.exists_mem_of_ne_nil _ hof.nonempty
    exact ⟨item.payoutItemId, PayoutTransactionRecord.covers_iff.mpr (List.mem_map_of_mem hitem)⟩
  · intro id t ht i hi
    obtain ⟨record, -, -, rfl, transaction, -, hof⟩ := hrecord id t ht
    obtain ⟨item, hitem, rfl⟩ := hof.known i (PayoutTransactionRecord.covers_iff.mp hi)
    exact hitems item.id (List.mem_map_of_mem hitem)
  · intro id t ht id' u hu hb
    obtain ⟨record, hr, -, rfl, transaction, -, hof⟩ := hrecord id t ht
    exact hattempts record hr id' u hu (hb.trans hof.batchId.symm)
  · intro id t ht id' u hu hseq hattempt
    obtain ⟨record, hr, hid, rfl, -⟩ := hrecord id t ht
    obtain ⟨other, ho, hid', rfl, -⟩ := hrecord id' u hu
    have hsame : other = record := List.inj_on_of_nodup_map h.attempts ho hr
      (Prod.ext hseq hattempt)
    rw [← hid, ← hid', hsame]
  · intro id t ht id' u hu i hi hi'
    obtain ⟨record, hr, -, rfl, -⟩ := hrecord id t ht
    obtain ⟨other, ho, -, rfl, -⟩ := hrecord id' u hu
    exact h.sequences other ho record hr i (PayoutTransactionRecord.covers_iff.mp hi')
      (PayoutTransactionRecord.covers_iff.mp hi)
  · intro id t ht
    obtain ⟨record, -, -, rfl, transaction, htransaction, hof⟩ := hrecord id t ht
    refine ⟨transaction, htransaction, hof.sequence, fun i hi => ?_⟩
    have hmem := PayoutTransactionRecord.covers_iff.mp hi
    rw [hof.itemIds, SaveSignedPayoutTransactionsInput.paidItemIds] at hmem
    rw [Payouts.Asks]
    split at hmem
    · rename_i hwhole
      rw [if_pos hwhole]
      exact hitems i hmem
    · rename_i hwhole
      rw [if_neg hwhole]
      exact hmem
  · intro hnodup id t ht id' u hu hseq
    obtain ⟨record, hr, hid, rfl, -⟩ := hrecord id t ht
    obtain ⟨other, ho, hid', rfl, -⟩ := hrecord id' u hu
    have hsame : other = record :=
      List.inj_on_of_nodup_map (h.sequences_nodup hnodup) ho hr hseq
    rw [← hid, ← hid', hsame]

end Split402

import Split402.Proof.MemoryPayouts
import Split402.Proof.PayoutSigning
import Split402.Proof.PostgresPayouts

/-! # No item is signed twice

A saving call checks its transactions against each other, and looks at the stored ones only for a
repeated id, sequence or attempt; the status of the batch is not read. So a second signature for an
item is kept out by the callers: `signsSafely` says what they have to see to, and in the runs that
do, no item is covered by two transactions that may land. -/

namespace Split402

open Base

variable {host : Host} {env : CallEnv}

/-! ## What the callers have to see to -/

/-- The transactions of the call are compared with the live stored ones as with each other: they
have sequences of their own, and an item keeps to its sequence. -/
def SaveSignedPayoutTransactionsInput.agreesWith (input : SaveSignedPayoutTransactionsInput)
    (batchItemIds : List String) (stored : List PayoutTransactionRecord) : Bool :=
  decide (input.transactions.map SaveSignedPayoutTransactionInput.sequence).Nodup &&
    input.transactions.all (fun transaction => stored.all (fun existing =>
      existing.status.isDead || (existing.sequence != transaction.sequence &&
        (input.paidItemIds batchItemIds transaction).all (fun id => !existing.covers id))))

/-- Writing the status keeps a finalized transaction finalized, and revives a dead one only when
no other live transaction pays one of its items. -/
def PayoutTransactionRecord.keepsPayments (existing : PayoutTransactionRecord)
    (status : PayoutTransactionStatus) (stored : List PayoutTransactionRecord) : Bool :=
  (existing.status != .finalized || status == .finalized) &&
    (!existing.status.isDead || status.isDead || stored.all (fun other =>
      other.id == existing.id || other.status.isDead ||
        existing.itemIds.all (fun id => !other.covers id)))

/-- The mark of a listed transaction keeps what is paid. -/
def markKeepsPayments (stored : List PayoutTransactionRecord) (id : String)
    (status : PayoutTransactionStatus) : Bool :=
  stored.all (fun existing => existing.id != id || existing.keepsPayments status stored)

section Disciplined

variable {p : Payouts} {stored : List PayoutTransactionRecord}

theorem agreesWith_signsSafely {input : SaveSignedPayoutTransactionsInput}
    {signed : String → Option SignedTransaction} {batchItemIds : List String}
    (hby : p.SignedBy input signed) (hlists : p.Lists input.payoutBatchId stored)
    (hitems : ∀ i s, p.item input.payoutBatchId i s → i ∈ batchItemIds)
    (hbatch : p.batch input.payoutBatchId ≠ some .cancelled)
    (h : input.agreesWith batchItemIds stored = true) :
    p.SignsSafely input.payoutBatchId signed := by
  rw [SaveSignedPayoutTransactionsInput.agreesWith, Bool.and_eq_true, decide_eq_true_eq] at h
  obtain ⟨hnodup, hall⟩ := h
  -- a live stored transaction has another sequence, and pays nothing the call asks for
  have hlive : ∀ id t, signed id = some t → ∀ id' u, p.transaction id' = some u →
      u.batchId = input.payoutBatchId → u.isLive →
      u.sequence ≠ t.sequence ∧ ∀ i, t.pays i → ¬ u.pays i := by
    intro id t ht id' u hu hb hu'
    obtain ⟨transaction, hmem, hseq, hpays⟩ := hby.asked id t ht
    obtain ⟨existing, hexisting, -, rfl⟩ := (hlists id' u).mp ⟨hu, hb⟩
    have hcheck := List.all_eq_true.mp (List.all_eq_true.mp hall transaction hmem) existing hexisting
    have hdead : existing.status.isDead = false := hu'
    simp only [hdead, Bool.false_or, Bool.and_eq_true, bne_iff_ne, List.all_eq_true,
      Bool.not_eq_true'] at hcheck
    refine ⟨hseq ▸ hcheck.1, fun i hi hcovers => ?_⟩
    have hasked := hpays i hi
    have hpaid : i ∈ input.paidItemIds batchItemIds transaction := by
      rw [SaveSignedPayoutTransactionsInput.paidItemIds]
      rw [Payouts.Asks] at hasked
      split
      · rename_i hwhole
        rw [if_pos hwhole] at hasked
        obtain ⟨s, hs⟩ := hasked
        exact hitems i s hs
      · rename_i hwhole
        rw [if_neg hwhole] at hasked
        exact hasked
    have hnot := hcheck.2 i hpaid
    rw [show existing.covers i = true from hcovers] at hnot
    cases hnot
  refine ⟨hbatch, ?_, ?_, hby.sequences hnodup⟩
  · intro id t ht id' u hu hb hseq hu'
    exact (hlive id t ht id' u hu hb hu').1 hseq
  · intro id t ht id' u hu hb hu' i hi hi'
    exact absurd hi' ((hlive id t ht id' u hu hb hu').2 i hi)

theorem markKeepsPayments_marksSafely {id : String} {t : SignedTransaction}
    {status : PayoutTransactionStatus} {rolls : Bool} (hlists : p.Lists t.batchId stored)
    (ht : p.transaction id = some t) (h : markKeepsPayments stored id status = true)
    (hbatch : rolls = true → p.batch t.batchId ≠ some .cancelled) :
    p.MarksSafely id status rolls t := by
  obtain ⟨existing, hexisting, hid, rfl⟩ := (hlists id t).mp ⟨ht, rfl⟩
  have hkeeps := List.all_eq_true.mp h existing hexisting
  rw [hid, bne_self_eq_false, Bool.false_or, PayoutTransactionRecord.keepsPayments,
    Bool.and_eq_true] at hkeeps
  obtain ⟨hfinal, hrevives⟩ := hkeeps
  refine ⟨?_, ?_, hbatch⟩
  · intro hwas
    have hwas' : existing.status = .finalized := hwas
    simpa [hwas'] using hfinal
  · intro hdead hlive id' u hu hne hb hu' i hi hi'
    obtain ⟨other, hother, hoid, rfl⟩ := (hlists id' u).mp ⟨hu, hb⟩
    have hwas : existing.status.isDead = true := by
      simpa [SignedTransaction.isLive, PayoutTransactionRecord.signed] using hdead
    have hu'' : other.status.isDead = false := hu'
    have hids : (other.id == existing.id) = false := by
      rw [hoid, hid]
      exact beq_false_of_ne hne
    rw [hwas, hlive, Bool.not_true, Bool.false_or, Bool.false_or] at hrevives
    have hcheck := List.all_eq_true.mp hrevives other hother
    rw [hids, hu'', Bool.false_or, Bool.false_or] at hcheck
    have hnot := List.all_eq_true.mp hcheck i (PayoutTransactionRecord.covers_iff.mp hi)
    rw [show other.covers i = true from hi'] at hnot
    cases hnot

end Disciplined

/-! ## The in-memory store -/

namespace Memory

variable {store store' : Memory}

/-- The call signs no item a second time. -/
def signsSafely (host : Host) (store : Memory) (call : StoreCall) : Bool :=
  match call.op with
  | .saveSignedPayoutTransactions input =>
      (store.payoutBatchesById.find? input.payoutBatchId).all (fun batch =>
        batch.status != .cancelled && input.agreesWith (batch.items.map PayoutItemRecord.id)
          (store.listPayoutTransactions host input.payoutBatchId))
  | .markPayoutTransactionSubmitted input =>
      (store.payoutTransactionsById.find? input.id).all (fun existing =>
        markKeepsPayments (store.listPayoutTransactions host existing.payoutBatchId) input.id
          .submitted)
  | .markPayoutTransactionFinality input =>
      (store.payoutTransactionsById.find? input.id).all (fun existing =>
        !input.admits existing ||
          (markKeepsPayments (store.listPayoutTransactions host existing.payoutBatchId) input.id
            input.status.toStatus &&
          (store.payoutBatchesById.find? existing.payoutBatchId).all (fun batch =>
            batch.status != .cancelled)))
  | _ => true

/-- Live transactions of a batch pay different items. -/
def PaysOnce (store : Memory) : Prop :=
  ∀ t ∈ store.payoutTransactionsById, ∀ u ∈ store.payoutTransactionsById,
    t.status.isDead = false → u.status.isDead = false → u.payoutBatchId = t.payoutBatchId →
    ∀ i, t.covers i = true → u.covers i = true → u = t

theorem batch_ne_cancelled {b : String}
    (h : (store.payoutBatchesById.find? b).all (fun batch => batch.status != .cancelled) = true) :
    store.payouts.batch b ≠ some .cancelled := by
  intro hcancelled
  obtain ⟨batch, hfind, hstatus⟩ := payouts_batch_eq_some.mp hcancelled
  rw [hfind, Option.all_some, hstatus] at h
  cases h

/-- A safe call makes a disciplined move. -/
theorem disciplined (host : Host) {call : StoreCall} {move : Payouts.Move}
    {p' : Payouts} (hstep : store.payouts.Step move p')
    (hmakes : store.payouts.Makes false call.op move)
    (hsafe : store.signsSafely host call = true) : store.payouts.Disciplined move := by
  obtain ⟨env, op⟩ := call
  cases move with
  | idle => trivial
  | create batchId => trivial
  | release batchId => trivial
  | sign batchId signed =>
      obtain ⟨input, rfl, rfl, hby⟩ := hmakes
      cases hfind : store.payoutBatchesById.find? input.payoutBatchId with
      | none =>
          -- without a batch there are no items to sign for
          have hsigns : store.payouts.Signs input.payoutBatchId signed p' := hstep
          have hnone : ∀ id, signed id = none := by
            intro id
            cases ht : signed id with
            | none => rfl
            | some t =>
                obtain ⟨i, hi⟩ := hsigns.paysSome id t ht
                obtain ⟨s, batch, hbatch, -⟩ := hsigns.paysItems id t ht i hi
                rw [hfind] at hbatch
                cases hbatch
          refine ⟨?_, ?_, ?_, ?_⟩
          · rw [payouts_batch_eq_none.mpr hfind]
            exact fun h => nomatch h
          · intro id t ht
            rw [hnone id] at ht
            cases ht
          · intro id t ht
            rw [hnone id] at ht
            cases ht
          · intro id t ht
            rw [hnone id] at ht
            cases ht
      | some batch =>
          rw [signsSafely] at hsafe
          simp only [hfind, Option.all_some, Bool.and_eq_true, bne_iff_ne] at hsafe
          refine agreesWith_signsSafely hby (payouts_lists host store _) ?_ ?_ hsafe.2
          · exact fun i s hi => (payouts_itemIds_of_find hfind).mp ⟨s, hi⟩
          · rw [payouts_batch_of_find hfind]
            exact fun h => hsafe.1 (Option.some.inj h)
  | mark id status rolls =>
      intro t ht
      obtain ⟨existing, hfind, rfl⟩ := payouts_transaction_eq_some.mp ht
      rcases hmakes with ⟨input, rfl, rfl, rfl, rfl⟩ | ⟨input, rfl, rfl, rfl, rfl, hexpected⟩
      · rw [signsSafely] at hsafe
        simp only [hfind, Option.all_some] at hsafe
        exact markKeepsPayments_marksSafely (payouts_lists host store _) ht hsafe
          (fun h => nomatch h)
      · have hadmits : input.admits existing = true := by
          rw [MarkPayoutTransactionFinalityInput.admits]
          cases he : input.expectedStatus with
          | none => rfl
          | some expected =>
              rw [Option.all_some, beq_iff_eq]
              exact hexpected existing.signed ht expected he
        rw [signsSafely] at hsafe
        simp only [hfind, Option.all_some, hadmits, Bool.not_true, Bool.false_or,
          Bool.and_eq_true] at hsafe
        exact markKeepsPayments_marksSafely (payouts_lists host store _) ht hsafe.1
          (fun _ => batch_ne_cancelled hsafe.2)

theorem reachable_signingInv (h : (system host).Reachable
    (fun store call => store.signsSafely host call = true) store) :
    store.payouts.Distinct ∧ store.payouts.SigningInv := by
  refine System.Reachable.invariant
    (P := fun store => store.payouts.Distinct ∧ store.payouts.SigningInv) h ?_ ?_
  · rintro store rfl
    refine ⟨?_, ?_, ?_, ?_⟩
    · intro id t ht
      cases ht
    · intro id t ht
      cases ht
    · rintro b i ⟨batch, hfind, -⟩
      cases hfind
    · rintro b i ⟨batch, hfind, -⟩
      cases hfind
  · rintro store call store' - ⟨hdistinct, hinv⟩ hsafe ⟨hfresh, rfl⟩
    obtain ⟨move, hstep, hmakes⟩ := next_payouts host hdistinct hfresh
    exact ⟨hstep.distinct hdistinct, hstep.signingInv (disciplined host hstep hmakes hsafe) hinv⟩

theorem paysOnce_of_signingInv (h : store.payouts.SigningInv) : store.PaysOnce := by
  intro t ht u hu hlive hlive' hb i hi hi'
  have hid : u.id = t.id := h.single t.id t.signed
    (payouts_transaction_of_find (Table.find?_of_mem ht)) hlive u.id u.signed
    (payouts_transaction_of_find (Table.find?_of_mem hu)) hlive' hb i hi hi'
  exact Table.eq_of_key hu ht hid

/-- A saved transaction pays items that are neither released nor finalized, and that no other
transaction of the batch pays that may still land. -/
def SignsFresh (store store' : Memory) (payoutBatchId : String) : Prop :=
  ∀ saved ∈ store'.payoutTransactionsById, store.payoutTransactionsById.find? saved.id = none →
    saved.payoutBatchId = payoutBatchId ∧ ∀ i, saved.covers i = true →
      (∀ batch, store.payoutBatchesById.find? payoutBatchId = some batch →
        ∀ item ∈ batch.items, item.id = i → item.status ≠ .released ∧ item.status ≠ .finalized) ∧
      ∀ other ∈ store.payoutTransactionsById, other.payoutBatchId = payoutBatchId →
        other.covers i = true → other.status.isDead = true

theorem signsFresh (hinv : store.payouts.SigningInv)
    {input : SaveSignedPayoutTransactionsInput}
    (hsafe : store.signsSafely host ⟨env, .saveSignedPayoutTransactions input⟩ = true)
    {records : List PayoutTransactionRecord}
    (h : store.saveSignedPayoutTransactions host env input = .ok (records, store')) :
    SignsFresh store store' input.payoutBatchId := by
  obtain ⟨batch, hsaves⟩ := saveSignedPayoutTransactions_eq_ok h
  obtain ⟨hsigns, hby⟩ := save_move hsaves
  have hstep : store.payouts.Step (.sign input.payoutBatchId (signedById records))
      store'.payouts := hsigns
  have hmakes : store.payouts.Makes false (.saveSignedPayoutTransactions input)
      (.sign input.payoutBatchId (signedById records)) := ⟨input, rfl, rfl, hby⟩
  have hsafely := @disciplined _ host ⟨env, .saveSignedPayoutTransactions input⟩ _ _ hstep hmakes
    hsafe
  intro saved hsaved hnew
  have hstored := payouts_transaction_of_find (Table.find?_of_mem hsaved)
  have hsigned : signedById records saved.id = some saved.signed := by
    rcases hsigns.transaction_eq_some.mp hstored with hold | hnew'
    · obtain ⟨record, hfind, -⟩ := payouts_transaction_eq_some.mp hold
      rw [hnew] at hfind
      cases hfind
    · exact hnew'
  refine ⟨hsigns.ofBatch _ _ hsigned, fun i hi => ?_⟩
  obtain ⟨hreleased, hfinalized, hothers⟩ := Payouts.Signs.fresh hsafely hinv hsigned hi
  refine ⟨?_, ?_⟩
  · intro batch' hfind item hitem hid
    refine ⟨fun hs => hreleased ?_, fun hs => hfinalized ?_⟩
    · exact (payouts_item_of_find hfind).mpr ⟨item, hitem, hid, hs⟩
    · exact (payouts_item_of_find hfind).mpr ⟨item, hitem, hid, hs⟩
  · intro other hother hb hcovers
    have hdead := hothers other.id other.signed
      (payouts_transaction_of_find (Table.find?_of_mem hother)) hb hcovers
    simpa [SignedTransaction.isLive, PayoutTransactionRecord.signed] using hdead

end Memory

/-! ## The Postgres store -/

namespace Db

variable {db db' reads : Db}

/-- The ids of the items of a batch. -/
def batchItemIds (db : Db) (batchId : String) : List String :=
  (db.payoutItems.rows.filter (fun row => row.payoutBatchId = batchId)).map PayoutItemRow.id

/-- Live transactions pay different items. -/
def PaysOnce (db : Db) : Prop :=
  ∀ t ∈ db.payoutTransactions, ∀ u ∈ db.payoutTransactions,
    t.status.isDead = false → u.status.isDead = false →
    ∀ i, db.Pays t.id i → db.Pays u.id i → u = t

theorem mem_batchItemIds {batchId i : String} {s : PayoutItemStatus}
    (h : db.payouts.item batchId i s) : i ∈ db.batchItemIds batchId := by
  obtain ⟨row, hrow, hb, rfl, -⟩ := h
  exact List.mem_map_of_mem (List.mem_filter.mpr ⟨hrow, decide_eq_true hb⟩)

theorem batch_ne_cancelled {b : String}
    (h : (db.payoutBatches.find? b).all (fun row => row.status != .cancelled) = true) :
    db.payouts.batch b ≠ some .cancelled := by
  intro hcancelled
  obtain ⟨row, hfind, hstatus⟩ := Option.map_eq_some_iff.mp hcancelled
  rw [hfind, Option.all_some, hstatus] at h
  cases h

/-- An item belongs to one batch. -/
theorem payouts_item_batch {b c i : String} {s s' : PayoutItemStatus}
    (h : db.payouts.item b i s) (h' : db.payouts.item c i s') : c = b := by
  obtain ⟨row, hrow, hb, hid, -⟩ := h
  obtain ⟨other, hother, hc, hid', -⟩ := h'
  have hsame : other = row := Table.eq_of_key hother hrow (hid'.trans hid.symm)
  rw [← hb, ← hc, hsame]

/-- Transactions that pay one item are of one batch. -/
theorem batchId_of_pays (hpays : db.payouts.PaysItems) {t u : PayoutTransactionRow}
    (ht : t ∈ db.payoutTransactions) (hu : u ∈ db.payoutTransactions) {i : String}
    (hi : db.Pays t.id i) (hi' : db.Pays u.id i) : u.payoutBatchId = t.payoutBatchId := by
  obtain ⟨s, hs⟩ := hpays t.id (db.signedOf t)
    (payouts_transaction_of_find (Table.find?_of_mem ht)) i hi
  obtain ⟨s', hs'⟩ := hpays u.id (db.signedOf u)
    (payouts_transaction_of_find (Table.find?_of_mem hu)) i hi'
  exact payouts_item_batch hs hs'

theorem paysOnce_of_signingInv (hpays : db.payouts.PaysItems) (h : db.payouts.SigningInv) :
    db.PaysOnce := by
  intro t ht u hu hlive hlive' i hi hi'
  have hid : u.id = t.id := h.single t.id (db.signedOf t)
    (payouts_transaction_of_find (Table.find?_of_mem ht)) hlive u.id (db.signedOf u)
    (payouts_transaction_of_find (Table.find?_of_mem hu)) hlive'
    (batchId_of_pays hpays ht hu hi hi') i hi hi'
  exact Table.eq_of_key hu ht hid

/-- A saved transaction pays items that are neither released nor finalized, and that no other
transaction pays that may still land. -/
def SignsFresh (db db' : Db) (payoutBatchId : String) : Prop :=
  ∀ saved ∈ db'.payoutTransactions, db.payoutTransactions.find? saved.id = none →
    saved.payoutBatchId = payoutBatchId ∧ ∀ i, db'.Pays saved.id i →
      (∀ item ∈ db.payoutItems, item.id = i →
        item.status ≠ .released ∧ item.status ≠ .finalized) ∧
      ∀ other ∈ db.payoutTransactions, db.Pays other.id i → other.status.isDead = true

end Db

namespace Timeline

variable {timeline : Timeline}

/-- The call signs no item a second time. -/
def signsSafely (host : Host) (timeline : Timeline) (request : Request) : Bool :=
  match request.call.op with
  | .saveSignedPayoutTransactions input =>
      (timeline.current.payoutBatches.find? input.payoutBatchId).all (fun row =>
        row.status != .cancelled) &&
        input.agreesWith (timeline.current.batchItemIds input.payoutBatchId)
          (timeline.current.listPayoutTransactions host input.payoutBatchId)
  | .markPayoutTransactionSubmitted input =>
      (timeline.current.payoutTransactions.find? input.id).all (fun existing =>
        markKeepsPayments (timeline.current.listPayoutTransactions host existing.payoutBatchId)
          input.id .submitted &&
          (timeline.current.payoutBatches.find? existing.payoutBatchId).all (fun row =>
            row.status != .cancelled))
  | .markPayoutTransactionFinality input =>
      (timeline.current.payoutTransactions.find? input.id).all (fun existing =>
        !input.expectedStatus.all (· == existing.status) ||
          (markKeepsPayments (timeline.current.listPayoutTransactions host existing.payoutBatchId)
            input.id input.status.toStatus &&
          (timeline.current.payoutBatches.find? existing.payoutBatchId).all (fun row =>
            row.status != .cancelled)))
  | _ => true

/-- A safe call makes a disciplined move. -/
theorem disciplined (host : Host) {request : Request} {move : Payouts.Move}
    (hmakes : timeline.current.payouts.Makes true request.call.op move)
    (hsafe : timeline.signsSafely host request = true) :
    timeline.current.payouts.Disciplined move := by
  obtain ⟨reads, env, op⟩ := request
  cases move with
  | idle => trivial
  | create batchId => trivial
  | release batchId => trivial
  | sign batchId signed =>
      obtain ⟨input, rfl, rfl, hby⟩ := hmakes
      rw [signsSafely, Bool.and_eq_true] at hsafe
      exact agreesWith_signsSafely hby (Db.payouts_lists host _ _)
        (fun i s hi => Db.mem_batchItemIds hi) (Db.batch_ne_cancelled hsafe.1) hsafe.2
  | mark id status rolls =>
      intro t ht
      obtain ⟨existing, hfind, rfl⟩ := Db.payouts_transaction_eq_some.mp ht
      rcases hmakes with ⟨input, rfl, rfl, rfl, rfl⟩ | ⟨input, rfl, rfl, rfl, rfl, hexpected⟩
      · rw [signsSafely] at hsafe
        simp only [hfind, Option.all_some, Bool.and_eq_true] at hsafe
        exact markKeepsPayments_marksSafely (Db.payouts_lists host _ _) ht hsafe.1
          (fun _ => Db.batch_ne_cancelled hsafe.2)
      · have hadmits : input.expectedStatus.all (· == existing.status) = true := by
          cases he : input.expectedStatus with
          | none => rfl
          | some expected =>
              rw [Option.all_some, beq_iff_eq]
              exact hexpected (timeline.current.signedOf existing) ht expected he
        rw [signsSafely] at hsafe
        simp only [hfind, Option.all_some, hadmits, Bool.not_true, Bool.false_or,
          Bool.and_eq_true] at hsafe
        exact markKeepsPayments_marksSafely (Db.payouts_lists host _ _) ht hsafe.1
          (fun _ => Db.batch_ne_cancelled hsafe.2)

/-- What a disciplined run of the database keeps. -/
structure SignsInv (timeline : Timeline) : Prop where
  payouts : timeline.PayoutsInv
  paysItems : timeline.current.payouts.PaysItems
  signing : timeline.current.payouts.SigningInv

theorem reachable_signsInv (h : (system host).Reachable
    (fun timeline request => timeline.signsSafely host request = true) timeline) :
    timeline.SignsInv := by
  have hreach := h
  refine (System.Reachable.invariant (P := fun timeline => timeline.PayoutsInv →
    timeline.SignsInv) h ?_ ?_) (reachable_payoutsInv hreach)
  · rintro timeline ⟨merchants, wallets, rfl⟩ hinv
    refine ⟨hinv, ?_, ?_, ?_, ?_⟩
    · intro id t ht
      cases ht
    · intro id t ht
      cases ht
    · rintro b i ⟨row, hrow, -⟩
      exact absurd hrow Table.not_mem_empty
    · rintro b i ⟨row, hrow, -⟩
      exact absurd hrow Table.not_mem_empty
  · rintro timeline request timeline' hreach hkept hsafe ⟨hreads, -, rfl⟩ hnext
    have hinv := hkept (reachable_payoutsInv hreach)
    obtain ⟨move, ⟨hstep, hmakes⟩, -⟩ := next_payouts host hinv.payouts hreads
    exact ⟨hnext, hstep.paysItems hinv.paysItems,
      hstep.signingInv (disciplined host hmakes hsafe) hinv.signing⟩

theorem signsFresh (hinv : timeline.SignsInv) {request : Request}
    (hreads : request.reads ∈ timeline.versions)
    {input : SaveSignedPayoutTransactionsInput}
    (hop : request.call.op = .saveSignedPayoutTransactions input)
    (hsafe : timeline.signsSafely host request = true) {records : List PayoutTransactionRecord}
    {db' : Db}
    (h : Db.saveSignedPayoutTransactions host request.call.env request.reads timeline.current
      input = .ok (records, db')) :
    Db.SignsFresh timeline.current db' input.payoutBatchId := by
  obtain ⟨batch, hsaves⟩ := Db.saveSignedPayoutTransactions_eq_ok h
  obtain ⟨hsigns, hby⟩ := Db.save_move hinv.payouts.mappingsKnown
    (hinv.payouts.persists request.reads hreads) hsaves
  have hsafely : timeline.current.payouts.Disciplined
      (.sign input.payoutBatchId (signedById records)) :=
    disciplined host ⟨input, hop, rfl, hby⟩ hsafe
  intro saved hsaved hnew
  have hstored := Db.payouts_transaction_of_find (Table.find?_of_mem hsaved)
  have hsigned : signedById records saved.id = some (db'.signedOf saved) := by
    rcases hsigns.transaction_eq_some.mp hstored with hold | hnew'
    · obtain ⟨row, hfind, -⟩ := Db.payouts_transaction_eq_some.mp hold
      rw [hnew] at hfind
      cases hfind
    · exact hnew'
  have hb : saved.payoutBatchId = input.payoutBatchId := hsigns.ofBatch _ _ hsigned
  refine ⟨hb, fun i hi => ?_⟩
  obtain ⟨hreleased, hfinalized, hothers⟩ := Payouts.Signs.fresh hsafely hinv.signing hsigned hi
  obtain ⟨s, hitem⟩ := hsigns.paysItems _ _ hsigned i hi
  refine ⟨?_, ?_⟩
  · intro item hmem hid
    -- the item of that id is the one of the batch
    have hitemBatch : item.payoutBatchId = input.payoutBatchId :=
      Db.payouts_item_batch hitem ⟨item, hmem, rfl, hid, rfl⟩
    exact ⟨fun hs => hreleased ⟨item, hmem, hitemBatch, hid, hs⟩,
      fun hs => hfinalized ⟨item, hmem, hitemBatch, hid, hs⟩⟩
  · intro other hother hpays
    have hfound := Db.payouts_transaction_of_find (Table.find?_of_mem hother)
    obtain ⟨s', hitem'⟩ := hinv.paysItems _ _ hfound i hpays
    have hdead := hothers other.id (timeline.current.signedOf other) hfound
      (Db.payouts_item_batch hitem hitem') hpays
    simpa [SignedTransaction.isLive, Db.signedOf] using hdead

end Timeline

section Runs

open Sample (idOf callsFrom signOne releaseSigned saveSigned markFinality)

/-- The transaction failed, and its item is signed again. -/
def signsRetry : List StoreOp :=
  signOne none ++ [markFinality 1 .failed none, saveSigned 1 2 0 2 none]

/-- Two live transactions of a batch pay one item. -/
def Memory.paysTwice (store : Memory) : Bool :=
  store.payoutTransactionsById.rows.any (fun t => store.payoutTransactionsById.rows.any (fun u =>
    t.id != u.id && !t.status.isDead && !u.status.isDead && u.payoutBatchId == t.payoutBatchId &&
      t.itemIds.any u.covers))

theorem Memory.not_paysOnce {store : Memory} (h : store.paysTwice = true) : ¬ store.PaysOnce := by
  intro honce
  obtain ⟨t, ht, h⟩ := List.any_eq_true.mp h
  obtain ⟨u, hu, h⟩ := List.any_eq_true.mp h
  simp only [Bool.and_eq_true, bne_iff_ne, Bool.not_eq_true', beq_iff_eq, List.any_eq_true] at h
  obtain ⟨⟨⟨⟨hne, hlive⟩, hlive'⟩, hb⟩, i, hi, hi'⟩ := h
  have hsame := honce t ht u hu hlive hlive' hb i (PayoutTransactionRecord.covers_iff.mpr hi) hi'
  exact hne (hsame ▸ rfl)

/-- Two live transactions pay one item. -/
def Db.paysTwice (db : Db) : Bool :=
  db.payoutTransactions.rows.any (fun t => db.payoutTransactions.rows.any (fun u =>
    t.id != u.id && !t.status.isDead && !u.status.isDead &&
      db.payoutTransactionItems.rows.any (fun m => db.payoutTransactionItems.rows.any (fun n =>
        m.payoutTransactionId == t.id && n.payoutTransactionId == u.id &&
          m.payoutItemId == n.payoutItemId))))

theorem Db.not_paysOnce {db : Db} (h : db.paysTwice = true) : ¬ db.PaysOnce := by
  intro honce
  obtain ⟨t, ht, h⟩ := List.any_eq_true.mp h
  obtain ⟨u, hu, h⟩ := List.any_eq_true.mp h
  simp only [Bool.and_eq_true, bne_iff_ne, Bool.not_eq_true', beq_iff_eq, List.any_eq_true] at h
  obtain ⟨⟨⟨hne, hlive⟩, hlive'⟩, m, hm, n, hn, ⟨hmt, hnu⟩, hitem⟩ := h
  have hsame := honce t ht u hu hlive hlive' n.payoutItemId ⟨m, hm, hmt, hitem⟩ ⟨n, hn, hnu, rfl⟩
  exact hne (hsame ▸ rfl)

/-- A second transaction for the item is signed while the first is out. -/
def signsTwice : List StoreOp := signOne none ++ [saveSigned 1 2 1 1 none]

/-- The item of a released batch is signed again. -/
def signsReleased : List StoreOp := releaseSigned ++ [saveSigned 1 2 0 2 none]

/-- The last transaction pays a released item. -/
def Memory.signsReleasedItem (store : Memory) (n : Nat) : Bool :=
  (store.payoutTransactionsById.find? (idOf "ptx" n)).any (fun saved =>
    (store.payoutBatchesById.find? saved.payoutBatchId).any (fun batch =>
      batch.items.any (fun item => saved.covers item.id && item.status == .released)))

/-- The last transaction pays a released item. -/
def Db.signsReleasedItem (db : Db) (n : Nat) : Bool :=
  db.payoutTransactionItems.rows.any (fun mapping =>
    mapping.payoutTransactionId == idOf "ptx" n &&
      db.payoutItems.rows.any (fun item =>
        item.id == mapping.payoutItemId && item.status == .released))

end Runs

end Split402

import Mathlib.Data.List.Pairwise
import Split402.Base.Except
import Split402.Payouts.Finality
import Split402.Payouts.Signed

/-! # The records a saving call makes

`planSignedPayoutTransactions` reads the signed transactions of one call in two loops: one makes the
records and rejects a repeated sequence and attempt, the other ties each record to items of the
batch and rejects an item that two sequences pay. Both remember only what this call has shown them.
`planSignedPayoutTransactions_eq_ok` says what their checks add up to. -/

namespace Split402

open Base

variable {host : Host} {env : CallEnv}

/-- The ids of the items a record pays. -/
def PayoutTransactionRecord.itemIds (record : PayoutTransactionRecord) : List String :=
  record.items.map PayoutTransactionItemRecord.payoutItemId

theorem PayoutTransactionRecord.covers_iff {record : PayoutTransactionRecord} {id : String} :
    record.covers id = true ↔ id ∈ record.itemIds := by
  simp [covers, itemIds]

/-- The ids of the items a signed transaction names. -/
def SaveSignedPayoutTransactionInput.itemIds (transaction : SaveSignedPayoutTransactionInput) :
    List String :=
  (transaction.items.getD []).map SaveSignedPayoutTransactionItemInput.payoutItemId

/-! ## Records -/

/-- What a record takes from its signed transaction. -/
structure RecordOf (payoutBatchId : String) (transaction : SaveSignedPayoutTransactionInput)
    (record : PayoutTransactionRecord) : Prop where
  batchId : record.payoutBatchId = payoutBatchId
  sequence : record.sequence = transaction.sequence
  attempt : record.attempt = readAttempt transaction
  status : record.status = .signed
  itemIds : record.itemIds = transaction.itemIds

theorem assertNonNegativeInteger_eq_ok {value n : Int} {label : String}
    (h : assertNonNegativeInteger value label = .ok n) : n = value := by
  unfold assertNonNegativeInteger at h
  split at h
  · exact absurd h throw_ne_ok
  · exact (pure_eq_ok.mp h).symm

theorem assertPositiveInteger_eq_ok {value n : Int} {label : String}
    (h : assertPositiveInteger value label = .ok n) : n = value := by
  unfold assertPositiveInteger at h
  split at h
  · exact absurd h throw_ne_ok
  · exact (pure_eq_ok.mp h).symm

theorem readSignedPayoutTransactionItem_eq_ok {id : String}
    {item : SaveSignedPayoutTransactionItemInput} {record : PayoutTransactionItemRecord}
    (h : readSignedPayoutTransactionItem id item = .ok record) :
    item.payoutItemId = record.payoutItemId := by
  rw [readSignedPayoutTransactionItem] at h
  obtain ⟨payoutItemId, hid, h⟩ := bind_eq_ok.mp h
  obtain ⟨amount, -, h⟩ := bind_eq_ok.mp h
  obtain ⟨wallet, -, h⟩ := bind_eq_ok.mp h
  obtain ⟨account, -, h⟩ := bind_eq_ok.mp h
  rw [pure_eq_ok] at h
  rw [← h]
  exact (assertSplit402Id_eq_ok.mp hid).2

/-- One turn: the record, with a sequence and attempt this call has not seen. -/
theorem createSignedPayoutTransactionRecord_eq_ok {idFactory : Option (Nat → String)}
    {payoutBatchId createdAt : String} {state state' : SignedRecordsState}
    {transaction : SaveSignedPayoutTransactionInput} {record : PayoutTransactionRecord}
    (h : createSignedPayoutTransactionRecord env idFactory payoutBatchId createdAt state
      transaction = .ok (record, state')) :
    RecordOf payoutBatchId transaction record ∧
      (record.sequence, record.attempt) ∉ state.sequenceAttempts ∧
      state'.sequenceAttempts = (record.sequence, record.attempt) :: state.sequenceAttempts := by
  rw [createSignedPayoutTransactionRecord] at h
  obtain ⟨sequence, hseq, h⟩ := bind_eq_ok.mp h
  obtain ⟨attempt, hattempt, h⟩ := bind_eq_ok.mp h
  split at h
  · exact absurd h throw_ne_ok
  rename_i hseen
  obtain ⟨signature, -, h⟩ := bind_eq_ok.mp h
  obtain ⟨id, -, h⟩ := bind_eq_ok.mp h
  obtain ⟨blockhash, -, h⟩ := bind_eq_ok.mp h
  obtain ⟨height, -, h⟩ := bind_eq_ok.mp h
  obtain ⟨bytes, -, h⟩ := bind_eq_ok.mp h
  obtain ⟨items, hitems, h⟩ := bind_eq_ok.mp h
  rw [pure_eq_ok] at h
  injection h with hr hs
  subst hr hs
  refine ⟨⟨rfl, assertNonNegativeInteger_eq_ok hseq, assertPositiveInteger_eq_ok hattempt, rfl, ?_⟩,
    hseen, rfl⟩
  exact (map_eq_of_mapM hitems fun _ _ => readSignedPayoutTransactionItem_eq_ok).symm

theorem createSignedRecords_eq_ok {idFactory : Option (Nat → String)}
    {payoutBatchId createdAt : String} {transactions : List SaveSignedPayoutTransactionInput}
    {state : SignedRecordsState} {records : List PayoutTransactionRecord}
    (h : createSignedRecords env idFactory payoutBatchId createdAt state transactions =
      .ok records) :
    List.Forall₂ (RecordOf payoutBatchId) transactions records ∧
      (records.map (fun r => (r.sequence, r.attempt))).Nodup ∧
      ∀ record ∈ records, (record.sequence, record.attempt) ∉ state.sequenceAttempts := by
  induction transactions generalizing state records with
  | nil =>
      rw [createSignedRecords, pure_eq_ok] at h
      subst h
      exact ⟨.nil, List.nodup_nil, by simp⟩
  | cons transaction rest ih =>
      rw [createSignedRecords] at h
      obtain ⟨⟨record, state'⟩, hrecord, hrest⟩ := bind_eq_ok.mp h
      obtain ⟨records', hrecords, hpure⟩ := bind_eq_ok.mp hrest
      rw [pure_eq_ok] at hpure
      subst hpure
      obtain ⟨hof, hnew, hstate⟩ := createSignedPayoutTransactionRecord_eq_ok hrecord
      obtain ⟨hforall, hnodup, hnews⟩ := ih hrecords
      rw [hstate] at hnews
      refine ⟨.cons hof hforall, ?_, ?_⟩
      · rw [List.map_cons, List.nodup_cons]
        refine ⟨?_, hnodup⟩
        intro hmem
        obtain ⟨other, hother, he⟩ := List.mem_map.mp hmem
        exact hnews other hother (he ▸ List.mem_cons_self)
      · intro other hother
        rcases List.mem_cons.mp hother with rfl | hother
        · exact hnew
        · exact fun hmem => hnews other hother (List.mem_cons_of_mem _ hmem)

/-! ## Mappings -/

/-- What one turn of the mapping loop has checked. -/
theorem attachMapping_eq_ok {batch : PayoutBatchRecord} {transaction : PayoutTransactionRecord}
    {state state' : MappingState} {mapping item : PayoutTransactionItemRecord}
    (h : attachMapping batch transaction state mapping = .ok (item, state')) :
    item.payoutItemId = mapping.payoutItemId ∧ item.payoutTransactionId = transaction.id ∧
    (∃ payoutItem ∈ batch.items, payoutItem.id = mapping.payoutItemId) ∧
    (∀ sequence, state.sequenceByPayoutItemId.lookup mapping.payoutItemId = some sequence →
      sequence = transaction.sequence) ∧
    state'.sequenceByPayoutItemId =
      (mapping.payoutItemId, transaction.sequence) :: state.sequenceByPayoutItemId := by
  unfold attachMapping at h
  dsimp only at h
  split at h
  · exact absurd h throw_ne_ok
  rename_i payoutItem hfind
  split at h
  · exact absurd h throw_ne_ok
  split at h
  · exact absurd h throw_ne_ok
  rename_i hseq
  split at h
  · exact absurd h throw_ne_ok
  split at h
  · exact absurd h throw_ne_ok
  split at h
  · exact absurd h throw_ne_ok
  rw [pure_eq_ok] at h
  injection h with hi hs
  subst hi hs
  have hid := List.find?_some hfind
  refine ⟨rfl, rfl, ⟨payoutItem, List.mem_reverse.mp (List.mem_of_find?_eq_some hfind),
    by simpa using hid⟩, ?_, rfl⟩
  intro sequence hlookup
  rw [hlookup] at hseq
  simpa using hseq

/-- The loop over the mappings of one transaction: every item is known and belongs to this
sequence, and what earlier transactions were mapped to is remembered. -/
theorem attachMappings_eq_ok {batch : PayoutBatchRecord} {transaction : PayoutTransactionRecord}
    {mappings : List PayoutTransactionItemRecord} {state state' : MappingState}
    {items : List PayoutTransactionItemRecord}
    (h : attachMappings batch transaction state mappings = .ok (items, state')) :
    items.map PayoutTransactionItemRecord.payoutItemId =
      mappings.map PayoutTransactionItemRecord.payoutItemId ∧
    (∀ item ∈ items, item.payoutTransactionId = transaction.id) ∧
    (∀ item ∈ items, ∃ payoutItem ∈ batch.items, payoutItem.id = item.payoutItemId) ∧
    (∀ item ∈ items, ∀ sequence,
      state.sequenceByPayoutItemId.lookup item.payoutItemId = some sequence →
      sequence = transaction.sequence) ∧
    (∀ item ∈ items, state'.sequenceByPayoutItemId.lookup item.payoutItemId =
      some transaction.sequence) ∧
    (∀ id sequence, state.sequenceByPayoutItemId.lookup id = some sequence →
      state'.sequenceByPayoutItemId.lookup id = some sequence) := by
  induction mappings generalizing state items with
  | nil =>
      rw [attachMappings, pure_eq_ok] at h
      injection h with hi hs
      subst hi hs
      exact ⟨rfl, by simp, by simp, by simp, by simp, fun _ _ h => h⟩
  | cons mapping rest ih =>
      rw [attachMappings] at h
      obtain ⟨⟨item, mid⟩, hitem, hrest⟩ := bind_eq_ok.mp h
      obtain ⟨⟨items', last⟩, hitems, hpure⟩ := bind_eq_ok.mp hrest
      rw [pure_eq_ok] at hpure
      injection hpure with hi hs
      subst hi hs
      obtain ⟨hid, howner, hknown, hseq, hmid⟩ := attachMapping_eq_ok hitem
      obtain ⟨hids, howners, hknowns, hseqs, hlookups, hkept⟩ := ih hitems
      -- the entry this mapping adds says what an older entry of its item said
      have hmidKept : ∀ id sequence, state.sequenceByPayoutItemId.lookup id = some sequence →
          mid.sequenceByPayoutItemId.lookup id = some sequence := by
        intro id sequence hlookup
        rw [hmid, List.lookup_cons]
        by_cases hk : id = mapping.payoutItemId
        · subst hk
          rw [hseq sequence hlookup]
          simp
        · rw [beq_false_of_ne hk]
          exact hlookup
      refine ⟨?_, ?_, ?_, ?_, ?_, ?_⟩
      · rw [List.map_cons, List.map_cons, hids, hid]
      · intro other hother
        rcases List.mem_cons.mp hother with rfl | hother
        · exact howner
        · exact howners other hother
      · intro other hother
        rcases List.mem_cons.mp hother with rfl | hother
        · exact hid ▸ hknown
        · exact hknowns other hother
      · intro other hother sequence hlookup
        rcases List.mem_cons.mp hother with rfl | hother
        · exact hseq sequence (hid ▸ hlookup)
        · exact hseqs other hother sequence (hmidKept _ _ hlookup)
      · intro other hother
        rcases List.mem_cons.mp hother with rfl | hother
        · refine hkept _ _ ?_
          rw [hmid, List.lookup_cons, hid]
          simp
        · exact hlookups other hother
      · exact fun id sequence hlookup => hkept _ _ (hmidKept _ _ hlookup)

/-- A record with its checked mappings. -/
structure Attached (batch : PayoutBatchRecord) (defaultAllItems : Bool)
    (transaction record : PayoutTransactionRecord) : Prop where
  withItems : record = { transaction with items := record.items }
  itemIds : record.itemIds =
    if defaultAllItems then batch.items.map PayoutItemRecord.id else transaction.itemIds
  nonempty : record.items ≠ []
  owned : ∀ item ∈ record.items, item.payoutTransactionId = record.id
  known : ∀ id ∈ record.itemIds, ∃ item ∈ batch.items, item.id = id

/-- The loop over the transactions: no item is mapped to two sequences. -/
theorem attachTransactions_eq_ok {batch : PayoutBatchRecord} {defaultAllItems : Bool}
    {transactions : List PayoutTransactionRecord} {sequences : List (String × Int)}
    {records : List PayoutTransactionRecord}
    (h : attachTransactions batch defaultAllItems sequences transactions = .ok records) :
    List.Forall₂ (Attached batch defaultAllItems) transactions records ∧
    (∀ r ∈ records, ∀ id ∈ r.itemIds, ∀ sequence, sequences.lookup id = some sequence →
      sequence = r.sequence) ∧
    records.Pairwise (fun r s => ∀ id ∈ r.itemIds, id ∈ s.itemIds → r.sequence = s.sequence) := by
  induction transactions generalizing sequences records with
  | nil =>
      rw [attachTransactions, pure_eq_ok] at h
      subst h
      exact ⟨.nil, by simp, .nil⟩
  | cons transaction rest ih =>
      rw [attachTransactions] at h
      dsimp only at h
      generalize hraw : (if defaultAllItems = true then
        batch.items.map (wholeItemMapping transaction.id) else transaction.items) = rawItems at h
      split at h
      · exact absurd h throw_ne_ok
      rename_i hne
      obtain ⟨⟨items, state⟩, hattach, hrest⟩ := bind_eq_ok.mp h
      obtain ⟨records', hrecords, hpure⟩ := bind_eq_ok.mp hrest
      rw [pure_eq_ok] at hpure
      subst hpure
      obtain ⟨hids, howned, hknown, hseq, hlookup, hkept⟩ := attachMappings_eq_ok hattach
      obtain ⟨hforall, hseqs, hpair⟩ := ih hrecords
      have hmem : ∀ id, id ∈ ({ transaction with items := items } :
          PayoutTransactionRecord).itemIds → ∃ item ∈ items, item.payoutItemId = id := by
        intro id hid
        exact List.mem_map.mp hid
      refine ⟨.cons ⟨rfl, ?_, ?_, howned, ?_⟩ hforall, ?_, ?_⟩
      · change items.map PayoutTransactionItemRecord.payoutItemId = _
        rw [hids, ← hraw]
        split
        · rw [List.map_map]
          rfl
        · rfl
      · rintro rfl
        rw [List.map_nil] at hids
        exact hne (List.map_eq_nil_iff.mp hids.symm)
      · intro id hid
        obtain ⟨item, hitem, rfl⟩ := hmem id hid
        exact hknown item hitem
      · intro r hr id hid sequence hs
        rcases List.mem_cons.mp hr with rfl | hr
        · obtain ⟨item, hitem, rfl⟩ := hmem id hid
          exact hseq item hitem sequence hs
        · exact hseqs r hr id hid sequence (hkept _ _ hs)
      · refine .cons ?_ hpair
        intro s hs id hid hid'
        obtain ⟨item, hitem, rfl⟩ := hmem id hid
        exact hseqs s hs _ hid' _ (hlookup item hitem)

/-! ## The whole call -/

/-- The single transaction of the call names no items: it pays the whole batch. -/
def SaveSignedPayoutTransactionsInput.paysWholeBatch (input : SaveSignedPayoutTransactionsInput) :
    Bool :=
  match input.transactions with
  | [transaction] => transaction.itemIds.isEmpty
  | _ => false

/-- The items a transaction of the call pays, of a batch with these items. -/
def SaveSignedPayoutTransactionsInput.paidItemIds (input : SaveSignedPayoutTransactionsInput)
    (batchItemIds : List String) (transaction : SaveSignedPayoutTransactionInput) : List String :=
  if input.paysWholeBatch then batchItemIds else transaction.itemIds

/-- What a record takes from its signed transaction and the batch. -/
structure SignedRecordOf (input : SaveSignedPayoutTransactionsInput) (batch : PayoutBatchRecord)
    (transaction : SaveSignedPayoutTransactionInput) (record : PayoutTransactionRecord) :
    Prop where
  batchId : record.payoutBatchId = input.payoutBatchId
  sequence : record.sequence = transaction.sequence
  status : record.status = .signed
  itemIds : record.itemIds =
    input.paidItemIds (batch.items.map PayoutItemRecord.id) transaction
  nonempty : record.items ≠ []
  owned : ∀ item ∈ record.items, item.payoutTransactionId = record.id
  known : ∀ id ∈ record.itemIds, ∃ item ∈ batch.items, item.id = id

/-- What the checks of a call say of its records. -/
structure PlansSigned (input : SaveSignedPayoutTransactionsInput) (batch : PayoutBatchRecord)
    (records : List PayoutTransactionRecord) : Prop where
  ofInput : ∃ transactions, transactions.Perm input.transactions ∧
    List.Forall₂ (SignedRecordOf input batch) transactions records
  attempts : (records.map (fun r => (r.sequence, r.attempt))).Nodup
  sequences : ∀ r ∈ records, ∀ s ∈ records, ∀ id ∈ r.itemIds, id ∈ s.itemIds →
    r.sequence = s.sequence

theorem itemIds_isEmpty {record : PayoutTransactionRecord} :
    record.items.isEmpty = record.itemIds.isEmpty := by
  rw [PayoutTransactionRecord.itemIds, List.isEmpty_map]

/-- The records of a call are mapped to the whole batch when the call names no items. -/
theorem attachPayoutTransactionItemMappings_eq {input : SaveSignedPayoutTransactionsInput}
    {transactions : List SaveSignedPayoutTransactionInput} {payoutBatchId : String}
    {records : List PayoutTransactionRecord} (batch : PayoutBatchRecord)
    (hperm : transactions.Perm input.transactions)
    (h : List.Forall₂ (RecordOf payoutBatchId) transactions records) :
    attachPayoutTransactionItemMappings records batch =
      attachTransactions batch input.paysWholeBatch [] records := by
  unfold attachPayoutTransactionItemMappings
  rw [SaveSignedPayoutTransactionsInput.paysWholeBatch]
  cases h with
  | nil => rw [← hperm.nil_eq]
  | cons hrecord hrest =>
      cases hrest with
      | nil =>
          rw [← hperm.singleton_eq]
          dsimp only
          rw [itemIds_isEmpty, hrecord.itemIds]
      | cons hnext hrest =>
          have hlength := hperm.length_eq
          match hinput : input.transactions with
          | [] => rfl
          | [_] => simp [hinput] at hlength
          | _ :: _ :: _ => rfl

/-- What the two loops say of each record. -/
theorem signedRecordOf_of_attached {input : SaveSignedPayoutTransactionsInput}
    {batch : PayoutBatchRecord} {transactions : List SaveSignedPayoutTransactionInput}
    {created records : List PayoutTransactionRecord}
    (hcreated : List.Forall₂ (RecordOf input.payoutBatchId) transactions created)
    (hattached : List.Forall₂ (Attached batch input.paysWholeBatch) created records) :
    List.Forall₂ (SignedRecordOf input batch) transactions records := by
  induction hcreated generalizing records with
  | nil =>
      cases hattached
      exact .nil
  | cons hrecord _ ih =>
      cases hattached with
      | cons hhead hrest =>
          refine .cons ⟨?_, ?_, ?_, ?_, hhead.nonempty, hhead.owned, hhead.known⟩ (ih hrest)
          · rw [hhead.withItems]
            exact hrecord.batchId
          · rw [hhead.withItems]
            exact hrecord.sequence
          · rw [hhead.withItems]
            exact hrecord.status
          · rw [hhead.itemIds, hrecord.itemIds]
            rfl

theorem attempts_of_attached {batch : PayoutBatchRecord} {defaultAllItems : Bool}
    {created records : List PayoutTransactionRecord}
    (h : List.Forall₂ (Attached batch defaultAllItems) created records) :
    records.map (fun r => (r.sequence, r.attempt)) =
      created.map (fun r => (r.sequence, r.attempt)) := by
  induction h with
  | nil => rfl
  | cons hhead _ ih =>
      rw [List.map_cons, List.map_cons, ih, hhead.withItems]

theorem planSignedPayoutTransactions_eq_ok {input : SaveSignedPayoutTransactionsInput}
    {batch : PayoutBatchRecord} {records : List PayoutTransactionRecord}
    (h : planSignedPayoutTransactions host env input batch = .ok records) :
    PlansSigned input batch records := by
  rw [planSignedPayoutTransactions] at h
  obtain ⟨created, hcreated, h⟩ := bind_eq_ok.mp h
  rw [createSignedPayoutTransactionRecords] at hcreated
  obtain ⟨payoutBatchId, hid, hcreated⟩ := bind_eq_ok.mp hcreated
  obtain ⟨createdAt, -, hcreated⟩ := bind_eq_ok.mp hcreated
  split at hcreated
  · exact absurd hcreated throw_ne_ok
  obtain ⟨-, rfl⟩ := assertSplit402Id_eq_ok.mp hid
  obtain ⟨hrecords, hnodup, -⟩ := createSignedRecords_eq_ok hcreated
  have hperm := sortBy_perm (fun left right : SaveSignedPayoutTransactionInput =>
    (compare left.sequence right.sequence).then
      (compare (readAttempt left) (readAttempt right))) input.transactions
  rw [attachPayoutTransactionItemMappings_eq batch hperm hrecords] at h
  obtain ⟨hattached, -, hpair⟩ := attachTransactions_eq_ok h
  generalize sortBy (fun left right : SaveSignedPayoutTransactionInput =>
    (compare left.sequence right.sequence).then
      (compare (readAttempt left) (readAttempt right))) input.transactions = transactions
    at hperm hrecords
  refine ⟨⟨transactions, hperm, signedRecordOf_of_attached hrecords hattached⟩, ?_, ?_⟩
  · rw [attempts_of_attached hattached]
    exact hnodup
  · have hsymm : Std.Symm (fun r s : PayoutTransactionRecord =>
        ∀ id ∈ r.itemIds, id ∈ s.itemIds → r.sequence = s.sequence) :=
      ⟨fun _ _ hrs id hid hid' => (hrs id hid' hid).symm⟩
    intro r hr s hs id hid hid'
    by_cases hrs : r = s
    · rw [hrs]
    · exact hpair.forall hr hs hrs id hid hid'

/-- Every record comes from a transaction of the call. -/
theorem PlansSigned.exists_transaction {input : SaveSignedPayoutTransactionsInput}
    {batch : PayoutBatchRecord} {records : List PayoutTransactionRecord}
    (h : PlansSigned input batch records) {record : PayoutTransactionRecord}
    (hr : record ∈ records) :
    ∃ transaction ∈ input.transactions, SignedRecordOf input batch transaction record := by
  obtain ⟨transactions, hperm, hforall⟩ := h.ofInput
  obtain ⟨i, hi, rfl⟩ := List.mem_iff_getElem.mp hr
  have hlt : i < transactions.length := hforall.length_eq ▸ hi
  exact ⟨transactions[i], hperm.mem_iff.mp (List.getElem_mem hlt), hforall.get hlt hi⟩

/-- A call with different sequences makes records with different sequences. -/
theorem PlansSigned.sequences_nodup {input : SaveSignedPayoutTransactionsInput}
    {batch : PayoutBatchRecord} {records : List PayoutTransactionRecord}
    (h : PlansSigned input batch records)
    (hinput : (input.transactions.map SaveSignedPayoutTransactionInput.sequence).Nodup) :
    (records.map PayoutTransactionRecord.sequence).Nodup := by
  obtain ⟨transactions, hperm, hforall⟩ := h.ofInput
  have hsame : records.map PayoutTransactionRecord.sequence =
      transactions.map SaveSignedPayoutTransactionInput.sequence := by
    clear hperm h
    induction hforall with
    | nil => rfl
    | cons hhead _ ih => rw [List.map_cons, List.map_cons, ih, hhead.sequence]
  rw [hsame]
  exact (hperm.map _).nodup_iff.mpr hinput

end Split402

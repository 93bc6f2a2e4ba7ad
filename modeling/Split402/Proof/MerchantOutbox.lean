import Split402.Merchant.Outbox
import Split402.Base.Except
import Split402.Proof.ReceiptHash

/-! # A delivered receipt stays delivered

A record that is accepted or given up keeps its status, and no record loses attempts, as long as no
mark comes too late: a dispatch marks what it has claimed without a look at what became of it. -/

namespace Split402.MerchantDispatch

open Base Base.Async

variable {host : Host} {ν : Type} {runtime : Runtime ν} {zod : Zod} {store store' : MerchantOutbox}

/-! ## Marks -/

theorem assertUtc_eq_ok {value label result : String}
    (h : MerchantOutbox.assertUtc host value label = .ok result) : result = value := by
  unfold MerchantOutbox.assertUtc at h
  split at h
  · cases h
  · cases h
    rfl

/-- What a mark does to the record it finds. -/
def MarksAs (attempts : Nat) (status : MerchantReceiptOutboxStatus)
    (record updated : MerchantReceiptOutboxRecord) : Prop :=
  updated.id = record.id ∧ updated.attempts = attempts ∧ updated.status = status

/-- A mark leaves the outbox as it is, or changes one record. -/
theorem mark_spec {id : String} {attempts : Nat} {status : MerchantReceiptOutboxStatus}
    {change : MerchantReceiptOutboxRecord → Except String MerchantReceiptOutboxRecord}
    {answer : Except String (Option MerchantReceiptOutboxRecord)}
    (hchange : ∀ record updated, change record = .ok updated → MarksAs attempts status record updated)
    (h : served store (store.mark id change) = (store', answer)) :
    store' = store ∨ ∃ record updated, store.recordsById.find? id = some record ∧
      MarksAs attempts status record updated ∧
      store' = { store with recordsById := store.recordsById.upsert updated } := by
  unfold served MerchantOutbox.mark at h
  cases hfind : store.recordsById.find? id with
  | none =>
      rw [hfind] at h
      exact .inl (Prod.mk.inj h).1.symm
  | some record =>
      rw [hfind] at h
      dsimp only at h
      cases hupdated : change record with
      | error e =>
          rw [hupdated] at h
          exact .inl (Prod.mk.inj h).1.symm
      | ok updated =>
          rw [hupdated] at h
          exact .inr ⟨record, updated, rfl, hchange _ _ hupdated, (Prod.mk.inj h).1.symm⟩

/-- What serving an operation does to the records. -/
theorem serve_spec {call : DispatchCall} {op : Op} {answer : Except String op.Answer}
    (h : serve host call store op = (store', answer)) :
    store' = store ∨ ∃ id attempts status record updated, op.marks = some (id, attempts, status) ∧
      store.recordsById.find? id = some record ∧ MarksAs attempts status record updated ∧
      store' = { store with recordsById := store.recordsById.upsert updated } := by
  have hchanges : ∀ {id : String} {attempts : Nat} {status : MerchantReceiptOutboxStatus},
      op.marks = some (id, attempts, status) →
      (store' = store ∨ ∃ record updated, store.recordsById.find? id = some record ∧
        MarksAs attempts status record updated ∧
        store' = { store with recordsById := store.recordsById.upsert updated }) →
      store' = store ∨ ∃ id attempts status record updated,
        op.marks = some (id, attempts, status) ∧ store.recordsById.find? id = some record ∧
        MarksAs attempts status record updated ∧
        store' = { store with recordsById := store.recordsById.upsert updated } := by
    intro id attempts status hmarks hcases
    rcases hcases with rfl | ⟨record, updated, hfind, hmarked, hstore⟩
    · exact .inl rfl
    · exact .inr ⟨id, attempts, status, record, updated, hmarks, hfind, hmarked, hstore⟩
  cases op with
  | claimNextPending now => exact .inl (Prod.mk.inj h).1.symm
  | submitReceipt receipt => exact .inl (Prod.mk.inj h).1.symm
  | markAccepted id attempts now =>
      refine hchanges rfl (mark_spec ?_ h)
      intro record updated hupdated
      obtain ⟨_, -, hupdated⟩ := bind_eq_ok.mp hupdated
      cases hupdated
      exact ⟨rfl, rfl, rfl⟩
  | markRetry id attempts lastError nextAttemptAt now =>
      refine hchanges rfl (mark_spec ?_ h)
      intro record updated hupdated
      obtain ⟨_, -, hupdated⟩ := bind_eq_ok.mp hupdated
      obtain ⟨_, -, hupdated⟩ := bind_eq_ok.mp hupdated
      cases hupdated
      exact ⟨rfl, rfl, rfl⟩
  | markDeadLetter id attempts lastError now =>
      refine hchanges rfl (mark_spec ?_ h)
      intro record updated hupdated
      obtain ⟨_, -, hupdated⟩ := bind_eq_ok.mp hupdated
      cases hupdated
      exact ⟨rfl, rfl, rfl⟩

/-! ## Runs -/

/-- Every record is still there, with no fewer attempts, and with its status if that is final. -/
def StaysDelivered (s t : MerchantOutbox) : Prop :=
  ∀ record ∈ s.recordsById, ∃ record' ∈ t.recordsById, record'.id = record.id ∧
    record.attempts ≤ record'.attempts ∧ (record.status ≠ .pending → record'.status = record.status)

theorem StaysDelivered.refl (s : MerchantOutbox) : StaysDelivered s s :=
  fun record hrecord => ⟨record, hrecord, rfl, Nat.le_refl _, fun _ => rfl⟩

theorem StaysDelivered.trans {s t u : MerchantOutbox} (h : StaysDelivered s t)
    (h' : StaysDelivered t u) : StaysDelivered s u := by
  intro record hrecord
  obtain ⟨middle, hmiddle, hid, hattempts, hstatus⟩ := h record hrecord
  obtain ⟨last, hlast, hid', hattempts', hstatus'⟩ := h' middle hmiddle
  refine ⟨last, hlast, hid'.trans hid, Nat.le_trans hattempts hattempts', ?_⟩
  intro hfinal
  have hsame := hstatus hfinal
  rw [← hsame] at hfinal
  exact (hstatus' hfinal).trans hsame

/-- An outbox with one record changed for the better. -/
theorem staysDelivered_upsert {updated : MerchantReceiptOutboxRecord}
    (h : ∀ record ∈ store.recordsById, record.id = updated.id →
      record.attempts ≤ updated.attempts ∧
        (record.status ≠ .pending → updated.status = record.status))
    (hstore : store'.recordsById = store.recordsById.upsert updated) :
    StaysDelivered store store' := by
  intro record hrecord
  rw [hstore]
  by_cases hid : record.id = updated.id
  · obtain ⟨hattempts, hstatus⟩ := h record hrecord hid
    exact ⟨updated, Table.mem_upsert.mpr (.inl rfl), hid.symm, hattempts, hstatus⟩
  · exact ⟨record, Table.mem_upsert.mpr (.inr ⟨hrecord, hid⟩), rfl, Nat.le_refl _, fun _ => rfl⟩

/-- A step that overtakes no record keeps what is delivered. -/
theorem staysDelivered_of_step {pool pool' : Dispatches}
    {event : Pool.Event DispatchCall EnqueueMerchantReceiptInput}
    (hok : overtaken pool event = false)
    (hstep : (dispatchSystem host runtime zod).step pool event pool') :
    StaysDelivered pool.shared pool'.shared := by
  cases hstep with
  | start c => exact .refl _
  | @resume i c op resume u answer hi hserve =>
      rcases serve_spec hserve with heq | ⟨id, attempts, status, record, updated, hmarks, hfind,
        ⟨hid, hattempts, hstatus⟩, heq⟩
      · show StaysDelivered _ u
        rw [heq]
        exact .refl _
      · rw [overtaken, hi] at hok
        dsimp only at hok
        rw [tooLate, hmarks] at hok
        simp only [Option.any_some, hfind, Bool.or_eq_false_iff, decide_eq_false_iff_not, not_lt,
          Bool.and_eq_false_iff, bne_eq_false_iff_eq] at hok
        refine staysDelivered_upsert ?_ (congrArg MerchantOutbox.recordsById heq)
        intro other hother hsame
        obtain rfl : other = record := by
          have hkey := Table.find?_of_mem hother
          rw [hsame, hid, Table.key_of_find? hfind, hfind] at hkey
          exact (Option.some.inj hkey).symm
        refine ⟨hattempts.symm ▸ hok.1, ?_⟩
        intro hfinal
        rcases hok.2 with hpending | hagrees
        · exact absurd hpending hfinal
        · rw [hstatus, hagrees]
  | outside henqueue =>
      rename_i input u
      obtain ⟨record, henqueue⟩ := henqueue
      show StaysDelivered _ u
      unfold MerchantOutbox.enqueueReceipt at henqueue
      split at henqueue
      · cases henqueue
      · obtain ⟨receiptHash, -, henqueue⟩ := bind_eq_ok.mp henqueue
        split at henqueue
        · split at henqueue
          · cases henqueue
            exact .refl _
          · cases henqueue
        · rename_i hnone
          obtain ⟨now, -, henqueue⟩ := bind_eq_ok.mp henqueue
          obtain ⟨nextAttemptAt, -, henqueue⟩ := bind_eq_ok.mp henqueue
          cases henqueue
          -- a new record has a new id
          have hnew : pool.shared.recordsById.has (input.id.getD input.drawnId) = false := by
            have hreceipt : pool.shared.recordIdByReceiptId.has input.receipt.receiptId = false :=
              Table.has_eq_false.mpr (Table.find?_eq_none.mp hnone)
            rw [overtaken, hreceipt] at hok
            simpa using hok
          refine staysDelivered_upsert ?_ rfl
          intro other hother hsame
          exact absurd hsame (Table.has_eq_false.mp hnew other hother)

def sampleDispatcher : MerchantReceiptOutboxDispatcher := ⟨10, 60000, by decide, by decide⟩

/-- A dispatch whose submission is answered as given. -/
def sampleDispatch (submission : MerchantReceiptSubmissionResult) : DispatchCall :=
  ⟨sampleDispatcher, 1767225600000, .ok submission⟩

def sampleEnqueue : EnqueueMerchantReceiptInput where
  id := none
  receipt := Sample.freeSale
  now := none
  nextAttemptAt := none
  drawnId := "mro_00000000000000000000000000000001"
  clock := 1767225600000

def sampleRecord : MerchantReceiptOutboxRecord where
  id := "mro_00000000000000000000000000000001"
  receiptId := Sample.freeSale.receiptId
  receiptHash := "sha256:b0d669a9916071831d30cf05a87dad5bc78f544a386b95bdcd78c26c6f64c7f6"
  receiptJson := Sample.freeSale
  attempts := 0
  nextAttemptAt := "2026-01-01T00:00:00.000Z"
  status := .pending
  createdAt := "2026-01-01T00:00:00.000Z"
  updatedAt := "2026-01-01T00:00:00.000Z"
  lastError := none

/-- An outbox with one sale. -/
def sampleOutbox : MerchantOutbox :=
  ⟨⟨[sampleRecord], List.nodup_singleton _⟩,
    ⟨[(sampleRecord.receiptId, sampleRecord.id)], List.nodup_singleton _⟩⟩

theorem enqueue_sample : MerchantOutbox.empty.enqueueReceipt isoHost Sample.saleRuntime Sample.zod
    sampleEnqueue = .ok (sampleRecord, sampleOutbox) := by
  have hhash : hashReceipt Sample.saleRuntime Sample.freeSale = .ok sampleRecord.receiptHash := by
    rw [hashReceipt_eq Sample.saleRuntime_standard]
    rfl
  have hnow : isoHost.toISOString sampleEnqueue.clock = sampleRecord.createdAt := by decide
  have hutc : ∀ label, MerchantOutbox.assertUtc isoHost sampleRecord.createdAt label =
      .ok sampleRecord.createdAt := by
    intro label
    exact if_neg (by decide)
  have hnone : sampleEnqueue.now = none ∧ sampleEnqueue.nextAttemptAt = none := ⟨rfl, rfl⟩
  have hreceipt : sampleEnqueue.receipt = Sample.freeSale := rfl
  unfold MerchantOutbox.enqueueReceipt
  rw [hreceipt, Sample.freeSale_schema, hhash, hnone.1, hnone.2, Option.getD_none, hnow]
  show (do
    let now ← MerchantOutbox.assertUtc isoHost sampleRecord.createdAt "now"
    let nextAttemptAt ← MerchantOutbox.assertUtc isoHost now "nextAttemptAt"
    _ : Except String (MerchantReceiptOutboxRecord × MerchantOutbox)) = _
  rw [hutc]
  rfl

/-- The pool that a schedule of dispatches over the outbox leads to. -/
def dispatched (schedule : List (Pool.Event DispatchCall EnqueueMerchantReceiptInput)) :
    Dispatches :=
  schedule.foldl (Pool.advance (serve isoHost) (fun _ _ => none) (dispatchNext isoHost))
    ⟨sampleOutbox, []⟩

/-- The runs of the sample. -/
abbrev sampleSystem : System Dispatches (Pool.Event DispatchCall EnqueueMerchantReceiptInput) :=
  dispatchSystem isoHost Sample.saleRuntime Sample.zod

theorem dispatched_run {first rest : List (Pool.Event DispatchCall EnqueueMerchantReceiptInput)}
    {accept : Dispatches → Pool.Event DispatchCall EnqueueMerchantReceiptInput → Bool}
    (h : System.admittedAlong
      (Pool.advance (serve isoHost) (fun _ _ => none) (dispatchNext isoHost))
      (fun pool event => Pool.canAdvance
        (fun (_ : MerchantOutbox) (_ : EnqueueMerchantReceiptInput) => none) pool event &&
          accept pool event)
      (dispatched first) rest = true) :
    sampleSystem.Run (fun pool event => accept pool event = true) (dispatched first)
      (dispatched (first ++ rest)) := by
  have happend : dispatched (first ++ rest) = rest.foldl
      (Pool.advance (serve isoHost) (fun _ _ => none) (dispatchNext isoHost)) (dispatched first) :=
    List.foldl_append
  rw [happend]
  unfold sampleSystem dispatchSystem
  refine Pool.run_of_schedule ?_ ?_ h
  · exact fun _ _ _ _ _ => id
  · exact fun _ _ _ h => nomatch h

theorem sampleOutbox_reachable :
    sampleSystem.Reachable (fun _ _ => True) (dispatched []) := by
  have hinit : sampleSystem.init ⟨MerchantOutbox.empty, []⟩ := ⟨rfl, rfl⟩
  exact .step (.init hinit) trivial
    (show sampleSystem.step _ (.outside sampleEnqueue) _ from .outside ⟨_, enqueue_sample⟩)

/-- Both dispatches claim the sale; the first one has it accepted. -/
def acceptedFirst : List (Pool.Event DispatchCall EnqueueMerchantReceiptInput) :=
  [.start (sampleDispatch .accepted), .start (sampleDispatch (.retry "HTTP 503")), .resume 0,
    .resume 1, .resume 0, .resume 0]

end Split402.MerchantDispatch

import Split402.Merchant.Submissions
import Split402.Proof.MerchantOutbox

/-! # What becomes of a receipt

While one dispatch follows the other, a record counts the submissions of its receipt, and its status
is the verdict on their answers: accepted by an acceptance, given up by a rejection or by the last of
the attempts, and pending before. The invariant says so for every record but the one that a dispatch
has submitted and not marked yet. -/

namespace Split402.MerchantDispatch

open Base Base.Async

/-! ## Verdicts -/

/-- Every answer asks for another attempt. -/
def AllRetries (answers : List MerchantReceiptSubmissionResult) : Prop :=
  ∀ answer ∈ answers, ∃ error, answer = .retry error

/-- The status that the answers to the submissions of a receipt, in their order, amount to. -/
inductive Verdict (maxAttempts : Nat) :
    List MerchantReceiptSubmissionResult → MerchantReceiptOutboxStatus → Prop
  | pending {answers : List MerchantReceiptSubmissionResult} (hretries : AllRetries answers)
      (hlength : answers.length < maxAttempts) : Verdict maxAttempts answers .pending
  | accepted {answers : List MerchantReceiptSubmissionResult} (hretries : AllRetries answers)
      (hlength : answers.length < maxAttempts) : Verdict maxAttempts (answers ++ [.accepted]) .accepted
  | rejected {answers : List MerchantReceiptSubmissionResult} {error : String}
      (hretries : AllRetries answers) (hlength : answers.length < maxAttempts) :
      Verdict maxAttempts (answers ++ [.rejected error]) .deadLetter
  | exhausted {answers : List MerchantReceiptSubmissionResult} (hretries : AllRetries answers)
      (hlength : answers.length = maxAttempts) : Verdict maxAttempts answers .deadLetter

variable {maxAttempts : Nat}

theorem Verdict.length_le {answers : List MerchantReceiptSubmissionResult}
    {status : MerchantReceiptOutboxStatus} (h : Verdict maxAttempts answers status) :
    answers.length ≤ maxAttempts := by
  cases h with
  | pending _ hlength => omega
  | accepted _ hlength =>
      rw [List.length_append, List.length_singleton]
      omega
  | rejected _ hlength =>
      rw [List.length_append, List.length_singleton]
      omega
  | exhausted _ hlength => omega

theorem AllRetries.concat {answers : List MerchantReceiptSubmissionResult} (h : AllRetries answers)
    (error : String) : AllRetries (answers ++ [.retry error]) := by
  intro answer hanswer
  rcases List.mem_append.mp hanswer with hanswer | hanswer
  · exact h answer hanswer
  · exact ⟨error, List.mem_singleton.mp hanswer⟩

/-- The answers to the submissions of a receipt. -/
def answersFor (log : List Submission) (receiptId : String) :
    List (Except String MerchantReceiptSubmissionResult) :=
  (log.filter (·.receipt.receiptId = receiptId)).map (·.answer)

theorem answersFor_append (log : List Submission) (submission : Submission) (receiptId : String) :
    answersFor (log ++ [submission]) receiptId = answersFor log receiptId ++
      if submission.receipt.receiptId = receiptId then [submission.answer] else [] := by
  rw [answersFor, List.filter_append, List.map_append, answersFor]
  by_cases h : submission.receipt.receiptId = receiptId
  · simp [h]
  · simp [h]

/-! ## The invariant -/

section Invariant

variable {host : Host} {ν : Type} {runtime : Runtime ν} {zod : Zod} {store store' : MerchantOutbox}
  {log log' : List Submission}

/-- The records and the index by receipts belong together. -/
structure Indexed (store : MerchantOutbox) : Prop where
  record : ∀ record ∈ store.recordsById, record.receiptJson.receiptId = record.receiptId ∧
    store.recordIdByReceiptId.find? record.receiptId = some (record.receiptId, record.id)
  entry : ∀ entry ∈ store.recordIdByReceiptId, ∃ record ∈ store.recordsById,
    record.receiptId = entry.1

/-- A submission was of a pending record that was due. -/
def WasDue (host : Host) (submission : Submission) : Prop :=
  ∃ record, submission.record = some record ∧ record.receiptJson = submission.receipt ∧
    record.status = .pending ∧
    ∃ due, host.dateParse record.nextAttemptAt = some due ∧ due ≤ submission.clock

/-- What is submitted is a receipt of the outbox, in its time. -/
def LogOk (host : Host) (store : MerchantOutbox) (log : List Submission) : Prop :=
  ∀ submission ∈ log, WasDue host submission ∧
    store.recordIdByReceiptId.has submission.receipt.receiptId = true

/-- The record has counted the answers but those that are still open, and has their verdict. -/
def Counted (maxAttempts : Nat) (log : List Submission)
    (stillOpen : List MerchantReceiptSubmissionResult) (record : MerchantReceiptOutboxRecord) : Prop :=
  ∃ answers, answersFor log record.receiptId = (answers ++ stillOpen).map .ok ∧
    record.attempts = answers.length ∧ Verdict maxAttempts answers record.status

/-- Every record has counted all answers. -/
def Settled (maxAttempts : Nat) (store : MerchantOutbox) (log : List Submission) : Prop :=
  ∀ record ∈ store.recordsById, Counted maxAttempts log [] record

/-- Every record has counted all answers, but for one to this record. -/
def OpenAt (maxAttempts : Nat) (store : MerchantOutbox) (log : List Submission)
    (record : MerchantReceiptOutboxRecord) (answer : MerchantReceiptSubmissionResult) : Prop :=
  (record ∈ store.recordsById ∧ record.status = .pending ∧ Counted maxAttempts log [answer] record) ∧
    ∀ other ∈ store.recordsById, other.id ≠ record.id → Counted maxAttempts log [] other

/-- What a dispatch does with the record it has claimed. -/
def submitting (host : Host) (call : DispatchCall) (record : MerchantReceiptOutboxRecord) :
    Await MerchantReceiptOutboxDispatchResult := do
  let submission ← Await.submitReceipt record.receiptJson
  settle host call (host.toISOString call.clock) record submission

/-- How far a dispatch is. -/
inductive Stage (host : Host) (maxAttempts : Nat) (call : DispatchCall) (store : MerchantOutbox)
    (log : List Submission) : Await MerchantReceiptOutboxDispatchResult → Prop
  | claims (hsettled : Settled maxAttempts store log) :
      Stage host maxAttempts call store log (dispatchNext host call)
  | submits {record : MerchantReceiptOutboxRecord} (hsettled : Settled maxAttempts store log)
      (hrecord : record ∈ store.recordsById) (hpending : record.status = .pending)
      (hdue : ∃ due, host.dateParse record.nextAttemptAt = some due ∧ due ≤ call.clock) :
      Stage host maxAttempts call store log (submitting host call record)
  | marks {record : MerchantReceiptOutboxRecord} {answer : MerchantReceiptSubmissionResult}
      (hopen : OpenAt maxAttempts store log record answer) :
      Stage host maxAttempts call store log
        (settle host call (host.toISOString call.clock) record answer)

/-- A dispatch of an orderly run. -/
structure Fit (host : Host) (maxAttempts : Nat) (call : DispatchCall) : Prop where
  maxAttempts : call.dispatcher.maxAttempts = maxAttempts
  answers : ∃ answer, call.submission = .ok answer
  now : isDate host call.clock = true
  next : isDate host (call.clock + call.dispatcher.retryDelayMs) = true

/-- Nothing waits, and all is counted; or one dispatch waits. -/
inductive Orderly (host : Host) (maxAttempts : Nat) (pool : ObservedDispatches) : Prop
  | quiet (hdone : ∀ entry ∈ pool.calls, entry.2.waitsFor = none)
      (hsettled : Settled maxAttempts pool.shared.1 pool.shared.2)
  | busy {i : Nat} {call : DispatchCall} {program : Await MerchantReceiptOutboxDispatchResult}
      (hi : pool.calls[i]? = some (call, program)) (hfit : Fit host maxAttempts call)
      (hdone : ∀ (j : Nat) entry, pool.calls[j]? = some entry → j ≠ i → entry.2.waitsFor = none)
      (hstage : Stage host maxAttempts call pool.shared.1 pool.shared.2 program)

structure Invariant (host : Host) (maxAttempts : Nat) (pool : ObservedDispatches) : Prop where
  indexed : Indexed pool.shared.1
  logged : LogOk host pool.shared.1 pool.shared.2
  orderly : Orderly host maxAttempts pool

/-! ## Receipts are enqueued -/

/-- A record without attempts has been added for a receipt that is new. -/
structure Enqueued (store : MerchantOutbox) (record : MerchantReceiptOutboxRecord)
    (store' : MerchantOutbox) : Prop where
  receipt : store.recordIdByReceiptId.has record.receiptId = false
  id : store.recordsById.has record.id = false
  json : record.receiptJson.receiptId = record.receiptId
  attempts : record.attempts = 0
  status : record.status = .pending
  store' : store' = ⟨store.recordsById.upsert record,
    store.recordIdByReceiptId.upsert (record.receiptId, record.id)⟩

theorem enqueue_spec {input : EnqueueMerchantReceiptInput} {answer : MerchantReceiptOutboxRecord}
    (h : store.enqueueReceipt host runtime zod input = .ok (answer, store'))
    (hnew : (store.recordIdByReceiptId.has input.receipt.receiptId ||
      !store.recordsById.has (input.id.getD input.drawnId)) = true) :
    store' = store ∨ ∃ record, Enqueued store record store' := by
  unfold MerchantOutbox.enqueueReceipt at h
  split at h
  · cases h
  · obtain ⟨receiptHash, -, h⟩ := bind_eq_ok.mp h
    split at h
    · split at h
      · cases h
        exact .inl rfl
      · cases h
    · rename_i hnone
      obtain ⟨now, -, h⟩ := bind_eq_ok.mp h
      obtain ⟨nextAttemptAt, -, h⟩ := bind_eq_ok.mp h
      cases h
      have hreceipt : store.recordIdByReceiptId.has input.receipt.receiptId = false :=
        Table.has_eq_false.mpr (Table.find?_eq_none.mp hnone)
      rw [hreceipt, Bool.false_or, Bool.not_eq_true'] at hnew
      exact .inr ⟨_, hreceipt, hnew, rfl, rfl, rfl, rfl⟩

section Enqueued

variable {record : MerchantReceiptOutboxRecord} (henqueued : Enqueued store record store')

include henqueued

/-- The records after it: the new one, and the old ones under other ids. -/
theorem mem_enqueued {other : MerchantReceiptOutboxRecord} :
    other ∈ store'.recordsById ↔ other = record ∨ other ∈ store.recordsById := by
  rw [henqueued.store', Table.mem_upsert]
  constructor
  · intro h
    rcases h with h | ⟨h, -⟩
    · exact .inl h
    · exact .inr h
  · intro h
    rcases h with h | h
    · exact .inl h
    · exact .inr ⟨h, Table.has_eq_false.mp henqueued.id other h⟩

theorem indexed_enqueued (h : Indexed store) : Indexed store' := by
  constructor
  · intro other hother
    rcases (mem_enqueued henqueued).mp hother with hother | hother
    · subst hother
      refine ⟨henqueued.json, ?_⟩
      rw [henqueued.store', Table.find?_upsert, if_pos rfl]
    · obtain ⟨hjson, hfind⟩ := h.record other hother
      refine ⟨hjson, ?_⟩
      rw [henqueued.store', Table.find?_upsert, if_neg ?_]
      · exact hfind
      · intro heq
        exact Table.has_eq_false.mp henqueued.receipt _ (Table.mem_of_find? hfind) heq.symm
  · intro entry hentry
    rw [henqueued.store'] at hentry
    rcases Table.mem_upsert.mp hentry with hentry | ⟨hentry, -⟩
    · subst hentry
      exact ⟨record, (mem_enqueued henqueued).mpr (.inl rfl), rfl⟩
    · obtain ⟨other, hother, hsame⟩ := h.entry entry hentry
      exact ⟨other, (mem_enqueued henqueued).mpr (.inr hother), hsame⟩

theorem logOk_enqueued (h : LogOk host store log) : LogOk host store' log := by
  intro submission hsubmission
  obtain ⟨hdue, hhas⟩ := h submission hsubmission
  rw [henqueued.store']
  exact ⟨hdue, Table.has_upsert.mpr (.inr hhas)⟩

/-- Nothing has been submitted of a receipt that is new. -/
theorem counted_enqueued (hpos : 0 < maxAttempts) (h : LogOk host store log) :
    Counted maxAttempts log [] record := by
  have hnone : answersFor log record.receiptId = [] := by
    rw [answersFor, List.map_eq_nil_iff, List.filter_eq_nil_iff]
    intro submission hsubmission heq
    obtain ⟨-, hhas⟩ := h submission hsubmission
    rw [of_decide_eq_true heq, henqueued.receipt] at hhas
    cases hhas
  refine ⟨[], hnone, henqueued.attempts, ?_⟩
  rw [henqueued.status]
  exact .pending (fun _ => nofun) hpos

theorem settled_enqueued (hpos : 0 < maxAttempts) (h : LogOk host store log)
    (hsettled : Settled maxAttempts store log) : Settled maxAttempts store' log := by
  intro other hother
  rcases (mem_enqueued henqueued).mp hother with hother | hother
  · rw [hother]
    exact counted_enqueued henqueued hpos h
  · exact hsettled other hother

theorem stage_enqueued {call : DispatchCall} {program : Await MerchantReceiptOutboxDispatchResult}
    (hpos : 0 < maxAttempts) (h : LogOk host store log)
    (hstage : Stage host maxAttempts call store log program) :
    Stage host maxAttempts call store' log program := by
  cases hstage with
  | claims hsettled => exact .claims (settled_enqueued henqueued hpos h hsettled)
  | submits hsettled hrecord hpending hdue =>
      exact .submits (settled_enqueued henqueued hpos h hsettled)
        ((mem_enqueued henqueued).mpr (.inr hrecord)) hpending hdue
  | marks hopen =>
      obtain ⟨⟨hrecord, hpending, hcounted⟩, hothers⟩ := hopen
      refine .marks ⟨⟨(mem_enqueued henqueued).mpr (.inr hrecord), hpending, hcounted⟩, ?_⟩
      intro other hother hne
      rcases (mem_enqueued henqueued).mp hother with hother | hother
      · rw [hother]
        exact counted_enqueued henqueued hpos h
      · exact hothers other hother hne

end Enqueued

/-! ## A dispatch takes its steps -/

theorem assertUtc_of_isDate {ms : Int} (h : isDate host ms = true) (label : String) :
    MerchantOutbox.assertUtc host (host.toISOString ms) label = .ok (host.toISOString ms) := by
  simp only [isDate, Bool.and_eq_true, decide_eq_true_eq, beq_iff_eq] at h
  obtain ⟨⟨-, hutc⟩, hparse⟩ := h
  rw [MerchantOutbox.assertUtc, if_neg ?_]
  · rfl
  · rw [hparse]
    simp [hutc]

theorem dateParse_of_isDate {ms : Int} (h : isDate host ms = true) :
    host.dateParse (host.toISOString ms) = some ms := by
  simp only [isDate, Bool.and_eq_true, beq_iff_eq] at h
  exact h.2

/-- A claim finds nothing, or a pending record that is due. -/
theorem claim_spec {clock : Int} (h : isDate host clock = true) :
    store.claimNextPending host (host.toISOString clock) = .ok none ∨
      ∃ record, store.claimNextPending host (host.toISOString clock) = .ok (some record) ∧
        record ∈ store.recordsById ∧ record.status = .pending ∧
        ∃ due, host.dateParse record.nextAttemptAt = some due ∧ due ≤ clock := by
  unfold MerchantOutbox.claimNextPending
  rw [assertUtc_of_isDate h]
  dsimp only [bind, Except.bind]
  cases hhead : (sortBy (MerchantOutbox.comparePendingRecords host)
      (store.recordsById.rows.filter fun candidate => candidate.status = .pending &&
        (host.dateParse candidate.nextAttemptAt).any fun at' =>
          (host.dateParse (host.toISOString clock)).any (at' ≤ ·))).head? with
  | none => exact .inl rfl
  | some record =>
      have hmem := (mem_sortBy _).mp (List.mem_of_mem_head? hhead)
      rw [List.mem_filter, Bool.and_eq_true, dateParse_of_isDate h] at hmem
      obtain ⟨hrecord, hpending, hdue⟩ := hmem
      refine .inr ⟨record, rfl, hrecord, of_decide_eq_true hpending, ?_⟩
      cases hparse : host.dateParse record.nextAttemptAt with
      | none =>
          rw [hparse] at hdue
          cases hdue
      | some due =>
          rw [hparse] at hdue
          exact ⟨due, rfl, by simpa using hdue⟩

/-- A mark changes the record that is there. -/
theorem served_mark {record updated : MerchantReceiptOutboxRecord}
    {change : MerchantReceiptOutboxRecord → Except String MerchantReceiptOutboxRecord}
    (hrecord : record ∈ store.recordsById) (hchange : change record = .ok updated) :
    served store (store.mark record.id change) =
      ({ store with recordsById := store.recordsById.upsert updated }, .ok (some updated)) := by
  unfold served MerchantOutbox.mark
  rw [Table.find?_of_mem hrecord]
  dsimp only
  rw [hchange]
  rfl

/-- The answer has been counted, and has led to a verdict. -/
structure Marked (record updated : MerchantReceiptOutboxRecord) : Prop where
  id : updated.id = record.id
  receiptId : updated.receiptId = record.receiptId
  receiptJson : updated.receiptJson = record.receiptJson
  attempts : updated.attempts = record.attempts + 1

theorem indexed_marked {record updated : MerchantReceiptOutboxRecord} (h : Indexed store)
    (hrecord : record ∈ store.recordsById) (hmarked : Marked record updated) :
    Indexed { store with recordsById := store.recordsById.upsert updated } := by
  constructor
  · intro other hother
    rcases Table.mem_upsert.mp hother with hother | ⟨hother, -⟩
    · rw [hother, hmarked.receiptJson, hmarked.receiptId, hmarked.id]
      exact h.record record hrecord
    · exact h.record other hother
  · intro entry hentry
    obtain ⟨other, hother, hsame⟩ := h.entry entry hentry
    by_cases hid : other.id = updated.id
    · have heq : other = record := Table.eq_of_key hother hrecord (hid.trans hmarked.id)
      exact ⟨updated, Table.mem_upsert.mpr (.inl rfl), by rw [hmarked.receiptId, ← heq, hsame]⟩
    · exact ⟨other, Table.mem_upsert.mpr (.inr ⟨hother, hid⟩), hsame⟩

/-- With the open answer counted, all answers are. -/
theorem settled_marked {record updated : MerchantReceiptOutboxRecord}
    {answer : MerchantReceiptSubmissionResult} (hopen : OpenAt maxAttempts store log record answer)
    (hmarked : Marked record updated)
    (hverdict : ∀ answers, AllRetries answers → answers.length = record.attempts →
      answers.length < maxAttempts → Verdict maxAttempts (answers ++ [answer]) updated.status) :
    Settled maxAttempts { store with recordsById := store.recordsById.upsert updated } log := by
  obtain ⟨⟨hrecord, hpending, answers, hanswers, hattempts, hcounted⟩, hothers⟩ := hopen
  intro other hother
  rcases Table.mem_upsert.mp hother with hother | ⟨hother, hne⟩
  · rw [hpending] at hcounted
    cases hcounted with
    | pending hretries hlength =>
        rw [hother]
        refine ⟨answers ++ [answer], ?_, ?_, hverdict answers hretries hattempts.symm hlength⟩
        · rw [hmarked.receiptId, hanswers, List.append_nil]
        · rw [hmarked.attempts, hattempts, List.length_append, List.length_singleton]
  · exact hothers other hother fun h => hne (h.trans hmarked.id.symm)

theorem nextAttemptAt_of_fit {call : DispatchCall} (hfit : Fit host maxAttempts call) :
    nextAttemptAt host call (host.toISOString call.clock) =
    .ok (host.toISOString (call.clock + call.dispatcher.retryDelayMs)) := by
  have hnext := hfit.next
  simp only [isDate, Bool.and_eq_true, decide_eq_true_eq] at hnext
  rw [nextAttemptAt, dateParse_of_isDate hfit.now]
  exact if_pos hnext.1.1

/-- A dispatch that is at a stage waits. -/
theorem waits_of_stage {call : DispatchCall} {program : Await MerchantReceiptOutboxDispatchResult}
    (hfit : Fit host maxAttempts call) (hstage : Stage host maxAttempts call store log program) :
    program.waitsFor ≠ none := by
  cases hstage with
  | claims => exact nofun
  | submits => exact nofun
  | @marks record answer =>
      cases answer with
      | accepted => exact nofun
      | rejected error => exact nofun
      | retry error =>
          by_cases hlast : call.dispatcher.maxAttempts ≤ record.attempts + 1
          · rw [settle, if_pos hlast]
            exact nofun
          · rw [settle, if_neg hlast, nextAttemptAt_of_fit hfit]
            exact nofun

/-- What serving an operation of a dispatch leads to. -/
def LeadsTo (host : Host) (maxAttempts : Nat) (call : DispatchCall) (s : Observed)
    (program : Await MerchantReceiptOutboxDispatchResult) : Prop :=
  Indexed s.1 ∧ LogOk host s.1 s.2 ∧
    ((program.waitsFor = none ∧ Settled maxAttempts s.1 s.2) ∨
      Stage host maxAttempts call s.1 s.2 program)

section Resume

variable {call : DispatchCall} (hfit : Fit host maxAttempts call) (hindexed : Indexed store)
  (hlog : LogOk host store log)

include hfit hindexed hlog

theorem leadsTo_claimed (hsettled : Settled maxAttempts store log) {op : Op}
    {resume : Except String op.Answer → Await MerchantReceiptOutboxDispatchResult}
    (hprogram : dispatchNext host call = .await op resume) :
    LeadsTo host maxAttempts call (serveObserved host call (store, log) op).1
      (resume (serveObserved host call (store, log) op).2) := by
  cases hprogram
  have hlog' : (serveObserved host call (store, log)
      (.claimNextPending (host.toISOString call.clock))).1 = (store, log) := by
    show (store, log ++ []) = (store, log)
    rw [List.append_nil]
  rw [hlog']
  refine ⟨hindexed, hlog, ?_⟩
  show ((Async.waitsFor _ = none ∧ _) ∨ Stage _ _ _ _ _ _)
  have hanswer : (serveObserved host call (store, log)
      (.claimNextPending (host.toISOString call.clock))).2 =
        store.claimNextPending host (host.toISOString call.clock) := rfl
  rw [hanswer]
  rcases claim_spec hfit.now with hclaim | ⟨record, hclaim, hrecord, hpending, hdue⟩
  · rw [hclaim]
    exact .inl ⟨rfl, hsettled⟩
  · rw [hclaim]
    exact .inr (.submits hsettled hrecord hpending hdue)

theorem leadsTo_submitted {record : MerchantReceiptOutboxRecord}
    (hsettled : Settled maxAttempts store log) (hrecord : record ∈ store.recordsById)
    (hpending : record.status = .pending)
    (hdue : ∃ due, host.dateParse record.nextAttemptAt = some due ∧ due ≤ call.clock) {op : Op}
    {resume : Except String op.Answer → Await MerchantReceiptOutboxDispatchResult}
    (hprogram : submitting host call record = .await op resume) :
    LeadsTo host maxAttempts call (serveObserved host call (store, log) op).1
      (resume (serveObserved host call (store, log) op).2) := by
  cases hprogram
  obtain ⟨answer, hanswer⟩ := hfit.answers
  obtain ⟨hjson, hfind⟩ := hindexed.record record hrecord
  have hget : store.getByReceiptId record.receiptJson.receiptId = some record := by
    rw [hjson, MerchantOutbox.getByReceiptId, hfind, Option.bind_some, Table.find?_of_mem hrecord]
  have hserved : serveObserved host call (store, log) (.submitReceipt record.receiptJson) =
      ((store, log ++ [⟨record.receiptJson, call.clock, some record, .ok answer⟩]), .ok answer) := by
    rw [← hget, ← hanswer]
    rfl
  rw [hserved]
  refine ⟨hindexed, ?_, .inr (.marks ⟨⟨hrecord, hpending, ?_⟩, ?_⟩)⟩
  · intro submission hsubmission
    rcases List.mem_append.mp hsubmission with hsubmission | hsubmission
    · exact hlog submission hsubmission
    · rw [List.mem_singleton.mp hsubmission]
      refine ⟨⟨record, rfl, rfl, hpending, hdue⟩, ?_⟩
      rw [hjson]
      exact Table.has_eq_true.mpr ⟨_, Table.mem_of_find? hfind, rfl⟩
  · obtain ⟨answers, hanswers, hattempts, hverdict⟩ := hsettled record hrecord
    refine ⟨answers, ?_, hattempts, hverdict⟩
    rw [answersFor_append, if_pos hjson, hanswers, List.append_nil, List.map_append]
    rfl
  · intro other hother hne
    obtain ⟨answers, hanswers, hcounted⟩ := hsettled other hother
    refine ⟨answers, ?_, hcounted⟩
    rw [answersFor_append, if_neg ?_, List.append_nil, hanswers]
    intro heq
    -- a receipt has one record
    have hsame := (hindexed.record other hother).2
    rw [← heq, hjson, hfind] at hsame
    exact hne (congrArg Prod.snd (Option.some.inj hsame)).symm

omit hfit in
/-- A mark that goes through counts the answer and ends the dispatch. -/
theorem leadsTo_marked {record updated : MerchantReceiptOutboxRecord}
    {answer : MerchantReceiptSubmissionResult} (hopen : OpenAt maxAttempts store log record answer)
    {op : Op} {program : Await MerchantReceiptOutboxDispatchResult}
    {change : MerchantReceiptOutboxRecord → Except String MerchantReceiptOutboxRecord}
    (hserve : (serve host call store op).1 = (served store (store.mark record.id change)).1)
    (hchange : change record = .ok updated) (hsubmission : op.submission call store = none)
    (hmarked : Marked record updated) (hdone : program.waitsFor = none)
    (hverdict : ∀ answers, AllRetries answers → answers.length = record.attempts →
      answers.length < maxAttempts → Verdict maxAttempts (answers ++ [answer]) updated.status) :
    LeadsTo host maxAttempts call (serveObserved host call (store, log) op).1 program := by
  have hserved : (serveObserved host call (store, log) op).1 =
      ({ store with recordsById := store.recordsById.upsert updated }, log) := by
    rw [serveObserved, hserve, served_mark hopen.1.1 hchange, hsubmission, Option.toList_none,
      List.append_nil]
  rw [hserved]
  exact ⟨indexed_marked hindexed hopen.1.1 hmarked, hlog,
    .inl ⟨hdone, settled_marked hopen hmarked hverdict⟩⟩

theorem leadsTo_deadLetter {record : MerchantReceiptOutboxRecord} {lastError : String}
    {answer : MerchantReceiptSubmissionResult} (hopen : OpenAt maxAttempts store log record answer)
    (hverdict : ∀ answers, AllRetries answers → answers.length = record.attempts →
      answers.length < maxAttempts → Verdict maxAttempts (answers ++ [answer]) .deadLetter)
    {op : Op} {resume : Except String op.Answer → Await MerchantReceiptOutboxDispatchResult}
    (hprogram : deadLetter record lastError (host.toISOString call.clock) = .await op resume) :
    LeadsTo host maxAttempts call (serveObserved host call (store, log) op).1
      (resume (serveObserved host call (store, log) op).2) := by
  cases hprogram
  have hmarked : Marked record { record with
      attempts := record.attempts + 1
      status := .deadLetter
      updatedAt := host.toISOString call.clock
      lastError := some lastError } := ⟨rfl, rfl, rfl, rfl⟩
  refine leadsTo_marked hindexed hlog hopen rfl ?_ rfl hmarked ?_ hverdict
  · rw [assertUtc_of_isDate hfit.now]
    rfl
  · cases (serveObserved host call (store, log) (.markDeadLetter record.id (record.attempts + 1)
      lastError (host.toISOString call.clock))).2 <;> rfl

theorem leadsTo_settled {record : MerchantReceiptOutboxRecord}
    {answer : MerchantReceiptSubmissionResult} (hopen : OpenAt maxAttempts store log record answer)
    {op : Op} {resume : Except String op.Answer → Await MerchantReceiptOutboxDispatchResult}
    (hprogram : settle host call (host.toISOString call.clock) record answer = .await op resume) :
    LeadsTo host maxAttempts call (serveObserved host call (store, log) op).1
      (resume (serveObserved host call (store, log) op).2) := by
  cases answer with
  | accepted =>
      cases hprogram
      have hmarked : Marked record { record with
          attempts := record.attempts + 1
          status := .accepted
          updatedAt := host.toISOString call.clock
          lastError := none } := ⟨rfl, rfl, rfl, rfl⟩
      refine leadsTo_marked hindexed hlog hopen rfl ?_ rfl hmarked ?_ ?_
      · rw [assertUtc_of_isDate hfit.now]
        rfl
      · cases (serveObserved host call (store, log) (.markAccepted record.id (record.attempts + 1)
          (host.toISOString call.clock))).2 <;> rfl
      · intro answers hretries _ hlength
        exact .accepted hretries hlength
  | rejected lastError =>
      refine leadsTo_deadLetter hfit hindexed hlog hopen ?_ hprogram
      intro answers hretries _ hlength
      exact .rejected hretries hlength
  | retry lastError =>
      by_cases hlast : call.dispatcher.maxAttempts ≤ record.attempts + 1
      · rw [settle, if_pos hlast] at hprogram
        refine leadsTo_deadLetter hfit hindexed hlog hopen ?_ hprogram
        intro answers hretries hattempts hlength
        rw [hfit.maxAttempts] at hlast
        refine .exhausted (hretries.concat lastError) ?_
        rw [List.length_append, List.length_singleton]
        omega
      · rw [settle, if_neg hlast, nextAttemptAt_of_fit hfit] at hprogram
        cases hprogram
        have hmarked : Marked record { record with
            attempts := record.attempts + 1
            nextAttemptAt := host.toISOString (call.clock + call.dispatcher.retryDelayMs)
            status := .pending
            updatedAt := host.toISOString call.clock
            lastError := some lastError } := ⟨rfl, rfl, rfl, rfl⟩
        refine leadsTo_marked hindexed hlog hopen rfl ?_ rfl hmarked ?_ ?_
        · rw [assertUtc_of_isDate hfit.next, assertUtc_of_isDate hfit.now]
          rfl
        · cases (serveObserved host call (store, log) (.markRetry record.id (record.attempts + 1)
            lastError (host.toISOString (call.clock + call.dispatcher.retryDelayMs))
            (host.toISOString call.clock))).2 <;> rfl
        · intro answers hretries hattempts hlength
          rw [hfit.maxAttempts] at hlast
          refine .pending (hretries.concat lastError) ?_
          rw [List.length_append, List.length_singleton]
          omega

/-- A dispatch that is resumed goes on to its next stage or ends. -/
theorem leadsTo_resumed {program : Await MerchantReceiptOutboxDispatchResult}
    (hstage : Stage host maxAttempts call store log program) {op : Op}
    {resume : Except String op.Answer → Await MerchantReceiptOutboxDispatchResult}
    (hprogram : program = .await op resume) :
    LeadsTo host maxAttempts call (serveObserved host call (store, log) op).1
      (resume (serveObserved host call (store, log) op).2) := by
  cases hstage with
  | claims hsettled => exact leadsTo_claimed hfit hindexed hlog hsettled hprogram
  | submits hsettled hrecord hpending hdue =>
      exact leadsTo_submitted hfit hindexed hlog hsettled hrecord hpending hdue hprogram
  | marks hopen => exact leadsTo_settled hfit hindexed hlog hopen hprogram

end Resume

/-! ## Runs -/

/-- One dispatch at a time: a new one starts when all is counted. -/
theorem invariant_start {pool : ObservedDispatches} {call : DispatchCall}
    (h : Invariant host maxAttempts pool)
    (hok : orderly host maxAttempts pool (.start call) = true) :
    Invariant host maxAttempts { pool with calls := pool.calls ++ [(call, dispatchNext host call)] } := by
  obtain ⟨hindexed, hlog, horderly⟩ := h
  simp only [orderly, Bool.and_eq_true, beq_iff_eq, List.all_eq_true, Option.isNone_iff_eq_none] at hok
  obtain ⟨⟨⟨⟨hmax, hanswers⟩, hnow⟩, hnext⟩, hdone⟩ := hok
  have hsettled : Settled maxAttempts pool.shared.1 pool.shared.2 := by
    cases horderly with
    | quiet _ hsettled => exact hsettled
    | busy hi hfit _ hstage =>
        exact absurd (hdone _ (List.mem_of_getElem? hi)) (waits_of_stage hfit hstage)
  have hfit : Fit host maxAttempts call := by
    refine ⟨hmax, ?_, hnow, hnext⟩
    cases hanswer : call.submission with
    | error e =>
        rw [hanswer] at hanswers
        cases hanswers
    | ok answer => exact ⟨answer, rfl⟩
  refine ⟨hindexed, hlog, .busy (i := pool.calls.length) ?_ hfit ?_ (.claims hsettled)⟩
  · rw [List.getElem?_append_right (Nat.le_refl _), Nat.sub_self]
    rfl
  · intro j entry hentry hne
    have hlt : j < pool.calls.length := by
      have hj := (List.getElem?_eq_some_iff.mp hentry).1
      rw [List.length_append, List.length_singleton] at hj
      omega
    rw [List.getElem?_append_left hlt] at hentry
    exact hdone _ (List.mem_of_getElem? hentry)

/-- The dispatch that waits is the one that is resumed. -/
theorem invariant_resume {pool : ObservedDispatches} {i : Nat} {call : DispatchCall} {op : Op}
    {resume : Except String op.Answer → Await MerchantReceiptOutboxDispatchResult}
    (h : Invariant host maxAttempts pool) (hi : pool.calls[i]? = some (call, .await op resume)) :
    Invariant host maxAttempts ⟨(serveObserved host call pool.shared op).1,
      pool.calls.set i (call, resume (serveObserved host call pool.shared op).2)⟩ := by
  obtain ⟨hindexed, hlog, horderly⟩ := h
  cases horderly with
  | quiet hdone _ => exact absurd (hdone _ (List.mem_of_getElem? hi)) nofun
  | @busy j call' program hj hfit hdone hstage =>
      have hsame : i = j := by
        by_contra hne
        exact absurd (hdone i _ hi hne) nofun
      subst hsame
      rw [hi, Option.some_inj, Prod.mk.injEq] at hj
      obtain ⟨rfl, hprogram⟩ := hj
      obtain ⟨hindexed', hlog', hnext⟩ := leadsTo_resumed hfit hindexed hlog hstage hprogram.symm
      have hlt := (List.getElem?_eq_some_iff.mp hi).1
      have hothers : ∀ (j : Nat) entry,
          (pool.calls.set i (call, resume (serveObserved host call pool.shared op).2))[j]? =
            some entry → j ≠ i → entry.2.waitsFor = none := by
        intro j entry hentry hne
        rw [List.getElem?_set_ne (fun h => hne h.symm)] at hentry
        exact hdone j entry hentry hne
      refine ⟨hindexed', hlog', ?_⟩
      rcases hnext with ⟨hended, hsettled⟩ | hstage'
      · refine .quiet ?_ hsettled
        intro entry hentry
        obtain ⟨j, hget⟩ := List.mem_iff_getElem?.mp hentry
        by_cases hji : j = i
        · rw [hji, List.getElem?_set_self hlt] at hget
          rw [← Option.some.inj hget]
          exact hended
        · exact hothers j entry hget hji
      · exact .busy (List.getElem?_set_self hlt) hfit hothers hstage'

theorem invariant_enqueue {pool : ObservedDispatches} {record : MerchantReceiptOutboxRecord}
    {store' : MerchantOutbox} (hpos : 0 < maxAttempts) (h : Invariant host maxAttempts pool)
    (henqueued : Enqueued pool.shared.1 record store') :
    Invariant host maxAttempts { pool with shared := (store', pool.shared.2) } := by
  obtain ⟨hindexed, hlog, horderly⟩ := h
  refine ⟨indexed_enqueued henqueued hindexed, logOk_enqueued henqueued hlog, ?_⟩
  cases horderly with
  | quiet hdone hsettled => exact .quiet hdone (settled_enqueued henqueued hpos hlog hsettled)
  | busy hi hfit hdone hstage =>
      exact .busy hi hfit hdone (stage_enqueued henqueued hpos hlog hstage)

theorem invariant_of_step {pool pool' : ObservedDispatches}
    {event : Pool.Event DispatchCall EnqueueMerchantReceiptInput} (hpos : 0 < maxAttempts)
    (h : Invariant host maxAttempts pool) (hok : orderly host maxAttempts pool event = true)
    (hstep : (observedSystem host runtime zod).step pool event pool') :
    Invariant host maxAttempts pool' := by
  cases hstep with
  | start call => exact invariant_start h hok
  | @resume i call op resume u answer hi hserve =>
      have hresumed := invariant_resume h hi
      rw [hserve] at hresumed
      exact hresumed
  | @outside input u henqueue =>
      obtain ⟨store', log'⟩ := u
      obtain ⟨⟨record, henqueue⟩, hlog⟩ := henqueue
      have hsame : log' = pool.shared.2 := hlog
      subst hsame
      rcases enqueue_spec henqueue hok with hstore | ⟨record, henqueued⟩
      · have hstore' : store' = pool.shared.1 := hstore
        subst hstore'
        exact h
      · exact invariant_enqueue hpos h henqueued

/-- What the outbox and its submissions come to. -/
structure Delivered (host : Host) (maxAttempts : Nat) (pool : ObservedDispatches) : Prop where
  /-- No receipt is submitted more often than the bound says. -/
  bounded : ∀ receiptId, (answersFor pool.shared.2 receiptId).length ≤ maxAttempts
  /-- A receipt is submitted while its record is pending and due. -/
  due : ∀ submission ∈ pool.shared.2, WasDue host submission
  /-- Between two dispatches every record has counted its submissions and has their verdict. -/
  verdicts : (∀ entry ∈ pool.calls, entry.2.waitsFor = none) → ∀ record ∈ pool.shared.1.recordsById,
    ∃ answers, answersFor pool.shared.2 record.receiptId = answers.map .ok ∧
      record.attempts = answers.length ∧ Verdict maxAttempts answers record.status

theorem invariant_reachable {pool : ObservedDispatches} (hpos : 0 < maxAttempts)
    (h : (observedSystem host runtime zod).Reachable
      (fun pool event => orderly host maxAttempts pool event = true) pool) :
    Invariant host maxAttempts pool := by
  refine h.invariant (P := Invariant host maxAttempts) ?_ ?_
  · intro s hinit
    obtain ⟨hshared, hcalls⟩ := hinit
    have hempty : s.shared = (MerchantOutbox.empty, []) := hshared
    refine ⟨?_, ?_, .quiet ?_ ?_⟩
    · rw [hempty]
      exact ⟨fun _ h => absurd h Table.not_mem_empty, fun _ h => absurd h Table.not_mem_empty⟩
    · rw [hempty]
      exact fun _ => nofun
    · rw [hcalls]
      exact fun _ => nofun
    · rw [hempty]
      exact fun _ h => absurd h Table.not_mem_empty
  · intro s event t _ hinvariant hok hstep
    exact invariant_of_step hpos hinvariant hok hstep

end Invariant

/-! ### A receipt that is accepted at the second attempt -/

/-- The pool that a schedule of dispatches over the outbox with one sale leads to. -/
def observed (schedule : List (Pool.Event DispatchCall EnqueueMerchantReceiptInput)) :
    ObservedDispatches :=
  schedule.foldl (Pool.advance (serveObserved isoHost) (fun _ _ => none) (dispatchNext isoHost))
    ⟨(sampleOutbox, []), []⟩

def secondAttempt : List (Pool.Event DispatchCall EnqueueMerchantReceiptInput) :=
  [.start (sampleDispatch (.retry "HTTP 503")), .resume 0, .resume 0, .resume 0,
    .start { sampleDispatch .accepted with clock := 1767225660000 }, .resume 1, .resume 1, .resume 1]

/-- The runs of the sample, one dispatch after the other. -/
theorem secondAttempt_reachable :
    (observedSystem isoHost Sample.saleRuntime Sample.zod).Reachable
      (fun pool event => orderly isoHost 10 pool event = true) (observed secondAttempt) := by
  have hstart : (observedSystem isoHost Sample.saleRuntime Sample.zod).init
      ⟨(MerchantOutbox.empty, []), []⟩ := ⟨rfl, rfl⟩
  have hsale : (observedSystem isoHost Sample.saleRuntime Sample.zod).Reachable
      (fun pool event => orderly isoHost 10 pool event = true) (observed []) :=
    .step (.init hstart) rfl (.outside ⟨⟨_, enqueue_sample⟩, rfl⟩)
  have hadmitted : System.admittedAlong
      (Pool.advance (serveObserved isoHost) (fun _ _ => none) (dispatchNext isoHost))
      (fun pool event => Pool.canAdvance
        (fun (_ : Observed) (_ : EnqueueMerchantReceiptInput) => none) pool event &&
          orderly isoHost 10 pool event) (observed []) secondAttempt = true := by
    decide +kernel
  refine hsale.run ?_
  unfold observedSystem
  refine Pool.run_of_schedule ?_ ?_ hadmitted
  · exact fun _ _ _ _ _ => id
  · exact fun _ _ _ h => nomatch h

end Split402.MerchantDispatch

import Split402.Receipts.ChainVerification
import Split402.Store.Memory

/-! # No event is stranded

An event in `processing` can be claimed no more, so some call has to bring it back. A call that has
claimed an event `Holds` it: whatever it is answered, it ends by marking the event, unless an
operation throws in between. -/

namespace Split402.ChainVerification

open Base Base.Async

variable (host : Host)

/-! ## Programs that hold an event -/

/-- The event an operation marks. -/
def Op.settles : Op → Option String
  | .markDelivered eventId | .markFailed eventId _ _ _ => some eventId
  | _ => none

def Op.isClaim : Op → Bool
  | .claimNext _ _ => true
  | _ => false

/-- The answers after which a call awaits something more. -/
def goesOn (call : VerificationCall) : (op : Op) → op.Answer → Bool
  | .verify _, .retry _ none => (nextRetryAt host call (host.toISOString (call.clock 0))).isOk
  | _, _ => true

/-- The program ends by marking the event, if nothing throws before. -/
inductive Holds (call : VerificationCall) (eventId : String) :
    Await ReceiptChainVerificationWorkerResult → Prop
  | marks {op : Op} {resume : Except PayoutError op.Answer → Await _} :
      op.settles = some eventId → (∀ answer, ∃ result, resume answer = .done result) →
      Holds call eventId (.await op resume)
  | awaits {op : Op} {resume : Except PayoutError op.Answer → Await _} :
      op.settles = none → op.isClaim = false →
      (∀ answer, goesOn host call op answer = true → Holds call eventId (resume (.ok answer))) →
      Holds call eventId (.await op resume)

variable {host} {call : VerificationCall} {event : OutboxEventRecord} {now : String}

theorem holds_marks_bind {op : Op} (hop : op.settles = some event.id)
    (result : op.Answer → ReceiptChainVerificationWorkerResult) :
    Holds host call event.id (Async.call op >>= fun answer => pure (result answer)) := by
  refine .marks hop ?_
  intro answer
  cases answer with
  | ok answer => exact ⟨_, rfl⟩
  | error e => exact ⟨_, rfl⟩

theorem holds_deadLetter (lastError : String) :
    Holds host call event.id (deadLetter host call event lastError) :=
  holds_marks_bind rfl _

theorem holds_settleVerification (receiptId : String)
    {verification : ReceiptChainVerificationResult}
    (hretry : ∀ error, verification = .retry error none → (nextRetryAt host call now).isOk = true) :
    Holds host call event.id (settleVerification host call now receiptId event verification) := by
  cases verification with
  | confirmed verifiedAt =>
      refine .awaits rfl rfl ?_
      intro verified _
      cases verified with
      | none => exact holds_deadLetter _
      | some verified => exact holds_marks_bind rfl _
  | retry error availableAt =>
      cases availableAt with
      | some availableAt => exact holds_marks_bind rfl _
      | none =>
          have hok := hretry error rfl
          cases hnext : nextRetryAt host call now with
          | error e =>
              rw [hnext] at hok
              cases hok
          | ok availableAt =>
              unfold settleVerification
              rw [hnext]
              exact holds_marks_bind rfl _
  | rejected error =>
      refine .awaits rfl rfl ?_
      intro rejected _
      cases rejected with
      | none => exact holds_deadLetter _
      | some _ => exact holds_deadLetter _

/-- **A call that has claimed an event holds it.** -/
theorem holds_processEvent :
    Holds host call event.id
      (processEvent host call (host.toISOString (call.clock 0)) event) := by
  unfold processEvent
  split
  · exact holds_deadLetter _
  split
  · exact holds_deadLetter _
  refine .awaits rfl rfl ?_
  intro snapshot _
  cases snapshot with
  | none => exact holds_deadLetter _
  | some snapshot =>
      refine .awaits rfl rfl ?_
      intro verification hgoes
      refine holds_settleVerification _ ?_
      intro error hretry
      subst hretry
      exact hgoes

/-! ## One step of a call -/

/-- The states of a call: before its claim, holding an event, or done. -/
inductive Sound (host : Host) (call : VerificationCall) :
    Await ReceiptChainVerificationWorkerResult → Prop
  | start : Sound host call (processNext host call)
  | holds {eventId : String} {p : Await ReceiptChainVerificationWorkerResult} :
      Holds host call eventId p → Sound host call p
  | done (result : Except PayoutError ReceiptChainVerificationWorkerResult) :
      Sound host call (.done result)

/-- What one operation does: the call is in one of its states again, it holds what it held or has
marked it, and an event in `processing` was so before and is not the marked one, or the call holds
it now. -/
structure Resumed (host : Host) (call : VerificationCall) (s t : Outbox) (op : Op)
    (p p' : Await ReceiptChainVerificationWorkerResult) : Prop where
  sound : Sound host call p'
  held : ∀ eventId, Holds host call eventId p → op.settles ≠ some eventId →
    Holds host call eventId p'
  processing : ∀ row ∈ t, row.status = .processing →
    (row ∈ s ∧ op.settles ≠ some row.id) ∨ Holds host call row.id p'

variable {s t : Outbox}

theorem id_of_mapOutboxEvent {row : OutboxRow} {record : OutboxEventRecord}
    (h : mapOutboxEvent host row = .ok record) : record.id = row.id := by
  unfold mapOutboxEvent at h
  obtain ⟨payload, -, h⟩ := bind_eq_ok.mp h
  rw [pure_eq_ok] at h
  rw [← h]

theorem not_holds_start {eventId : String} : ¬ Holds host call eventId (processNext host call) := by
  intro h
  unfold processNext at h
  cases h with
  | marks hop _ => cases hop
  | awaits _ hclaim _ => cases hclaim

/-- A claim that strands nothing claims nothing, or returns what it has claimed. -/
theorem claim_cases {now : String} {eventTypes : List String}
    {answer : Except PayoutError (Option OutboxEventRecord)}
    (hserve : serve host call s (.claimNext now eventTypes) = (t, answer))
    (hstrands : Op.strands host call s (.claimNext now eventTypes) = false) :
    (t = s ∧ (answer = .ok none ∨ ∃ e, answer = .error e)) ∨
      ∃ row lockedAt record, t = s.upsert (Outbox.claimed row lockedAt) ∧
        answer = .ok (some record) ∧ record.id = row.id := by
  rw [serve, Outbox.claimNext] at hserve
  simp only [Op.strands] at hstrands
  cases hnow : timestamptz host now with
  | error e =>
      rw [hnow] at hserve
      left
      cases houtcome : call.claim <;> rw [houtcome] at hserve <;> cases hserve <;>
        exact ⟨rfl, .inr ⟨_, rfl⟩⟩
  | ok lockedAt =>
      rw [hnow] at hserve hstrands
      dsimp only at hserve
      cases hclaimable : s.claimable lockedAt eventTypes with
      | nil =>
          rw [hclaimable] at hserve
          left
          cases houtcome : call.claim <;> rw [houtcome] at hserve <;> cases hserve
          · exact ⟨rfl, .inl rfl⟩
          · exact ⟨rfl, .inr ⟨_, rfl⟩⟩
          · exact ⟨rfl, .inr ⟨_, rfl⟩⟩
      | cons row rest =>
          rw [hclaimable] at hserve
          cases houtcome : call.claim with
          | failedBefore e =>
              rw [houtcome] at hserve
              cases hserve
              exact .inl ⟨rfl, .inr ⟨_, rfl⟩⟩
          | failedAfter e =>
              -- the claim is committed and its answer is lost
              rw [houtcome] at hstrands
              dsimp only at hstrands
              rw [hclaimable] at hstrands
              cases hstrands
          | answered =>
              rw [houtcome] at hserve hstrands
              dsimp only at hstrands
              rw [hclaimable] at hstrands
              obtain ⟨rfl, rfl⟩ := Prod.mk.inj hserve
              cases hrecord : mapOutboxEvent host (Outbox.claimed row lockedAt) with
              | error e =>
                  simp [hrecord, Except.isOk, Except.toBool] at hstrands
              | ok record =>
                  exact .inr ⟨row, lockedAt, record, rfl, rfl,
                    (id_of_mapOutboxEvent hrecord).trans rfl⟩

/-- The claim of a call. -/
theorem resumed_start {op : Op} {answer : Except PayoutError op.Answer}
    {resume : Except PayoutError op.Answer → Await ReceiptChainVerificationWorkerResult}
    (hstart : .await op resume = processNext host call) (hserve : serve host call s op = (t, answer))
    (hstrands : op.strands host call s = false) :
    Resumed host call s t op (.await op resume) (resume answer) := by
  have hnone := @not_holds_start host call
  rw [← hstart] at hnone
  unfold processNext at hstart
  cases hstart
  rcases claim_cases hserve hstrands with ⟨rfl, rfl | ⟨e, rfl⟩⟩ | ⟨row, lockedAt, record, rfl, rfl, hid⟩
  · refine ⟨.done _, fun _ h => absurd h hnone, ?_⟩
    exact fun row hrow _ => .inl ⟨hrow, nofun⟩
  · refine ⟨.done _, fun _ h => absurd h hnone, ?_⟩
    exact fun row hrow _ => .inl ⟨hrow, nofun⟩
  · refine ⟨.holds holds_processEvent, fun _ h => absurd h hnone, ?_⟩
    intro row' hrow' _
    rcases Table.mem_upsert.mp hrow' with rfl | ⟨hrow', -⟩
    · right
      have hheld := @holds_processEvent host call record
      rw [hid] at hheld
      exact hheld
    · exact .inl ⟨hrow', nofun⟩

/-- The mark of a call. -/
theorem settle_processing {eventId : String} {change : OutboxRow → OutboxRow}
    {answer : Except PayoutError (Option OutboxEventRecord)}
    (hsettle : s.settle host eventId change = (t, answer))
    (hchange : ∀ row, (change row).id = row.id ∧ (change row).status ≠ .processing)
    {row : OutboxRow} (hrow : row ∈ t) (hprocessing : row.status = .processing) :
    row ∈ s ∧ eventId ≠ row.id := by
  unfold Outbox.settle at hsettle
  cases hfind : (s.find? eventId).filter (fun row => row.status == .processing) with
  | none =>
      rw [hfind] at hsettle
      obtain ⟨rfl, -⟩ := Prod.mk.inj hsettle
      refine ⟨hrow, ?_⟩
      intro hid
      have hsame : s.find? eventId = some row := hid ▸ Table.find?_of_mem hrow
      rw [hsame, Option.filter_some, hprocessing] at hfind
      cases hfind
  | some found =>
      rw [hfind] at hsettle
      obtain ⟨rfl, -⟩ := Prod.mk.inj hsettle
      obtain ⟨hfound, -⟩ := Option.filter_eq_some_iff.mp hfind
      have hkey := Table.key_of_find? hfound
      rcases Table.mem_upsert.mp hrow with rfl | ⟨hrow, hne⟩
      · exact absurd hprocessing (hchange found).2
      · refine ⟨hrow, ?_⟩
        rw [(hchange found).1, hkey] at hne
        exact Ne.symm hne

theorem answered_of_run {outcome : QueryOutcome} {α : Type}
    {query : Outbox × Except PayoutError α} {answer : Except PayoutError α}
    (hrun : outcome.run s query = (t, answer)) (hok : answer.isOk = true) : query = (t, answer) := by
  cases outcome with
  | answered => exact hrun
  | failedBefore e =>
      cases hrun
      cases hok
  | failedAfter e =>
      cases hrun
      cases hok

/-- An operation that marks an event leaves no row of it in `processing`. -/
theorem marked_processing {op : Op} {answer : Except PayoutError op.Answer} {eventId : String}
    (hop : op.settles = some eventId) (hserve : serve host call s op = (t, answer))
    (hok : answer.isOk = true) {row : OutboxRow} (hrow : row ∈ t)
    (hprocessing : row.status = .processing) : row ∈ s ∧ eventId ≠ row.id := by
  cases op with
  | markDelivered id =>
      injection hop with hop
      subst hop
      have hquery := answered_of_run hserve hok
      exact settle_processing hquery (fun row => ⟨rfl, by simp⟩) hrow hprocessing
  | markFailed id lastError availableAt deadLetter =>
      injection hop with hop
      subst hop
      have hquery := answered_of_run hserve hok
      rw [Outbox.markFailed] at hquery
      cases hat : timestamptz host availableAt with
      | error e =>
          rw [hat] at hquery
          obtain ⟨-, rfl⟩ := Prod.mk.inj hquery
          cases hok
      | ok timestamp =>
          rw [hat] at hquery
          refine settle_processing hquery (fun row => ⟨rfl, ?_⟩) hrow hprocessing
          cases deadLetter <;> simp
  | _ => cases hop

/-- Another operation leaves the outbox as it is, and its answer lets the call go on. -/
theorem goesOn_of_serve {op : Op} {answer : Except PayoutError op.Answer} (hop : op.settles = none)
    (hclaim : op.isClaim = false) (hserve : serve host call s op = (t, answer))
    (hstrands : op.strands host call s = false) :
    t = s ∧ ∃ a, answer = .ok a ∧ goesOn host call op a = true := by
  have hanswers : ∀ {α : Type} {given answer : Except PayoutError α}, (s, given) = (t, answer) →
      (!given.isOk) = false → t = s ∧ ∃ a, answer = .ok a := by
    intro α given answer heq hok
    obtain ⟨rfl, rfl⟩ := Prod.mk.inj heq
    refine ⟨rfl, ?_⟩
    cases given with
    | ok a => exact ⟨a, rfl⟩
    | error e => cases hok
  cases op with
  | claimNext _ _ => cases hclaim
  | markDelivered _ => cases hop
  | markFailed _ _ _ _ => cases hop
  | getReceiptForChainVerification receiptId =>
      obtain ⟨hs, a, ha⟩ := hanswers hserve hstrands
      exact ⟨hs, a, ha, rfl⟩
  | markReceiptChainVerified _ _ =>
      obtain ⟨hs, a, ha⟩ := hanswers hserve hstrands
      exact ⟨hs, a, ha, rfl⟩
  | markReceiptChainRejected _ _ _ =>
      obtain ⟨hs, a, ha⟩ := hanswers hserve hstrands
      exact ⟨hs, a, ha, rfl⟩
  | verify receipt =>
      obtain ⟨rfl, rfl⟩ := Prod.mk.inj hserve
      refine ⟨rfl, ?_⟩
      simp only [Op.strands] at hstrands
      cases hverification : call.verification receipt with
      | error e =>
          rw [hverification] at hstrands
          cases hstrands
      | ok verification =>
          refine ⟨verification, rfl, ?_⟩
          rw [hverification] at hstrands
          cases verification with
          | confirmed _ => rfl
          | rejected _ => rfl
          | retry error availableAt =>
              cases availableAt with
              | some _ => rfl
              | none => simpa [goesOn] using hstrands

/-- A call that holds an event. -/
theorem resumed_holds {op : Op} {answer : Except PayoutError op.Answer} {eventId : String}
    {resume : Except PayoutError op.Answer → Await ReceiptChainVerificationWorkerResult}
    (hholds : Holds host call eventId (.await op resume))
    (hserve : serve host call s op = (t, answer)) (hstrands : op.strands host call s = false) :
    Resumed host call s t op (.await op resume) (resume answer) := by
  cases hholds with
  | marks hop hdone =>
      have hok : answer.isOk = true := by
        have hsnd : (serve host call s op).2 = answer := by rw [hserve]
        cases op with
        | markDelivered _ => simpa [Op.strands, hsnd] using hstrands
        | markFailed _ _ _ _ => simpa [Op.strands, hsnd] using hstrands
        | _ => cases hop
      obtain ⟨result, hresult⟩ := hdone answer
      rw [hresult]
      refine ⟨.done result, ?_, ?_⟩
      · intro other hother hne
        cases hother with
        | marks hop' _ => exact absurd hop' hne
        | awaits hnone _ _ =>
            rw [hop] at hnone
            cases hnone
      · intro row hrow hprocessing
        obtain ⟨hrow, hne⟩ := marked_processing hop hserve hok hrow hprocessing
        left
        refine ⟨hrow, ?_⟩
        rw [hop]
        exact fun heq => hne (Option.some.inj heq)
  | awaits hop hclaim hnext =>
      -- the outbox is not touched, and the answer lets the call go on
      have hsame : t = s ∧ ∃ a, answer = .ok a ∧ goesOn host call op a = true :=
        goesOn_of_serve hop hclaim hserve hstrands
      obtain ⟨rfl, a, rfl, hgoes⟩ := hsame
      refine ⟨.holds (hnext a hgoes), ?_, ?_⟩
      · intro other hother _
        cases hother with
        | marks hop' _ =>
            rw [hop] at hop'
            cases hop'
        | awaits _ _ hnext' => exact hnext' a hgoes
      · intro row hrow _
        left
        refine ⟨hrow, ?_⟩
        rw [hop]
        nofun

/-! ## All calls -/

variable {pool pool' : Calls} {step : Pool.Event VerificationCall Unit}

theorem not_holds_done {eventId : String}
    {result : Except PayoutError ReceiptChainVerificationWorkerResult} :
    ¬ Holds host call eventId (.done result) := nofun

/-- An operation of a call that does not strand an event. -/
theorem resumed_of_sound {op : Op} {answer : Except PayoutError op.Answer}
    {resume : Except PayoutError op.Answer → Await ReceiptChainVerificationWorkerResult}
    (h : Sound host call (.await op resume)) (hserve : serve host call s op = (t, answer))
    (hstrands : op.strands host call s = false) :
    Resumed host call s t op (.await op resume) (resume answer) := by
  generalize hp : Async.await op resume = p at h
  cases h with
  | start => exact hp ▸ resumed_start hp hserve hstrands
  | holds hholds => exact hp ▸ resumed_holds (hp ▸ hholds) hserve hstrands
  | done result => cases hp

/-- Every call is in one of its states, and an event of a receipt that is in `processing` is held by
a call. -/
structure AllHeld (host : Host) (pool : Calls) : Prop where
  sound : ∀ entry ∈ pool.calls, Sound host entry.1 entry.2
  held : ∀ row ∈ pool.shared, row.eventType = RECEIPT_ACCEPTED_EVENT_TYPE →
    row.status = .processing → ∃ entry ∈ pool.calls, Holds host entry.1 row.id entry.2

/-- The call is resumed by an operation that does not strand an event. -/
theorem AllHeld.resume (h : AllHeld host pool) {i : Nat} {op : Op} {u : Outbox}
    {answer : Except PayoutError op.Answer}
    {resume : Except PayoutError op.Answer → Await ReceiptChainVerificationWorkerResult}
    (hi : pool.calls[i]? = some (call, .await op resume))
    (hserve : serve host call pool.shared op = (u, answer))
    (hstrands : op.strands host call pool.shared = false) :
    AllHeld host ⟨u, pool.calls.set i (call, resume answer)⟩ := by
  have hresumed := resumed_of_sound (h.sound _ (List.mem_of_getElem? hi)) hserve hstrands
  have hlt : i < pool.calls.length := (List.getElem?_eq_some_iff.mp hi).1
  refine ⟨?_, ?_⟩
  · intro entry hentry
    rcases List.mem_or_eq_of_mem_set hentry with hentry | rfl
    · exact h.sound entry hentry
    · exact hresumed.sound
  · intro row hrow htype hprocessing
    have hnew : (call, resume answer) ∈ pool.calls.set i (call, resume answer) :=
      List.mem_set hlt _
    rcases hresumed.processing row hrow hprocessing with ⟨hold, hne⟩ | hholds
    · obtain ⟨entry, hentry, hholds⟩ := h.held row hold htype hprocessing
      obtain ⟨j, hj⟩ := List.mem_iff_getElem?.mp hentry
      by_cases hij : i = j
      · -- the call goes on holding it
        subst hij
        obtain rfl : entry = (call, .await op resume) := Option.some.inj (hj.symm.trans hi)
        exact ⟨_, hnew, hresumed.held row.id hholds hne⟩
      · refine ⟨entry, ?_, hholds⟩
        refine List.mem_of_getElem? (i := j) ?_
        show (pool.calls.set i _)[j]? = _
        rw [List.getElem?_set_ne hij, hj]
    · exact ⟨_, hnew, hholds⟩

theorem allHeld_of_reachable
    (h : (workerSystem host).Reachable (fun pool step => strands host pool step = false) pool) :
    AllHeld host pool := by
  refine h.invariant ?_ ?_
  · intro pool hinit
    refine ⟨?_, ?_⟩
    · rw [hinit.2]
      exact fun entry hentry => nomatch hentry
    · intro row hrow _ hprocessing
      exact absurd hprocessing (hinit.1 row hrow)
  · intro pool step pool' _ ih hok hstep
    cases hstep with
    | start c =>
        refine ⟨?_, ?_⟩
        · intro entry hentry
          rcases List.mem_append.mp hentry with hentry | hentry
          · exact ih.sound entry hentry
          · rw [List.mem_singleton.mp hentry]
            exact .start
        · intro row hrow htype hprocessing
          obtain ⟨entry, hentry, hholds⟩ := ih.held row hrow htype hprocessing
          exact ⟨entry, List.mem_append_left _ hentry, hholds⟩
    | @resume i c op resume u answer hi hserve =>
        refine ih.resume hi hserve ?_
        rwa [strands, hi] at hok
    | outside hothers =>
        refine ⟨ih.sound, ?_⟩
        intro row hrow htype hprocessing
        obtain ⟨row', hrow', hid, htype', hstatus⟩ := hothers row hrow htype hprocessing
        rw [← hid]
        exact ih.held row' hrow' (htype'.trans htype) (hstatus.trans hprocessing)

/-- **No event is stranded.** When no operation leaves its call without a way back, an event of a
receipt is in `processing` only while a call is under way that holds it; when the call ends, the
event is not in `processing`. -/
theorem no_event_stranded
    (h : (workerSystem host).Reachable (fun pool step => strands host pool step = false) pool) :
    (∀ row ∈ pool.shared, row.eventType = RECEIPT_ACCEPTED_EVENT_TYPE → row.status = .processing →
      ∃ entry ∈ pool.calls, entry.2.waitsFor ≠ none ∧ Holds host entry.1 row.id entry.2) ∧
    ∀ i call eventId p pool' result, pool.calls[i]? = some (call, p) → Holds host call eventId p →
      strands host pool (.resume i) = false → (workerSystem host).step pool (.resume i) pool' →
      pool'.calls[i]? = some (call, .done result) →
      ∀ row ∈ pool'.shared, row.id = eventId → row.status ≠ .processing := by
  have hheld := allHeld_of_reachable h
  refine ⟨?_, ?_⟩
  · intro row hrow htype hprocessing
    obtain ⟨⟨call, p⟩, hentry, hholds⟩ := hheld.held row hrow htype hprocessing
    refine ⟨(call, p), hentry, ?_, hholds⟩
    cases p with
    | await op resume => exact Option.some_ne_none op
    | done result => exact absurd hholds not_holds_done
  · intro i call eventId p pool' result hi hholds hok hstep hdone row hrow hid hprocessing
    cases hstep with
    | @resume _ c op resume u answer hi' hserve =>
        obtain ⟨rfl, rfl⟩ := Prod.mk.inj (Option.some.inj (hi.symm.trans hi'))
        rw [strands, hi'] at hok
        have hresumed := resumed_holds hholds hserve hok
        have hlt : i < pool.calls.length := (List.getElem?_eq_some_iff.mp hi').1
        rw [List.getElem?_set_self hlt, Option.some.injEq, Prod.mk.injEq] at hdone
        rw [hdone.2] at hresumed
        rcases hresumed.processing row hrow hprocessing with ⟨-, hne⟩ | hholds'
        · rw [hid] at hne
          exact not_holds_done (hresumed.held eventId hholds hne)
        · exact not_holds_done hholds'

/-! ## A verifier that throws -/

/-- An outbox with the event of one accepted receipt. -/
def sampleOutbox : Outbox :=
  ⟨[{ id := "00000000-0000-4000-8000-000000000001"
      eventType := RECEIPT_ACCEPTED_EVENT_TYPE
      aggregateType := "receipt"
      aggregateId := Sample.idOf "rct" 1
      payload := .obj [("receiptId", .str (Sample.idOf "rct" 1))]
      status := .pending
      attempts := 0
      availableAt := 1767225600000
      createdAt := 1767225600000
      lockedAt := none
      lastError := none }], List.nodup_singleton _⟩

/-- A call whose verifier answers as given; its receipt is found and marked. -/
def sampleVerification (verification : Except PayoutError ReceiptChainVerificationResult) :
    VerificationCall where
  clock _ := 1767225600000
  retryDelayMs := none
  receipt _ := .ok (some (Sample.snapshot 1))
  verification _ := verification
  verified := .ok (some (Memory.verifiedSnapshot (Sample.snapshot 1) Sample.now))
  rejected := .ok none
  claim := .answered
  mark := .answered

/-- One call, resumed a number of times. -/
def processOnce (verification : Except PayoutError ReceiptChainVerificationResult) (steps : Nat) :
    List (Pool.Event VerificationCall Unit) :=
  .start (sampleVerification verification) :: List.replicate steps (.resume 0)

/-- The pool it leads to. -/
def processed (verification : Except PayoutError ReceiptChainVerificationResult) (steps : Nat) :
    Calls :=
  (processOnce verification steps).foldl
    (Pool.advance (serve isoHost) (fun _ _ => none) (processNext isoHost)) ⟨sampleOutbox, []⟩

theorem processed_reachable {verification : Except PayoutError ReceiptChainVerificationResult}
    {steps : Nat} {accept : Calls → Pool.Event VerificationCall Unit → Bool}
    (h : System.admittedAlong (Pool.advance (serve isoHost) (fun _ _ => none) (processNext isoHost))
      (fun pool step => Pool.canAdvance (fun _ (_ : Unit) => none) pool step && accept pool step)
      ⟨sampleOutbox, []⟩ (processOnce verification steps) = true) :
    (workerSystem isoHost).Reachable (fun pool step => accept pool step = true)
      (processed verification steps) := by
  unfold workerSystem processed
  refine Pool.reachable_of_schedule ?_ ?_ ?_ h
  · exact fun _ _ _ _ _ => id
  · exact fun _ _ _ h => nomatch h
  · intro row hrow hprocessing
    rw [List.mem_singleton.mp hrow] at hprocessing
    cases hprocessing

theorem no_event_stranded_confirmed :
    ∃ row ∈ (processed (.ok (.confirmed none)) 3).shared, row.status = .processing ∧
      ∃ entry ∈ (processed (.ok (.confirmed none)) 3).calls, entry.2.waitsFor ≠ none ∧
        Holds isoHost entry.1 row.id entry.2 := by
  have hprocessing : ((processed (.ok (.confirmed none)) 3).shared.rows.any (fun row =>
      row.eventType == RECEIPT_ACCEPTED_EVENT_TYPE && row.status == .processing)) = true := by
    decide +kernel
  have hreachable := (@processed_reachable (.ok (.confirmed none)) 3
    (fun pool step => !strands isoHost pool step) (by decide +kernel)).mono
      fun _ _ h => (Bool.not_eq_true' _).mp h
  obtain ⟨row, hrow, hstatus⟩ := List.any_eq_true.mp hprocessing
  simp only [Bool.and_eq_true, beq_iff_eq] at hstatus
  exact ⟨row, hrow, hstatus.2, (no_event_stranded hreachable).1 row hrow hstatus.1 hstatus.2⟩

/-- The verifier throws: the call is done and its event stays in `processing`. -/
theorem not_no_event_stranded_throws :
    ¬ ∀ pool, (workerSystem isoHost).Reachable (fun _ _ => True) pool →
      ∀ row ∈ pool.shared, row.eventType = RECEIPT_ACCEPTED_EVENT_TYPE → row.status = .processing →
        ∃ entry ∈ pool.calls, entry.2.waitsFor ≠ none := by
  intro h
  have hreachable := (@processed_reachable (.error (.other "fetch failed")) 3 (fun _ _ => true)
    (by decide +kernel)).mono fun _ _ _ => trivial
  have hstranded : ((processed (.error (.other "fetch failed")) 3).shared.rows.any (fun row =>
      row.eventType == RECEIPT_ACCEPTED_EVENT_TYPE && row.status == .processing) &&
      (processed (.error (.other "fetch failed")) 3).calls.all (fun entry =>
        entry.2.waitsFor.isNone)) = true := by decide +kernel
  obtain ⟨hany, hall⟩ := (Bool.and_eq_true _ _).mp hstranded
  obtain ⟨row, hrow, hstatus⟩ := List.any_eq_true.mp hany
  simp only [Bool.and_eq_true, beq_iff_eq] at hstatus
  obtain ⟨entry, hentry, hwaits⟩ := h _ hreachable row hrow hstatus.1 hstatus.2
  have hdone := List.all_eq_true.mp hall entry hentry
  exact hwaits (Option.isNone_iff_eq_none.mp hdone)

end Split402.ChainVerification

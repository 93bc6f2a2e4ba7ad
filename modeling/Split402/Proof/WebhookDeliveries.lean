import Mathlib.Data.List.Chain
import Split402.Webhooks.Dispatch

/-! # Webhook deliveries

Any number of workers, interleaved at every await and with queries that fail, send an event out as
one worker would that never fails: one attempt after the other, each numbered higher than the one
before, none after it has been acknowledged or given up, and no more than the limit unless a merchant
puts the event back. `Life` says what can become of one event; the invariant is that every event has
such a life, and that a call that is about to dispatch or mark an event is the only one. -/

namespace Split402.WebhookDispatch

open Base Base.Async

/-! ## The life of an event -/

/-- Where an event is: between its claim and its mark it is in `processing`, and one call knows
more. -/
inductive Phase
  | waiting | claimed
  | answered (maxAttempts : Int) (answer : WebhookDeliveryResult)
  | delivered | dead

def Phase.status : Phase → OutboxEventStatus
  | .waiting => .pending
  | .claimed | .answered _ _ => .processing
  | .delivered => .delivered
  | .dead => .deadLetter

/-- The answer asks for another attempt, and there is one left. -/
def triesAgain (attempts : Nat) (maxAttempts : Int) : WebhookDeliveryResult → Bool
  | .retry _ _ _ => decide ((attempts : Int) < maxAttempts)
  | _ => false

/-- The answer refuses the event, or asks for an attempt and there is none left. -/
def givesUp (attempts : Nat) (maxAttempts : Int) : WebhookDeliveryResult → Bool
  | .delivered _ => false
  | .retry _ _ _ => decide (maxAttempts ≤ (attempts : Int))
  | .rejected _ _ => true

/-- What has happened to an event, where it is, and what its row counts. -/
inductive Life (limit : Nat) : List Entry → Phase → Nat → Prop
  | created : Life limit [] .waiting 0
  | claim {entries : List Entry} {n : Nat} (h : Life limit entries .waiting n) :
      Life limit entries .claimed (n + 1)
  | dispatch {entries : List Entry} {n : Nat} (h : Life limit entries .claimed n) {maxAttempts : Int}
      (hmax : maxAttempts ≤ limit) (answer : WebhookDeliveryResult) :
      Life limit (entries ++ [.dispatched n maxAttempts answer]) (.answered maxAttempts answer) n
  | deliver {entries : List Entry} {n : Nat} {maxAttempts : Int} {statusCode : Option Int}
      (h : Life limit entries (.answered maxAttempts (.delivered statusCode)) n) :
      Life limit entries .delivered n
  | retry {entries : List Entry} {n : Nat} {maxAttempts : Int} {answer : WebhookDeliveryResult}
      (h : Life limit entries (.answered maxAttempts answer) n)
      (hagain : triesAgain n maxAttempts answer = true) : Life limit entries .waiting n
  | giveUp {entries : List Entry} {n : Nat} {maxAttempts : Int} {answer : WebhookDeliveryResult}
      (h : Life limit entries (.answered maxAttempts answer) n)
      (hup : givesUp n maxAttempts answer = true) : Life limit entries .dead n
  | requeue {entries : List Entry} {n : Nat} (h : Life limit entries .dead n) :
      Life limit (entries ++ [.requeued]) .waiting 0

/-- What may come next: after an acknowledgment nothing, after a request for another attempt a later
one, after the event was given up that it is put back, and after that an attempt. -/
def Follows : Entry → Entry → Prop
  | .dispatched n maxAttempts answer, .dispatched n' _ _ =>
      triesAgain n maxAttempts answer = true ∧ n < n'
  | .dispatched n maxAttempts answer, .requeued => givesUp n maxAttempts answer = true
  | .requeued, .dispatched _ _ _ => True
  | .requeued, .requeued => False

/-- The next attempt may be the `n`th. -/
def MayTry (entries : List Entry) (n : Nat) : Prop :=
  ∀ last ∈ entries.getLast?, ∀ maxAttempts answer, Follows last (.dispatched n maxAttempts answer)

/-- What the phase says of the last entry. -/
def PhaseOk (entries : List Entry) (n : Nat) : Phase → Prop
  | .waiting => MayTry entries (n + 1)
  | .claimed => MayTry entries n
  | .answered maxAttempts answer => entries.getLast? = some (.dispatched n maxAttempts answer)
  | .delivered => ∃ maxAttempts statusCode,
      entries.getLast? = some (.dispatched n maxAttempts (.delivered statusCode))
  | .dead => ∃ maxAttempts answer, entries.getLast? = some (.dispatched n maxAttempts answer) ∧
      givesUp n maxAttempts answer = true

variable {limit : Nat} {entries : List Entry} {phase : Phase} {n : Nat}

theorem Life.phaseOk (h : Life limit entries phase n) : PhaseOk entries n phase := by
  induction h with
  | created => intro last hlast; cases hlast
  | claim _ ih => exact ih
  | dispatch _ _ answer _ => exact List.getLast?_concat
  | deliver _ ih => exact ⟨_, _, ih⟩
  | @retry entries n maxAttempts answer _ hagain ih =>
      intro last hlast maxAttempts' answer'
      obtain rfl := Option.some.inj (ih.symm.trans hlast)
      exact ⟨hagain, Nat.lt_succ_self n⟩
  | giveUp _ hup ih => exact ⟨_, _, ih, hup⟩
  | requeue _ _ =>
      intro last hlast maxAttempts answer
      rw [List.getLast?_concat, Option.mem_some] at hlast
      rw [← hlast]
      trivial

theorem isChain_concat {entry : Entry} (h : entries.IsChain Follows)
    (hlast : ∀ last ∈ entries.getLast?, Follows last entry) :
    (entries ++ [entry]).IsChain Follows := by
  rw [List.isChain_append]
  refine ⟨h, List.isChain_singleton _, ?_⟩
  intro last hmem next hnext
  rw [List.head?_cons, Option.mem_some] at hnext
  rw [← hnext]
  exact hlast last hmem

/-- **What happens to an event follows in order.** -/
theorem Life.isChain (h : Life limit entries phase n) : entries.IsChain Follows := by
  induction h with
  | created => exact List.isChain_nil
  | claim _ ih => exact ih
  | dispatch h _ answer ih => exact isChain_concat ih fun last hlast => h.phaseOk last hlast _ answer
  | deliver _ ih => exact ih
  | retry _ _ ih => exact ih
  | giveUp _ _ ih => exact ih
  | requeue h ih =>
      obtain ⟨maxAttempts, answer, hlast, hup⟩ := h.phaseOk
      refine isChain_concat ih ?_
      intro last hmem
      obtain rfl := Option.some.inj (hlast.symm.trans hmem)
      exact hup

def Entry.isDispatch : Entry → Bool
  | .dispatched _ _ _ => true
  | .requeued => false

/-- How often an event has gone out. -/
def dispatches (entries : List Entry) : Nat := entries.countP Entry.isDispatch

/-- How often it was put back. -/
def requeuesOf (entries : List Entry) : Nat := entries.count .requeued

@[simp] theorem dispatches_concat (entry : Entry) :
    dispatches (entries ++ [entry]) = dispatches entries + if entry.isDispatch then 1 else 0 := by
  rw [dispatches, List.countP_append, List.countP_singleton, dispatches]

@[simp] theorem requeuesOf_concat (entry : Entry) :
    requeuesOf (entries ++ [entry]) = requeuesOf entries + if entry = .requeued then 1 else 0 := by
  rw [requeuesOf, List.count_append, List.count_singleton, requeuesOf]
  simp

/-- What the row counts bounds the attempts since the event was put in or back. -/
def CountOk (limit : Nat) (entries : List Entry) (n : Nat) : Phase → Prop
  | .waiting => dispatches entries ≤ requeuesOf entries * max 1 limit + n ∧ (n = 0 ∨ n < limit)
  | .claimed => dispatches entries + 1 ≤ requeuesOf entries * max 1 limit + n ∧ n ≤ max 1 limit
  | .answered maxAttempts _ => (dispatches entries ≤ requeuesOf entries * max 1 limit + n ∧
      n ≤ max 1 limit) ∧ maxAttempts ≤ limit
  | .delivered | .dead => dispatches entries ≤ requeuesOf entries * max 1 limit + n ∧ n ≤ max 1 limit

theorem Life.countOk (h : Life limit entries phase n) : CountOk limit entries n phase := by
  induction h with
  | created => exact ⟨Nat.zero_le _, .inl rfl⟩
  | claim _ ih =>
      obtain ⟨hcount, hn⟩ := ih
      refine ⟨by omega, ?_⟩
      omega
  | dispatch _ hmax answer ih =>
      obtain ⟨hcount, hn⟩ := ih
      refine ⟨⟨?_, hn⟩, hmax⟩
      simp only [dispatches_concat, requeuesOf_concat, Entry.isDispatch, reduceCtorEq, if_true, if_false]
      omega
  | deliver _ ih => exact ih.1
  | @retry entries n maxAttempts answer _ hagain ih =>
      obtain ⟨⟨hcount, -⟩, hmax⟩ := ih
      refine ⟨hcount, .inr ?_⟩
      cases answer with
      | delivered _ => cases hagain
      | rejected _ _ => cases hagain
      | retry error availableAt statusCode =>
          have hlt := of_decide_eq_true hagain
          omega
  | giveUp _ _ ih => exact ih.1
  | requeue _ ih =>
      obtain ⟨hcount, hn⟩ := ih
      refine ⟨?_, .inl rfl⟩
      simp only [dispatches_concat, requeuesOf_concat, Entry.isDispatch, if_true, Nat.add_mul]
      simp
      omega

/-- **An event goes out no more than the limit, each time it is put in or back.** -/
theorem Life.dispatches_le (h : Life limit entries phase n) :
    dispatches entries ≤ (requeuesOf entries + 1) * max 1 limit := by
  have hcount := h.countOk
  rw [Nat.add_mul, Nat.one_mul]
  cases phase with
  | waiting =>
      obtain ⟨hcount, hn⟩ := hcount
      omega
  | claimed =>
      obtain ⟨hcount, hn⟩ := hcount
      omega
  | answered maxAttempts answer =>
      obtain ⟨⟨hcount, hn⟩, -⟩ := hcount
      omega
  | delivered =>
      obtain ⟨hcount, hn⟩ := hcount
      omega
  | dead =>
      obtain ⟨hcount, hn⟩ := hcount
      omega

/-- What the status of an event says of what has happened to it. -/
def Verdict (entries : List Entry) : OutboxEventStatus → Prop
  | .pending => ∀ n maxAttempts answer,
      entries.getLast? = some (.dispatched n maxAttempts answer) → triesAgain n maxAttempts answer = true
  | .processing => True
  | .delivered => ∃ n maxAttempts statusCode,
      entries.getLast? = some (.dispatched n maxAttempts (.delivered statusCode))
  | .deadLetter => ∃ n maxAttempts answer,
      entries.getLast? = some (.dispatched n maxAttempts answer) ∧ givesUp n maxAttempts answer = true

theorem Life.verdict (h : Life limit entries phase n) : Verdict entries phase.status := by
  have hphase := h.phaseOk
  cases phase with
  | waiting =>
      intro n' maxAttempts answer hlast
      exact (hphase _ hlast maxAttempts answer).1
  | claimed => trivial
  | answered maxAttempts answer => trivial
  | delivered => exact ⟨n, hphase⟩
  | dead => exact ⟨n, hphase⟩

/-! ## Events -/

/-- What has happened to an event. -/
def history (log : List (String × Entry)) (eventId : String) : List Entry :=
  (log.filter (·.1 = eventId)).map Prod.snd

/-- Nothing but this event has changed. -/
structure Only (eventId : String) (s t : Observed) : Prop where
  rows : ∀ row : OutboxRow, row.id ≠ eventId → (row ∈ t.1 ↔ row ∈ s.1)
  row : (∃ row ∈ s.1, row.id = eventId) → ∃ row ∈ t.1, row.id = eventId
  log : ∃ entries : List Entry, t.2 = s.2 ++ entries.map (eventId, ·)

variable {s t : Observed} {eventId : String}

theorem history_append_self (log : List (String × Entry)) (entries : List Entry) :
    history (log ++ entries.map (eventId, ·)) eventId = history log eventId ++ entries := by
  rw [history, List.filter_append, List.map_append, history]
  congr 1
  induction entries with
  | nil => rfl
  | cons entry entries ih =>
      rw [List.map_cons, List.filter_cons_of_pos (by simp), List.map_cons, ih]

theorem history_append_other {log : List (String × Entry)} {entries : List Entry} {other : String}
    (h : other ≠ eventId) : history (log ++ entries.map (eventId, ·)) other = history log other := by
  have hnone : (entries.map (eventId, ·)).filter (fun entry : String × Entry => entry.1 = other) = [] := by
    rw [List.filter_eq_nil_iff]
    intro entry hentry hsame
    obtain ⟨_, -, rfl⟩ := List.mem_map.mp hentry
    exact h (of_decide_eq_true hsame).symm
  rw [history, List.filter_append, hnone, List.append_nil, history]

theorem Only.history (h : Only eventId s t) {other : String} (hne : other ≠ eventId) :
    history t.2 other = history s.2 other := by
  obtain ⟨entries, hlog⟩ := h.log
  rw [hlog, history_append_other hne]

variable {types : List String}

/-- Every event of the workers lives, and what has happened has happened to events. -/
structure Lives (limit : Nat) (types : List String) (s : Observed) : Prop where
  row : ∀ row ∈ s.1, row.eventType ∈ types →
    ∃ phase, phase.status = row.status ∧ Life limit (history s.2 row.id) phase row.attempts
  known : ∀ entry ∈ s.2, ∃ row ∈ s.1, row.id = entry.1
  sent : ∀ entry ∈ s.2, entry.2.isDispatch = true →
    ∃ row ∈ s.1, row.id = entry.1 ∧ row.eventType ∈ types

/-- It is enough to look at the event that has changed. -/
theorem Lives.of_only (h : Lives limit types s) (honly : Only eventId s t)
    (hrow : ∀ row ∈ t.1, row.id = eventId → row.eventType ∈ types →
      ∃ phase, phase.status = row.status ∧ Life limit (history t.2 row.id) phase row.attempts)
    (hknown : (∃ entry ∈ t.2, entry.1 = eventId) → ∃ row ∈ t.1, row.id = eventId)
    (hsent : (∃ entry ∈ t.2, entry.1 = eventId ∧ entry.2.isDispatch = true) →
      ∃ row ∈ t.1, row.id = eventId ∧ row.eventType ∈ types) : Lives limit types t := by
  have hold : ∀ entry ∈ t.2, entry.1 ≠ eventId → entry ∈ s.2 := by
    intro entry hentry hne
    obtain ⟨entries, hlog⟩ := honly.log
    rw [hlog] at hentry
    rcases List.mem_append.mp hentry with hentry | hentry
    · exact hentry
    · obtain ⟨_, -, rfl⟩ := List.mem_map.mp hentry
      exact absurd rfl hne
  refine ⟨?_, ?_, ?_⟩
  · intro row hmem htype
    by_cases hid : row.id = eventId
    · exact hrow row hmem hid htype
    · obtain ⟨phase, hstatus, hlife⟩ := h.row row ((honly.rows row hid).mp hmem) htype
      rw [← honly.history hid] at hlife
      exact ⟨phase, hstatus, hlife⟩
  · intro entry hentry
    by_cases hid : entry.1 = eventId
    · obtain ⟨row, hmem, hsame⟩ := hknown ⟨entry, hentry, hid⟩
      exact ⟨row, hmem, hsame.trans hid.symm⟩
    · obtain ⟨row, hmem, hsame⟩ := h.known entry (hold entry hentry hid)
      have hne : row.id ≠ eventId := hsame ▸ hid
      exact ⟨row, (honly.rows row hne).mpr hmem, hsame⟩
  · intro entry hentry hdispatch
    by_cases hid : entry.1 = eventId
    · obtain ⟨row, hmem, hsame, htype⟩ := hsent ⟨entry, hentry, hid, hdispatch⟩
      exact ⟨row, hmem, hsame.trans hid.symm, htype⟩
    · obtain ⟨row, hmem, hsame, htype⟩ := h.sent entry (hold entry hentry hid) hdispatch
      have hne : row.id ≠ eventId := hsame ▸ hid
      exact ⟨row, (honly.rows row hne).mpr hmem, hsame, htype⟩

/-- The changed event has a row of the workers' types, which lives. -/
theorem Lives.of_row (h : Lives limit types s) (honly : Only eventId s t) {row : OutboxRow}
    (hmem : row ∈ t.1) (hid : row.id = eventId) (htype : row.eventType ∈ types) {phase : Phase}
    (hstatus : phase.status = row.status)
    (hlife : Life limit (history t.2 eventId) phase row.attempts) : Lives limit types t := by
  refine h.of_only honly ?_ (fun _ => ⟨row, hmem, hid⟩) (fun _ => ⟨row, hmem, hid, htype⟩)
  intro other hother hsame _
  obtain rfl := Table.eq_of_key hother hmem (hsame.trans hid.symm)
  rw [hid]
  exact ⟨phase, hstatus, hlife⟩

/-- A row is changed and nothing is written down. -/
theorem only_upsert {outbox : Outbox} {log : List (String × Entry)} {row row' : OutboxRow}
    (hid : row'.id = row.id) : Only row.id (outbox, log) (outbox.upsert row', log) := by
  refine ⟨?_, ?_, ⟨[], (List.append_nil _).symm⟩⟩
  · intro other hne
    rw [Table.mem_upsert]
    constructor
    · intro h
      rcases h with rfl | ⟨h, -⟩
      · exact absurd hid hne
      · exact h
    · intro h
      exact .inr ⟨h, fun heq => hne (heq.trans hid)⟩
  · intro _
    exact ⟨row', Table.mem_upsert.mpr (.inl rfl), hid⟩

theorem Only.refl (eventId : String) (s : Observed) : Only eventId s s :=
  ⟨fun _ _ => Iff.rfl, id, ⟨[], (List.append_nil _).symm⟩⟩

/-! ## A call -/

/-- The event an operation is about. -/
def Op.event : Op → Option String
  | .claimNext _ _ => none
  | .dispatch event => some event.id
  | .markDelivered eventId | .markFailed eventId _ _ _ => some eventId

/-- The event a call is about to dispatch or to mark. -/
def holds (p : Await WebhookDispatchWorkerResult) : Option String := p.waitsFor.bind Op.event

theorem holds_done {result : Except PayoutError WebhookDispatchWorkerResult} :
    holds (.done result) ≠ some eventId := nofun

/-- The event is in `processing`, in this phase of its life, and the record is up to date. -/
def Holding (limit : Nat) (types : List String) (s : Observed) (event : OutboxEventRecord)
    (phase : Phase) : Prop :=
  ∃ row ∈ s.1, row.id = event.id ∧ row.eventType ∈ types ∧ row.status = .processing ∧
    row.attempts = event.attempts ∧ Life limit (history s.2 event.id) phase event.attempts

/-- How far a call is. -/
inductive Stage (host : Host) (limit : Nat) (types : List String) (call : WebhookCall)
    (s : Observed) : Await WebhookDispatchWorkerResult → Prop
  | claims : Stage host limit types call s (processNext host call)
  | dispatches {now : String} {event : OutboxEventRecord}
      (hholding : Holding limit types s event .claimed) :
      Stage host limit types call s (deliver host call now event)
  | marks {now : String} {event : OutboxEventRecord} {answer : WebhookDeliveryResult}
      (hholding : Holding limit types s event (.answered (maxAttempts call) answer)) :
      Stage host limit types call s (settleDelivery host call now event answer)
  | done (result : Except PayoutError WebhookDispatchWorkerResult) :
      Stage host limit types call s (.done result)

variable {host : Host} {call : WebhookCall} {event : OutboxEventRecord}
  {p p' : Await WebhookDispatchWorkerResult}

theorem Holding.of_only (h : Holding limit types s event phase) (honly : Only eventId s t)
    (hne : event.id ≠ eventId) : Holding limit types t event phase := by
  obtain ⟨row, hmem, hid, htype, hstatus, hattempts, hlife⟩ := h
  refine ⟨row, (honly.rows row (hid ▸ hne)).mpr hmem, hid, htype, hstatus, hattempts, ?_⟩
  rw [honly.history hne]
  exact hlife

theorem settleDelivery_exhausted {now error : String} {availableAt : Option String}
    {statusCode : Option Int} (h : hasExhaustedAttempts call event = true) :
    settleDelivery host call now event (.retry error availableAt statusCode) =
      giveUp now event ("webhook delivery attempts exhausted: " ++ error) statusCode :=
  if_pos h

theorem settleDelivery_retry {now error : String} {availableAt : Option String}
    {statusCode : Option Int} (h : ¬ hasExhaustedAttempts call event = true) :
    settleDelivery host call now event (.retry error availableAt statusCode) = (do
      let availableAt ← Await.ofExcept (retryAt host call now availableAt)
      let _ ← Await.markFailed event.id error availableAt false
      pure (.retryScheduled event error availableAt statusCode)) :=
  if_neg h

/-- A call with an answer is about to mark its event, or has thrown. -/
theorem holds_settleDelivery (now : String) (answer : WebhookDeliveryResult) :
    holds (settleDelivery host call now event answer) = some event.id ∨
      ∃ result, settleDelivery host call now event answer = .done result := by
  cases answer with
  | delivered statusCode => exact .inl rfl
  | rejected error statusCode => exact .inl rfl
  | retry error availableAt statusCode =>
      by_cases hexhausted : hasExhaustedAttempts call event
      · rw [settleDelivery_exhausted hexhausted]
        exact .inl rfl
      · rw [settleDelivery_retry hexhausted]
        cases hretry : retryAt host call now availableAt with
        | error e => exact .inr ⟨_, rfl⟩
        | ok at' => exact .inl rfl

theorem Stage.of_only (h : Stage host limit types call s p) (honly : Only eventId s t)
    (hne : holds p ≠ some eventId) : Stage host limit types call t p := by
  cases h with
  | claims => exact .claims
  | dispatches hholding => exact .dispatches (hholding.of_only honly fun heq => hne (congrArg some heq))
  | @marks now event answer hholding =>
      rcases @holds_settleDelivery host call event now answer with hholds | ⟨result, hdone⟩
      · exact .marks (hholding.of_only honly fun heq => hne (hholds.trans (congrArg some heq)))
      · rw [hdone]
        exact .done result
  | done result => exact .done result

/-- What a call holds is in `processing`. -/
theorem Stage.processing (h : Stage host limit types call s p) (hholds : holds p = some eventId) :
    ∃ row ∈ s.1, row.id = eventId ∧ row.status = .processing := by
  cases h with
  | claims => cases hholds
  | dispatches hholding =>
      obtain ⟨row, hmem, hid, -, hstatus, -⟩ := hholding
      exact ⟨row, hmem, hid.trans (Option.some.inj hholds), hstatus⟩
  | @marks now event answer hholding =>
      obtain ⟨row, hmem, hid, -, hstatus, -⟩ := hholding
      rcases @holds_settleDelivery host call event now answer with hevent | ⟨result, hdone⟩
      · exact ⟨row, hmem, hid.trans (Option.some.inj (hevent.symm.trans hholds)), hstatus⟩
      · rw [hdone] at hholds
        cases hholds
  | done result => cases hholds

/-! ## One step of a call -/

/-- What an operation of a call leaves: all events live on, the call is at its next stage, what it
holds now it has held or was waiting, and a call that holds another event is where it was. -/
structure Resumed (host : Host) (limit : Nat) (types : List String) (call : WebhookCall)
    (s t : Observed) (p p' : Await WebhookDispatchWorkerResult) : Prop where
  lives : Lives limit types t
  stage : Stage host limit types call t p'
  takes : ∀ eventId, holds p' = some eventId → holds p = some eventId ∨
    ∃ row ∈ s.1, row.id = eventId ∧ row.status = .pending
  frame : ∀ call' q, Stage host limit types call' s q →
    (∀ eventId, holds q = some eventId → holds p ≠ some eventId) → Stage host limit types call' t q

/-- A claim takes nothing, or an event that waits; only then it may return it. -/
theorem claim_cases {now : String} {claimed : List String}
    {answer : Except PayoutError (Option OutboxEventRecord)}
    (hserve : serve host call s (.claimNext now claimed) = (t, answer)) :
    t.2 = s.2 ∧ ((t.1 = s.1 ∧ ∀ record, answer ≠ .ok (some record)) ∨
      ∃ row lockedAt, row ∈ s.1 ∧ row.status = .pending ∧ row.eventType ∈ claimed ∧
        t.1 = s.1.upsert (Outbox.claimed row lockedAt) ∧
        ∀ record, answer = .ok (some record) →
          record.id = row.id ∧ record.attempts = row.attempts + 1) := by
  obtain ⟨rfl, rfl⟩ := Prod.mk.inj hserve
  refine ⟨rfl, ?_⟩
  dsimp only
  unfold claimNormalized
  by_cases hempty : claimed.isEmpty
  · rw [if_pos hempty]
    left
    cases call.claim <;> exact ⟨rfl, nofun⟩
  rw [if_neg hempty, Outbox.claimNext]
  cases timestamptz host now with
  | error e =>
      left
      cases call.claim <;> exact ⟨rfl, nofun⟩
  | ok lockedAt =>
      dsimp only
      cases hclaimable : s.1.claimable lockedAt claimed with
      | nil =>
          left
          cases call.claim <;> exact ⟨rfl, nofun⟩
      | cons row rest =>
          have hfirst : row ∈ s.1.claimable lockedAt claimed := by simp [hclaimable]
          rw [Outbox.claimable, (sortBy_perm _ _).mem_iff, List.mem_filter] at hfirst
          obtain ⟨hmem, hguard⟩ := hfirst
          simp only [Bool.and_eq_true, beq_iff_eq, decide_eq_true_eq] at hguard
          cases call.claim with
          | failedBefore e => exact .inl ⟨rfl, nofun⟩
          | failedAfter e => exact .inr ⟨row, lockedAt, hmem, hguard.1.1, hguard.2, rfl, nofun⟩
          | answered =>
              refine .inr ⟨row, lockedAt, hmem, hguard.1.1, hguard.2, rfl, ?_⟩
              intro record hrecord
              have hmap : some <$> mapOutboxEvent host (Outbox.claimed row lockedAt) =
                  .ok (some record) := hrecord
              cases hevent : mapOutboxEvent host (Outbox.claimed row lockedAt) with
              | error e =>
                  rw [hevent] at hmap
                  cases hmap
              | ok event =>
                  rw [hevent] at hmap
                  obtain rfl := Option.some.inj (Except.ok.inj hmap)
                  obtain ⟨payload, -, hfields⟩ := bind_eq_ok.mp hevent
                  rw [← pure_eq_ok.mp hfields]
                  exact ⟨rfl, rfl⟩

/-- How a call goes on after its claim. -/
def afterClaim (host : Host) (call : WebhookCall) :
    Except PayoutError (Option OutboxEventRecord) → Await WebhookDispatchWorkerResult
  | .error e => .done (.error e)
  | .ok none => .done (.ok .idle)
  | .ok (some event) => deliver host call (host.toISOString call.clock) event

theorem processNext_eq : processNext host call =
    .await (.claimNext (host.toISOString call.clock) (eventTypes call)) (afterClaim host call) := by
  refine congrArg (Async.await _) (funext fun answer => ?_)
  rcases answer with e | _ | event <;> rfl

theorem deliver_eq (now : String) : deliver host call now event =
    .await (.dispatch event) fun answer =>
      settleDelivery host call now event (taken answer) := by
  refine congrArg (Async.await _) (funext fun answer => ?_)
  cases answer <;> rfl

/-- The claim of a call. -/
theorem resumed_claim (hlives : Lives limit types s) (hfit : ∀ type ∈ eventTypes call, type ∈ types)
    {op : Op} {answer : Except PayoutError op.Answer}
    {resume : Except PayoutError op.Answer → Await WebhookDispatchWorkerResult}
    (hstart : .await op resume = processNext host call)
    (hserve : serve host call s op = (t, answer)) :
    Resumed host limit types call s t (.await op resume) (resume answer) := by
  rw [processNext_eq] at hstart
  cases hstart
  obtain ⟨hlog, ⟨hsame, hnone⟩ | ⟨row, lockedAt, hmem, hpending, htype, hrow, hrecord⟩⟩ :=
    claim_cases hserve
  · obtain rfl : t = s := Prod.ext hsame hlog
    obtain ⟨result, hdone⟩ : ∃ result, afterClaim host call answer = .done result := by
      rcases answer with e | _ | record
      · exact ⟨_, rfl⟩
      · exact ⟨_, rfl⟩
      · exact absurd rfl (hnone record)
    rw [hdone]
    refine ⟨hlives, .done result, ?_, fun _ _ hstage _ => hstage⟩
    intro eventId hholds
    cases hholds
  · -- the event is in `processing` now, whether or not the call gets to know it
    have honly : Only row.id s t := by
      rw [show t = (s.1.upsert (Outbox.claimed row lockedAt), s.2) from Prod.ext hrow hlog]
      exact only_upsert rfl
    have hclaimed : Outbox.claimed row lockedAt ∈ t.1 := by
      rw [hrow]
      exact Table.mem_upsert.mpr (.inl rfl)
    obtain ⟨phase, hstatus, hlife⟩ := hlives.row row hmem (hfit _ htype)
    have hwaiting : phase = .waiting := by
      rw [hpending] at hstatus
      cases phase <;> first | rfl | cases hstatus
    subst hwaiting
    rw [← hlog] at hlife
    have hnow : Phase.status .claimed = (Outbox.claimed row lockedAt).status := rfl
    refine ⟨hlives.of_row honly hclaimed rfl (hfit _ htype) hnow hlife.claim, ?_, ?_, ?_⟩
    · rcases answer with e | _ | record
      · exact .done _
      · exact .done _
      · obtain ⟨hid, hattempts⟩ := hrecord record rfl
        refine .dispatches ⟨_, hclaimed, hid.symm, hfit _ htype, rfl, hattempts.symm, ?_⟩
        rw [hid, hattempts]
        exact hlife.claim
    · intro eventId hholds
      right
      rcases answer with e | _ | record
      · cases hholds
      · cases hholds
      · obtain ⟨hid, -⟩ := hrecord record rfl
        exact ⟨row, hmem, hid.symm.trans (Option.some.inj hholds), hpending⟩
    · -- who holds an event holds another one, as this one was waiting
      intro call' q hstage _
      refine hstage.of_only honly ?_
      intro hholds
      obtain ⟨row', hmem', hid, hprocessing⟩ := hstage.processing hholds
      obtain rfl := Table.eq_of_key hmem' hmem hid
      rw [hpending] at hprocessing
      cases hprocessing

/-- The dispatch of a call. -/
theorem resumed_dispatch {now : String} (hlives : Lives limit types s)
    (hmax : maxAttempts call ≤ limit) (hholding : Holding limit types s event .claimed) {op : Op}
    {answer : Except PayoutError op.Answer}
    {resume : Except PayoutError op.Answer → Await WebhookDispatchWorkerResult}
    (hdeliver : .await op resume = deliver host call now event)
    (hserve : serve host call s op = (t, answer)) :
    Resumed host limit types call s t (.await op resume) (resume answer) := by
  rw [deliver_eq] at hdeliver
  cases hdeliver
  obtain ⟨rfl, rfl⟩ := Prod.mk.inj hserve
  obtain ⟨row, hmem, hid, htype, hstatus, hattempts, hlife⟩ := hholding
  have hanswered := hlife.dispatch hmax (taken (call.delivery event))
  rw [← history_append_self] at hanswered
  have honly : Only event.id s (s.1, s.2 ++ [(event.id, .dispatched event.attempts
      (maxAttempts call) (taken (call.delivery event)))]) :=
    ⟨fun _ _ => Iff.rfl, id, ⟨[_], rfl⟩⟩
  refine ⟨?_, .marks ⟨row, hmem, hid, htype, hstatus, hattempts, hanswered⟩, ?_, ?_⟩
  · have hnow : Phase.status (.answered (maxAttempts call) (taken (call.delivery event))) =
        row.status := hstatus.symm
    refine hlives.of_row honly hmem hid htype hnow ?_
    rw [hattempts]
    exact hanswered
  · intro eventId hholds
    left
    have hheld : holds (settleDelivery host call now event (taken (call.delivery event))) =
      some eventId := hholds
    rcases @holds_settleDelivery host call event now (taken (call.delivery event)) with
      hevent | ⟨result, hdone⟩
    · exact hevent.symm.trans hheld
    · rw [hdone] at hheld
      cases hheld
  · intro call' q hstage hother
    exact hstage.of_only honly fun hholds => hother event.id hholds rfl

/-- A mark of an event in `processing` changes its row, or fails before it does. -/
theorem settle_of_run (host : Host) {outcome : QueryOutcome} {outbox u : Outbox}
    {change : OutboxRow → OutboxRow}
    {answer : Except PayoutError (Option OutboxEventRecord)} {row : OutboxRow}
    (hrun : outcome.run outbox (outbox.settle host row.id change) = (u, answer)) (hmem : row ∈ outbox)
    (hprocessing : row.status = .processing) : u = outbox ∨ u = outbox.upsert (change row) := by
  have hsettle : (outbox.settle host row.id change).1 = outbox.upsert (change row) := by
    rw [Outbox.settle, Table.find?_of_mem hmem, Option.filter_some, hprocessing]
    rfl
  cases outcome with
  | answered =>
      have hu := congrArg Prod.fst hrun
      exact .inr (hu.symm.trans hsettle)
  | failedBefore e => exact .inl (congrArg Prod.fst hrun).symm
  | failedAfter e =>
      have hu := congrArg Prod.fst hrun
      exact .inr (hu.symm.trans hsettle)

theorem markFailed_of_run (host : Host) {outcome : QueryOutcome} {outbox u : Outbox}
    {error availableAt : String}
    {deadLetter : Bool} {answer : Except PayoutError (Option OutboxEventRecord)} {row : OutboxRow}
    (hrun : outcome.run outbox (outbox.markFailed host row.id error availableAt deadLetter) =
      (u, answer)) (hmem : row ∈ outbox) (hprocessing : row.status = .processing) :
    u = outbox ∨ ∃ at', u = outbox.upsert { row with
      status := if deadLetter then .deadLetter else .pending
      availableAt := at'
      lockedAt := none
      lastError := some error } := by
  rw [Outbox.markFailed] at hrun
  cases hat : timestamptz host availableAt with
  | error e =>
      rw [hat] at hrun
      left
      cases outcome <;> exact (congrArg Prod.fst hrun).symm
  | ok at' =>
      rw [hat] at hrun
      rcases settle_of_run host hrun hmem hprocessing with h | h
      · exact .inl h
      · exact .inr ⟨at', h⟩

/-- The call ends by marking the event it holds, or without. -/
theorem resumed_marked {row : OutboxRow} {u : Outbox} (hlives : Lives limit types s)
    (htype : row.eventType ∈ types) (hholds : holds p = some row.id)
    (hu : u = s.1 ∨ ∃ row' phase', u = s.1.upsert row' ∧ row'.id = row.id ∧
      row'.eventType = row.eventType ∧ Phase.status phase' = row'.status ∧
      Life limit (history s.2 row.id) phase' row'.attempts)
    (result : Except PayoutError WebhookDispatchWorkerResult) :
    Resumed host limit types call s (u, s.2) p (.done result) := by
  rcases hu with rfl | ⟨row', phase', rfl, hid, htype', hstatus, hlife⟩
  · exact ⟨hlives, .done result, fun _ h => absurd h holds_done, fun _ _ hstage _ => hstage⟩
  · have honly : Only row.id s (s.1.upsert row', s.2) := only_upsert hid
    refine ⟨?_, .done result, fun _ h => absurd h holds_done, ?_⟩
    · exact hlives.of_row honly (Table.mem_upsert.mpr (.inl rfl)) hid (htype' ▸ htype) hstatus hlife
    · intro call' q hstage hother
      exact hstage.of_only honly fun hheld => hother row.id hheld hholds

/-- A call whose last operation this is. -/
theorem call_bind_pure {α : Type} (op : Op) (result : op.Answer → α) :
    (Async.call op >>= fun answer => pure (result answer) : Await α) =
      .await op fun answer => .done (result <$> answer) := by
  refine congrArg (Async.await op) (funext fun answer => ?_)
  cases answer <;> rfl

/-- The mark of a call. -/
theorem resumed_mark {now : String} {delivery : WebhookDeliveryResult} (hlives : Lives limit types s)
    (hholding : Holding limit types s event (.answered (maxAttempts call) delivery)) {op : Op}
    {answer : Except PayoutError op.Answer}
    {resume : Except PayoutError op.Answer → Await WebhookDispatchWorkerResult}
    (hsettle : .await op resume = settleDelivery host call now event delivery)
    (hserve : serve host call s op = (t, answer)) :
    Resumed host limit types call s t (.await op resume) (resume answer) := by
  obtain ⟨row, hmem, hid, htype, hprocessing, hattempts, hlife⟩ := hholding
  rw [← hid, ← hattempts] at hlife
  have hholds : some event.id = some row.id := congrArg some hid.symm
  -- the event is given up, whatever for
  have hgives : ∀ {error : String} {statusCode : Option Int},
      .await op resume = giveUp now event error statusCode →
      givesUp row.attempts (maxAttempts call) delivery = true →
      Resumed host limit types call s t (.await op resume) (resume answer) := by
    intro error statusCode hgive hup
    rw [giveUp, Await.markFailed, call_bind_pure] at hgive
    cases hgive
    obtain ⟨rfl, -⟩ := Prod.mk.inj hserve
    refine resumed_marked hlives htype ?_ ?_ _
    · exact hholds
    rw [← hid]
    rcases markFailed_of_run host (u := _) rfl hmem hprocessing with h | ⟨at', h⟩
    · exact .inl h
    · exact .inr ⟨_, .dead, h, rfl, rfl, rfl, hlife.giveUp hup⟩
  cases delivery with
  | delivered statusCode =>
      rw [settleDelivery, Await.markDelivered, call_bind_pure] at hsettle
      cases hsettle
      obtain ⟨rfl, -⟩ := Prod.mk.inj hserve
      refine resumed_marked hlives htype ?_ ?_ _
      · exact hholds
      rw [← hid]
      rcases settle_of_run host (u := _) rfl hmem hprocessing with h | h
      · exact .inl h
      · exact .inr ⟨_, .delivered, h, rfl, rfl, rfl, hlife.deliver⟩
  | rejected error statusCode => exact hgives hsettle rfl
  | retry error availableAt statusCode =>
      by_cases hexhausted : hasExhaustedAttempts call event
      · rw [settleDelivery_exhausted hexhausted] at hsettle
        refine hgives hsettle ?_
        rw [givesUp, hattempts]
        exact hexhausted
      · rw [settleDelivery_retry hexhausted] at hsettle
        cases hretry : retryAt host call now availableAt with
        | error e =>
            rw [hretry] at hsettle
            cases hsettle
        | ok at' =>
            rw [hretry] at hsettle
            have hmark := hsettle.trans (call_bind_pure
              (.markFailed event.id error at' false) (fun _ =>
                WebhookDispatchWorkerResult.retryScheduled event error at' statusCode))
            cases hmark
            obtain ⟨rfl, -⟩ := Prod.mk.inj hserve
            refine resumed_marked hlives htype ?_ ?_ _
            · exact hholds
            rw [← hid]
            have hagain : triesAgain row.attempts (maxAttempts call)
                (.retry error availableAt statusCode) = true := by
              rw [hasExhaustedAttempts, decide_eq_true_eq, ← hattempts, not_le] at hexhausted
              exact decide_eq_true hexhausted
            rcases markFailed_of_run host (u := _) rfl hmem hprocessing with h | ⟨_, h⟩
            · exact .inl h
            · exact .inr ⟨_, .waiting, h, rfl, rfl, rfl, hlife.retry hagain⟩

/-- An operation of a call. -/
theorem resumed_of_stage (hlives : Lives limit types s)
    (hfit : (∀ type ∈ eventTypes call, type ∈ types) ∧ maxAttempts call ≤ limit) {op : Op}
    {answer : Except PayoutError op.Answer}
    {resume : Except PayoutError op.Answer → Await WebhookDispatchWorkerResult}
    (h : Stage host limit types call s (.await op resume)) (hserve : serve host call s op = (t, answer)) :
    Resumed host limit types call s t (.await op resume) (resume answer) := by
  generalize hp : Async.await op resume = p at h
  cases h with
  | claims => exact hp ▸ resumed_claim hlives hfit.1 hp hserve
  | dispatches hholding => exact hp ▸ resumed_dispatch hlives hfit.2 hholding hp hserve
  | marks hholding => exact hp ▸ resumed_mark hlives hholding hp hserve
  | done result => cases hp

/-! ## Beside the calls -/

variable {print : Json → String}

/-- A request puts an event back that has been given up, or changes nothing. -/
theorem requeue_cases (s : Observed) (input : RequeueDeadLetterWebhookEventInput) :
    requeue host print s input = s ∨ ∃ row now, row ∈ s.1 ∧ row.status = .deadLetter ∧
      requeue host print s input =
        (s.1.upsert (Outbox.requeued row now), s.2 ++ [(row.id, .requeued)]) := by
  unfold requeue requeues Outbox.requeueDeadLetterWebhookEvent
  have hsame : (s.1, s.2 ++ []) = s := by rw [List.append_nil]
  by_cases hmerchant : isBlank input.merchantId
  · simp only [hmerchant, if_true, Bool.true_or, Option.map_none, Option.toList_none]
    exact .inl hsame
  by_cases hevent : isBlank input.eventId
  · simp only [hmerchant, hevent, if_true, Bool.or_true, Option.map_none,
      Option.toList_none]
    exact .inl hsame
  simp only [hmerchant, hevent, Bool.or_self, if_false, Bool.false_eq_true]
  cases timestamptz host input.now with
  | error e => exact .inl hsame
  | ok now =>
      dsimp only
      cases hfound : s.1.ofMerchant print input with
      | none => exact .inl hsame
      | some row =>
          obtain ⟨hfind, -⟩ := Option.filter_eq_some_iff.mp hfound
          dsimp only
          by_cases hdead : row.status = .deadLetter
          · rw [if_pos hdead]
            refine .inr ⟨row, now, Table.mem_of_find? hfind, hdead, ?_⟩
            simp [hdead]
          · have hnone : (some row).filter (·.status = .deadLetter) = none := by
              rw [Option.filter_some, if_neg (by simpa using hdead)]
            rw [if_neg hdead, hnone]
            exact .inl hsame

theorem Stage.of_same (h : Stage host limit types call s p)
    (hrows : ∀ row ∈ s.1, row.eventType ∈ types → row ∈ t.1) (hlog : t.2 = s.2) :
    Stage host limit types call t p := by
  have hsame : ∀ {event : OutboxEventRecord} {phase : Phase}, Holding limit types s event phase →
      Holding limit types t event phase := by
    intro event phase ⟨row, hmem, hid, htype, hstatus, hattempts, hlife⟩
    exact ⟨row, hrows row hmem htype, hid, htype, hstatus, hattempts, hlog ▸ hlife⟩
  cases h with
  | claims => exact .claims
  | dispatches hholding => exact .dispatches (hsame hholding)
  | marks hholding => exact .marks (hsame hholding)
  | done result => exact .done result

/-- What others write, the events of the workers live through. -/
theorem Lives.of_others (h : Lives limit types s) (hothers : Others types s.1 t.1)
    (hlog : t.2 = s.2) : Lives limit types t := by
  refine ⟨?_, ?_, ?_⟩
  · intro row hmem htype
    rw [hlog]
    rcases hothers.new row hmem htype with hold | ⟨hpending, hattempts⟩
    · exact h.row row hold htype
    · by_cases hlogged : ∃ entry ∈ s.2, entry.1 = row.id
      · -- an event with a history is an old one
        obtain ⟨entry, hentry, hid⟩ := hlogged
        obtain ⟨old, hold, hsame⟩ := h.known entry hentry
        obtain ⟨kept, hkept, hkeptId, hkeptType⟩ := hothers.keeps old hold
        obtain rfl := Table.eq_of_key hkept hmem (hkeptId.trans (hsame.trans hid))
        have hsameRow := hothers.same old hold (hkeptType ▸ htype)
        obtain rfl := Table.eq_of_key hsameRow hmem hkeptId.symm
        exact h.row old hold htype
      · have hnone : history s.2 row.id = [] := by
          rw [history, List.map_eq_nil_iff, List.filter_eq_nil_iff]
          intro entry hentry hid
          exact hlogged ⟨entry, hentry, of_decide_eq_true hid⟩
        rw [hnone, hattempts]
        exact ⟨.waiting, hpending.symm, .created⟩
  · intro entry hentry
    rw [hlog] at hentry
    obtain ⟨row, hmem, hid⟩ := h.known entry hentry
    obtain ⟨kept, hkept, hkeptId, -⟩ := hothers.keeps row hmem
    exact ⟨kept, hkept, hkeptId.trans hid⟩
  · intro entry hentry hdispatch
    rw [hlog] at hentry
    obtain ⟨row, hmem, hid, htype⟩ := h.sent entry hentry hdispatch
    exact ⟨row, hothers.same row hmem htype, hid, htype⟩

/-- An event that is put back lives on, and is held by no call. -/
theorem requeued_spec (now : Int) {row : OutboxRow} (h : Lives limit types s) (hmem : row ∈ s.1)
    (hdead : row.status = .deadLetter) :
    Only row.id s (s.1.upsert (Outbox.requeued row now), s.2 ++ [(row.id, .requeued)]) ∧
      Lives limit types (s.1.upsert (Outbox.requeued row now), s.2 ++ [(row.id, .requeued)]) := by
  have hupsert : Only row.id (s.1, s.2) (s.1.upsert (Outbox.requeued row now), s.2) := only_upsert rfl
  have honly : Only row.id s (s.1.upsert (Outbox.requeued row now), s.2 ++ [(row.id, .requeued)]) :=
    ⟨hupsert.rows, hupsert.row, ⟨[.requeued], rfl⟩⟩
  have hnew : Outbox.requeued row now ∈ s.1.upsert (Outbox.requeued row now) :=
    Table.mem_upsert.mpr (.inl rfl)
  refine ⟨honly, h.of_only honly ?_ (fun _ => ⟨_, hnew, rfl⟩) ?_⟩
  · intro other hother hid htype
    obtain rfl := Table.eq_of_key hother hnew hid
    obtain ⟨phase, hstatus, hlife⟩ := h.row row hmem htype
    have hphase : phase = .dead := by
      rw [hdead] at hstatus
      cases phase <;> first | rfl | cases hstatus
    rw [hphase] at hlife
    have hrequeued := hlife.requeue
    rw [← history_append_self] at hrequeued
    exact ⟨.waiting, rfl, hrequeued⟩
  · intro ⟨entry, hentry, hid, hdispatch⟩
    rcases List.mem_append.mp hentry with hentry | hentry
    · obtain ⟨old, hold, hsame, htype⟩ := h.sent entry hentry hdispatch
      obtain rfl := Table.eq_of_key hold hmem (hsame.trans hid)
      exact ⟨_, hnew, rfl, htype⟩
    · rw [List.mem_singleton.mp hentry] at hdispatch
      cases hdispatch

/-! ## All calls -/

variable {pool pool' : Calls} {step : Pool.Event WebhookCall Beside}

/-- All events live, every call is at a stage, and no two calls hold one event. -/
structure Sound (host : Host) (limit : Nat) (types : List String) (pool : Calls) : Prop where
  lives : Lives limit types pool.shared
  fit : ∀ entry ∈ pool.calls,
    (∀ type ∈ eventTypes entry.1, type ∈ types) ∧ maxAttempts entry.1 ≤ limit
  stage : ∀ entry ∈ pool.calls, Stage host limit types entry.1 pool.shared entry.2
  alone : ∀ (i j : Nat) entry entry' eventId, i ≠ j → pool.calls[i]? = some entry →
    pool.calls[j]? = some entry' → holds entry.2 = some eventId → holds entry'.2 ≠ some eventId

theorem Sound.start (h : Sound host limit types pool)
    (hfit : (∀ type ∈ eventTypes call, type ∈ types) ∧ maxAttempts call ≤ limit) :
    Sound host limit types { pool with calls := pool.calls ++ [(call, processNext host call)] } := by
  have hnone : ∀ {eventId : String}, holds (processNext host call) ≠ some eventId := nofun
  refine ⟨h.lives, ?_, ?_, ?_⟩
  · intro entry hentry
    rcases List.mem_append.mp hentry with hentry | hentry
    · exact h.fit entry hentry
    · rw [List.mem_singleton.mp hentry]
      exact hfit
  · intro entry hentry
    rcases List.mem_append.mp hentry with hentry | hentry
    · exact h.stage entry hentry
    · rw [List.mem_singleton.mp hentry]
      exact .claims
  · intro i j entry entry' eventId hne hi hj hholds hholds'
    -- the new call holds nothing, so both are old ones
    have hold : ∀ {k : Nat} {entry : WebhookCall × Await WebhookDispatchWorkerResult},
        (pool.calls ++ [(call, processNext host call)])[k]? = some entry →
        holds entry.2 = some eventId → pool.calls[k]? = some entry := by
      intro k entry hk hheld
      by_cases hlt : k < pool.calls.length
      · rwa [List.getElem?_append_left hlt] at hk
      · rw [List.getElem?_append_right (Nat.le_of_not_lt hlt)] at hk
        obtain rfl := List.mem_singleton.mp (List.mem_of_getElem? hk)
        exact absurd hheld hnone
    exact h.alone i j entry entry' eventId hne (hold hi hholds) (hold hj hholds') hholds hholds'

theorem Sound.resume (h : Sound host limit types pool) {i : Nat} {op : Op} {u : Observed}
    {answer : Except PayoutError op.Answer}
    {resume : Except PayoutError op.Answer → Await WebhookDispatchWorkerResult}
    (hi : pool.calls[i]? = some (call, .await op resume))
    (hserve : serve host call pool.shared op = (u, answer)) :
    Sound host limit types ⟨u, pool.calls.set i (call, resume answer)⟩ := by
  have hmem := List.mem_of_getElem? hi
  have hresumed := resumed_of_stage h.lives (h.fit _ hmem) (h.stage _ hmem) hserve
  have hlt : i < pool.calls.length := (List.getElem?_eq_some_iff.mp hi).1
  have hself : (pool.calls.set i (call, resume answer))[i]? = some (call, resume answer) :=
    List.getElem?_set_self hlt
  have hother : ∀ {j : Nat}, i ≠ j →
      (pool.calls.set i (call, resume answer))[j]? = pool.calls[j]? :=
    fun hne => List.getElem?_set_ne hne
  -- what the call holds now, no other call holds
  have hfree : ∀ {j : Nat} {entry : WebhookCall × Await WebhookDispatchWorkerResult}
      {eventId : String}, i ≠ j → pool.calls[j]? = some entry →
      holds (resume answer) = some eventId → holds entry.2 ≠ some eventId := by
    intro j entry eventId hne hj hholds hheld
    rcases hresumed.takes eventId hholds with hbefore | ⟨row, hrow, hid, hpending⟩
    · exact h.alone i j _ entry eventId hne hi hj hbefore hheld
    · obtain ⟨row', hrow', hid', hprocessing⟩ :=
        (h.stage entry (List.mem_of_getElem? hj)).processing hheld
      obtain rfl := Table.eq_of_key hrow' hrow (hid'.trans hid.symm)
      rw [hpending] at hprocessing
      cases hprocessing
  refine ⟨hresumed.lives, ?_, ?_, ?_⟩
  · intro entry hentry
    rcases List.mem_or_eq_of_mem_set hentry with hentry | rfl
    · exact h.fit entry hentry
    · exact h.fit (call, .await op resume) hmem
  · intro entry hentry
    obtain ⟨j, hj⟩ := List.mem_iff_getElem?.mp hentry
    by_cases hij : i = j
    · subst hij
      obtain rfl := Option.some.inj (hself.symm.trans hj)
      exact hresumed.stage
    · have hold : pool.calls[j]? = some entry := (hother hij).symm.trans hj
      refine hresumed.frame _ _ (h.stage entry (List.mem_of_getElem? hold)) ?_
      intro eventId hheld hholds
      exact h.alone i j _ entry eventId hij hi hold hholds hheld
  · intro j k entry entry' eventId hne hj hk hholds
    by_cases hij : i = j
    · subst hij
      obtain rfl := Option.some.inj (hself.symm.trans hj)
      exact hfree hne ((hother hne).symm.trans hk) hholds
    · have hold : pool.calls[j]? = some entry := (hother hij).symm.trans hj
      by_cases hik : i = k
      · subst hik
        obtain rfl := Option.some.inj (hself.symm.trans hk)
        exact fun hheld => hfree hij hold hheld hholds
      · exact h.alone j k entry entry' eventId hne hold ((hother hik).symm.trans hk) hholds

theorem sound_of_reachable
    (h : (workerSystem host print types).Reachable (fun _ step => bounded types limit step = true)
      pool) : Sound host limit types pool := by
  refine h.invariant ?_ ?_
  · intro pool hinit
    obtain ⟨⟨hlog, hrows⟩, hcalls⟩ := hinit
    refine ⟨⟨?_, ?_, ?_⟩, ?_, ?_, ?_⟩
    · intro row hmem _
      obtain ⟨hpending, hattempts⟩ := hrows row hmem
      rw [hlog, hattempts]
      exact ⟨.waiting, hpending.symm, .created⟩
    · rw [hlog]
      exact fun _ => nofun
    · rw [hlog]
      exact fun _ => nofun
    · rw [hcalls]
      exact fun _ => nofun
    · rw [hcalls]
      exact fun _ => nofun
    · rw [hcalls]
      exact fun _ _ _ _ _ _ h => nomatch h
  · intro pool step pool' _ ih hok hstep
    cases hstep with
    | start c =>
        rw [bounded, Bool.and_eq_true, List.all_eq_true, decide_eq_true_eq] at hok
        exact ih.start ⟨fun type htype => of_decide_eq_true (hok.1 type htype), hok.2⟩
    | @resume i c op resume u answer hi hserve => exact ih.resume hi hserve
    | @outside x u hx =>
        cases x with
        | others =>
            obtain ⟨hothers, hlog⟩ := hx
            refine ⟨ih.lives.of_others hothers hlog, ih.fit, ?_, ih.alone⟩
            exact fun entry hentry => (ih.stage entry hentry).of_same hothers.same hlog
        | requeue input =>
            have hu : u = requeue host print pool.shared input := hx
            rcases requeue_cases pool.shared input with hsame | ⟨row, now, hmem, hdead, hrequeue⟩
            · rw [hu, hsame]
              exact ih
            · rw [hu, hrequeue]
              obtain ⟨honly, hlives⟩ := requeued_spec now ih.lives hmem hdead
              refine ⟨hlives, ih.fit, ?_, ih.alone⟩
              intro entry hentry
              refine (ih.stage entry hentry).of_only honly ?_
              intro hholds
              obtain ⟨row', hmem', hid, hprocessing⟩ := (ih.stage entry hentry).processing hholds
              obtain rfl := Table.eq_of_key hmem' hmem hid
              rw [hdead] at hprocessing
              cases hprocessing

/-- What the workers and their outbox come to. -/
structure DeliveredInOrder (limit : Nat) (types : List String) (pool : Calls) : Prop where
  /-- What goes out is an event of the workers. -/
  events : ∀ entry ∈ pool.shared.2, entry.2.isDispatch = true →
    ∃ row ∈ pool.shared.1, row.id = entry.1 ∧ row.eventType ∈ types
  /-- One attempt follows the other; none follows an acknowledgment. -/
  order : ∀ row ∈ pool.shared.1, row.eventType ∈ types →
    (history pool.shared.2 row.id).IsChain Follows
  /-- The attempts are no more than the limit, each time the event is put in or back. -/
  count : ∀ row ∈ pool.shared.1, row.eventType ∈ types →
    dispatches (history pool.shared.2 row.id) ≤
      (requeuesOf (history pool.shared.2 row.id) + 1) * max 1 limit
  /-- The status of an event says how its last attempt was answered. -/
  verdict : ∀ row ∈ pool.shared.1, row.eventType ∈ types →
    Verdict (history pool.shared.2 row.id) row.status
  /-- No two calls are about to dispatch or mark one event. -/
  alone : ∀ (i j : Nat) entry entry' eventId, i ≠ j → pool.calls[i]? = some entry →
    pool.calls[j]? = some entry' → holds entry.2 = some eventId → holds entry'.2 ≠ some eventId

def sampleEventId : String := "00000000-0000-4000-8000-000000000002"

def sampleEvents : Outbox :=
  ⟨[{ id := sampleEventId
      eventType := WEBHOOK_RECEIPT_ACCEPTED_EVENT_TYPE
      aggregateType := "receipt"
      aggregateId := "rct_1"
      payload := .obj [("merchantId", .str "mrc_1")]
      status := .pending
      attempts := 0
      availableAt := 1767225600000
      createdAt := 1767225600000
      lockedAt := none
      lastError := none }], List.nodup_singleton _⟩

/-- A call after some minutes, over HTTP. -/
def sampleWebhook (minutes status : Int) : WebhookCall where
  clock := 1767225600000 + minutes * 60000
  eventTypes := none
  maxAttempts := some 2
  retryDelayMs := none
  delivery _ := .ok (readWebhookDelivery (.ok ⟨status, none⟩))
  claim := .answered
  mark := .answered

/-- Two calls at once, of which one gets the event; a call that is refused; a request to put the event
back; and a call that delivers it. -/
def sampleSchedule : List (Pool.Event WebhookCall Beside) :=
  [.start (sampleWebhook 0 503), .start (sampleWebhook 0 200), .resume 0, .resume 1, .resume 0,
    .resume 0, .start (sampleWebhook 1 400), .resume 2, .resume 2, .resume 2,
    .outside (.requeue ⟨"mrc_1", sampleEventId, "2026-01-01T00:02:00.000Z"⟩),
    .start (sampleWebhook 2 200), .resume 3, .resume 3, .resume 3]

def applyBeside (s : Observed) : Beside → Option Observed
  | .requeue input => some (requeue isoHost (fun _ => "") s input)
  | .others => none

def sampleDelivered : Calls :=
  sampleSchedule.foldl (Pool.advance (serve isoHost) applyBeside (processNext isoHost))
    ⟨(sampleEvents, []), []⟩

end Split402.WebhookDispatch

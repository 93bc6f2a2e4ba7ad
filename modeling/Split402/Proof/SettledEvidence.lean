import Split402.Solana.FinalityMonitor
import Split402.Solana.ReceiptVerifier
import Split402.Store.Ops

/-! # Settled evidence

A payout that is declared failed may be paid again, and a rejected receipt stays rejected. Both
verdicts should rest on an error that the answer states, at a commitment that is not undone. The
classifiers test `err !== null` before the commitment, and a missing field is not `null`: the answers
they are wrong about are exactly the premature ones. -/

namespace Split402

open Base

variable {ν : Type}

/-! ## What an answer says -/

/-- A property of a JSON object. -/
def RpcJson.field (value : RpcJson ν) (name : String) : Option (RpcJson ν) :=
  (readOptionalRecord (some value)).bind (List.lookup name)

/-- The status of the signature asked for, in the body of an answer. -/
def statusObject (body : RpcJson ν) : Option (RpcRecord ν) :=
  match (body.field "result").bind (RpcJson.field · "value") with
  | some (.array (.object status :: _)) => some status
  | _ => none

/-- The `meta` of the transaction asked for. -/
def metaObject (body : RpcJson ν) : Option (RpcRecord ν) :=
  readOptionalRecord ((body.field "result").bind (RpcJson.field · "meta"))

/-- There is an `err`, and it is not `null`. -/
def ExplicitError (record : RpcRecord ν) : Prop :=
  ∃ err, record.lookup "err" = some err ∧ err ≠ .null

def Committed (status : RpcRecord ν) : Prop :=
  status.lookup "confirmationStatus" = some (.string "confirmed") ∨
    status.lookup "confirmationStatus" = some (.string "finalized")

/-- An explicit error for the signature at confirmed or finalized commitment. -/
def SettledError (answer : RpcAnswer ν) : Prop :=
  ∃ body status, answer = .body body ∧ statusObject body = some status ∧ ExplicitError status ∧
    Committed status

/-- A status that is merely processed, or has no `err`. -/
def Unsettled (answer : RpcAnswer ν) : Prop :=
  ∃ body status, answer = .body body ∧ statusObject body = some status ∧
    (status.lookup "confirmationStatus" = some (.string "processed") ∨ status.lookup "err" = none)

/-- A status the readers take that has no `err`, or an error without the commitment. -/
def PrematureStatus (answer : RpcAnswer ν) : Prop :=
  ∃ body status, answer = .body body ∧ body.field "error" = none ∧
    statusObject body = some status ∧
    (∃ commitment,
      readOptionalConfirmationStatus (status.lookup "confirmationStatus") = .ok commitment) ∧
    (status.lookup "err" = none ∨ ExplicitError status ∧ ¬ Committed status)

/-! ## The readers -/

theorem readRecord_eq_ok {value : Option (RpcJson ν)} {record : RpcRecord ν} :
    readRecord value = .ok record ↔ readOptionalRecord value = some record := by
  rw [readRecord]
  cases readOptionalRecord value with
  | none => simp
  | some found => simp

theorem field_eq {body : RpcJson ν} {record : RpcRecord ν} (name : String)
    (h : readRecord (some body) = .ok record) : body.field name = record.lookup name := by
  rw [RpcJson.field, readRecord_eq_ok.mp h]
  rfl

theorem bind_field_eq {value : Option (RpcJson ν)} {record : RpcRecord ν} (name : String)
    (h : readRecord value = .ok record) :
    value.bind (RpcJson.field · name) = record.lookup name := by
  cases value with
  | none => exact absurd (readRecord_eq_ok.mp h) (by simp [readOptionalRecord])
  | some body => exact field_eq name h

theorem readOptionalConfirmationStatus_eq_ok {value : Option (RpcJson ν)}
    {status : Option SolanaSignatureConfirmationStatus}
    (h : readOptionalConfirmationStatus value = .ok status) :
    (status = some .processed ↔ value = some (.string "processed")) ∧
    (status = some .confirmed ↔ value = some (.string "confirmed")) ∧
    (status = some .finalized ↔ value = some (.string "finalized")) := by
  rcases value with _ | (_ | _ | _ | text | _ | _)
  case some.string =>
    obtain ⟨found, hfound, h⟩ := bind_eq_ok.mp h
    rw [pure_eq_ok] at h
    subst h
    simp only [Option.some.injEq, RpcJson.string.injEq]
    rw [readConfirmationStatus] at hfound
    by_cases hp : text = "processed"
    · subst hp
      cases hfound
      decide
    · by_cases hc : text = "confirmed"
      · subst hc
        cases hfound
        decide
      · by_cases hf : text = "finalized"
        · subst hf
          cases hfound
          decide
        · rw [if_neg hp, if_neg hc, if_neg hf] at hfound
          exact absurd hfound throw_ne_ok
  all_goals
    cases pure_eq_ok.mp h
    simp

/-- A field of a field is there only when both are. -/
theorem exists_records {body : RpcJson ν} {outer inner : String} {value : RpcJson ν}
    (h : (body.field outer).bind (RpcJson.field · inner) = some value) :
    ∃ record result, readRecord (some body) = .ok record ∧
      readRecord (record.lookup outer) = .ok result ∧ result.lookup inner = some value := by
  obtain ⟨found, hfound, hvalue⟩ := Option.bind_eq_some_iff.mp h
  obtain ⟨record, hrecord, hlookup⟩ := Option.bind_eq_some_iff.mp hfound
  obtain ⟨result, hresult, hinner⟩ := Option.bind_eq_some_iff.mp hvalue
  exact ⟨record, result, readRecord_eq_ok.mpr hrecord,
    readRecord_eq_ok.mpr (by rw [hlookup]; exact hresult), hinner⟩

/-- The status that is read of an object. -/
def readStatusObject (record : RpcRecord ν) : Except String (SolanaSignatureStatus ν) := do
  let confirmationStatus ← readOptionalConfirmationStatus (record.lookup "confirmationStatus")
  pure ⟨record.lookup "err", confirmationStatus,
    readConfirmations (record.lookup "confirmations")⟩

theorem readSignatureStatus_of_object {body : RpcJson ν} {record : RpcRecord ν}
    (h : statusObject body = some record) :
    readSignatureStatus body = some <$> readStatusObject record := by
  rw [statusObject] at h
  split at h
  · rename_i status rest hvalue
    obtain ⟨top, result, htop, hresult, hlookup⟩ := exists_records hvalue
    cases h
    rw [readSignatureStatus, htop]
    change (readRecord (top.lookup "result") >>= _) = _
    rw [hresult]
    dsimp only [bind, Except.bind]
    rw [hlookup, readStatusObject]
    change (readOptionalConfirmationStatus (record.lookup "confirmationStatus") >>= _) = _
    cases readOptionalConfirmationStatus (record.lookup "confirmationStatus") with
    | error message => rfl
    | ok status => rfl
  · cases h

theorem exists_statusObject {body : RpcJson ν} {status : SolanaSignatureStatus ν}
    (h : readSignatureStatus body = .ok (some status)) :
    ∃ record, statusObject body = some record := by
  obtain ⟨top, htop, h⟩ := bind_eq_ok.mp h
  obtain ⟨result, hresult, h⟩ := bind_eq_ok.mp h
  have hvalue : (body.field "result").bind (RpcJson.field · "value") = result.lookup "value" := by
    rw [field_eq "result" htop]
    exact bind_field_eq "value" hresult
  rw [statusObject, hvalue]
  split at h
  · rename_i value hlookup
    rw [hlookup]
    rcases value with _ | ⟨first, rest⟩
    · exact absurd h (by simp [readRecord, readOptionalRecord, bind, Except.bind, throw,
        throwThe, MonadExceptOf.throw])
    · cases first with
      | object record => exact ⟨record, rfl⟩
      | null => cases h
      | _ => cases h
  · cases h

/-- The answer has a status, as it is read. -/
structure Reads (answer : RpcAnswer ν) (body : RpcJson ν) (record : RpcRecord ν)
    (status : SolanaSignatureStatus ν) : Prop where
  answer_eq : answer = .body body
  no_error : body.field "error" = none
  object : statusObject body = some record
  err : status.err = record.lookup "err"
  commitment : readOptionalConfirmationStatus (record.lookup "confirmationStatus") =
    .ok status.confirmationStatus

variable {numbers : RpcNumbers ν} {answer : RpcAnswer ν}

theorem readRpcError_eq_none {body : RpcJson ν} :
    readRpcError numbers body = .ok none →
      ∃ record, readRecord (some body) = .ok record ∧ body.field "error" = none := by
  intro h
  obtain ⟨record, hrecord, h⟩ := bind_eq_ok.mp h
  refine ⟨record, hrecord, ?_⟩
  rw [field_eq "error" hrecord]
  exact Option.map_eq_none_iff.mp (pure_eq_ok.mp h)

/-- What is read of an answer is read of a body without an error. -/
theorem readAnswer_eq_ok {α : Type} {read : RpcJson ν → Except String α} {value : α}
    (h : readAnswer numbers read answer = .ok value) :
    ∃ body, answer = .body body ∧ body.field "error" = none ∧ read body = .ok value := by
  cases answer with
  | throws message => exact absurd h throw_ne_ok
  | httpStatus status => exact absurd h throw_ne_ok
  | invalid message => exact absurd h throw_ne_ok
  | body body =>
      rw [readAnswer] at h
      split at h
      · exact absurd h throw_ne_ok
      · exact absurd h throw_ne_ok
      · rename_i hnone
        obtain ⟨record, -, herror⟩ := readRpcError_eq_none hnone
        split at h
        · exact absurd h throw_ne_ok
        · rename_i found hread
          cases pure_eq_ok.mp h
          exact ⟨body, rfl, herror, hread⟩

theorem readAnswer_of_body {α : Type} {read : RpcJson ν → Except String α} {value : α}
    {body : RpcJson ν} {record : RpcRecord ν} (hrecord : readRecord (some body) = .ok record)
    (herror : body.field "error" = none) (hread : read body = .ok value) :
    readAnswer numbers read (.body body) = .ok value := by
  have hnone : readRpcError numbers body = .ok none := by
    rw [readRpcError, hrecord]
    rw [field_eq "error" hrecord] at herror
    change Except.ok ((record.lookup "error").map (RpcJson.stringify numbers)) = _
    rw [herror]
    rfl
  rw [readAnswer, hnone]
  dsimp only
  rw [hread]
  rfl

theorem exists_reads {status : SolanaSignatureStatus ν}
    (h : readAnswer numbers readSignatureStatus answer = .ok (some status)) :
    ∃ body record, Reads answer body record status := by
  obtain ⟨body, hbody, herror, hread⟩ := readAnswer_eq_ok h
  obtain ⟨record, hobject⟩ := exists_statusObject hread
  rw [readSignatureStatus_of_object hobject] at hread
  obtain ⟨found, hfound, hsome⟩ := map_eq_ok.mp hread
  cases hsome
  obtain ⟨commitment, hcommitment, hpure⟩ := bind_eq_ok.mp hfound
  cases pure_eq_ok.mp hpure
  exact ⟨body, record, hbody, herror, hobject, rfl, hcommitment⟩

theorem reads_committed {body : RpcJson ν} {record : RpcRecord ν}
    {status : SolanaSignatureStatus ν} (h : Reads answer body record status) :
    Committed record ↔ status.confirmationStatus = some .confirmed ∨
      status.confirmationStatus = some .finalized := by
  obtain ⟨-, hc, hf⟩ := readOptionalConfirmationStatus_eq_ok h.commitment
  rw [Committed, hc, hf]

/-! ## Premature answers -/

/-- A premature answer is read as a status with an error. -/
theorem exists_err_of_premature (h : PrematureStatus answer) :
    ∃ status, readAnswer numbers readSignatureStatus answer = .ok (some status) ∧
      status.err ≠ some .null := by
  obtain ⟨body, record, rfl, herror, hobject, ⟨commitment, hcommitment⟩, herr⟩ := h
  have hread : readSignatureStatus body = .ok (some ⟨record.lookup "err", commitment,
      readConfirmations (record.lookup "confirmations")⟩) := by
    rw [readSignatureStatus_of_object hobject, readStatusObject, hcommitment]
    rfl
  obtain ⟨top, htop, -⟩ := bind_eq_ok.mp hread
  refine ⟨_, readAnswer_of_body htop herror hread, ?_⟩
  rcases herr with hnone | ⟨⟨err, hsome, hne⟩, -⟩
  · simp [hnone]
  · simpa [hsome] using hne

/-- A premature answer states no settled error. -/
theorem not_settledError_of_premature (h : PrematureStatus answer) : ¬ SettledError answer := by
  obtain ⟨body, record, rfl, -, hobject, -, herr⟩ := h
  rintro ⟨_, other, hbody, hother, ⟨err, hsome, -⟩, hcommitted⟩
  cases hbody
  cases hobject.symm.trans hother
  rcases herr with hnone | ⟨-, hnot⟩
  · rw [hnone] at hsome
    cases hsome
  · exact hnot hcommitted

/-- An error that is read of any other answer is settled. -/
theorem settledError_of_err {body : RpcJson ν} {record : RpcRecord ν}
    {status : SolanaSignatureStatus ν} (h : Reads answer body record status)
    (hpremature : ¬ PrematureStatus answer) (herr : status.err ≠ some .null) :
    SettledError answer := by
  have hno : ¬ (record.lookup "err" = none ∨ ExplicitError record ∧ ¬ Committed record) :=
    fun hcase =>
      hpremature ⟨body, record, h.answer_eq, h.no_error, h.object, ⟨_, h.commitment⟩, hcase⟩
  cases hlookup : record.lookup "err" with
  | none => exact absurd (Or.inl hlookup) hno
  | some err =>
      have hexplicit : ExplicitError record := by
        refine ⟨err, hlookup, ?_⟩
        intro hnull
        rw [h.err, hlookup, hnull] at herr
        exact herr rfl
      by_cases hcommitted : Committed record
      · exact ⟨body, record, h.answer_eq, h.object, hexplicit, hcommitted⟩
      · exact absurd (Or.inr ⟨hexplicit, hcommitted⟩) hno

/-- A status of any other answer that is unsettled has a `null` error, and no commitment. -/
theorem null_of_unsettled {body : RpcJson ν} {record : RpcRecord ν}
    {status : SolanaSignatureStatus ν} (h : Reads answer body record status)
    (hpremature : ¬ PrematureStatus answer) (hunsettled : Unsettled answer) :
    status.err = some .null ∧ status.confirmationStatus = some .processed := by
  obtain ⟨found, other, hanswer, hother, hcase⟩ := hunsettled
  cases h.answer_eq.symm.trans hanswer
  cases h.object.symm.trans hother
  have hnone : record.lookup "err" ≠ none := fun hlookup =>
    hpremature ⟨body, record, h.answer_eq, h.no_error, h.object, ⟨_, h.commitment⟩, .inl hlookup⟩
  have hprocessed : status.confirmationStatus = some .processed :=
    (readOptionalConfirmationStatus_eq_ok h.commitment).1.mpr
      (hcase.resolve_right hnone)
  refine ⟨?_, hprocessed⟩
  by_contra herr
  have hsettled := settledError_of_err h hpremature herr
  obtain ⟨_, third, hanswer, hthird, -, hcommitted⟩ := hsettled
  cases h.answer_eq.symm.trans hanswer
  cases h.object.symm.trans hthird
  rw [reads_committed h, hprocessed] at hcommitted
  simp at hcommitted

/-- An unsettled answer is not read as a signature that is not found. -/
theorem ne_none_of_unsettled (h : Unsettled answer) :
    readAnswer numbers readSignatureStatus answer ≠ .ok none := by
  intro hread
  obtain ⟨body, rfl, -, hnone⟩ := readAnswer_eq_ok hread
  obtain ⟨_, record, hbody, hobject, -⟩ := h
  cases hbody
  rw [readSignatureStatus_of_object hobject] at hnone
  obtain ⟨status, -, hsome⟩ := map_eq_ok.mp hnone
  cases hsome

/-! ## The monitor -/

namespace SolanaRpcPayoutTransactionFinalityMonitor

variable (host : Host) (rpcMonitor : SolanaRpcPayoutTransactionFinalityMonitor ν)
  (transaction : PayoutTransactionRecord)

/-- What the node at a URL answers when it is asked for the status of the transaction. -/
def statusAnswer (rpcUrl : String) : RpcAnswer ν :=
  rpcMonitor.fetch rpcUrl (statusRequest transaction transaction.signatureOrEmpty)

/-- What the answer of a URL leads to. -/
def urlResult (rpcUrl : String) : Except String (SolanaPayoutFinalityResult ν) :=
  rpcMonitor.monitorWithRpcUrl host transaction transaction.signatureOrEmpty rpcUrl

/-- A transaction is failed only by a node that states a settled error for its signature, and what
is unsettled leads to a retry. -/
structure FailsOnSettledEvidence : Prop where
  monitor_failed : ∀ result, rpcMonitor.monitor host transaction = .ok result →
    result.status = .failed →
    ∃ rpcUrl ∈ rpcMonitor.urls, result.rpcUrl = some rpcUrl ∧
      SettledError (rpcMonitor.statusAnswer transaction rpcUrl)
  failed : ∀ rpcUrl ∈ rpcMonitor.urls, ∀ result, rpcMonitor.urlResult host transaction rpcUrl =
      .ok result → result.status = .failed → SettledError (rpcMonitor.statusAnswer transaction rpcUrl)
  retry : ∀ rpcUrl ∈ rpcMonitor.urls, Unsettled (rpcMonitor.statusAnswer transaction rpcUrl) →
    ∀ result, rpcMonitor.urlResult host transaction rpcUrl = .ok result → result.status = .retry

variable {host} {rpcMonitor} {transaction} {signature rpcUrl : String}

theorem retryResult_status {error : String} {status : Option (SolanaSignatureStatus ν)}
    {result : SolanaPayoutFinalityResult ν}
    (h : rpcMonitor.retryResult host transaction signature rpcUrl error status = .ok result) :
    result.status = .retry ∧ result.rpcUrl = some rpcUrl := by
  obtain ⟨retryAt, -, h⟩ := bind_eq_ok.mp h
  cases pure_eq_ok.mp h
  exact ⟨rfl, rfl⟩

/-- An error is a failure. -/
theorem readFinalityResult_err {status : SolanaSignatureStatus ν} (h : status.err ≠ some .null) :
    ∃ result, rpcMonitor.readFinalityResult host transaction signature rpcUrl (some status) =
      .ok result ∧ result.status = .failed ∧ result.rpcUrl = some rpcUrl := by
  rw [readFinalityResult]
  split
  · rename_i hnull
    exact absurd hnull h
  · exact ⟨_, rfl, rfl, rfl⟩

/-- A status without an error is not failed, and without a commitment it is retried. -/
theorem readFinalityResult_null {status : SolanaSignatureStatus ν} (h : status.err = some .null)
    {result : SolanaPayoutFinalityResult ν}
    (hok : rpcMonitor.readFinalityResult host transaction signature rpcUrl (some status) =
      .ok result) :
    result.status ≠ .failed ∧ result.rpcUrl = some rpcUrl ∧
      (status.confirmationStatus = some .processed → result.status = .retry) := by
  rw [readFinalityResult, h] at hok
  dsimp only at hok
  split at hok
  · rename_i hfinalized
    cases pure_eq_ok.mp hok
    exact ⟨nofun, rfl, fun hp => by rw [hfinalized] at hp; cases hp⟩
  · rename_i hconfirmed
    cases pure_eq_ok.mp hok
    exact ⟨nofun, rfl, fun hp => by rw [hconfirmed] at hp; cases hp⟩
  · obtain ⟨hretry, hurl⟩ := retryResult_status hok
    exact ⟨by rw [hretry]; decide, hurl, fun _ => hretry⟩

/-- A signature that is not found is not failed. -/
theorem readFinalityResult_none {result : SolanaPayoutFinalityResult ν}
    (hok : rpcMonitor.readFinalityResult host transaction signature rpcUrl none = .ok result) :
    result.status ≠ .failed ∧ result.rpcUrl = some rpcUrl := by
  rw [readFinalityResult] at hok
  split at hok
  · rename_i expired hexpired
    cases pure_eq_ok.mp hok
    rw [readExpiredResult] at hexpired
    repeat' split at hexpired
    all_goals cases hexpired
    exact ⟨nofun, rfl⟩
  · by_cases hunknown : rpcMonitor.isOutcomeUnknown host transaction rpcUrl = true
    · rw [if_pos hunknown] at hok
      cases pure_eq_ok.mp hok
      exact ⟨nofun, rfl⟩
    · rw [if_neg hunknown] at hok
      obtain ⟨hretry, hurl⟩ := retryResult_status hok
      exact ⟨by rw [hretry]; decide, hurl⟩

/-- How the answer of a URL leads to its result: nothing is read and it is retried, or the result
is read of the status. -/
theorem monitorWithRpcUrl_cases {result : SolanaPayoutFinalityResult ν}
    (h : rpcMonitor.monitorWithRpcUrl host transaction signature rpcUrl = .ok result) :
    (result.status = .retry ∧ result.rpcUrl = some rpcUrl) ∨
      ∃ status, readAnswer rpcMonitor.numbers readSignatureStatus
          (rpcMonitor.fetch rpcUrl (statusRequest transaction signature)) = .ok status ∧
        rpcMonitor.readFinalityResult host transaction signature rpcUrl status = .ok result := by
  rw [monitorWithRpcUrl] at h
  split at h
  · exact .inl (retryResult_status h)
  · rename_i status hstatus
    split at h
    · rename_i found hfound
      cases pure_eq_ok.mp h
      exact .inr ⟨status, hstatus, hfound⟩
    · exact .inl (retryResult_status h)

theorem urlResult_rpcUrl {result : SolanaPayoutFinalityResult ν}
    (h : rpcMonitor.monitorWithRpcUrl host transaction signature rpcUrl = .ok result) :
    result.rpcUrl = some rpcUrl := by
  rcases monitorWithRpcUrl_cases h with ⟨-, hurl⟩ | ⟨status, -, hfinality⟩
  · exact hurl
  · cases status with
    | none => exact (readFinalityResult_none hfinality).2
    | some status =>
        by_cases herr : status.err = some .null
        · exact (readFinalityResult_null herr hfinality).2.1
        · obtain ⟨found, hfound, -, hurl⟩ := @readFinalityResult_err ν host rpcMonitor transaction
            signature rpcUrl status herr
          cases hfound.symm.trans hfinality
          exact hurl

/-- A result that asks for no retry comes from one of the URLs. -/
theorem exists_of_monitorUrls {urls : List String} {last : Option (SolanaPayoutFinalityResult ν)}
    {result : SolanaPayoutFinalityResult ν} (hlast : ∀ found, last = some found →
      found.status = .retry)
    (h : rpcMonitor.monitorUrls host transaction signature urls last = .ok result)
    (hresult : result.status ≠ .retry) :
    ∃ rpcUrl ∈ urls,
      rpcMonitor.monitorWithRpcUrl host transaction signature rpcUrl = .ok result := by
  induction urls generalizing last with
  | nil =>
      cases last with
      | none =>
          obtain ⟨retryAt, -, h⟩ := bind_eq_ok.mp h
          cases pure_eq_ok.mp h
          exact absurd rfl hresult
      | some found =>
          cases pure_eq_ok.mp h
          exact absurd (hlast _ rfl) hresult
  | cons rpcUrl rest ih =>
      obtain ⟨found, hfound, h⟩ := bind_eq_ok.mp h
      by_cases hretry : found.status = .retry
      · rw [if_neg (not_not.mpr hretry)] at h
        obtain ⟨other, hmem, hother⟩ := ih (fun _ hsome => by cases hsome; exact hretry) h
        exact ⟨other, List.mem_cons_of_mem _ hmem, hother⟩
      · rw [if_pos hretry] at h
        cases pure_eq_ok.mp h
        exact ⟨rpcUrl, List.mem_cons_self, hfound⟩

/-- The monitor does not fail a transaction itself. -/
theorem exists_url_of_failed {result : SolanaPayoutFinalityResult ν}
    (h : rpcMonitor.monitor host transaction = .ok result) (hfailed : result.status = .failed) :
    ∃ rpcUrl ∈ rpcMonitor.urls, rpcMonitor.urlResult host transaction rpcUrl = .ok result := by
  obtain ⟨signature, hsignature, h⟩ := bind_eq_ok.mp h
  have heq : signature = transaction.signatureOrEmpty := by
    rw [assertPayoutTransactionSignatureForMonitoring] at hsignature
    repeat' split at hsignature
    · exact absurd hsignature throw_ne_ok
    · exact absurd hsignature throw_ne_ok
    · exact (pure_eq_ok.mp hsignature).symm
  subst heq
  exact exists_of_monitorUrls (fun _ hnone => by cases hnone) h (by rw [hfailed]; decide)

/-- What a URL without a premature answer fails, it has settled evidence of. -/
theorem settledError_of_failed {result : SolanaPayoutFinalityResult ν}
    (hpremature : ¬ PrematureStatus (rpcMonitor.statusAnswer transaction rpcUrl))
    (h : rpcMonitor.urlResult host transaction rpcUrl = .ok result)
    (hfailed : result.status = .failed) :
    SettledError (rpcMonitor.statusAnswer transaction rpcUrl) := by
  rcases monitorWithRpcUrl_cases h with ⟨hretry, -⟩ | ⟨status, hstatus, hfinality⟩
  · rw [hfailed] at hretry
    cases hretry
  · cases status with
    | none => exact absurd hfailed (readFinalityResult_none hfinality).1
    | some status =>
        obtain ⟨body, record, hreads⟩ := exists_reads hstatus
        by_cases herr : status.err = some .null
        · exact absurd hfailed (readFinalityResult_null herr hfinality).1
        · exact settledError_of_err hreads hpremature herr

/-- What is unsettled, and not premature, is retried. -/
theorem retry_of_unsettled {result : SolanaPayoutFinalityResult ν}
    (hpremature : ¬ PrematureStatus (rpcMonitor.statusAnswer transaction rpcUrl))
    (hunsettled : Unsettled (rpcMonitor.statusAnswer transaction rpcUrl))
    (h : rpcMonitor.urlResult host transaction rpcUrl = .ok result) : result.status = .retry := by
  rcases monitorWithRpcUrl_cases h with ⟨hretry, -⟩ | ⟨status, hstatus, hfinality⟩
  · exact hretry
  · cases status with
    | none => exact absurd hstatus (ne_none_of_unsettled hunsettled)
    | some status =>
        obtain ⟨body, record, hreads⟩ := exists_reads hstatus
        obtain ⟨herr, hprocessed⟩ := null_of_unsettled hreads hpremature hunsettled
        exact (readFinalityResult_null herr hfinality).2.2 hprocessed

/-- A premature answer fails the transaction. -/
theorem failed_of_premature (h : PrematureStatus (rpcMonitor.statusAnswer transaction rpcUrl)) :
    ∃ result, rpcMonitor.urlResult host transaction rpcUrl = .ok result ∧
      result.status = .failed := by
  obtain ⟨status, hstatus, herr⟩ := @exists_err_of_premature ν rpcMonitor.numbers _ h
  obtain ⟨result, hresult, hfailed, -⟩ := @readFinalityResult_err ν host rpcMonitor transaction
    transaction.signatureOrEmpty rpcUrl status herr
  refine ⟨result, ?_, hfailed⟩
  rw [statusAnswer] at hstatus
  rw [urlResult, monitorWithRpcUrl, hstatus]
  dsimp only
  rw [hresult]
  rfl

/-- The monitor keeps to settled evidence exactly when no node answers prematurely. -/
theorem failsOnSettledEvidence_iff :
    rpcMonitor.FailsOnSettledEvidence host transaction ↔
      ∀ rpcUrl ∈ rpcMonitor.urls,
        ¬ PrematureStatus (rpcMonitor.statusAnswer transaction rpcUrl) := by
  constructor
  · intro hevidence rpcUrl hmem hpremature
    obtain ⟨result, hresult, hfailed⟩ := @failed_of_premature ν host _ _ _ hpremature
    exact not_settledError_of_premature hpremature
      (hevidence.failed rpcUrl hmem result hresult hfailed)
  · intro hnone
    refine ⟨?_, ?_, ?_⟩
    · intro result hresult hfailed
      obtain ⟨rpcUrl, hmem, hurl⟩ := exists_url_of_failed hresult hfailed
      exact ⟨rpcUrl, hmem, urlResult_rpcUrl hurl,
        settledError_of_failed (hnone rpcUrl hmem) hurl hfailed⟩
    · intro rpcUrl hmem result hresult hfailed
      exact settledError_of_failed (hnone rpcUrl hmem) hresult hfailed
    · intro rpcUrl hmem hunsettled result hresult
      exact retry_of_unsettled (hnone rpcUrl hmem) hunsettled hresult

end SolanaRpcPayoutTransactionFinalityMonitor

/-! ## The verifier -/

/-- A text that starts with another is not one that starts differently. -/
theorem append_ne_of_take {start reason text : String}
    (h : text.toList.take start.toList.length ≠ start.toList) : start ++ reason ≠ text := by
  intro heq
  rw [← heq, String.toList_append, List.take_left] at h
  exact h rfl

/-- The `meta` of the transaction that is read, with its error. -/
theorem exists_meta_of_read {numbers : RpcNumbers ν} {body : RpcJson ν}
    {transaction : SolanaConfirmedTransaction}
    (h : readConfirmedTransaction numbers body = .ok (some transaction)) :
    ∃ metaRecord, metaObject body = some metaRecord ∧
      transaction.metaErr = printMetaErr numbers (metaRecord.lookup "err") := by
  obtain ⟨record, hrecord, h⟩ := bind_eq_ok.mp h
  split at h
  · cases pure_eq_ok.mp h
  · obtain ⟨result, hresult, h⟩ := bind_eq_ok.mp h
    obtain ⟨metaRecord, hmeta, h⟩ := bind_eq_ok.mp h
    refine ⟨metaRecord, ?_, ?_⟩
    · rw [metaObject, field_eq "result" hrecord, bind_field_eq "meta" hresult]
      exact readRecord_eq_ok.mp hmeta
    · obtain ⟨transactionRecord, -, h⟩ := bind_eq_ok.mp h
      obtain ⟨message, -, h⟩ := bind_eq_ok.mp h
      obtain ⟨accountKeys, -, h⟩ := bind_eq_ok.mp h
      obtain ⟨topLevel, -, h⟩ := bind_eq_ok.mp h
      obtain ⟨innerGroups, -, h⟩ := bind_eq_ok.mp h
      obtain ⟨signatures, -, h⟩ := bind_eq_ok.mp h
      obtain ⟨tokenAccounts, -, h⟩ := bind_eq_ok.mp h
      obtain ⟨innerTransfers, -, h⟩ := bind_eq_ok.mp h
      cases pure_eq_ok.mp h
      rfl

theorem printMetaErr_eq_none {numbers : RpcNumbers ν} {err : Option (RpcJson ν)} :
    printMetaErr numbers err = none ↔ err = some .null := by
  rcases err with _ | (_ | _ | _ | _ | _ | _) <;> simp [printMetaErr]

namespace SolanaRpcReceiptVerifier

variable (verifier : SolanaRpcReceiptVerifier ν) (receipt : Split402ReceiptV1) (rpcUrl : String)

/-- What the node at a URL answers when it is asked for the status of the settlement. -/
def statusAnswer : RpcAnswer ν := verifier.fetch rpcUrl (statusRequest receipt)

/-- What it answers when it is asked for the transaction, at the commitment of the options. -/
def transactionAnswer : RpcAnswer ν := verifier.fetch rpcUrl (verifier.transactionRequest receipt)

/-- An explicit error in the transaction, asked for when the status is without one and has the
commitment. -/
def SettledTransactionError : Prop :=
  ∃ body record transactionBody metaRecord, verifier.statusAnswer receipt rpcUrl = .body body ∧
    statusObject body = some record ∧ record.lookup "err" = some .null ∧ Committed record ∧
    verifier.transactionAnswer receipt rpcUrl = .body transactionBody ∧
    metaObject transactionBody = some metaRecord ∧ ExplicitError metaRecord

def SettledAt : Prop :=
  SettledError (verifier.statusAnswer receipt rpcUrl) ∨
    verifier.SettledTransactionError receipt rpcUrl

/-- A transaction without an `err` that is read for a status that passes. -/
def PrematureTransaction : Prop :=
  ∃ status transaction transactionBody metaRecord,
    verifier.requestSignatureStatus receipt rpcUrl = .ok (some status) ∧
    status.err = some .null ∧ hasRequiredCommitment status verifier.commitment = true ∧
    verifier.requestConfirmedTransaction receipt rpcUrl = .ok (some transaction) ∧
    receipt.settlementTxSignature ∈ transaction.signatures ∧
    verifier.transactionAnswer receipt rpcUrl = .body transactionBody ∧
    metaObject transactionBody = some metaRecord ∧ metaRecord.lookup "err" = none

def PrematureAt : Prop :=
  PrematureStatus (verifier.statusAnswer receipt rpcUrl) ∨
    verifier.PrematureTransaction receipt rpcUrl

/-- The rejections because of a transaction error. -/
def transactionFailed (reason : String) : ReceiptChainVerificationResult :=
  .rejected ("settlement transaction failed: " ++ reason)

/-- A receipt is rejected for a transaction error only by a node that states a settled one, and what
is unsettled leads to a retry. -/
structure RejectsOnSettledEvidence : Prop where
  verify_rejected : ∀ reason, verifier.verify receipt = .ok (transactionFailed reason) →
    ∃ rpcUrl ∈ verifier.urls, verifier.SettledAt receipt rpcUrl
  rejected : ∀ rpcUrl ∈ verifier.urls, ∀ reason,
    verifier.verifyWithRpcUrl receipt rpcUrl = .ok (transactionFailed reason) →
      verifier.SettledAt receipt rpcUrl
  retry : ∀ rpcUrl ∈ verifier.urls, Unsettled (verifier.statusAnswer receipt rpcUrl) →
    ∃ error, verifier.verifyWithRpcUrl receipt rpcUrl = .ok (.retry error none)

variable {verifier} {receipt} {rpcUrl}

theorem committed_of_required {body : RpcJson ν} {record : RpcRecord ν}
    {status : SolanaSignatureStatus ν} {required : SolanaRpcCommitment}
    {answer : RpcAnswer ν} (h : Reads answer body record status)
    (hrequired : hasRequiredCommitment status required = true) : Committed record := by
  rw [reads_committed h]
  rw [hasRequiredCommitment] at hrequired
  simp only [Bool.or_eq_true, Bool.and_eq_true, beq_iff_eq] at hrequired
  rcases hrequired with hfinalized | ⟨-, hconfirmed⟩
  · exact .inr hfinalized
  · exact .inl hconfirmed

/-- The other rejections of a transaction have other texts. -/
theorem verifyReceiptTransaction_failed {transaction : SolanaConfirmedTransaction}
    {reason : String}
    (h : verifier.verifyReceiptTransaction receipt transaction =
      .ok (some (transactionFailed reason))) :
    receipt.settlementTxSignature ∈ transaction.signatures ∧ transaction.metaErr ≠ none := by
  rw [verifyReceiptTransaction] at h
  by_cases hmem : receipt.settlementTxSignature ∈ transaction.signatures
  · refine ⟨hmem, ?_⟩
    rw [if_neg (not_not.mpr hmem)] at h
    intro hnone
    rw [hnone] at h
    obtain ⟨requiredAmount, -, h⟩ := bind_eq_ok.mp h
    split at h
    · cases pure_eq_ok.mp h
    · have htext := pure_eq_ok.mp h
      rw [transactionFailed, Option.some.injEq, ReceiptChainVerificationResult.rejected.injEq]
        at htext
      exact append_ne_of_take (by decide +kernel) htext.symm
  · rw [if_pos hmem] at h
    have htext := pure_eq_ok.mp h
    rw [transactionFailed, Option.some.injEq, ReceiptChainVerificationResult.rejected.injEq]
      at htext
    exact absurd htext.symm (append_ne_of_take (by decide))

/-- What a URL without a premature answer rejects for an error, it has settled evidence of. -/
theorem settledAt_of_rejected {reason : String}
    (hpremature : ¬ verifier.PrematureAt receipt rpcUrl)
    (h : verifier.verifyWithRpcUrl receipt rpcUrl = .ok (transactionFailed reason)) :
    verifier.SettledAt receipt rpcUrl := by
  obtain ⟨hstatusOk, htransactionOk⟩ := not_or.mp hpremature
  rw [verifyWithRpcUrl] at h
  split at h
  · cases pure_eq_ok.mp h
  · cases pure_eq_ok.mp h
  · rename_i status hstatus
    obtain ⟨body, record, hreads⟩ := exists_reads hstatus
    by_cases herr : status.err = some .null
    · -- the status passes, and the transaction is at fault
      right
      rw [verifyStatus, herr] at h
      dsimp only at h
      by_cases hrequired : hasRequiredCommitment status verifier.commitment = true
      · rw [hrequired] at h
        simp only [Bool.not_true, Bool.false_eq_true, if_false] at h
        rw [verifyTransactionAnswer.eq_def] at h
        split at h
        · cases pure_eq_ok.mp h
        · cases pure_eq_ok.mp h
        · rename_i transaction htransaction
          obtain ⟨transactionBody, hanswer, -, hread⟩ := readAnswer_eq_ok htransaction
          obtain ⟨verification, hverification, h⟩ := bind_eq_ok.mp h
          have hfailed : verification = some (transactionFailed reason) := by
            cases verification with
            | none => cases pure_eq_ok.mp h
            | some found => rw [← pure_eq_ok.mp h]; rfl
          rw [hfailed] at hverification
          obtain ⟨hmem, hmetaErr⟩ := verifyReceiptTransaction_failed hverification
          obtain ⟨metaRecord, hmeta, hprinted⟩ := exists_meta_of_read hread
          rw [hprinted, Ne, printMetaErr_eq_none] at hmetaErr
          cases hlookup : metaRecord.lookup "err" with
          | none =>
              exact absurd ⟨status, transaction, transactionBody, metaRecord, hstatus, herr,
                hrequired, htransaction, hmem, hanswer, hmeta, hlookup⟩ htransactionOk
          | some err =>
              refine ⟨body, record, transactionBody, metaRecord, hreads.answer_eq, hreads.object,
                hreads.err.symm.trans herr, committed_of_required hreads hrequired, hanswer, hmeta,
                err, hlookup, ?_⟩
              intro hnull
              exact hmetaErr (by rw [hlookup, hnull])
      · rw [Bool.not_eq_true] at hrequired
        rw [hrequired] at h
        cases pure_eq_ok.mp h
    · exact .inl (settledError_of_err hreads hstatusOk herr)

/-- What is unsettled, and not premature, is retried. -/
theorem retry_of_unsettled (hpremature : ¬ verifier.PrematureAt receipt rpcUrl)
    (hunsettled : Unsettled (verifier.statusAnswer receipt rpcUrl)) :
    ∃ error, verifier.verifyWithRpcUrl receipt rpcUrl = .ok (.retry error none) := by
  rw [verifyWithRpcUrl]
  split
  · exact ⟨_, rfl⟩
  · exact ⟨_, rfl⟩
  · rename_i status hstatus
    obtain ⟨body, record, hreads⟩ := exists_reads hstatus
    obtain ⟨herr, hprocessed⟩ :=
      null_of_unsettled hreads (not_or.mp hpremature).1 hunsettled
    rw [verifyStatus, herr]
    dsimp only
    have hrequired : hasRequiredCommitment status verifier.commitment = false := by
      rw [hasRequiredCommitment, hprocessed]
      cases verifier.commitment <;> rfl
    rw [hrequired]
    exact ⟨_, rfl⟩

/-- A status that is premature rejects the receipt. -/
theorem rejected_of_premature (h : PrematureStatus (verifier.statusAnswer receipt rpcUrl)) :
    ∃ reason, verifier.verifyWithRpcUrl receipt rpcUrl = .ok (transactionFailed reason) := by
  obtain ⟨status, hstatus, herr⟩ := @exists_err_of_premature ν verifier.numbers _ h
  have hrequest : verifier.requestSignatureStatus receipt rpcUrl = .ok (some status) := hstatus
  rw [verifyWithRpcUrl, hrequest]
  dsimp only
  rw [verifyStatus]
  split
  · rename_i hnull
    exact absurd hnull herr
  · exact ⟨_, rfl⟩

/-- So does a transaction that is. -/
theorem rejected_of_prematureTransaction (h : verifier.PrematureTransaction receipt rpcUrl) :
    ∃ reason, verifier.verifyWithRpcUrl receipt rpcUrl = .ok (transactionFailed reason) := by
  obtain ⟨status, transaction, transactionBody, metaRecord, hstatus, herr, hrequired,
    htransaction, hmem, hanswer, hmeta, hlookup⟩ := h
  obtain ⟨body, hbody, -, hread⟩ := readAnswer_eq_ok htransaction
  cases hanswer.symm.trans hbody
  obtain ⟨found, hfound, hprinted⟩ := exists_meta_of_read hread
  cases hmeta.symm.trans hfound
  have hmetaErr : transaction.metaErr = some "undefined" := by
    rw [hprinted, hlookup]
    rfl
  have hverification : verifier.verifyReceiptTransaction receipt transaction =
      .ok (some (transactionFailed "undefined")) := by
    rw [verifyReceiptTransaction, if_neg (not_not.mpr hmem), hmetaErr]
    rfl
  refine ⟨"undefined", ?_⟩
  rw [verifyWithRpcUrl, hstatus]
  dsimp only
  rw [verifyStatus, herr]
  dsimp only
  rw [hrequired, htransaction, verifyTransactionAnswer, hverification]
  rfl

/-- A premature answer is no settled evidence. -/
theorem not_settledAt_of_premature (h : verifier.PrematureAt receipt rpcUrl) :
    ¬ verifier.SettledAt receipt rpcUrl := by
  rcases h with hstatus | ⟨status, transaction, transactionBody, metaRecord, hstatus, herr, -, -,
    -, hanswer, hmeta, hlookup⟩
  · rintro (hsettled | ⟨_, other, _, _, hbody, hobject, hnull, -⟩)
    · exact not_settledError_of_premature hstatus hsettled
    · obtain ⟨body, record, hanswer, -, hrecord, -, hcase⟩ := hstatus
      cases hanswer.symm.trans hbody
      cases hrecord.symm.trans hobject
      rcases hcase with hnone | ⟨⟨err, hsome, hne⟩, -⟩
      · rw [hnone] at hnull
        cases hnull
      · exact hne (Option.some.inj (hsome.symm.trans hnull))
  · obtain ⟨body, record, hreads⟩ := exists_reads hstatus
    rintro (⟨_, other, hbody, hobject, ⟨err, hsome, hne⟩, -⟩ |
      ⟨_, _, otherBody, other, -, -, -, -, hother, hmetaOther, err, hsome, -⟩)
    · cases hreads.answer_eq.symm.trans hbody
      cases hreads.object.symm.trans hobject
      rw [← hreads.err, herr] at hsome
      exact hne (Option.some.inj hsome).symm
    · cases hanswer.symm.trans hother
      cases hmeta.symm.trans hmetaOther
      rw [hlookup] at hsome
      cases hsome

/-- A rejection comes from one of the URLs. -/
theorem exists_of_verifyUrls {urls : List String}
    {lastRetry lastRejected : Option ReceiptChainVerificationResult} {error : String}
    (h : verifier.verifyUrls receipt urls lastRetry lastRejected = .ok (.rejected error)) :
    lastRetry = some (.rejected error) ∨ lastRejected = some (.rejected error) ∨
      ∃ rpcUrl ∈ urls, verifier.verifyWithRpcUrl receipt rpcUrl = .ok (.rejected error) := by
  induction urls generalizing lastRetry lastRejected with
  | nil =>
      have hlast := pure_eq_ok.mp h
      cases lastRetry with
      | some result => exact .inl (congrArg some hlast)
      | none =>
          cases lastRejected with
          | some result => exact .inr (.inl (congrArg some hlast))
          | none => cases hlast
  | cons rpcUrl rest ih =>
      obtain ⟨result, hresult, h⟩ := bind_eq_ok.mp h
      have hlift : (∃ other ∈ rest,
            verifier.verifyWithRpcUrl receipt other = .ok (.rejected error)) →
          ∃ other ∈ rpcUrl :: rest,
            verifier.verifyWithRpcUrl receipt other = .ok (.rejected error) := by
        rintro ⟨other, hmem, hother⟩
        exact ⟨other, List.mem_cons_of_mem _ hmem, hother⟩
      cases result with
      | confirmed verifiedAt => cases pure_eq_ok.mp h
      | rejected message =>
          rcases ih h with hretry | hrejected | hrest
          · exact .inl hretry
          · cases hrejected
            exact .inr (.inr ⟨rpcUrl, List.mem_cons_self, hresult⟩)
          · exact .inr (.inr (hlift hrest))
      | retry message availableAt =>
          rcases ih h with hretry | hrejected | hrest
          · cases hretry
          · exact .inr (.inl hrejected)
          · exact .inr (.inr (hlift hrest))

/-- The verifier does not find a transaction error itself. -/
theorem exists_url_of_rejected {reason : String}
    (h : verifier.verify receipt = .ok (transactionFailed reason)) :
    ∃ rpcUrl ∈ verifier.urls,
      verifier.verifyWithRpcUrl receipt rpcUrl = .ok (transactionFailed reason) := by
  rw [verify] at h
  by_cases hnetwork : receipt.network ≠ verifier.network
  · rw [if_pos hnetwork] at h
    have htext := pure_eq_ok.mp h
    rw [transactionFailed, ReceiptChainVerificationResult.rejected.injEq] at htext
    have hhead := congrArg (fun text => text.toList.head?) htext
    simp only [String.toList_append, List.head?_append] at hhead
    cases hhead
  · rw [if_neg hnetwork] at h
    rcases exists_of_verifyUrls h with hretry | hrejected | hurl
    · cases hretry
    · cases hrejected
    · exact hurl

/-- The verifier keeps to settled evidence exactly when no node answers prematurely. -/
theorem rejectsOnSettledEvidence_iff :
    verifier.RejectsOnSettledEvidence receipt ↔
      ∀ rpcUrl ∈ verifier.urls, ¬ verifier.PrematureAt receipt rpcUrl := by
  constructor
  · intro hevidence rpcUrl hmem hpremature
    have hrejected : ∃ reason, verifier.verifyWithRpcUrl receipt rpcUrl =
        .ok (transactionFailed reason) := by
      rcases hpremature with hstatus | htransaction
      · exact rejected_of_premature hstatus
      · exact rejected_of_prematureTransaction htransaction
    obtain ⟨reason, hreason⟩ := hrejected
    exact not_settledAt_of_premature hpremature
      (hevidence.rejected rpcUrl hmem reason hreason)
  · intro hnone
    refine ⟨?_, ?_, ?_⟩
    · intro reason hreason
      obtain ⟨rpcUrl, hmem, hurl⟩ := exists_url_of_rejected hreason
      exact ⟨rpcUrl, hmem, settledAt_of_rejected (hnone rpcUrl hmem) hurl⟩
    · intro rpcUrl hmem reason hreason
      exact settledAt_of_rejected (hnone rpcUrl hmem) hreason
    · intro rpcUrl hmem hunsettled
      exact retry_of_unsettled (hnone rpcUrl hmem) hunsettled

end SolanaRpcReceiptVerifier

/-! ## Both verdicts -/

/-- The monitor and the verifier keep to settled evidence exactly when no node gives a premature
answer. -/
theorem verdicts_settled_iff (host : Host) :
    (∀ (rpcMonitor : SolanaRpcPayoutTransactionFinalityMonitor ν)
      (transaction : PayoutTransactionRecord),
      rpcMonitor.FailsOnSettledEvidence host transaction ↔
        ∀ rpcUrl ∈ rpcMonitor.urls,
          ¬ PrematureStatus (rpcMonitor.statusAnswer transaction rpcUrl)) ∧
    (∀ (verifier : SolanaRpcReceiptVerifier ν) (receipt : Split402ReceiptV1),
      verifier.RejectsOnSettledEvidence receipt ↔
        ∀ rpcUrl ∈ verifier.urls, ¬ verifier.PrematureAt receipt rpcUrl) :=
  ⟨fun _ _ => SolanaRpcPayoutTransactionFinalityMonitor.failsOnSettledEvidence_iff,
    fun _ _ => SolanaRpcReceiptVerifier.rejectsOnSettledEvidence_iff⟩

/-! ## A processed error -/

namespace SettledEvidenceSample

/-- A status at processed commitment, with an error. -/
def processedError : RpcJson Int :=
  .object [("jsonrpc", .string "2.0"), ("result", .object [("value", .array [.object
    [("err", .object [("InstructionError", .array [.number 0, .string "InsufficientFunds"])]),
      ("confirmationStatus", .string "processed"), ("confirmations", .number 0)]])])]

def intNumbers : RpcNumbers Int := ⟨some, toString⟩

def node : SolanaRpcFetch Int := fun _ _ => .body processedError

def rpcMonitor : SolanaRpcPayoutTransactionFinalityMonitor Int where
  numbers := intNumbers
  fetch := node
  rpcUrl := some "https://rpc.example"
  rpcUrls := none
  retryDelayMs := none
  unknownOutcomeAfterMs := none
  outcomeClock := fun _ => 1767225600000
  retryClock := fun _ => 1767225600000

def verifier : SolanaRpcReceiptVerifier Int where
  numbers := intNumbers
  fetch := node
  isAddress := fun _ => true
  findAssociatedTokenPda := fun _ _ _ => none
  network := "solana:devnet"
  rpcUrl := some "https://rpc.example"
  rpcUrls := none
  commitmentOption := none

def submitted : PayoutTransactionRecord where
  id := "ptx_1"
  payoutBatchId := "pay_1"
  sequence := 0
  attempt := 0
  recentBlockhash := none
  lastValidBlockHeight := none
  signedTransactionBase64 := none
  expectedSignature := some "signature"
  status := .submitted
  submittedAt := some Sample.now
  confirmedAt := none
  finalizedAt := none
  error := none
  createdAt := Sample.now
  items := []

end SettledEvidenceSample

open SettledEvidenceSample in
/-- An error that is merely processed fails the payout and rejects the receipt. -/
theorem not_verdicts_settled :
    ¬ rpcMonitor.FailsOnSettledEvidence isoHost submitted ∧
      ¬ verifier.RejectsOnSettledEvidence (Sample.receipt 1) := by
  have hurl : "https://rpc.example" ∈ rpcMonitor.urls := by decide
  have hnot : ¬ SettledError (.body processedError) := by
    rintro ⟨_, status, hbody, hobject, -, hcommitted⟩
    cases hbody
    cases hobject
    rcases hcommitted with h | h <;> exact absurd h (by simp [List.lookup_cons])
  constructor
  · intro h
    exact hnot (h.failed _ hurl _ rfl rfl)
  · intro h
    rcases h.rejected _ hurl _ rfl with hsettled | ⟨_, _, _, _, hbody, hobject, hnull, -⟩
    · exact hnot hsettled
    · cases hbody
      cases hobject
      cases hnull

end Split402

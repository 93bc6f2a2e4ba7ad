import Split402.Payouts.Checks

/-! # Releasing the allocations of a batch

The guards of `releasePayoutBatchAllocations`: which batch statuses may release, which
transactions may still land, and what a set of chain checks proves. -/

namespace Split402

variable (host : Host)

/-- What the release guard reads of a transaction. -/
structure PayoutBatchAllocationReleaseGuardTransaction where
  id : String
  status : PayoutTransactionStatus
  expectedSignature : Option String

def PayoutTransactionRecord.guard (transaction : PayoutTransactionRecord) :
    PayoutBatchAllocationReleaseGuardTransaction :=
  ⟨transaction.id, transaction.status, transaction.expectedSignature⟩

/-- The statuses of transactions that cannot land any more. -/
def PayoutTransactionStatus.isDead (status : PayoutTransactionStatus) : Bool :=
  status == .failed || status == .expired

/-- The check statuses that prove a transaction cannot land. -/
def PayoutBatchReleaseChainCheckStatus.isDead (status : PayoutBatchReleaseChainCheckStatus) :
    Bool :=
  status == .failed || status == .expired

/-- `new Map(chainChecks.map((check) => [check.transactionId, check.status])).get(id)`: the last
check of a transaction counts. -/
def chainStatusById (chainChecks : Option (List PayoutBatchReleaseChainCheck)) (id : String) :
    Option PayoutBatchReleaseChainCheckStatus :=
  ((chainChecks.getD []).reverse.find? (fun check => check.transactionId = id)).map
    PayoutBatchReleaseChainCheck.status

/-- The chain checks prove that the transaction cannot land. -/
def isProvenDead (chainChecks : Option (List PayoutBatchReleaseChainCheck)) (id : String) : Bool :=
  (chainStatusById chainChecks id).any PayoutBatchReleaseChainCheckStatus.isDead

def listPayoutBatchAllocationReleaseHazards
    (transactions : List PayoutBatchAllocationReleaseGuardTransaction) :
    List PayoutBatchAllocationReleaseGuardTransaction :=
  transactions.filter (fun transaction =>
    transaction.expectedSignature.isSome && !transaction.status.isDead)

def releaseBlockedMessage (hazards : List PayoutBatchAllocationReleaseGuardTransaction) : String :=
  "payout batch allocations cannot be released: " ++ toString hazards.length ++
    " signed payout transaction(s) may already be broadcast (" ++
    ", ".intercalate (hazards.map (fun hazard => hazard.id)) ++
    "); require a chain finality check proving the signature did not land and the blockhash " ++
    "expired, or an explicit operator override with a reason"

def assertPayoutBatchAllocationsReleasable
    (transactions : List PayoutBatchAllocationReleaseGuardTransaction)
    (chainChecks : Option (List PayoutBatchReleaseChainCheck)) (override : Option String) :
    Except PayoutError Unit :=
  match override with
  | some reason => do
      let _ ← assertNonEmptyString reason "override.reason"
      pure ()
  | none =>
      let hazards := (listPayoutBatchAllocationReleaseHazards transactions).filter
        (fun transaction => !isProvenDead chainChecks transaction.id)
      if hazards = [] then pure ()
      else throw (.releaseBlocked (releaseBlockedMessage hazards)
        (hazards.map (fun transaction =>
          ⟨transaction.id, transaction.status, transaction.expectedSignature,
            chainStatusById chainChecks transaction.id⟩)))

def isOutcomeUnknownPayoutBatchReleaseProven
    (transactions : List PayoutBatchAllocationReleaseGuardTransaction)
    (chainChecks : Option (List PayoutBatchReleaseChainCheck)) : Bool :=
  !transactions.isEmpty &&
    transactions.all (fun transaction =>
      transaction.status.isDead || isProvenDead chainChecks transaction.id)

def isPayoutBatchAllocationReleaseAllowed (status : PayoutBatchStatus) : Bool :=
  status == .draft || status == .planned || status == .signing || status == .failed ||
    status == .cancelled

/-- The cancelled batch a release writes. -/
def PayoutBatchRecord.released (batch : PayoutBatchRecord) (failureMessage updatedAt : String) :
    PayoutBatchRecord :=
  { batch with
    status := .cancelled
    failureCode := some "allocations_released"
    failureMessage := some failureMessage
    updatedAt := updatedAt
    items := batch.items.map (fun item => { item with status := .released }) }

/-- The reason, with the operator's reason when there is an override. -/
def releaseFailureMessage (reason : String) (override : Option String) :
    Except PayoutError String :=
  match override with
  | none => pure reason
  | some override => do
      let overrideReason ← assertNonEmptyString override "override.reason"
      pure s!"{reason} (operator override: {overrideReason})"

def releasePayoutBatchAllocationsForBatch (env : CallEnv) (batch : PayoutBatchRecord)
    (input : ReleasePayoutBatchAllocationsInput) (allowOutcomeUnknown : Bool) :
    Except PayoutError PayoutBatchRecord := do
  let reason ← assertNonEmptyString input.reason "reason"
  let failureMessage ← releaseFailureMessage reason input.override
  let updatedAt ← normalizeTimestamp host (nowOrClock host env input.now) "now"
  if !isPayoutBatchAllocationReleaseAllowed batch.status &&
      !(batch.status == .outcomeUnknown && allowOutcomeUnknown) then
    let status := batch.status.text
    throw (.batchConflict s!"payout batch status {status} cannot release allocations")
  else pure (batch.released failureMessage updatedAt)

/-- The guards of a releasing call and the cancelled batch it will write, over the batch and
the transactions the store loaded. The two stores run these same lines. -/
def planRelease (env : CallEnv) (batch : PayoutBatchRecord)
    (transactions : List PayoutBatchAllocationReleaseGuardTransaction)
    (input : ReleasePayoutBatchAllocationsInput) : Except PayoutError PayoutBatchRecord := do
  let allowOutcomeUnknown := batch.status == .outcomeUnknown &&
    isOutcomeUnknownPayoutBatchReleaseProven transactions input.chainChecks
  let _ ← (if batch.status == .outcomeUnknown && !allowOutcomeUnknown then
    assertPayoutBatchAllocationsReleasable transactions input.chainChecks none
    else pure () : Except PayoutError Unit)
  -- computed first, so that a status that cannot release is reported before the hazards
  let released ← releasePayoutBatchAllocationsForBatch host env batch input allowOutcomeUnknown
  assertPayoutBatchAllocationsReleasable transactions input.chainChecks input.override
  pure released

end Split402

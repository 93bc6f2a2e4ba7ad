import Split402.Payouts.Checks
import Split402.Solana.Rpc

/-! # Finality of payout transactions

`SolanaRpcPayoutTransactionFinalityMonitor` asks the nodes in turn for the status of the signature
of a payout transaction, until one gives something else than a reason to ask again. -/

namespace Split402

inductive SolanaPayoutFinalityStatus
  | retry | confirmed | finalized | failed | expired | outcomeUnknown
  deriving DecidableEq, Repr

structure SolanaPayoutFinalityResult (ν : Type) where
  transactionId : String
  status : SolanaPayoutFinalityStatus
  signature : Option String
  rpcUrl : Option String
  error : Option String
  confirmationStatus : Option SolanaSignatureConfirmationStatus
  confirmations : Option (Option ν)
  retryAt : Option String

/-- The options of the monitor, and what one call of it sees: the answers of the nodes, and its
clock where it compares a URL's answer with the threshold and where it schedules the retry of a URL
(of none, when there is no URL). -/
structure SolanaRpcPayoutTransactionFinalityMonitor (ν : Type) where
  numbers : RpcNumbers ν
  fetch : SolanaRpcFetch ν
  rpcUrl : Option String
  rpcUrls : Option (List String)
  retryDelayMs : Option Int
  unknownOutcomeAfterMs : Option Int
  outcomeClock : String → Int
  retryClock : Option String → Int

/-- `transaction.expectedSignature ?? ""`. -/
def PayoutTransactionRecord.signatureOrEmpty (transaction : PayoutTransactionRecord) : String :=
  transaction.expectedSignature.getD ""

def assertPayoutTransactionSignatureForMonitoring (transaction : PayoutTransactionRecord) :
    Except String String :=
  if transaction.status ∉ [.signed, .submitted, .confirmed, .outcomeUnknown] then
    throw s!"payout transaction {transaction.id} must be submitted before finality monitoring"
  else if isBlank transaction.signatureOrEmpty then
    throw s!"payout transaction {transaction.id} expectedSignature must be a non-empty string"
  else pure transaction.signatureOrEmpty

namespace SolanaRpcPayoutTransactionFinalityMonitor

variable {ν : Type} (host : Host) (rpcMonitor : SolanaRpcPayoutTransactionFinalityMonitor ν)
  (transaction : PayoutTransactionRecord) (signature rpcUrl : String)

/-- `this.rpcUrls()`. -/
def urls : List String := Split402.rpcUrls rpcMonitor.rpcUrl rpcMonitor.rpcUrls

/-- `new Date(…).toISOString()` throws at a time out of range. -/
def retryAt (rpcUrl : Option String) : Except String String :=
  let ms := rpcMonitor.retryClock rpcUrl + rpcMonitor.retryDelayMs.getD 30000
  if ms.natAbs ≤ 8640000000000000 then pure (host.toISOString ms) else throw "Invalid time value"

def isOutcomeUnknown : Bool :=
  match rpcMonitor.unknownOutcomeAfterMs, transaction.submittedAt with
  | some unknownOutcomeAfterMs, some submittedAt =>
      match host.dateParse submittedAt with
      | some submitted => unknownOutcomeAfterMs ≤ rpcMonitor.outcomeClock rpcUrl - submitted
      | none => false
  | _, _ => false

def retryResult (error : String) (signatureStatus : Option (SolanaSignatureStatus ν)) :
    Except String (SolanaPayoutFinalityResult ν) := do
  let retryAt ← rpcMonitor.retryAt host (some rpcUrl)
  pure
    { transactionId := transaction.id
      status := .retry
      signature := some signature
      rpcUrl := some rpcUrl
      error := some error
      confirmationStatus := signatureStatus.bind SolanaSignatureStatus.confirmationStatus
      confirmations := signatureStatus.bind SolanaSignatureStatus.confirmations
      retryAt := some retryAt }

/-- The request for the finalized block height. -/
def blockHeightRequest : RpcRequest :=
  .getBlockHeight s!"split402-payout-block-height-{transaction.id}"

/-- Any failure falls back to what is done without a block height. -/
def readExpiredResult : Option (SolanaPayoutFinalityResult ν) :=
  match transaction.lastValidBlockHeight with
  | none => none
  | some lastValidBlockHeight =>
      match readAnswer rpcMonitor.numbers (readBlockHeightResult rpcMonitor.numbers)
          (rpcMonitor.fetch rpcUrl (blockHeightRequest transaction)) with
      | .error _ => none
      | .ok (printed, blockHeight) =>
          if blockHeight ≤ lastValidBlockHeight then none
          else some
            { transactionId := transaction.id
              status := .expired
              signature := some signature
              rpcUrl := some rpcUrl
              error := some ("payout transaction blockhash expired: finalized block height " ++
                rpcMonitor.numbers.text printed ++ s!" passed lastValidBlockHeight " ++
                s!"{lastValidBlockHeight} and signature was not found: {signature}")
              confirmationStatus := none
              confirmations := none
              retryAt := none }

/-- A result with what the status carries. -/
def statusResult (signatureStatus : SolanaSignatureStatus ν) (status : SolanaPayoutFinalityStatus)
    (error : Option String) : SolanaPayoutFinalityResult ν where
  transactionId := transaction.id
  status := status
  signature := some signature
  rpcUrl := some rpcUrl
  error := error
  confirmationStatus := signatureStatus.confirmationStatus
  confirmations := signatureStatus.confirmations
  retryAt := none

def readFinalityResult : Option (SolanaSignatureStatus ν) →
    Except String (SolanaPayoutFinalityResult ν)
  | none =>
      match rpcMonitor.readExpiredResult transaction signature rpcUrl with
      | some expired => pure expired
      | none =>
          if rpcMonitor.isOutcomeUnknown host transaction rpcUrl then
            pure
              { transactionId := transaction.id
                status := .outcomeUnknown
                signature := some signature
                rpcUrl := some rpcUrl
                error := some ("payout transaction signature not found after unknown-outcome " ++
                  s!"threshold: {signature}")
                confirmationStatus := none
                confirmations := none
                retryAt := none }
          else
            rpcMonitor.retryResult host transaction signature rpcUrl
              s!"payout transaction signature not found: {signature}" none
  | some signatureStatus =>
      match signatureStatus.err with
      | some .null =>
          match signatureStatus.confirmationStatus with
          | some .finalized =>
              pure (statusResult transaction signature rpcUrl signatureStatus .finalized none)
          | some .confirmed =>
              pure (statusResult transaction signature rpcUrl signatureStatus .confirmed none)
          | _ =>
              rpcMonitor.retryResult host transaction signature rpcUrl
                "payout transaction has not reached confirmed commitment" (some signatureStatus)
      | err =>
          pure (statusResult transaction signature rpcUrl signatureStatus .failed
            (some ("payout transaction failed: " ++ stringifyOptional rpcMonitor.numbers err)))

/-- The request for the status of the signature. -/
def statusRequest : RpcRequest :=
  .getSignatureStatuses s!"split402-payout-finality-{transaction.id}" signature

def monitorWithRpcUrl : Except String (SolanaPayoutFinalityResult ν) :=
  match readAnswer rpcMonitor.numbers readSignatureStatus
      (rpcMonitor.fetch rpcUrl (statusRequest transaction signature)) with
  | .error error => rpcMonitor.retryResult host transaction signature rpcUrl error none
  | .ok signatureStatus =>
      match rpcMonitor.readFinalityResult host transaction signature rpcUrl signatureStatus with
      | .ok result => pure result
      | .error error =>
          rpcMonitor.retryResult host transaction signature rpcUrl
            ("Solana RPC response was invalid: " ++ error) none

/-- The URLs in turn, with the last result that asks for a retry. -/
def monitorUrls : List String → Option (SolanaPayoutFinalityResult ν) →
    Except String (SolanaPayoutFinalityResult ν)
  | [], some lastRetry => pure lastRetry
  | [], none => do
      let retryAt ← rpcMonitor.retryAt host none
      pure
        { transactionId := transaction.id
          status := .retry
          signature := some signature
          rpcUrl := none
          error := some "no Solana RPC URLs configured"
          confirmationStatus := none
          confirmations := none
          retryAt := some retryAt }
  | rpcUrl :: rest, _ => do
      let result ← rpcMonitor.monitorWithRpcUrl host transaction signature rpcUrl
      if result.status ≠ .retry then pure result else monitorUrls rest (some result)

def monitor : Except String (SolanaPayoutFinalityResult ν) := do
  let signature ← assertPayoutTransactionSignatureForMonitoring transaction
  rpcMonitor.monitorUrls host transaction signature rpcMonitor.urls none

end SolanaRpcPayoutTransactionFinalityMonitor

end Split402

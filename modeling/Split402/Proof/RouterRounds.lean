import Split402.Base.Except
import Split402.Base.Trace
import Split402.Proof.RouterBudget

/-! # Rounds

A round of an execution tries one provider of the quote. What it delivers is a receipt that matches
its provider and the claim that was sent.

What the recorder rejects after a receipt has verified, and what the output schema refuses, is
turned into an error not to retry after. What either throws beside that escapes, and is retried
after. -/

namespace Split402

open Base (bind_eq_ok map_eq_ok mapError_eq_ok mem_sortBy pure_eq_ok selectM_sublist)
open Base.Async (Answered Traces)

variable {ν : Type} {runtime : RouterRuntime ν} {input : Split402RouterExecuteInput ν}

/-! ## The quote -/

/-- The provider is what the input asks for, at a price within the budget. -/
structure Suits (input : Split402RouterExecuteInput ν) (provider : Split402CapabilityProvider ν) :
    Prop where
  capability : provider.capability = input.capability
  network : provider.network = input.budget.network
  asset : provider.asset = input.budget.asset
  budget : ∃ price most, parseAtomicAmount provider.amountAtomic = some price ∧
    parseAtomicAmount input.budget.maxAmountAtomic = some most ∧ price ≤ most

/-- The providers of a quote, in the order in which they are tried. -/
def Split402RouterQuoteResult.ranking (quote : Split402RouterQuoteResult ν) :
    List (Split402CapabilityProvider ν) :=
  quote.rankedProviders.map (·.provider)

theorem readRouterAtomicAmount_eq_ok {value label : String} {amount : Nat}
    (h : readRouterAtomicAmount value label = .ok amount) :
    parseAtomicAmount value = some amount := by
  unfold readRouterAtomicAmount at h
  cases hparse : parseAtomicAmount value with
  | none =>
      rw [hparse] at h
      cases h
  | some parsed =>
      rw [hparse] at h
      cases h
      rfl

theorem mem_rankProviders {providers ranked : List (Split402CapabilityProvider ν)}
    (h : rankProviders runtime providers input = .ok ranked)
    {provider : Split402CapabilityProvider ν} (hmem : provider ∈ ranked) :
    provider ∈ providers ∧ Suits input provider := by
  obtain ⟨-, -, h⟩ := bind_eq_ok.mp h
  obtain ⟨most, hmost, h⟩ := bind_eq_ok.mp h
  rw [pure_eq_ok] at h
  subst h
  have hbudget := readRouterAtomicAmount_eq_ok hmost
  simp only [mem_sortBy, List.mem_filter, decide_eq_true_eq] at hmem
  obtain ⟨⟨⟨⟨hprovider, hcapability⟩, hnetwork⟩, hasset⟩, hprice⟩ := hmem
  refine ⟨hprovider, hcapability, hnetwork, hasset, ?_⟩
  unfold readProviderAtomicAmount at hprice
  cases hparse : parseAtomicAmount provider.amountAtomic with
  | none =>
      rw [hparse] at hprice
      cases hprice
  | some price =>
      rw [hparse, Option.any_some, decide_eq_true_eq] at hprice
      exact ⟨price, most, rfl, hbudget, hprice⟩

theorem mem_inputEligibleProviders {eligible inputEligible : List (Split402CapabilityProvider ν)}
    (h : inputEligibleProviders runtime input eligible = .ok inputEligible)
    {provider : Split402CapabilityProvider ν} (hmem : provider ∈ inputEligible) :
    provider ∈ eligible := by
  unfold inputEligibleProviders at h
  by_cases hinput : input.input.isUndefined = true
  · rw [if_pos hinput, pure_eq_ok] at h
    rw [h]
    exact hmem
  · rw [if_neg hinput] at h
    exact (selectM_sublist h).1.subset hmem

/-- What is tried is a provider of the router, and what was asked for. -/
theorem mem_ranking {providers : List (Split402CapabilityProvider ν)}
    {quote : Split402RouterQuoteResult ν}
    (h : quoteExecution runtime providers input = .ok quote)
    {provider : Split402CapabilityProvider ν} (hmem : provider ∈ quote.ranking) :
    provider ∈ providers ∧ Suits input provider := by
  obtain ⟨-, -, h⟩ := bind_eq_ok.mp h
  dsimp only at h
  split at h
  · cases h
  obtain ⟨ranked, hranked, h⟩ := bind_eq_ok.mp h
  split at h
  · cases h
  split at h
  · cases h
  obtain ⟨inputEligible, heligible, h⟩ := bind_eq_ok.mp h
  split at h
  · obtain ⟨attempts, -, h⟩ := bind_eq_ok.mp h
    cases h
  obtain ⟨maxAttempts, -, h⟩ := bind_eq_ok.mp h
  split at h
  · cases h
  · rw [pure_eq_ok] at h
    subst h
    -- what is ranked is taken from the eligible providers
    have hproviders : provider ∈ inputEligible := by
      rw [Split402RouterQuoteResult.ranking, List.map_map] at hmem
      obtain ⟨entry, hentry, rfl⟩ := List.mem_map.mp hmem
      have htaken : entry.1 ∈ inputEligible.take maxAttempts :=
        (List.mem_zipIdx' hentry).2 ▸ List.getElem_mem _
      exact List.mem_of_mem_take htaken
    have hadmitted := mem_inputEligibleProviders (mapError_eq_ok.mp heligible) hproviders
    exact mem_rankProviders (mapError_eq_ok.mp hranked) (List.mem_filter.mp hadmitted).1

/-! ## The receipt -/

/-- The receipt is signed with the key. -/
def SignedBy (runtime : Runtime ν) (receipt : Split402ReceiptV1) (publicKey : String) : Prop :=
  ∃ message, buildReceiptSigningBytes runtime receipt = .ok message ∧
    safeVerify runtime message publicKey receipt.signature = true

/-- The receipt names the claim and who is paid for it. -/
structure BoundTo (runtime : Runtime ν) (receipt : Split402ReceiptV1) (claim : ReferralClaimV1) :
    Prop where
  routeId : receipt.routeId = some claim.routeId
  claimHash : ∃ hash, hashReferralClaim runtime claim = .ok hash ∧
    receipt.referralClaimHash = some hash
  referrerWallet : receipt.referrerWallet = some claim.referrerWallet
  payoutWallet : receipt.payoutWallet = some claim.payoutWallet

/-- The receipt is one of the provider, for the claim that was sent. -/
structure ReceiptFor (runtime : RouterRuntime ν) (provider : Split402CapabilityProvider ν)
    (referralClaim : Option ReferralClaimV1) (receipt : Split402ReceiptV1) : Prop where
  schema : split402ReceiptV1Schema runtime.zod receipt = true
  signed : ∃ publicKey, provider.merchantPublicKey = some publicKey ∧
    SignedBy runtime.toRuntime receipt publicKey
  origin : trimTrailingSlashes receipt.merchantOrigin = trimTrailingSlashes provider.merchantOrigin
  operationId : receipt.operationId = provider.operationId
  campaignId : receipt.campaignId = provider.campaignId
  network : receipt.network = provider.network
  asset : receipt.asset = provider.asset
  payToWallet : receipt.payToWallet = provider.payToWallet
  amount : receipt.requiredAmountAtomic = provider.amountAtomic
  claim : ∀ claim, referralClaim = some claim → BoundTo runtime.toRuntime receipt claim

/-- A message that is not listed says that its condition does not hold. -/
theorem ite_singleton_eq_nil {p : Prop} [Decidable p] {message : String} :
    (if p then [message] else []) = [] ↔ ¬ p := by
  by_cases h : p <;> simp [h]

theorem signedBy_of_verify {receipt : Split402ReceiptV1} {publicKey : String}
    {verification : ProtocolVerificationResult}
    (h : verifySplit402Receipt runtime.toRuntime runtime.zod runtime.receiptIssues (some receipt)
      publicKey = .ok verification)
    (hschema : split402ReceiptV1Schema runtime.zod receipt = true) (hvalid : verification.errors = []) :
    SignedBy runtime.toRuntime receipt publicKey := by
  rw [verifySplit402Receipt, Option.filter_some, if_pos hschema] at h
  obtain ⟨signature, hsignature, h⟩ := bind_eq_ok.mp h
  obtain ⟨arithmetic, -, h⟩ := bind_eq_ok.mp h
  rw [pure_eq_ok] at h
  subst h
  obtain ⟨hsigned, -⟩ := List.append_eq_nil_iff.mp hvalid
  obtain ⟨message, hmessage, h⟩ := bind_eq_ok.mp hsignature
  rw [pure_eq_ok] at h
  by_cases hsafe : safeVerify runtime.toRuntime message publicKey receipt.signature = true
  · exact ⟨message, hmessage, hsafe⟩
  · rw [if_neg hsafe] at h
    rw [← h] at hsigned
    cases hsigned

theorem boundTo_of_validate {receipt : Split402ReceiptV1} {referralClaim : Option ReferralClaimV1}
    (h : validateReceiptMatchesReferralClaim runtime receipt referralClaim = .ok [])
    {claim : ReferralClaimV1} (hclaim : referralClaim = some claim) :
    BoundTo runtime.toRuntime receipt claim := by
  subst hclaim
  obtain ⟨hash, hhash, h⟩ := bind_eq_ok.mp h
  rw [pure_eq_ok] at h
  simp only [List.append_eq_nil_iff, ite_singleton_eq_nil, not_not] at h
  obtain ⟨⟨⟨hroute, hclaimHash⟩, hreferrer⟩, hpayout⟩ := h
  exact ⟨hroute, ⟨hash, hhash, hclaimHash⟩, hreferrer, hpayout⟩

/-- **A receipt that a verifying router takes is one of the provider, for the claim sent.** -/
theorem receiptFor_of_verify {provider : Split402CapabilityProvider ν}
    {value : Option (Option Split402ReceiptV1)} {referralClaim : Option ReferralClaimV1}
    {receipt : Split402ReceiptV1}
    (h : verifyProviderReceipt runtime true provider value referralClaim = .ok receipt) :
    ReceiptFor runtime provider referralClaim receipt := by
  unfold verifyProviderReceipt at h
  split at h
  · cases h
  split at h
  · cases h
  rename_i value parsed hparsed
  obtain ⟨claimErrors, hclaim, h⟩ := bind_eq_ok.mp h
  obtain ⟨verificationErrors, hverification, h⟩ := bind_eq_ok.mp h
  dsimp only at h
  split at h
  · rename_i hempty
    rw [pure_eq_ok] at h
    subst h
    simp only [List.isEmpty_iff, List.append_eq_nil_iff] at hempty
    obtain ⟨⟨⟨hterms, -⟩, rfl⟩, rfl⟩ := hempty
    rw [validateReceiptMatchesProvider, validateTermsMatchProvider] at hterms
    simp only [List.append_eq_nil_iff, ite_singleton_eq_nil, not_not] at hterms
    obtain ⟨⟨⟨⟨⟨⟨horigin, hoperation⟩, hcampaign⟩, hnetwork⟩, hasset⟩, hpayTo⟩, hamount⟩ := hterms
    have hschema : split402ReceiptV1Schema runtime.zod parsed = true :=
      (Option.filter_eq_some_iff.mp hparsed).2
    have hsigned : ∃ publicKey, provider.merchantPublicKey = some publicKey ∧
        SignedBy runtime.toRuntime parsed publicKey := by
      rw [receiptVerificationErrors, Bool.not_true, if_neg Bool.false_ne_true] at hverification
      split at hverification
      · rw [pure_eq_ok] at hverification
        cases hverification
      · rename_i publicKey hkey
        obtain ⟨verification, hverify, hvalid⟩ := bind_eq_ok.mp hverification
        rw [pure_eq_ok] at hvalid
        exact ⟨publicKey, hkey,
          signedBy_of_verify (ofProtocolCheck_eq_ok.mp hverify) hschema hvalid⟩
    exact ⟨hschema, hsigned, horigin, hoperation, hcampaign, hnetwork, hasset, hpayTo, hamount,
      fun claim => boundTo_of_validate (ofProtocolCheck_eq_ok.mp hclaim)⟩
  · cases h

/-! ## Rounds -/

/-- What a router's operations have answered. -/
abbrev RouterAnswer (ν : Type) := Answered (RouterOp ν) RouterOp.Ans RouterThrown

/-- The provider an operation asks the executor for. -/
def RouterOp.executes : RouterOp ν → Option (Split402CapabilityProvider ν)
  | .execute call => some call.provider
  | .record _ => none

/-- An error that has a text, and is one to retry after. -/
def RouterThrown.Retries (error : RouterThrown) : Prop :=
  (∃ message, error.errorMessage = .ok message) ∧ isRetryableProviderError error = true

/-- A round: the provider that is tried, what was answered, and where the attempt has come to. -/
structure Round (ν : Type) where
  provider : Split402CapabilityProvider ν
  answers : List (RouterAnswer ν)
  stage : RouterAwait ν
    (JsValue ν × Split402ReceiptV1 × Option Split402ReceiptRecordingResult)

/-- The claim that is sent to a provider. -/
def sentClaim (input : Split402RouterExecuteInput ν) (provider : Split402CapabilityProvider ν) :
    Option ReferralClaimV1 :=
  input.referralClaim.orElse fun _ => provider.referralClaim

namespace Round

section

variable (runtime : RouterRuntime ν) (router : Split402Router ν)
  (input : Split402RouterExecuteInput ν) (round : Round ν)

/-- The round is one of the execution. -/
def Runs : Prop :=
  Traces (router.attempt runtime input round.provider) round.answers round.stage

/-- The executor has answered the data, with a receipt that has verified. -/
def Receives (data : JsValue ν) (receipt : Split402ReceiptV1) : Prop :=
  ∃ result rest, round.answers =
      ⟨.execute ⟨round.provider, input.input, sentClaim input round.provider⟩, .ok result⟩ :: rest ∧
    result.data = data ∧
    verifyProviderReceipt runtime router.verifyReceipts round.provider result.receipt
      (sentClaim input round.provider) = .ok receipt

/-- A receipt has verified. -/
def Verified : Prop := ∃ data receipt, round.Receives runtime router input data receipt

/-- The recorder has rejected a receipt with a value that has no text. -/
def RejectedWithoutText : Prop :=
  ∃ call error, (⟨.record call, .error error⟩ : RouterAnswer ν) ∈ round.answers ∧
    error.errorMessage = .error noTextError

/-- A receipt has been recorded, or is not to be. -/
def Recorded : Prop :=
  router.recordsReceipts = false ∨ ∃ call recording,
    (⟨.record call, .ok recording⟩ : RouterAnswer ν) ∈ round.answers

/-- After a verified receipt, the recorder rejects without a text, or the validator throws. -/
def Escapes : Prop :=
  ∃ data receipt, round.Receives runtime router input data receipt ∧
    (round.RejectedWithoutText ∨ round.Recorded router ∧ ∃ message,
      validateAgainstSchema runtime (round.provider.metadata.map (·.outputSchema)) data "output" =
        .error message)

/-- The round has failed with an error to retry after. -/
def Retried : Prop := ∃ error, round.stage = .done (.error error) ∧ error.Retries

end

end Round

/-! ## What follows a verified receipt -/

section Settle

variable {router : Split402Router ν} {provider : Split402CapabilityProvider ν}
  {referralClaim : Option ReferralClaimV1} {receipt : Split402ReceiptV1} {data : JsValue ν}
  {t : List (RouterAnswer ν)}

/-- What the router makes of an answer of its recorder. -/
def recordOutcome (receipt : Split402ReceiptV1) :
    Except RouterThrown (Option Split402ReceiptRecordingResult) →
      Except RouterThrown (Option Split402ReceiptRecordingResult)
  | .ok recording => .ok recording
  | .error error => do
      let message ← error.errorMessage
      throw (.provider ⟨"failed to record Split402 receipt: " ++ message, none, some false,
        some receipt.receiptId⟩)

/-- What an attempt does with a receipt that has verified. -/
def settleReceipt (runtime : RouterRuntime ν) (router : Split402Router ν)
    (provider : Split402CapabilityProvider ν) (referralClaim : Option ReferralClaimV1)
    (data : JsValue ν) (receipt : Split402ReceiptV1) :
    RouterAwait ν (JsValue ν × Split402ReceiptV1 × Option Split402ReceiptRecordingResult) := do
  let receiptRecording ← router.recordProviderReceipt provider receipt referralClaim
  .done (validateOutputAgainstProviderSchema runtime provider data receipt)
  pure (data, receipt, receiptRecording)

/-- What a settled receipt comes to, once it is recorded. -/
def settled (runtime : RouterRuntime ν) (provider : Split402CapabilityProvider ν)
    (data : JsValue ν) (receipt : Split402ReceiptV1)
    (recorded : Except RouterThrown (Option Split402ReceiptRecordingResult)) :
    Except RouterThrown (JsValue ν × Split402ReceiptV1 × Option Split402ReceiptRecordingResult) := do
  let receiptRecording ← recorded
  validateOutputAgainstProviderSchema runtime provider data receipt
  pure (data, receipt, receiptRecording)

theorem done_settled (recorded : Except RouterThrown (Option Split402ReceiptRecordingResult)) :
    ((.done recorded >>= fun receiptRecording => do
        .done (validateOutputAgainstProviderSchema runtime provider data receipt)
        pure (data, receipt, receiptRecording)) : RouterAwait ν
          (JsValue ν × Split402ReceiptV1 × Option Split402ReceiptRecordingResult)) =
      .done (settled runtime provider data receipt recorded) := by
  cases recorded with
  | error error => rfl
  | ok recording =>
      rw [settled, Base.Async.done_ok_bind]
      cases hvalid : validateOutputAgainstProviderSchema runtime provider data receipt <;> rfl

/-- A verified receipt waits for the recorder, or has come to what the recorder's answer, if it is
asked, and the output make of it. -/
theorem settleReceipt_traces {q : RouterAwait ν
      (JsValue ν × Split402ReceiptV1 × Option Split402ReceiptRecordingResult)}
    (h : Traces (settleReceipt runtime router provider referralClaim data receipt) t q) :
    (router.recordsReceipts = true ∧ t = [] ∧
      q.waitsFor = some (.record ⟨provider, receipt, referralClaim⟩)) ∨
    (router.recordsReceipts = false ∧ t = [] ∧
      q = .done (settled runtime provider data receipt (.ok none))) ∨
    ∃ answer, router.recordsReceipts = true ∧
      t = [⟨.record ⟨provider, receipt, referralClaim⟩, answer⟩] ∧
      q = .done (settled runtime provider data receipt (recordOutcome receipt answer)) := by
  unfold settleReceipt Split402Router.recordProviderReceipt at h
  cases hrecords : router.recordsReceipts with
  | false =>
      rw [hrecords, Bool.not_false, if_pos rfl, Base.Async.pure_eq, done_settled] at h
      obtain ⟨rfl, rfl⟩ := h.of_done
      exact .inr (.inl ⟨rfl, rfl, rfl⟩)
  | true =>
      rw [hrecords, Bool.not_true, if_neg Bool.false_ne_true] at h
      rcases Traces.of_await h with ⟨rfl, rfl⟩ | ⟨answer, t', rfl, h'⟩
      · exact .inl ⟨rfl, rfl, rfl⟩
      · have hcaught : Traces (.done (recordOutcome receipt answer) >>= fun receiptRecording => do
            .done (validateOutputAgainstProviderSchema runtime provider data receipt)
            pure (data, receipt, receiptRecording)) t' q := by
          cases answer with
          | ok recording => exact h'
          | error error =>
              cases error with
              | provider error => exact h'
              | other status statusCode response message => cases message <;> exact h'
        rw [done_settled] at hcaught
        obtain ⟨rfl, rfl⟩ := hcaught.of_done
        exact .inr (.inr ⟨answer, rfl, rfl, rfl⟩)

/-- A router that does not record receipts settles one at once. -/
theorem settleReceipt_of_unrecorded (h : router.recordsReceipts = false) :
    Traces (settleReceipt runtime router provider referralClaim data receipt) []
      (.done (settled runtime provider data receipt (.ok none))) := by
  unfold settleReceipt Split402Router.recordProviderReceipt
  rw [h, Bool.not_false, if_pos rfl, Base.Async.pure_eq, done_settled]
  exact .nil _

/-- A receipt that is recorded is followed by a retry when the validator throws. -/
theorem settled_ok_retries_iff {recording : Option Split402ReceiptRecordingResult} :
    (∃ error, settled runtime provider data receipt (.ok recording) = .error error ∧
      error.Retries) ↔
      ∃ message, validateAgainstSchema runtime (provider.metadata.map (·.outputSchema)) data
        "output" = .error message := by
  have hsettled : settled runtime provider data receipt (.ok recording) = (do
      validateOutputAgainstProviderSchema runtime provider data receipt
      pure (data, receipt, recording)) := rfl
  rw [hsettled, validateOutputAgainstProviderSchema]
  cases hvalid : validateAgainstSchema runtime (provider.metadata.map (·.outputSchema)) data
      "output" with
  | error message =>
      constructor
      · intro _
        exact ⟨message, rfl⟩
      · intro _
        exact ⟨.ofMessage message, rfl, ⟨message, rfl⟩, rfl⟩
  | ok errors =>
      constructor
      · rintro ⟨error, herror, -, hretry⟩
        -- what the output violates is an error not to retry after
        cases errors with
        | nil => cases herror
        | cons first rest =>
            cases herror
            cases hretry
      · rintro ⟨message, hmessage⟩
        cases hmessage

/-- A receipt that is not recorded is followed by a retry when the rejection has no text. -/
theorem settled_error_retries_iff {rejection : RouterThrown} :
    (∃ error, settled runtime provider data receipt (recordOutcome receipt (.error rejection)) =
      .error error ∧ error.Retries) ↔ rejection.errorMessage = .error noTextError := by
  cases hmessage : rejection.errorMessage with
  | ok message =>
      have hsettled : settled runtime provider data receipt
          (recordOutcome receipt (.error rejection)) =
          .error (.provider ⟨"failed to record Split402 receipt: " ++ message, none, some false,
            some receipt.receiptId⟩) := by
        rw [recordOutcome, hmessage]
        rfl
      rw [hsettled]
      constructor
      · rintro ⟨error, herror, -, hretry⟩
        cases herror
        cases hretry
      · intro h
        cases h
  | error thrown =>
      have hthrown : thrown = noTextError := by
        cases rejection with
        | provider error => cases hmessage
        | other status statusCode response text =>
            cases text with
            | none =>
                cases hmessage
                rfl
            | some text => cases hmessage
      subst hthrown
      have hsettled : settled runtime provider data receipt
          (recordOutcome receipt (.error rejection)) = .error noTextError := by
        rw [recordOutcome, hmessage]
        rfl
      rw [hsettled]
      exact ⟨fun _ => rfl, fun _ => ⟨_, rfl, ⟨_, rfl⟩, rfl⟩⟩

end Settle

/-! ## The stages of a round -/

section Stages

variable {router : Split402Router ν} {provider : Split402CapabilityProvider ν}
  {t : List (RouterAnswer ν)}

/-- An attempt waits for the executor, has failed with it or with its receipt, or has a receipt that
has verified. -/
theorem attempt_traces {q : RouterAwait ν
      (JsValue ν × Split402ReceiptV1 × Option Split402ReceiptRecordingResult)}
    (h : Traces (router.attempt runtime input provider) t q) :
    (t = [] ∧ q.waitsFor = some (.execute ⟨provider, input.input, sentClaim input provider⟩)) ∨
    (∃ error answer, t = [⟨.execute ⟨provider, input.input, sentClaim input provider⟩, answer⟩] ∧
      q = .done (.error error) ∧ ∀ result, answer = .ok result →
        verifyProviderReceipt runtime router.verifyReceipts provider result.receipt
          (sentClaim input provider) = .error error) ∨
    ∃ result receipt t', t =
        ⟨.execute ⟨provider, input.input, sentClaim input provider⟩, .ok result⟩ :: t' ∧
      verifyProviderReceipt runtime router.verifyReceipts provider result.receipt
        (sentClaim input provider) = .ok receipt ∧
      Traces (settleReceipt runtime router provider (sentClaim input provider) result.data receipt)
        t' q := by
  rcases Traces.of_await h with ⟨rfl, rfl⟩ | ⟨answer, t', rfl, h'⟩
  · exact .inl ⟨rfl, rfl⟩
  · cases answer with
    | error error =>
        obtain ⟨rfl, rfl⟩ := Traces.of_done h'
        exact .inr (.inl ⟨error, _, rfl, rfl, nofun⟩)
    | ok result =>
        have hverify : Traces (.done (verifyProviderReceipt runtime router.verifyReceipts provider
            result.receipt (sentClaim input provider)) >>= fun receipt =>
            settleReceipt runtime router provider (sentClaim input provider) result.data receipt)
            t' q := h'
        cases hreceipt : verifyProviderReceipt runtime router.verifyReceipts provider
            result.receipt (sentClaim input provider) with
        | error error =>
            rw [hreceipt] at hverify
            obtain ⟨rfl, rfl⟩ := Traces.of_done hverify
            refine .inr (.inl ⟨error, _, rfl, rfl, ?_⟩)
            intro result' hresult
            cases hresult
            exact hreceipt
        | ok receipt =>
            rw [hreceipt] at hverify
            exact .inr (.inr ⟨result, receipt, t', rfl, hreceipt, hverify⟩)

/-- An attempt whose receipt has verified goes on to settle it. -/
theorem attempt_of_verified {result : Split402RouterExecutorResult ν} {receipt : Split402ReceiptV1}
    {q : RouterAwait ν (JsValue ν × Split402ReceiptV1 × Option Split402ReceiptRecordingResult)}
    (hverify : verifyProviderReceipt runtime router.verifyReceipts provider result.receipt
      (sentClaim input provider) = .ok receipt)
    (hsettle : Traces (settleReceipt runtime router provider (sentClaim input provider) result.data
      receipt) t q) :
    Traces (router.attempt runtime input provider)
      (⟨.execute ⟨provider, input.input, sentClaim input provider⟩, .ok result⟩ :: t) q := by
  have hattempt : router.attempt runtime input provider =
      .await (.execute ⟨provider, input.input, sentClaim input provider⟩) (fun answer =>
        .done answer >>= fun result => .done (verifyProviderReceipt runtime router.verifyReceipts
          provider result.receipt (sentClaim input provider)) >>= fun receipt =>
            settleReceipt runtime router provider (sentClaim input provider) result.data receipt) :=
    rfl
  rw [hattempt]
  refine .cons _ ?_
  show Traces (.done (verifyProviderReceipt runtime router.verifyReceipts provider result.receipt
    (sentClaim input provider)) >>= fun receipt =>
      settleReceipt runtime router provider (sentClaim input provider) result.data receipt) t q
  rw [hverify]
  exact hsettle

namespace Round

variable {round : Round ν} {data : JsValue ν} {receipt : Split402ReceiptV1}

/-- A round with a verified receipt is settling it. -/
theorem Receives.settles (hruns : round.Runs runtime router input)
    (hreceives : round.Receives runtime router input data receipt) :
    ∃ result rest, round.answers =
        ⟨.execute ⟨round.provider, input.input, sentClaim input round.provider⟩, .ok result⟩ ::
          rest ∧
      Traces (settleReceipt runtime router round.provider (sentClaim input round.provider) data
        receipt) rest round.stage := by
  obtain ⟨result, rest, hanswers, rfl, hverify⟩ := hreceives
  refine ⟨result, rest, hanswers, ?_⟩
  have hruns' : Traces (router.attempt runtime input round.provider) round.answers round.stage :=
    hruns
  rw [hanswers] at hruns'
  rcases attempt_traces hruns' with ⟨hnil, -⟩ | ⟨error, answer, hone, -, herror⟩ |
    ⟨result', receipt', t', hcons, hverify', hsettle⟩
  · cases hnil
  · cases hone
    have herror' := herror result rfl
    rw [hverify] at herror'
    cases herror'
  · cases hcons
    rw [hverify] at hverify'
    cases hverify'
    exact hsettle

theorem Receives.unique {data' : JsValue ν} {receipt' : Split402ReceiptV1}
    (h : round.Receives runtime router input data receipt)
    (h' : round.Receives runtime router input data' receipt') : data = data' := by
  obtain ⟨result, rest, hanswers, rfl, -⟩ := h
  obtain ⟨result', rest', hanswers', rfl, -⟩ := h'
  rw [hanswers] at hanswers'
  cases hanswers'
  rfl

/-- A record is asked for once, after the execution. -/
theorem mem_record_iff {executed : ExecutorInput ν}
    {result : Except RouterThrown (Split402RouterExecutorResult ν)}
    {call asked : ReceiptRecorderInput ν}
    {answer given : Except RouterThrown (Option Split402ReceiptRecordingResult)} :
    (⟨.record call, answer⟩ : RouterAnswer ν) ∈
        [⟨.execute executed, result⟩, ⟨.record asked, given⟩] ↔
      call = asked ∧ answer = given := by
  constructor
  · intro hmem
    rcases List.mem_cons.mp hmem with h | h
    · cases h
    · cases List.mem_singleton.mp h
      exact ⟨rfl, rfl⟩
  · rintro ⟨rfl, rfl⟩
    exact List.mem_cons_of_mem _ (List.mem_singleton.mpr rfl)

/-- **A round with a verified receipt is retried after exactly when something escapes.** -/
theorem retried_iff_escapes (hruns : round.Runs runtime router input)
    (hreceives : round.Receives runtime router input data receipt) :
    round.Retried ↔ round.Escapes runtime router input := by
  have hescapes : round.Escapes runtime router input ↔
      round.RejectedWithoutText ∨ round.Recorded router ∧ ∃ message,
        validateAgainstSchema runtime (round.provider.metadata.map (·.outputSchema)) data
          "output" = .error message := by
    constructor
    · rintro ⟨data', receipt', hreceives', h⟩
      rwa [← hreceives.unique hreceives'] at h
    · intro h
      exact ⟨data, receipt, hreceives, h⟩
  rw [hescapes]
  obtain ⟨result, rest, hanswers, hsettle⟩ := hreceives.settles hruns
  rcases settleReceipt_traces hsettle with ⟨hrecords, rfl, hwaits⟩ | ⟨hrecords, rfl, hstage⟩ |
    ⟨answer, hrecords, rfl, hstage⟩
  · -- the recorder has not answered
    constructor
    · rintro ⟨error, hstage, -⟩
      rw [hstage] at hwaits
      cases hwaits
    · rintro (⟨call, error, hmem, -⟩ | ⟨hfalse | ⟨call, recording, hmem⟩, -⟩)
      · simp [hanswers] at hmem
      · rw [hrecords] at hfalse
        cases hfalse
      · simp [hanswers] at hmem
  · -- receipts are not recorded
    rw [Retried, hstage]
    constructor
    · rintro ⟨error, herror, hretries⟩
      injection herror with herror
      exact .inr ⟨.inl hrecords, settled_ok_retries_iff.mp ⟨error, herror, hretries⟩⟩
    · rintro (⟨call, error, hmem, -⟩ | ⟨-, hthrows⟩)
      · simp [hanswers] at hmem
      · obtain ⟨error, herror, hretries⟩ := settled_ok_retries_iff.mpr hthrows
        exact ⟨error, by rw [herror], hretries⟩
  · rw [Retried, hstage]
    cases answer with
    | ok recording =>
        have hrecorded : round.Recorded router :=
          .inr ⟨_, recording, hanswers ▸ mem_record_iff.mpr ⟨rfl, rfl⟩⟩
        constructor
        · rintro ⟨error, herror, hretries⟩
          injection herror with herror
          exact .inr ⟨hrecorded, settled_ok_retries_iff.mp ⟨error, herror, hretries⟩⟩
        · rintro (⟨call, error, hmem, -⟩ | ⟨-, hthrows⟩)
          · rw [hanswers] at hmem
            cases (mem_record_iff.mp hmem).2
          · obtain ⟨error, herror, hretries⟩ := settled_ok_retries_iff.mpr hthrows
            exact ⟨error, congrArg Base.Async.done herror, hretries⟩
    | error rejection =>
        constructor
        · rintro ⟨error, herror, hretries⟩
          injection herror with herror
          exact .inl ⟨_, rejection, hanswers ▸ mem_record_iff.mpr ⟨rfl, rfl⟩,
            settled_error_retries_iff.mp ⟨error, herror, hretries⟩⟩
        · rintro (⟨call, error, hmem, htext⟩ | ⟨hfalse | ⟨call, recording, hmem⟩, -⟩)
          · rw [hanswers] at hmem
            cases (mem_record_iff.mp hmem).2
            obtain ⟨error, herror, hretries⟩ := settled_error_retries_iff.mpr htext
            exact ⟨error, congrArg Base.Async.done herror, hretries⟩
          · rw [hrecords] at hfalse
            cases hfalse
          · rw [hanswers] at hmem
            cases (mem_record_iff.mp hmem).2

/-- What a round delivers it has received. -/
theorem receives_of_delivered (hruns : round.Runs runtime router input)
    {recording : Option Split402ReceiptRecordingResult}
    (hstage : round.stage = .done (.ok (data, receipt, recording))) :
    round.Receives runtime router input data receipt := by
  rcases attempt_traces hruns with ⟨-, hwaits⟩ | ⟨error, answer, -, herror, -⟩ |
    ⟨result, receipt', t', hanswers, hverify, hsettle⟩
  · rw [hstage] at hwaits
    cases hwaits
  · rw [hstage] at herror
    cases herror
  · have hsettled : ∀ recorded, round.stage = .done (settled runtime round.provider result.data
        receipt' recorded) → result.data = data ∧ receipt' = receipt := by
      intro recorded hdone
      rw [hstage] at hdone
      injection hdone with hdone
      obtain ⟨_, -, hdone⟩ := bind_eq_ok.mp hdone.symm
      obtain ⟨_, -, hdone⟩ := bind_eq_ok.mp hdone
      rw [pure_eq_ok] at hdone
      cases hdone
      exact ⟨rfl, rfl⟩
    have hsame : result.data = data ∧ receipt' = receipt := by
      rcases settleReceipt_traces hsettle with ⟨-, -, hwaits⟩ | ⟨-, -, hdone⟩ | ⟨answer, -, -, hdone⟩
      · rw [hstage] at hwaits
        cases hwaits
      · exact hsettled _ hdone
      · exact hsettled _ hdone
    obtain ⟨rfl, rfl⟩ := hsame
    exact ⟨result, t', hanswers, rfl, hverify⟩

end Round

end Stages

end Split402

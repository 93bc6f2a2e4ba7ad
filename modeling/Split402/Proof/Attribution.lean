import Split402.Proof.CampaignUpdate

/-! # Attribution of payments

The extension reads the referral claim of a payment last. What the claim is found to be decides only
how the payment is attributed: with an offer that does not require attribution a payment is let
through whatever its claim, and a claim that fails leaves the receipt of a payment without one. -/

namespace Split402

open Base

variable {ν : Type} {runtime : X402Runtime ν} {options : Split402ServerExtensionOptions}
  {offer : Split402OfferV1} {now : Int}

/-! ## The claim is read last -/

/-- The payment with another referral claim: `none` is no claim, `some none` a malformed one. -/
def PaymentPayload.withClaim (payload : PaymentPayload) (claim : Option (Option ReferralClaimV1)) :
    PaymentPayload :=
  { payload with extension := payload.extension.map fun info => { info with referralClaim := claim } }

def VerifyContext.withClaim (context : VerifyContext ν) (claim : Option (Option ReferralClaimV1)) :
    VerifyContext ν :=
  { context with paymentPayload := context.paymentPayload.withClaim claim }

/-- The attribution with what its claim is found to be. -/
def ValidatedSplit402Attribution.withClaim (attribution : ValidatedSplit402Attribution)
    (parsed : ClaimStatus × List String × Option ReferralClaimV1) : ValidatedSplit402Attribution :=
  { attribution with
    claimStatus := parsed.1
    claimErrors := parsed.2.1
    referralClaim := parsed.2.2 }

/-- A payment has its claim read when it passes all other checks. -/
theorem validateAttributionPayload_withClaim (options : Split402ServerExtensionOptions)
    (context : VerifyContext ν) (now : Int) (claim : Option (Option ReferralClaimV1)) :
    validateAttributionPayload runtime options (context.withClaim claim) now =
      (validateAttributionPayload runtime options (context.withClaim none) now >>= fun validation =>
        match validation with
        | .error errors => pure (.error errors)
        | .ok attribution =>
            parseReferralClaim runtime claim attribution.offer options.merchantOrigin now >>=
              fun parsed => pure (.ok (attribution.withClaim parsed))) := by
  obtain ⟨⟨payment, method, extension⟩, requirements, transport⟩ := context
  cases extension with
  | none => rfl
  | some info =>
      obtain ⟨offer, paymentId, requestDigest, referralClaim⟩ := info
      unfold validateAttributionPayload VerifyContext.withClaim PaymentPayload.withClaim
      simp only [Option.map_some, asRecord, pure_bind]
      cases offer.filter (split402OfferV1Schema runtime.zod) with
      | none => rfl
      | some offer =>
          dsimp only
          simp only [bind_assoc]
          refine congrArg _ (funext fun signatureErrors => ?_)
          refine congrArg _ (funext fun digestErrors => ?_)
          -- what is left reads the errors, the payment id and the digest
          generalize signatureErrors ++ _ ++ _ ++ _ ++ _ ++ _ ++ digestErrors = errors
          cases errors with
          | cons error errors => rfl
          | nil =>
              cases paymentId with
              | none => rfl
              | some paymentId => cases requestDigest <;> rfl

/-! ## The checks of a claim -/

/-- What a claim of a payment has to pass. -/
structure PassesClaimChecks (runtime : X402Runtime ν) (options : Split402ServerExtensionOptions)
    (offer : Split402OfferV1) (now : Int) (claim : ReferralClaimV1) : Prop where
  schema : referralClaimV1Schema runtime.zod claim = true
  signature : ∃ verification, verifyReferralClaimObject runtime.toRuntime claim = .ok verification ∧
    verification.ok = true
  campaign : claim.campaignId = offer.campaignId
  version : claim.campaignVersionMin ≤ offer.campaignVersion
  origin : claim.resourceOrigin = options.merchantOrigin
  scope : ∃ operationId ∈ claim.operationIds, operationId = "*" ∨ operationId = offer.operationId
  unexpired : ∀ expiresAt, runtime.host.dateParse claim.expiresAt = some expiresAt → now ≤ expiresAt

theorem verifyReferralClaimObject_ok {runtime : Runtime ν} (hstd : runtime.Standard)
    (claim : ReferralClaimV1) : ∃ verification, verifyReferralClaimObject runtime claim =
      .ok verification := by
  rw [verifyReferralClaimObject, buildReferralClaimSigningBytes_eq hstd]
  exact ⟨_, rfl⟩

theorem validateClaimAgainstOffer_eq_nil {claim : ReferralClaimV1} {merchantOrigin : String} :
    validateClaimAgainstOffer runtime claim offer merchantOrigin now = [] ↔
      claim.campaignId = offer.campaignId ∧ claim.campaignVersionMin ≤ offer.campaignVersion ∧
        claim.resourceOrigin = merchantOrigin ∧
        (∃ operationId ∈ claim.operationIds, operationId = "*" ∨ operationId = offer.operationId) ∧
        ∀ expiresAt, runtime.host.dateParse claim.expiresAt = some expiresAt → now ≤ expiresAt := by
  have hexpiry : ((runtime.host.dateParse claim.expiresAt).any (· < now) = true → False) ↔
      ∀ expiresAt, runtime.host.dateParse claim.expiresAt = some expiresAt → now ≤ expiresAt := by
    cases runtime.host.dateParse claim.expiresAt with
    | none => simp
    | some expiresAt => simp
  simp only [validateClaimAgainstOffer, List.append_eq_nil_iff, ite_eq_right_iff, List.cons_ne_nil,
    imp_false, not_not, ne_eq, gt_iff_lt, not_lt, Bool.not_eq_true', Bool.not_eq_false,
    List.any_eq_true, Bool.or_eq_true, beq_iff_eq, and_assoc]
  rw [← hexpiry]

/-- What is found out about a claim. -/
inductive Parsed (runtime : X402Runtime ν) (options : Split402ServerExtensionOptions)
    (offer : Split402OfferV1) (now : Int) : Option (Option ReferralClaimV1) →
    ClaimStatus × List String × Option ReferralClaimV1 → Prop
  | missing : Parsed runtime options offer now none (.missing, [], none)
  | valid {claim : ReferralClaimV1} (h : PassesClaimChecks runtime options offer now claim) :
      Parsed runtime options offer now (some (some claim)) (.valid, [], some claim)
  | invalid {value : Option ReferralClaimV1} (errors : List String)
      (h : ∀ claim, value = some claim → ¬ PassesClaimChecks runtime options offer now claim) :
      Parsed runtime options offer now (some value) (.invalid, errors, none)

/-- Reading a claim does not throw. -/
theorem parseReferralClaim_parsed (hstd : runtime.toRuntime.Standard)
    (value : Option (Option ReferralClaimV1)) (offer : Split402OfferV1) (now : Int) :
    ∃ parsed, parseReferralClaim runtime value offer options.merchantOrigin now = .ok parsed ∧
      Parsed runtime options offer now value parsed := by
  cases value with
  | none => exact ⟨_, rfl, .missing⟩
  | some value =>
      unfold parseReferralClaim
      dsimp only
      cases hfilter : value.filter (referralClaimV1Schema runtime.zod) with
      | none =>
          refine ⟨_, rfl, .invalid _ ?_⟩
          rintro claim rfl hpasses
          rw [Option.filter_some, if_pos hpasses.schema] at hfilter
          cases hfilter
      | some claim =>
          obtain ⟨rfl, hschema⟩ := Option.filter_eq_some_iff.mp hfilter
          obtain ⟨verification, hverification⟩ := verifyReferralClaimObject_ok hstd claim
          dsimp only
          rw [hverification]
          simp only [bind, Except.bind]
          by_cases hok : verification.ok = true
          · by_cases hsemantic :
                validateClaimAgainstOffer runtime claim offer options.merchantOrigin now = []
            · refine ⟨(.valid, [], some claim), by simp [hok, hsemantic, pure, Except.pure], .valid ?_⟩
              obtain ⟨hcampaign, hversion, horigin, hscope, hexpiry⟩ :=
                validateClaimAgainstOffer_eq_nil.mp hsemantic
              exact ⟨hschema, ⟨verification, hverification, hok⟩, hcampaign, hversion, horigin, hscope,
                hexpiry⟩
            · refine ⟨(.invalid, _, none), by simp [hok, hsemantic, pure, Except.pure]; rfl, .invalid _ ?_⟩
              rintro _ ⟨⟩ hpasses
              exact hsemantic (validateClaimAgainstOffer_eq_nil.mpr ⟨hpasses.campaign,
                hpasses.version, hpasses.origin, hpasses.scope, hpasses.unexpired⟩)
          · refine ⟨(.invalid, _, none), by simp [hok, pure, Except.pure]; rfl, .invalid _ ?_⟩
            rintro _ ⟨⟩ hpasses
            obtain ⟨verification', hverification', hok'⟩ := hpasses.signature
            rw [hverification, Except.ok.injEq] at hverification'
            exact hok (hverification' ▸ hok')

/-! ## Payments that are let through -/

variable {context : VerifyContext ν} {attribution : ValidatedSplit402Attribution}
  {declaration : Option RouteDeclarationRecord}

theorem PaymentPayload.withClaim_self {payload : PaymentPayload} {info : AttributionInfo}
    (h : payload.extension = some info) : payload.withClaim info.referralClaim = payload := by
  obtain ⟨payment, method, extension⟩ := payload
  subst h
  rfl

/-- What the attribution of a payment says of its offer does not depend on the claim, which fares as
it is parsed. -/
theorem validateAttributionPayload_eq_ok (hstd : runtime.toRuntime.Standard)
    {claim : Option (Option ReferralClaimV1)}
    (h : validateAttributionPayload runtime options (context.withClaim claim) now =
      .ok (.ok attribution)) :
    ∃ unattributed parsed, validateAttributionPayload runtime options (context.withClaim none) now =
        .ok (.ok unattributed) ∧
      attribution = unattributed.withClaim parsed ∧
      Parsed runtime options attribution.offer now claim parsed := by
  rw [validateAttributionPayload_withClaim] at h
  obtain ⟨validation, hvalidation, h⟩ := bind_eq_ok.mp h
  cases validation with
  | error errors => cases h
  | ok unattributed =>
      obtain ⟨parsed, hparsed, h⟩ := bind_eq_ok.mp h
      obtain ⟨parsed', hparsed', hfares⟩ := @parseReferralClaim_parsed _ _ options hstd claim
        unattributed.offer now
      rw [hparsed, Except.ok.injEq] at hparsed'
      rw [pure_eq_ok, Except.ok.injEq] at h
      subst hparsed' h
      exact ⟨unattributed, parsed, hvalidation, rfl, hfares⟩

/-- **A payment that is let through is let through without its claim, too.** -/
theorem proceed_without_claim (hstd : runtime.toRuntime.Standard)
    (h : onBeforeVerify runtime options declaration context now = .ok (.proceed attribution)) :
    onBeforeVerify runtime options declaration (context.withClaim none) now =
      .ok (.proceed (attribution.withClaim (.missing, [], none))) := by
  obtain ⟨info, hinfo, -⟩ := (proceed_spec h).info
  have hsame : context.withClaim info.referralClaim = context := by
    rw [VerifyContext.withClaim, PaymentPayload.withClaim_self hinfo]
  obtain ⟨hvalid, -⟩ := onBeforeVerify_eq_proceed h
  rw [← hsame] at hvalid
  obtain ⟨unattributed, parsed, hunattributed, rfl, -⟩ := validateAttributionPayload_eq_ok hstd hvalid
  obtain ⟨_, parsed', -, hmissing, hparsed'⟩ := validateAttributionPayload_eq_ok hstd hunattributed
  cases hparsed'
  refine bind_eq_ok.mpr ⟨_, hunattributed, ?_⟩
  rw [hmissing]
  rfl

/-- The payment carries a claim that passes the checks. -/
def CarriesPassedClaim (runtime : X402Runtime ν) (options : Split402ServerExtensionOptions)
    (context : VerifyContext ν) (offer : Split402OfferV1) (now : Int) : Prop :=
  ∃ info claim, context.paymentPayload.extension = some info ∧
    info.referralClaim = some (some claim) ∧ PassesClaimChecks runtime options offer now claim

/-- **A payment with an offer that requires attribution, and that is let through, carries a claim
that passes the checks exactly when it carries any claim at all.** -/
theorem attribution_required_iff (hstd : runtime.toRuntime.Standard)
    (hproceed : onBeforeVerify runtime options declaration context now = .ok (.proceed attribution))
    (hrequired : attribution.offer.attributionRequired = true) :
    CarriesPassedClaim runtime options context attribution.offer now ↔
      ∃ info, context.paymentPayload.extension = some info ∧ info.referralClaim.isSome := by
  obtain ⟨hvalid, hstatus⟩ := onBeforeVerify_eq_proceed hproceed
  constructor
  · intro ⟨info, claim, hinfo, hclaim, _⟩
    exact ⟨info, hinfo, by rw [hclaim]; rfl⟩
  · intro ⟨info, hinfo, hsome⟩
    obtain ⟨value, hvalue⟩ := Option.isSome_iff_exists.mp hsome
    have hsame : context.withClaim (some value) = context := by
      rw [VerifyContext.withClaim, ← hvalue, PaymentPayload.withClaim_self hinfo]
    rw [← hsame] at hvalid
    obtain ⟨unattributed, parsed, -, hattribution, hparsed⟩ :=
      validateAttributionPayload_eq_ok hstd hvalid
    cases hparsed with
    | valid hpasses => exact ⟨info, _, hinfo, hvalue, hpasses⟩
    | invalid errors hfails =>
        -- a claim that fails makes the hook abort
        exact absurd ⟨by rw [hattribution]; rfl, hrequired⟩ hstatus

namespace Sample

/-- The merchant requires attribution, and the quote is paid for without a claim. -/
theorem quote_letThrough : ∃ (context : VerifyContext Whole) (now : Int)
    (attribution : ValidatedSplit402Attribution),
    onBeforeVerify offerRuntime offerOptions quoteRoute.record (context.withClaim none) now =
      .ok (.proceed attribution) ∧ attribution.offer = quoteOffer := by
  have hends : (offerRuntime.host.dateParse quoteOffer.validUntil).isSome = true := by
    decide
  obtain ⟨context, now, attribution, -, hproceed, hsame⟩ :=
    @proceed_of_genuine _ _ _ _ offerRuntime_standard quoteOffer_genuine rfl hends offerRequirement
      (by decide) quoteRoute.record
  exact ⟨context, now, _, proceed_without_claim offerRuntime_standard hproceed, hsame⟩

end Sample

theorem attribution_required_iff_quote : ∃ (context : VerifyContext Whole) (now : Int),
    ¬ CarriesPassedClaim Sample.offerRuntime Sample.offerOptions (context.withClaim none)
      Sample.quoteOffer now := by
  obtain ⟨context, now, attribution, hproceed, hsame⟩ := Sample.quote_letThrough
  refine ⟨context, now, ?_⟩
  have hiff := attribution_required_iff Sample.offerRuntime_standard hproceed (by rw [hsame]; rfl)
  rw [← hsame, hiff]
  rintro ⟨info, hinfo, hclaim⟩
  obtain ⟨carried, -, rfl⟩ := Option.map_eq_some_iff.mp hinfo
  cases hclaim

/-- An offer that requires attribution is paid with without a claim. -/
theorem not_attribution_required : ¬ ∀ (runtime : X402Runtime Whole)
    (options : Split402ServerExtensionOptions) (declaration : Option RouteDeclarationRecord)
    (context : VerifyContext Whole) (now : Int) (attribution : ValidatedSplit402Attribution),
    runtime.toRuntime.Standard →
    onBeforeVerify runtime options declaration context now = .ok (.proceed attribution) →
    attribution.offer.attributionRequired = true →
    CarriesPassedClaim runtime options context attribution.offer now := by
  intro h
  obtain ⟨context, now, attribution, hproceed, hsame⟩ := Sample.quote_letThrough
  obtain ⟨info, claim, hinfo, hclaim, -⟩ :=
    h _ _ _ _ _ _ Sample.offerRuntime_standard hproceed (by rw [hsame]; rfl)
  obtain ⟨carried, -, rfl⟩ := Option.map_eq_some_iff.mp hinfo
  cases hclaim

/-! ## Two runs of a payment -/

/-- What a caller of the hook sees: an abort with its reason and message, or nothing. -/
def BeforeVerify.aborts : BeforeVerify → Option (String × String)
  | .abort reason message => some (reason, message)
  | .proceed _ => none

/-- The offer of the payment does not require attribution. -/
def AttributionOptional (context : VerifyContext ν) : Prop :=
  ∀ info offer, context.paymentPayload.extension = some info → info.offer = some offer →
    offer.attributionRequired = false

theorem AttributionOptional.withClaim (h : AttributionOptional context)
    {claim : Option (Option ReferralClaimV1)} : AttributionOptional (context.withClaim claim) := by
  intro _ offer hinfo hoffer
  obtain ⟨info, hsent, rfl⟩ := Option.map_eq_some_iff.mp hinfo
  exact h info offer hsent hoffer

/-- The claim fails: it does not pass the checks of the payment, or it is one of a self-referral. -/
def ClaimFails (runtime : X402Runtime ν) (options : Split402ServerExtensionOptions)
    (offer : Split402OfferV1) (now : Int) (settlement : SettleResponse)
    (value : Option ReferralClaimV1) : Prop :=
  ∀ claim, value = some claim → PassesClaimChecks runtime options offer now claim →
    ∀ payerWallet, settlement.payer = some payerWallet →
      evaluateSelfReferralPolicy
        { allowSelfReferral := offer.allowSelfReferral
          payerWallet := payerWallet
          referrerWallet := some claim.referrerWallet
          payoutWallet := some claim.payoutWallet
          merchantOwnerWallet := none } ≠ none

/-- A receipt without commission and route. -/
structure Unattributed (receipt : Split402ReceiptV1) : Prop where
  commissionBps : receipt.commissionBps = 0
  protocolFeeBpsOfCommission : receipt.protocolFeeBpsOfCommission = 0
  commissionAmountAtomic : receipt.commissionAmountAtomic = "0"
  protocolFeeAtomic : receipt.protocolFeeAtomic = "0"
  referrerCreditAtomic : receipt.referrerCreditAtomic = "0"
  routeId : receipt.routeId = none
  referralClaimHash : receipt.referralClaimHash = none
  referrerWallet : receipt.referrerWallet = none
  payoutWallet : receipt.payoutWallet = none

/-- The receipts are equal but for their id, their times and their signature. -/
def SameButIssue (receipt receipt' : Split402ReceiptV1) : Prop :=
  receipt = { receipt' with
    receiptId := receipt.receiptId
    settledAt := receipt.settledAt
    issuedAt := receipt.issuedAt
    signature := receipt.signature }

section Receipts

variable {campaign : Split402CampaignConfig} {merchantId merchantOrigin kid : String}
  {settlement : SettleResponse} {call : ServerCall} {receipt : Split402ReceiptV1}

theorem Built.unattributed (h : Built runtime attribution campaign merchantId merchantOrigin
    settlement kid call receipt none) : Unattributed receipt := by
  have hbps : receipt.commissionBps = 0 := h.commissionBps
  have hfee : receipt.protocolFeeBpsOfCommission = 0 := h.protocolFeeBpsOfCommission
  obtain ⟨requiredAmount, commission, -, hcommission, hamount, hprotocol, hcredit⟩ := h.amounts
  rw [hbps, hfee] at hcommission
  have hzero : calculateCommission requiredAmount 0 0 = .ok ⟨0, 0, 0⟩ := by
    have hnonneg : ¬ (requiredAmount : Int) < 0 := by omega
    simp [calculateCommission, hnonneg]
  rw [Nat.cast_zero, hzero, Except.ok.injEq] at hcommission
  subst hcommission
  have hprinted : serializeAtomicBigint 0 = .ok "0" := by decide
  rw [hprinted, Except.ok.injEq] at hamount hprotocol hcredit
  exact ⟨hbps, hfee, hamount.symm, hprotocol.symm, hcredit.symm, h.routeId, h.noClaimHash rfl,
    h.referrerWallet, h.payoutWallet⟩

/-- Two receipts without a claim for one payment and settlement. -/
theorem Built.sameButIssue {attribution' : ValidatedSplit402Attribution} {call' : ServerCall}
    {receipt' : Split402ReceiptV1} (h : Built runtime attribution campaign merchantId merchantOrigin
      settlement kid call receipt none)
    (h' : Built runtime attribution' campaign merchantId merchantOrigin settlement kid call' receipt'
      none)
    (hoffer : attribution.offer = attribution'.offer)
    (hpayment : attribution.paymentId = attribution'.paymentId)
    (hdigest : attribution.requestDigest = attribution'.requestDigest) :
    SameButIssue receipt receipt' := by
  have hzero := h.unattributed
  have hzero' := h'.unattributed
  have hpayer := h.payerWallet.1.symm.trans h'.payerWallet.1
  have htransaction := h.settlementTxSignature.1.symm.trans h'.settlementTxSignature.1
  have hof : ∀ {α : Type} (field : Split402OfferV1 → α), field attribution.offer =
      field attribution'.offer := fun field => congrArg field hoffer
  rw [Option.some.injEq] at hpayer htransaction
  unfold SameButIssue
  obtain ⟨⟩ := receipt
  rw [Split402ReceiptV1.mk.injEq]
  -- one line for each of the payment, the offer's terms, the settlement and the commission
  refine ⟨rfl, h.merchantId.trans h'.merchantId.symm, h.merchantOrigin.trans h'.merchantOrigin.symm,
    ?_, ?_, ?_, ?_,
    h.campaignTermsHash.trans h'.campaignTermsHash.symm, hzero.routeId.trans hzero'.routeId.symm,
    hzero.referralClaimHash.trans hzero'.referralClaimHash.symm,
    hzero.referrerWallet.trans hzero'.referrerWallet.symm,
    hzero.payoutWallet.trans hzero'.payoutWallet.symm, ?_, h.network.trans h'.network.symm,
    ?_, hpayer, ?_, ?_, ?_, htransaction,
    hzero.commissionBps.trans hzero'.commissionBps.symm,
    hzero.protocolFeeBpsOfCommission.trans hzero'.protocolFeeBpsOfCommission.symm,
    ?_, hzero.commissionAmountAtomic.trans hzero'.commissionAmountAtomic.symm,
    hzero.protocolFeeAtomic.trans hzero'.protocolFeeAtomic.symm,
    hzero.referrerCreditAtomic.trans hzero'.referrerCreditAtomic.symm, ?_, rfl, rfl,
    h.recordingAccepted.trans h'.recordingAccepted.symm, h.eventId.trans h'.eventId.symm,
    h.kid.trans h'.kid.symm, rfl⟩
  · exact h.operationId.trans ((hof _).trans h'.operationId.symm)
  · exact h.requestDigest.trans (hdigest.trans h'.requestDigest.symm)
  · exact h.campaignId.trans ((hof _).trans h'.campaignId.symm)
  · exact h.campaignVersion.trans ((hof _).trans h'.campaignVersion.symm)
  · exact h.paymentId.trans (hpayment.trans h'.paymentId.symm)
  · exact h.asset.trans ((hof _).trans h'.asset.symm)
  · exact h.payToWallet.trans ((hof _).trans h'.payToWallet.symm)
  · exact h.requiredAmountAtomic.trans ((hof _).trans h'.requiredAmountAtomic.symm)
  · rw [h'.settledAmountAtomic, ← hoffer]
    exact h.settledAmountAtomic
  · exact h.commissionBaseAtomic.trans ((hof _).trans h'.commissionBaseAtomic.symm)
  · exact h.offerNonce.trans ((hof _).trans h'.offerNonce.symm)

end Receipts

theorem aborts_onBeforeVerify (hoptional : AttributionOptional context) :
    (onBeforeVerify runtime options declaration context now).map BeforeVerify.aborts =
      (validateAttributionPayload runtime options context now).map fun validation =>
        match validation with
        | .error errors => some ("split402_invalid_attribution", "; ".intercalate errors)
        | .ok _ => none := by
  unfold onBeforeVerify
  cases hvalid : validateAttributionPayload runtime options context now with
  | error message => rfl
  | ok validation =>
      cases validation with
      | error errors => rfl
      | ok attribution =>
          obtain ⟨info, hinfo, hoffer, -⟩ := (validPayment_of_ok hvalid).info
          have hrequired := hoptional info _ hinfo hoffer
          simp only [bind, Except.bind, hrequired, Bool.false_eq_true, and_false, if_false]
          rfl

namespace Split402ResourceServer

/-- The payment is let through and settled, with no other payment in between. -/
def Settles (runtime : X402Runtime ν) (server : Split402ResourceServer) (verify : VerifyCall ν)
    (options : Split402ServerExtensionOptions) (declaration : Option RouteDeclarationRecord)
    (settlement : SettleResponse) (call : ServerCall) (receipt : Split402ReceiptV1) : Prop :=
  ∃ attribution server', server.beforeVerify runtime verify.options verify.declaration verify.context
      verify.now = .ok (.proceed attribution, server') ∧
    server'.enrichSettlementResponse runtime options declaration
      ⟨verify.context.paymentPayload, settlement⟩ call = .ok (some receipt)

def VerifyCall.withClaim (verify : VerifyCall ν) (claim : Option (Option ReferralClaimV1)) :
    VerifyCall ν :=
  { verify with context := verify.context.withClaim claim }

variable {server : Split402ResourceServer} {verify : VerifyCall ν} {settlement : SettleResponse}
  {call : ServerCall} {receipt : Split402ReceiptV1}

/-- The receipt is of the attribution that has just been stored. -/
theorem built_of_settles
    (h : server.Settles runtime verify options declaration settlement call receipt) :
    ∃ attribution campaign claim, validateAttributionPayload runtime verify.options verify.context
        verify.now = .ok (.ok attribution) ∧
      options.resolveCampaign (parseDeclarationOrOffer declaration attribution.offer) =
        .ok campaign ∧
      Built runtime attribution campaign options.merchantId options.merchantOrigin settlement
        options.serviceKeyProvider.current.kid call receipt claim := by
  obtain ⟨attribution, server', hverify, hsettle⟩ := h
  obtain ⟨answer, hanswer, hstored⟩ := bind_eq_ok.mp hverify
  cases answer with
  | abort reason message =>
      rw [pure_eq_ok] at hstored
      cases hstored
  | proceed found =>
      rw [pure_eq_ok, Prod.mk.injEq, BeforeVerify.proceed.injEq] at hstored
      obtain ⟨rfl, rfl⟩ := hstored
      obtain ⟨stored, campaign, claim, hread, -, hcampaign, hbuilt⟩ :=
        enrichSettlementResponse_eq_some hsettle
      have hsame : stored = found := by
        obtain ⟨info, hinfo, -, hpaymentId, -⟩ := (proceed_spec hanswer).info
        obtain ⟨read, hextension, hread⟩ := bind_eq_ok.mp hread
        dsimp only at hextension
        rw [hinfo, asRecord, pure_eq_ok] at hextension
        subst hextension
        rw [pure_eq_ok, hpaymentId, Option.bind_some, Table.find?_upsert, if_pos rfl,
          Option.some.injEq] at hread
        exact hread.symm
      subst hsame
      exact ⟨stored, campaign, claim, (onBeforeVerify_eq_proceed hanswer).1, hcampaign, hbuilt⟩

/-- A claim that fails earns no commission. -/
theorem commissioned_eq_none {value : Option (Option ReferralClaimV1)}
    {parsed : ClaimStatus × List String × Option ReferralClaimV1}
    (hparsed : Parsed runtime verify.options attribution.offer verify.now value parsed)
    (hattribution : attribution = attribution.withClaim parsed)
    (hfails : ∀ claim, value = some claim →
      ClaimFails runtime verify.options attribution.offer verify.now settlement claim)
    {claim : Option ReferralClaimV1} (h : commissionedClaim attribution settlement = .ok claim) :
    claim = none := by
  cases claim with
  | none => rfl
  | some claim =>
      obtain ⟨hstatus, hclaim, payerWallet, hpayer, hallowed⟩ := commissionedClaim_eq_some h
      rw [hattribution] at hstatus hclaim
      cases hparsed with
      | missing => cases hstatus
      | invalid => cases hstatus
      | valid hpasses =>
          obtain rfl := Option.some.inj hclaim
          exact absurd hallowed (hfails _ rfl _ rfl hpasses payerWallet hpayer)

/-- **Optional attribution does not affect the payment.** With an offer that does not require
attribution, a payment with a claim and the payment without it are aborted alike; and if the claim
fails, their receipts pay no commission, have no route, and are equal but for their id, times and
signature. -/
theorem optional_attribution (hstd : runtime.toRuntime.Standard)
    (hoptional : AttributionOptional verify.context) (value : Option ReferralClaimV1) :
    (onBeforeVerify runtime verify.options verify.declaration
        (verify.context.withClaim (some value)) verify.now).map BeforeVerify.aborts =
      (onBeforeVerify runtime verify.options verify.declaration (verify.context.withClaim none)
        verify.now).map BeforeVerify.aborts ∧
    ∀ (server : Split402ResourceServer) (options : Split402ServerExtensionOptions)
      (declaration : Option RouteDeclarationRecord) (settlement : SettleResponse)
      (call call' : ServerCall) (receipt receipt' : Split402ReceiptV1),
      (∀ info offer, verify.context.paymentPayload.extension = some info → info.offer = some offer →
        ClaimFails runtime verify.options offer verify.now settlement value) →
      server.Settles runtime (verify.withClaim (some value)) options declaration settlement call
        receipt →
      server.Settles runtime (verify.withClaim none) options declaration settlement call' receipt' →
      Unattributed receipt ∧ Unattributed receipt' ∧ SameButIssue receipt receipt' := by
  have hany : ∀ claim, AttributionOptional (verify.context.withClaim claim) :=
    fun _ => hoptional.withClaim
  refine ⟨?_, ?_⟩
  · rw [aborts_onBeforeVerify (hany _), aborts_onBeforeVerify (hany _),
      validateAttributionPayload_withClaim]
    cases validateAttributionPayload runtime verify.options (verify.context.withClaim none)
        verify.now with
    | error message => rfl
    | ok validation =>
        cases validation with
        | error errors => rfl
        | ok unattributed =>
            obtain ⟨parsed, hparsed, -⟩ := @parseReferralClaim_parsed _ _ verify.options hstd
              (some value) unattributed.offer verify.now
            simp only [bind, Except.bind, hparsed]
            rfl
  · intro server options declaration settlement call call' receipt receipt' hfails hsettles hsettles'
    obtain ⟨attribution, campaign, claim, hvalid, hcampaign, hbuilt⟩ := built_of_settles hsettles
    obtain ⟨attribution', campaign', claim', hvalid', hcampaign', hbuilt'⟩ :=
      built_of_settles hsettles'
    obtain ⟨unattributed, parsed, hunattributed, rfl, hparsed⟩ :=
      validateAttributionPayload_eq_ok hstd hvalid
    obtain ⟨unattributed', parsed', hunattributed', rfl, hparsed'⟩ :=
      validateAttributionPayload_eq_ok hstd hvalid'
    -- up to the claim, both runs have stored the same attribution
    obtain rfl : unattributed = unattributed' :=
      Except.ok.inj (Except.ok.inj (hunattributed.symm.trans hunattributed'))
    have hsame : campaign = campaign' := Except.ok.inj (hcampaign.symm.trans hcampaign')
    subst hsame
    have hoffer : ∃ info, verify.context.paymentPayload.extension = some info ∧
        info.offer = some unattributed.offer := by
      obtain ⟨_, hinfo, hoffer, -⟩ := (validPayment_of_ok hvalid).info
      obtain ⟨info, hsent, rfl⟩ := Option.map_eq_some_iff.mp hinfo
      exact ⟨info, hsent, hoffer⟩
    obtain ⟨info, hinfo, hoffer⟩ := hoffer
    have hnone : claim = none := by
      refine commissioned_eq_none hparsed rfl ?_ hbuilt.commissioned
      rintro _ ⟨⟩
      exact hfails info _ hinfo hoffer
    have hnone' : claim' = none :=
      commissioned_eq_none hparsed' rfl nofun hbuilt'.commissioned
    subst hnone hnone'
    exact ⟨hbuilt.unattributed, hbuilt'.unattributed, hbuilt.sameButIssue hbuilt' rfl rfl rfl⟩

/-! ## A malformed claim -/

/-- A payment that is let through is let through with any other claim, where attribution is
optional. -/
theorem proceed_withClaim (hstd : runtime.toRuntime.Standard) (hoptional : AttributionOptional context)
    (h : onBeforeVerify runtime options declaration context now = .ok (.proceed attribution))
    (claim : Option (Option ReferralClaimV1)) :
    ∃ parsed, Parsed runtime options attribution.offer now claim parsed ∧
      onBeforeVerify runtime options declaration (context.withClaim claim) now =
        .ok (.proceed (attribution.withClaim parsed)) := by
  have hwithout := (onBeforeVerify_eq_proceed (proceed_without_claim hstd h)).1
  obtain ⟨parsed, hparse, hparsed⟩ := @parseReferralClaim_parsed _ _ options hstd claim
    attribution.offer now
  have hvalid : validateAttributionPayload runtime options (context.withClaim claim) now =
      .ok (.ok (attribution.withClaim parsed)) := by
    rw [validateAttributionPayload_withClaim, hwithout]
    exact bind_eq_ok.mpr ⟨_, rfl, bind_eq_ok.mpr ⟨parsed, hparse, rfl⟩⟩
  refine ⟨parsed, hparsed, bind_eq_ok.mpr ⟨_, hvalid, ?_⟩⟩
  obtain ⟨info, hinfo, hoffer, -⟩ := (proceed_spec h).info
  have hrequired : (attribution.withClaim parsed).offer.attributionRequired = false :=
    hoptional info _ hinfo hoffer
  simp [hrequired, pure, Except.pure]

theorem exists_signReceipt (hstd : runtime.toRuntime.Standard) (receipt : Split402ReceiptV1)
    {seed : List UInt8} (hseed : seed.length = 32) :
    ∃ signed, signReceipt runtime receipt seed = .ok signed := by
  obtain ⟨message, hmessage⟩ := buildReceiptSigningBytes_eq hstd receipt
  have hbytes : buildReceiptSigningBytes runtime.toRuntime receipt = .ok message :=
    hmessage receipt.signature
  refine ⟨{ receipt with signature := base64UrlEncode (runtime.nodeSign seed message) }, ?_⟩
  simp [signReceipt, hbytes, signEd25519Message, hseed, assertByteLength, bind, Except.bind, pure,
    Except.pure]

/-- A payment that no commission is paid for is settled when its amount can be read and the
settlement names its payer and transaction. -/
theorem exists_settles (hstd : runtime.toRuntime.Standard) (verify : VerifyCall ν)
    (hproceed : onBeforeVerify runtime verify.options verify.declaration verify.context verify.now =
      .ok (.proceed attribution))
    (hclaim : commissionedClaim attribution settlement = .ok none)
    {campaign : Split402CampaignConfig} {amount : Nat} {payer transaction : String}
    (hcampaign : options.resolveCampaign (parseDeclarationOrOffer declaration attribution.offer) =
      .ok campaign)
    (hamount : atomicAmount attribution.offer.requiredAmountAtomic = .ok amount)
    (hsuccess : settlement.success = true)
    (hpayer : requiredString settlement.payer "settlement payer" = .ok payer)
    (htransaction : requiredString settlement.transaction "settlement transaction" = .ok transaction)
    (hkey : options.serviceKeyProvider.current.privateSeed.length = 32) (server : Split402ResourceServer)
    (call : ServerCall) :
    ∃ receipt, server.Settles runtime verify options declaration settlement call receipt := by
  have hcommission : calculateCommission (amount : Int) 0 0 = .ok ⟨0, 0, 0⟩ := by
    have hnonneg : ¬ (amount : Int) < 0 := by omega
    simp [calculateCommission, hnonneg]
  have hprinted : serializeAtomicBigint 0 = .ok "0" := by decide
  obtain ⟨built, hbuilt⟩ : ∃ built, buildReceipt runtime attribution campaign options.merchantId
      options.merchantOrigin settlement options.serviceKeyProvider.current.kid call = .ok built := by
    unfold buildReceipt
    simp only [hamount, hclaim, hcommission, hpayer, htransaction, hprinted, bind, Except.bind,
      Option.isSome_none, Bool.false_eq_true, if_false, Nat.cast_zero]
    exact ⟨_, rfl⟩
  obtain ⟨signed, hsigned⟩ := exists_signReceipt hstd built hkey
  obtain ⟨info, hinfo, -, hpaymentId, -⟩ := (proceed_spec hproceed).info
  refine ⟨signed, attribution, ⟨server.validatedByPaymentId.upsert attribution⟩,
    bind_eq_ok.mpr ⟨_, hproceed, rfl⟩, bind_eq_ok.mpr ⟨some attribution, ?_, ?_⟩⟩
  · refine bind_eq_ok.mpr ⟨info, by dsimp only; rw [hinfo]; rfl, ?_⟩
    rw [pure_eq_ok, hpaymentId, Option.bind_some, Table.find?_upsert, if_pos rfl]
  · dsimp only
    rw [Option.filter_some, if_pos hsuccess]
    refine bind_eq_ok.mpr ⟨campaign, hcampaign, bind_eq_ok.mpr ⟨built, hbuilt, ?_⟩⟩
    exact map_eq_ok.mpr ⟨_, hsigned, rfl⟩

end Split402ResourceServer

namespace Sample

open Split402ResourceServer

theorem sale_optional : AttributionOptional (saleVerify firstCampaign).context := by
  rintro info offer ⟨⟩ ⟨⟩
  rfl

/-- The sale is settled with a malformed claim, and without one. -/
theorem sale_settles {claim : Option (Option ReferralClaimV1)} (hfails : claim = none ∨ claim = some none)
    (call : ServerCall) :
    ∃ receipt, Settles (settlementRuntime movedSale []) ⟨Table.empty⟩
      ((saleVerify firstCampaign).withClaim claim) (settlementOptions firstCampaign) none saleSettlement
      call receipt := by
  have hstd := settlementRuntime_standard movedSale []
  obtain ⟨parsed, hparsed, hproceed⟩ :=
    proceed_withClaim hstd sale_optional (sale_letThrough movedSale [] firstCampaign) claim
  have hamount : atomicAmount saleOffer.requiredAmountAtomic = .ok 100 := by decide
  have hclaim : commissionedClaim (saleAttribution.withClaim parsed) saleSettlement = .ok none := by
    cases hparsed with
    | missing => rfl
    | invalid => rfl
    | valid => simp at hfails
  have hpayer : requiredString (some wallet) "settlement payer" = .ok wallet := rfl
  exact exists_settles hstd ((saleVerify firstCampaign).withClaim claim) hproceed hclaim rfl hamount
    rfl hpayer rfl (by decide) _ call

end Sample

/-- A malformed claim leaves the receipt of the sale without a claim. -/
theorem optional_attribution_malformed : ∃ receipt receipt', Unattributed receipt ∧
    Unattributed receipt' ∧ SameButIssue receipt receipt' := by
  obtain ⟨receipt, hsettles⟩ := Sample.sale_settles (.inr rfl) Sample.saleCall
  obtain ⟨receipt', hsettles'⟩ := Sample.sale_settles (.inl rfl)
    ⟨1767225660000, "00000000000000000000000000000002"⟩
  have hlaw := Split402ResourceServer.optional_attribution
    (Sample.settlementRuntime_standard Sample.movedSale []) Sample.sale_optional none
  refine ⟨receipt, receipt', hlaw.2 _ _ _ _ _ _ _ _ ?_ hsettles hsettles'⟩
  rintro _ _ _ _ _ ⟨⟩

end Split402

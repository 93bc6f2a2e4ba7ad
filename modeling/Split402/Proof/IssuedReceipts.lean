import Split402.Proof.CampaignUpdate
import Split402.X402.Merchant

/-! # The receipts that a merchant issues

The stored attributions are a table by the payment id that the client has chosen. So the receipt of a
settlement quotes the payment that was let through last under its id, whichever payment is settled. -/

namespace Split402

open Base

variable {ν : Type} {runtime : X402Runtime ν} {options : Split402ServerExtensionOptions}

namespace Merchant

/-- What an event has let through under a payment id. -/
def attributionOf (paymentId : String) :
    MerchantEvent ν → Option (MerchantVerify ν × ValidatedSplit402Attribution)
  | .letThrough verify attribution =>
      if attribution.paymentId = paymentId then some (verify, attribution) else none
  | .issued _ _ => none

/-- What was let through last under a payment id. -/
def lastLetThrough (paymentId : String) (log : List (MerchantEvent ν)) :
    Option (MerchantVerify ν × ValidatedSplit402Attribution) :=
  log.findSome? (attributionOf paymentId)

/-- The verification lets the attribution through. -/
def LetsThrough (runtime : X402Runtime ν) (options : Split402ServerExtensionOptions)
    (verify : MerchantVerify ν) (attribution : ValidatedSplit402Attribution) : Prop :=
  onBeforeVerify runtime (options.withSources verify.sources) verify.declaration verify.context
    verify.now = .ok (.proceed attribution)

/-- What the receipt of a settlement is of. -/
structure ReceiptOf (runtime : X402Runtime ν) (options : Split402ServerExtensionOptions)
    (settle : MerchantSettle) (receipt : Split402ReceiptV1)
    (attribution : ValidatedSplit402Attribution) (campaign : Split402CampaignConfig)
    (claim : Option ReferralClaimV1) : Prop where
  success : settle.context.result.success = true
  resolved : settle.sources.resolveCampaign
    (parseDeclarationOrOffer settle.declaration attribution.offer) = .ok campaign
  built : Built runtime attribution campaign options.merchantId options.merchantOrigin
    settle.context.result settle.sources.serviceKeyProvider.current.kid settle.call receipt claim
  signed : ∃ unsigned, signReceipt runtime unsigned
    settle.sources.serviceKeyProvider.current.privateSeed = .ok receipt

/-- The payment id of a settlement. -/
def PaidUnder (settle : MerchantSettle) (paymentId : String) : Prop :=
  ∃ info, settle.context.paymentPayload.extension = some info ∧ info.paymentId = some paymentId

/-- An event is as the log before it has it. -/
def EventJustified (runtime : X402Runtime ν) (options : Split402ServerExtensionOptions) :
    MerchantEvent ν → List (MerchantEvent ν) → Prop
  | .letThrough verify attribution, _ => LetsThrough runtime options verify attribution
  | .issued settle receipt, before => ∃ paymentId verify attribution campaign claim,
      PaidUnder settle paymentId ∧ lastLetThrough paymentId before = some (verify, attribution) ∧
        ReceiptOf runtime options settle receipt attribution campaign claim

/-- The extension has stored what was let through last. -/
def StoresLast (merchant : Merchant ν) : Prop :=
  ∀ paymentId, merchant.server.validatedByPaymentId.find? paymentId =
    (lastLetThrough paymentId merchant.log).map Prod.snd

/-! ## One call -/

section Step

variable {merchant merchant' : Merchant ν}

theorem verify_eq_ok {verify : MerchantVerify ν}
    (h : merchant.verify runtime options verify = .ok merchant') :
    merchant' = merchant ∨ ∃ attribution, LetsThrough runtime options verify attribution ∧
      merchant' = ⟨⟨merchant.server.validatedByPaymentId.upsert attribution⟩,
        .letThrough verify attribution :: merchant.log⟩ := by
  obtain ⟨stored, hstored, h⟩ := bind_eq_ok.mp h
  rw [pure_eq_ok] at h
  obtain ⟨answer, hanswer, hstored⟩ := bind_eq_ok.mp hstored
  cases answer with
  | abort reason message =>
      rw [pure_eq_ok] at hstored
      subst hstored
      exact .inl h.symm
  | proceed attribution =>
      rw [pure_eq_ok] at hstored
      subst hstored
      exact .inr ⟨attribution, hanswer, h.symm⟩

/-- What is looked up for a settlement is stored under its payment id. -/
theorem getValidatedAttribution_eq_some {server : Split402ResourceServer} {settle : MerchantSettle}
    {attribution : ValidatedSplit402Attribution}
    (h : server.getValidatedAttribution settle.context = .ok (some attribution)) :
    ∃ paymentId, PaidUnder settle paymentId ∧
      server.validatedByPaymentId.find? paymentId = some attribution := by
  obtain ⟨info, hinfo, hfind⟩ := bind_eq_ok.mp h
  rw [pure_eq_ok] at hfind
  obtain ⟨paymentId, hpaymentId, hfind⟩ := Option.bind_eq_some_iff.mp hfind
  refine ⟨paymentId, ⟨info, ?_, hpaymentId⟩, hfind⟩
  cases hpayload : settle.context.paymentPayload.extension with
  | none =>
      rw [hpayload] at hinfo
      exact absurd hinfo throw_ne_ok
  | some found =>
      rw [hpayload, asRecord, pure_eq_ok] at hinfo
      rw [hinfo]

/-- A receipt is signed last, with the key that is current. -/
theorem signed_of_enrichSettlementResponse {server : Split402ResourceServer}
    {declaration : Option RouteDeclarationRecord} {context : SettleResultContext} {call : ServerCall}
    {receipt : Split402ReceiptV1}
    (h : server.enrichSettlementResponse runtime options declaration context call =
      .ok (some receipt)) :
    ∃ unsigned, signReceipt runtime unsigned options.serviceKeyProvider.current.privateSeed =
      .ok receipt := by
  obtain ⟨stored, -, h⟩ := bind_eq_ok.mp h
  split at h
  · rw [pure_eq_ok] at h
    cases h
  · obtain ⟨_, -, h⟩ := bind_eq_ok.mp h
    obtain ⟨unsigned, -, h⟩ := bind_eq_ok.mp h
    obtain ⟨signed, hsigned, hsame⟩ := map_eq_ok.mp h
    rw [← Option.some.inj hsame]
    exact ⟨unsigned, hsigned⟩

theorem settle_eq_ok {settle : MerchantSettle}
    (h : merchant.settle runtime options settle = .ok merchant') :
    merchant' = merchant ∨ ∃ receipt paymentId attribution campaign claim,
      PaidUnder settle paymentId ∧
      merchant.server.validatedByPaymentId.find? paymentId = some attribution ∧
      ReceiptOf runtime options settle receipt attribution campaign claim ∧
      merchant' = ⟨merchant.server, .issued settle receipt :: merchant.log⟩ := by
  obtain ⟨answer, hanswer, h⟩ := bind_eq_ok.mp h
  rw [pure_eq_ok] at h
  cases answer with
  | none => exact .inl h.symm
  | some receipt =>
      obtain ⟨attribution, campaign, claim, hstored, hsuccess, hcampaign, hbuilt⟩ :=
        Split402ResourceServer.enrichSettlementResponse_eq_some hanswer
      obtain ⟨paymentId, hpaid, hfind⟩ := getValidatedAttribution_eq_some hstored
      have hsigned := signed_of_enrichSettlementResponse hanswer
      exact .inr ⟨receipt, paymentId, attribution, campaign, claim, hpaid, hfind,
        ⟨hsuccess, hcampaign, hbuilt, hsigned⟩, h.symm⟩

theorem storesLast_step {call : PaymentCall ν} (hstored : merchant.StoresLast)
    (hstep : (system runtime options).step merchant call merchant') : merchant'.StoresLast := by
  cases call with
  | verify verify =>
      rcases verify_eq_ok hstep with rfl | ⟨attribution, -, rfl⟩
      · exact hstored
      · intro paymentId
        -- it replaces what was stored under its id, and is the newest event
        rw [Table.find?_upsert, lastLetThrough, List.findSome?_cons, attributionOf]
        by_cases hid : attribution.paymentId = paymentId
        · rw [if_pos hid, if_pos hid]
          rfl
        · rw [if_neg hid, if_neg hid]
          exact hstored paymentId
  | settle settle =>
      rcases settle_eq_ok hstep with rfl | ⟨receipt, _, _, _, _, _, _, _, rfl⟩
      · exact hstored
      · intro paymentId
        -- a settlement stores nothing, and lets nothing through
        rw [lastLetThrough, List.findSome?_cons, attributionOf]
        exact hstored paymentId

theorem justified_step {call : PaymentCall ν} (hstored : merchant.StoresLast)
    (hstep : (system runtime options).step merchant call merchant') :
    ∃ added, merchant'.log = added ++ merchant.log ∧ added.length ≤ 1 ∧
      ∀ event ∈ added, EventJustified runtime options event merchant.log := by
  cases call with
  | verify verify =>
      rcases verify_eq_ok hstep with rfl | ⟨attribution, hthrough, rfl⟩
      · exact ⟨[], rfl, Nat.zero_le 1, fun _ h => absurd h List.not_mem_nil⟩
      · refine ⟨[.letThrough verify attribution], rfl, Nat.le_refl 1, ?_⟩
        intro event hevent
        rw [List.mem_singleton.mp hevent]
        exact hthrough
  | settle settle =>
      rcases settle_eq_ok hstep with rfl | ⟨receipt, paymentId, attribution, campaign, claim, hpaid,
        hfind, hissued, rfl⟩
      · exact ⟨[], rfl, Nat.zero_le 1, fun _ h => absurd h List.not_mem_nil⟩
      · refine ⟨[.issued settle receipt], rfl, Nat.le_refl 1, ?_⟩
        intro event hevent
        rw [List.mem_singleton.mp hevent]
        -- what is found in the table was let through last
        rw [hstored paymentId] at hfind
        obtain ⟨⟨verify, _⟩, hlast, rfl⟩ := Option.map_eq_some_iff.mp hfind
        exact ⟨paymentId, verify, _, campaign, claim, hpaid, hlast, hissued⟩

theorem storesLast_reachable {ok : Merchant ν → PaymentCall ν → Prop}
    (h : (system runtime options).Reachable ok merchant) : merchant.StoresLast := by
  refine h.invariant (P := StoresLast) ?_ fun _ _ _ _ hstored _ hstep => storesLast_step hstored hstep
  intro merchant hinit paymentId
  rw [show merchant = ⟨⟨Table.empty⟩, []⟩ from hinit]
  rfl

theorem justified_reachable {ok : Merchant ν → PaymentCall ν → Prop}
    (h : (system runtime options).Reachable ok merchant) :
    Justified (EventJustified runtime options) merchant.log := by
  refine Justified.of_reachable h ?_ fun _ _ _ hr _ hstep =>
    justified_step (storesLast_reachable hr) hstep
  intro merchant hinit
  rw [show merchant = ⟨⟨Table.empty⟩, []⟩ from hinit]

end Step

/-! ## Runs -/

/-- The event lets a payment through under the payment id. -/
def LetsThroughUnder (paymentId : String) (event : MerchantEvent ν) : Prop :=
  ∃ verify attribution, event = .letThrough verify attribution ∧ attribution.paymentId = paymentId

theorem attributionOf_eq_some {paymentId : String} {event : MerchantEvent ν} {verify : MerchantVerify ν}
    {attribution : ValidatedSplit402Attribution}
    (h : attributionOf paymentId event = some (verify, attribution)) :
    event = .letThrough verify attribution := by
  cases event with
  | issued settle receipt => cases h
  | letThrough verify' attribution' =>
      rw [attributionOf, Option.ite_none_right_eq_some] at h
      obtain ⟨-, h⟩ := h
      cases h
      rfl

theorem not_letsThroughUnder {paymentId : String} {event : MerchantEvent ν}
    (h : attributionOf paymentId event = none) : ¬ LetsThroughUnder paymentId event := by
  intro hunder
  obtain ⟨verify, attribution, hevent, hid⟩ := hunder
  rw [hevent, attributionOf, if_pos hid] at h
  cases h

/-- The receipt records the price that the merchant asked of the payment, under an offer that the
merchant had signed and that was in force. -/
structure Quotes (runtime : X402Runtime ν) (options : Split402ServerExtensionOptions)
    (receipt : Split402ReceiptV1) (verify : MerchantVerify ν) : Prop where
  asset : receipt.asset = verify.context.requirements.asset
  amount : receipt.requiredAmountAtomic = verify.context.requirements.amount
  payTo : receipt.payToWallet = verify.context.requirements.payTo
  offer : ∃ info offer, verify.context.paymentPayload.extension = some info ∧ info.offer = some offer ∧
    info.paymentId = some receipt.paymentId ∧ info.requestDigest = some receipt.requestDigest ∧
    GenuineOffer runtime (options.withSources verify.sources) offer ∧
    validateOfferTiming runtime offer verify.now = [] ∧ receipt.offerNonce = offer.offerNonce

theorem quotes_of_letsThrough {settle : MerchantSettle} {receipt : Split402ReceiptV1}
    {verify : MerchantVerify ν} {attribution : ValidatedSplit402Attribution}
    {campaign : Split402CampaignConfig} {claim : Option ReferralClaimV1}
    (hthrough : LetsThrough runtime options verify attribution)
    (hissued : ReceiptOf runtime options settle receipt attribution campaign claim) :
    Quotes runtime options receipt verify := by
  have hvalid := proceed_spec hthrough
  have hrequirements := validateOfferAgainstRequirements_eq_nil.mp hvalid.requirements
  obtain ⟨info, hinfo, hoffer, hpaymentId, hdigest⟩ := hvalid.info
  have hbuilt := hissued.built
  refine ⟨?_, ?_, ?_, info, attribution.offer, hinfo, hoffer, ?_, ?_, hvalid.genuine, hvalid.timing,
    hbuilt.offerNonce⟩
  · rw [hrequirements, hbuilt.asset]
  · rw [hrequirements, hbuilt.requiredAmountAtomic]
  · rw [hrequirements, hbuilt.payToWallet]
  · rw [hbuilt.paymentId, hpaymentId]
  · rw [hbuilt.requestDigest, hdigest]

/-- **Every receipt is of a verified payment**: in whatever order payments are verified and settled, a
receipt is issued only once the merchant has let a payment through under the id of the settlement. It
quotes the last payment that was let through under this id, at the price that was asked of it, and is
signed with the key that is current when it is issued. -/
theorem receipts_of_verified_payments (runtime : X402Runtime ν)
    (options : Split402ServerExtensionOptions) (merchant : Merchant ν)
    (hreachable : (system runtime options).Reachable (fun _ _ => True) merchant)
    (settle : MerchantSettle) (receipt : Split402ReceiptV1) (before after : List (MerchantEvent ν))
    (hlog : merchant.log = after ++ .issued settle receipt :: before) :
    PaidUnder settle receipt.paymentId ∧ settle.context.result.success = true ∧
      ∃ newer verify attribution older, before = newer ++ .letThrough verify attribution :: older ∧
        (∀ event ∈ newer, ¬ LetsThroughUnder receipt.paymentId event) ∧
        LetsThrough runtime options verify attribution ∧ Quotes runtime options receipt verify ∧
        ∃ campaign claim, ReceiptOf runtime options settle receipt attribution campaign claim := by
  have hjustified := justified_reachable hreachable
  obtain ⟨paymentId, verify, attribution, campaign, claim, hpaid, hlast, hissued⟩ :=
    hjustified.of_split hlog
  obtain ⟨newer, event, older, hbefore, hevent, hnewer⟩ := List.findSome?_eq_some_iff.mp hlast
  obtain rfl := attributionOf_eq_some hevent
  have hid : attribution.paymentId = paymentId := by
    rw [attributionOf, Option.ite_none_right_eq_some] at hevent
    exact hevent.1
  have hreceipt : receipt.paymentId = paymentId := hissued.built.paymentId.trans hid
  -- the payment that the receipt quotes is in the log, too
  have hsplit : merchant.log = (after ++ .issued settle receipt :: newer) ++
      .letThrough verify attribution :: older := by
    rw [hlog, hbefore, List.append_assoc, List.cons_append]
  have hthrough : LetsThrough runtime options verify attribution := hjustified.of_split hsplit
  refine ⟨hreceipt ▸ hpaid, hissued.success, newer, verify, attribution, older, hbefore, ?_, hthrough,
    quotes_of_letsThrough hthrough hissued, campaign, claim, hissued⟩
  intro event hmem
  rw [hreceipt]
  exact not_letsThroughUnder (hnewer event hmem)

end Merchant

namespace Sample

def saleSources (campaign : Split402CampaignConfig) : MerchantSources :=
  ⟨(settlementOptions campaign).serviceKeyProvider, (settlementOptions campaign).resolveCampaign⟩

def verifiedSale : MerchantVerify Whole :=
  ⟨saleSources firstCampaign, none, ⟨salePayload, offerRequirement, none⟩, 1767225600000⟩

def settledSaleCall : MerchantSettle := ⟨saleSources secondCampaign, none, saleContext, saleCall⟩

/-- The merchant once the sale is settled, after the update of its campaign. -/
def soldMerchant : Merchant Whole :=
  ⟨saleServer, [.issued settledSaleCall movedSale, .letThrough verifiedSale saleAttribution]⟩

theorem soldMerchant_reachable :
    (Merchant.system (settlementRuntime movedSale movedSaleSignature)
      (settlementOptions firstCampaign)).Reachable (fun _ _ => True) soldMerchant := by
  have hverified : (Merchant.system (settlementRuntime movedSale movedSaleSignature)
      (settlementOptions firstCampaign)).Reachable (fun _ _ => True)
        ⟨saleServer, [.letThrough verifiedSale saleAttribution]⟩ := by
    refine .step (.init rfl) trivial (i := .verify verifiedSale) ?_
    refine bind_eq_ok.mpr ⟨(.proceed saleAttribution, saleServer), ?_, rfl⟩
    exact bind_eq_ok.mpr ⟨_, sale_letThrough movedSale movedSaleSignature firstCampaign, rfl⟩
  refine .step hverified trivial (i := .settle settledSaleCall) ?_
  exact bind_eq_ok.mpr ⟨some movedSale, movedSale_issued, rfl⟩

end Sample

/-- The receipt of the sale quotes the sale. -/
theorem receipts_of_verified_payments_sale :
    Merchant.PaidUnder Sample.settledSaleCall Sample.movedSale.paymentId ∧
      Sample.settledSaleCall.context.result.success = true ∧
      ∃ newer verify attribution older,
        [MerchantEvent.letThrough Sample.verifiedSale Sample.saleAttribution] =
          newer ++ .letThrough verify attribution :: older ∧
        (∀ event ∈ newer, ¬ Merchant.LetsThroughUnder Sample.movedSale.paymentId event) ∧
        Merchant.LetsThrough (Sample.settlementRuntime Sample.movedSale Sample.movedSaleSignature)
          (Sample.settlementOptions Sample.firstCampaign) verify attribution ∧
        Merchant.Quotes (Sample.settlementRuntime Sample.movedSale Sample.movedSaleSignature)
          (Sample.settlementOptions Sample.firstCampaign) Sample.movedSale verify ∧
        ∃ campaign claim, Merchant.ReceiptOf
          (Sample.settlementRuntime Sample.movedSale Sample.movedSaleSignature)
          (Sample.settlementOptions Sample.firstCampaign) Sample.settledSaleCall Sample.movedSale
          attribution campaign claim :=
  Merchant.receipts_of_verified_payments _ _ Sample.soldMerchant Sample.soldMerchant_reachable
    Sample.settledSaleCall Sample.movedSale _ [] rfl

end Split402

import Split402.Proof.OfferBinding
import Split402.Router.AgentExecutor

/-! # What the router pays

The executor verifies the offer of one challenge and pays another one. A payment is what the record
of the provider says exactly when the merchant does not ask for something else in the challenge to
the paid request. -/

namespace Split402

open Base (Async)

variable {ν : Type}

namespace Split402AgentSdkExecutor

variable (runtime : AgentRuntime ν) (signers : RouterSigners) (randomHex : String)
  (merchant : (op : AgentOp ν) → Except RouterThrown op.Ans) (input : ExecutorInput ν)

/-- What is paid is what the record of the provider asks for. -/
def PaysProvider (provider : Split402CapabilityProvider ν) (entry : AcceptsEntry) : Prop :=
  entry.network = provider.network ∧ entry.asset = provider.asset ∧
    entry.amount = provider.amountAtomic ∧ entry.payTo = provider.payToWallet

/-- Every payment of an execution is what the record of the provider asks for, when the merchant
answers so. -/
def PaysOnlyProvider : Prop :=
  ∀ entry payload, AgentOp.pay entry payload ∈ (execute runtime signers randomHex input).asked merchant →
    PaysProvider input.provider entry

/-- The merchant passes the inspection with its answer. -/
def PassesInspection : Prop :=
  ∃ response offer, merchant (.fetch (client signers input.provider).merchantOrigin (inspection input)) =
      .ok response ∧
    (client signers input.provider).readInspection runtime response = .ok offer ∧
    checkOffer input.provider offer = .ok ()

/-- The merchant answers the request to be paid by the challenge. -/
def Challenges (challenge : PaymentChallenge) : Prop :=
  merchant (.send (client signers input.provider).merchantOrigin (paidRequest input)) =
    .ok (.challenge challenge)

/-- The executor can pay the challenge, and does it by the entry. -/
def CanPay (challenge : PaymentChallenge) (entry : AcceptsEntry) (payload : PaymentPayload) : Prop :=
  ∃ signer registrations,
    (client signers input.provider).createPaymentClient runtime = .ok (signer, registrations) ∧
    Split402AgentClient.createPaymentPayload runtime signer registrations (paidRequest input)
      randomHex challenge = .ok (entry, payload)

/-- After an inspection that passes, the merchant asks for a payment that is not the provider's. -/
def AsksForAnother : Prop :=
  PassesInspection runtime signers merchant input ∧ ∃ challenge entry payload,
    Challenges signers merchant input challenge ∧
      CanPay runtime signers randomHex input challenge entry payload ∧
      ¬ PaysProvider input.provider entry

variable {runtime signers randomHex merchant input}

/-! ## The payments of an execution -/

theorem pay_not_mem_ofExcept {α : Type} {result : Except RouterThrown α} {entry : AcceptsEntry}
    {payload : PaymentPayload} :
    AgentOp.pay entry payload ∉ (AgentAwait.ofExcept result : AgentAwait ν α).asked merchant := by
  intro h
  cases h

theorem pay_mem_requestJson {agent : Split402AgentClient} {request : PaidJsonRequestInput ν}
    {entry : AcceptsEntry} {payload : PaymentPayload} :
    AgentOp.pay entry payload ∈ (agent.requestJson runtime randomHex request).asked merchant ↔
      ∃ signer registrations challenge,
        agent.createPaymentClient runtime = .ok (signer, registrations) ∧
        merchant (.send agent.merchantOrigin request) = .ok (.challenge challenge) ∧
        Split402AgentClient.createPaymentPayload runtime signer registrations request randomHex
          challenge = .ok (entry, payload) := by
  unfold Split402AgentClient.requestJson
  rw [Async.mem_asked_bind, or_iff_right pay_not_mem_ofExcept]
  constructor
  · rintro ⟨⟨signer, registrations⟩, hclient, h⟩
    rw [Async.mem_asked_bind] at h
    rcases h with h | ⟨answer, hanswer, h⟩
    · cases List.mem_singleton.mp h
    · cases answer with
      | response response => exact absurd h pay_not_mem_ofExcept
      | challenge challenge =>
          dsimp only at h
          rw [Async.mem_asked_bind, or_iff_right pay_not_mem_ofExcept] at h
          obtain ⟨⟨entry', payload'⟩, hcreate, h⟩ := h
          rw [Async.mem_asked_bind] at h
          rcases h with h | ⟨_, _, h⟩
          · cases List.mem_singleton.mp h
            refine ⟨signer, registrations, challenge, hclient, hanswer, ?_⟩
            exact ofProtocolCheck_eq_ok.mp hcreate
          · exact absurd h pay_not_mem_ofExcept
  · rintro ⟨signer, registrations, challenge, hclient, hanswer, hcreate⟩
    refine ⟨(signer, registrations), hclient, ?_⟩
    refine Async.mem_asked_bind.mpr (.inr ⟨.challenge challenge, hanswer, ?_⟩)
    refine Async.mem_asked_bind.mpr (.inr ⟨(entry, payload), ofProtocolCheck_eq_ok.mpr hcreate, ?_⟩)
    exact Async.mem_asked_bind.mpr (.inl (List.mem_singleton.mpr rfl))

theorem pay_not_mem_inspectOffer {agent : Split402AgentClient} {inspected : InspectOfferInput ν}
    {entry : AcceptsEntry} {payload : PaymentPayload} :
    AgentOp.pay entry payload ∉ (agent.inspectOffer runtime inspected).asked merchant := by
  intro h
  unfold Split402AgentClient.inspectOffer at h
  rw [Async.mem_asked_bind] at h
  rcases h with h | ⟨_, _, h⟩
  · cases List.mem_singleton.mp h
  · exact pay_not_mem_ofExcept h

/-- An inspection comes to what it makes of the answer. -/
theorem ended_inspectOffer {agent : Split402AgentClient} {inspected : InspectOfferInput ν}
    {offer : InspectOfferResult} :
    (agent.inspectOffer runtime inspected).ended merchant = .ok offer ↔
      ∃ response, merchant (.fetch agent.merchantOrigin inspected) = .ok response ∧
        agent.readInspection runtime response = .ok offer := by
  unfold Split402AgentClient.inspectOffer
  rw [Async.ended_bind]
  exact Base.bind_eq_ok

/-- An execution pays what the merchant asks for after the inspection. -/
theorem pay_mem_execute {entry : AcceptsEntry} {payload : PaymentPayload} :
    AgentOp.pay entry payload ∈ (execute runtime signers randomHex input).asked merchant ↔
      PassesInspection runtime signers merchant input ∧ ∃ challenge,
        Challenges signers merchant input challenge ∧
          CanPay runtime signers randomHex input challenge entry payload := by
  unfold execute
  dsimp only
  rw [Async.mem_asked_bind, or_iff_right pay_not_mem_inspectOffer]
  constructor
  · rintro ⟨offer, hinspected, h⟩
    rw [Async.mem_asked_bind, or_iff_right pay_not_mem_ofExcept] at h
    obtain ⟨⟨⟩, hcheck, h⟩ := h
    obtain ⟨response, hresponse, hread⟩ := ended_inspectOffer.mp hinspected
    refine ⟨⟨response, offer, hresponse, hread, hcheck⟩, ?_⟩
    rw [Async.mem_asked_bind] at h
    rcases h with h | ⟨result, -, h⟩
    · obtain ⟨signer, registrations, challenge, hclient, hchallenge, hcreate⟩ :=
        pay_mem_requestJson.mp h
      exact ⟨challenge, hchallenge, signer, registrations, hclient, hcreate⟩
    · cases h
  · rintro ⟨⟨response, offer, hresponse, hread, hcheck⟩, challenge, hchallenge, signer,
      registrations, hclient, hcreate⟩
    refine ⟨offer, ended_inspectOffer.mpr ⟨response, hresponse, hread⟩, ?_⟩
    refine Async.mem_asked_bind.mpr (.inr ⟨(), hcheck, ?_⟩)
    refine Async.mem_asked_bind.mpr (.inl ?_)
    exact pay_mem_requestJson.mpr
      ⟨signer, registrations, challenge, hclient, hchallenge, hcreate⟩

/-- **The executor pays only what the provider's record asks for exactly when the merchant, having
passed the inspection, does not ask for anything else.** -/
theorem paysOnlyProvider_iff : PaysOnlyProvider runtime signers randomHex merchant input ↔
    ¬ AsksForAnother runtime signers randomHex merchant input := by
  constructor
  · rintro hpays ⟨hpasses, challenge, entry, payload, hchallenge, hcan, hother⟩
    have hpaid := pay_mem_execute.mpr ⟨hpasses, challenge, hchallenge, hcan⟩
    exact hother (hpays entry payload hpaid)
  · intro hnot entry payload hpaid
    obtain ⟨hpasses, challenge, hchallenge, hcan⟩ := pay_mem_execute.mp hpaid
    by_contra hother
    exact hnot ⟨hpasses, challenge, entry, payload, hchallenge, hcan, hother⟩

end Split402AgentSdkExecutor

/-! ## A merchant with two challenges -/

namespace Sample

def agentRuntime : AgentRuntime Whole where
  toX402Runtime := offerRuntime
  receiptIssues _ := []
  offerIssuesWithPaths _ := []
  exactEvmSchemes _ := []
  createSchemePayload _ entry := .ok entry.amount
  appliesExtension challenge := challenge.extension.isSome
  unregisteredMessage _ := ""

/-- The provider of the merchant's quote, as its record has it. -/
def quoteProvider : Split402CapabilityProvider Whole where
  providerId := "quotes"
  capability := "quote"
  routeId := none
  merchantOrigin := quoteOffer.resourceOrigin
  path := quotePath
  method := .POST
  operationId := quoteOffer.operationId
  campaignId := quoteOffer.campaignId
  referralClaim := none
  merchantPublicKey := some merchantPublicKey
  network := quoteOffer.network
  asset := quoteOffer.asset
  payToWallet := quoteOffer.payToWallet
  amountAtomic := quoteOffer.requiredAmountAtomic
  reliability := none
  metadata := none

def quoteChallenge (accepts : List AcceptsEntry) (extension : Option (Option Split402OfferV1)) :
    PaymentChallenge where
  resourceUrl := none
  extension := extension
  resourceMethod := none
  accepts := accepts

/-- The inspected challenge has the signed offer; the one to the paid request asks for more. -/
def twoFacedMerchant : (op : AgentOp Whole) → Except RouterThrown op.Ans
  | .fetch _ _ => .ok ⟨402, some (.ok (quoteChallenge [] (some (some quoteOffer))))⟩
  | .send _ _ => .ok (.challenge
      (quoteChallenge [⟨⟨quoteOffer.network, quoteOffer.asset, "1000000", wallet⟩, "exact"⟩] none))
  | .pay _ _ => .error (.ofMessage "")

def quoteExecutorInput : ExecutorInput Whole := ⟨quoteProvider, .undefined, none⟩

def quoteSigners : RouterSigners := ⟨some wallet, none, none⟩

theorem quoteOffer_parsed :
    (some quoteOffer).filter (split402OfferV1Schema zod) = some quoteOffer := by
  have hschema : split402OfferV1Schema zod quoteOffer = true := quoteOffer_genuine.schema
  rw [Option.filter_some, if_pos hschema]

theorem quoteOffer_verifies :
    verifySplit402Offer offerRuntime.toRuntime zod offerRuntime.offerIssues (some quoteOffer)
      merchantPublicKey = .ok ⟨true, []⟩ := by
  have hsigned := quoteOffer_genuine.signed
  have hkey : offerOptions.serviceKeyProvider.resolvePublicKey quoteOffer.kid =
      some merchantPublicKey := rfl
  unfold validateOfferSignature at hsigned
  rw [hkey] at hsigned
  obtain ⟨result, hresult, herrors⟩ := Base.bind_eq_ok.mp hsigned
  rw [Base.pure_eq_ok] at herrors
  unfold verifySplit402Offer
  rw [quoteOffer_parsed]
  dsimp only
  rw [hresult]
  unfold verifySplit402OfferObject at hresult
  obtain ⟨message, -, hresult⟩ := Base.bind_eq_ok.mp hresult
  rw [Base.pure_eq_ok] at hresult
  split at hresult
  · rw [hresult]
  · rw [← hresult] at herrors
    cases herrors

theorem twoFaced_passes : Split402AgentSdkExecutor.PassesInspection agentRuntime quoteSigners
    twoFacedMerchant quoteExecutorInput := by
  refine ⟨⟨402, some (.ok (quoteChallenge [] (some (some quoteOffer))))⟩,
    ⟨quoteOffer, some ⟨true, []⟩⟩, rfl, ?_, ?_⟩
  · refine Base.bind_eq_ok.mpr ⟨quoteChallenge [] (some (some quoteOffer)), rfl, ?_⟩
    refine Base.bind_eq_ok.mpr ⟨quoteOffer, ?_, ?_⟩
    · show Split402AgentClient.extractSplit402Offer agentRuntime (some (some quoteOffer)) = _
      unfold Split402AgentClient.extractSplit402Offer
      have hparsed : (some quoteOffer).filter (split402OfferV1Schema agentRuntime.zod) =
          some quoteOffer := quoteOffer_parsed
      dsimp only
      rw [hparsed]
      rfl
    · refine Base.bind_eq_ok.mpr ⟨some ⟨true, []⟩, ?_, rfl⟩
      exact Base.map_eq_ok.mpr ⟨_, ofProtocolCheck_eq_ok.mpr quoteOffer_verifies, rfl⟩
  · decide

end Sample

/-- The offer says 100 and the payment is 1000000. -/
theorem not_paysOnlyProvider_twoFaced : ¬ ∀ (runtime : AgentRuntime Whole) (signers : RouterSigners)
    (randomHex : String) (merchant : (op : AgentOp Whole) → Except RouterThrown op.Ans)
    (input : ExecutorInput Whole),
    Split402AgentSdkExecutor.PaysOnlyProvider runtime signers randomHex merchant input := by
  intro h
  have hpaid : AgentOp.pay _ _ ∈ (Split402AgentSdkExecutor.execute Sample.agentRuntime
      Sample.quoteSigners "" Sample.quoteExecutorInput).asked Sample.twoFacedMerchant :=
    Split402AgentSdkExecutor.pay_mem_execute.mpr
      ⟨Sample.twoFaced_passes, _, rfl, Sample.wallet, _, rfl, rfl⟩
  have hprovider := h _ _ _ _ _ _ _ hpaid
  exact absurd hprovider.2.2.1 (by decide)

end Split402

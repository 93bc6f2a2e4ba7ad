import Split402.Proof.RequestDigest

/-! # Offers and routes

An offer is issued for a declared route and names the campaign and the operation of it. The check of
a payment compares the offer with the payment requirement of the route the payment is for, and not
with its declaration. So a merchant's offers are bound to their routes exactly when no route takes
the payment requirement that the offers of a route with other terms are made of. -/

namespace Split402

open Base Base.Utf16

variable {ν : Type}

/-! ## Signed bytes of an offer -/

/-- The names of an offer's fields without the signature. -/
def offerNames : List String :=
  ["protocolVersion", "campaignId", "campaignVersion", "campaignTermsHash", "merchantId",
    "resourceOrigin", "operationId", "network", "asset", "requiredAmountAtomic", "payToWallet",
    "commissionBps", "protocolFeeBpsOfCommission", "commissionBase", "settlementMode",
    "attributionRequired", "allowSelfReferral", "offerNonce", "issuedAt", "validUntil", "kid"]

section Bytes

variable {runtime : Runtime ν} {offer : Split402OfferV1}

theorem keys_offerFields (ofNat : Nat → ν) (offer : Split402OfferV1) :
    (offer.unsignedFields ofNat).map Prod.fst = offerNames.map ofString := rfl

theorem isJson_offerField (hstd : runtime.Standard) :
    ∀ field ∈ offer.unsignedFields runtime.ofNat, IsJson runtime.numbers field.2 := by
  intro field hfield
  unfold Split402OfferV1.unsignedFields at hfield
  simp only [List.mem_cons, List.not_mem_nil, or_false] at hfield
  rcases hfield with rfl | rfl | rfl | rfl | rfl | rfl | rfl | rfl | rfl | rfl | rfl | rfl | rfl |
    rfl | rfl | rfl | rfl | rfl | rfl | rfl | rfl <;>
    first
      | exact isJson_stringField _ _
      | exact .number (hstd.finite _)
      | exact .bool _

theorem isJson_unsignedOffer (hstd : runtime.Standard) (offer : Split402OfferV1) :
    IsJson runtime.numbers (.object true (offer.unsignedFields runtime.ofNat)) := by
  refine .object ?_ fun field hfield _ => isJson_offerField hstd field hfield
  rw [keys_offerFields]
  exact nodup_ofString (by decide)

theorem omitKeys_offer (ofNat : Nat → ν) (offer : Split402OfferV1) :
    omitKeys ["signature"] (offer.toJson ofNat) = .object true (offer.unsignedFields ofNat) :=
  omitKeys_append_signature (keys_offerFields ofNat offer) (by decide) _

/-- The bytes the signature of an offer covers. -/
def offerSigningBytes (runtime : Runtime ν) (offer : Split402OfferV1) : ByteArray :=
  utf8Bytes (ofString "split402:offer:v1" ++ 0x0A ::
    ((JsValue.object true (offer.unsignedFields runtime.ofNat)).canon runtime.numbers).print)

theorem buildOfferSigningBytes_eq (hstd : runtime.Standard) (offer : Split402OfferV1) :
    buildOfferSigningBytes runtime offer = .ok (offerSigningBytes runtime offer) := by
  rw [buildOfferSigningBytes, omitKeys_offer]
  exact buildDomainSeparatedSigningBytes_eq hstd.numbers (isJson_unsignedOffer hstd offer) _

/-- The engine tells whole numbers apart. -/
def CountsApart (runtime : Runtime ν) : Prop :=
  ∀ m n, runtime.numbers.unsigned (runtime.ofNat m) = runtime.numbers.unsigned (runtime.ofNat n) →
    m = n

/-- The signed bytes determine all of the offer but its signature. -/
theorem eq_of_offerSigningBytes_eq (hstd : runtime.Standard) (hcounts : CountsApart runtime)
    {a b : Split402OfferV1} (h : offerSigningBytes runtime a = offerSigningBytes runtime b) :
    a = { b with signature := a.signature } := by
  have hja := isJson_unsignedOffer hstd a
  have hjb := isJson_unsignedOffer hstd b
  have hbytes : buildDomainSeparatedSigningBytes runtime.numbers (ofString "split402:offer:v1")
      (.object true (a.unsignedFields runtime.ofNat)) =
      buildDomainSeparatedSigningBytes runtime.numbers (ofString "split402:offer:v1")
        (.object true (b.unsignedFields runtime.ofNat)) := by
    rw [buildDomainSeparatedSigningBytes_eq hstd.numbers hja,
      buildDomainSeparatedSigningBytes_eq hstd.numbers hjb]
    exact congrArg Except.ok h
  have heq := (eq_of_signingBytes_eq hstd.numbers hja hjb (by decide) (by decide) (by decide)
    (by decide) hbytes).2
  have hkeys : (a.unsignedFields runtime.ofNat).map Prod.fst =
      (b.unsignedFields runtime.ofNat).map Prod.fst := by
    rw [keys_offerFields, keys_offerFields]
  have hnodup : ((a.unsignedFields runtime.ofNat).map Prod.fst).Nodup := by
    rw [keys_offerFields]
    exact nodup_ofString (by decide)
  rw [jsonEq_object_iff hkeys hnodup
    (fun field hfield => (isJson_offerField hstd field hfield).ne_undefined)
    (fun field hfield => (isJson_offerField hstd field hfield).ne_undefined)] at heq
  have hstring : ∀ {s t : String},
      JsonEq runtime.numbers (.string (ofString s)) (.string (ofString t)) ↔ s = t :=
    jsonEq_string_iff.trans ⟨ofString_inj, congrArg ofString⟩
  have hnumber : ∀ {m n : Nat},
      JsonEq runtime.numbers (.number (runtime.ofNat m)) (.number (runtime.ofNat n)) ↔ m = n := by
    intro m n
    constructor
    · intro h
      cases h with
      | number h => exact hcounts m n h
    · intro h
      rw [h]
      exact .number rfl
  have hbool : ∀ {b c : Bool}, JsonEq runtime.numbers (.bool b) (.bool c) ↔ b = c := by
    intro b c
    constructor
    · intro h
      cases h
      rfl
    · intro h
      rw [h]
      exact .bool c
  simp only [Split402OfferV1.unsignedFields, stringField, boolField, List.forall₂_cons,
    List.forall₂_nil_left_iff, hstring, hnumber, hbool, and_true, true_and] at heq
  obtain ⟨h1, h2, h3, h4, h5, h6, h7, h8, h9, h10, h11, h12, h13, h14, h15, h16, h17, h18⟩ := heq
  cases a
  cases b
  simp only [Split402OfferV1.mk.injEq, and_true]
  exact ⟨h1, h2, h3, h4, h5, h6, h7, h8, h9, h10, h11, h12, h13, h14, h15, h16, h17, h18⟩

end Bytes

/-! ## The merchant's routes -/

/-- A route: what is declared for it, and what a payment for it may be required to be. -/
structure MerchantRoute where
  declaration : Split402RouteDeclaration
  requirements : List PaymentRequirements

/-- The declaration as the extension of the route gets it. -/
def MerchantRoute.record (route : MerchantRoute) : Option RouteDeclarationRecord :=
  some ⟨some route.declaration.campaignId, some route.declaration.operationId⟩

/-- The offer names the campaign and the operation of the declaration. -/
def NamesRoute (offer : Split402OfferV1) (declaration : Split402RouteDeclaration) : Prop :=
  offer.campaignId = declaration.campaignId ∧ offer.operationId = declaration.operationId

variable (runtime : X402Runtime ν) (options : Split402ServerExtensionOptions)
  (routes : Set MerchantRoute)

/-- A payment for a route is let through only with an offer for that route. -/
def OffersBound : Prop :=
  ∀ route ∈ routes, ∀ (context : VerifyContext ν) (now : Int)
    (attribution : ValidatedSplit402Attribution), context.requirements ∈ route.requirements →
    onBeforeVerify runtime options route.record context now = .ok (.proceed attribution) →
    NamesRoute attribution.offer route.declaration

/-- The offer, up to its signature, is one that the merchant has issued for the route, with the key
that was current. -/
def IssuedFor (route : MerchantRoute) (offer : Split402OfferV1) : Prop :=
  ∃ key call issued, enrichPaymentRequiredResponse runtime
      { options with serviceKeyProvider := { options.serviceKeyProvider with current := key } }
      route.record route.requirements call = .ok issued ∧
    offer = { issued with signature := offer.signature }

/-- An offer that passes the schema and verifies under the merchant's key its `kid` names. -/
structure GenuineOffer (offer : Split402OfferV1) : Prop where
  schema : split402OfferV1Schema runtime.zod offer = true
  signed : validateOfferSignature runtime options offer = .ok []

/-- The merchant's keys sign nothing but the offers of its routes, and nobody else can sign. -/
def OnlyIssuedVerify : Prop :=
  ∀ offer, GenuineOffer runtime options offer → ∃ route ∈ routes, IssuedFor runtime options route offer

/-- The offers of the route can be paid with: there is one that verifies and has an end. -/
def Issuing (route : MerchantRoute) : Prop :=
  ∃ offer, IssuedFor runtime options route offer ∧ GenuineOffer runtime options offer ∧
    (runtime.host.dateParse offer.validUntil).isSome

/-- The payment requirement that the offers of a route are made of is not one of a route with another
campaign or operation. -/
def TermsToldApart : Prop :=
  ∀ route ∈ routes, ∀ other ∈ routes, ∀ requirement campaign,
    route.requirements.head? = some requirement → requirement ∈ other.requirements →
    options.resolveCampaign route.declaration = .ok campaign → Issuing runtime options route →
    campaign.campaignId = other.declaration.campaignId ∧
      route.declaration.operationId = other.declaration.operationId

section Binding

variable {runtime : X402Runtime ν} {options : Split402ServerExtensionOptions}
  {routes : Set MerchantRoute} {route : MerchantRoute} {offer : Split402OfferV1}

/-- What an issued offer says of the route. -/
theorem issuedFor_spec (h : IssuedFor runtime options route offer) :
    ∃ requirement campaign, route.requirements.head? = some requirement ∧
      options.resolveCampaign route.declaration = .ok campaign ∧
      offer.campaignId = campaign.campaignId ∧ offer.operationId = route.declaration.operationId ∧
      offer.resourceOrigin = options.merchantOrigin ∧
      validateOfferAgainstRequirements offer requirement = [] := by
  obtain ⟨key, call, issued, hissue, hoffer⟩ := h
  unfold enrichPaymentRequiredResponse at hissue
  obtain ⟨declared, hdeclared, hissue⟩ := bind_eq_ok.mp hissue
  obtain ⟨requirement, hrequirement, hissue⟩ := bind_eq_ok.mp hissue
  obtain ⟨campaign, hcampaign, hissue⟩ := bind_eq_ok.mp hissue
  obtain rfl : route.declaration = declared := Except.ok.inj hdeclared
  have hhead : route.requirements.head? = some requirement := by
    unfold firstRequirement at hrequirement
    split at hrequirement
    · cases hrequirement
    · rename_i first rest hlist
      rw [hlist, List.head?_cons]
      exact congrArg some (Except.ok.inj hrequirement)
  unfold signOffer at hissue
  obtain ⟨message, -, hissue⟩ := bind_eq_ok.mp hissue
  obtain ⟨signature, -, hissue⟩ := bind_eq_ok.mp hissue
  have hissued := (Except.ok.inj hissue).symm
  refine ⟨requirement, campaign, hhead, hcampaign, ?_⟩
  rw [hoffer, hissued]
  refine ⟨rfl, rfl, rfl, ?_⟩
  simp [validateOfferAgainstRequirements, buildOffer]

theorem validateOfferAgainstRequirements_eq_nil {requirement : PaymentRequirements} :
    validateOfferAgainstRequirements offer requirement = [] ↔
      requirement = ⟨offer.network, offer.asset, offer.requiredAmountAtomic, offer.payToWallet⟩ := by
  cases requirement
  simp only [validateOfferAgainstRequirements, List.append_eq_nil_iff, ite_eq_right_iff,
    List.cons_ne_nil, imp_false, ne_eq, not_not, PaymentRequirements.mk.injEq]
  constructor
  · rintro ⟨⟨⟨h1, h2⟩, h3⟩, h4⟩
    exact ⟨h1.symm, h2.symm, h3.symm, h4.symm⟩
  · rintro ⟨h1, h2, h3, h4⟩
    exact ⟨⟨⟨h1.symm, h2.symm⟩, h3.symm⟩, h4.symm⟩

/-- What a payment has passed when its attribution is valid. -/
structure ValidPayment (runtime : X402Runtime ν) (options : Split402ServerExtensionOptions)
    (context : VerifyContext ν) (now : Int) (attribution : ValidatedSplit402Attribution) : Prop where
  info : ∃ info, context.paymentPayload.extension = some info ∧ info.offer = some attribution.offer ∧
    info.paymentId = some attribution.paymentId ∧ info.requestDigest = some attribution.requestDigest
  genuine : GenuineOffer runtime options attribution.offer
  requirements : validateOfferAgainstRequirements attribution.offer context.requirements = []
  timing : validateOfferTiming runtime attribution.offer now = []

theorem validPayment_of_ok {context : VerifyContext ν} {now : Int}
    {attribution : ValidatedSplit402Attribution}
    (h : validateAttributionPayload runtime options context now = .ok (.ok attribution)) :
    ValidPayment runtime options context now attribution := by
  unfold validateAttributionPayload at h
  obtain ⟨info, hinfo, h⟩ := bind_eq_ok.mp h
  have hextension : context.paymentPayload.extension = some info := by
    cases hpayload : context.paymentPayload.extension with
    | none =>
        rw [hpayload] at hinfo
        cases hinfo
    | some found =>
        rw [hpayload, asRecord, pure_eq_ok] at hinfo
        rw [hinfo]
  split at h
  · cases h
  · rename_i offer hoffer
    obtain ⟨hsent, hschema⟩ := Option.filter_eq_some_iff.mp hoffer
    obtain ⟨signatureErrors, hsignature, h⟩ := bind_eq_ok.mp h
    obtain ⟨digestErrors, -, h⟩ := bind_eq_ok.mp h
    dsimp only at h
    split at h
    · rename_i herrors hpaymentId hrequestDigest
      obtain ⟨⟨claimStatus, claimErrors, referralClaim⟩, -, h⟩ := bind_eq_ok.mp h
      obtain rfl := Except.ok.inj (Except.ok.inj h)
      simp only [List.append_eq_nil_iff] at herrors
      obtain ⟨⟨⟨⟨⟨⟨hnone, hrequirements⟩, htiming⟩, -⟩, -⟩, -⟩, -⟩ := herrors
      subst hnone
      exact
        { info := ⟨info, hextension, hsent, hpaymentId, hrequestDigest⟩
          genuine := ⟨hschema, hsignature⟩
          requirements := hrequirements
          timing := htiming }
    · cases h

theorem onBeforeVerify_eq_proceed {declaration : Option RouteDeclarationRecord}
    {context : VerifyContext ν} {now : Int} {attribution : ValidatedSplit402Attribution}
    (h : onBeforeVerify runtime options declaration context now = .ok (.proceed attribution)) :
    validateAttributionPayload runtime options context now = .ok (.ok attribution) ∧
      ¬ (attribution.claimStatus = .invalid ∧ attribution.offer.attributionRequired = true) := by
  obtain ⟨validation, hvalidation, h⟩ := bind_eq_ok.mp h
  cases validation with
  | error errors => cases h
  | ok found =>
      dsimp only at h
      by_cases hrequired : found.claimStatus = .invalid ∧ found.offer.attributionRequired = true
      · rw [if_pos hrequired] at h
        cases h
      · rw [if_neg hrequired, pure_eq_ok, BeforeVerify.proceed.injEq] at h
        rw [← h]
        exact ⟨hvalidation, hrequired⟩

/-- What a payment that is let through has passed. -/
theorem proceed_spec {declaration : Option RouteDeclarationRecord} {context : VerifyContext ν}
    {now : Int} {attribution : ValidatedSplit402Attribution}
    (h : onBeforeVerify runtime options declaration context now = .ok (.proceed attribution)) :
    ValidPayment runtime options context now attribution :=
  validPayment_of_ok (onBeforeVerify_eq_proceed h).1

/-- A request that any route may get. -/
def plainRequest (ν : Type) : HttpRequest ν where
  method := "GET"
  path := "/"
  routePattern := none
  query := .object true []
  body := .undefined

/-- A genuine offer in time pays for any route that takes the requirement it names. -/
theorem proceed_of_genuine (hstd : runtime.toRuntime.Standard)
    (hgenuine : GenuineOffer runtime options offer)
    (horigin : offer.resourceOrigin = options.merchantOrigin)
    (hends : (runtime.host.dateParse offer.validUntil).isSome) {requirement : PaymentRequirements}
    (hrequirement : validateOfferAgainstRequirements offer requirement = [])
    (declaration : Option RouteDeclarationRecord) :
    ∃ (context : VerifyContext ν) (now : Int) (attribution : ValidatedSplit402Attribution),
      context.requirements = requirement ∧
      onBeforeVerify runtime options declaration context now = .ok (.proceed attribution) ∧
      attribution.offer = offer := by
  obtain ⟨validUntil, hvalidUntil⟩ := Option.isSome_iff_exists.mp hends
  have hparts : JsonParts runtime.numbers (serverDigestInput (plainRequest ν) offer "") :=
    ⟨.object List.nodup_nil nofun, .object List.nodup_nil nofun, .null⟩
  have hdigest := calculateOperationDigest_eq hstd hparts
  generalize hhash : runtime.sha256Hex (operationBytes runtime.numbers runtime.toUpperCase
    (serverDigestInput (plainRequest ν) offer "")) = hash at hdigest
  -- the payment of a client that has been offered the offer for this very request
  refine ⟨⟨⟨"", none, some ⟨some offer, some "", some ("sha256:" ++ hash), none⟩⟩, requirement,
    some (plainRequest ν)⟩, validUntil, ⟨offer, "", "sha256:" ++ hash, none, .missing, []⟩, rfl, ?_,
    rfl⟩
  have hprefix : "sha256:".toList.isPrefixOf ("sha256:" ++ hash).toList = true := by
    rw [String.toList_append, List.isPrefixOf_iff_prefix]
    exact List.prefix_append _ _
  have htiming : validateOfferTiming runtime offer validUntil = [] := by
    rw [validateOfferTiming, hvalidUntil]
    simp
  have hoffer : (some offer).filter (split402OfferV1Schema runtime.zod) = some offer := by
    rw [Option.filter_some, if_pos hgenuine.schema]
  have hsigned := hgenuine.signed
  have hpresent : ((some ("sha256:" ++ hash)).any
      (fun digest => "sha256:".toList.isPrefixOf digest.toList)) = true := hprefix
  unfold onBeforeVerify validateAttributionPayload validateRequestDigest
    calculateServerRequestDigest asRecord
  simp only [bind, Except.bind, pure, Except.pure, hoffer, hsigned, hdigest, Functor.map, Except.map,
    hrequirement, htiming, horigin, hpresent, ne_eq, not_true_eq_false, if_false, Option.isNone_some,
    Bool.false_eq_true, Bool.not_true, Option.any_some, bne_self_eq_false, List.nil_append,
    parseReferralClaim, reduceCtorEq, false_and]

/-- **Offers are bound to their routes exactly when routes with other terms require other
payments.** -/
theorem offers_bound_iff (hstd : runtime.toRuntime.Standard)
    (hissued : OnlyIssuedVerify runtime options routes) :
    OffersBound runtime options routes ↔ TermsToldApart runtime options routes := by
  constructor
  · intro hbound route hroute other hother requirement campaign hhead hmem hcampaign hissuing
    obtain ⟨offer, hoffer, hgenuine, hends⟩ := hissuing
    obtain ⟨requirement', campaign', hhead', hcampaign', hid, hoperation, horigin, hmatch⟩ :=
      issuedFor_spec hoffer
    rw [hhead, Option.some.injEq] at hhead'
    rw [hcampaign, Except.ok.injEq] at hcampaign'
    subst hhead' hcampaign'
    obtain ⟨context, now, attribution, hcontext, hproceed, hsame⟩ :=
      proceed_of_genuine hstd hgenuine horigin hends hmatch other.record
    rw [← hcontext] at hmem
    have hnames := hbound other hother context now attribution hmem hproceed
    rw [NamesRoute, hsame, hid, hoperation] at hnames
    exact hnames
  · intro happart other hother context now attribution hmem hproceed
    obtain ⟨-, hgenuine, hmatch, htiming⟩ := proceed_spec hproceed
    obtain ⟨route, hroute, hoffer⟩ := hissued _ hgenuine
    obtain ⟨requirement, campaign, hhead, hcampaign, hid, hoperation, -, hmatch'⟩ :=
      issuedFor_spec hoffer
    -- the offer names one requirement: the route's own, and that of the payment
    have hsame : requirement = context.requirements := by
      rw [validateOfferAgainstRequirements_eq_nil.mp hmatch,
        validateOfferAgainstRequirements_eq_nil.mp hmatch']
    have hends : (runtime.host.dateParse attribution.offer.validUntil).isSome := by
      unfold validateOfferTiming at htiming
      split at htiming
      · cases htiming
      · rename_i hparse
        rw [hparse]
        rfl
    rw [← hsame] at hmem
    have hterms := happart route hroute other hother requirement campaign hhead hmem hcampaign
      ⟨_, hoffer, hgenuine, hends⟩
    rw [NamesRoute, hid, hoperation]
    exact hterms

end Binding

/-! ## Two routes at one price -/

namespace Sample

def quoteSignature : List UInt8 :=
  [26, 227, 145, 86, 37, 51, 255, 66, 204, 248, 222, 129, 158, 77, 212, 177, 206, 153, 134, 41, 94,
    235, 70, 15, 249, 73, 212, 98, 209, 222, 6, 205, 120, 219, 193, 104, 52, 228, 178, 201, 1, 137,
    107, 92, 221, 226, 167, 213, 183, 234, 95, 199, 8, 92, 193, 1, 66, 39, 74, 213, 187, 94, 212,
    14]

/-- The offer of the quote, signed by the merchant. -/
def quoteOffer : Split402OfferV1 :=
  { offer with
    signature := "GuORViUz_0LM-N6Bnk3Usc6Zhile60YP-UnUYtHeBs1428FoNOSyyQGJa1zd4qfVt-pfxwhcwQFCJ0rVu17UDg" }

/-- A host that reads timestamps without milliseconds too. -/
def secondsHost : Host :=
  { isoHost with
    dateParse := fun value => (Iso.parse value).orElse fun _ =>
      Iso.parse (String.ofList (value.toList.dropLast ++ ".000Z".toList)) }

/-- An engine that knows the signature of the quote's offer. -/
def offerRuntime : X402Runtime Whole where
  numbers := wholeNumbers
  ofNat := .nat
  sha256Hex := saleRuntime.sha256Hex
  nodeVerify publicKey message signature :=
    publicKey == merchantKeyBytes && signature == quoteSignature &&
      decide (message = offerSigningBytes saleRuntime offer)
  host := secondsHost
  zod := zod
  toUpperCase := upper
  urlPathname _ := none
  nodeSign _ message := if message = offerSigningBytes saleRuntime offer then quoteSignature else []
  offerIssues _ := []
  claimIssues _ := []

theorem offerRuntime_standard : offerRuntime.toRuntime.Standard :=
  ⟨wholeNumbers_standard, fun _ => rfl⟩

theorem offerRuntime_counts : CountsApart offerRuntime.toRuntime := by
  intro m n h
  have hnat : ∀ n, wholeNumbers.unsigned (.nat n) = .nat n := fun _ => rfl
  have h' : wholeNumbers.unsigned (.nat m) = wholeNumbers.unsigned (.nat n) := h
  rw [hnat, hnat] at h'
  exact Whole.nat.inj h'

/-- The commission of the report is twice that of the quote. -/
def offerCampaign (declaration : Split402RouteDeclaration) : Split402CampaignConfig where
  campaignId := declaration.campaignId
  campaignVersion := 1
  campaignTermsHash := offer.campaignTermsHash
  commissionBps := if declaration.operationId = "quote" then 1000 else 2000
  protocolFeeBpsOfCommission := 0
  attributionRequired := true
  allowSelfReferral := false

def offerOptions : Split402ServerExtensionOptions where
  merchantId := offer.merchantId
  merchantOrigin := offer.resourceOrigin
  serviceKeyProvider := ⟨⟨"key", List.replicate 32 7⟩, fun kid =>
    if kid = "key" then some merchantPublicKey else none⟩
  resolveCampaign declaration := .ok (offerCampaign declaration)

def offerRequirement : PaymentRequirements := ⟨"solana:devnet", wallet, "100", wallet⟩

def quoteRoute : MerchantRoute := ⟨⟨offer.campaignId, "quote"⟩, [offerRequirement]⟩

/-- The report costs what the quote does. -/
def reportRoute : MerchantRoute := ⟨⟨offer.campaignId, "report"⟩, [offerRequirement]⟩

def offerRoutes : Set MerchantRoute := {quoteRoute, reportRoute}

theorem quoteSignature_length : quoteSignature.length = 64 := by decide

theorem quoteOffer_decodes : base64UrlDecode quoteOffer.signature = .ok quoteSignature := by
  decide +kernel

theorem quoteOffer_bytes : offerSigningBytes offerRuntime.toRuntime quoteOffer =
    offerSigningBytes saleRuntime offer := rfl

/-- What the engine verifies is the offer of the quote. -/
theorem validateOfferSignature_offerRuntime (offer' : Split402OfferV1) :
    validateOfferSignature offerRuntime offerOptions offer' = .ok [] ↔
      offer'.kid = "key" ∧ base64UrlDecode offer'.signature = .ok quoteSignature ∧
        offerSigningBytes offerRuntime.toRuntime offer' = offerSigningBytes saleRuntime offer := by
  have hmessage := buildOfferSigningBytes_eq offerRuntime_standard offer'
  generalize hbytes : offerSigningBytes offerRuntime.toRuntime offer' = message at hmessage
  unfold validateOfferSignature
  by_cases hkid : offer'.kid = "key"
  · have hkey : offerOptions.serviceKeyProvider.resolvePublicKey offer'.kid =
        some merchantPublicKey := if_pos hkid
    rw [hkey]
    dsimp only
    rw [verifySplit402OfferObject, hmessage]
    simp only [bind, Except.bind, pure, Except.pure, safeVerify, verifyEd25519Signature,
      merchantKey_decodes.1, hkid, true_and]
    cases hdecode : base64UrlDecode offer'.signature with
    | error message => simp
    | ok signature =>
        dsimp only
        rw [assertByteLength, merchantKey_decodes.2]
        by_cases hlength : signature.length = 64
        · have hverify : offerRuntime.nodeVerify merchantKeyBytes message signature =
              (signature == quoteSignature &&
                decide (message = offerSigningBytes saleRuntime offer)) := by
            show (merchantKeyBytes == merchantKeyBytes && signature == quoteSignature &&
              decide (message = offerSigningBytes saleRuntime offer)) = _
            rw [beq_self_eq_true, Bool.true_and]
          simp only [assertByteLength, hlength, hverify, ne_eq, not_true_eq_false, if_false, pure,
            Except.pure, Bool.and_eq_true, beq_iff_eq, decide_eq_true_eq, Except.ok.injEq]
          split
          · rename_i h
            simp [h]
          · rename_i h
            simp [h]
        · have hne : signature ≠ quoteSignature := by
            intro h
            rw [h, quoteSignature_length] at hlength
            exact hlength rfl
          simp [assertByteLength, hlength, hne, throw, throwThe, MonadExceptOf.throw, pure,
            Except.pure]
  · have hkey : offerOptions.serviceKeyProvider.resolvePublicKey offer'.kid = none := if_neg hkid
    rw [hkey]
    simp [hkid, pure, Except.pure]

theorem quoteOffer_genuine : GenuineOffer offerRuntime offerOptions quoteOffer where
  schema := offer_schema_of offer_terms (by decide) (base64UrlRegex_ofList (by decide))
  signed := by
    rw [validateOfferSignature_offerRuntime]
    exact ⟨rfl, quoteOffer_decodes, quoteOffer_bytes⟩

/-- The call in which the offer of the quote is issued. -/
def quoteCall : ServerCall := ⟨1767225600000, "00000000000000000000000000000001"⟩

theorem quoteOffer_issued : enrichPaymentRequiredResponse offerRuntime offerOptions
    quoteRoute.record quoteRoute.requirements quoteCall = .ok quoteOffer := by
  have hbuild : buildOffer offerRuntime offerOptions (offerCampaign quoteRoute.declaration) "quote"
      offerRequirement quoteCall = { offer with signature := "" } := by
    decide
  have hencode : base64UrlEncode quoteSignature = quoteOffer.signature := by
    decide
  have hbytes : offerSigningBytes offerRuntime.toRuntime { offer with signature := "" } =
      offerSigningBytes saleRuntime offer := rfl
  have hsign : offerRuntime.nodeSign (List.replicate 32 7) (offerSigningBytes saleRuntime offer) =
      quoteSignature := by
    have hknown : ∀ message, offerRuntime.nodeSign (List.replicate 32 7) message =
        if message = offerSigningBytes saleRuntime offer then quoteSignature else [] :=
      fun _ => rfl
    rw [hknown, if_pos rfl]
  have hsigned : signEd25519Message offerRuntime (offerSigningBytes saleRuntime offer)
      (List.replicate 32 7) = .ok quoteOffer.signature := by
    rw [← hencode, ← hsign]
    rfl
  have hmessage := buildOfferSigningBytes_eq offerRuntime_standard { offer with signature := "" }
  rw [hbytes] at hmessage
  refine bind_eq_ok.mpr ⟨quoteRoute.declaration, rfl, ?_⟩
  refine bind_eq_ok.mpr ⟨offerRequirement, rfl, ?_⟩
  refine bind_eq_ok.mpr ⟨offerCampaign quoteRoute.declaration, rfl, ?_⟩
  refine bind_eq_ok.mpr ⟨offerSigningBytes saleRuntime offer, ?_, ?_⟩
  · exact (congrArg (buildOfferSigningBytes offerRuntime.toRuntime) hbuild).trans hmessage
  · refine bind_eq_ok.mpr ⟨quoteOffer.signature, hsigned, ?_⟩
    have hresign := congrArg (fun built : Split402OfferV1 =>
      { built with signature := quoteOffer.signature }) hbuild
    exact congrArg Except.ok hresign

theorem quoteOffer_issuedFor {signature : String} : IssuedFor offerRuntime offerOptions quoteRoute
    { quoteOffer with signature := signature } :=
  ⟨offerOptions.serviceKeyProvider.current, quoteCall, quoteOffer, quoteOffer_issued, rfl⟩

theorem offerRoutes_onlyIssued : OnlyIssuedVerify offerRuntime offerOptions offerRoutes := by
  intro offer' hgenuine
  obtain ⟨-, -, hbytes⟩ := (validateOfferSignature_offerRuntime offer').mp hgenuine.signed
  rw [← quoteOffer_bytes] at hbytes
  have hsame := eq_of_offerSigningBytes_eq offerRuntime_standard offerRuntime_counts hbytes
  refine ⟨quoteRoute, Set.mem_insert _ _, ?_⟩
  rw [hsame]
  exact quoteOffer_issuedFor

end Sample

theorem offers_bound_iff_quote :
    OffersBound Sample.offerRuntime Sample.offerOptions Sample.offerRoutes ↔
      TermsToldApart Sample.offerRuntime Sample.offerOptions Sample.offerRoutes :=
  offers_bound_iff Sample.offerRuntime_standard Sample.offerRoutes_onlyIssued

/-- The offer of the quote pays for the report. -/
theorem not_offers_bound_report : ¬ ∀ (runtime : X402Runtime Whole)
    (options : Split402ServerExtensionOptions) (routes : Set MerchantRoute),
    runtime.toRuntime.Standard → OnlyIssuedVerify runtime options routes →
    OffersBound runtime options routes := by
  intro h
  have hbound := h _ _ _ Sample.offerRuntime_standard Sample.offerRoutes_onlyIssued
  have hends : (Sample.offerRuntime.host.dateParse Sample.quoteOffer.validUntil).isSome = true := by
    decide +kernel
  obtain ⟨context, now, attribution, hcontext, hproceed, hsame⟩ :=
    @proceed_of_genuine _ _ _ _ Sample.offerRuntime_standard Sample.quoteOffer_genuine rfl hends
      Sample.offerRequirement (by decide) Sample.reportRoute.record
  have hnames := hbound Sample.reportRoute (Set.mem_insert_of_mem _ rfl) context now attribution
    (by rw [hcontext]; exact List.mem_singleton.mpr rfl) hproceed
  rw [NamesRoute, hsame] at hnames
  exact absurd hnames.2 (by decide)

end Split402

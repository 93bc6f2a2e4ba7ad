import Split402.Proof.Formats
import Split402.Proof.OfferBinding
import Split402.Registry.Runs

/-! # Claims and terms as JSON

The claims of referrers and the terms of campaigns are JSON, so they have canonical bytes and a hash,
and the bytes a signature of a claim covers determine all of the claim but the signature. -/

namespace Split402

open Base Base.Utf16

variable {ν : Type} {runtime : Runtime ν}

/-! ## Objects with optional fields -/

/-- Equal objects with the same keys lack the same fields, and have equal values in the others. -/
theorem values_of_jsonEq {numbers : JsNumbers ν} {p q : Bool} {fs gs : List (Text × JsValue ν)}
    (h : JsonEq numbers (.object p fs) (.object q gs)) (hkeys : fs.map Prod.fst = gs.map Prod.fst)
    (hnodup : (fs.map Prod.fst).Nodup) :
    List.Forall₂ (fun f g => (f.2 = .undefined ∧ g.2 = .undefined) ∨ JsonEq numbers f.2 g.2) fs gs := by
  have hlen : fs.length = gs.length := by
    simpa using congrArg List.length hkeys
  have hkey : ∀ (i : Nat) (hf : i < fs.length) (hg : i < gs.length), fs[i].1 = gs[i].1 := by
    intro i hf hg
    have h : (fs.map Prod.fst)[i]? = (gs.map Prod.fst)[i]? := by rw [hkeys]
    rw [List.getElem?_map, List.getElem?_map, List.getElem?_eq_getElem hf,
      List.getElem?_eq_getElem hg] at h
    simpa using h
  have hundefined : ∀ {fs gs : List (Text × JsValue ν)} {f g : Text × JsValue ν},
      (gs.map Prod.fst).Nodup →
      (∀ key, key ∈ (definedFields fs).map Prod.fst → key ∈ (definedFields gs).map Prod.fst) →
      f ∈ fs → g ∈ gs → f.1 = g.1 → g.2 = .undefined → f.2 = .undefined := by
    intro fs gs f g hnodup hsub hf hg hfg hg'
    by_contra hdefined
    have hmem : f ∈ definedFields fs := mem_definedFields.mpr ⟨hf, hdefined⟩
    obtain ⟨g', hmem', hkey'⟩ := List.mem_map.mp (hsub f.1 (List.mem_map_of_mem hmem))
    obtain ⟨hgs', hne⟩ := mem_definedFields.mp hmem'
    have hsame : g' = g := List.inj_on_of_nodup_map hnodup hgs' hg (hkey'.trans hfg)
    exact hne (hsame ▸ hg')
  cases h with
  | object hdefined hvalues =>
      refine List.forall₂_iff_get.mpr ⟨hlen, ?_⟩
      intro i hf hg
      rw [List.get_eq_getElem, List.get_eq_getElem]
      have hfg := hkey i hf hg
      by_cases hg' : gs[i].2 = .undefined
      · exact .inl ⟨hundefined (hkeys ▸ hnodup) (fun key => (hdefined key).mp) (List.getElem_mem hf)
          (List.getElem_mem hg) hfg hg', hg'⟩
      · have hf' : fs[i].2 ≠ .undefined := fun hf' => hg' (hundefined hnodup
          (fun key => (hdefined key).mpr) (List.getElem_mem hg) (List.getElem_mem hf) hfg.symm hf')
        refine .inr (hvalues fs[i].1 _ _ (mem_definedFields.mpr ⟨List.getElem_mem hf, hf'⟩) ?_)
        rw [hfg]
        exact mem_definedFields.mpr ⟨List.getElem_mem hg, hg'⟩

section Values

variable {numbers : JsNumbers ν}

theorem stringValue_iff {s t : String} :
    (((JsValue.string (ofString s) : JsValue ν) = .undefined ∧
      (JsValue.string (ofString t) : JsValue ν) = .undefined) ∨
      JsonEq numbers (.string (ofString s)) (.string (ofString t))) ↔ s = t := by
  rw [jsonEq_string_iff]
  constructor
  · rintro (⟨h, -⟩ | h)
    · cases h
    · exact ofString_inj h
  · intro h
    exact .inr (congrArg ofString h)

theorem optionalValue_iff {name : String} {s t : Option String} :
    (((optionalField name s : Text × JsValue ν).2 = .undefined ∧
      (optionalField name t : Text × JsValue ν).2 = .undefined) ∨
      JsonEq numbers (optionalField name s : Text × JsValue ν).2
        (optionalField name t : Text × JsValue ν).2) ↔ s = t := by
  cases s with
  | none =>
      cases t with
      | none => simp [optionalField]
      | some t =>
          refine iff_of_false ?_ nofun
          rintro (⟨-, h⟩ | h)
          · cases h
          · cases h
  | some s =>
      cases t with
      | none =>
          refine iff_of_false ?_ nofun
          rintro (⟨h, -⟩ | h)
          · cases h
          · cases h
      | some t =>
          rw [Option.some.injEq]
          exact stringValue_iff

theorem forall₂_string_iff {xs ys : List String} :
    List.Forall₂ (JsonEq numbers) (xs.map (fun x => .string (ofString x)))
      (ys.map (fun y => .string (ofString y))) ↔ xs = ys := by
  rw [List.forall₂_map_left_iff, List.forall₂_map_right_iff]
  have hstring : ∀ x y : String,
      JsonEq numbers (.string (ofString x)) (.string (ofString y)) ↔ x = y :=
    fun x y => jsonEq_string_iff.trans ⟨ofString_inj, congrArg ofString⟩
  simp only [hstring]
  exact List.forall₂_eq_eq_eq ▸ Iff.rfl

end Values

/-! ## Claims -/

/-- The names of a claim's fields without the signature. -/
def claimNames : List String :=
  ["version", "routeId", "campaignId", "campaignVersionMin", "referrerWallet", "payoutWallet",
    "resourceOrigin", "operationIds", "issuedAt", "expiresAt", "nonce", "metadataHash"]

theorem keys_claimFields (ofNat : Nat → ν) (claim : ReferralClaimV1) :
    (claim.unsignedFields ofNat).map Prod.fst = claimNames.map ofString := rfl

theorem isJson_claimField (hstd : runtime.Standard) {claim : ReferralClaimV1}
    {field : Text × JsValue ν} (hfield : field ∈ claim.unsignedFields runtime.ofNat)
    (h : field.2 ≠ .undefined) : IsJson runtime.numbers field.2 := by
  have harray : IsJson runtime.numbers
      (.array (claim.operationIds.map (fun id => .string (ofString id)))) := by
    refine .array ?_
    intro item hitem
    obtain ⟨id, -, rfl⟩ := List.mem_map.mp hitem
    exact .string _
  unfold ReferralClaimV1.unsignedFields at hfield
  simp only [List.mem_cons, List.not_mem_nil, or_false] at hfield
  rcases hfield with rfl | rfl | rfl | rfl | rfl | rfl | rfl | rfl | rfl | rfl | rfl | rfl <;>
    first
      | exact isJson_stringField _ _
      | exact .number (hstd.finite _)
      | exact isJson_optionalField _ _ h
      | exact harray

theorem isJson_unsignedClaim (hstd : runtime.Standard) (claim : ReferralClaimV1) :
    IsJson runtime.numbers (.object true (claim.unsignedFields runtime.ofNat)) := by
  refine .object ?_ fun field hfield h => isJson_claimField hstd hfield h
  rw [keys_claimFields]
  exact nodup_ofString (by decide)

theorem isJson_claim (hstd : runtime.Standard) (claim : ReferralClaimV1) :
    IsJson runtime.numbers (claim.toJson runtime.ofNat) := by
  refine .object ?_ ?_
  · rw [List.map_append, keys_claimFields]
    have hnames : (claimNames ++ ["signature"]).Nodup := by decide
    have hkeys := nodup_ofString hnames
    rw [List.map_append] at hkeys
    exact hkeys
  · intro field hfield h
    rcases List.mem_append.mp hfield with hfield | hfield
    · exact isJson_claimField hstd hfield h
    · rw [List.mem_singleton.mp hfield]
      refine .object (@nodup_ofString ["type", "publicKey", "value"] (by decide)) ?_
      intro field hfield _
      simp only [List.mem_cons, List.not_mem_nil, or_false] at hfield
      rcases hfield with rfl | rfl | rfl <;> exact isJson_stringField _ _

/-- The canonical bytes of a claim. -/
def claimBytes (runtime : Runtime ν) (claim : ReferralClaimV1) : ByteArray :=
  utf8Bytes ((claim.toJson runtime.ofNat).canon runtime.numbers).print

theorem hashReferralClaim_eq (hstd : runtime.Standard) (claim : ReferralClaimV1) :
    hashReferralClaim runtime claim =
      .ok ("sha256:" ++ runtime.sha256Hex (claimBytes runtime claim)) := by
  rw [hashReferralClaim, hashProtocolObject,
    canonicalizeToBytes_eq hstd.numbers (isJson_claim hstd claim)]
  rfl

/-- The bytes the signature of a claim covers. -/
def claimSigningBytes (runtime : Runtime ν) (claim : ReferralClaimV1) : ByteArray :=
  utf8Bytes (ofString "split402:referral-claim:v1" ++ 0x0A ::
    ((JsValue.object true (claim.unsignedFields runtime.ofNat)).canon runtime.numbers).print)

theorem buildReferralClaimSigningBytes_eq (hstd : runtime.Standard) (claim : ReferralClaimV1) :
    buildReferralClaimSigningBytes runtime claim = .ok (claimSigningBytes runtime claim) := by
  have homit : omitKeys ["signature"] (claim.toJson runtime.ofNat) =
      .object true (claim.unsignedFields runtime.ofNat) :=
    omitKeys_append_signature (keys_claimFields runtime.ofNat claim) (by decide) _
  rw [buildReferralClaimSigningBytes, homit]
  exact buildDomainSeparatedSigningBytes_eq hstd.numbers (isJson_unsignedClaim hstd claim) _

/-- Two claims say the same, under whatever signatures. -/
def SameContent (a b : ReferralClaimV1) : Prop := a = { b with signature := a.signature }

theorem unsigned_eq_of_jsonEq (hcounts : CountsApart runtime) {a b : ReferralClaimV1}
    (h : JsonEq runtime.numbers (.object true (a.unsignedFields runtime.ofNat))
      (.object true (b.unsignedFields runtime.ofNat))) : SameContent a b := by
  have hkeys : (a.unsignedFields runtime.ofNat).map Prod.fst =
      (b.unsignedFields runtime.ofNat).map Prod.fst := by
    rw [keys_claimFields, keys_claimFields]
  have hnodup : ((a.unsignedFields runtime.ofNat).map Prod.fst).Nodup := by
    rw [keys_claimFields]
    exact nodup_ofString (by decide)
  have hvalues := values_of_jsonEq h hkeys hnodup
  have hnumber : ∀ {m n : Nat}, (((JsValue.number (runtime.ofNat m) : JsValue ν) = .undefined ∧
      (JsValue.number (runtime.ofNat n) : JsValue ν) = .undefined) ∨
      JsonEq runtime.numbers (.number (runtime.ofNat m)) (.number (runtime.ofNat n))) → m = n := by
    rintro m n (⟨h, -⟩ | h)
    · cases h
    · cases h with
      | number h => exact hcounts m n h
  have harray : ∀ {xs ys : List String},
      (((JsValue.array (xs.map (fun x => .string (ofString x))) : JsValue ν) = .undefined ∧
        (JsValue.array (ys.map (fun y => .string (ofString y))) : JsValue ν) = .undefined) ∨
        JsonEq runtime.numbers (.array (xs.map (fun x => .string (ofString x))))
          (.array (ys.map (fun y => .string (ofString y))))) → xs = ys := by
    rintro xs ys (⟨h, -⟩ | h)
    · cases h
    · cases h with
      | array h => exact forall₂_string_iff.mp h
  simp only [ReferralClaimV1.unsignedFields, stringField, List.forall₂_cons,
    List.forall₂_nil_left_iff, stringValue_iff, optionalValue_iff, and_true, true_and] at hvalues
  obtain ⟨h1, h2, h3, h4, h5, h6, h7, h8, h9, h10, h11⟩ := hvalues
  cases a
  cases b
  simp only [SameContent, ReferralClaimV1.mk.injEq, and_true]
  exact ⟨h1, h2, hnumber h3, h4, h5, h6, harray h7, h8, h9, h10, h11⟩

/-- The signed bytes determine all of the claim but its signature. -/
theorem sameContent_of_claimSigningBytes_eq (hstd : runtime.Standard) (hcounts : CountsApart runtime)
    {a b : ReferralClaimV1} (h : claimSigningBytes runtime a = claimSigningBytes runtime b) :
    SameContent a b := by
  have hja := isJson_unsignedClaim hstd a
  have hjb := isJson_unsignedClaim hstd b
  have hbytes : buildDomainSeparatedSigningBytes runtime.numbers
      (ofString "split402:referral-claim:v1") (.object true (a.unsignedFields runtime.ofNat)) =
      buildDomainSeparatedSigningBytes runtime.numbers (ofString "split402:referral-claim:v1")
        (.object true (b.unsignedFields runtime.ofNat)) := by
    rw [buildDomainSeparatedSigningBytes_eq hstd.numbers hja,
      buildDomainSeparatedSigningBytes_eq hstd.numbers hjb]
    exact congrArg Except.ok h
  have heq := (eq_of_signingBytes_eq hstd.numbers hja hjb (by decide) (by decide) (by decide)
    (by decide) hbytes).2
  exact unsigned_eq_of_jsonEq hcounts heq

/-- A claim verifies when it names its referrer's key and the key has signed it. -/
theorem verifyReferralClaimObject_iff (hstd : runtime.Standard) {claim : ReferralClaimV1} :
    (∃ result, verifyReferralClaimObject runtime claim = .ok result ∧ result.ok = true) ↔
      claim.signature.publicKey = claim.referrerWallet ∧
        safeVerify runtime (claimSigningBytes runtime claim) claim.signature.publicKey
          claim.signature.value = true := by
  have hverify : verifyReferralClaimObject runtime claim = .ok (resultOf (
      (if claim.signature.publicKey ≠ claim.referrerWallet then
        ["signature.publicKey must equal referrerWallet"] else []) ++
      (if !safeVerify runtime (claimSigningBytes runtime claim) claim.signature.publicKey
          claim.signature.value then ["invalid referral claim signature"] else []))) := by
    rw [verifyReferralClaimObject, buildReferralClaimSigningBytes_eq hstd]
    rfl
  constructor
  · rintro ⟨result, hresult, hok⟩
    rw [hverify] at hresult
    rw [← Except.ok.inj hresult, resultOf, List.isEmpty_iff, List.append_eq_nil_iff] at hok
    have hsigner : claim.signature.publicKey = claim.referrerWallet := by
      by_contra hne
      rw [if_pos hne] at hok
      exact absurd hok.1 (List.cons_ne_nil _ _)
    refine ⟨hsigner, ?_⟩
    by_contra hunverified
    rw [Bool.not_eq_true] at hunverified
    rw [hunverified, Bool.not_false] at hok
    exact absurd hok.2 (List.cons_ne_nil _ _)
  · intro ⟨hsigner, hverified⟩
    refine ⟨_, hverify, ?_⟩
    rw [hverified, hsigner]
    simp [resultOf]

/-- A route claim is let in when it has the shape of one and its referrer has signed it. -/
theorem parseVerifiedRouteClaim_iff {runtime : RegistryRuntime ν}
    (hstd : runtime.toRuntime.Standard) {claimInput : Option ReferralClaimV1}
    {claim : ReferralClaimV1} :
    RouteRegistry.parseVerifiedRouteClaim runtime claimInput = .ok claim ↔
      claimInput = some claim ∧ referralClaimV1Schema runtime.zod claim = true ∧
        claim.signature.publicKey = claim.referrerWallet ∧
        safeVerify runtime.toRuntime (claimSigningBytes runtime.toRuntime claim)
          claim.signature.publicKey claim.signature.value = true := by
  rw [← verifyReferralClaimObject_iff hstd]
  unfold RouteRegistry.parseVerifiedRouteClaim
  cases hparsed : claimInput.filter (referralClaimV1Schema runtime.zod) with
  | none =>
      refine iff_of_false throw_ne_ok ?_
      rintro ⟨hinput, hschema, -⟩
      rw [hinput, Option.filter_some, if_pos hschema] at hparsed
      cases hparsed
  | some parsed =>
      obtain ⟨hinput, hschema⟩ := Option.filter_eq_some_iff.mp hparsed
      dsimp only
      constructor
      · intro h
        obtain ⟨result, hresult, h⟩ := bind_eq_ok.mp h
        obtain ⟨_, hok, h⟩ := bind_eq_ok.mp h
        rw [throwIf_eq_ok, Bool.not_eq_true', Bool.not_eq_false] at hok
        rw [pure_eq_ok] at h
        subst h
        exact ⟨hinput, hschema, result, ofProtocolError_eq_ok.mp hresult, hok⟩
      · rintro ⟨hinput', -, result, hresult, hok⟩
        rw [hinput, Option.some.injEq] at hinput'
        subst hinput'
        refine bind_eq_ok.mpr ⟨result, ofProtocolError_eq_ok.mpr hresult, ?_⟩
        refine bind_eq_ok.mpr ⟨(), throwIf_eq_ok.mpr ?_, rfl⟩
        rw [hok, Bool.not_true]
        exact Bool.false_ne_true

/-! ## Terms -/

/-- The names of the fields of the terms. -/
def termsNames : List String :=
  ["protocolVersion", "campaignId", "campaignVersion", "merchantId", "resourceOrigin", "operations",
    "network", "asset", "requiredAmountAtomic", "payToWallet", "commissionBps",
    "protocolFeeBpsOfCommission", "commissionBase", "settlementMode", "attributionRequired",
    "allowSelfReferral", "payoutThresholdAtomic", "startsAt", "endsAt"]

/-- The schemas of the operations are JSON, where there are any. -/
def JsonSchemas (numbers : JsNumbers ν) (terms : CampaignTerms ν) : Prop :=
  ∀ operation ∈ terms.operations, operation.inputSchema ≠ .undefined →
    IsJson numbers operation.inputSchema

theorem isJson_operation {numbers : JsNumbers ν} {operation : CampaignOperation ν}
    (h : operation.inputSchema ≠ .undefined → IsJson numbers operation.inputSchema) :
    IsJson numbers operation.toJson := by
  refine .object (@nodup_ofString ["operationId", "method", "pathTemplate", "inputSchema"]
    (by decide)) ?_
  intro field hfield hdefined
  simp only [List.mem_cons, List.not_mem_nil, or_false] at hfield
  rcases hfield with rfl | rfl | rfl | rfl
  · exact isJson_stringField _ _
  · exact isJson_stringField _ _
  · exact isJson_stringField _ _
  · exact h hdefined

theorem isJson_terms (hstd : runtime.Standard) {terms : CampaignTerms ν}
    (hschemas : JsonSchemas runtime.numbers terms) :
    IsJson runtime.numbers (terms.toJson runtime.ofNat) := by
  have hoperations : IsJson runtime.numbers
      (.array (terms.operations.map CampaignOperation.toJson)) := by
    refine .array ?_
    intro item hitem
    obtain ⟨operation, hoperation, rfl⟩ := List.mem_map.mp hitem
    exact isJson_operation (hschemas operation hoperation)
  have hends : IsJson runtime.numbers
      ((terms.endsAt.map (fun endsAt => .string (ofString endsAt))).getD .null) := by
    cases terms.endsAt with
    | none => exact .null
    | some endsAt => exact .string _
  refine .object (@nodup_ofString termsNames (by decide)) ?_
  intro field hfield _
  simp only [List.mem_cons, List.not_mem_nil, or_false] at hfield
  rcases hfield with rfl | rfl | rfl | rfl | rfl | rfl | rfl | rfl | rfl | rfl | rfl | rfl | rfl |
    rfl | rfl | rfl | rfl | rfl | rfl <;>
    first
      | exact isJson_stringField _ _
      | exact .number (hstd.finite _)
      | exact .bool _
      | exact hoperations
      | exact hends

/-- The canonical bytes of terms. -/
def termsBytes (runtime : Runtime ν) (terms : CampaignTerms ν) : ByteArray :=
  utf8Bytes ((terms.toJson runtime.ofNat).canon runtime.numbers).print

theorem hashTerms_eq (hstd : runtime.Standard) {terms : CampaignTerms ν}
    (hschemas : JsonSchemas runtime.numbers terms) :
    hashProtocolObject runtime.numbers runtime.sha256Hex (terms.toJson runtime.ofNat) =
      .ok ("sha256:" ++ runtime.sha256Hex (termsBytes runtime terms)) := by
  rw [hashProtocolObject, canonicalizeToBytes_eq hstd.numbers (isJson_terms hstd hschemas)]
  rfl

/-- The bytes the signature of terms covers. -/
def termsSigningBytes (runtime : Runtime ν) (terms : CampaignTerms ν) : ByteArray :=
  utf8Bytes (ofString "split402:campaign-terms:v1" ++ 0x0A ::
    ((terms.toJson runtime.ofNat).canon runtime.numbers).print)

theorem buildCampaignTermsSigningBytes_eq {runtime : RegistryRuntime ν}
    (hstd : runtime.toRuntime.Standard) {terms : CampaignTerms ν}
    (hschemas : JsonSchemas runtime.numbers terms) :
    buildCampaignTermsSigningBytes runtime terms =
      .ok (termsSigningBytes runtime.toRuntime terms) :=
  buildDomainSeparatedSigningBytes_eq hstd.numbers (isJson_terms hstd hschemas) _

theorem verifyCampaignTermsSignature_eq {runtime : RegistryRuntime ν}
    (hstd : runtime.toRuntime.Standard) {terms : CampaignTerms ν}
    (hschemas : JsonSchemas runtime.numbers terms) (publicKey signature : String) :
    verifyCampaignTermsSignature runtime terms publicKey signature =
      safeVerify runtime.toRuntime (termsSigningBytes runtime.toRuntime terms) publicKey signature := by
  rw [verifyCampaignTermsSignature, buildCampaignTermsSigningBytes_eq hstd hschemas]
  rfl

/-- Terms and a claim are never written as the same bytes. -/
theorem termsBytes_ne_claimBytes (hstd : runtime.Standard) {terms : CampaignTerms ν}
    (hschemas : JsonSchemas runtime.numbers terms) (claim : ReferralClaimV1) :
    claimBytes runtime claim ≠ termsBytes runtime terms := by
  intro h
  have hclaim := isJson_claim hstd claim
  have hterms := isJson_terms hstd hschemas
  have heq : JsonEq runtime.numbers (claim.toJson runtime.ofNat) (terms.toJson runtime.ofNat) := by
    rw [← canonicalizeToBytes_eq_iff hstd.numbers hclaim hterms,
      canonicalizeToBytes_eq hstd.numbers hclaim, canonicalizeToBytes_eq hstd.numbers hterms]
    exact congrArg Except.ok h
  unfold ReferralClaimV1.toJson CampaignTerms.toJson at heq
  cases heq with
  | object hkeys _ =>
      have hnonce : ofString "nonce" ∈ (definedFields (claim.unsignedFields runtime.ofNat ++
          [(ofString "signature", .object true [stringField "type" "solana-ed25519",
            stringField "publicKey" claim.signature.publicKey,
            stringField "value" claim.signature.value])])).map Prod.fst := by
        refine List.mem_map.mpr ⟨stringField "nonce" claim.nonce, mem_definedFields.mpr ⟨?_, nofun⟩, rfl⟩
        exact List.mem_append_left _ (by simp [ReferralClaimV1.unsignedFields])
      obtain ⟨field, hfield, hname⟩ := List.mem_map.mp ((hkeys _).mp hnonce)
      have hmem : field.1 ∈ termsNames.map ofString :=
        List.mem_map_of_mem (mem_definedFields.mp hfield).1
      obtain ⟨name, hin, hname'⟩ := List.mem_map.mp hmem
      rw [hname] at hname'
      rw [ofString_inj hname'] at hin
      exact absurd hin (by decide)

/-- The bytes of terms say which version they are. -/
theorem campaignVersion_of_termsBytes_eq (hstd : runtime.Standard) (hcounts : CountsApart runtime)
    {a b : CampaignTerms ν} (ha : JsonSchemas runtime.numbers a) (hb : JsonSchemas runtime.numbers b)
    (h : termsBytes runtime a = termsBytes runtime b) : a.campaignVersion = b.campaignVersion := by
  have hja := isJson_terms hstd ha
  have hjb := isJson_terms hstd hb
  have heq : JsonEq runtime.numbers (a.toJson runtime.ofNat) (b.toJson runtime.ofNat) := by
    rw [← canonicalizeToBytes_eq_iff hstd.numbers hja hjb, canonicalizeToBytes_eq hstd.numbers hja,
      canonicalizeToBytes_eq hstd.numbers hjb]
    exact congrArg Except.ok h
  unfold CampaignTerms.toJson at heq
  cases heq with
  | object _ hvalues =>
      have hnumber := hvalues (ofString "campaignVersion") (.number (runtime.ofNat a.campaignVersion))
        (.number (runtime.ofNat b.campaignVersion))
        (mem_definedFields.mpr ⟨by simp, nofun⟩) (mem_definedFields.mpr ⟨by simp, nofun⟩)
      cases hnumber with
      | number hsame => exact hcounts _ _ hsame

/-- The bytes of a claim say its nonce. -/
theorem nonce_of_claimBytes_eq (hstd : runtime.Standard) {a b : ReferralClaimV1}
    (h : claimBytes runtime a = claimBytes runtime b) : a.nonce = b.nonce := by
  have hja := isJson_claim hstd a
  have hjb := isJson_claim hstd b
  have heq : JsonEq runtime.numbers (a.toJson runtime.ofNat) (b.toJson runtime.ofNat) := by
    rw [← canonicalizeToBytes_eq_iff hstd.numbers hja hjb, canonicalizeToBytes_eq hstd.numbers hja,
      canonicalizeToBytes_eq hstd.numbers hjb]
    exact congrArg Except.ok h
  exact @string_eq_of_jsonEq _ _ _ _ _ _ heq "nonce" _ _
    (List.mem_append_left _ (by simp [ReferralClaimV1.unsignedFields]))
    (List.mem_append_left _ (by simp [ReferralClaimV1.unsignedFields]))

/-- The bytes of a claim say its signature, as it is spelled. -/
theorem signature_of_claimBytes_eq (hstd : runtime.Standard) {a b : ReferralClaimV1}
    (h : claimBytes runtime a = claimBytes runtime b) : a.signature.value = b.signature.value := by
  have hja := isJson_claim hstd a
  have hjb := isJson_claim hstd b
  have heq : JsonEq runtime.numbers (a.toJson runtime.ofNat) (b.toJson runtime.ofNat) := by
    rw [← canonicalizeToBytes_eq_iff hstd.numbers hja hjb, canonicalizeToBytes_eq hstd.numbers hja,
      canonicalizeToBytes_eq hstd.numbers hjb]
    exact congrArg Except.ok h
  unfold ReferralClaimV1.toJson at heq
  cases heq with
  | object _ hvalues =>
      have hsignature := hvalues (ofString "signature") _ _
        (mem_definedFields.mpr ⟨List.mem_concat_self, nofun⟩)
        (mem_definedFields.mpr ⟨List.mem_concat_self, nofun⟩)
      exact @string_eq_of_jsonEq _ _ _ _ _ _ hsignature "value" _ _ (by simp) (by simp)

/-! ## A campaign with a route -/

namespace Sample

def campaignId : String := "cmp_00000000000000000000000000000001"

def campaignMerchantId : String := "mrc_00000000000000000000000000000001"

def sampleRouteId : String := "rte_00000000000000000000000000000001"

/-- The first moment of the terms. -/
def registryEnv : CallEnv := ⟨1767225600000, fun _ => "", fun _ => ""⟩

def registryNow : String := "2026-01-01T00:00:00.000Z"

def quoteOperations : List (CampaignOperation Whole) :=
  [⟨"GET /v1/quote", "GET", "/v1/quote", .undefined⟩]

/-- Terms with a share of the price in basis points. -/
def termsInput (commissionBps : Nat) : CampaignTermsInput Whole where
  resourceOrigin := "https://merchant.example"
  operations := quoteOperations
  network := "solana:devnet"
  asset := wallet
  requiredAmountAtomic := "100"
  payToWallet := wallet
  commissionBps := .finite commissionBps
  protocolFeeBpsOfCommission := none
  protocolFeeBps := none
  commissionBase := none
  attributionRequired := none
  allowSelfReferral := none
  payoutThresholdAtomic := "0"
  startsAt := "2026-01-01T00:00:00Z"
  endsAt := none

def sampleTerms (version commissionBps : Nat) : CampaignTerms Whole where
  campaignId := campaignId
  campaignVersion := version
  merchantId := campaignMerchantId
  resourceOrigin := "https://merchant.example"
  operations := quoteOperations
  network := "solana:devnet"
  asset := wallet
  requiredAmountAtomic := "100"
  payToWallet := wallet
  commissionBps := commissionBps
  protocolFeeBpsOfCommission := 0
  attributionRequired := false
  allowSelfReferral := false
  payoutThresholdAtomic := "0"
  startsAt := "2026-01-01T00:00:00Z"
  endsAt := none

def referrerWallet : String := "7v54NWdBtkjuAFJrLGsS2SXnuk8nKam81mZJeeYxVFi9"

/-- A claim of the referrer for the route. -/
def routeClaim (payoutWallet issuedAt nonce signature : String) : ReferralClaimV1 where
  routeId := sampleRouteId
  campaignId := campaignId
  campaignVersionMin := 1
  referrerWallet := referrerWallet
  payoutWallet := payoutWallet
  resourceOrigin := "https://merchant.example"
  operationIds := ["*"]
  issuedAt := issuedAt
  expiresAt := "2027-01-01T00:00:00Z"
  nonce := nonce
  metadataHash := none
  signature := ⟨referrerWallet, signature⟩

/-- The claims the referrer has signed, each with another wallet for the payouts. -/
def firstClaim : ReferralClaimV1 := routeClaim referrerWallet "2026-01-01T00:00:00Z" "claim-0000000001"
  "fMJlzk9B_yMbWRR4isHzvZJWKwC5dMbv8RHZ4QaQF5qo0IpPWo25Y_4sDaLU1Z9ATHxmEfJCQUY8LcLvsr9RBA"

def secondClaim : ReferralClaimV1 := routeClaim wallet "2026-01-02T00:00:00Z" "claim-000000000002"
  "fk-6IFKj7tk95eKzvyL4ozvaAfOx4k2pBnrEq0kxkjCxeQWTxXCRsLMpimKcdYbSCIgqxnGfqftrr0nYmzjXDA"

/-- The first claim again, with its signature spelled with other spare bits. -/
def respelledClaim : ReferralClaimV1 :=
  { firstClaim with
    signature := ⟨referrerWallet,
      "fMJlzk9B_yMbWRR4isHzvZJWKwC5dMbv8RHZ4QaQF5qo0IpPWo25Y_4sDaLU1Z9ATHxmEfJCQUY8LcLvsr9RBB"⟩ }

def referrerKeyBytes : List UInt8 :=
  [102, 190, 126, 51, 44, 122, 69, 51, 50, 189, 157, 10, 127, 125, 176, 85, 245, 197, 239, 26, 6,
    173, 166, 109, 152, 179, 159, 182, 129, 12, 71, 58]

/-- The merchant's signatures of the two versions of the terms. -/
def termsSignatures : List (CampaignTerms Whole × List UInt8) :=
  [(sampleTerms 1 1000,
      [229, 178, 136, 131, 247, 219, 84, 179, 38, 227, 15, 15, 229, 3, 125, 210, 128, 149, 6, 24,
     159, 64, 123, 189, 18, 162, 33, 236, 246, 205, 81, 164, 212, 26, 82, 160, 57, 78, 240, 103,
     7, 56, 68, 110, 65, 0, 23, 66, 146, 165, 204, 207, 163, 226, 151, 147, 50, 164, 158, 60, 20,
     85, 196, 7]),
    (sampleTerms 2 500,
      [16, 191, 14, 119, 102, 121, 211, 227, 26, 123, 238, 81, 216, 232, 170, 190, 71, 50, 136, 142,
      244, 174, 23, 196, 37, 204, 102, 141, 24, 133, 124, 197, 69, 152, 141, 21, 110, 72, 237,
      193, 152, 32, 216, 78, 148, 200, 130, 104, 107, 200, 152, 88, 155, 136, 83, 78, 217, 111,
      151, 239, 109, 129, 95, 9])]

/-- The referrer's signatures of the two claims. -/
def claimSignatures : List (ReferralClaimV1 × List UInt8) :=
  [(firstClaim,
      [124, 194, 101, 206, 79, 65, 255, 35, 27, 89, 20, 120, 138, 193, 243, 189, 146, 86, 43, 0,
        185, 116, 198, 239, 241, 17, 217, 225, 6, 144, 23, 154, 168, 208, 138, 79, 90, 141, 185,
        99, 254, 44, 13, 162, 212, 213, 159, 64, 76, 124, 102, 17, 242, 66, 65, 70, 60, 45, 194,
        239, 178, 191, 81, 4]),
    (secondClaim,
      [126, 79, 186, 32, 82, 163, 238, 217, 61, 229, 226, 179, 191, 34, 248, 163, 59, 218, 1, 243,
        177, 226, 77, 169, 6, 122, 196, 171, 73, 49, 146, 48, 177, 121, 5, 147, 197, 112, 145,
        176, 179, 41, 138, 98, 156, 117, 134, 210, 8, 136, 42, 198, 113, 159, 169, 251, 107, 175,
        73, 216, 155, 56, 215, 12])]

def firstTermsHash : String :=
  "9ba86d67d465e0a25148f62bd3fd0da6de27701e5caa1dac9e1dcdfd2b2f1d1a"

def secondTermsHash : String :=
  "26c6b4627825b4c21bbf05a067c1efb06f608ee1ec998b9082b513290971eb4b"

def firstClaimHash : String :=
  "833dcaf6531752f2bfc45eefe69f2ce6e39c786b6b34d46fd0b9872a000268eb"

def secondClaimHash : String :=
  "f5e4d497034161f8e08fd6b4a51045c48bda019c5ab27f8dcb05fed48160e5ca"

def respelledClaimHash : String :=
  "19985230947ac876b76cc3ac31dd7140f99ca24a9da07ca31d96cd55e5ef9dcf"

/-- The digests of the terms and of the claims. -/
def registryDigest (bytes : ByteArray) : String :=
  if bytes = termsBytes saleRuntime (sampleTerms 1 1000) then firstTermsHash
  else if bytes = claimBytes saleRuntime firstClaim then firstClaimHash
  else if bytes = claimBytes saleRuntime secondClaim then secondClaimHash
  else if bytes = claimBytes saleRuntime respelledClaim then respelledClaimHash
  else secondTermsHash

/-- The merchant has signed terms of which these are the bytes that are signed. -/
def isTermsSignature (message : ByteArray) (signature : List UInt8) : Bool :=
  termsSignatures.any (fun signed =>
    signature == signed.2 && decide (message = termsSigningBytes saleRuntime signed.1))

/-- The referrer has signed a claim of which these are the bytes that are signed. -/
def isClaimSignature (message : ByteArray) (signature : List UInt8) : Bool :=
  claimSignatures.any (fun signed =>
    signature == signed.2 && decide (message = claimSigningBytes saleRuntime signed.1))

def registryVerify (publicKey : List UInt8) (message : ByteArray) (signature : List UInt8) : Bool :=
  (publicKey == merchantKeyBytes && isTermsSignature message signature) ||
    (publicKey == referrerKeyBytes && isClaimSignature message signature)

/-- An engine that knows the digests and the signatures of the terms and of the claims. -/
def registryRuntime : RegistryRuntime Whole where
  numbers := wholeNumbers
  ofNat := .nat
  sha256Hex := registryDigest
  nodeVerify := registryVerify
  host := secondsHost
  zod := zod
  isHttpOrigin _ := true
  toUpperCase := upper
  claimIssues _ := []

def firstTermsSignature : String :=
  "5bKIg_fbVLMm4w8P5QN90oCVBhifQHu9EqIh7PbNUaTUGlKgOU7wZwc4RG5BABdCkqXMz6Pil5MypJ48FFXEBw"

def secondTermsSignature : String :=
  "EL8Od2Z50-Mae-5R2OiqvkcyiI70rhfEJcxmjRiFfMVFmI0VbkjtwZgg2E6UyIJoa8iYWJuIU07Zb5fvbYFfCQ"

theorem referrerWallet_regex : base58Regex referrerWallet = true := base58Regex_ofList (by decide)

theorem merchantPublicKey_regex : base58Regex merchantPublicKey = true :=
  base58Regex_ofList (by decide)

theorem registryRuntime_standard : registryRuntime.toRuntime.Standard :=
  ⟨wholeNumbers_standard, fun _ => rfl⟩

theorem jsonSchemas_sampleTerms (version commissionBps : Nat) :
    JsonSchemas wholeNumbers (sampleTerms version commissionBps) := by
  intro operation hoperation hschema
  rw [List.mem_singleton.mp hoperation] at hschema
  exact absurd rfl hschema

/-- The terms of a version are checked, hashed and kept as a draft. -/
theorem createCampaignVersionRecord_sample {number bps : Nat}
    (hbps : Registry.assertBasisPoints (.finite bps) "commissionBps" = .ok bps) (createdAt : String) :
    createCampaignVersionRecord registryRuntime campaignId campaignMerchantId number (termsInput bps)
      createdAt = .ok ⟨campaignId, number, sampleTerms number bps,
        "sha256:" ++ registryDigest (termsBytes saleRuntime (sampleTerms number bps)), none, none, none,
        createdAt⟩ := by
  have horigin : Registry.assertUrlOrigin registryRuntime "https://merchant.example"
      "resourceOrigin" = .ok "https://merchant.example" := rfl
  have hoperations : assertCampaignOperations registryRuntime quoteOperations =
      .ok quoteOperations := by
    have hid : Registry.assertNonEmptyString "GET /v1/quote" "operationId" = .ok "GET /v1/quote" :=
      rfl
    have hmethod : assertHttpMethod registryRuntime "GET" = .ok "GET" := rfl
    have hpath : assertPathTemplate "/v1/quote" = .ok "/v1/quote" := rfl
    refine bind_eq_ok.mpr ⟨(), throwIf_eq_ok.mpr Bool.false_ne_true, mapM_eq_ok_iff.mpr (.cons ?_ .nil)⟩
    exact bind_eq_ok.mpr ⟨_, hid, bind_eq_ok.mpr ⟨(), throwIf_eq_ok.mpr List.not_mem_nil,
      bind_eq_ok.mpr ⟨_, hmethod, bind_eq_ok.mpr ⟨_, hpath, rfl⟩⟩⟩⟩
  have hnetwork : Registry.assertNonEmptyString "solana:devnet" "network" = .ok "solana:devnet" := rfl
  have hwallet : ∀ label, Registry.assertBase58PublicKey wallet label = .ok wallet := by
    intro label
    rw [Registry.assertBase58PublicKey, assertThat_eq_ok]
    exact ⟨wallet_regex, rfl⟩
  have hamount : Registry.assertAtomicAmount "100" "requiredAmountAtomic" = .ok "100" := rfl
  have hthreshold : Registry.assertAtomicAmount "0" "payoutThresholdAtomic" = .ok "0" := rfl
  have hstarts : Registry.assertUtcTimestamp registryRuntime "2026-01-01T00:00:00Z" "startsAt" =
      .ok "2026-01-01T00:00:00Z" := by
    rw [Registry.assertUtcTimestamp, assertThat_eq_ok]
    exact ⟨rfc3339UtcSchema_ofList rfl (by decide), rfl⟩
  have hschemas := jsonSchemas_sampleTerms number bps
  have hbytes : termsBytes registryRuntime.toRuntime (sampleTerms number bps) =
      termsBytes saleRuntime (sampleTerms number bps) := rfl
  have hhash := ofProtocolError_eq_ok.mpr (hashTerms_eq registryRuntime_standard hschemas)
  have hdigest : registryRuntime.sha256Hex = registryDigest := rfl
  rw [hbytes, hdigest] at hhash
  have hsigning := ofProtocolError_eq_ok.mpr
    (buildCampaignTermsSigningBytes_eq registryRuntime_standard hschemas)
  unfold createCampaignVersionRecord
  refine bind_eq_ok.mpr ⟨_, horigin, bind_eq_ok.mpr ⟨_, hoperations, bind_eq_ok.mpr ⟨_, hnetwork,
    bind_eq_ok.mpr ⟨_, hwallet _, bind_eq_ok.mpr ⟨_, hamount, bind_eq_ok.mpr ⟨_, hwallet _,
    bind_eq_ok.mpr ⟨_, hbps, bind_eq_ok.mpr ⟨0, rfl, bind_eq_ok.mpr ⟨_, hthreshold,
    bind_eq_ok.mpr ⟨_, hstarts, bind_eq_ok.mpr ⟨none, rfl, ?_⟩⟩⟩⟩⟩⟩⟩⟩⟩⟩⟩
  refine bind_eq_ok.mpr ⟨(), throwIf_eq_ok.mpr (by simp [termsInput]), bind_eq_ok.mpr ⟨(), rfl, ?_⟩⟩
  refine bind_eq_ok.mpr ⟨_, hhash, bind_eq_ok.mpr ⟨_, hsigning, ?_⟩⟩
  rw [pure_eq_ok]
  rfl


theorem termsBytes_second_ne :
    termsBytes saleRuntime (sampleTerms 2 500) ≠ termsBytes saleRuntime (sampleTerms 1 1000) := by
  intro h
  have hversion := campaignVersion_of_termsBytes_eq saleRuntime_standard offerRuntime_counts
    (jsonSchemas_sampleTerms _ _) (jsonSchemas_sampleTerms _ _) h
  exact absurd hversion (by decide)

theorem claimBytes_second_ne :
    claimBytes saleRuntime secondClaim ≠ claimBytes saleRuntime firstClaim := by
  intro h
  have hnonce := nonce_of_claimBytes_eq saleRuntime_standard h
  exact absurd hnonce (by decide)

theorem digest_firstTerms :
    registryDigest (termsBytes saleRuntime (sampleTerms 1 1000)) = firstTermsHash :=
  if_pos rfl

theorem claimBytes_ne_terms (claim : ReferralClaimV1) (version commissionBps : Nat) :
    claimBytes saleRuntime claim ≠ termsBytes saleRuntime (sampleTerms version commissionBps) :=
  termsBytes_ne_claimBytes saleRuntime_standard (jsonSchemas_sampleTerms version commissionBps) claim

theorem digest_firstClaim : registryDigest (claimBytes saleRuntime firstClaim) = firstClaimHash := by
  rw [registryDigest, if_neg (claimBytes_ne_terms firstClaim 1 1000), if_pos rfl]

theorem digest_secondClaim : registryDigest (claimBytes saleRuntime secondClaim) = secondClaimHash := by
  rw [registryDigest, if_neg (claimBytes_ne_terms secondClaim 1 1000), if_neg claimBytes_second_ne,
    if_pos rfl]

theorem digest_respelledClaim :
    registryDigest (claimBytes saleRuntime respelledClaim) = respelledClaimHash := by
  have hfirst : claimBytes saleRuntime respelledClaim ≠ claimBytes saleRuntime firstClaim := by
    intro h
    have hsignature := signature_of_claimBytes_eq saleRuntime_standard h
    exact absurd hsignature (by decide)
  have hsecond : claimBytes saleRuntime respelledClaim ≠ claimBytes saleRuntime secondClaim := by
    intro h
    have hnonce := nonce_of_claimBytes_eq saleRuntime_standard h
    exact absurd hnonce (by decide)
  rw [registryDigest, if_neg (claimBytes_ne_terms respelledClaim 1 1000), if_neg hfirst,
    if_neg hsecond, if_pos rfl]

theorem digest_secondTerms :
    registryDigest (termsBytes saleRuntime (sampleTerms 2 500)) = secondTermsHash := by
  rw [registryDigest, if_neg termsBytes_second_ne, if_neg (claimBytes_ne_terms firstClaim 2 500).symm,
    if_neg (claimBytes_ne_terms secondClaim 2 500).symm,
    if_neg (claimBytes_ne_terms respelledClaim 2 500).symm]

/-- The key of the referrer and the signatures that are sent, computed in one evaluation. -/
theorem signatures_computed :
    base58Decode referrerWallet = .ok referrerKeyBytes ∧
    (base64UrlDecode firstTermsSignature = .ok (termsSignatures.map Prod.snd).head! ∧
      base64UrlDecode firstClaim.signature.value = .ok (claimSignatures.map Prod.snd).head!) ∧
    base64UrlDecode secondClaim.signature.value = .ok (claimSignatures.map Prod.snd).getLast! := by
  decide +kernel

theorem referrerKey_decodes :
    base58Decode referrerWallet = .ok referrerKeyBytes ∧ referrerKeyBytes.length = 32 :=
  ⟨signatures_computed.1, rfl⟩

/-- A claim verifies with the signature of a claim that says the same. -/
theorem claim_verifies {claim own : ReferralClaimV1} {signature : List UInt8}
    (hmem : (own, signature) ∈ claimSignatures)
    (hsame : claimSigningBytes saleRuntime claim = claimSigningBytes saleRuntime own)
    (hsignature : base64UrlDecode claim.signature.value = .ok signature ∧ signature.length = 64)
    (hreferrer : claim.signature.publicKey = referrerWallet) :
    safeVerify registryRuntime.toRuntime (claimSigningBytes registryRuntime.toRuntime claim)
      claim.signature.publicKey claim.signature.value = true := by
  rw [hreferrer]
  have hknown : isClaimSignature (claimSigningBytes saleRuntime claim) signature = true := by
    refine List.any_eq_true.mpr ⟨_, hmem, ?_⟩
    rw [Bool.and_eq_true, decide_eq_true_eq]
    exact ⟨beq_self_eq_true _, hsame⟩
  have hverify : registryVerify referrerKeyBytes (claimSigningBytes saleRuntime claim) signature =
      true := by
    rw [registryVerify, hknown, beq_self_eq_true, Bool.and_self, Bool.or_true]
  exact safeVerify_of_decodes referrerKey_decodes hsignature hverify

/-- The terms verify under the merchant's key. -/
theorem terms_verify {terms : CampaignTerms Whole} {value : String} {signature : List UInt8}
    (hmem : (terms, signature) ∈ termsSignatures)
    (hschemas : JsonSchemas wholeNumbers terms)
    (hsignature : base64UrlDecode value = .ok signature ∧ signature.length = 64) :
    verifyCampaignTermsSignature registryRuntime terms merchantPublicKey value = true := by
  have hsafe : safeVerify registryRuntime.toRuntime
      (termsSigningBytes registryRuntime.toRuntime terms) merchantPublicKey value = true := by
    have hknown : isTermsSignature (termsSigningBytes saleRuntime terms) signature = true := by
      refine List.any_eq_true.mpr ⟨_, hmem, ?_⟩
      rw [Bool.and_eq_true, decide_eq_true_eq]
      exact ⟨beq_self_eq_true _, rfl⟩
    have hverify : registryVerify merchantKeyBytes (termsSigningBytes saleRuntime terms) signature =
        true := by
      rw [registryVerify, hknown, beq_self_eq_true, Bool.and_self, Bool.true_or]
    exact safeVerify_of_decodes merchantKey_decodes hsignature hverify
  rw [verifyCampaignTermsSignature_eq registryRuntime_standard hschemas]
  exact hsafe


theorem now_registryEnv : CampaignRegistry.now registryRuntime registryEnv = registryNow := rfl

/-! The calls that create a campaign, sign its terms and make versions of them. -/

def campaignInput : CreateCampaignInput Whole := ⟨termsInput 1000, some campaignId, campaignMerchantId⟩

def versionInput : CreateCampaignVersionInput Whole := ⟨termsInput 500, campaignId⟩

/-- The merchant signs the current version. -/
def activation (merchantSignature : String) : ActivateCampaignVersionInput :=
  ⟨campaignId, none, "key", merchantPublicKey, merchantSignature⟩

def draftCampaign : CampaignRecord :=
  ⟨campaignId, campaignMerchantId, "https://merchant.example", .draft, 1, registryNow, registryNow⟩

def draftVersion (number commissionBps : Nat) (termsHash : String) : CampaignVersionRecord Whole :=
  ⟨campaignId, number, sampleTerms number commissionBps, "sha256:" ++ termsHash, none, none, none,
    registryNow⟩

def firstVersion : CampaignVersionRecord Whole := draftVersion 1 1000 firstTermsHash

def secondVersion : CampaignVersionRecord Whole := draftVersion 2 500 secondTermsHash

def draftedCampaigns : CampaignRegistry Whole :=
  ⟨Table.empty.upsert draftCampaign, Table.empty.upsert firstVersion⟩

theorem createCampaign_sample : ∃ profile,
    CampaignRegistry.empty.createCampaign registryRuntime registryEnv campaignInput =
      .ok (profile, draftedCampaigns) := by
  have hid : Registry.assertSplit402Id campaignId "campaign id" = .ok campaignId := rfl
  have hmerchant : Registry.assertSplit402Id campaignMerchantId "merchant id" =
      .ok campaignMerchantId := rfl
  have hbps : Registry.assertBasisPoints (.finite 1000) "commissionBps" = .ok 1000 := rfl
  have hrecord := @createCampaignVersionRecord_sample 1 _ hbps registryNow
  rw [digest_firstTerms] at hrecord
  refine ⟨⟨draftCampaign, firstVersion⟩, ?_⟩
  unfold CampaignRegistry.createCampaign
  rw [now_registryEnv]
  refine bind_eq_ok.mpr ⟨_, hid, bind_eq_ok.mpr ⟨(), throwIf_eq_ok.mpr Bool.false_ne_true,
    bind_eq_ok.mpr ⟨_, hmerchant, bind_eq_ok.mpr ⟨_, rfl, bind_eq_ok.mpr ⟨_, hrecord, ?_⟩⟩⟩⟩⟩
  rfl

/-- The terms of the current version are signed. -/
theorem activateCampaignVersion_sample {registry : CampaignRegistry Whole} {campaign : CampaignRecord}
    {version : CampaignVersionRecord Whole} {merchantSignature : String}
    (hcampaign : registry.campaigns.find? campaignId = some campaign)
    (hopen : campaign.status ≠ .closed)
    (hversion : registry.versionToActivate campaign (activation merchantSignature) = .ok version)
    (hsignature : isBlank merchantSignature = false)
    (hunsigned : version.merchantKid = none ∧ version.merchantSignature = none)
    (hverified : verifyCampaignTermsSignature registryRuntime version.terms merchantPublicKey
      merchantSignature = true) : ∃ profile,
    registry.activateCampaignVersion registryRuntime registryEnv (activation merchantSignature) =
      .ok (profile,
        { campaigns := registry.campaigns.upsert (campaign.moved .active registryNow)
          versions := registry.versions.upsert
            (version.activated "key" merchantSignature registryNow) }) := by
  have hkid : Registry.assertNonEmptyString "key" "merchantKid" = .ok "key" := rfl
  have hkey : Registry.assertBase58PublicKey merchantPublicKey "merchantPublicKey" =
      .ok merchantPublicKey := by
    rw [Registry.assertBase58PublicKey, assertThat_eq_ok]
    exact ⟨merchantPublicKey_regex, rfl⟩
  have hnonempty : Registry.assertNonEmptyString merchantSignature "merchantSignature" =
      .ok merchantSignature := by
    rw [Registry.assertNonEmptyString, assertThat_eq_ok, hsignature]
    exact ⟨rfl, rfl⟩
  refine ⟨⟨campaign.moved .active registryNow, version.activated "key" merchantSignature registryNow⟩,
    ?_⟩
  unfold CampaignRegistry.activateCampaignVersion
  have hid : (activation merchantSignature).campaignId = campaignId := rfl
  rw [hid, hcampaign, now_registryEnv]
  refine bind_eq_ok.mpr ⟨(), throwIf_eq_ok.mpr hopen, bind_eq_ok.mpr ⟨_, hversion,
    bind_eq_ok.mpr ⟨_, hkid, bind_eq_ok.mpr ⟨_, hkey, bind_eq_ok.mpr ⟨_, hnonempty, ?_⟩⟩⟩⟩⟩
  rw [if_neg (by simp [hunsigned.1, hunsigned.2]), hverified, if_neg (by simp)]
  rfl

/-- The campaign with its signed terms. -/
def activeCampaigns : CampaignRegistry Whole where
  campaigns := draftedCampaigns.campaigns.upsert (draftCampaign.moved .active registryNow)
  versions := draftedCampaigns.versions.upsert
    (firstVersion.activated "key" firstTermsSignature registryNow)

theorem firstTerms_verify : verifyCampaignTermsSignature registryRuntime (sampleTerms 1 1000)
    merchantPublicKey firstTermsSignature = true := by
  exact terms_verify List.mem_cons_self (jsonSchemas_sampleTerms 1 1000)
    ⟨signatures_computed.2.1.1, rfl⟩

theorem activateFirst_sample : ∃ profile,
    draftedCampaigns.activateCampaignVersion registryRuntime registryEnv
      (activation firstTermsSignature) = .ok (profile, activeCampaigns) := by
  refine activateCampaignVersion_sample rfl nofun ?_ ?_ ⟨rfl, rfl⟩ firstTerms_verify
  · rfl
  · exact isBlank_ofList (by decide)

/-! A claim of the route, and the routes after it has activated the route. -/

structure SampleClaim (claim : ReferralClaimV1) (claimHash : String) : Prop where
  parsed : RouteRegistry.parseVerifiedRouteClaim registryRuntime (some claim) = .ok claim
  range : RouteRegistry.assertClaimRange registryRuntime claim.issuedAt claim.expiresAt = .ok ()
  unexpired : RouteRegistry.assertNotExpired registryRuntime registryEnv claim = .ok ()
  hashed : hashReferralClaim registryRuntime.toRuntime claim = .ok ("sha256:" ++ claimHash)

theorem firstClaim_verifies : safeVerify registryRuntime.toRuntime
    (claimSigningBytes registryRuntime.toRuntime firstClaim) firstClaim.signature.publicKey
      firstClaim.signature.value = true := by
  exact claim_verifies List.mem_cons_self rfl ⟨signatures_computed.2.1.2, rfl⟩ rfl

theorem secondClaim_verifies : safeVerify registryRuntime.toRuntime
    (claimSigningBytes registryRuntime.toRuntime secondClaim) secondClaim.signature.publicKey
      secondClaim.signature.value = true := by
  exact claim_verifies (List.mem_cons_of_mem _ List.mem_cons_self) rfl
    ⟨signatures_computed.2.2, rfl⟩ rfl

theorem hashReferralClaim_sample (claim : ReferralClaimV1) :
    hashReferralClaim registryRuntime.toRuntime claim =
      .ok ("sha256:" ++ registryDigest (claimBytes saleRuntime claim)) := by
  have hbytes : claimBytes registryRuntime.toRuntime claim = claimBytes saleRuntime claim := rfl
  have hdigest : registryRuntime.sha256Hex = registryDigest := rfl
  rw [hashReferralClaim_eq registryRuntime_standard, hbytes, hdigest]

/-- A claim on the sample route has the form of a claim. -/
theorem routeClaim_schema {payoutWallet issuedAt nonce signature : String}
    (hpayout : base58Regex payoutWallet = true) (hissued : rfc3339UtcSchema zod issuedAt = true)
    (hnonce : 16 ≤ (ofString nonce).length ∧ (ofString nonce).length ≤ 128)
    (hsignature : base64UrlRegex signature = true) :
    referralClaimV1Schema zod (routeClaim payoutWallet issuedAt nonce signature) = true := by
  have hroute : isSplit402Id sampleRouteId = true := isSplit402Id_ofList (by decide)
  have hcampaign : isSplit402Id campaignId = true := isSplit402Id_ofList (by decide)
  have hexpires : rfc3339UtcSchema zod "2027-01-01T00:00:00Z" = true :=
    rfc3339UtcSchema_ofList rfl (by decide)
  simp only [referralClaimV1Schema, routeClaim, hroute, hcampaign, hpayout, hissued, hexpires,
    hsignature, hnonce.1, hnonce.2, referrerWallet_regex, decide_true, Bool.true_and, Bool.and_true]
  rfl

theorem firstClaim_schema : referralClaimV1Schema zod firstClaim = true :=
  routeClaim_schema referrerWallet_regex (rfc3339UtcSchema_ofList rfl (by decide)) (by decide)
    (base64UrlRegex_ofList (by decide))

theorem secondClaim_schema : referralClaimV1Schema zod secondClaim = true :=
  routeClaim_schema wallet_regex (rfc3339UtcSchema_ofList rfl (by decide)) (by decide)
    (base64UrlRegex_ofList (by decide))

theorem firstClaim_sample : SampleClaim firstClaim firstClaimHash where
  parsed := (parseVerifiedRouteClaim_iff registryRuntime_standard).mpr ⟨rfl, firstClaim_schema, rfl,
    firstClaim_verifies⟩
  range := throwIf_eq_ok.mpr (by decide)
  unexpired := throwIf_eq_ok.mpr (by decide)
  hashed := by
    rw [hashReferralClaim_sample, digest_firstClaim]

theorem secondClaim_sample : SampleClaim secondClaim secondClaimHash where
  parsed := (parseVerifiedRouteClaim_iff registryRuntime_standard).mpr ⟨rfl, secondClaim_schema, rfl,
    secondClaim_verifies⟩
  range := throwIf_eq_ok.mpr (by decide)
  unexpired := throwIf_eq_ok.mpr (by decide)
  hashed := by
    rw [hashReferralClaim_sample, digest_secondClaim]

/-- The routes with the one that a claim has activated. -/
def activatedRoutes (claim : ReferralClaimV1) (claimHash : String) : RouteRegistry :=
  let route := RouteRegistry.activatedRoute registryRuntime registryEnv claim ("sha256:" ++ claimHash)
  { routesById := Table.empty.upsert route
    routeIdByClaimHash := Table.empty.upsert ⟨"sha256:" ++ claimHash, route.id⟩
    versionsByRouteId := Table.empty.upsert
      ⟨route.id, [RouteRegistry.createRouteVersionRecord route claim 1 route.createdAt]⟩ }

theorem activateRoute_sample {claim : ReferralClaimV1} {claimHash : String}
    (h : SampleClaim claim claimHash) : ∃ route,
    RouteRegistry.empty.activateRoute registryRuntime registryEnv (some claim) =
      .ok (route, activatedRoutes claim claimHash) := by
  refine ⟨RouteRegistry.activatedRoute registryRuntime registryEnv claim ("sha256:" ++ claimHash), ?_⟩
  have hsigning := ofProtocolError_eq_ok.mpr
    (buildReferralClaimSigningBytes_eq registryRuntime_standard claim)
  unfold RouteRegistry.activateRoute
  refine bind_eq_ok.mpr ⟨_, h.parsed, bind_eq_ok.mpr ⟨(), h.range, bind_eq_ok.mpr ⟨(), h.unexpired,
    bind_eq_ok.mpr ⟨_, ofProtocolError_eq_ok.mpr h.hashed, ?_⟩⟩⟩⟩
  have hnone : ((RouteRegistry.empty.routeIdByClaimHash.find? ("sha256:" ++ claimHash)).bind
      (fun entry => RouteRegistry.empty.routesById.find? entry.routeId)) = none := rfl
  dsimp only
  rw [hnone]
  exact bind_eq_ok.mpr ⟨(), throwIf_eq_ok.mpr Bool.false_ne_true, bind_eq_ok.mpr ⟨_, hsigning, rfl⟩⟩

/-- The merchant of the campaign, with its key. -/
def sampleMerchants : MerchantRegistry where
  merchants := Table.empty.upsert ⟨campaignMerchantId, merchantPublicKey, .active⟩
  origins := Table.empty.upsert ⟨campaignMerchantId, "https://merchant.example", .verified⟩
  keysByKid := Table.empty.upsert ⟨campaignMerchantId, "key", merchantPublicKey, .offerReceipt,
    "2026-01-01T00:00:00Z", none, none⟩

/-- A campaign is created and its terms are signed, and a referrer activates a route. -/
def sampleCalls : List (RegistryCall Whole) :=
  [.createCampaign registryEnv campaignInput,
    .activateCampaignVersion registryEnv (activation firstTermsSignature),
    .activateRoute registryEnv (some firstClaim), .changeMerchants sampleMerchants]

/-- The registries with the campaign and the route. -/
def sampleRegistries : Registries Whole :=
  ⟨sampleMerchants, activeCampaigns, activatedRoutes firstClaim firstClaimHash⟩

theorem apply_campaignInput :
    Registries.empty.apply registryRuntime (.createCampaign registryEnv campaignInput) =
      .ok ⟨.empty, draftedCampaigns, .empty⟩ := by
  obtain ⟨_, hcreate⟩ := createCampaign_sample
  exact bind_eq_ok.mpr ⟨_, hcreate, rfl⟩

theorem apply_activation : Registries.apply registryRuntime ⟨.empty, draftedCampaigns, .empty⟩
    (.activateCampaignVersion registryEnv (activation firstTermsSignature)) =
      .ok ⟨.empty, activeCampaigns, .empty⟩ := by
  obtain ⟨_, hactivate⟩ := activateFirst_sample
  exact bind_eq_ok.mpr ⟨_, hactivate, rfl⟩

theorem apply_claim {campaigns : CampaignRegistry Whole} {claim : ReferralClaimV1}
    {claimHash : String} (h : SampleClaim claim claimHash) :
    Registries.apply registryRuntime ⟨.empty, campaigns, .empty⟩
      (.activateRoute registryEnv (some claim)) =
        .ok ⟨.empty, campaigns, activatedRoutes claim claimHash⟩ := by
  obtain ⟨_, hroute⟩ := activateRoute_sample h
  exact bind_eq_ok.mpr ⟨_, hroute, rfl⟩

theorem afterAll_sampleCalls :
    Registries.afterAll registryRuntime sampleCalls = sampleRegistries := by
  rw [Registries.afterAll, sampleCalls, List.foldl_cons,
    Registries.after_of_apply apply_campaignInput, List.foldl_cons,
    Registries.after_of_apply apply_activation, List.foldl_cons,
    Registries.after_of_apply (apply_claim firstClaim_sample)]
  rfl

/-- A sale under the first version of the terms. -/
def routeSale : Split402ReceiptV1 :=
  { freeSale with
    campaignTermsHash := "sha256:" ++ firstTermsHash
    referralClaimHash := some ("sha256:" ++ firstClaimHash)
    referrerWallet := some referrerWallet
    payoutWallet := some referrerWallet }

theorem reachable_sampleRegistries : (Registries.system registryRuntime).Reachable (fun _ _ => True)
    sampleRegistries := by
  rw [← afterAll_sampleCalls]
  exact Registries.reachable_of_calls sampleCalls

/-- Other terms are drafted. -/
theorem createCampaignVersion_sample {registry : CampaignRegistry Whole} {campaign : CampaignRecord}
    (hcampaign : registry.campaigns.find? campaignId = some campaign)
    (hopen : campaign.status ≠ .closed) (hversion : campaign.currentVersion = 1)
    (hmerchant : campaign.merchantId = campaignMerchantId)
    (hnew : ∀ version ∈ registry.versions, version.termsHash ≠ secondVersion.termsHash) :
    registry.createCampaignVersion registryRuntime registryEnv versionInput =
      .ok (secondVersion,
        { campaigns := registry.campaigns.upsert (campaign.drafted secondVersion registryNow)
          versions := registry.versions.upsert secondVersion }) := by
  have hbps : Registry.assertBasisPoints (.finite 500) "commissionBps" = .ok 500 := rfl
  have hrecord := @createCampaignVersionRecord_sample 2 _ hbps registryNow
  rw [digest_secondTerms] at hrecord
  have hid : campaign.id = campaignId := Table.key_of_find? hcampaign
  have hinput : versionInput.campaignId = campaignId := rfl
  unfold CampaignRegistry.createCampaignVersion
  rw [hinput, hcampaign, now_registryEnv]
  dsimp only
  rw [hversion, hmerchant, hid]
  refine bind_eq_ok.mpr ⟨(), throwIf_eq_ok.mpr hopen, bind_eq_ok.mpr ⟨_, hrecord,
    bind_eq_ok.mpr ⟨(), throwIf_eq_ok.mpr ?_, rfl⟩⟩⟩
  rw [Bool.not_eq_true, List.any_eq_false]
  intro version hmem
  rw [decide_eq_true_eq]
  exact hnew version (Table.mem_filter.mp hmem).1

end Sample

end Split402

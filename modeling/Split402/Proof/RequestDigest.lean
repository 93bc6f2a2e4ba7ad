import Mathlib
import Split402.Proof.ReceiptHash
import Split402.X402.Client
import Split402.X402.Server

/-! # The request digest of buyer and merchant

Both sides hash an operation object, and its canonical form determines each of its fields. So the
digests agree exactly when the buyer has put into the object what the merchant sees: the method, the
path, no path parameters, the query of the URL and the body that was sent. -/

namespace Split402

open Base Base.Utf16

variable {ν : Type}

/-! ## Objects with the same keys -/

section Objects

variable {numbers : JsNumbers ν} {p q : Bool} {fs gs : List (Text × JsValue ν)}

theorem definedFields_eq_self (h : ∀ field ∈ fs, field.2 ≠ .undefined) : definedFields fs = fs := by
  rw [definedFields, List.filter_eq_self]
  intro field hfield
  have hne := h field hfield
  cases hvalue : field.2 <;> simp_all

/-- Objects with the same keys, all there, are equal when their values are, key by key. -/
theorem jsonEq_object_iff (hkeys : fs.map Prod.fst = gs.map Prod.fst)
    (hnodup : (fs.map Prod.fst).Nodup) (hfs : ∀ field ∈ fs, field.2 ≠ .undefined)
    (hgs : ∀ field ∈ gs, field.2 ≠ .undefined) :
    JsonEq numbers (.object p fs) (.object q gs) ↔
      List.Forall₂ (fun f g => JsonEq numbers f.2 g.2) fs gs := by
  have hlen : fs.length = gs.length := by
    simpa using congrArg List.length hkeys
  have hkey : ∀ (i : Nat) (hf : i < fs.length) (hg : i < gs.length), fs[i].1 = gs[i].1 := by
    intro i hf hg
    have h : (fs.map Prod.fst)[i]? = (gs.map Prod.fst)[i]? := by rw [hkeys]
    rw [List.getElem?_map, List.getElem?_map, List.getElem?_eq_getElem hf,
      List.getElem?_eq_getElem hg] at h
    simpa using h
  constructor
  · intro h
    cases h with
    | object _ hvalues =>
        rw [definedFields_eq_self hfs, definedFields_eq_self hgs] at hvalues
        refine List.forall₂_iff_get.mpr ⟨hlen, ?_⟩
        intro i hf hg
        refine hvalues fs[i].1 _ _ (List.getElem_mem hf) ?_
        rw [hkey i hf hg]
        exact List.getElem_mem hg
  · intro h
    obtain ⟨-, hvalues⟩ := List.forall₂_iff_get.mp h
    refine .object ?_ ?_
    · intro key
      rw [definedFields_eq_self hfs, definedFields_eq_self hgs, hkeys]
    · intro key v w hv hw
      rw [definedFields_eq_self hfs] at hv
      rw [definedFields_eq_self hgs] at hw
      obtain ⟨i, hi, hvi⟩ := List.getElem_of_mem hv
      obtain ⟨j, hj, hwj⟩ := List.getElem_of_mem hw
      -- one key stands at one place
      have hij : i = j := by
        have hi' : i < (fs.map Prod.fst).length := by rwa [List.length_map]
        have hj' : j < (fs.map Prod.fst).length := by rw [List.length_map, hlen]; exact hj
        refine (@List.Nodup.getElem_inj_iff _ _ hnodup i hi' j hj').mp ?_
        rw [List.getElem_map, List.getElem_map, hkey j (hlen ▸ hj) hj, hvi, hwj]
      subst hij
      have heq := hvalues i hi hj
      rw [List.get_eq_getElem, List.get_eq_getElem, hvi, hwj] at heq
      exact heq

theorem jsonEq_string_iff {s t : Text} :
    JsonEq numbers (.string s) (.string t) ↔ s = t := by
  constructor
  · intro h
    cases h
    rfl
  · rintro rfl
    exact .string s

end Objects

/-! ## Operation objects -/

variable {toUpperCase : String → String} {a b : CalculateOperationDigestInput ν}

/-- The names of the fields of an operation object. -/
def operationNames : List String :=
  ["version", "merchantId", "operationId", "method", "pathTemplate", "pathParams", "query", "body",
    "paymentId", "offerNonce"]

/-- The parts of a request that are any JSON. -/
structure JsonParts (numbers : JsNumbers ν) (input : CalculateOperationDigestInput ν) : Prop where
  pathParams : IsJson numbers (input.pathParams.orElse (.object true []))
  query : IsJson numbers (input.query.orElse (.object true []))
  body : IsJson numbers (input.body.orElse .null)

theorem IsJson.ne_undefined {numbers : JsNumbers ν} {v : JsValue ν} (h : IsJson numbers v) :
    v ≠ .undefined := by
  rintro rfl
  cases h

theorem isJson_field {numbers : JsNumbers ν} (h : JsonParts numbers a) :
    ∀ field ∈ a.fields toUpperCase, IsJson numbers field.2 := by
  intro field hfield
  unfold CalculateOperationDigestInput.fields at hfield
  simp only [List.mem_cons, List.not_mem_nil, or_false] at hfield
  rcases hfield with rfl | rfl | rfl | rfl | rfl | rfl | rfl | rfl | rfl | rfl
  all_goals
    first
      | exact isJson_stringField _ _
      | exact h.pathParams
      | exact h.query
      | exact h.body

theorem keys_fields (toUpperCase : String → String) (input : CalculateOperationDigestInput ν) :
    (input.fields toUpperCase).map Prod.fst = operationNames.map ofString := rfl

theorem isJson_buildOperationObject {numbers : JsNumbers ν} (h : JsonParts numbers a) :
    IsJson numbers (buildOperationObject toUpperCase a) := by
  refine .object ?_ fun field hfield _ => isJson_field h field hfield
  rw [keys_fields]
  exact nodup_ofString (by decide)

/-- What an operation object says: two of them are equal when all of it is. -/
structure SameOperation (numbers : JsNumbers ν) (toUpperCase : String → String)
    (a b : CalculateOperationDigestInput ν) : Prop where
  merchantId : a.merchantId = b.merchantId
  operationId : a.operationId = b.operationId
  method : toUpperCase a.method = toUpperCase b.method
  pathTemplate : a.pathTemplate = b.pathTemplate
  pathParams : JsonEq numbers (a.pathParams.orElse (.object true []))
    (b.pathParams.orElse (.object true []))
  query : JsonEq numbers (a.query.orElse (.object true [])) (b.query.orElse (.object true []))
  body : JsonEq numbers (a.body.orElse .null) (b.body.orElse .null)
  paymentId : a.paymentId = b.paymentId
  offerNonce : a.offerNonce = b.offerNonce

theorem sameOperation_iff {numbers : JsNumbers ν} (ha : JsonParts numbers a)
    (hb : JsonParts numbers b) :
    JsonEq numbers (buildOperationObject toUpperCase a) (buildOperationObject toUpperCase b) ↔
      SameOperation numbers toUpperCase a b := by
  have hnodup : ((a.fields toUpperCase).map Prod.fst).Nodup := by
    rw [keys_fields]
    exact nodup_ofString (by decide)
  have hkeys : (a.fields toUpperCase).map Prod.fst = (b.fields toUpperCase).map Prod.fst := by
    rw [keys_fields, keys_fields]
  have hiff := @jsonEq_object_iff ν numbers true true _ _ hkeys hnodup
    (fun field hfield => (isJson_field ha field hfield).ne_undefined)
    (fun field hfield => (isJson_field hb field hfield).ne_undefined)
  refine Iff.trans hiff ?_
  have hstring : ∀ {s t : String},
      JsonEq numbers (.string (ofString s)) (.string (ofString t)) ↔ s = t :=
    jsonEq_string_iff.trans ⟨ofString_inj, congrArg ofString⟩
  simp only [CalculateOperationDigestInput.fields, stringField, List.forall₂_cons,
    List.forall₂_nil_left_iff, hstring, and_true, true_and]
  constructor
  · rintro ⟨h1, h2, h3, h4, h5, h6, h7, h8, h9⟩
    exact ⟨h1, h2, h3, h4, h5, h6, h7, h8, h9⟩
  · intro h
    exact ⟨h.merchantId, h.operationId, h.method, h.pathTemplate, h.pathParams, h.query, h.body,
      h.paymentId, h.offerNonce⟩

/-! ## Canonical bytes -/

/-- The bytes an operation digest is the hash of. -/
def operationBytes (numbers : JsNumbers ν) (toUpperCase : String → String)
    (input : CalculateOperationDigestInput ν) : ByteArray :=
  utf8Bytes ((buildOperationObject toUpperCase input).canon numbers).print

theorem operationBytes_eq_iff {numbers : JsNumbers ν} (hstd : numbers.Standard)
    (ha : JsonParts numbers a) (hb : JsonParts numbers b) :
    operationBytes numbers toUpperCase a = operationBytes numbers toUpperCase b ↔
      SameOperation numbers toUpperCase a b := by
  have hiff := canonicalizeToBytes_eq_iff hstd
    (@isJson_buildOperationObject _ toUpperCase _ _ ha)
    (@isJson_buildOperationObject _ toUpperCase _ _ hb)
  rw [canonicalizeToBytes_eq hstd (isJson_buildOperationObject ha),
    canonicalizeToBytes_eq hstd (isJson_buildOperationObject hb), Except.ok.injEq,
    sameOperation_iff ha hb] at hiff
  exact hiff

variable {runtime : X402Runtime ν}

theorem calculateOperationDigest_eq (hstd : runtime.toRuntime.Standard)
    (ha : JsonParts runtime.numbers a) :
    calculateOperationDigest runtime.toRuntime runtime.toUpperCase a =
      .ok ("sha256:" ++ runtime.sha256Hex (operationBytes runtime.numbers runtime.toUpperCase a)) := by
  rw [calculateOperationDigest, hashProtocolObject,
    canonicalizeToBytes_eq hstd.numbers (isJson_buildOperationObject ha)]
  rfl

/-- The hash tells two operations apart. -/
def OperationsTold (runtime : X402Runtime ν) (a b : CalculateOperationDigestInput ν) : Prop :=
  runtime.sha256Hex (operationBytes runtime.numbers runtime.toUpperCase a) =
      runtime.sha256Hex (operationBytes runtime.numbers runtime.toUpperCase b) →
    operationBytes runtime.numbers runtime.toUpperCase a =
      operationBytes runtime.numbers runtime.toUpperCase b

/-- **Operation digests agree exactly when the operations do.** -/
theorem calculateOperationDigest_eq_iff (hstd : runtime.toRuntime.Standard)
    (ha : JsonParts runtime.numbers a) (hb : JsonParts runtime.numbers b)
    (htold : OperationsTold runtime a b) :
    calculateOperationDigest runtime.toRuntime runtime.toUpperCase a =
        calculateOperationDigest runtime.toRuntime runtime.toUpperCase b ↔
      SameOperation runtime.numbers runtime.toUpperCase a b := by
  rw [← operationBytes_eq_iff hstd.numbers ha hb, calculateOperationDigest_eq hstd ha,
    calculateOperationDigest_eq hstd hb, Except.ok.injEq, String.append_right_inj]
  constructor
  · exact htold
  · intro h
    rw [h]

/-! ## Equality of JSON -/

section JsonEq

variable {numbers : JsNumbers ν} {u v w : JsValue ν}

theorem jsonEq_comm (hstd : numbers.Standard) (hu : IsJson numbers u) (hv : IsJson numbers v) :
    JsonEq numbers u v ↔ JsonEq numbers v u := by
  rw [← canon_eq_iff hstd hu hv, ← canon_eq_iff hstd hv hu]
  exact eq_comm

/-- Equal values are equal to the same. -/
theorem jsonEq_congr_right (hstd : numbers.Standard) (hu : IsJson numbers u)
    (hv : IsJson numbers v) (hw : IsJson numbers w) (h : JsonEq numbers v w) :
    JsonEq numbers u v ↔ JsonEq numbers u w := by
  rw [← canon_eq_iff hstd hu hv, ← canon_eq_iff hstd hu hw, (canon_eq_iff hstd hv hw).mpr h]

end JsonEq

/-! ## A paid request -/

/-- A request the agent SDK can send and sign: what it carries is JSON. -/
structure Sendable (numbers : JsNumbers ν) (input : PaidJsonRequestInput ν) : Prop where
  pathParams : IsJson numbers (input.pathParams.orElse (.object true []))
  query : IsJson numbers (input.query.orElse (.object true []))
  body : IsJson numbers (input.body.orElse .null)

/-- What a query of a URL is parsed to: a record of strings and of lists of strings. -/
def IsUrlQuery (query : JsValue ν) : Prop :=
  ∃ fields : List (Text × JsValue ν), query = .object true fields ∧ (fields.map Prod.fst).Nodup ∧
    ∀ field ∈ fields, (∃ s, field.2 = .string s) ∨ ∃ strings : List Text,
      field.2 = .array (strings.map .string)

theorem IsUrlQuery.isJson {numbers : JsNumbers ν} {query : JsValue ν} (h : IsUrlQuery query) :
    IsJson numbers query := by
  obtain ⟨fields, rfl, hnodup, hfields⟩ := h
  refine .object hnodup ?_
  intro field hfield _
  rcases hfields field hfield with ⟨s, hs⟩ | ⟨strings, hs⟩
  · rw [hs]
    exact .string s
  · rw [hs]
    refine .array ?_
    intro item hitem
    obtain ⟨s, -, rfl⟩ := List.mem_map.mp hitem
    exact .string s

/-- The server observes the request that was sent: the method, a query of the URL's strings, and the
body, parsed; where none was sent there is none. -/
structure Observes (numbers : JsNumbers ν) (input : PaidJsonRequestInput ν)
    (request : HttpRequest ν) : Prop where
  method : request.method = input.method.toString
  query : IsUrlQuery request.query
  bodyJson : IsJson numbers (request.body.orElse .null)
  body : JsonEq numbers (request.body.orElse .null) (input.sentBody.orElse .null)

/-- The payment the client makes of a request carries the digest the server computes for the request
it observes, and so the server does not find the digest wrong. -/
structure DigestsAgree (runtime : X402Runtime ν) (input : PaidJsonRequestInput ν) (randomHex : String)
    (paymentPayload : PaymentPayload) (paymentRequired : PaymentRequired) (request : HttpRequest ν) :
    Prop where
  agree : ∃ paid info offer paymentId digest,
    enrichPaymentPayload runtime (split402ExtensionOptions input) randomHex paymentPayload
      paymentRequired = .ok paid ∧ paid.extension = some info ∧ info.offer = some offer ∧
    info.paymentId = some paymentId ∧ info.requestDigest = some digest ∧
    ∀ requirements, calculateServerRequestDigest runtime ⟨paid, requirements, some request⟩ offer
      paymentId = .ok (some digest) ∧
      validateRequestDigest runtime ⟨paid, requirements, some request⟩ offer info = .ok []

/-- What the buyer has put into the digest is what the merchant sees of the request. -/
structure SeenAlike (runtime : X402Runtime ν) (input : PaidJsonRequestInput ν)
    (paymentPayload : PaymentPayload) (request : HttpRequest ν) : Prop where
  method : runtime.toUpperCase (paymentPayload.resourceMethod.getD "POST") = input.method.toString
  pathTemplate : input.pathTemplate.getD input.path = request.routePattern.getD request.path
  pathParams : JsonEq runtime.numbers (input.pathParams.orElse (.object true [])) (.object true [])
  query : JsonEq runtime.numbers (input.query.orElse (.object true [])) request.query
  body : JsonEq runtime.numbers (input.body.orElse .null) (input.sentBody.orElse .null)

theorem IsUrlQuery.orElse {query : JsValue ν} (h : IsUrlQuery query) (otherwise : JsValue ν) :
    query.orElse otherwise = query := by
  obtain ⟨fields, rfl, -⟩ := h
  rfl

section Paid

variable {input : PaidJsonRequestInput ν} {randomHex : String} {paymentPayload : PaymentPayload}
  {paymentRequired : PaymentRequired} {request : HttpRequest ν} {offer : Split402OfferV1}

/-- The digest inputs of the two sides. -/
abbrev buyerInput (runtime : X402Runtime ν) (input : PaidJsonRequestInput ν) (randomHex : String)
    (paymentPayload : PaymentPayload) (paymentRequired : PaymentRequired) (offer : Split402OfferV1) :
    CalculateOperationDigestInput ν :=
  clientDigestInput runtime (split402ExtensionOptions input) paymentPayload paymentRequired offer
    (input.paymentId.getD ("pay_" ++ randomHex))

abbrev merchantInput (input : PaidJsonRequestInput ν) (randomHex : String) (request : HttpRequest ν)
    (offer : Split402OfferV1) : CalculateOperationDigestInput ν :=
  serverDigestInput request offer (input.paymentId.getD ("pay_" ++ randomHex))

theorem Sendable.jsonParts (h : Sendable runtime.numbers input) :
    JsonParts runtime.numbers
      (buyerInput runtime input randomHex paymentPayload paymentRequired offer) :=
  ⟨h.pathParams, h.query, h.body⟩

theorem Observes.jsonParts (h : Observes runtime.numbers input request) :
    JsonParts runtime.numbers (merchantInput input randomHex request offer) := by
  refine ⟨?_, ?_, h.bodyJson⟩
  · exact .object List.nodup_nil nofun
  · show IsJson runtime.numbers (request.query.orElse _)
    rw [h.query.orElse]
    exact h.query.isJson

/-- The payment a client makes of an offer. -/
def paidWith (input : PaidJsonRequestInput ν) (randomHex : String) (paymentPayload : PaymentPayload)
    (offer : Split402OfferV1) (digest : String) : PaymentPayload :=
  { paymentPayload with
    extension := some
      { offer := some offer
        paymentId := some (input.paymentId.getD ("pay_" ++ randomHex))
        requestDigest := some digest
        referralClaim := input.referralClaim.map some } }

theorem enrichPaymentPayload_eq
    (hrequired : paymentRequired.extension = some (some offer))
    (hoffer : split402OfferV1Schema runtime.zod offer = true) {digest : String}
    (hdigest : calculateOperationDigest runtime.toRuntime runtime.toUpperCase
      (buyerInput runtime input randomHex paymentPayload paymentRequired offer) = .ok digest) :
    enrichPaymentPayload runtime (split402ExtensionOptions input) randomHex paymentPayload
      paymentRequired = .ok (paidWith input randomHex paymentPayload offer digest) := by
  have hparse : parseAdvertisedOffer runtime (some offer) = .ok offer := by
    rw [parseAdvertisedOffer, Option.filter_some, if_pos hoffer]
    rfl
  have hdigest' : calculateOperationDigest runtime.toRuntime runtime.toUpperCase
      (clientDigestInput runtime (split402ExtensionOptions input) paymentPayload paymentRequired
        offer ((split402ExtensionOptions input).paymentId.getD ("pay_" ++ randomHex))) =
      .ok digest := hdigest
  unfold enrichPaymentPayload
  rw [hrequired]
  simp only [asRecord, bind, Except.bind, pure, Except.pure, hparse, hdigest']
  rfl

/-- The operations of the two sides are one exactly when the request is seen alike. -/
theorem sameOperation_iff_seenAlike (hstd : runtime.toRuntime.Standard)
    (hupper : ∀ method : Split402HttpMethod,
      runtime.toUpperCase method.toString = method.toString)
    (hsend : Sendable runtime.numbers input) (hobserves : Observes runtime.numbers input request) :
    SameOperation runtime.numbers runtime.toUpperCase
        (buyerInput runtime input randomHex paymentPayload paymentRequired offer)
        (merchantInput input randomHex request offer) ↔
      SeenAlike runtime input paymentPayload request := by
  have hsent : IsJson runtime.numbers (input.sentBody.orElse .null) := by
    unfold PaidJsonRequestInput.sentBody
    cases input.method with
    | GET => exact .null
    | POST => exact hsend.body
  have hmethod : runtime.toUpperCase request.method = input.method.toString := by
    rw [hobserves.method, hupper]
  have hbody := jsonEq_congr_right hstd.numbers hsend.body hobserves.bodyJson hsent hobserves.body
  constructor
  · intro h
    refine ⟨?_, h.pathTemplate, h.pathParams, ?_, hbody.mp h.body⟩
    · rw [← hmethod]
      exact h.method
    · rw [← hobserves.query.orElse (.object true [])]
      exact h.query
  · intro h
    refine ⟨rfl, rfl, ?_, h.pathTemplate, h.pathParams, ?_, hbody.mpr h.body, rfl, rfl⟩
    · show runtime.toUpperCase (paymentPayload.resourceMethod.getD "POST") =
        runtime.toUpperCase request.method
      rw [hmethod]
      exact h.method
    · show JsonEq runtime.numbers _ (request.query.orElse _)
      rw [hobserves.query.orElse]
      exact h.query

/-- The payment carries the digest of the buyer's operation, the server that of its own. -/
theorem digestsAgree_iff_eq (hstd : runtime.toRuntime.Standard)
    (hrequired : paymentRequired.extension = some (some offer))
    (hoffer : split402OfferV1Schema runtime.zod offer = true)
    (hsend : Sendable runtime.numbers input) :
    DigestsAgree runtime input randomHex paymentPayload paymentRequired request ↔
      calculateOperationDigest runtime.toRuntime runtime.toUpperCase
          (buyerInput runtime input randomHex paymentPayload paymentRequired offer) =
        calculateOperationDigest runtime.toRuntime runtime.toUpperCase
          (merchantInput input randomHex request offer) := by
  have hparts := @Sendable.jsonParts _ _ _ randomHex paymentPayload paymentRequired offer hsend
  have hbuyer := calculateOperationDigest_eq hstd hparts
  have hpaid := enrichPaymentPayload_eq hrequired hoffer hbuyer
  generalize "sha256:" ++ runtime.sha256Hex (operationBytes runtime.numbers runtime.toUpperCase
    (buyerInput runtime input randomHex paymentPayload paymentRequired offer)) = digest
    at hbuyer hpaid
  constructor
  · rintro ⟨paid, info, offer', paymentId, digest', henrich, hinfo, hoffer', hid, hdigest, hserver⟩
    rw [hpaid, Except.ok.injEq] at henrich
    subst henrich
    obtain rfl := Option.some.inj hinfo
    obtain rfl := Option.some.inj hoffer'
    obtain rfl := Option.some.inj hid
    obtain rfl := Option.some.inj hdigest
    have hcalculated := (hserver ⟨"", "", "", ""⟩).1
    unfold calculateServerRequestDigest at hcalculated
    obtain ⟨d, hd, hsome⟩ := map_eq_ok.mp hcalculated
    rw [hbuyer, ← Option.some.inj hsome]
    exact hd.symm
  · intro hequal
    rw [hbuyer] at hequal
    refine ⟨_, _, _, _, _, hpaid, rfl, rfl, rfl, rfl, ?_⟩
    intro requirements
    have hserver : calculateServerRequestDigest runtime
        ⟨paidWith input randomHex paymentPayload offer digest, requirements, some request⟩ offer
        (input.paymentId.getD ("pay_" ++ randomHex)) = .ok (some digest) :=
      map_eq_ok.mpr ⟨_, hequal.symm, rfl⟩
    refine ⟨hserver, ?_⟩
    unfold validateRequestDigest
    dsimp only
    rw [hserver]
    simp [bind, Except.bind, pure, Except.pure]

/-- **Buyer and merchant compute one digest exactly when the merchant sees what the buyer signed**:
the method the buyer infers, the path, no path parameters, a query of strings, and a body that is
sent. -/
theorem digests_agree_iff (hstd : runtime.toRuntime.Standard)
    (hupper : ∀ method : Split402HttpMethod, runtime.toUpperCase method.toString = method.toString)
    (hrequired : paymentRequired.extension = some (some offer))
    (hoffer : split402OfferV1Schema runtime.zod offer = true)
    (hsend : Sendable runtime.numbers input) (hobserves : Observes runtime.numbers input request)
    (htold : OperationsTold runtime
      (buyerInput runtime input randomHex paymentPayload paymentRequired offer)
      (merchantInput input randomHex request offer)) :
    DigestsAgree runtime input randomHex paymentPayload paymentRequired request ↔
      SeenAlike runtime input paymentPayload request := by
  rw [← sameOperation_iff_seenAlike hstd hupper hsend hobserves,
    ← calculateOperationDigest_eq_iff hstd hsend.jsonParts hobserves.jsonParts htold]
  exact digestsAgree_iff_eq hstd hrequired hoffer hsend

/-- A number in the query of the buyer is a string on the URL. -/
theorem not_seenAlike_of_number (hobserves : Observes runtime.numbers input request) {plain : Bool}
    {fields : List (Text × JsValue ν)} (hquery : input.query = .object plain fields) {key : Text}
    {n : ν} (hnumber : (key, .number n) ∈ fields) :
    ¬ SeenAlike runtime input paymentPayload request := by
  intro h
  obtain ⟨observed, hobserved, -, hvalues⟩ := hobserves.query
  have heq := h.query
  rw [hquery, hobserved] at heq
  cases heq with
  | object hkeys hsame =>
      have hdefined : (key, JsValue.number n) ∈ definedFields fields :=
        mem_definedFields.mpr ⟨hnumber, nofun⟩
      obtain ⟨⟨_, w⟩, hw, rfl⟩ := List.mem_map.mp ((hkeys key).mp (List.mem_map_of_mem hdefined))
      have hvalue := hsame _ _ _ hdefined hw
      rcases hvalues _ (mem_definedFields.mp hw).1 with ⟨s, hs⟩ | ⟨strings, hs⟩
      · change w = .string s at hs
        rw [hs] at hvalue
        cases hvalue
      · change w = .array _ at hs
        rw [hs] at hvalue
        cases hvalue

end Paid

/-! ## A quote -/

namespace Sample

/-- The offer of the merchant's quote. -/
def offer : Split402OfferV1 where
  campaignId := "cmp_00000000000000000000000000000001"
  campaignVersion := 1
  campaignTermsHash := "sha256:bbbbbbbbbbbbbbbbbbbbbbbbbbbbbbbbbbbbbbbbbbbbbbbbbbbbbbbbbbbbbbbb"
  merchantId := "mrc_00000000000000000000000000000001"
  resourceOrigin := "https://merchant.example"
  operationId := "quote"
  network := "solana:devnet"
  asset := wallet
  requiredAmountAtomic := "100"
  payToWallet := wallet
  commissionBps := 1000
  protocolFeeBpsOfCommission := 0
  attributionRequired := true
  allowSelfReferral := false
  offerNonce := "ofn_00000000000000000000000000000001"
  issuedAt := "2026-01-01T00:00:00Z"
  validUntil := "2026-01-01T00:01:30Z"
  kid := "key"
  signature := "AA"

def quotePath : String := "/v1/quote"

/-- The quote, without parameters, a query or a body. -/
def quoteInput (method : Split402HttpMethod) : PaidJsonRequestInput Whole where
  method := method
  path := quotePath
  body := .undefined
  referralClaim := none
  pathTemplate := none
  pathParams := .undefined
  query := .undefined
  paymentId := some "pay_00000000000000000000000000000001"

def quoteRequest (method : Split402HttpMethod) : HttpRequest Whole where
  method := method.toString
  path := quotePath
  routePattern := some quotePath
  query := .object true []
  body := .undefined

/-- The resource of the payment names no method. -/
def quotePayload : PaymentPayload := ⟨"payment", none, none⟩

def quoteRequired : PaymentRequired := ⟨none, some (some offer)⟩

/-- Upper case of ASCII. -/
def upper (value : String) : String := String.ofList (value.toList.map Char.toUpper)

/-- The operation of the quote with a method. -/
def quoteOperation (method : Split402HttpMethod) : CalculateOperationDigestInput Whole :=
  merchantInput (quoteInput method) "" (quoteRequest method) offer

/-- The digests of the quote by POST and by GET. -/
def quoteDigest (bytes : ByteArray) : String :=
  if bytes = operationBytes wholeNumbers upper (quoteOperation .POST) then
    "e44b0659ac7b9ae07dac6e513d1d39e17ed4ad7b1a9248ef42999e6663884d1f"
  else "2332487fc4e72b04393c862545d0132e7e55859220437b765bb3e1e9fd78add4"

/-- An engine that knows these digests. -/
def quoteRuntime : X402Runtime Whole where
  numbers := wholeNumbers
  ofNat := .nat
  sha256Hex := quoteDigest
  nodeVerify _ _ _ := true
  host := isoHost
  zod := zod
  toUpperCase := upper
  urlPathname _ := none
  nodeSign _ _ := []
  offerIssues _ := []
  claimIssues _ := []

theorem quoteRuntime_standard : quoteRuntime.toRuntime.Standard :=
  ⟨wholeNumbers_standard, fun _ => rfl⟩

theorem quoteRuntime_upper (method : Split402HttpMethod) :
    quoteRuntime.toUpperCase method.toString = method.toString := by
  cases method with
  | GET => decide
  | POST => decide

/-- The offer passes the schema with other terms, for another operation and whoever has signed it. -/
theorem offer_schema_of {termsHash operationId signature : String} {attributionRequired : Bool}
    (hterms : sha256Regex termsHash = true) (hoperation : (operationId != "") = true)
    (hsignature : base64UrlRegex signature = true) :
    split402OfferV1Schema zod { offer with
      campaignTermsHash := termsHash
      operationId := operationId
      attributionRequired := attributionRequired
      signature := signature } = true := by
  have hcampaign : isSplit402Id "cmp_00000000000000000000000000000001" = true :=
    isSplit402Id_ofList (by decide)
  have hmerchant : isSplit402Id "mrc_00000000000000000000000000000001" = true :=
    isSplit402Id_ofList (by decide)
  have hnonce : isSplit402Id "ofn_00000000000000000000000000000001" = true :=
    isSplit402Id_ofList (by decide)
  have hissued : rfc3339UtcSchema zod "2026-01-01T00:00:00Z" = true :=
    rfc3339UtcSchema_ofList rfl (by decide)
  have hends : rfc3339UtcSchema zod "2026-01-01T00:01:30Z" = true :=
    rfc3339UtcSchema_ofList rfl (by decide)
  have hhundred : decimalAmountRegex "100" = true := by decide
  simp only [split402OfferV1Schema, offer, paymentIdentifierSchema, wallet_regex, hcampaign, hmerchant,
    hnonce, hissued, hends, hhundred, hterms, hoperation, hsignature, Bool.true_or]
  rfl

theorem offer_terms : sha256Regex offer.campaignTermsHash = true := sha256Regex_ofList (by decide)

theorem offer_schema : split402OfferV1Schema zod offer = true :=
  offer_schema_of offer_terms (by decide) (base64UrlRegex_ofList (by decide))

theorem quote_sendable (method : Split402HttpMethod) :
    Sendable quoteRuntime.numbers (quoteInput method) :=
  ⟨.object List.nodup_nil nofun, .object List.nodup_nil nofun, .null⟩

theorem quote_observes (method : Split402HttpMethod) :
    Observes quoteRuntime.numbers (quoteInput method) (quoteRequest method) := by
  refine ⟨rfl, ⟨[], rfl, List.nodup_nil, nofun⟩, .null, ?_⟩
  cases method with
  | GET => exact .null
  | POST => exact .null

theorem quote_parts (method : Split402HttpMethod) :
    JsonParts wholeNumbers (quoteOperation method) :=
  (quote_observes method).jsonParts

theorem quote_digest (method : Split402HttpMethod) :
    calculateOperationDigest quoteRuntime.toRuntime upper (quoteOperation method) =
      .ok ("sha256:" ++ quoteDigest (operationBytes wholeNumbers upper (quoteOperation method))) := by
  have hdigest := @calculateOperationDigest_eq _ _ quoteRuntime quoteRuntime_standard
    (quote_parts method)
  have hsha : quoteRuntime.sha256Hex = quoteDigest := rfl
  have hnumbers : quoteRuntime.numbers = wholeNumbers := rfl
  have hupper : quoteRuntime.toUpperCase = upper := rfl
  rw [hsha, hnumbers, hupper] at hdigest
  exact hdigest

end Sample

theorem digests_agree_iff_post :
    DigestsAgree Sample.quoteRuntime (Sample.quoteInput .POST) "" Sample.quotePayload
        Sample.quoteRequired (Sample.quoteRequest .POST) ↔
      SeenAlike Sample.quoteRuntime (Sample.quoteInput .POST) Sample.quotePayload
        (Sample.quoteRequest .POST) :=
  digests_agree_iff Sample.quoteRuntime_standard Sample.quoteRuntime_upper rfl Sample.offer_schema
    (Sample.quote_sendable .POST) (Sample.quote_observes .POST) (fun _ => rfl)

/-- A quote by GET is signed as one by POST, for the resource names no method. -/
theorem not_digests_agree_get :
    ¬ ∀ (input : PaidJsonRequestInput Whole) (randomHex : String) (paymentPayload : PaymentPayload)
      (paymentRequired : PaymentRequired) (request : HttpRequest Whole) (offer : Split402OfferV1),
      paymentRequired.extension = some (some offer) →
      split402OfferV1Schema Sample.quoteRuntime.zod offer = true →
      Sendable Sample.quoteRuntime.numbers input →
      Observes Sample.quoteRuntime.numbers input request →
      DigestsAgree Sample.quoteRuntime input randomHex paymentPayload paymentRequired request := by
  intro h
  have hagree := h (Sample.quoteInput .GET) "" Sample.quotePayload Sample.quoteRequired
    (Sample.quoteRequest .GET) Sample.offer rfl Sample.offer_schema (Sample.quote_sendable .GET)
    (Sample.quote_observes .GET)
  rw [digestsAgree_iff_eq Sample.quoteRuntime_standard rfl Sample.offer_schema
    (Sample.quote_sendable .GET)] at hagree
  have hbuyer : calculateOperationDigest Sample.quoteRuntime.toRuntime Sample.upper
      (Sample.quoteOperation .POST) = calculateOperationDigest Sample.quoteRuntime.toRuntime
      Sample.upper (Sample.quoteOperation .GET) := hagree
  have hdiffer : operationBytes wholeNumbers Sample.upper (Sample.quoteOperation .GET) ≠
      operationBytes wholeNumbers Sample.upper (Sample.quoteOperation .POST) := by
    intro hbytes
    have hmethod := ((operationBytes_eq_iff wholeNumbers_standard (Sample.quote_parts .GET)
      (Sample.quote_parts .POST)).mp hbytes).method
    exact absurd hmethod (by decide)
  rw [Sample.quote_digest, Sample.quote_digest, Except.ok.injEq] at hbuyer
  rw [String.append_right_inj, Sample.quoteDigest, Sample.quoteDigest, if_pos rfl,
    if_neg hdiffer] at hbuyer
  exact absurd hbuyer (by decide +kernel)

end Split402

import Split402.Base.Except
import Split402.Proof.CanonicalForm
import Split402.Proof.Formats
import Split402.Protocol.Verification

/-! # What a receipt's hash determines

A receipt is JSON, so it has canonical bytes, and these determine each of its fields. The bytes that
are signed do not contain the signature. -/

namespace Split402

open Base Base.Utf16

variable {ν : Type}

/-- The engine prints numbers as ECMAScript does, and whole numbers are finite. -/
structure Runtime.Standard (runtime : Runtime ν) : Prop where
  numbers : runtime.numbers.Standard
  finite : ∀ n, runtime.numbers.isFinite (runtime.ofNat n) = true

/-! ## The receipt is JSON -/

/-- The names of a receipt's fields without the signature. -/
def unsignedNames : List String :=
  ["protocolVersion", "receiptId", "merchantId", "merchantOrigin", "operationId", "requestDigest",
    "campaignId", "campaignVersion", "campaignTermsHash", "routeId", "referralClaimHash",
    "referrerWallet", "payoutWallet", "paymentId", "network", "asset", "payerWallet", "payToWallet",
    "requiredAmountAtomic", "settledAmountAtomic", "settlementTxSignature", "commissionBps",
    "protocolFeeBpsOfCommission", "commissionBaseAtomic", "commissionAmountAtomic",
    "protocolFeeAtomic", "referrerCreditAtomic", "settlementMode", "offerNonce", "settledAt",
    "issuedAt", "recordingStatus", "eventId", "kid"]

theorem keys_unsignedFields (ofNat : Nat → ν) (receipt : Split402ReceiptV1) :
    (receipt.unsignedFields ofNat).map Prod.fst = unsignedNames.map ofString := rfl

theorem nodup_ofString {names : List String} (h : names.Nodup) : (names.map ofString).Nodup :=
  h.map fun _ _ => ofString_inj

theorem nodup_keys (ofNat : Nat → ν) (receipt : Split402ReceiptV1) :
    ((receipt.unsignedFields ofNat ++ [stringField "signature" receipt.signature]).map
      Prod.fst).Nodup := by
  rw [List.map_append, keys_unsignedFields]
  have hnames : (unsignedNames ++ ["signature"]).Nodup := by decide
  have hkeys := nodup_ofString hnames
  rw [List.map_append] at hkeys
  exact hkeys

theorem isJson_stringField {numbers : JsNumbers ν} (name value : String) :
    IsJson numbers (stringField name value : Text × JsValue ν).2 := .string _

theorem isJson_optionalField {numbers : JsNumbers ν} (name : String) (value : Option String)
    (h : (optionalField name value : Text × JsValue ν).2 ≠ .undefined) :
    IsJson numbers (optionalField name value : Text × JsValue ν).2 := by
  cases value with
  | none => exact absurd rfl h
  | some value => exact .string _

variable {runtime : Runtime ν}

theorem isJson_unsignedField (hstd : runtime.Standard) {receipt : Split402ReceiptV1}
    {field : Text × JsValue ν} (hfield : field ∈ receipt.unsignedFields runtime.ofNat)
    (h : field.2 ≠ .undefined) : IsJson runtime.numbers field.2 := by
  unfold Split402ReceiptV1.unsignedFields at hfield
  simp only [List.mem_cons, List.not_mem_nil, or_false] at hfield
  rcases hfield with rfl | rfl | rfl | rfl | rfl | rfl | rfl | rfl | rfl | rfl | rfl | rfl | rfl |
    rfl | rfl | rfl | rfl | rfl | rfl | rfl | rfl | rfl | rfl | rfl | rfl | rfl | rfl | rfl | rfl |
    rfl | rfl | rfl | rfl | rfl <;>
    first
      | exact isJson_stringField _ _
      | exact .number (hstd.finite _)
      | exact isJson_optionalField _ _ h

theorem isJson_toJson (hstd : runtime.Standard) (receipt : Split402ReceiptV1) :
    IsJson runtime.numbers (receipt.toJson runtime.ofNat) := by
  refine .object (nodup_keys _ _) ?_
  intro field hfield h
  rcases List.mem_append.mp hfield with hfield | hfield
  · exact isJson_unsignedField hstd hfield h
  · rw [List.mem_singleton.mp hfield]
    exact isJson_stringField _ _

/-- The canonical bytes of a receipt. -/
def receiptBytes (runtime : Runtime ν) (receipt : Split402ReceiptV1) : ByteArray :=
  utf8Bytes ((receipt.toJson runtime.ofNat).canon runtime.numbers).print

theorem hashReceipt_eq (hstd : runtime.Standard) (receipt : Split402ReceiptV1) :
    hashReceipt runtime receipt = .ok ("sha256:" ++ runtime.sha256Hex (receiptBytes runtime receipt)) := by
  rw [hashReceipt, hashProtocolObject,
    canonicalizeToBytes_eq hstd.numbers (isJson_toJson hstd receipt)]
  rfl

/-! ## Fields -/

/-- Equal objects have equal strings under one key. -/
theorem string_eq_of_jsonEq {numbers : JsNumbers ν} {p q : Bool} {fs gs : List (Text × JsValue ν)}
    (h : JsonEq numbers (.object p fs) (.object q gs)) {name s t : String}
    (hs : stringField name s ∈ fs) (ht : stringField name t ∈ gs) : s = t := by
  cases h with
  | object _ hvalues =>
      have hvalue := hvalues (ofString name) (.string (ofString s)) (.string (ofString t))
        (mem_definedFields.mpr ⟨hs, nofun⟩) (mem_definedFields.mpr ⟨ht, nofun⟩)
      generalize hu : ofString s = u at hvalue
      generalize hw : ofString t = w at hvalue
      cases hvalue
      exact ofString_inj (hu.trans hw.symm)

theorem jsonEq_of_bytes_eq (hstd : runtime.Standard) {r s : Split402ReceiptV1}
    (h : receiptBytes runtime r = receiptBytes runtime s) :
    JsonEq runtime.numbers (r.toJson runtime.ofNat) (s.toJson runtime.ofNat) := by
  have hr := isJson_toJson hstd r
  have hs := isJson_toJson hstd s
  rw [← canonicalizeToBytes_eq_iff hstd.numbers hr hs, canonicalizeToBytes_eq hstd.numbers hr,
    canonicalizeToBytes_eq hstd.numbers hs]
  exact congrArg Except.ok h

theorem mem_toJson_of_mem {ofNat : Nat → ν} {receipt : Split402ReceiptV1}
    {field : Text × JsValue ν} (h : field ∈ receipt.unsignedFields ofNat) :
    field ∈ receipt.unsignedFields ofNat ++ [stringField "signature" receipt.signature] :=
  List.mem_append_left _ h

/-- **Receipts with one canonical form have the same keys and the same signature.** -/
theorem keys_eq_of_bytes_eq (hstd : runtime.Standard) {r s : Split402ReceiptV1}
    (h : receiptBytes runtime r = receiptBytes runtime s) :
    r.receiptId = s.receiptId ∧ r.paymentId = s.paymentId ∧
      r.settlementTxSignature = s.settlementTxSignature ∧ r.signature = s.signature := by
  have heq := jsonEq_of_bytes_eq hstd h
  have hfield : ∀ {name a b : String}, stringField name a ∈ r.unsignedFields runtime.ofNat →
      stringField name b ∈ s.unsignedFields runtime.ofNat → a = b := by
    intro name a b ha hb
    exact string_eq_of_jsonEq heq (mem_toJson_of_mem ha) (mem_toJson_of_mem hb)
  refine ⟨@hfield "receiptId" _ _ ?_ ?_, @hfield "paymentId" _ _ ?_ ?_,
    @hfield "settlementTxSignature" _ _ ?_ ?_,
    @string_eq_of_jsonEq _ _ _ _ _ _ heq "signature" _ _ List.mem_concat_self
      List.mem_concat_self⟩ <;>
    simp [Split402ReceiptV1.unsignedFields]

/-! ## Signing bytes -/

/-- Without its signature an object is its other fields. -/
theorem omitKeys_append_signature {fields : List (Text × JsValue ν)} {names : List String}
    (hkeys : fields.map Prod.fst = names.map ofString) (hnames : "signature" ∉ names)
    (value : JsValue ν) :
    omitKeys ["signature"] (.object true (fields ++ [(ofString "signature", value)])) =
      .object true fields := by
  have hkept : fields.filter (fun field => field.1 ∉ ["signature"].map ofString) = fields := by
    rw [List.filter_eq_self]
    intro field hfield
    have hkey : field.1 ∈ names.map ofString := by
      rw [← hkeys]
      exact List.mem_map_of_mem hfield
    obtain ⟨name, hname, hname'⟩ := List.mem_map.mp hkey
    rw [decide_eq_true_eq, List.map_singleton, List.mem_singleton, ← hname']
    intro hsignature
    rw [ofString_inj hsignature] at hname
    exact hnames hname
  have hdropped : [(ofString "signature", value)].filter
      (fun field => field.1 ∉ ["signature"].map ofString) = [] := by
    rw [List.filter_eq_nil_iff]
    intro field hfield
    rw [List.mem_singleton.mp hfield]
    simp
  rw [omitKeys, List.filter_append, hkept, hdropped, List.append_nil]

theorem omitKeys_signature (ofNat : Nat → ν) (receipt : Split402ReceiptV1) :
    omitKeys ["signature"] (receipt.toJson ofNat) =
      .object true (receipt.unsignedFields ofNat) :=
  omitKeys_append_signature (keys_unsignedFields ofNat receipt) (by decide) _

/-- The signed bytes do not depend on the signature. -/
theorem buildReceiptSigningBytes_eq (hstd : runtime.Standard) (receipt : Split402ReceiptV1) :
    ∃ message, ∀ signature, buildReceiptSigningBytes runtime { receipt with signature := signature } =
      .ok message := by
  refine ⟨utf8Bytes (ofString "split402:receipt:v1" ++ 0x0A ::
    ((JsValue.object true (receipt.unsignedFields runtime.ofNat)).canon runtime.numbers).print), ?_⟩
  intro signature
  have hjson : IsJson runtime.numbers (.object true (receipt.unsignedFields runtime.ofNat)) := by
    refine .object ?_ fun field hfield h => isJson_unsignedField hstd hfield h
    rw [keys_unsignedFields]
    exact nodup_ofString (by decide)
  rw [buildReceiptSigningBytes, omitKeys_signature]
  exact buildDomainSeparatedSigningBytes_eq hstd.numbers hjson _

/-! ## Signatures -/

theorem assertByteLength_eq_ok {bytes : List UInt8} {n : Nat} {label : String}
    (h : assertByteLength bytes n label = .ok ()) : bytes.length = n := by
  unfold assertByteLength at h
  split at h
  · cases h
  · rename_i hn
    exact of_not_not hn

theorem signed_of_safeVerify {message : ByteArray} {publicKey signature : String}
    (h : safeVerify runtime message publicKey signature = true) :
    ∃ key bytes, base58Decode publicKey = .ok key ∧ base64UrlDecode signature = .ok bytes ∧
      bytes.length = 64 ∧ runtime.nodeVerify key message bytes = true := by
  unfold safeVerify at h
  split at h
  · rename_i verified hverified
    subst h
    unfold verifyEd25519Signature at hverified
    obtain ⟨key, hkey, hverified⟩ := bind_eq_ok.mp hverified
    obtain ⟨bytes, hbytes, hverified⟩ := bind_eq_ok.mp hverified
    obtain ⟨_, _, hverified⟩ := bind_eq_ok.mp hverified
    obtain ⟨_, hlen, hverified⟩ := bind_eq_ok.mp hverified
    rw [pure_eq_ok] at hverified
    exact ⟨key, bytes, hkey, hbytes, assertByteLength_eq_ok hlen, hverified⟩
  · cases h

theorem safeVerify_of_decodes {message : ByteArray}
    {publicKey signature : String} {key bytes : List UInt8}
    (hkey : base58Decode publicKey = .ok key ∧ key.length = 32)
    (hsignature : base64UrlDecode signature = .ok bytes ∧ bytes.length = 64)
    (hverify : runtime.nodeVerify key message bytes = true) :
    safeVerify runtime message publicKey signature = true := by
  rw [safeVerify, verifyEd25519Signature, hkey.1, hsignature.1]
  simp only [bind, Except.bind, assertByteLength, hkey.2, hsignature.2, pure, Except.pure, hverify,
    ne_eq, not_true_eq_false, if_false]

/-! ## A signed sale -/

namespace Sample

def wallet : String := "cGfHiC6Kgg3FpFZvgwGcswsCRtp4aBP2fzuXRQPizuN"

def merchantPublicKey : String := "GmaDrppBC7P5ARKV8g3djiwP89vz1jLK23V2GBjuAEGB"

/-- A sale of 100 units at ten percent, of which the protocol takes a share. -/
def sale (feeBps : Nat) (protocolFee referrerCredit signature : String) : Split402ReceiptV1 where
  receiptId := "rct_00000000000000000000000000000001"
  merchantId := "mrc_00000000000000000000000000000001"
  merchantOrigin := "https://merchant.example"
  operationId := "GET /v1/quote"
  requestDigest := "sha256:aaaaaaaaaaaaaaaaaaaaaaaaaaaaaaaaaaaaaaaaaaaaaaaaaaaaaaaaaaaaaaaa"
  campaignId := "cmp_00000000000000000000000000000001"
  campaignVersion := 1
  campaignTermsHash := "sha256:bbbbbbbbbbbbbbbbbbbbbbbbbbbbbbbbbbbbbbbbbbbbbbbbbbbbbbbbbbbbbbbb"
  routeId := some "rte_00000000000000000000000000000001"
  referralClaimHash :=
    some "sha256:cccccccccccccccccccccccccccccccccccccccccccccccccccccccccccccccc"
  referrerWallet := some wallet
  payoutWallet := some wallet
  paymentId := "pay_00000000000000000000000000000001"
  network := "solana:devnet"
  asset := wallet
  payerWallet := wallet
  payToWallet := wallet
  requiredAmountAtomic := "100"
  settledAmountAtomic := none
  settlementTxSignature := "settlement_00000000000000000000000000000001"
  commissionBps := 1000
  protocolFeeBpsOfCommission := feeBps
  commissionBaseAtomic := "100"
  commissionAmountAtomic := "10"
  protocolFeeAtomic := protocolFee
  referrerCreditAtomic := referrerCredit
  offerNonce := "ofn_00000000000000000000000000000001"
  settledAt := "2026-01-01T00:00:00Z"
  issuedAt := "2026-01-01T00:00:00Z"
  recordingAccepted := true
  eventId := none
  kid := "key"
  signature := signature

/-- The sale without a protocol fee, signed by the merchant. -/
def freeSale : Split402ReceiptV1 := sale 0 "0" "10"
  "TtUyu9ZyI0251ljd5pgH96PXa6DfbZHDwngOaDEy_0UjcnSWb6pA93ziNBGd8p2g4dWMPEuCHpYRf-s9d3unAA"

/-- The sale whose commission is the protocol's, signed by the merchant. -/
def feeSale : Split402ReceiptV1 := sale 10000 "10" "0"
  "OWvGW7SaBRFNftErE-sylzCxJyGCfJhAXxjThW0ypvgNuHNm0bK5DmrQE1HYavQA7-yu8QiqpcTZc1wzIruXAQ"

def merchantKeyBytes : List UInt8 :=
  [234, 74, 108, 99, 226, 156, 82, 10, 190, 245, 80, 123, 19, 46, 197, 249, 149, 71, 118, 174, 190,
    190, 123, 146, 66, 30, 234, 105, 20, 70, 210, 44]

/-- The merchant's signatures of the two sales. -/
def merchantSignatures : List (List UInt8) :=
  [[78, 213, 50, 187, 214, 114, 35, 77, 185, 214, 88, 221, 230, 152, 7, 247, 163, 215, 107, 160, 223,
      109, 145, 195, 194, 120, 14, 104, 49, 50, 255, 69, 35, 114, 116, 150, 111, 170, 64, 247, 124,
      226, 52, 17, 157, 242, 157, 160, 225, 213, 140, 60, 75, 130, 30, 150, 17, 127, 235, 61, 119,
      123, 167, 0],
    [57, 107, 198, 91, 180, 154, 5, 17, 77, 126, 209, 43, 19, 235, 50, 151, 48, 177, 39, 33, 130,
      124, 152, 64, 95, 24, 211, 133, 109, 50, 166, 248, 13, 184, 115, 102, 209, 178, 185, 14, 106,
      208, 19, 81, 216, 106, 244, 0, 239, 236, 174, 241, 8, 170, 165, 196, 217, 115, 92, 51, 34, 187,
      151, 1]]

/-- An engine that knows these sales: their signatures, and one digest. -/
def saleRuntime : Runtime Whole where
  numbers := wholeNumbers
  ofNat := .nat
  sha256Hex _ := "b0d669a9916071831d30cf05a87dad5bc78f544a386b95bdcd78c26c6f64c7f6"
  nodeVerify publicKey _ signature :=
    publicKey == merchantKeyBytes && merchantSignatures.contains signature

theorem saleRuntime_standard : saleRuntime.Standard := ⟨wholeNumbers_standard, fun _ => rfl⟩

/-- A schema library that takes the URLs and timestamps of the sales for such. -/
def zod : Zod := ⟨fun _ => true, fun _ => true⟩

theorem verifies {runtime : Runtime ν} (hstd : runtime.Standard) {receipt : Split402ReceiptV1}
    {key signature : List UInt8} {arithmetic : ProtocolVerificationResult}
    (hkey : base58Decode merchantPublicKey = .ok key ∧ key.length = 32)
    (hsignature : base64UrlDecode receipt.signature = .ok signature ∧ signature.length = 64)
    (hverify : ∀ message, runtime.nodeVerify key message signature = true)
    (harithmetic : verifyReceiptArithmetic receipt = .ok arithmetic) :
    verifySplit402ReceiptObject runtime receipt merchantPublicKey =
      .ok (resultOf arithmetic.errors) := by
  obtain ⟨message, hmessage⟩ := buildReceiptSigningBytes_eq hstd receipt
  have hbytes : buildReceiptSigningBytes runtime receipt = .ok message :=
    hmessage receipt.signature
  have hsafe : safeVerify runtime message merchantPublicKey receipt.signature = true :=
    safeVerify_of_decodes hkey hsignature (hverify message)
  rw [verifySplit402ReceiptObject, verifySplit402ReceiptSignature, hbytes, harithmetic]
  simp only [bind, Except.bind, pure, Except.pure, hsafe, if_true, List.nil_append]

theorem wallet_regex : base58Regex wallet = true := base58Regex_ofList (by decide)

/-- A sale passes the schema whatever its commission is and whoever has signed it. -/
theorem sale_schema {feeBps : Nat} {protocolFee referrerCredit signature : String}
    (hfeeBps : feeBps ≤ 10000) (hprotocolFee : decimalAmountRegex protocolFee = true)
    (hreferrerCredit : decimalAmountRegex referrerCredit = true)
    (hsignature : base64UrlRegex signature = true) :
    split402ReceiptV1Schema zod (sale feeBps protocolFee referrerCredit signature) = true := by
  have hreceipt : isSplit402Id "rct_00000000000000000000000000000001" = true :=
    isSplit402Id_ofList (by decide)
  have hmerchant : isSplit402Id "mrc_00000000000000000000000000000001" = true :=
    isSplit402Id_ofList (by decide)
  have hcampaign : isSplit402Id "cmp_00000000000000000000000000000001" = true :=
    isSplit402Id_ofList (by decide)
  have hroute : isSplit402Id "rte_00000000000000000000000000000001" = true :=
    isSplit402Id_ofList (by decide)
  have hpayment : isSplit402Id "pay_00000000000000000000000000000001" = true :=
    isSplit402Id_ofList (by decide)
  have hnonce : isSplit402Id "ofn_00000000000000000000000000000001" = true :=
    isSplit402Id_ofList (by decide)
  have hdigest : sha256Regex
      "sha256:aaaaaaaaaaaaaaaaaaaaaaaaaaaaaaaaaaaaaaaaaaaaaaaaaaaaaaaaaaaaaaaa" = true :=
    sha256Regex_ofList (by decide)
  have hterms : sha256Regex
      "sha256:bbbbbbbbbbbbbbbbbbbbbbbbbbbbbbbbbbbbbbbbbbbbbbbbbbbbbbbbbbbbbbbb" = true :=
    sha256Regex_ofList (by decide)
  have hclaim : sha256Regex
      "sha256:cccccccccccccccccccccccccccccccccccccccccccccccccccccccccccccccc" = true :=
    sha256Regex_ofList (by decide)
  have htime : rfc3339UtcSchema zod "2026-01-01T00:00:00Z" = true :=
    rfc3339UtcSchema_ofList rfl (by decide)
  have hhundred : decimalAmountRegex "100" = true := by decide
  have hten : decimalAmountRegex "10" = true := by decide
  have hsome : ∀ (p : String → Bool) value, (some value).all p = p value := fun _ _ => rfl
  have hurl : zod.isUrl "https://merchant.example" = true := rfl
  simp only [split402ReceiptV1Schema, sale, Split402ReceiptV1.routeFieldsAgree,
    paymentIdentifierSchema, hsome, Option.all_none, wallet_regex, hreceipt, hmerchant,
    hcampaign, hroute, hpayment, hnonce, hdigest, hterms, hclaim, htime, hhundred, hten,
    hprotocolFee, hreferrerCredit, hsignature, hurl, hfeeBps, decide_true, Bool.true_or, Bool.true_and, Bool.and_true]
  rfl

theorem freeSale_schema : split402ReceiptV1Schema zod freeSale = true :=
  sale_schema (by decide) (by decide) (by decide) (base64UrlRegex_ofList (by decide))

theorem feeSale_schema : split402ReceiptV1Schema zod feeSale = true :=
  sale_schema (by decide) (by decide) (by decide) (base64UrlRegex_ofList (by decide))

/-- The key, the signatures and the amounts of the sales, computed in one evaluation. -/
theorem sales_computed :
    base58Decode merchantPublicKey = .ok merchantKeyBytes ∧
    (base64UrlDecode freeSale.signature = .ok (merchantSignatures.getD 0 []) ∧
      verifyReceiptArithmetic freeSale = .ok ⟨true, []⟩) ∧
    (base64UrlDecode feeSale.signature = .ok (merchantSignatures.getD 1 []) ∧
      verifyReceiptArithmetic feeSale = .ok ⟨true, []⟩) := by
  decide +kernel

theorem merchantKey_decodes :
    base58Decode merchantPublicKey = .ok merchantKeyBytes ∧ merchantKeyBytes.length = 32 :=
  ⟨sales_computed.1, rfl⟩

theorem freeSale_arithmetic : verifyReceiptArithmetic freeSale = .ok ⟨true, []⟩ :=
  sales_computed.2.1.2

theorem freeSale_decodes : base64UrlDecode freeSale.signature = .ok (merchantSignatures.getD 0 []) ∧
    (merchantSignatures.getD 0 []).length = 64 :=
  ⟨sales_computed.2.1.1, rfl⟩

/-- The engine knows a signature that is listed. -/
theorem saleRuntime_verifies {signature : List UInt8} (hmem : signature ∈ merchantSignatures)
    (message : ByteArray) :
    saleRuntime.nodeVerify merchantKeyBytes message signature = true := by
  have hknown : merchantSignatures.contains signature = true := List.contains_iff_mem.mpr hmem
  show (merchantKeyBytes == merchantKeyBytes && merchantSignatures.contains signature) = true
  rw [hknown, beq_self_eq_true, Bool.and_self]

theorem freeSale_verifies :
    verifySplit402ReceiptObject saleRuntime freeSale merchantPublicKey = .ok ⟨true, []⟩ :=
  verifies saleRuntime_standard merchantKey_decodes freeSale_decodes
    (saleRuntime_verifies List.mem_cons_self) freeSale_arithmetic

theorem feeSale_verifies :
    verifySplit402ReceiptObject saleRuntime feeSale merchantPublicKey = .ok ⟨true, []⟩ := by
  have hsignature : base64UrlDecode feeSale.signature = .ok (merchantSignatures.getD 1 []) ∧
      (merchantSignatures.getD 1 []).length = 64 := ⟨sales_computed.2.2.1, rfl⟩
  have hmem : merchantSignatures.getD 1 [] ∈ merchantSignatures :=
    List.mem_cons_of_mem _ List.mem_cons_self
  exact verifies saleRuntime_standard merchantKey_decodes hsignature (saleRuntime_verifies hmem)
    sales_computed.2.2.2

end Sample

end Split402

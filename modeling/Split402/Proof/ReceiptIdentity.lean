import Mathlib
import Split402.Proof.ExactlyOnce

/-! # Receipt identity

A signature of 64 bytes is 86 characters of base64url, and the last of them has four bits to spare.
The decoder drops them, so what verifies is the bytes; the hash of a receipt covers the characters.
Two receipts that differ in their signature only, and verify, are one receipt for the store exactly
when these four bits agree. -/

namespace Split402

open Base Base.Async

/-! ## base64url -/

/-- The characters of base64url in the order of their values. -/
def base64UrlAlphabet : List Char :=
  "ABCDEFGHIJKLMNOPQRSTUVWXYZabcdefghijklmnopqrstuvwxyz0123456789-_".toList

/-- The six bits of a character of base64url. -/
def sextet (c : Char) : Nat := (base64Value (toBase64Char c)).getD 0

def sextets (value : String) : List Nat := value.toList.map sextet

/-- The four bits of the last character that are no part of the bytes, when one byte is left
over. -/
def lastBits (value : String) : Nat := (sextets value).getLastD 0 % 16

theorem toNat_lt_of_isBase64UrlChar {c : Char} (h : isBase64UrlChar c = true) : c.toNat < 128 := by
  have hle : ∀ {d : Char}, c ≤ d → c.toNat ≤ d.toNat := fun h => h
  simp only [isBase64UrlChar, Bool.or_eq_true, Bool.and_eq_true, decide_eq_true_eq, beq_iff_eq] at h
  rcases h with (((h | h) | h) | h) | h
  · exact Nat.lt_of_le_of_lt (hle h.2) (by decide)
  · exact Nat.lt_of_le_of_lt (hle h.2) (by decide)
  · exact Nat.lt_of_le_of_lt (hle h.2) (by decide)
  · rw [h]
    decide
  · rw [h]
    decide

/-- A character of base64url has six bits, is not the padding, and is read back from its bits. -/
theorem sextet_spec {c : Char} (h : isBase64UrlChar c = true) :
    base64Value (toBase64Char c) = some (sextet c) ∧ sextet c < 64 ∧
      (toBase64Char c != '=') = true ∧ base64UrlAlphabet[sextet c]? = some c := by
  have hall : ∀ n : Fin 128, isBase64UrlChar (Char.ofNat n) = true →
      base64Value (toBase64Char (Char.ofNat n)) = some (sextet (Char.ofNat n)) ∧
        sextet (Char.ofNat n) < 64 ∧ (toBase64Char (Char.ofNat n) != '=') = true ∧
        base64UrlAlphabet[sextet (Char.ofNat n)]? = some (Char.ofNat n) := by
    decide +kernel
  have hc := hall ⟨c.toNat, toNat_lt_of_isBase64UrlChar h⟩
  dsimp only at hc
  rw [Char.ofNat_toNat] at hc
  exact hc h

/-- The characters of base64url, as the regular expression of the decoder has them. -/
abbrev IsBase64Url (value : String) : Prop := value.toList.all isBase64UrlChar = true

theorem sextets_lt {value : String} (h : IsBase64Url value) : ∀ x ∈ sextets value, x < 64 := by
  intro x hx
  obtain ⟨c, hc, rfl⟩ := List.mem_map.mp hx
  exact (sextet_spec (List.all_eq_true.mp h c hc)).2.1

theorem sextets_inj {a b : String} (ha : IsBase64Url a) (hb : IsBase64Url b) :
    sextets a = sextets b ↔ a = b := by
  have hread : ∀ {value : String}, IsBase64Url value →
      (sextets value).map (base64UrlAlphabet[·]?) = value.toList.map some := by
    intro value hvalue
    rw [sextets, List.map_map]
    refine List.map_congr_left fun c hc => ?_
    exact (sextet_spec (List.all_eq_true.mp hvalue c hc)).2.2.2
  constructor
  · intro h
    have hchars := hread ha
    rw [h, hread hb] at hchars
    have hlist := List.map_injective_iff.mpr (Option.some_injective _) hchars
    exact (String.toList_injective hlist).symm
  · intro h
    rw [h]

/-- What the padded characters are decoded to. -/
theorem base64UrlDecode_eq {value : String} (h : IsBase64Url value) :
    base64UrlDecode value = .ok ((Base64.decode (sextets value)).map UInt8.ofNat) := by
  have hpad : ∀ n, (List.replicate n '=').map toBase64Char = List.replicate n '=' := by
    intro n
    rw [List.map_replicate]
    rfl
  have htake : ∀ n, ((value.toList.map toBase64Char) ++ List.replicate n '=').takeWhile (· != '=') =
      value.toList.map toBase64Char := by
    intro n
    have hnone : (List.replicate n '=').takeWhile (· != '=') = [] := by
      cases n <;> rfl
    rw [List.takeWhile_append_of_pos, hnone, List.append_nil]
    intro d hd
    obtain ⟨c, hc, rfl⟩ := List.mem_map.mp hd
    exact (sextet_spec (List.all_eq_true.mp h c hc)).2.2.1
  have hvalues : (value.toList.map toBase64Char).filterMap base64Value = sextets value := by
    rw [List.filterMap_map, sextets, ← List.filterMap_eq_map]
    refine List.filterMap_congr fun c hc => ?_
    exact (sextet_spec (List.all_eq_true.mp h c hc)).1
  unfold base64UrlDecode
  simp only [h, Bool.not_true, Bool.false_eq_true, if_false, padEnd, List.map_append, hpad,
    bufferFromBase64, htake, hvalues]
  rfl

theorem isBase64Url_of_decode {value : String} {bytes : List UInt8}
    (h : base64UrlDecode value = .ok bytes) : IsBase64Url value := by
  unfold base64UrlDecode at h
  dsimp only at h
  split at h
  · cases h
  · rename_i hchars
    simpa using hchars

theorem decode_eq_of_map {l m : List Nat} (hl : ∀ x ∈ l, x < 256) (hm : ∀ x ∈ m, x < 256)
    (h : l.map UInt8.ofNat = m.map UInt8.ofNat) : l = m := by
  have hback : ∀ {l : List Nat}, (∀ x ∈ l, x < 256) →
      (l.map UInt8.ofNat).map UInt8.toNat = l := by
    intro l hl
    rw [List.map_map]
    conv => rhs; rw [← List.map_id l]
    refine List.map_congr_left fun x hx => ?_
    exact UInt8.toNat_ofNat_of_lt' (hl x hx)
  rw [← hback hl, h, hback hm]

/-- **Two texts of the same 64 bytes are one text exactly when their last bits agree.** -/
theorem eq_iff_lastBits {a b : String} {bytes : List UInt8} (ha : base64UrlDecode a = .ok bytes)
    (hb : base64UrlDecode b = .ok bytes) (hlen : bytes.length = 64) :
    a = b ↔ lastBits a = lastBits b := by
  have hurlA := isBase64Url_of_decode ha
  have hurlB := isBase64Url_of_decode hb
  rw [base64UrlDecode_eq hurlA, Except.ok.injEq] at ha
  rw [base64UrlDecode_eq hurlB, Except.ok.injEq] at hb
  have hdecode : Base64.decode (sextets a) = Base64.decode (sextets b) := by
    refine decode_eq_of_map (Base64.decode_lt (sextets_lt hurlA))
      (Base64.decode_lt (sextets_lt hurlB)) ?_
    rw [ha, hb]
  -- 64 bytes are 86 characters
  have hlength : ∀ {value : String}, (Base64.decode (sextets value)).map UInt8.ofNat = bytes →
      (sextets value).length = 86 := by
    intro value h
    have hbytes := congrArg List.length h
    rw [List.length_map, Base64.length_decode, hlen] at hbytes
    omega
  have hA := hlength ha
  have hB := hlength hb
  rw [← sextets_inj hurlA hurlB]
  exact Base64.eq_iff_of_decode_eq (sextets_lt hurlA) (sextets_lt hurlB) (by omega) (by omega) hdecode

/-! ## Signatures -/

variable {ν : Type} {runtime : Runtime ν}

/-- Ed25519 verification accepts exactly one signature of 64 bytes for a message and a key. -/
def UniqueSignatures (runtime : Runtime ν) : Prop :=
  ∀ key message a b, a.length = 64 → b.length = 64 → runtime.nodeVerify key message a = true →
    runtime.nodeVerify key message b = true → a = b

/-- What is accepted of a receipt: the schema admits it and the signature verifies. -/
theorem verified_of_ok {zod : Zod} {issues : Option Split402ReceiptV1 → List String}
    {receipt : Split402ReceiptV1} {merchantPublicKey : String} {result : ProtocolVerificationResult}
    (h : verifySplit402Receipt runtime zod issues (some receipt) merchantPublicKey = .ok result)
    (hok : result.ok = true) :
    split402ReceiptV1Schema zod receipt = true ∧ ∃ message,
      buildReceiptSigningBytes runtime receipt = .ok message ∧
      safeVerify runtime message merchantPublicKey receipt.signature = true := by
  unfold verifySplit402Receipt at h
  cases hparsed : (some receipt).filter (split402ReceiptV1Schema zod) with
  | none =>
      rw [hparsed] at h
      dsimp only at h
      rw [pure_eq_ok] at h
      rw [← h] at hok
      cases hok
  | some parsed =>
      rw [hparsed] at h
      obtain ⟨hsome, hschema⟩ := Option.filter_eq_some_iff.mp hparsed
      rw [Option.some.injEq] at hsome
      subst hsome
      refine ⟨hschema, ?_⟩
      dsimp only at h
      unfold verifySplit402ReceiptObject at h
      obtain ⟨signature, hsignature, h⟩ := bind_eq_ok.mp h
      obtain ⟨arithmetic, -, h⟩ := bind_eq_ok.mp h
      rw [pure_eq_ok] at h
      rw [← h] at hok
      have herrors := (List.append_eq_nil_iff.mp (errors_of_ok hok)).1
      unfold verifySplit402ReceiptSignature at hsignature
      obtain ⟨message, hmessage, hsignature⟩ := bind_eq_ok.mp hsignature
      rw [pure_eq_ok] at hsignature
      refine ⟨message, hmessage, ?_⟩
      by_contra hverify
      rw [if_neg hverify] at hsignature
      rw [← hsignature] at herrors
      cases herrors

/-- **Signatures of one receipt that verify under one key are equal exactly when their last bits
agree.** -/
theorem signature_eq_iff (hstd : runtime.Standard) (hunique : UniqueSignatures runtime) {zod : Zod}
    {issues : Option Split402ReceiptV1 → List String} {r s : Split402ReceiptV1}
    (hsame : { r with signature := s.signature } = s) {merchantPublicKey : String}
    {result result' : ProtocolVerificationResult}
    (hr : verifySplit402Receipt runtime zod issues (some r) merchantPublicKey = .ok result)
    (hok : result.ok = true)
    (hs : verifySplit402Receipt runtime zod issues (some s) merchantPublicKey = .ok result')
    (hok' : result'.ok = true) :
    r.signature = s.signature ↔ lastBits r.signature = lastBits s.signature := by
  obtain ⟨-, message, hmessage, hverify⟩ := verified_of_ok hr hok
  obtain ⟨-, message', hmessage', hverify'⟩ := verified_of_ok hs hok'
  -- the same bytes are signed
  obtain ⟨signed, hsigned⟩ := buildReceiptSigningBytes_eq hstd r
  have hleft : buildReceiptSigningBytes runtime r = .ok signed := hsigned r.signature
  have hright : buildReceiptSigningBytes runtime s = .ok signed := by
    rw [← hsame]
    exact hsigned s.signature
  rw [hmessage, Except.ok.injEq] at hleft
  rw [hmessage', Except.ok.injEq] at hright
  obtain ⟨key, a, hkey, ha, halen, haverify⟩ := signed_of_safeVerify hverify
  obtain ⟨key', b, hkey', hb, hblen, hbverify⟩ := signed_of_safeVerify hverify'
  rw [hkey, Except.ok.injEq] at hkey'
  rw [← hkey', hright, ← hleft] at hbverify
  have hbytes := hunique key message a b halen hblen haverify hbverify
  rw [← hbytes] at hb
  exact eq_iff_lastBits ha hb halen

/-! ## The theorem -/

namespace ReceiptIngestor

variable {ingestor : ReceiptIngestor ν}

/-- A call by itself over a store. -/
def submit (ingestor : ReceiptIngestor ν) {σ : Type} (store : UniqueReceiptStore σ)
    (call : IngestCall) (s : σ) : σ × Except PayoutError ReceiptIngestResult :=
  (ingestor.ingest call).run (serve store call) s

/-- Two receipts are one for the store: their hashes are equal, and after a call that creates the
first, a call for the second is answered a duplicate. -/
structure SameReceipt (ingestor : ReceiptIngestor ν) (r s : Split402ReceiptV1) : Prop where
  hash : hashReceipt ingestor.runtime r = hashReceipt ingestor.runtime s
  duplicate : ∀ {σ : Type} (store : UniqueReceiptStore σ) (start after : σ) (call call' : IngestCall)
    (snapshot : ReceiptIngestionSnapshot), ingestor.safeParse call = some r →
    ingestor.safeParse call' = some s →
    ingestor.submit store call start = (after, .ok (.created snapshot)) →
    ∃ found, ingestor.submit store call' after = (after, .ok (.duplicate found)) ∧
      found.keys.receiptHash = snapshot.keys.receiptHash

/-- A call for a receipt whose hash is saved is answered a duplicate. -/
theorem submit_saved {σ : Type} {store : UniqueReceiptStore σ} {call : IngestCall} {s : σ}
    {receipt : Split402ReceiptV1} {receiptHash : String} (hparsed : ingestor.safeParse call = some receipt)
    (hhash : hashReceipt ingestor.runtime receipt = .ok receiptHash) {keys : ReceiptKeys}
    (hkeys : keys ∈ store.saved s) (hsaved : keys.receiptHash = receiptHash) :
    ∃ found, ingestor.submit store call s = (s, .ok (.duplicate found)) ∧
      found.keys.receiptHash = receiptHash := by
  cases hfind : store.find .receiptHash receiptHash s with
  | none => exact absurd hsaved (store.find_none hfind keys hkeys)
  | some found =>
      refine ⟨found, ?_, (store.find_some hfind).2⟩
      unfold submit ingest
      rw [hparsed]
      dsimp only
      rw [ofProtocol_eq_ok.mpr hhash]
      simp only [Await.ofExcept, done_ok_bind, Await.getByReceiptHash, Async.call, await_bind,
        Async.run, serve, hfind, pure_eq]

/-- **Receipts that differ in their signature only, and verify, are one for the store exactly when
the last bits of their signatures agree.** -/
theorem same_receipt_iff (hstd : ingestor.runtime.Standard)
    (hunique : UniqueSignatures ingestor.runtime) {r s : Split402ReceiptV1}
    (hsame : { r with signature := s.signature } = s) {merchantPublicKey : String}
    {result result' : ProtocolVerificationResult}
    (hr : verifySplit402Receipt ingestor.runtime ingestor.zod ingestor.issues (some r)
      merchantPublicKey = .ok result) (hok : result.ok = true)
    (hs : verifySplit402Receipt ingestor.runtime ingestor.zod ingestor.issues (some s)
      merchantPublicKey = .ok result') (hok' : result'.ok = true)
    (hcollision : ingestor.runtime.sha256Hex (receiptBytes ingestor.runtime r) =
      ingestor.runtime.sha256Hex (receiptBytes ingestor.runtime s) →
        receiptBytes ingestor.runtime r = receiptBytes ingestor.runtime s) :
    SameReceipt ingestor r s ↔ lastBits r.signature = lastBits s.signature := by
  rw [← signature_eq_iff hstd hunique hsame hr hok hs hok']
  constructor
  · intro h
    have hhash := h.hash
    rw [hashReceipt_eq hstd, hashReceipt_eq hstd, Except.ok.injEq, String.append_right_inj] at hhash
    exact (keys_eq_of_bytes_eq hstd (hcollision hhash)).2.2.2
  · intro hsignature
    have heq : r = s := by rw [← hsame, ← hsignature]
    subst heq
    refine ⟨rfl, ?_⟩
    intro σ store start after call call' snapshot hcall hcall' hfirst
    -- what the first call answers is true of the store it leaves
    have hanswers := (meets_ingest hstd call start).run (serve store call) trivial
      (fun _ _ => ⟨fun _ => id, fun _ _ _ => id⟩) (fun _ _ => rfl) (fun _ _ _ _ => trivial)
    change Answers ingestor store call (ingestor.submit store call start).1
      (ingestor.submit store call start).2 at hanswers
    rw [hfirst] at hanswers
    obtain ⟨hkeys, hsaved⟩ := hanswers
    rw [callKeys_eq hstd hcall, Option.some.injEq] at hkeys
    rw [← hkeys]
    rw [← hkeys] at hsaved
    exact submit_saved hcall' (hashReceipt_eq hstd r) hsaved rfl

/-! ## A sale and its twin -/

/-- The sale with a signature that differs in its last character, and has the same bytes. -/
def twinSale : Split402ReceiptV1 := { Sample.freeSale with
  signature :=
    "TtUyu9ZyI0251ljd5pgH96PXa6DfbZHDwngOaDEy_0UjcnSWb6pA93ziNBGd8p2g4dWMPEuCHpYRf-s9d3unAB" }

/-- The digests of the sale and of its twin. -/
def twinDigest (bytes : ByteArray) : String :=
  if bytes = receiptBytes Sample.saleRuntime Sample.freeSale then
    "b0d669a9916071831d30cf05a87dad5bc78f544a386b95bdcd78c26c6f64c7f6"
  else "dc28d405f8c02f89e2d8edc51074356cda03247560bfd675e0d25d512d92a521"

/-- An engine that knows these digests, and the one signature of their message. -/
def twinRuntime : Runtime Whole := { Sample.saleRuntime with
  sha256Hex := twinDigest
  nodeVerify := fun publicKey _ signature =>
    publicKey == Sample.merchantKeyBytes && signature == Sample.merchantSignatures.getD 0 [] }

def twinIngestor : ReceiptIngestor Whole := ⟨isoHost, twinRuntime, Sample.zod, fun _ => []⟩

theorem twinRuntime_standard : twinRuntime.Standard := ⟨wholeNumbers_standard, fun _ => rfl⟩

theorem twinRuntime_unique : UniqueSignatures twinRuntime := by
  intro key message a b _ _ ha hb
  have hone : ∀ {signature}, twinRuntime.nodeVerify key message signature = true →
      signature = Sample.merchantSignatures.getD 0 [] := by
    intro signature h
    have h : (key == Sample.merchantKeyBytes &&
      signature == Sample.merchantSignatures.getD 0 []) = true := h
    rw [Bool.and_eq_true, beq_iff_eq, beq_iff_eq] at h
    exact h.2
  rw [hone ha, hone hb]

theorem schema_of_signature {zod : Zod} {receipt : Split402ReceiptV1} {signature : String}
    (h : split402ReceiptV1Schema zod receipt = true) (hsignature : base64UrlRegex signature = true) :
    split402ReceiptV1Schema zod { receipt with signature := signature } = true := by
  unfold split402ReceiptV1Schema at h ⊢
  rw [Bool.and_eq_true, Bool.and_eq_true] at h ⊢
  exact ⟨⟨h.1.1, hsignature⟩, h.2⟩

theorem verifySplit402Receipt_eq {runtime : Runtime ν} {zod : Zod}
    {issues : Option Split402ReceiptV1 → List String} {receipt : Split402ReceiptV1}
    (h : split402ReceiptV1Schema zod receipt = true) (merchantPublicKey : String) :
    verifySplit402Receipt runtime zod issues (some receipt) merchantPublicKey =
      verifySplit402ReceiptObject runtime receipt merchantPublicKey := by
  rw [verifySplit402Receipt, Option.filter_some, if_pos h]

theorem twins_verify : ∀ receipt ∈ [Sample.freeSale, twinSale],
    verifySplit402Receipt twinRuntime Sample.zod twinIngestor.issues (some receipt)
      Sample.merchantPublicKey = .ok ⟨true, []⟩ := by
  have hdecodes : base64UrlDecode twinSale.signature = .ok (Sample.merchantSignatures.getD 0 []) ∧
      (Sample.merchantSignatures.getD 0 []).length = 64 := by decide +kernel
  have hknown : ∀ message, twinRuntime.nodeVerify Sample.merchantKeyBytes message
      (Sample.merchantSignatures.getD 0 []) = true := by
    intro message
    show (Sample.merchantKeyBytes == Sample.merchantKeyBytes &&
      Sample.merchantSignatures.getD 0 [] == Sample.merchantSignatures.getD 0 []) = true
    rw [beq_self_eq_true, beq_self_eq_true]
    rfl
  intro receipt hreceipt
  simp only [List.mem_cons, List.not_mem_nil, or_false] at hreceipt
  rcases hreceipt with rfl | rfl
  · rw [verifySplit402Receipt_eq Sample.freeSale_schema]
    exact Sample.verifies twinRuntime_standard Sample.merchantKey_decodes Sample.freeSale_decodes
      hknown Sample.freeSale_arithmetic
  · have hregex : base64UrlRegex twinSale.signature = true := by decide
    have hschema : split402ReceiptV1Schema Sample.zod twinSale = true :=
      schema_of_signature Sample.freeSale_schema hregex
    rw [verifySplit402Receipt_eq hschema]
    exact Sample.verifies twinRuntime_standard Sample.merchantKey_decodes hdecodes hknown
      Sample.freeSale_arithmetic

theorem twins_differ : receiptBytes Sample.saleRuntime twinSale ≠
    receiptBytes Sample.saleRuntime Sample.freeSale := by
  intro h
  have hsignature := (keys_eq_of_bytes_eq Sample.saleRuntime_standard h).2.2.2
  exact absurd hsignature (by decide)

theorem receiptBytes_twinRuntime (receipt : Split402ReceiptV1) :
    receiptBytes twinRuntime receipt = receiptBytes Sample.saleRuntime receipt := rfl

/-- The digests of the twins differ. -/
theorem twins_sha256Hex : twinRuntime.sha256Hex (receiptBytes twinRuntime Sample.freeSale) ≠
    twinRuntime.sha256Hex (receiptBytes twinRuntime twinSale) := by
  have hdigest : twinRuntime.sha256Hex = twinDigest := rfl
  rw [receiptBytes_twinRuntime, receiptBytes_twinRuntime, hdigest]
  unfold twinDigest
  rw [if_pos rfl, if_neg twins_differ]
  decide

theorem same_receipt_iff_twins : SameReceipt twinIngestor Sample.freeSale twinSale ↔
    lastBits Sample.freeSale.signature = lastBits twinSale.signature := by
  have hsale := twins_verify Sample.freeSale (by simp)
  have htwin := twins_verify twinSale (by simp)
  exact @same_receipt_iff _ twinIngestor twinRuntime_standard twinRuntime_unique _ _ rfl _ _ _ hsale
    rfl htwin rfl (fun h => absurd h twins_sha256Hex)

/-- The twin verifies as the sale does and has another hash. -/
theorem not_same_receipt_twins :
    ¬ ∀ (ingestor : ReceiptIngestor Whole) (r s : Split402ReceiptV1) (merchantPublicKey : String)
      (result result' : ProtocolVerificationResult), ingestor.runtime.Standard →
      UniqueSignatures ingestor.runtime → { r with signature := s.signature } = s →
      verifySplit402Receipt ingestor.runtime ingestor.zod ingestor.issues (some r)
        merchantPublicKey = .ok result → result.ok = true →
      verifySplit402Receipt ingestor.runtime ingestor.zod ingestor.issues (some s)
        merchantPublicKey = .ok result' → result'.ok = true → SameReceipt ingestor r s := by
  intro h
  have hsame := h twinIngestor Sample.freeSale twinSale Sample.merchantPublicKey _ _
    twinRuntime_standard twinRuntime_unique rfl (twins_verify _ (by simp)) rfl
    (twins_verify _ (by simp)) rfl
  have hhash : hashReceipt twinRuntime Sample.freeSale = hashReceipt twinRuntime twinSale :=
    hsame.hash
  rw [hashReceipt_eq twinRuntime_standard, hashReceipt_eq twinRuntime_standard, Except.ok.injEq,
    String.append_right_inj] at hhash
  exact twins_sha256Hex hhash

end ReceiptIngestor

end Split402

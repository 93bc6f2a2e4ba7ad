import Split402.Proof.RouteClaims
import Split402.Registry.PostgresRoutes
import Split402.X402.Server

/-! # Whether a scope covers an operation

Four places ask whether a claim covers an operation: the search of the in-memory registry and that of
Postgres, the policy of receipts, and the merchant who is paid under an offer. The first asks for the
wildcard in the first place of the stored scope, the second reads the row back and refuses some
scopes, the third and the fourth take the wildcard in any place, of the stored and of the signed
scope. -/

namespace Split402

open Base

variable {ν : Type} {runtime : RegistryRuntime ν} {server : X402Runtime ν}

/-- Four components are asked whether a claim covers an operation: two searches for the operation, of
a route and of its row, a receipt for it and an offer of it. -/
structure ScopeQuestion where
  claim : ReferralClaimV1
  route : RouteRecord
  row : RouteRow
  search : NormalizedRouteSearchInput
  now : Int
  receipt : Split402ReceiptV1
  offer : Split402OfferV1
  merchantOrigin : String
  serverNow : Int

namespace ScopeQuestion

/-- The searches are for the operation, and find the route by all else they ask. -/
structure Asks (runtime : RegistryRuntime ν) (question : ScopeQuestion) (operationId : String) :
    Prop where
  normalized : ∃ input now, normalizeRouteSearchInput runtime input now = .ok question.search
  searched : question.search.operationId = some operationId
  matching : RouteRegistry.routeMatchesSearch runtime question.route
    { question.search with operationId := none } = true
  selected : RouteDb.selects { question.search with operationId := none } question.now
    question.row = true
  receipt : question.receipt.operationId = operationId
  offer : question.offer.operationId = operationId

/-- The answers, in the order of the sources: memory, Postgres, the policy, the merchant. -/
def answers (runtime : RegistryRuntime ν) (server : X402Runtime ν) (question : ScopeQuestion) :
    List (Except RegistryError Bool) :=
  [.ok (RouteRegistry.routeMatchesSearch runtime question.route question.search),
    RouteDb.finds runtime question.search question.now question.row,
    .ok (decide ("route does not cover receipt operationId" ∉
      ReceiptPolicy.routeErrors runtime question.receipt question.route)),
    .ok (decide ("claim does not cover offer operationId" ∉ validateClaimAgainstOffer server
      question.claim question.offer question.merchantOrigin question.serverNow))]

/-- All components give one answer. -/
def Agree (runtime : RegistryRuntime ν) (server : X402Runtime ν) (question : ScopeQuestion) : Prop :=
  ∃ answer : Bool, ∀ given ∈ question.answers runtime server, given = .ok answer

variable {question : ScopeQuestion} {operationId : String}

/-! ## The answers -/

theorem Asks.memory (h : question.Asks runtime operationId) :
    RouteRegistry.routeMatchesSearch runtime question.route question.search =
      RouteRegistry.routeCoversOperation question.route.operationIds operationId := by
  have hmatching := h.matching
  simp only [RouteRegistry.routeMatchesSearch, Option.all_none, Bool.and_true] at hmatching
  simp only [RouteRegistry.routeMatchesSearch, h.searched, Option.all_some, hmatching, Bool.true_and]

theorem Asks.selects (h : question.Asks runtime operationId) :
    RouteDb.selects question.search question.now question.row =
      (question.row.operationIds.contains operationId ||
        question.row.operationIds.contains "*") := by
  have hselected := h.selected
  simp only [RouteDb.selects, Option.all_none, Bool.and_true] at hselected
  simp only [RouteDb.selects, h.searched, Option.all_some, hselected, Bool.true_and]

theorem verifier_answer {receipt : Split402ReceiptV1} {route : RouteRecord} :
    "route does not cover receipt operationId" ∉ ReceiptPolicy.routeErrors runtime receipt route ↔
      "*" ∈ route.operationIds ∨ receipt.operationId ∈ route.operationIds := by
  have hcovers : ReceiptPolicy.routeCoversOperation route.operationIds receipt.operationId = true ↔
      "*" ∈ route.operationIds ∨ receipt.operationId ∈ route.operationIds := by
    simp only [ReceiptPolicy.routeCoversOperation, List.any_eq_true, decide_eq_true_eq]
    constructor
    · rintro ⟨id, hid, rfl | rfl⟩
      · exact .inl hid
      · exact .inr hid
    · rintro (h | h)
      · exact ⟨_, h, .inl rfl⟩
      · exact ⟨_, h, .inr rfl⟩
  rw [← hcovers]
  cases hanswer : ReceiptPolicy.routeCoversOperation route.operationIds receipt.operationId with
  | true => simp [ReceiptPolicy.routeErrors, hanswer]
  | false => simp [ReceiptPolicy.routeErrors, hanswer]

theorem merchant_answer {claim : ReferralClaimV1} {offer : Split402OfferV1} {merchantOrigin : String}
    {now : Int} :
    "claim does not cover offer operationId" ∉
        validateClaimAgainstOffer server claim offer merchantOrigin now ↔
      "*" ∈ claim.operationIds ∨ offer.operationId ∈ claim.operationIds := by
  have hcovers : claim.operationIds.any (fun operationId =>
      operationId == "*" || operationId == offer.operationId) = true ↔
      "*" ∈ claim.operationIds ∨ offer.operationId ∈ claim.operationIds := by
    simp only [List.any_eq_true, Bool.or_eq_true, beq_iff_eq]
    constructor
    · rintro ⟨id, hid, rfl | rfl⟩
      · exact .inl hid
      · exact .inr hid
    · rintro (h | h)
      · exact ⟨_, h, .inl rfl⟩
      · exact ⟨_, h, .inr rfl⟩
  rw [← hcovers]
  cases hanswer : claim.operationIds.any (fun operationId =>
      operationId == "*" || operationId == offer.operationId) with
  | true => simp [validateClaimAgainstOffer, hanswer]
  | false => simp [validateClaimAgainstOffer, hanswer]

/-! ## A stored claim -/

/-- The stores hold the route of a claim as it was activated. -/
structure Stored (runtime : RegistryRuntime ν) (question : ScopeQuestion) : Prop where
  schema : referralClaimV1Schema runtime.zod question.claim = true
  route : question.route.operationIds =
    RouteRegistry.cloneOperationScope question.claim.operationIds
  scope : question.row.operationIds = question.route.operationIds
  claim : question.row.claimJson = RouteRegistry.cloneClaim question.claim

theorem scope_of_schema {zod : Zod} {claim : ReferralClaimV1}
    (h : referralClaimV1Schema zod claim = true) : claim.operationIds ≠ [] := by
  simp only [referralClaimV1Schema, Bool.and_eq_true] at h
  obtain ⟨⟨⟨⟨⟨⟨⟨⟨⟨-, hscope⟩, -⟩, -⟩, -⟩, -⟩, -⟩, -⟩, -⟩, -⟩ := h
  rw [Bool.not_eq_true', List.isEmpty_eq_false_iff] at hscope
  exact hscope

/-- A copy of a claim is a claim. -/
theorem schema_cloneClaim {zod : Zod} {claim : ReferralClaimV1}
    (h : referralClaimV1Schema zod claim = true) :
    referralClaimV1Schema zod (RouteRegistry.cloneClaim claim) = true := by
  by_cases hwild : claim.operationIds.head? = some "*"
  · have hscope : RouteRegistry.cloneOperationScope claim.operationIds = ["*"] := if_pos hwild
    simp only [referralClaimV1Schema, Bool.and_eq_true] at h
    obtain ⟨⟨⟨⟨⟨⟨⟨⟨⟨hfields, -⟩, -⟩, hissued⟩, hexpires⟩, hshort⟩, hlong⟩, hmetadata⟩, hkey⟩, hvalue⟩ := h
    simp only [referralClaimV1Schema, RouteRegistry.cloneClaim, hscope, Bool.and_eq_true]
    exact ⟨⟨⟨⟨⟨⟨⟨⟨⟨hfields, rfl⟩, by decide⟩, hissued⟩, hexpires⟩, hshort⟩, hlong⟩, hmetadata⟩, hkey⟩,
      hvalue⟩
  · have hsame : RouteRegistry.cloneClaim claim = claim :=
      RouteRegistry.cloneClaim_eq_self_iff.mpr (if_neg hwild)
    rw [hsame]
    exact h

/-- What Postgres says: the scope contains the operation or the wildcard, and can be read back. -/
theorem postgres_answer (h : question.Asks runtime operationId) (hstored : question.Stored runtime)
    {answer : Bool} :
    RouteDb.finds runtime question.search question.now question.row = .ok answer ↔
      if operationId ∈ question.route.operationIds ∨ "*" ∈ question.route.operationIds then
        RouteDb.Readable question.route.operationIds ∧ answer = true
      else answer = false := by
  have hselects := h.selects
  rw [hstored.scope] at hselects
  have hschema := schema_cloneClaim hstored.schema
  rw [← hstored.claim] at hschema
  unfold RouteDb.finds
  by_cases hcontains : operationId ∈ question.route.operationIds ∨ "*" ∈ question.route.operationIds
  · have htrue : RouteDb.selects question.search question.now question.row = true := by
      rw [hselects, Bool.or_eq_true, List.contains_iff_mem, List.contains_iff_mem]
      exact hcontains
    rw [if_pos htrue, if_pos hcontains, map_eq_ok]
    constructor
    · rintro ⟨route, hmap, rfl⟩
      have hreadable := (RouteDb.mapRoute_eq_ok.mp hmap).1
      rw [hstored.scope] at hreadable
      exact ⟨hreadable, rfl⟩
    · rintro ⟨hreadable, rfl⟩
      rw [← hstored.scope] at hreadable
      exact ⟨_, RouteDb.mapRoute_eq_ok.mpr ⟨hreadable, hschema, rfl⟩, rfl⟩
  · have hfalse : ¬ RouteDb.selects question.search question.now question.row = true := by
      rw [hselects, Bool.or_eq_true, List.contains_iff_mem, List.contains_iff_mem]
      exact hcontains
    rw [if_neg hfalse, if_neg hcontains, pure_eq_ok]
    exact eq_comm

theorem memory_covers_iff {scope : List String} :
    RouteRegistry.routeCoversOperation scope operationId = true ↔
      scope.head? = some "*" ∨ operationId ∈ scope := by
  simp [RouteRegistry.routeCoversOperation]

/-- The scope starts with the wildcard, or lacks it and the operation or has no blank entry. -/
def CoversAlike (scope : List String) (operationId : String) : Prop :=
  scope.head? = some "*" ∨
    ("*" ∉ scope ∧ (operationId ∈ scope → ∀ entry ∈ scope, isBlank entry = false))

/-- A stored scope of which the four components say the same. -/
theorem agree_iff (h : question.Asks runtime operationId) (hstored : question.Stored runtime) :
    question.Agree runtime server ↔ CoversAlike question.claim.operationIds operationId := by
  have hanswers : question.Agree runtime server ↔ ∃ answer : Bool,
      RouteRegistry.routeCoversOperation question.route.operationIds operationId = answer ∧
      RouteDb.finds runtime question.search question.now question.row = .ok answer ∧
      decide ("*" ∈ question.route.operationIds ∨ operationId ∈ question.route.operationIds) =
        answer ∧
      decide ("*" ∈ question.claim.operationIds ∨ operationId ∈ question.claim.operationIds) =
        answer := by
    simp only [Agree, answers, List.forall_mem_cons, List.not_mem_nil, false_implies, forall_const,
      and_true, h.memory, verifier_answer, merchant_answer, h.receipt, h.offer, Except.ok.injEq]
  have hnonempty := scope_of_schema hstored.schema
  rw [hanswers, hstored.route]
  by_cases hhead : question.claim.operationIds.head? = some "*"
  · -- the stored scope is the wildcard, which all take for such
    have hscope : RouteRegistry.cloneOperationScope question.claim.operationIds = ["*"] :=
      if_pos hhead
    have hmem : "*" ∈ question.claim.operationIds := List.mem_of_head? hhead
    have hreadable : RouteDb.Readable ["*"] := by
      refine ⟨List.cons_ne_nil _ _, fun _ => rfl, ?_⟩
      intro entry hentry
      rw [List.mem_singleton.mp hentry]
      exact RouteDb.not_isBlank_wildcard
    refine iff_of_true ⟨true, ?_, ?_, ?_, ?_⟩ (.inl hhead)
    · rw [hscope]
      exact memory_covers_iff.mpr (.inl rfl)
    · rw [postgres_answer h hstored, hstored.route, hscope, if_pos (.inr List.mem_cons_self)]
      exact ⟨hreadable, rfl⟩
    · rw [hscope]
      exact decide_eq_true (.inl List.mem_cons_self)
    · exact decide_eq_true (.inl hmem)
  have hscope : RouteRegistry.cloneOperationScope question.claim.operationIds =
    question.claim.operationIds := if_neg hhead
  have hmemory := @memory_covers_iff operationId question.claim.operationIds
  have hpostgres := fun answer => @postgres_answer _ runtime question operationId h hstored answer
  simp only [hstored.route, hscope] at hpostgres ⊢
  simp only [hpostgres]
  by_cases hwild : "*" ∈ question.claim.operationIds
  · -- the policy and the merchant take it for the wildcard, and Postgres cannot read it
    refine iff_of_false ?_ ?_
    · rintro ⟨answer, -, hfinds, -, -⟩
      rw [if_pos (.inr hwild)] at hfinds
      have halone := hfinds.1.2.1 hwild
      rw [halone] at hhead
      exact hhead rfl
    · rintro (hhead' | ⟨hnone, -⟩)
      · exact hhead hhead'
      · exact hnone hwild
  by_cases hoperation : operationId ∈ question.claim.operationIds
  · have hcovers : RouteRegistry.routeCoversOperation question.claim.operationIds operationId = true :=
      hmemory.mpr (.inr hoperation)
    constructor
    · rintro ⟨answer, -, hfinds, -, -⟩
      rw [if_pos (.inl hoperation)] at hfinds
      exact .inr ⟨hwild, fun _ => hfinds.1.2.2⟩
    · rintro (hhead' | ⟨-, hblank⟩)
      · exact absurd hhead' hhead
      · refine ⟨true, hcovers, ?_, decide_eq_true (.inr hoperation), decide_eq_true (.inr hoperation)⟩
        rw [if_pos (.inl hoperation)]
        exact ⟨⟨hnonempty, fun hmem => absurd hmem hwild, hblank hoperation⟩, rfl⟩
  · have hneither : ¬ ("*" ∈ question.claim.operationIds ∨
        operationId ∈ question.claim.operationIds) := not_or.mpr ⟨hwild, hoperation⟩
    refine iff_of_true ⟨false, ?_, ?_, decide_eq_false hneither, decide_eq_false hneither⟩
      (.inr ⟨hwild, fun hmem => absurd hmem hoperation⟩)
    · rw [← Bool.not_eq_true, hmemory]
      exact not_or.mpr ⟨hhead, hoperation⟩
    · rw [if_neg (not_or.mpr ⟨hoperation, hwild⟩)]

end ScopeQuestion

namespace RouteRegistry

open ScopeQuestion

/-- **All components agree on a scope exactly when they read it alike**: for every claim that is
activated and so stored, and every operation, the four answers are the same if and only if the scope
starts with the wildcard, or does not contain it and has no blank entry beside the operation. -/
theorem scope_answers_agree_iff {registry after : RouteRegistry} {env : CallEnv}
    {returned : RouteRecord} {question : ScopeQuestion} {operationId : String}
    (haccepted : registry.activateRoute runtime env (some question.claim) = .ok (returned, after))
    (hnew : registry.getRoute question.claim.routeId = none)
    (hroute : after.getRoute question.claim.routeId = some question.route)
    (hrow : RouteDb.routeRow runtime question.route = .ok question.row)
    (hasked : question.Asks runtime operationId) :
    question.Agree runtime server ↔
      question.claim.operationIds.head? = some "*" ∨
        ("*" ∉ question.claim.operationIds ∧ (operationId ∈ question.claim.operationIds →
          ∀ entry ∈ question.claim.operationIds, isBlank entry = false)) := by
  refine agree_iff hasked ?_
  rcases activateRoute_new haccepted with rfl | ⟨claim, claimHash, version, hclaim, rfl, -, rfl⟩
  · rw [hnew] at hroute
    cases hroute
  have hparsed := parseVerifiedRouteClaim_eq_ok hclaim.parsed
  have hsame := Option.some.inj hparsed.1
  subst hsame
  have hstored : question.route = activatedRoute runtime env question.claim claimHash := by
    have hfound := @getRoute_upsert registry (activatedRoute runtime env question.claim claimHash)
      (registry.routeIdByClaimHash.upsert ⟨claimHash, question.claim.routeId⟩)
      (registry.versionsByRouteId.upsert ⟨question.claim.routeId, [version]⟩)
    exact Option.some.inj (hroute.symm.trans hfound)
  have hvalues := RouteDb.routeRow_eq_ok hrow
  refine ⟨hparsed.2.1, ?_, hvalues.1, ?_⟩
  · rw [hstored]
    rfl
  · rw [hvalues.2, hstored]
    rfl

end RouteRegistry

/-! ## Two scopes -/

namespace Sample

/-- A search, a sale and an offer of the quotes, asked of a claim that an engine has activated. -/
def quoteQuestion (runtime : RegistryRuntime Whole) (claim : ReferralClaimV1) (claimHash : String) :
    ScopeQuestion where
  claim := claim
  route := RouteRegistry.activatedRoute runtime registryEnv claim claimHash
  row := ⟨sampleRouteId, 1, campaignId, 1, referrerWallet, referrerWallet, "https://merchant.example",
    RouteRegistry.cloneOperationScope claim.operationIds, claimHash, RouteRegistry.cloneClaim claim,
    .active, 1767225600000, 1798761600000, "claim-0000000001", none, 1767225600000, 1767225600000⟩
  search := ⟨none, none, none, some "GET /v1/quote", .active, 50, registryNow⟩
  now := 1767225600000
  receipt := freeSale
  offer := { quoteOffer with operationId := "GET /v1/quote" }
  merchantOrigin := "https://merchant.example"
  serverNow := 1767225600000

variable {operationIds : List String} {value claimHash copyHash : String} {signature : List UInt8}

theorem routeRow_scoped :
    RouteDb.routeRow (scopedRuntime (scopedClaim operationIds value) claimHash copyHash signature)
      (quoteQuestion (scopedRuntime (scopedClaim operationIds value) claimHash copyHash signature)
        (scopedClaim operationIds value) ("sha256:" ++ claimHash)).route =
      .ok (quoteQuestion (scopedRuntime (scopedClaim operationIds value) claimHash copyHash signature)
        (scopedClaim operationIds value) ("sha256:" ++ claimHash)).row := by
  have hcolumn : ∀ text timestamp, postgresHost.parseTimestamptz text = some timestamp →
      RouteDb.timestamptzColumn
        (scopedRuntime (scopedClaim operationIds value) claimHash copyHash signature) text =
        .ok timestamp := fun _ _ h => RouteDb.timestamptzColumn_eq_ok.mpr h
  have hone : RouteDb.integerColumn 1 = .ok 1 := rfl
  have hissued := hcolumn "2026-01-01T00:00:00Z" 1767225600000 (by decide)
  have hexpires := hcolumn "2027-01-01T00:00:00Z" 1798761600000 (by decide)
  have hnow := hcolumn registryNow 1767225600000 (by decide)
  exact bind_eq_ok.mpr ⟨_, hone, bind_eq_ok.mpr ⟨_, hone, bind_eq_ok.mpr ⟨_, hissued,
    bind_eq_ok.mpr ⟨_, hexpires, bind_eq_ok.mpr ⟨_, hnow, bind_eq_ok.mpr ⟨_, hnow, rfl⟩⟩⟩⟩⟩⟩

theorem normalize_quotes : normalizeRouteSearchInput
    (scopedRuntime (scopedClaim operationIds value) claimHash copyHash signature)
    ⟨none, none, none, some "GET /v1/quote", none, none⟩ registryNow =
      .ok ⟨none, none, none, some "GET /v1/quote", .active, 50, registryNow⟩ := by
  have hlimit : assertSearchLimit none = .ok 50 := rfl
  have hoperation : Registry.assertNonEmptyString "GET /v1/quote" "operationId" =
    .ok "GET /v1/quote" := rfl
  have hnow : Registry.assertUtcTimestamp
      (scopedRuntime (scopedClaim operationIds value) claimHash copyHash signature) registryNow
        "now" = .ok registryNow := by
    rw [Registry.assertUtcTimestamp, assertThat_eq_ok]
    exact ⟨rfc3339UtcSchema_ofList rfl (by decide), rfl⟩
  refine bind_eq_ok.mpr ⟨_, hlimit, bind_eq_ok.mpr ⟨none, rfl, bind_eq_ok.mpr ⟨none, rfl,
    bind_eq_ok.mpr ⟨none, rfl, bind_eq_ok.mpr ⟨_, ?_, bind_eq_ok.mpr ⟨_, hnow, rfl⟩⟩⟩⟩⟩⟩
  exact map_eq_ok.mpr ⟨_, hoperation, rfl⟩

theorem asks_quotes : (quoteQuestion
    (scopedRuntime (scopedClaim operationIds value) claimHash copyHash signature)
    (scopedClaim operationIds value) ("sha256:" ++ claimHash)).Asks
      (scopedRuntime (scopedClaim operationIds value) claimHash copyHash signature)
      "GET /v1/quote" where
  normalized := ⟨_, _, normalize_quotes⟩
  searched := rfl
  matching := by
    have hunexpired : Registry.parsesNotAfter
        (scopedRuntime (scopedClaim operationIds value) claimHash copyHash signature)
        "2027-01-01T00:00:00Z" registryNow = false := by
      have hhost : (scopedRuntime (scopedClaim operationIds value) claimHash copyHash signature).host =
        postgresHost := rfl
      rw [Registry.parsesNotAfter, hhost]
      decide
    have hexpires : (quoteQuestion
      (scopedRuntime (scopedClaim operationIds value) claimHash copyHash signature)
      (scopedClaim operationIds value) ("sha256:" ++ claimHash)).route.expiresAt =
        "2027-01-01T00:00:00Z" := rfl
    rw [RouteRegistry.routeMatchesSearch, hexpires]
    show (_ && !(_ && Registry.parsesNotAfter _ _ registryNow) && _ && _ && _ && _) = true
    rw [hunexpired]
    rfl
  selected := rfl
  receipt := rfl
  offer := rfl

/-- The claim is let in and stored, and its route is the one the components are asked of. -/
theorem activated_scoped
    (hscope : (!operationIds.isEmpty && operationIds.all (· != "")) = true)
    (hvalue : base64UrlRegex value = true)
    (hsignature : base64UrlDecode value = .ok signature ∧ signature.length = 64) :
    ∃ returned after,
      RouteRegistry.empty.activateRoute
        (scopedRuntime (scopedClaim operationIds value) claimHash copyHash signature) registryEnv
        (some (scopedClaim operationIds value)) = .ok (returned, after) ∧
      after.getRoute sampleRouteId = some (quoteQuestion
        (scopedRuntime (scopedClaim operationIds value) claimHash copyHash signature)
        (scopedClaim operationIds value) ("sha256:" ++ claimHash)).route := by
  have hactivate := RouteRegistry.activateRoute_of_new scopedRuntime_standard
    (@scopedClaim_new claimHash copyHash signature operationIds value hscope hvalue hsignature)
  exact ⟨_, _, hactivate, RouteRegistry.getRoute_upsert⟩

def quotesClaim : ReferralClaimV1 := scopedClaim ["GET /v1/search", "GET /v1/quote"]
  "fd2YIxJp26T9obdYGou5qCTER-S-LHzf1TtJUhVI0UEtpwfD0-TUtXmhTzprjh-toKozj0mJ8e2nHEPlveezAA"

/-- The wildcard after an operation. -/
def trailingClaim : ReferralClaimV1 := scopedClaim ["GET /v1/search", "*"]
  "Os5khxRcmlvKYAcC-KkXJTCzUPjU22tdrSmazWT5Hbz2glR0tOkh5Str4UHDXMcW90g73XGvG0x2xKc7fAevDA"

def quotesSignature : List UInt8 :=
  [125, 221, 152, 35, 18, 105, 219, 164, 253, 161, 183, 88, 26, 139, 185, 168, 36, 196, 71, 228, 190,
    44, 124, 223, 213, 59, 73, 82, 21, 72, 209, 65, 45, 167, 7, 195, 211, 228, 212, 181, 121, 161, 79,
    58, 107, 142, 31, 173, 160, 170, 51, 143, 73, 137, 241, 237, 167, 28, 67, 229, 189, 231, 179, 0]

def trailingSignature : List UInt8 :=
  [58, 206, 100, 135, 20, 92, 154, 91, 202, 96, 7, 2, 248, 169, 23, 37, 48, 179, 80, 248, 212, 219,
    107, 93, 173, 41, 154, 205, 100, 249, 29, 188, 246, 130, 84, 116, 180, 233, 33, 229, 43, 107, 225,
    65, 195, 92, 199, 22, 247, 72, 59, 221, 113, 175, 27, 76, 118, 196, 167, 59, 124, 7, 175, 12]

def quotesClaimHash : String := "8425524ec635a2168a67a0773d710e42c87118eddeb31f0427c142ce9816fc24"

def trailingClaimHash : String :=
  "eb103881375b453b851f897f5a4d0bac53522fda1587b01410b87a6fb97d0347"

/-- Both claims are their own copies. -/
def quotesRuntime : RegistryRuntime Whole :=
  scopedRuntime quotesClaim quotesClaimHash quotesClaimHash quotesSignature

def trailingRuntime : RegistryRuntime Whole :=
  scopedRuntime trailingClaim trailingClaimHash trailingClaimHash trailingSignature

end Sample

namespace RouteRegistry

open Sample

theorem scope_answers_agree_quotesClaim :
    (quoteQuestion quotesRuntime quotesClaim ("sha256:" ++ quotesClaimHash)).Agree quotesRuntime
      offerRuntime := by
  obtain ⟨returned, after, haccepted, hroute⟩ := @activated_scoped ["GET /v1/search", "GET /v1/quote"]
    quotesClaim.signature.value quotesClaimHash quotesClaimHash quotesSignature (by decide)
    (base64UrlRegex_ofList (by decide)) ⟨base64UrlDecode_ofList (by decide) (by decide +kernel), rfl⟩
  have hagree := @scope_answers_agree_iff _ quotesRuntime offerRuntime .empty after registryEnv returned
    (quoteQuestion quotesRuntime quotesClaim ("sha256:" ++ quotesClaimHash)) "GET /v1/quote" haccepted
    rfl hroute routeRow_scoped asks_quotes
  have hblank : ∀ entry ∈ ["GET /v1/search", "GET /v1/quote"], isBlank entry = false := by decide
  have hwild : "*" ∉ ["GET /v1/search", "GET /v1/quote"] := by decide
  exact hagree.mpr (.inr ⟨hwild, fun _ => hblank⟩)

/-- The policy and the merchant take the claim to cover the operation, the search does not. -/
theorem not_scope_answers_agree :
    ¬ ∀ (registry : RouteRegistry) (env : CallEnv) (returned : RouteRecord) (after : RouteRegistry)
      (question : ScopeQuestion) (operationId : String),
      registry.activateRoute trailingRuntime env (some question.claim) = .ok (returned, after) →
      registry.getRoute question.claim.routeId = none →
      after.getRoute question.claim.routeId = some question.route →
      RouteDb.routeRow trailingRuntime question.route = .ok question.row →
      question.Asks trailingRuntime operationId → question.Agree trailingRuntime offerRuntime := by
  intro h
  obtain ⟨returned, after, haccepted, hroute⟩ := @activated_scoped ["GET /v1/search", "*"]
    trailingClaim.signature.value trailingClaimHash trailingClaimHash trailingSignature (by decide)
    (base64UrlRegex_ofList (by decide)) ⟨base64UrlDecode_ofList (by decide) (by decide +kernel), rfl⟩
  have hasked : (quoteQuestion trailingRuntime trailingClaim ("sha256:" ++ trailingClaimHash)).Asks
    trailingRuntime "GET /v1/quote" := asks_quotes
  obtain ⟨answer, hanswers⟩ := h .empty registryEnv returned after
    (quoteQuestion trailingRuntime trailingClaim ("sha256:" ++ trailingClaimHash)) "GET /v1/quote"
    haccepted rfl hroute routeRow_scoped hasked
  simp only [ScopeQuestion.answers, List.forall_mem_cons, Except.ok.injEq] at hanswers
  obtain ⟨hmemory, -, hpolicy, -⟩ := hanswers
  rw [hasked.memory] at hmemory
  have hsearch : routeCoversOperation ["GET /v1/search", "*"] "GET /v1/quote" = answer := hmemory
  have hwild : "*" ∈ ["GET /v1/search", "*"] := by decide
  have htaken : answer = true := hpolicy.symm.trans
    (decide_eq_true (ScopeQuestion.verifier_answer.mpr (.inl hwild)))
  rw [htaken] at hsearch
  exact absurd hsearch (by decide)

end RouteRegistry

end Split402

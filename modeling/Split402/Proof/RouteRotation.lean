import Split402.Proof.CampaignTerms

/-! # Rotations of payout wallets

A rotation is let in when the referrer has signed its claim and the route has not had the claim, by
its hash, before. So claims that were signed earlier do not bring their wallets back, except those that
the route has never had in the spelling in which they are submitted. -/

namespace Split402

open Base

variable {ν : Type} {runtime : RegistryRuntime ν}

/-- What a referrer has signed with its key: the claims in the order of their issue, each with its own
content; and a message verifies under the key only with the signature of the claim it is of. -/
structure SignedClaims (runtime : RegistryRuntime ν) (referrerWallet : String) (key : List UInt8)
    (signed : List ReferralClaimV1) : Prop where
  decodes : base58Decode referrerWallet = .ok key
  distinct : signed.Pairwise (fun a b => ¬ SameContent a b)
  ordered : signed.Pairwise (fun a b => Registry.parsesAfter runtime a.issuedAt b.issuedAt = false)
  verifies : ∀ (message : ByteArray) (signature : List UInt8), signature.length = 64 →
    runtime.nodeVerify key message signature = true →
    ∃ claim ∈ signed, message = claimSigningBytes runtime.toRuntime claim ∧
      base64UrlDecode claim.signature.value = .ok signature

theorem SameContent.payoutWallet {a b : ReferralClaimV1} (h : SameContent a b) :
    a.payoutWallet = b.payoutWallet := by
  have heq : a = { b with signature := a.signature } := h
  exact (congrArg ReferralClaimV1.payoutWallet heq).trans rfl

/-- A claim of the referrer that is let in says what one of the signed claims says. -/
theorem SignedClaims.of_parsed (hstd : runtime.toRuntime.Standard)
    (hcounts : CountsApart runtime.toRuntime) {referrerWallet : String} {key : List UInt8}
    {signed : List ReferralClaimV1} (h : SignedClaims runtime referrerWallet key signed)
    {claimInput : Option ReferralClaimV1} {claim : ReferralClaimV1}
    (hparsed : RouteRegistry.parseVerifiedRouteClaim runtime claimInput = .ok claim)
    (hreferrer : claim.referrerWallet = referrerWallet) :
    ∃ own ∈ signed, SameContent claim own := by
  obtain ⟨-, -, hsigner, hverified⟩ := (parseVerifiedRouteClaim_iff hstd).mp hparsed
  obtain ⟨key', bytes, hkey, -, hlength, hverify⟩ := signed_of_safeVerify hverified
  rw [hsigner, hreferrer, h.decodes, Except.ok.injEq] at hkey
  rw [← hkey] at hverify
  obtain ⟨own, hown, hmessage, -⟩ := h.verifies _ _ hlength hverify
  exact ⟨own, hown, sameContent_of_claimSigningBytes_eq hstd hcounts hmessage⟩

/-! ## Runs -/

namespace RouteRegistry

/-- A route pays the wallet of its current claim. -/
def PaysClaim (registry : RouteRegistry) : Prop :=
  ∀ route ∈ registry.routesById, route.payoutWallet = route.claim.payoutWallet

theorem paysClaim_empty : PaysClaim .empty := fun _ h => absurd h Table.not_mem_empty

variable {registry after : RouteRegistry} {env : CallEnv} {route : RouteRecord}

theorem PaysClaim.activateRoute (h : registry.PaysClaim) {claimInput : Option ReferralClaimV1}
    (hcall : registry.activateRoute runtime env claimInput = .ok (route, after)) :
    after.PaysClaim := by
  rcases activateRoute_eq_ok hcall with rfl | ⟨claim, claimHash, version, -, -, hroute, -, rfl⟩
  · exact h
  intro r hr
  rcases Table.mem_upsert.mp hr with rfl | ⟨hr, -⟩
  · rw [hroute]
    rfl
  · exact h r hr

theorem PaysClaim.rotateRoutePayout (h : registry.PaysClaim) {routeId : String}
    {claimInput : Option ReferralClaimV1}
    (hcall : registry.rotateRoutePayout runtime env routeId claimInput = .ok (route, after)) :
    after.PaysClaim := by
  rcases rotateRoutePayout_eq_ok hcall with
    rfl | ⟨existing, claim, claimHash, version, -, -, hroute, -, rfl⟩
  · exact h
  intro r hr
  rcases Table.mem_upsert.mp hr with rfl | ⟨hr, -⟩
  · rw [hroute]
    rfl
  · exact h r hr

theorem PaysClaim.moveRoute (h : registry.PaysClaim) {source target : RouteStatus}
    {verb routeId : String} {moved : Option RouteRecord}
    (hcall : registry.moveRoute source target verb routeId = .ok (moved, after)) :
    after.PaysClaim := by
  rcases moveRoute_eq_ok hcall with rfl | ⟨existing, hexisting, rfl⟩
  · exact h
  intro r hr
  rcases Table.mem_upsert.mp hr with rfl | ⟨hr, -⟩
  · exact h existing (Table.mem_of_find? hexisting)
  · exact h r hr

end RouteRegistry

namespace Registries

open RouteRegistry

variable {s s' t : Registries ν}

theorem paysClaim_of_reachable (h : (system runtime).Reachable (fun _ _ => True) s) :
    s.routes.PaysClaim := by
  refine System.Reachable.invariant (P := fun s => s.routes.PaysClaim) h ?_ ?_
  · intro s hs
    rw [show s = empty from hs]
    exact paysClaim_empty
  · intro s call s' _ hpays _ hstep
    rw [show s' = s.after runtime call from hstep]
    have hchange := @changesRoutes_after ν runtime s call
    generalize (s.after runtime call).routes = routes at hchange
    cases hchange with
    | none => exact hpays
    | activate hcall => exact hpays.activateRoute hcall
    | rotate hcall => exact hpays.rotateRoutePayout hcall
    | move hcall => exact hpays.moveRoute hcall

/-! ## Claims in their order -/

/-- The wallet is that of a claim that was signed at or after the `i`th place. -/
def PaysFrom (signed : List ReferralClaimV1) (i : Nat) (wallet : String) : Prop :=
  ∃ j claim, i ≤ j ∧ signed[j]? = some claim ∧ claim.payoutWallet = wallet

/-- The call submits a claim that was signed before the `i`th: it passes the checks of a rotation,
the route has not had its hash, and its wallet is not one that was signed for again. -/
def RollsBack (runtime : RegistryRuntime ν) (signed : List ReferralClaimV1) (i : Nat)
    (routeId : String) (s : Registries ν) : RegistryCall ν → Prop
  | .rotateRoutePayout env id claimInput => id = routeId ∧ ∃ existing claim claimHash k earlier,
      s.routes.checkRotation runtime env id claimInput = .ok (existing, claim, claimHash) ∧
      IsNewClaim s.routes id existing claimHash ∧
      k < i ∧ signed[k]? = some earlier ∧ SameContent claim earlier ∧
      ¬ PaysFrom signed i earlier.payoutWallet
  | _ => False

/-- The route is the referrer's, and pays a wallet that was signed for at or after the `i`th place. -/
def PaysRecent (signed : List ReferralClaimV1) (i : Nat) (routeId referrerWallet : String)
    (s : Registries ν) : Prop :=
  ∃ route, s.routes.routesById.find? routeId = some route ∧
    route.referrerWallet = referrerWallet ∧ PaysFrom signed i route.payoutWallet

variable {referrerWallet routeId : String} {key : List UInt8} {signed : List ReferralClaimV1}
  {i : Nat}

theorem PaysRecent.step (hstd : runtime.toRuntime.Standard) (hcounts : CountsApart runtime.toRuntime)
    (hsigned : SignedClaims runtime referrerWallet key signed)
    (h : PaysRecent signed i routeId referrerWallet s) {call : RegistryCall ν}
    (hok : ¬ RollsBack runtime signed i routeId s call) :
    PaysRecent signed i routeId referrerWallet (s.after runtime call) := by
  obtain ⟨current, hcurrent, hreferrer, hpays⟩ := h
  have hchange := @changesRoutes_after ν runtime s call
  generalize hrouted : (s.after runtime call).routes = routes at hchange
  unfold PaysRecent
  rw [hrouted]
  cases hchange with
  | none => exact ⟨current, hcurrent, hreferrer, hpays⟩
  | @activate env claimInput route routes hcall =>
      rcases activateRoute_eq_ok hcall with
        rfl | ⟨claim, claimHash, version, -, hnew, hroute, -, rfl⟩
      · exact ⟨current, hcurrent, hreferrer, hpays⟩
      · refine ⟨current, ?_, hreferrer, hpays⟩
        have hother : ¬ (activatedRoute runtime env claim claimHash).id = routeId := by
          intro hsame
          rw [Table.has_eq_false] at hnew
          exact hnew current (Table.mem_of_find? hcurrent) ((Table.key_of_find? hcurrent).trans
            hsame.symm)
        rw [Table.find?_upsert, hroute, if_neg hother]
        exact hcurrent
  | @rotate env id claimInput route routes hcall =>
      rcases rotateRoutePayout_eq_ok hcall with
        rfl | ⟨existing, claim, claimHash, version, hcheck, hnew, hroute, -, rfl⟩
      · exact ⟨current, hcurrent, hreferrer, hpays⟩
      have hchecked := checkRotation_eq_ok hcheck
      have hid : existing.id = id := Table.key_of_find? hchecked.found
      have hrouteId : route.id = id := by
        rw [hroute]
        exact hid
      by_cases hsame : id = routeId
      · -- the claim is one the referrer has signed
        have hexisting : existing = current := by
          have hfound := hchecked.found
          rw [hsame, hcurrent] at hfound
          exact (Option.some.inj hfound).symm
        have hclaimReferrer : claim.referrerWallet = referrerWallet := by
          rw [hchecked.referrerWallet, hexisting, hreferrer]
        obtain ⟨own, hmem, hcontent⟩ := hsigned.of_parsed hstd hcounts hchecked.parsed hclaimReferrer
        obtain ⟨k, hk⟩ := List.mem_iff_getElem?.mp hmem
        refine ⟨route, ?_, ?_, ?_⟩
        · rw [Table.find?_upsert, if_pos (hrouteId.trans hsame)]
        · have hkept : route.referrerWallet = existing.referrerWallet := by
            rw [hroute]
            rfl
          rw [hkept, hexisting, hreferrer]
        · have hpaid : route.payoutWallet = own.payoutWallet := by
            rw [hroute]
            exact hcontent.payoutWallet
          rw [hpaid]
          by_cases hearlier : k < i
          · by_contra hnever
            exact hok ⟨hsame, existing, claim, claimHash, k, own, hcheck, hnew, hearlier, hk, hcontent,
              hnever⟩
          · exact ⟨k, own, by omega, hk, rfl⟩
      · refine ⟨current, ?_, hreferrer, hpays⟩
        rw [Table.find?_upsert, if_neg (fun h => hsame (hrouteId.symm.trans h))]
        exact hcurrent
  | @move call source target verb id moved routes hcall =>
      rcases moveRoute_eq_ok hcall with rfl | ⟨existing, hexisting, rfl⟩
      · exact ⟨current, hcurrent, hreferrer, hpays⟩
      by_cases hsame : existing.id = routeId
      · have hexisting' : s.routes.routesById.find? existing.id = some existing :=
          Table.find?_of_mem (Table.mem_of_find? hexisting)
        rw [hsame, hcurrent, Option.some.injEq] at hexisting'
        subst hexisting'
        refine ⟨{ current with status := target }, ?_, hreferrer, hpays⟩
        rw [Table.find?_upsert]
        exact if_pos hsame
      · refine ⟨current, ?_, hreferrer, hpays⟩
        rw [Table.find?_upsert, if_neg (show ¬ existing.id = routeId from hsame)]
        exact hcurrent

/-- **A rotation is not rolled back** along a run in which no call submits an earlier claim that the
route has never had: once the `i`th claim is the current one, the route pays a wallet that was signed
for then or later. -/
theorem payout_not_rolled_back (hstd : runtime.toRuntime.Standard)
    (hcounts : CountsApart runtime.toRuntime)
    (hsigned : SignedClaims runtime referrerWallet key signed)
    (hs : (system runtime).Reachable (fun _ _ => True) s) {route : RouteRecord}
    (hroute : s.routes.routesById.find? routeId = some route)
    (hreferrer : route.referrerWallet = referrerWallet) {claim own : ReferralClaimV1}
    (hown : signed[i]? = some own) (hcontent : SameContent claim own)
    (hcurrent : route.claim = cloneClaim claim)
    (hrun : (system runtime).Run (fun s call => ¬ RollsBack runtime signed i routeId s call) s t) :
    ∃ current, t.routes.routesById.find? routeId = some current ∧
      PaysFrom signed i current.payoutWallet := by
  have hwallet : route.payoutWallet = own.payoutWallet := by
    rw [paysClaim_of_reachable hs route (Table.mem_of_find? hroute), hcurrent]
    exact hcontent.payoutWallet
  have hstart : PaysRecent signed i routeId referrerWallet s :=
    ⟨route, hroute, hreferrer, i, own, le_refl i, hown, hwallet.symm⟩
  have hend : PaysRecent signed i routeId referrerWallet t := by
    refine System.Run.invariant (P := PaysRecent signed i routeId referrerWallet) hrun hstart ?_
    intro s call s' hpays hok hstep
    rw [show s' = s.after runtime call from hstep]
    exact hpays.step hstd hcounts hsigned hok
  obtain ⟨current, hfound, -, hpays⟩ := hend
  exact ⟨current, hfound, hpays⟩

end Registries

/-! ## Two claims of a route -/

namespace Sample

open RouteRegistry

section Rotation

variable {registry : RouteRegistry} {existing : RouteRecord} {claim : ReferralClaimV1}
  {claimHash : String}

/-- The routes after a claim has rotated the payout wallet. -/
def rotatedRoutes (registry : RouteRegistry) (existing : RouteRecord) (claim : ReferralClaimV1)
    (claimHash : String) : RouteRegistry :=
  let rotated := rotatedRoute existing claim ("sha256:" ++ claimHash)
  { routesById := registry.routesById.upsert rotated
    routeIdByClaimHash := registry.routeIdByClaimHash.upsert ⟨"sha256:" ++ claimHash, sampleRouteId⟩
    versionsByRouteId := registry.versionsByRouteId.upsert
      ⟨sampleRouteId, registry.versionsOf sampleRouteId ++
        [createRouteVersionRecord rotated claim rotated.currentVersion registryNow]⟩ }

theorem checkRotation_sample (h : SampleClaim claim claimHash)
    (hfound : registry.routesById.find? sampleRouteId = some existing)
    (hactive : existing.status = .active) (hagrees : assertRoutePayoutRotation existing claim = .ok ())
    (hentry : ∀ entry, registry.routeIdByClaimHash.find? ("sha256:" ++ claimHash) = some entry →
      entry.routeId = sampleRouteId) :
    registry.checkRotation registryRuntime registryEnv sampleRouteId (some claim) =
      .ok (existing, claim, "sha256:" ++ claimHash) := by
  have hid : Registry.assertSplit402Id sampleRouteId "route id" = .ok sampleRouteId := by
    decide
  unfold checkRotation
  refine bind_eq_ok.mpr ⟨_, hid, ?_⟩
  rw [hfound]
  refine bind_eq_ok.mpr ⟨(), throwIf_eq_ok.mpr (not_not.mpr hactive),
    bind_eq_ok.mpr ⟨_, h.parsed, bind_eq_ok.mpr ⟨(), hagrees, bind_eq_ok.mpr ⟨(), h.range,
    bind_eq_ok.mpr ⟨(), h.unexpired, bind_eq_ok.mpr ⟨_, ofProtocolError_eq_ok.mpr h.hashed, ?_⟩⟩⟩⟩⟩⟩
  cases hknown : registry.routeIdByClaimHash.find? ("sha256:" ++ claimHash) with
  | none => rfl
  | some entry =>
      refine bind_eq_ok.mpr ⟨(), throwIf_eq_ok.mpr (not_not.mpr (hentry entry hknown)), rfl⟩

theorem apply_rotation {campaigns : CampaignRegistry Whole}
    (hcheck : registry.checkRotation registryRuntime registryEnv sampleRouteId (some claim) =
      .ok (existing, claim, "sha256:" ++ claimHash))
    (hnew : IsNewClaim registry sampleRouteId existing ("sha256:" ++ claimHash)) :
    Registries.apply registryRuntime ⟨.empty, campaigns, registry⟩
      (.rotateRoutePayout registryEnv sampleRouteId (some claim)) =
        .ok ⟨.empty, campaigns, rotatedRoutes registry existing claim claimHash⟩ := by
  have hsigning := ofProtocolError_eq_ok.mpr
    (buildReferralClaimSigningBytes_eq registryRuntime_standard claim)
  have hnow : registryRuntime.host.toISOString registryEnv.clock = registryNow := now_registryEnv
  have hrotate : registry.rotateRoutePayout registryRuntime registryEnv sampleRouteId (some claim) =
      .ok (rotatedRoute existing claim ("sha256:" ++ claimHash),
        rotatedRoutes registry existing claim claimHash) := by
    unfold rotateRoutePayout
    refine bind_eq_ok.mpr ⟨_, hcheck, ?_⟩
    dsimp only
    rw [hnew.1, if_neg Bool.false_ne_true, if_neg hnew.2, hnow]
    exact bind_eq_ok.mpr ⟨_, hsigning, rfl⟩
  exact bind_eq_ok.mpr ⟨_, hrotate, rfl⟩

end Rotation

/-- The claims in the order in which the referrer has signed them. -/
def signedClaims : List ReferralClaimV1 := [firstClaim, secondClaim]

theorem registryRuntime_counts : CountsApart registryRuntime.toRuntime := offerRuntime_counts

theorem signedClaims_sample :
    SignedClaims registryRuntime referrerWallet referrerKeyBytes signedClaims where
  decodes := referrerKey_decodes.1
  distinct := by
    have hwallets : firstClaim.payoutWallet ≠ secondClaim.payoutWallet := by decide
    refine List.pairwise_pair.mpr ?_
    intro hsame
    exact hwallets hsame.payoutWallet
  ordered := List.pairwise_pair.mpr (by decide)
  verifies := by
    intro message signature _ hverify
    have hmerchant : (referrerKeyBytes == merchantKeyBytes) = false := by decide
    have hknown : registryVerify referrerKeyBytes message signature = true := hverify
    rw [registryVerify, hmerchant, Bool.false_and, Bool.false_or, Bool.and_eq_true] at hknown
    obtain ⟨entry, hmem, hentry⟩ := List.any_eq_true.mp hknown.2
    rw [Bool.and_eq_true, beq_iff_eq, decide_eq_true_eq] at hentry
    have hown : entry.1 ∈ signedClaims ∧ base64UrlDecode entry.1.signature.value = .ok entry.2 := by
      rcases List.mem_cons.mp hmem with rfl | hmem
      · exact ⟨List.mem_cons_self, by decide +kernel⟩
      · rw [List.mem_singleton.mp hmem]
        exact ⟨List.mem_cons_of_mem _ List.mem_cons_self, by decide +kernel⟩
    rw [hentry.1]
    exact ⟨entry.1, hown.1, hentry.2, hown.2⟩

/-- The route as the first claim activates it, and as the second rotates it. -/
def firstRoute : RouteRecord :=
  activatedRoute registryRuntime registryEnv firstClaim ("sha256:" ++ firstClaimHash)

def secondRoute : RouteRecord := rotatedRoute firstRoute secondClaim ("sha256:" ++ secondClaimHash)

def firstRoutes : RouteRegistry := activatedRoutes firstClaim firstClaimHash

def secondRoutes : RouteRegistry := rotatedRoutes firstRoutes firstRoute secondClaim secondClaimHash

def rotatedRegistries : Registries Whole := ⟨.empty, .empty, secondRoutes⟩

theorem apply_secondClaim : Registries.apply registryRuntime ⟨.empty, .empty, firstRoutes⟩
    (.rotateRoutePayout registryEnv sampleRouteId (some secondClaim)) = .ok rotatedRegistries := by
  have hcheck : firstRoutes.checkRotation registryRuntime registryEnv sampleRouteId
      (some secondClaim) = .ok (firstRoute, secondClaim, "sha256:" ++ secondClaimHash) := by
    refine checkRotation_sample secondClaim_sample rfl rfl rfl ?_
    intro entry hentry
    rw [Table.mem_upsert.mp (Table.mem_of_find? hentry) |>.resolve_right
      (fun h => Table.not_mem_empty h.1)]
    rfl
  exact apply_rotation hcheck ⟨by decide, by decide⟩

theorem reachable_rotatedRegistries :
    (Registries.system registryRuntime).Reachable (fun _ _ => True) rotatedRegistries := by
  have hactivated : (Registries.system registryRuntime).Reachable (fun _ _ => True)
      ⟨.empty, .empty, firstRoutes⟩ :=
    .step (.init rfl) trivial (Registries.after_of_apply (apply_claim firstClaim_sample)).symm
  exact .step hactivated trivial (Registries.after_of_apply apply_secondClaim).symm

theorem secondRoute_current : secondRoute.claim = cloneClaim secondClaim := rfl

/-- The first claim as it is spelled is known to the route. -/
theorem firstClaim_known : ¬ Registries.RollsBack registryRuntime signedClaims 1 sampleRouteId
    rotatedRegistries (.rotateRoutePayout registryEnv sampleRouteId (some firstClaim)) := by
  rintro ⟨-, existing, claim, claimHash, _, _, hcheck, hnew, -⟩
  have hknown : secondRoutes.checkRotation registryRuntime registryEnv sampleRouteId
      (some firstClaim) = .ok (secondRoute, firstClaim, "sha256:" ++ firstClaimHash) := by
    refine checkRotation_sample firstClaim_sample rfl rfl rfl ?_
    intro entry hentry
    rcases Table.mem_upsert.mp (Table.mem_of_find? hentry) with rfl | ⟨hentry, -⟩
    · rfl
    · rcases Table.mem_upsert.mp hentry with rfl | ⟨hentry, -⟩
      · rfl
      · exact absurd hentry Table.not_mem_empty
  have hsame : (existing, claim, claimHash) =
      (secondRoute, firstClaim, "sha256:" ++ firstClaimHash) :=
    Except.ok.inj (hcheck.symm.trans hknown)
  simp only [Prod.mk.injEq] at hsame
  rw [hsame.2.2] at hnew
  have hhad : (secondRoutes.versionsOf sampleRouteId).any
      (·.claimHash = "sha256:" ++ firstClaimHash) = true := by decide
  exact absurd (hnew.1.symm.trans hhad) Bool.false_ne_true

end Sample

/-- The first claim is submitted once more: the route goes on paying the wallet of the second. -/
theorem Registries.payout_not_rolled_back_firstClaim : ∃ current,
    (Sample.rotatedRegistries.after Sample.registryRuntime (.rotateRoutePayout Sample.registryEnv
      Sample.sampleRouteId (some Sample.firstClaim))).routes.routesById.find?
        Sample.sampleRouteId = some current ∧
    Registries.PaysFrom Sample.signedClaims 1 current.payoutWallet :=
  Registries.payout_not_rolled_back Sample.registryRuntime_standard Sample.registryRuntime_counts
    Sample.signedClaims_sample Sample.reachable_rotatedRegistries
    (show _ = some Sample.secondRoute from rfl) rfl rfl
    (show SameContent Sample.secondClaim Sample.secondClaim from rfl) Sample.secondRoute_current
    (.tail (.refl _) Sample.firstClaim_known rfl)

namespace Sample

def respelledRoute : RouteRecord :=
  RouteRegistry.rotatedRoute secondRoute respelledClaim ("sha256:" ++ respelledClaimHash)

/-- The routes after the first claim is submitted in another spelling. -/
def respelledRoutes : RouteRegistry :=
  rotatedRoutes secondRoutes secondRoute respelledClaim respelledClaimHash

theorem respelledClaim_sample : SampleClaim respelledClaim respelledClaimHash where
  parsed := by
    have hverifies : safeVerify registryRuntime.toRuntime
        (claimSigningBytes registryRuntime.toRuntime respelledClaim)
        respelledClaim.signature.publicKey respelledClaim.signature.value = true := by
      refine claim_verifies List.mem_cons_self rfl ?_ rfl
      decide +kernel
    exact (parseVerifiedRouteClaim_iff registryRuntime_standard).mpr
      ⟨rfl, by decide +kernel, rfl, hverifies⟩
  range := firstClaim_sample.range
  unexpired := firstClaim_sample.unexpired
  hashed := by
    rw [hashReferralClaim_sample, digest_respelledClaim]

theorem apply_respelledClaim : Registries.apply registryRuntime rotatedRegistries
    (.rotateRoutePayout registryEnv sampleRouteId (some respelledClaim)) =
      .ok ⟨.empty, .empty, respelledRoutes⟩ := by
  have hcheck : secondRoutes.checkRotation registryRuntime registryEnv sampleRouteId
      (some respelledClaim) = .ok (secondRoute, respelledClaim, "sha256:" ++ respelledClaimHash) := by
    refine checkRotation_sample respelledClaim_sample rfl rfl rfl ?_
    intro entry hentry
    rcases Table.mem_upsert.mp (Table.mem_of_find? hentry) with rfl | ⟨hentry, -⟩
    · rfl
    · rcases Table.mem_upsert.mp hentry with rfl | ⟨hentry, -⟩
      · rfl
      · exact absurd hentry Table.not_mem_empty
  exact apply_rotation hcheck ⟨by decide, by decide⟩

end Sample

/-- The first claim in another spelling brings its wallet back. -/
theorem not_payout_not_rolled_back : ¬ ∀ (runtime : RegistryRuntime Whole)
    (referrerWallet routeId : String) (key : List UInt8) (signed : List ReferralClaimV1) (i : Nat)
    (s t : Registries Whole) (route : RouteRecord) (claim own : ReferralClaimV1),
    runtime.toRuntime.Standard → CountsApart runtime.toRuntime →
    SignedClaims runtime referrerWallet key signed →
    (Registries.system runtime).Reachable (fun _ _ => True) s →
    s.routes.routesById.find? routeId = some route → route.referrerWallet = referrerWallet →
    signed[i]? = some own → SameContent claim own →
    route.claim = RouteRegistry.cloneClaim claim →
    (Registries.system runtime).Run (fun _ _ => True) s t →
    ∃ current, t.routes.routesById.find? routeId = some current ∧
      Registries.PaysFrom signed i current.payoutWallet := by
  intro hall
  have hrun : (Registries.system Sample.registryRuntime).Run (fun _ _ => True)
      Sample.rotatedRegistries ⟨.empty, .empty, Sample.respelledRoutes⟩ :=
    .tail (.refl _) trivial (Registries.after_of_apply Sample.apply_respelledClaim).symm
  obtain ⟨current, hfound, j, claim, hj, hclaim, hpays⟩ := hall _ Sample.referrerWallet
    Sample.sampleRouteId _ _ 1 _ _ Sample.secondRoute Sample.secondClaim Sample.secondClaim
    Sample.registryRuntime_standard Sample.registryRuntime_counts Sample.signedClaims_sample
    Sample.reachable_rotatedRegistries rfl rfl rfl rfl Sample.secondRoute_current hrun
  have hcurrent : some Sample.respelledRoute = some current := hfound
  have hwallet : current.payoutWallet = Sample.referrerWallet := by
    rw [← Option.some.inj hcurrent]
    rfl
  have hlast : claim = Sample.secondClaim := by
    have hlength : j < Sample.signedClaims.length := (List.getElem?_eq_some_iff.mp hclaim).1
    have hone : j = 1 := by
      have htwo : Sample.signedClaims.length = 2 := rfl
      omega
    rw [hone] at hclaim
    exact (Option.some.inj hclaim).symm
  rw [hlast, hwallet] at hpays
  exact absurd hpays (by decide +kernel)

end Split402

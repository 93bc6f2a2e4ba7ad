import Split402.Proof.RouteClaims
import Split402.Registry.MerchantStores

/-! # Revoked keys

A key is looked up as of a time, and its revocation is one time that every later revocation writes
over. So a key that is revoked stays revoked only as long as nobody revokes it again for a later time
at which it would be valid. -/

namespace Split402

open Base

variable {ν : Type} {runtime : RegistryRuntime ν}

/-! ## In memory -/

namespace MerchantStore

/-- The key is valid at a time. -/
def isLiveAt (runtime : RegistryRuntime ν) (key : MerchantKeyRecord) (time : Int) : Bool :=
  !(runtime.host.dateParse key.validFrom).any (time < ·) &&
    !key.validUntil.any (MerchantRegistry.hasPassed runtime · time) &&
    !key.revokedAt.any (MerchantRegistry.hasPassed runtime · time)

theorem isKeyValidAt_eq_ok {key : MerchantKeyRecord} {at' : String} {valid : Bool} :
    MerchantRegistry.isKeyValidAt runtime key at' = .ok valid ↔
      ∃ time, MerchantRegistry.assertUtcTimestamp runtime at' = .ok time ∧
        isLiveAt runtime key time = valid := by
  have hlive : ∀ time, (if (runtime.host.dateParse key.validFrom).any (time < ·) then pure false
      else if key.validUntil.any (MerchantRegistry.hasPassed runtime · time) then pure false
      else if key.revokedAt.any (MerchantRegistry.hasPassed runtime · time) then pure false
      else pure true : Except RegistryError Bool) = .ok (isLiveAt runtime key time) := by
    intro time
    unfold isLiveAt
    cases (runtime.host.dateParse key.validFrom).any (time < ·) <;>
      cases key.validUntil.any (MerchantRegistry.hasPassed runtime · time) <;>
      cases key.revokedAt.any (MerchantRegistry.hasPassed runtime · time) <;> rfl
  unfold MerchantRegistry.isKeyValidAt
  rw [bind_eq_ok]
  simp only [hlive, Except.ok.injEq]

/-- The key is revoked, for the time or an earlier one. -/
def Revoked (runtime : RegistryRuntime ν) (store : MerchantStore) (kid : String) (time : Int) :
    Prop :=
  ∃ key, store.registry.keysByKid.find? kid = some key ∧
    key.revokedAt.any (MerchantRegistry.hasPassed runtime · time) = true

/-- The key is never returned as of the time or a later one. -/
def NeverResolves (runtime : RegistryRuntime ν) (store : MerchantStore) (kid : String) (time : Int) :
    Prop :=
  ∀ merchantId purpose at' later key,
    MerchantRegistry.assertUtcTimestamp runtime at' = .ok later → time ≤ later →
    store.registry.resolveKey runtime merchantId kid purpose at' ≠ .ok (some key)

/-- The call revokes the key anew, for a time before which and from `time` on it would be valid. -/
def Reopens (runtime : RegistryRuntime ν) (store : MerchantStore) (kid : String) (time : Int) :
    MerchantCall → Prop
  | .revokeKey env input => ∃ key revokedAt later, input.kid = kid ∧
      store.registry.keysByKid.find? kid = some key ∧ key.merchantId = input.merchantId ∧
      MerchantRegistry.assertUtcTimestamp runtime
        (input.revokedAt.getD (merchantNow runtime env)) = .ok revokedAt ∧
      input.reason.all (!isBlank ·) = true ∧ time ≤ later ∧ later < revokedAt ∧
      isLiveAt runtime { key with revokedAt := none } later = true
  | _ => False

variable {store store' : MerchantStore} {kid : String} {time : Int}

theorem resolveKey_eq_some {merchantId at' : String} {purpose : MerchantKeyPurpose}
    {key : MerchantKeyRecord}
    (h : store.registry.resolveKey runtime merchantId kid purpose at' = .ok (some key)) :
    store.registry.keysByKid.find? kid = some key ∧
      ∃ later, MerchantRegistry.assertUtcTimestamp runtime at' = .ok later ∧
        isLiveAt runtime key later = true := by
  unfold MerchantRegistry.resolveKey at h
  cases hfound : (store.registry.keysByKid.find? kid).filter
      (fun key => key.merchantId = merchantId ∧ key.purpose = purpose) with
  | none =>
      rw [hfound, pure_eq_ok] at h
      cases h
  | some found =>
      rw [hfound] at h
      obtain ⟨valid, hvalid, h⟩ := bind_eq_ok.mp h
      rw [pure_eq_ok] at h
      by_cases htrue : valid = true
      · rw [if_pos htrue, Option.some.injEq] at h
        subst h htrue
        exact ⟨(Option.filter_eq_some_iff.mp hfound).1, isKeyValidAt_eq_ok.mp hvalid⟩
      · rw [if_neg htrue] at h
        cases h

/-- The key is known, and valid at no time from `time` on. -/
def Dead (runtime : RegistryRuntime ν) (store : MerchantStore) (kid : String) (time : Int) : Prop :=
  ∃ key, store.registry.keysByKid.find? kid = some key ∧
    ∀ later, time ≤ later → isLiveAt runtime key later = false

theorem Dead.neverResolves (h : store.Dead runtime kid time) :
    store.NeverResolves runtime kid time := by
  obtain ⟨key, hkey, hdead⟩ := h
  intro merchantId purpose at' later resolved hat hlater hresolved
  obtain ⟨hfound, later', hat', hlive⟩ := resolveKey_eq_some hresolved
  rw [hkey, Option.some.injEq] at hfound
  rw [hat, Except.ok.injEq] at hat'
  subst hfound hat'
  rw [hdead later hlater] at hlive
  cases hlive

theorem hasPassed_of_le {text : String} {time later : Int} (hle : time ≤ later)
    (h : MerchantRegistry.hasPassed runtime text time = true) :
    MerchantRegistry.hasPassed runtime text later = true := by
  unfold MerchantRegistry.hasPassed at h ⊢
  cases hparse : runtime.host.dateParse text with
  | none =>
      rw [hparse] at h
      cases h
  | some parsed =>
      rw [hparse, Option.any_some, decide_eq_true_eq] at h
      rw [Option.any_some, decide_eq_true_eq]
      omega

theorem Revoked.dead (h : store.Revoked runtime kid time) : store.Dead runtime kid time := by
  obtain ⟨key, hkey, hrevoked⟩ := h
  refine ⟨key, hkey, ?_⟩
  intro later hlater
  cases hat : key.revokedAt with
  | none =>
      rw [hat] at hrevoked
      cases hrevoked
  | some text =>
      rw [hat, Option.any_some] at hrevoked
      simp [isLiveAt, hat, hasPassed_of_le hlater hrevoked]

/-! ### What a call does to the keys -/

/-- The call leaves the keys as they are. -/
def SameKeys (store store' : MerchantStore) : Prop :=
  store'.registry.keysByKid = store.registry.keysByKid

theorem sameKeys_createMerchant {env : CallEnv} {input : CreateMerchantInput} :
    Ensures (SameKeys store) (store.createMerchant env input) :=
  ensures_bind fun _ _ => ensures_bind fun _ _ => ensures_bind fun _ _ => ensures_bind fun _ _ =>
    ensures_bind fun _ _ => ensures_bind fun _ _ => ensures_pure rfl

theorem sameKeys_addOrigin {input : AddMerchantOriginInput} :
    Ensures (SameKeys store) (store.addOrigin runtime input) :=
  ensures_bind fun _ _ => ensures_bind fun _ _ => ensures_bind fun _ _ => ensures_pure rfl

theorem sameKeys_addPayoutWallet {env : CallEnv} {input : AddMerchantPayoutWalletInput} :
    Ensures (SameKeys store) (store.addPayoutWallet env input) :=
  ensures_bind fun _ _ => ensures_bind fun _ _ => ensures_bind fun _ _ => ensures_bind fun _ _ =>
    ensures_pure rfl

theorem sameKeys_updateMerchantStatus {merchantId : String} {status : MerchantStatus} :
    Ensures (SameKeys store) (store.updateMerchantStatus merchantId status) := by
  refine ensures_bind fun _ _ => ?_
  cases store.registry.merchants.find? merchantId with
  | none => exact ensures_pure rfl
  | some existing => exact ensures_pure rfl

theorem sameKeys_updateOriginStatus {env : CallEnv} {merchantId origin : String}
    {status : MerchantOriginStatus} {verifiedAt : Option String} :
    Ensures (SameKeys store)
      (store.updateOriginStatus runtime env merchantId origin status verifiedAt) := by
  refine ensures_bind fun _ _ => ?_
  cases store.registry.origins.find? (merchantId, origin) with
  | none => exact ensures_pure rfl
  | some existing => exact ensures_bind fun _ _ => ensures_pure rfl

theorem sameKeys_updatePayoutWalletStatus {merchantId payoutWalletId : String}
    {status : MerchantPayoutWalletStatus} :
    Ensures (SameKeys store) (store.updatePayoutWalletStatus merchantId payoutWalletId status) := by
  unfold updatePayoutWalletStatus
  cases (store.payoutWalletsById.find? payoutWalletId).filter
      (fun wallet => wallet.merchantId = merchantId) with
  | none => exact ensures_pure rfl
  | some existing => exact ensures_bind fun _ _ => ensures_pure rfl

/-- A new key has a kid that was free. -/
theorem find?_addKey {env : CallEnv} {input : AddMerchantKeyInput} {key : MerchantKeyRecord}
    (hkey : store.registry.keysByKid.find? kid = some key) :
    Ensures (fun store' => store'.registry.keysByKid.find? kid = some key)
      (store.addKey runtime env input) := by
  refine ensures_bind fun _ _ => ensures_bind fun added _ => ensures_bind fun _ hfree =>
    ensures_pure ?_
  rw [throwIf_eq_ok, Bool.not_eq_true, Table.has_eq_false] at hfree
  dsimp only
  rw [Table.find?_upsert, if_neg]
  · exact hkey
  · rintro rfl
    exact hfree key (Table.mem_of_find? hkey) (Table.key_of_find? hkey)

theorem checkTimestamp_eq_ok {value checked : String} :
    checkTimestamp runtime value = .ok checked ↔
      (∃ time, MerchantRegistry.assertUtcTimestamp runtime value = .ok time) ∧ value = checked := by
  rw [checkTimestamp, map_eq_ok]
  constructor
  · rintro ⟨time, htime, rfl⟩
    exact ⟨⟨time, htime⟩, rfl⟩
  · rintro ⟨⟨time, htime⟩, rfl⟩
    exact ⟨time, htime, rfl⟩

theorem dateParse_of_assert {value : String} {time : Int}
    (h : MerchantRegistry.assertUtcTimestamp runtime value = .ok time) :
    runtime.host.dateParse value = some time := by
  unfold MerchantRegistry.assertUtcTimestamp at h
  split at h
  · exact absurd h throw_ne_ok
  · rename_i parsed hparsed
    rw [pure_eq_ok] at h
    subst h
    exact (Option.filter_eq_some_iff.mp hparsed).1

theorem assertOptional_reason {reason checked : Option String}
    (h : Registry.assertOptional (Registry.assertNonEmptyString · "reason") reason = .ok checked) :
    reason.all (!isBlank ·) = true := by
  cases reason with
  | none => rfl
  | some text =>
      obtain ⟨_, hchecked, -⟩ := map_eq_ok.mp h
      exact (assertThat_eq_ok.mp hchecked).1

/-- A revocation that does not reopen the key leaves it dead. -/
theorem Dead.revokeKey {env : CallEnv} {input : RevokeMerchantKeyInput}
    (h : store.Dead runtime kid time) (hkept : ¬ store.Reopens runtime kid time (.revokeKey env input)) :
    Ensures (fun store' => store'.Dead runtime kid time) (store.revokeKey runtime env input) := by
  unfold MerchantStore.revokeKey
  cases hfound : (store.registry.keysByKid.find? input.kid).filter
      (fun key => key.merchantId = input.merchantId) with
  | none => exact ensures_pure h
  | some existing =>
      refine ensures_bind fun _ hreason => ensures_bind fun revokedAt hrevokedAt => ensures_pure ?_
      obtain ⟨hexisting, hmerchant⟩ := Option.filter_eq_some_iff.mp hfound
      rw [decide_eq_true_eq] at hmerchant
      obtain ⟨⟨parsed, hparsed⟩, rfl⟩ := checkTimestamp_eq_ok.mp hrevokedAt
      obtain ⟨key, hkey, hdead⟩ := h
      have hid : existing.kid = input.kid := Table.key_of_find? hexisting
      by_cases hsame : input.kid = kid
      · rw [hsame, hkey, Option.some.injEq] at hexisting
        subst hexisting
        refine ⟨revoked key (input.revokedAt.getD (merchantNow runtime env)), ?_, ?_⟩
        · dsimp only
          rw [Table.find?_upsert]
          exact if_pos (hid.trans hsame)
        · intro later hlater
          by_contra hlive
          rw [Bool.not_eq_false] at hlive
          simp only [isLiveAt, revoked, Bool.and_eq_true, Bool.not_eq_true', Option.any_some] at hlive
          obtain ⟨⟨hfrom, huntil⟩, hrevoked⟩ := hlive
          have hbefore : later < parsed := by
            rw [MerchantRegistry.hasPassed, dateParse_of_assert hparsed, Option.any_some,
              decide_eq_false_iff_not] at hrevoked
            omega
          refine hkept ⟨key, parsed, later, hsame, hkey, hmerchant, hparsed,
            assertOptional_reason hreason, hlater, hbefore, ?_⟩
          simp [isLiveAt, hfrom, huntil]
      · refine ⟨key, ?_, hdead⟩
        dsimp only
        rw [Table.find?_upsert, if_neg]
        · exact hkey
        · exact fun heq => hsame (hid.symm.trans heq)

theorem Dead.of_sameKeys (h : store.Dead runtime kid time) (hsame : SameKeys store store') :
    store'.Dead runtime kid time := by
  obtain ⟨key, hkey, hdead⟩ := h
  exact ⟨key, hsame ▸ hkey, hdead⟩

/-- One call that does not reopen the key. -/
theorem Dead.after {call : MerchantCall} (h : store.Dead runtime kid time)
    (hkept : ¬ store.Reopens runtime kid time call) : (store.after runtime call).Dead runtime kid time := by
  have happly : Ensures (fun store' => store'.Dead runtime kid time) (store.apply runtime call) := by
    cases call with
    | createMerchant env input => exact fun s hs => h.of_sameKeys (sameKeys_createMerchant s hs)
    | addOrigin env input => exact fun s hs => h.of_sameKeys (sameKeys_addOrigin s hs)
    | addKey env input =>
        obtain ⟨key, hkey, hdead⟩ := h
        exact fun s hs => ⟨key, find?_addKey hkey s hs, hdead⟩
    | addPayoutWallet env input => exact fun s hs => h.of_sameKeys (sameKeys_addPayoutWallet s hs)
    | revokeKey env input => exact h.revokeKey hkept
    | updateMerchantStatus merchantId status =>
        exact fun s hs => h.of_sameKeys (sameKeys_updateMerchantStatus s hs)
    | updateOriginStatus env merchantId origin status verifiedAt =>
        exact fun s hs => h.of_sameKeys (sameKeys_updateOriginStatus s hs)
    | updatePayoutWalletStatus merchantId payoutWalletId status =>
        exact fun s hs => h.of_sameKeys (sameKeys_updatePayoutWalletStatus s hs)
  unfold MerchantStore.after
  cases hcall : store.apply runtime call with
  | error e => exact h
  | ok s => exact happly s hcall

end MerchantStore

/-! ## In Postgres -/

namespace MerchantDb

/-- The key is revoked, for the time or an earlier one. -/
def Revoked (db : MerchantDb) (kid : String) (time : Int) : Prop :=
  ∃ row, db.merchantKeys.find? kid = some row ∧ row.revokedAt.any (· ≤ time) = true

/-- The key is never returned as of the time or a later one. -/
def NeverResolves (runtime : RegistryRuntime ν) (db : MerchantDb) (kid : String) (time : Int) : Prop :=
  ∀ merchantId purpose at' later key, runtime.host.parseTimestamptz at' = some later → time ≤ later →
    db.resolveKey runtime merchantId kid purpose at' ≠ .ok (some key)

/-- The call revokes the key anew, for a time before which and from `time` on it would be valid. -/
def Reopens (runtime : RegistryRuntime ν) (db : MerchantDb) (kid : String) (time : Int) :
    MerchantCall → Prop
  | .revokeKey env input => ∃ row revokedAt later, input.kid = kid ∧
      db.merchantKeys.find? kid = some row ∧ row.merchantId = input.merchantId ∧
      (∃ parsed, MerchantRegistry.assertUtcTimestamp runtime
        (input.revokedAt.getD (merchantNow runtime env)) = .ok parsed) ∧
      input.reason.all (!isBlank ·) = true ∧
      runtime.host.parseTimestamptz (input.revokedAt.getD (merchantNow runtime env)) =
        some revokedAt ∧
      time ≤ later ∧ later < revokedAt ∧ isValidAt { row with revokedAt := none } later = true
  | _ => False

variable {db db' : MerchantDb} {kid : String} {time : Int}

/-- The key is known, and valid at no time from `time` on. -/
def Dead (db : MerchantDb) (kid : String) (time : Int) : Prop :=
  ∃ row, db.merchantKeys.find? kid = some row ∧
    ∀ later, time ≤ later → isValidAt row later = false

theorem Dead.neverResolves (h : db.Dead kid time) : db.NeverResolves runtime kid time := by
  obtain ⟨row, hrow, hdead⟩ := h
  intro merchantId purpose at' later key hat hlater hresolved
  obtain ⟨checked, hchecked, hresolved⟩ := bind_eq_ok.mp hresolved
  obtain ⟨later', hat', hresolved⟩ := bind_eq_ok.mp hresolved
  obtain ⟨-, rfl⟩ := MerchantStore.checkTimestamp_eq_ok.mp hchecked
  rw [RouteDb.timestamptzColumn_eq_ok, hat, Option.some.injEq] at hat'
  subst hat'
  rw [pure_eq_ok, hrow, Option.map_eq_some_iff] at hresolved
  obtain ⟨found, hfound, -⟩ := hresolved
  obtain ⟨hsame, hvalid⟩ := Option.filter_eq_some_iff.mp hfound
  rw [Option.some.injEq] at hsame
  subst hsame
  rw [decide_eq_true_eq, hdead later hlater] at hvalid
  exact Bool.false_ne_true hvalid.2.2

theorem Revoked.dead (h : db.Revoked kid time) : db.Dead kid time := by
  obtain ⟨row, hrow, hrevoked⟩ := h
  refine ⟨row, hrow, ?_⟩
  intro later hlater
  cases hat : row.revokedAt with
  | none =>
      rw [hat] at hrevoked
      cases hrevoked
  | some revokedAt =>
      rw [hat, Option.any_some, decide_eq_true_eq] at hrevoked
      have hpassed : ¬ later < revokedAt := by omega
      simp [isValidAt, hat, hpassed]

/-! ### What a call does to the keys -/

theorem sameKeys_createMerchant {env : CallEnv} {input : CreateMerchantInput} :
    Ensures (fun db' => db'.merchantKeys = db.merchantKeys) (db.createMerchant runtime env input) :=
  ensures_bind fun _ _ => ensures_bind fun _ _ => ensures_bind fun _ _ => ensures_bind fun _ _ =>
    ensures_bind fun _ _ => ensures_bind fun _ _ => ensures_pure rfl

theorem sameKeys_addOrigin {env : CallEnv} {input : AddMerchantOriginInput} :
    Ensures (fun db' => db'.merchantKeys = db.merchantKeys) (db.addOrigin runtime env input) :=
  ensures_bind fun _ _ => ensures_bind fun _ _ => ensures_bind fun _ _ => ensures_bind fun _ _ =>
    ensures_bind fun _ _ => ensures_pure rfl

theorem sameKeys_addPayoutWallet {env : CallEnv} {input : AddMerchantPayoutWalletInput} :
    Ensures (fun db' => db'.merchantKeys = db.merchantKeys) (db.addPayoutWallet runtime env input) :=
  ensures_bind fun _ _ => ensures_bind fun _ _ => ensures_bind fun _ _ => ensures_bind fun _ _ =>
    ensures_pure rfl

theorem sameKeys_updateMerchantStatus {merchantId : String} {status : MerchantStatus} :
    Ensures (fun db' => db'.merchantKeys = db.merchantKeys)
      (db.updateMerchantStatus merchantId status) := by
  refine ensures_bind fun _ _ => ?_
  cases db.merchants.find? merchantId with
  | none => exact ensures_pure rfl
  | some row => exact ensures_pure rfl

theorem sameKeys_updateOriginStatus {env : CallEnv} {merchantId origin : String}
    {status : MerchantOriginStatus} {verifiedAt : Option String} :
    Ensures (fun db' => db'.merchantKeys = db.merchantKeys)
      (db.updateOriginStatus runtime env merchantId origin status verifiedAt) := by
  refine ensures_bind fun _ _ => ensures_bind fun _ _ => ensures_bind fun _ _ => ?_
  cases db.merchantOrigins.find? (merchantId, origin) with
  | none => exact ensures_pure rfl
  | some row => exact ensures_pure rfl

theorem sameKeys_updatePayoutWalletStatus {merchantId payoutWalletId : String}
    {status : MerchantPayoutWalletStatus} :
    Ensures (fun db' => db'.merchantKeys = db.merchantKeys)
      (db.updatePayoutWalletStatus merchantId payoutWalletId status) := by
  unfold updatePayoutWalletStatus
  cases (db.merchantPayoutWallets.find? payoutWalletId).filter
      (fun wallet => wallet.merchantId = merchantId) with
  | none => exact ensures_pure rfl
  | some existing => exact ensures_bind fun _ _ => ensures_pure rfl

/-- An insert succeeds only under a key that was free. -/
theorem insertRow_eq_ok {ρ κ : Type} [DecidableEq κ] {key : ρ → κ} {table table' : Table key}
    {row : ρ} {unique : Bool} (h : insertRow table row unique = .ok table') :
    table.insert? row = some table' := by
  unfold insertRow at h
  split at h
  · exact absurd h throw_ne_ok
  · rename_i inserted hinserted
    rw [pure_eq_ok] at h
    subst h
    exact (Option.filter_eq_some_iff.mp hinserted).1

theorem find?_addKey {env : CallEnv} {input : AddMerchantKeyInput} {row : MerchantKeyRow}
    (hrow : db.merchantKeys.find? kid = some row) :
    Ensures (fun db' => db'.merchantKeys.find? kid = some row) (db.addKey runtime env input) := by
  refine ensures_bind fun _ _ => ensures_bind fun _ _ => ensures_bind fun _ _ => ensures_bind fun _ _ =>
    ensures_bind fun _ _ => ensures_bind fun merchantKeys hinserted => ensures_pure ?_
  have hmem := (Table.mem_insert? (insertRow_eq_ok hinserted)).mpr (.inl (Table.mem_of_find? hrow))
  have hkid : row.kid = kid := Table.key_of_find? hrow
  rw [← hkid]
  exact Table.find?_of_mem hmem

/-- A revocation that does not reopen the key leaves it dead. -/
theorem Dead.revokeKey {env : CallEnv} {input : RevokeMerchantKeyInput} (h : db.Dead kid time)
    (hkept : ¬ db.Reopens runtime kid time (.revokeKey env input)) :
    Ensures (fun db' => db'.Dead kid time) (db.revokeKey runtime env input) := by
  refine ensures_bind fun checked hchecked => ensures_bind fun _ hreason =>
    ensures_bind fun revokedAt hrevokedAt => ?_
  obtain ⟨hparsed, rfl⟩ := MerchantStore.checkTimestamp_eq_ok.mp hchecked
  rw [RouteDb.timestamptzColumn_eq_ok] at hrevokedAt
  cases hfound : db.merchantKeys.find? input.kid with
  | none => exact ensures_pure h
  | some existing =>
      refine ensures_pure ?_
      obtain ⟨row, hrow, hdead⟩ := h
      have hid : existing.kid = input.kid := Table.key_of_find? hfound
      have hkid : (revoked input.merchantId revokedAt existing).kid = input.kid := by
        unfold revoked
        split
        · exact hid
        · exact hid
      by_cases hsame : input.kid = kid
      · rw [hsame, hrow, Option.some.injEq] at hfound
        subst hfound
        refine ⟨revoked input.merchantId revokedAt row, ?_, ?_⟩
        · dsimp only
          rw [Table.find?_upsert]
          exact if_pos (hkid.trans hsame)
        · intro later hlater
          by_contra hlive
          rw [Bool.not_eq_false] at hlive
          unfold revoked at hlive
          by_cases hmerchant : row.merchantId = input.merchantId
          · rw [if_pos hmerchant] at hlive
            simp only [isValidAt, Bool.and_eq_true, decide_eq_true_eq, Option.all_some] at hlive
            obtain ⟨⟨hfrom, huntil⟩, hbefore⟩ := hlive
            refine hkept ⟨row, revokedAt, later, hsame, hrow, hmerchant, hparsed,
              MerchantStore.assertOptional_reason hreason, hrevokedAt, hlater, hbefore, ?_⟩
            simp [isValidAt, hfrom, huntil]
          · rw [if_neg hmerchant, hdead later hlater] at hlive
            cases hlive
      · refine ⟨row, ?_, hdead⟩
        dsimp only
        rw [Table.find?_upsert, if_neg]
        · exact hrow
        · exact fun heq => hsame (hkid.symm.trans heq)

theorem Dead.of_sameKeys (h : db.Dead kid time) (hsame : db'.merchantKeys = db.merchantKeys) :
    db'.Dead kid time := by
  obtain ⟨row, hrow, hdead⟩ := h
  exact ⟨row, hsame ▸ hrow, hdead⟩

/-- One call that does not reopen the key. -/
theorem Dead.after {call : MerchantCall} (h : db.Dead kid time)
    (hkept : ¬ db.Reopens runtime kid time call) : (db.after runtime call).Dead kid time := by
  have happly : Ensures (fun db' => db'.Dead kid time) (db.apply runtime call) := by
    cases call with
    | createMerchant env input => exact fun s hs => h.of_sameKeys (sameKeys_createMerchant s hs)
    | addOrigin env input => exact fun s hs => h.of_sameKeys (sameKeys_addOrigin s hs)
    | addKey env input =>
        obtain ⟨row, hrow, hdead⟩ := h
        exact fun s hs => ⟨row, find?_addKey hrow s hs, hdead⟩
    | addPayoutWallet env input => exact fun s hs => h.of_sameKeys (sameKeys_addPayoutWallet s hs)
    | revokeKey env input => exact h.revokeKey hkept
    | updateMerchantStatus merchantId status =>
        exact fun s hs => h.of_sameKeys (sameKeys_updateMerchantStatus s hs)
    | updateOriginStatus env merchantId origin status verifiedAt =>
        exact fun s hs => h.of_sameKeys (sameKeys_updateOriginStatus s hs)
    | updatePayoutWalletStatus merchantId payoutWalletId status =>
        exact fun s hs => h.of_sameKeys (sameKeys_updatePayoutWalletStatus s hs)
  unfold MerchantDb.after
  cases hcall : db.apply runtime call with
  | error e => exact h
  | ok s => exact happly s hcall

end MerchantDb

/-! ## Both stores -/

/-- Once revoked for a time, a key is not returned as of that time or a later one, after any calls
that meet a condition: in memory and in Postgres. -/
structure RevocationFinal (runtime : RegistryRuntime ν)
    (inMemory : String → Int → MerchantStore → MerchantCall → Prop)
    (inPostgres : String → Int → MerchantDb → MerchantCall → Prop) : Prop where
  memory : ∀ store store' kid time, store.Revoked runtime kid time →
    (MerchantStore.system runtime).Run (inMemory kid time) store store' →
    store'.NeverResolves runtime kid time
  postgres : ∀ db db' kid time, db.Revoked kid time →
    (MerchantDb.system runtime).Run (inPostgres kid time) db db' →
    db'.NeverResolves runtime kid time

/-- **A revocation is final as long as no later one reopens the key.** -/
theorem revocation_final (runtime : RegistryRuntime ν) :
    RevocationFinal runtime (fun kid time store call => ¬ store.Reopens runtime kid time call)
      (fun kid time db call => ¬ db.Reopens runtime kid time call) where
  memory := by
    intro store store' kid time hrevoked hrun
    have hdead : store'.Dead runtime kid time := by
      refine hrun.invariant (P := fun store => store.Dead runtime kid time) hrevoked.dead ?_
      intro store call after hstore hkept hstep
      rw [hstep]
      exact hstore.after hkept
    exact hdead.neverResolves
  postgres := by
    intro db db' kid time hrevoked hrun
    have hdead : db'.Dead kid time := by
      refine hrun.invariant (P := fun db => db.Dead kid time) hrevoked.dead ?_
      intro db call after hdb hkept hstep
      rw [hstep]
      exact hdb.after hkept
    exact hdead.neverResolves

/-! ## A second revocation -/

namespace Sample

def keyRuntime : RegistryRuntime Whole := { registryRuntime with host := postgresHost }

/-- The key is revoked for a time. -/
def revokeFor (revokedAt : String) : MerchantCall :=
  .revokeKey registryEnv ⟨campaignMerchantId, "key", some revokedAt, some "compromised"⟩

/-- A merchant comes with its key, which is revoked for February. -/
def keyCalls : List MerchantCall :=
  [.createMerchant registryEnv ⟨some campaignMerchantId, "merchant", "Merchant", merchantPublicKey, none⟩,
    .addKey registryEnv ⟨campaignMerchantId, "key", merchantPublicKey, none, none, none⟩,
    revokeFor "2026-02-01T00:00:00Z"]

def revokedStore : MerchantStore := keyCalls.foldl (MerchantStore.after keyRuntime) .empty

def revokedDb : MerchantDb := keyCalls.foldl (MerchantDb.after keyRuntime) .empty

theorem revokedStore_computed :
    ((revokedStore.registry.keysByKid.find? "key").any (fun key =>
        key.revokedAt.any (MerchantRegistry.hasPassed keyRuntime · 1769904000000)) &&
      (match (revokedStore.after keyRuntime (revokeFor "2026-12-01T00:00:00Z")).registry.resolveKey
          keyRuntime campaignMerchantId "key" .offerReceipt "2026-03-01T00:00:00Z" with
        | .ok (some _) => true
        | _ => false)) = true := by
  decide +kernel

theorem revokedDb_computed :
    ((revokedDb.merchantKeys.find? "key").any (fun row =>
        row.revokedAt.any (· ≤ 1769904000000)) &&
      (match (revokedDb.after keyRuntime (revokeFor "2026-12-01T00:00:00Z")).resolveKey
          keyRuntime campaignMerchantId "key" .offerReceipt "2026-03-01T00:00:00Z" with
        | .ok (some _) => true
        | _ => false)) = true := by
  decide

end Sample

open Sample

/-- Revoked again, for December, the key is returned as of March in both stores. -/
theorem not_revocation_final :
    (¬ ∀ store store' kid time, store.Revoked keyRuntime kid time →
      (MerchantStore.system keyRuntime).Run (fun _ _ => True) store store' →
      store'.NeverResolves keyRuntime kid time) ∧
    (¬ ∀ db db' kid time, db.Revoked kid time →
      (MerchantDb.system keyRuntime).Run (fun _ _ => True) db db' →
      db'.NeverResolves keyRuntime kid time) := by
  have hmarch : MerchantRegistry.assertUtcTimestamp keyRuntime "2026-03-01T00:00:00Z" =
    .ok 1772323200000 := rfl
  constructor
  · intro h
    obtain ⟨hrevoked, hresolved⟩ := (Bool.and_eq_true _ _).mp revokedStore_computed
    obtain ⟨key, hkey, hpassed⟩ := (Option.any_eq_true _ _).mp hrevoked
    have hrun : (MerchantStore.system keyRuntime).Run (fun _ _ => True) revokedStore
        (revokedStore.after keyRuntime (revokeFor "2026-12-01T00:00:00Z")) :=
      .tail (.refl _) trivial rfl
    have hnever := h _ _ "key" 1769904000000 ⟨key, hkey, hpassed⟩ hrun campaignMerchantId .offerReceipt "2026-03-01T00:00:00Z"
      1772323200000
    split at hresolved
    · rename_i resolved hkey
      exact hnever resolved hmarch (by decide) hkey
    · cases hresolved
  · intro h
    obtain ⟨hrevoked, hresolved⟩ := (Bool.and_eq_true _ _).mp revokedDb_computed
    obtain ⟨row, hrow, hpassed⟩ := (Option.any_eq_true _ _).mp hrevoked
    have hrun : (MerchantDb.system keyRuntime).Run (fun _ _ => True) revokedDb
        (revokedDb.after keyRuntime (revokeFor "2026-12-01T00:00:00Z")) :=
      .tail (.refl _) trivial rfl
    have hnever := h _ _ "key" 1769904000000 ⟨row, hrow, hpassed⟩ hrun campaignMerchantId .offerReceipt "2026-03-01T00:00:00Z"
      1772323200000
    split at hresolved
    · rename_i resolved hkey
      exact hnever resolved rfl (by decide) hkey
    · cases hresolved

end Split402

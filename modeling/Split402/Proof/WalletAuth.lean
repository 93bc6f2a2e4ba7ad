import Split402.Base.Exclusive
import Split402.Base.Relay
import Split402.Proof.AuthSteps
import Split402.Proof.ReceiptHash

/-! # Single use of sign-in credentials

A call that has used up its credential is entitled to issue one refresh token, and no two calls use
up the same one. So every token is traded in for one other at most, and the tokens of a challenge are
a relay. -/

namespace Split402

open Base

namespace WalletAuth

open WalletAuthStore

variable {ν : Type} {auth : WalletAuthenticator ν} {store store' : WalletAuthStore}
  {call : AuthCall} {p : Await AuthAnswer}

/-! ## The invariant -/

/-- The token a call trades for the one it issues; `none` for a challenge. -/
def tradesIn (auth : WalletAuthenticator ν) : AuthCall → Option (Option String)
  | .createSession _ _ => some none
  | .refreshSession _ refreshToken => some (some (hashToken auth refreshToken))
  | _ => none

/-- A started call issues the token and trades the other one in for it. -/
def Source (auth : WalletAuthenticator ν) (pool : Calls)
    (row : Hashed WalletAuthRefreshTokenRecord) (parent : Option String) : Prop :=
  ∃ entry ∈ pool.calls, issues auth entry.1 = some row.tokenHash ∧
    tradesIn auth entry.1 = some parent

/-- The refresh tokens of a challenge, in the order they were saved. -/
def tokensOf (store : WalletAuthStore) (challengeId : String) :
    List (Hashed WalletAuthRefreshTokenRecord) :=
  store.refreshTokensByHash.rows.filter (fun row => row.record.challengeId = challengeId)

structure Invariant (auth : WalletAuthenticator ν) (pool : Calls) : Prop where
  distinct : ∀ (i j : Nat) first second draw, pool.calls[i]? = some first →
    pool.calls[j]? = some second → draw ∈ draws auth first.1 → draw ∈ draws auth second.1 → i = j
  stage : ∀ entry ∈ pool.calls, Stage auth pool.shared entry.1 entry.2
  exclusive : Pool.Exclusive (credential auth) Used (Holds auth) pool
  rows : ∀ tokenHash record, pool.shared.getRefreshToken tokenHash = some record →
    ∃ entry ∈ pool.calls, issues auth entry.1 = some tokenHash ∧
      Entitled auth pool.shared record.challengeId record.sessionId entry.1
  unreplaced : ∀ tokenHash record, pool.shared.getRefreshToken tokenHash = some record →
    record.revokedAt = none → record.replacedBySessionId = none
  relay : ∀ challengeId, Relay Hashed.tokenHash (Source auth pool) (tokensOf pool.shared challengeId)

variable {pool pool' : Calls} {event : Event}

theorem draw_of_issues {tokenHash : String} (h : issues auth call = some tokenHash) :
    Draw.refresh tokenHash ∈ draws auth call := by
  cases call with
  | createSession | refreshSession =>
      cases h
      simp [draws]
  | createChallenge | revokeSession | authenticateAccessToken => cases h

theorem Source.of_calls {row : Hashed WalletAuthRefreshTokenRecord} {parent : Option String}
    (hcalls : ∀ entry ∈ pool.calls, ∃ entry' ∈ pool'.calls, entry'.1 = entry.1)
    (h : Source auth pool row parent) : Source auth pool' row parent := by
  obtain ⟨entry, hentry, hissues, htrades⟩ := h
  obtain ⟨entry', hentry', hsame⟩ := hcalls entry hentry
  exact ⟨entry', hentry', hsame ▸ hissues, hsame ▸ htrades⟩

/-- A call that starts issues a token that is not there yet. -/
theorem Invariant.absent_of_start (hinv : Invariant auth pool)
    (hfresh : NeverRepeats auth pool (.start call)) {tokenHash : String}
    (hissues : issues auth call = some tokenHash) :
    pool.shared.getRefreshToken tokenHash = none := by
  cases hget : pool.shared.getRefreshToken tokenHash with
  | none => rfl
  | some record =>
      obtain ⟨entry, hentry, hother, -⟩ := hinv.rows _ _ hget
      exact absurd (draw_of_issues hother) ((hfresh _ (draw_of_issues hissues)).1 entry hentry)

/-- What the call that is resumed does. -/
theorem Invariant.next (hinv : Invariant auth pool) {i : Nat} {op : Op}
    {resume : Except WalletAuthError op.Answer → Await AuthAnswer}
    {answer : Except WalletAuthError op.Answer} (hi : pool.calls[i]? = some (call, .await op resume))
    (hhandle : handle call pool.shared op store' answer) :
    Next auth pool.shared store' call (.await op resume) (resume answer) :=
  (hinv.stage _ (List.mem_of_getElem? hi)).next hinv.unreplaced hhandle

/-- It adds no token that another call issues. -/
theorem Invariant.absent_others (hinv : Invariant auth pool) {i j : Nat}
    {entry : AuthCall × Await AuthAnswer} (hi : pool.calls[i]? = some (call, p))
    (heffect : Effect auth pool.shared call store') (hj : pool.calls[j]? = some entry) (hne : j ≠ i)
    {tokenHash : String} (hissues : issues auth entry.1 = some tokenHash)
    (habsent : pool.shared.getRefreshToken tokenHash = none) :
    store'.getRefreshToken tokenHash = none := by
  refine heffect.absent ?_ habsent
  intro hsame
  exact hne (hinv.distinct j i _ _ _ hj hi (draw_of_issues hissues) (draw_of_issues hsame))

/-- A call gets past the use of its credential only by using it up. -/
theorem Invariant.acquires (hinv : Invariant auth pool) (hfresh : NeverRepeats auth pool event)
    (hstep : (authSystem auth).step pool event pool') :
    Pool.Acquires (credential auth) Used (Holds auth) handle (program auth) pool event pool' := by
  cases hstep with
  | start call =>
      refine ⟨fun _ h => h, ?_, fun _ _ _ _ h => h, ?_⟩
      · intro c hevent
        cases hevent
        rintro (hissuing | ⟨tokenHash, hissues, hsome⟩)
        · exact not_issuing_program call hissuing
        · rw [hinv.absent_of_start hfresh hissues] at hsome
          cases hsome
      · intro i c op resume answer hevent
        cases hevent
  | @resume i call op resume store' answer hi hhandle =>
      have hnext := hinv.next hi hhandle
      have hevolves := hnext.effect.evolves
      refine ⟨?_, ?_, ?_, ?_⟩
      · intro _ hused
        exact hevolves.used hused
      · intro c hevent
        cases hevent
      · intro j entry hj hne hholds
        rcases hholds with hissuing | ⟨tokenHash, hissues, hsome⟩
        · exact .inl hissuing
        · have hji : j ≠ i := fun heq => hne (by rw [heq])
          refine .inr ⟨tokenHash, hissues, ?_⟩
          cases hget : pool.shared.getRefreshToken tokenHash with
          | some record => rfl
          | none =>
              rw [hinv.absent_others hi hnext.effect hj hji hissues hget] at hsome
              cases hsome
      · intro j c op' resume' answer' hevent hj hhandle' hholds
        exact (hinv.next hj hhandle').passed hholds
  | outside hfalse => exact hfalse.elim

theorem invariant_init (h : (authSystem auth).init pool) : Invariant auth pool := by
  obtain ⟨⟨-, htokens⟩, hcalls⟩ := h
  have hget : ∀ tokenHash, pool.shared.getRefreshToken tokenHash = none := by
    intro tokenHash
    rw [getRefreshToken, Table.find?, htokens]
    rfl
  refine ⟨?_, ?_, ⟨?_, ?_⟩, ?_, ?_, ?_⟩
  · intro i j first second draw hi
    rw [hcalls] at hi
    cases hi
  · intro entry hentry
    rw [hcalls] at hentry
    cases hentry
  · intro entry hentry
    rw [hcalls] at hentry
    cases hentry
  · intro i j first second r hi
    rw [hcalls] at hi
    cases hi
  · intro tokenHash record hrecord
    rw [hget] at hrecord
    cases hrecord
  · intro tokenHash record hrecord
    rw [hget] at hrecord
    cases hrecord
  · intro challengeId
    rw [tokensOf, htokens]
    exact .nil

/-- A call that starts draws what no call has drawn. -/
theorem invariant_start (hinv : Invariant auth pool) (hfresh : NeverRepeats auth pool (.start call))
    (hstep : (authSystem auth).step pool (.start call) pool') : Invariant auth pool' := by
  have hpool : pool' = { pool with calls := pool.calls ++ [(call, program auth call)] } := by
    cases hstep
    rfl
  have hcalls : ∀ entry ∈ pool.calls, ∃ entry' ∈ pool'.calls, entry'.1 = entry.1 := by
    intro entry hentry
    subst hpool
    exact ⟨entry, List.mem_append_left _ hentry, rfl⟩
  have hchallenge : ∀ env input, call = .createChallenge env input →
      pool.shared.getChallenge env.challengeId = none := by
    rintro env input rfl
    cases hget : pool.shared.getChallenge env.challengeId with
    | none => rfl
    | some record =>
        have hmem : record ∈ pool.shared.challengesById := Table.mem_of_find? hget
        have hid := challengeId_of_get hget
        exact absurd (congrArg Draw.challenge hid.symm)
          ((hfresh _ (by simp [draws])).2 record hmem)
  have hshared : pool'.shared = pool.shared := by
    subst hpool
    rfl
  refine ⟨?_, ?_, ?_, ?_, ?_, ?_⟩
  · intro i j first second draw hi hj hfirst hsecond
    rcases Pool.getElem?_of_step hstep hi with ⟨hi, -⟩ | ⟨c, hevent, rfl, hlen⟩ |
      ⟨_, _, _, _, hevent, -⟩
    · rcases Pool.getElem?_of_step hstep hj with ⟨hj, -⟩ | ⟨c, hevent, rfl, -⟩ |
        ⟨_, _, _, _, hevent, -⟩
      · exact hinv.distinct i j _ _ draw hi hj hfirst hsecond
      · cases hevent
        exact absurd hfirst ((hfresh draw hsecond).1 _ (List.mem_of_getElem? hi))
      · cases hevent
    · cases hevent
      rcases Pool.getElem?_of_step hstep hj with ⟨hj, -⟩ | ⟨c, -, -, hlen'⟩ |
        ⟨_, _, _, _, hevent, -⟩
      · exact absurd hsecond ((hfresh draw hfirst).1 _ (List.mem_of_getElem? hj))
      · rw [hlen, hlen']
      · cases hevent
    · cases hevent
  · intro entry hentry
    rw [hshared]
    subst hpool
    rcases List.mem_append.mp hentry with hold | hnew
    · exact hinv.stage entry hold
    · rw [List.mem_singleton.mp hnew]
      exact stage_program (fun _ => hinv.absent_of_start hfresh) hchallenge
  · exact hinv.exclusive.step hstep (hinv.acquires hfresh hstep)
  · intro tokenHash record hrecord
    rw [hshared] at hrecord ⊢
    obtain ⟨entry, hentry, hissues, hentitled⟩ := hinv.rows _ _ hrecord
    obtain ⟨entry', hentry', hsame⟩ := hcalls entry hentry
    exact ⟨entry', hentry', hsame ▸ hissues, hsame ▸ hentitled⟩
  · rw [hshared]
    exact hinv.unreplaced
  · intro challengeId
    rw [hshared]
    exact (hinv.relay challengeId).mono fun _ _ _ h => h.of_calls hcalls

/-- The effect of a call keeps what a token's call is entitled to, and gives a new token one. -/
theorem Effect.rows (h : Effect auth store call store') {calls : List (AuthCall × Await AuthAnswer)}
    (hcall : ∃ entry ∈ calls, entry.1 = call)
    (hrows : ∀ tokenHash record, store.getRefreshToken tokenHash = some record →
      ∃ entry ∈ calls, issues auth entry.1 = some tokenHash ∧
        Entitled auth store record.challengeId record.sessionId entry.1)
    {tokenHash : String} {record : WalletAuthRefreshTokenRecord}
    (hrecord : store'.getRefreshToken tokenHash = some record) :
    ∃ entry ∈ calls, issues auth entry.1 = some tokenHash ∧
      Entitled auth store' record.challengeId record.sessionId entry.1 := by
  have hevolves := h.evolves
  have hkept : ∀ old : WalletAuthRefreshTokenRecord, store.getRefreshToken tokenHash = some old →
      old.challengeId = record.challengeId → old.sessionId = record.sessionId →
      ∃ entry ∈ calls, issues auth entry.1 = some tokenHash ∧
        Entitled auth store' record.challengeId record.sessionId entry.1 := by
    intro old hold hid hsession
    obtain ⟨entry, hentry, hissues, hentitled⟩ := hrows _ _ hold
    rw [hid, hsession] at hentitled
    exact ⟨entry, hentry, hissues, hevolves.entitled hentitled⟩
  have hrevoked : ∀ (refreshToken revokedAt : String) replacedBy old,
      store.getRefreshToken (hashToken auth refreshToken) = some old →
      (store.saveRefreshToken (hashToken auth refreshToken)
        (WalletAuthStore.revoked old revokedAt replacedBy)).getRefreshToken tokenHash =
          some record →
      ∃ entry ∈ calls, issues auth entry.1 = some tokenHash ∧
        Entitled auth store' record.challengeId record.sessionId entry.1 := by
    intro refreshToken revokedAt replacedBy old hold hget
    rw [getRefreshToken_saveRefreshToken] at hget
    by_cases hkey : hashToken auth refreshToken = tokenHash
    · rw [if_pos hkey] at hget
      cases hget
      rw [hkey] at hold
      exact hkept old hold rfl rfl
    · rw [if_neg hkey] at hget
      exact hkept record hget rfl rfl
  cases h with
  | same | challenge | consume | session => exact hkept record hrecord rfl rfl
  | @token _ issued hprepared =>
      rw [getRefreshToken_saveRefreshToken] at hrecord
      by_cases hkey : hashToken auth issued.refreshToken = tokenHash
      · rw [if_pos hkey] at hrecord
        cases hrecord
        obtain ⟨entry, hentry, rfl⟩ := hcall
        exact ⟨entry, hentry, hkey ▸ hprepared.issues_eq, hevolves.entitled hprepared.entitled⟩
      · rw [if_neg hkey] at hrecord
        exact hkept record hrecord rfl rfl
  | rotate _ hfound _ => exact hrevoked _ _ _ _ hfound hrecord
  | revoke _ hfound _ => exact hrevoked _ _ _ _ hfound hrecord

/-- A token that is not revoked has not been replaced. -/
theorem Effect.unreplaced (h : Effect auth store call store')
    (hunreplaced : ∀ tokenHash record, store.getRefreshToken tokenHash = some record →
      record.revokedAt = none → record.replacedBySessionId = none) {tokenHash : String}
    {record : WalletAuthRefreshTokenRecord}
    (hrecord : store'.getRefreshToken tokenHash = some record) (hlive : record.revokedAt = none) :
    record.replacedBySessionId = none := by
  have hrevoked : ∀ (refreshToken revokedAt : String) replacedBy old,
      (store.saveRefreshToken (hashToken auth refreshToken)
        (WalletAuthStore.revoked old revokedAt replacedBy)).getRefreshToken tokenHash =
          some record → record.replacedBySessionId = none := by
    intro refreshToken revokedAt replacedBy old hget
    rw [getRefreshToken_saveRefreshToken] at hget
    by_cases hkey : hashToken auth refreshToken = tokenHash
    · rw [if_pos hkey] at hget
      cases hget
      cases hlive
    · rw [if_neg hkey] at hget
      exact hunreplaced _ _ hget hlive
  cases h with
  | same | challenge | consume | session => exact hunreplaced _ _ hrecord hlive
  | @token _ issued hprepared =>
      rw [getRefreshToken_saveRefreshToken] at hrecord
      by_cases hkey : hashToken auth issued.refreshToken = tokenHash
      · rw [if_pos hkey] at hrecord
        cases hrecord
        exact hprepared.unreplaced
      · rw [if_neg hkey] at hrecord
        exact hunreplaced _ _ hrecord hlive
  | rotate _ _ _ => exact hrevoked _ _ _ _ hrecord
  | revoke _ _ _ => exact hrevoked _ _ _ _ hrecord

/-- A revocation changes tokens where they stand. -/
theorem tokensOf_revoked {tokenHash revokedAt challengeId : String} {replacedBy : Option String}
    {record : WalletAuthRefreshTokenRecord}
    (hfound : store.getRefreshToken tokenHash = some record) :
    ∃ change : Hashed WalletAuthRefreshTokenRecord → Hashed WalletAuthRefreshTokenRecord,
      (∀ row, (change row).tokenHash = row.tokenHash) ∧
      tokensOf (store.saveRefreshToken tokenHash
        (WalletAuthStore.revoked record revokedAt replacedBy)) challengeId =
          (tokensOf store challengeId).map change := by
  have hmem := getRefreshToken_eq_some.mp hfound
  refine ⟨fun row => if row.tokenHash = tokenHash then
    ⟨row.tokenHash, WalletAuthStore.revoked row.record revokedAt replacedBy⟩ else row, ?_, ?_⟩
  · intro row
    by_cases hkey : row.tokenHash = tokenHash <;> simp [hkey]
  · have hrows := Table.rows_upsert_of_mem hmem (f := fun row =>
      ⟨row.tokenHash, WalletAuthStore.revoked row.record revokedAt replacedBy⟩) rfl
    rw [tokensOf, tokensOf]
    change List.filter _ (store.refreshTokensByHash.upsert
      ⟨tokenHash, WalletAuthStore.revoked record revokedAt replacedBy⟩).rows = _
    rw [hrows, List.filter_map]
    congr 1
    refine List.filter_congr fun row _ => ?_
    by_cases hkey : row.tokenHash = tokenHash
    · simp [hkey, WalletAuthStore.revoked]
    · simp [hkey]

/-- A token that is new comes after the others. -/
theorem tokensOf_saveRefreshToken {tokenHash challengeId : String}
    {record : WalletAuthRefreshTokenRecord} (habsent : store.getRefreshToken tokenHash = none) :
    tokensOf (store.saveRefreshToken tokenHash record) challengeId =
      tokensOf store challengeId ++
        if record.challengeId = challengeId then [⟨tokenHash, record⟩] else [] := by
  have hnew : ∀ row ∈ store.refreshTokensByHash, row.tokenHash ≠ tokenHash := by
    rw [getRefreshToken, Option.map_eq_none_iff] at habsent
    exact Table.find?_eq_none.mp habsent
  have hrows := Table.rows_upsert_of_new (r := (⟨tokenHash, record⟩ : Hashed _)) hnew
  rw [tokensOf, tokensOf]
  change List.filter _ (store.refreshTokensByHash.upsert ⟨tokenHash, record⟩).rows = _
  rw [hrows, List.filter_append]
  congr 1
  by_cases hid : record.challengeId = challengeId
  · simp [hid]
  · simp [hid]

/-- Two entries that issue the same token are the same. -/
theorem eq_of_issues {calls : List (AuthCall × Await AuthAnswer)}
    (hdistinct : ∀ (i j : Nat) first second draw, calls[i]? = some first →
      calls[j]? = some second → draw ∈ draws auth first.1 → draw ∈ draws auth second.1 → i = j)
    {first second : AuthCall × Await AuthAnswer} {tokenHash : String} (hfirst : first ∈ calls)
    (hsecond : second ∈ calls) (hissues : issues auth first.1 = some tokenHash)
    (hissues' : issues auth second.1 = some tokenHash) : first = second := by
  obtain ⟨i, hi⟩ := List.mem_iff_getElem?.mp hfirst
  obtain ⟨j, hj⟩ := List.mem_iff_getElem?.mp hsecond
  cases hdistinct i j _ _ _ hi hj (draw_of_issues hissues) (draw_of_issues hissues')
  exact Option.some.inj (hi.symm.trans hj)

/-- What an entitled call has used up, by what it trades in. -/
theorem credential_of_entitled {challengeId sessionId : String} {parent : Option String}
    (h : Entitled auth store challengeId sessionId call)
    (htrades : tradesIn auth call = some parent) :
    credential auth call = some (parent.elim (.challenge challengeId) .token) := by
  cases call with
  | createSession env input =>
      cases htrades
      rw [credential, h.1]
      rfl
  | refreshSession env refreshToken =>
      cases htrades
      rfl
  | createChallenge | revokeSession | authenticateAccessToken => exact h.elim

/-- A saved token comes after the one that is traded in for it. -/
theorem relay_saveToken {issued : IssuedSession} {challengeId : String}
    (hprepared : Prepared auth store call issued) (hcall : ∃ entry ∈ pool'.calls, entry.1 = call)
    (hshared : pool'.shared = store.saveRefreshToken (hashToken auth issued.refreshToken)
      issued.refreshTokenRecord)
    (hdistinct : ∀ (i j : Nat) first second draw, pool'.calls[i]? = some first →
      pool'.calls[j]? = some second → draw ∈ draws auth first.1 → draw ∈ draws auth second.1 →
      i = j)
    (hexclusive : Pool.Exclusive (credential auth) Used (Holds auth) pool')
    (hrows : ∀ tokenHash record, pool'.shared.getRefreshToken tokenHash = some record →
      ∃ entry ∈ pool'.calls, issues auth entry.1 = some tokenHash ∧
        Entitled auth pool'.shared record.challengeId record.sessionId entry.1)
    (hrelay : Relay Hashed.tokenHash (Source auth pool') (tokensOf store challengeId)) :
    Relay Hashed.tokenHash (Source auth pool') (tokensOf pool'.shared challengeId) := by
  rw [hshared, tokensOf_saveRefreshToken hprepared.absent]
  by_cases hid : issued.refreshTokenRecord.challengeId = challengeId
  swap
  · rw [if_neg hid, List.append_nil]
    exact hrelay
  rw [if_pos hid]
  obtain ⟨entry, hentry, rfl⟩ := hcall
  have hevolves : Evolves store pool'.shared := by
    rw [hshared]
    exact (Effect.token hprepared).evolves
  have hpresent : ∀ {tokenHash record}, pool'.shared.getRefreshToken tokenHash = some record →
      ∀ {other}, issues auth other = some tokenHash → ∀ {q}, Holds auth pool'.shared other q :=
    fun hget _ hissues _ => .inr ⟨_, hissues, by rw [hget]; rfl⟩
  have hgetNew : pool'.shared.getRefreshToken (hashToken auth issued.refreshToken) =
      some issued.refreshTokenRecord := by
    rw [hshared, getRefreshToken_saveRefreshToken, if_pos rfl]
  have hmemTokens : ∀ {row : Hashed WalletAuthRefreshTokenRecord}, row ∈ tokensOf store challengeId →
      store.getRefreshToken row.tokenHash = some row.record ∧ row.record.challengeId = challengeId := by
    intro row hrow
    obtain ⟨hmem, hrowId⟩ := List.mem_filter.mp hrow
    exact ⟨getRefreshToken_eq_some.mpr hmem, of_decide_eq_true hrowId⟩
  -- the token it trades in is of the same challenge
  obtain ⟨parent, htrades, hparent⟩ : ∃ parent, tradesIn auth entry.1 = some parent ∧
      (parent = none ∨ ∃ row ∈ tokensOf store challengeId, parent = some row.tokenHash) := by
    have hentitled := hprepared.entitled
    cases hcase : entry.1 with
    | createSession env input => exact ⟨none, rfl, .inl rfl⟩
    | refreshSession env refreshToken =>
        rw [hcase] at hentitled
        obtain ⟨record, hget, hrecordId, -⟩ := hentitled
        refine ⟨_, rfl, .inr ⟨⟨_, record⟩, ?_, rfl⟩⟩
        refine List.mem_filter.mpr ⟨getRefreshToken_eq_some.mp hget, ?_⟩
        exact decide_eq_true (hrecordId.trans hid)
    | createChallenge | revokeSession | authenticateAccessToken =>
        rw [hcase] at hentitled
        exact hentitled.elim
  refine hrelay.append (s := parent) ⟨entry, hentry, hprepared.issues_eq, htrades⟩ ?_ hparent
  -- nothing else has been traded in for it: the two calls would have used up the same credential
  rintro row hrow ⟨other, hother, hissues, htrades'⟩
  obtain ⟨hget, hrowId⟩ := hmemTokens hrow
  obtain ⟨record', hget', hid', -⟩ := hevolves.token _ _ hget
  obtain ⟨issuer, hissuer, hissues', hentitled'⟩ := hrows _ _ hget'
  cases eq_of_issues hdistinct hissuer hother hissues' hissues
  have hcredential := credential_of_entitled hentitled' htrades'
  have hcredential' := credential_of_entitled (hevolves.entitled hprepared.entitled) htrades
  rw [hid', hrowId] at hcredential
  rw [hid] at hcredential'
  obtain ⟨i, hi⟩ := List.mem_iff_getElem?.mp hentry
  obtain ⟨j, hj⟩ := List.mem_iff_getElem?.mp hother
  have hij := hexclusive.unique i j _ _ _ hi hj (hpresent hgetNew hprepared.issues_eq)
    (hpresent hget' hissues) hcredential' hcredential
  subst hij
  cases hi.symm.trans hj
  have hkey := Option.some.inj (hissues.symm.trans hprepared.issues_eq)
  have habsent := hprepared.absent
  rw [← hkey, hget] at habsent
  cases habsent

/-- An operation of a call keeps the invariant. -/
theorem invariant_resume (hinv : Invariant auth pool) {i : Nat}
    (hstep : (authSystem auth).step pool (.resume i) pool') : Invariant auth pool' := by
  obtain ⟨call, op, resume, answer, hi, hhandle, hcalls⟩ : ∃ call op resume answer,
      pool.calls[i]? = some (call, Async.await op resume) ∧
      handle call pool.shared op pool'.shared answer ∧
      pool'.calls = pool.calls.set i (call, resume answer) := by
    cases hstep with
    | resume hi hhandle => exact ⟨_, _, _, _, hi, hhandle, rfl⟩
  have hnext := hinv.next hi hhandle
  have hevolves := hnext.effect.evolves
  have hback : ∀ (j : Nat) entry, pool'.calls[j]? = some entry →
      ∃ q, pool.calls[j]? = some (entry.1, q) := by
    intro j entry hj
    rcases Pool.getElem?_of_step hstep hj with ⟨hold, -⟩ | ⟨c, hevent, -⟩ |
      ⟨c, op', resume', answer', -, hold, -, rfl⟩
    · exact ⟨_, hold⟩
    · cases hevent
    · exact ⟨_, hold⟩
  have hforth : ∀ entry ∈ pool.calls, ∃ entry' ∈ pool'.calls, entry'.1 = entry.1 := by
    intro entry hentry
    have hstarted := Pool.started_of_step hstep (List.mem_map_of_mem (f := Prod.fst) hentry)
    exact List.mem_map.mp hstarted
  have hdistinct : ∀ (j k : Nat) first second draw, pool'.calls[j]? = some first →
      pool'.calls[k]? = some second → draw ∈ draws auth first.1 → draw ∈ draws auth second.1 →
      j = k := by
    intro j k first second draw hj hk hfirst hsecond
    obtain ⟨q, hq⟩ := hback j first hj
    obtain ⟨q', hq'⟩ := hback k second hk
    exact hinv.distinct j k _ _ draw hq hq' hfirst hsecond
  have hstage : ∀ entry ∈ pool'.calls, Stage auth pool'.shared entry.1 entry.2 := by
    intro entry hentry
    obtain ⟨j, hj⟩ := List.mem_iff_getElem?.mp hentry
    by_cases hij : j = i
    · subst hij
      rw [hcalls, List.getElem?_set_self (List.getElem?_eq_some_iff.mp hi).1] at hj
      cases hj
      exact hnext.stage
    · rw [hcalls, List.getElem?_set_ne (Ne.symm hij)] at hj
      refine (hinv.stage entry (List.mem_of_getElem? hj)).stable hevolves
        (fun _ => hinv.absent_others hi hnext.effect hj hij) ?_
      intro env input heq habsent
      refine hnext.effect.absentChallenge ?_ habsent
      rintro env' input' rfl hsame
      refine hij (hinv.distinct j i _ _ (.challenge env.challengeId) hj hi ?_ ?_)
      · simp [heq, draws]
      · simp [draws, hsame]
  have hexclusive : Pool.Exclusive (credential auth) Used (Holds auth) pool' :=
    hinv.exclusive.step hstep (hinv.acquires trivial hstep)
  have hcall : ∃ entry ∈ pool'.calls, entry.1 = call := hforth _ (List.mem_of_getElem? hi)
  have hrows : ∀ tokenHash record, pool'.shared.getRefreshToken tokenHash = some record →
      ∃ entry ∈ pool'.calls, issues auth entry.1 = some tokenHash ∧
        Entitled auth pool'.shared record.challengeId record.sessionId entry.1 := by
    intro tokenHash record hrecord
    obtain ⟨entry, hentry, hissues, hentitled⟩ :=
      hnext.effect.rows ⟨_, List.mem_of_getElem? hi, rfl⟩ hinv.rows hrecord
    obtain ⟨entry', hentry', hsame⟩ := hforth entry hentry
    exact ⟨entry', hentry', hsame ▸ hissues, hsame ▸ hentitled⟩
  refine ⟨hdistinct, hstage, hexclusive, hrows,
    fun _ _ => hnext.effect.unreplaced hinv.unreplaced, ?_⟩
  intro challengeId
  have hrelay : Relay Hashed.tokenHash (Source auth pool') (tokensOf pool.shared challengeId) :=
    (hinv.relay challengeId).mono fun _ _ _ hsource => hsource.of_calls hforth
  have hrevoked : ∀ {tokenHash revokedAt : String} {replacedBy record},
      pool.shared.getRefreshToken tokenHash = some record →
      Relay Hashed.tokenHash (Source auth pool') (tokensOf (pool.shared.saveRefreshToken tokenHash
        (WalletAuthStore.revoked record revokedAt replacedBy)) challengeId) := by
    intro tokenHash revokedAt replacedBy record hfound
    obtain ⟨change, hkey, hchange⟩ :=
      @tokensOf_revoked pool.shared tokenHash revokedAt challengeId replacedBy record hfound
    rw [hchange]
    refine hrelay.map hkey ?_
    rintro row parent ⟨entry, hentry, hissues, htrades⟩
    exact ⟨entry, hentry, by rw [hkey]; exact hissues, htrades⟩
  generalize hshared : pool'.shared = store' at *
  cases hnext.effect with
  | same | challenge | consume | session => exact hrelay
  | token hprepared =>
      rw [← hshared] at hrows ⊢
      exact relay_saveToken hprepared hcall hshared hdistinct hexclusive hrows hrelay
  | rotate _ hfound _ => exact hrevoked hfound
  | revoke _ hfound _ => exact hrevoked hfound

theorem invariant_step (hinv : Invariant auth pool) (hfresh : NeverRepeats auth pool event)
    (hstep : (authSystem auth).step pool event pool') : Invariant auth pool' := by
  cases event with
  | start call => exact invariant_start hinv hfresh hstep
  | resume i => exact invariant_resume hinv hstep
  | outside _ =>
      cases hstep with
      | outside hfalse => exact hfalse.elim

theorem invariant_of_reachable
    (h : (authSystem auth).Reachable (NeverRepeats auth) pool) : Invariant auth pool :=
  h.invariant (fun _ hinit => invariant_init hinit)
    fun _ _ _ _ hinv hfresh hstep => invariant_step hinv hfresh hstep

/-! ## Single use -/

/-- The call has issued a session. -/
def Issued (entry : AuthCall × Await AuthAnswer) : Prop :=
  ∃ result, entry.2 = .done (.ok (.session result))

/-- A refresh of the first token, which is revoked and replaced by it, has issued the second. -/
structure Succeeds (auth : WalletAuthenticator ν) (pool : Calls)
    (token next : Hashed WalletAuthRefreshTokenRecord) : Prop where
  revoked : token.record.revokedAt.isSome = true
  replaced : token.record.replacedBySessionId = some next.record.sessionId
  refreshed : ∃ env refreshToken, .refreshSession env refreshToken ∈ pool.calls.map Prod.fst ∧
    hashToken auth refreshToken = token.tokenHash ∧
    hashToken auth env.refreshToken = next.tokenHash

/-- Challenges and refresh tokens are good for one session each, and the refresh tokens of a
challenge are one chain, of which one is live at most. -/
structure SingleUse (auth : WalletAuthenticator ν) (pool : Calls) : Prop where
  challenge : ∀ (i j : Nat) env env' input input' p p',
    pool.calls[i]? = some (.createSession env input, p) →
    pool.calls[j]? = some (.createSession env' input', p') →
    Issued (.createSession env input, p) → Issued (.createSession env' input', p') →
    input.challengeId = input'.challengeId → i = j
  token : ∀ (i j : Nat) env env' refreshToken refreshToken' p p',
    pool.calls[i]? = some (.refreshSession env refreshToken, p) →
    pool.calls[j]? = some (.refreshSession env' refreshToken', p') →
    Issued (.refreshSession env refreshToken, p) → Issued (.refreshSession env' refreshToken', p') →
    hashToken auth refreshToken = hashToken auth refreshToken' → i = j
  first : ∀ challengeId token, (tokensOf pool.shared challengeId).head? = some token →
    ∃ env input, .createSession env input ∈ pool.calls.map Prod.fst ∧
      input.challengeId = challengeId ∧ hashToken auth env.refreshToken = token.tokenHash
  chain : ∀ challengeId, (tokensOf pool.shared challengeId).IsChain (Succeeds auth pool)
  live : ∀ token ∈ pool.shared.refreshTokensByHash, ∀ token' ∈ pool.shared.refreshTokensByHash,
    token.record.challengeId = token'.record.challengeId → token.record.revokedAt = none →
    token'.record.revokedAt = none → token = token'

theorem holds_of_issued (h : Stage auth store call p) (hissued : Issued (call, p)) :
    Holds auth store call p := by
  obtain ⟨result, hresult⟩ := hissued
  dsimp only at hresult
  cases h with
  | issued hissues hsome => exact .inr ⟨_, hissues, hsome⟩
  | _ => cases hresult

theorem mem_tokensOf {challengeId : String} {row : Hashed WalletAuthRefreshTokenRecord} :
    row ∈ tokensOf store challengeId ↔
      store.getRefreshToken row.tokenHash = some row.record ∧
        row.record.challengeId = challengeId := by
  rw [tokensOf, List.mem_filter, decide_eq_true_eq, getRefreshToken_eq_some]
  rfl

/-- The call that trades a token in for another has revoked it for that. -/
theorem Invariant.succeeds (hinv : Invariant auth pool) {challengeId : String}
    {token next : Hashed WalletAuthRefreshTokenRecord}
    (htoken : token ∈ tokensOf pool.shared challengeId)
    (hnext : next ∈ tokensOf pool.shared challengeId)
    (hsource : Source auth pool next (some token.tokenHash)) : Succeeds auth pool token next := by
  obtain ⟨entry, hentry, hissues, htrades⟩ := hsource
  obtain ⟨issuer, hissuer, hissues', hentitled⟩ := hinv.rows _ _ (mem_tokensOf.mp hnext).1
  cases eq_of_issues hinv.distinct hissuer hentry hissues' hissues
  have hmem : entry.1 ∈ pool.calls.map Prod.fst := List.mem_map_of_mem hentry
  generalize entry.1 = call at hmem hissues htrades hentitled
  cases call with
  | refreshSession env refreshToken =>
      have hhash := Option.some.inj (Option.some.inj htrades)
      obtain ⟨record, hget, -, hrevoked, hreplaced⟩ := hentitled
      rw [hhash, (mem_tokensOf.mp htoken).1, Option.some.injEq] at hget
      subst hget
      exact ⟨hrevoked, hreplaced, env, refreshToken, hmem, hhash, Option.some.inj hissues⟩
  | createSession => cases htrades
  | createChallenge | revokeSession | authenticateAccessToken => exact hentitled.elim

/-- A live token is the last of its challenge. -/
theorem Invariant.getLast_of_live (hinv : Invariant auth pool)
    {token : Hashed WalletAuthRefreshTokenRecord} (hmem : token ∈ pool.shared.refreshTokensByHash)
    (hlive : token.record.revokedAt = none) :
    (tokensOf pool.shared token.record.challengeId).getLast? = some token := by
  have htoken : token ∈ tokensOf pool.shared token.record.challengeId :=
    mem_tokensOf.mpr ⟨getRefreshToken_eq_some.mpr hmem, rfl⟩
  rcases (hinv.relay token.record.challengeId).last_or_next htoken with hlast | ⟨next, hnext, hsource⟩
  · exact hlast
  · have hrevoked := (hinv.succeeds htoken hnext hsource).revoked
    rw [hlive] at hrevoked
    cases hrevoked

/-- **Credentials are single use**, whatever the calls and however they interleave. -/
theorem credentials_single_use
    (h : (authSystem auth).Reachable (NeverRepeats auth) pool) : SingleUse auth pool := by
  have hinv := invariant_of_reachable h
  have hholds : ∀ {i : Nat} {entry}, pool.calls[i]? = some entry → Issued entry →
      Holds auth pool.shared entry.1 entry.2 := fun hi hissued =>
    holds_of_issued (hinv.stage _ (List.mem_of_getElem? hi)) hissued
  refine ⟨?_, ?_, ?_, ?_, ?_⟩
  · intro i j env env' input input' p p' hi hj hissued hissued' hid
    refine hinv.exclusive.unique i j _ _ (.challenge input.challengeId) hi hj (hholds hi hissued)
      (hholds hj hissued') rfl ?_
    rw [hid]
    rfl
  · intro i j env env' refreshToken refreshToken' p p' hi hj hissued hissued' hhash
    refine hinv.exclusive.unique i j _ _ (.token (hashToken auth refreshToken)) hi hj
      (hholds hi hissued) (hholds hj hissued') rfl ?_
    rw [hhash]
    rfl
  · intro challengeId token hhead
    have hmem := List.mem_of_mem_head? (Option.mem_def.mpr hhead)
    obtain ⟨entry, hentry, hissues, htrades⟩ := (hinv.relay challengeId).source_head hhead
    obtain ⟨issuer, hissuer, hissues', hentitled⟩ := hinv.rows _ _ (mem_tokensOf.mp hmem).1
    cases eq_of_issues hinv.distinct hissuer hentry hissues' hissues
    have hstarted : entry.1 ∈ pool.calls.map Prod.fst := List.mem_map_of_mem hentry
    generalize entry.1 = call at hstarted hissues htrades hentitled
    cases call with
    | createSession env input =>
        exact ⟨env, input, hstarted, hentitled.1.trans (mem_tokensOf.mp hmem).2,
          Option.some.inj hissues⟩
    | refreshSession => cases htrades
    | createChallenge | revokeSession | authenticateAccessToken => exact hentitled.elim
  · intro challengeId
    have hchain := List.IsChain.iff_mem.mp (hinv.relay challengeId).isChain
    exact hchain.imp fun token next hboth => hinv.succeeds hboth.1 hboth.2.1 hboth.2.2
  · intro token hmem token' hmem' hid hlive hlive'
    have hlast := hinv.getLast_of_live hmem hlive
    have hlast' := hinv.getLast_of_live hmem' hlive'
    rw [← hid, hlast, Option.some.injEq] at hlast'
    exact hlast'

/-! ## A sign-in -/

/-- Whether an event repeats no draw. -/
def repeatsNothing (auth : WalletAuthenticator ν) (pool : Calls) : Event → Bool
  | .start call => (draws auth call).all (fun draw =>
      pool.calls.all (fun entry => decide (draw ∉ draws auth entry.1)) &&
        pool.shared.challengesById.rows.all (fun challenge =>
          decide (draw ≠ .challenge challenge.challengeId)))
  | _ => true

theorem neverRepeats_of_repeatsNothing (h : repeatsNothing auth pool event = true) :
    NeverRepeats auth pool event := by
  cases event with
  | start call =>
      intro draw hdraw
      have hboth := List.all_eq_true.mp h draw hdraw
      rw [Bool.and_eq_true, List.all_eq_true, List.all_eq_true] at hboth
      exact ⟨fun entry hentry => of_decide_eq_true (hboth.1 entry hentry),
        fun challenge hchallenge => of_decide_eq_true (hboth.2 challenge hchallenge)⟩
  | resume i => trivial
  | outside x => trivial

/-- The calls of a schedule over a store. -/
def runCalls (auth : WalletAuthenticator ν) (store : WalletAuthStore) (schedule : List Event) :
    Calls :=
  schedule.foldl (Pool.advance (fun _ => serve) (fun _ _ => none) (program auth)) ⟨store, []⟩

/-- Whether every event of a schedule can happen, and repeats no draw. -/
def admitsCalls (auth : WalletAuthenticator ν) (store : WalletAuthStore) (schedule : List Event) :
    Bool :=
  System.admittedAlong (Pool.advance (fun _ => serve) (fun _ _ => none) (program auth))
    (fun pool event => Pool.canAdvance (fun _ (_ : Unit) => none) pool event &&
      repeatsNothing auth pool event) ⟨store, []⟩ schedule

theorem reachable_runCalls {schedule : List Event} (hsessions : store.sessionsByTokenHash.rows = [])
    (htokens : store.refreshTokensByHash.rows = []) (h : admitsCalls auth store schedule = true) :
    (authSystem auth).Reachable (NeverRepeats auth) (runCalls auth store schedule) := by
  have hreach : (authSystem auth).Reachable (fun pool event => repeatsNothing auth pool event = true)
      (runCalls auth store schedule) :=
    Pool.reachable_of_schedule (fun _ _ _ _ _ hserve => Attempt.of_serve hserve) nofun
      ⟨hsessions, htokens⟩ h
  exact hreach.mono fun _ _ haccept => neverRepeats_of_repeatsNothing haccept

/-- The session a call has issued. -/
def issuedSession : Except WalletAuthError AuthAnswer → Option WalletAuthSessionResult
  | .ok (.session result) => some result
  | _ => none

namespace SignIn

open Split402.Sample (merchantPublicKey merchantKeyBytes)

def tokenDigests : List (String × String) :=
  [("access-1", "f4c2844f463b5a93a517de81b67a09c8b9d79697bd3e7e5145e20e1ca2013c06"),
    ("refresh-1", "bd473e5dcdce2510c2df4f0c5a54a605fa3647fe74afae20a8cdb8b91b1a1f63"),
    ("access-2", "6762f65455db85eb39ce6ed04355d710bd03b5d0316aef92dc0846cd5dd72b56"),
    ("refresh-2", "f865a88f563b9fbc4c224f6fbabd2ec9f810efefc61b212bda20ee64a6fb2840"),
    ("access-3", "25a365ad262fb85c98592b46d591349ac0f2efed5a7559cf7a6388d8dffd8198"),
    ("refresh-3", "4482e973ec11c6135fee76b488ae112dbad4fd03fea792ace9c0cf7875e714fe")]

/-- The wallet's signature of the challenge. -/
def signature : String :=
  "GbtulcfzL86OhuW2dj8xWwHJlJuMYg1lo4z-2dz5KwB4EVFVRdPaxglfop0INx3ZTP0F6546L0aopjyfGVojBw"

def signatureBytes : List UInt8 :=
  [25, 187, 110, 149, 199, 243, 47, 206, 142, 134, 229, 182, 118, 63, 49, 91, 1, 201, 148, 155, 140,
    98, 13, 101, 163, 140, 254, 217, 220, 249, 43, 0, 120, 17, 81, 85, 69, 211, 218, 198, 9, 95, 162,
    157, 8, 55, 29, 217, 76, 253, 5, 235, 158, 58, 47, 70, 168, 166, 60, 159, 25, 90, 35, 7]

/-- An engine that knows the digests of these tokens and this signature. -/
def authenticator : WalletAuthenticator Whole where
  runtime :=
    { numbers := wholeNumbers
      ofNat := .nat
      sha256Hex := fun bytes =>
        ((tokenDigests.find? (fun digest => digest.1.toUTF8 == bytes)).map Prod.snd).getD ""
      nodeVerify := fun publicKey _ signature =>
        publicKey == merchantKeyBytes && signature == signatureBytes }
  host := isoHost
  challengeTtlMs := none
  sessionTtlMs := none
  refreshTokenTtlMs := none

def challenge : WalletAuthChallengeRecord where
  challengeId := "chl_00000000000000000000000000000001"
  wallet := merchantPublicKey
  network := "solana:devnet"
  purpose := "merchant-session"
  nonce := "nonce-1"
  expiresAt := "2026-01-01T00:05:00.000Z"
  message := "split402:auth:v1"
  createdAt := "2026-01-01T00:00:00.000Z"
  consumedAt := none

/-- A store with the challenge alone. -/
def challenges : WalletAuthStore := ⟨Table.empty.upsert challenge, Table.empty, Table.empty⟩

def env (n : Nat) : AuthEnv where
  clock := 1767225600000
  challengeId := "chl_0000000000000000000000000000000" ++ toString n
  nonce := "nonce-" ++ toString n
  sessionId := "ses_0000000000000000000000000000000" ++ toString n
  refreshTokenId := "rft_0000000000000000000000000000000" ++ toString n
  accessToken := "access-" ++ toString n
  refreshToken := "refresh-" ++ toString n

/-- The wallet signs in, and refreshes its session. -/
def schedule : List Event :=
  [.start (.createSession (env 1) ⟨challenge.challengeId, signature, none⟩), .resume 0, .resume 0,
    .resume 0, .resume 0, .start (.refreshSession (env 2) "refresh-1"), .resume 1, .resume 1,
    .resume 1, .resume 1]

end SignIn

/-- Both calls issue a session, and the two tokens are a chain. -/
theorem credentials_single_use_signIn :
    SingleUse SignIn.authenticator (runCalls SignIn.authenticator SignIn.challenges SignIn.schedule) ∧
      (Pool.produced issuedSession (runCalls SignIn.authenticator SignIn.challenges SignIn.schedule)).map
        WalletAuthSessionResult.refreshToken = ["refresh-1", "refresh-2"] :=
  ⟨credentials_single_use (reachable_runCalls rfl rfl (by decide +kernel)), by decide +kernel⟩

end WalletAuth

end Split402

import Split402.Auth.WalletAuth

/-! # Steps of a sign-in

A challenge is consumed, and a refresh token revoked, by one atomic operation that finds it unused;
everything a call reads before may be out of date by then. This file says where a call can be between
two operations, what it then knows of the store, and what one operation does. -/

namespace Split402

open Base

/-! ## The store -/

namespace WalletAuthStore

variable {store : WalletAuthStore} {challenge : WalletAuthChallengeRecord}
  {record : WalletAuthRefreshTokenRecord} {id tokenHash key : String}

theorem getChallenge_saveChallenge :
    (store.saveChallenge challenge).getChallenge id =
      if challenge.challengeId = id then some challenge else store.getChallenge id :=
  Table.find?_upsert

theorem challengeId_of_get (h : store.getChallenge id = some challenge) :
    challenge.challengeId = id :=
  @Table.key_of_find? _ _ (fun challenge : WalletAuthChallengeRecord => challenge.challengeId)
    _ _ _ _ h

theorem getRefreshToken_saveRefreshToken :
    (store.saveRefreshToken tokenHash record).getRefreshToken key =
      if tokenHash = key then some record else store.getRefreshToken key := by
  rw [getRefreshToken, saveRefreshToken, Table.find?_upsert]
  by_cases h : tokenHash = key
  · rw [if_pos h, if_pos h]
    rfl
  · rw [if_neg h, if_neg h]
    rfl

/-- The token is there, in its row. -/
theorem getRefreshToken_eq_some :
    store.getRefreshToken tokenHash = some record ↔
      (⟨tokenHash, record⟩ : Hashed WalletAuthRefreshTokenRecord) ∈ store.refreshTokensByHash := by
  rw [getRefreshToken, Option.map_eq_some_iff]
  constructor
  · rintro ⟨⟨hash, found⟩, hfind, rfl⟩
    have hkey := Table.key_of_find? hfind
    dsimp only at hkey
    subst hkey
    exact Table.mem_of_find? hfind
  · intro h
    exact ⟨_, Table.find?_of_mem h, rfl⟩

theorem consumeChallenge_eq (consumedAt : String)
    (h : store.getChallenge id = some challenge) (hnone : challenge.consumedAt = none) :
    store.consumeChallenge id consumedAt =
      (store.saveChallenge { challenge with consumedAt := some consumedAt }, true) := by
  rw [consumeChallenge, h]
  simp [hnone]

/-- A challenge is consumed when it is there and has not been. -/
theorem consumeChallenge_cases (store : WalletAuthStore) (id consumedAt : String) :
    store.consumeChallenge id consumedAt = (store, false) ∨
      ∃ challenge, store.getChallenge id = some challenge ∧ challenge.consumedAt = none ∧
        store.consumeChallenge id consumedAt =
          (store.saveChallenge { challenge with consumedAt := some consumedAt }, true) := by
  cases hfound : store.getChallenge id with
  | none => exact .inl (by rw [consumeChallenge, hfound])
  | some challenge =>
      by_cases hconsumed : challenge.consumedAt.isSome = true
      · exact .inl (by rw [consumeChallenge, hfound]; exact if_pos hconsumed)
      · have hnone : challenge.consumedAt = none := by simpa using hconsumed
        exact .inr ⟨challenge, rfl, hnone, consumeChallenge_eq consumedAt hfound hnone⟩

/-- A refresh token with its revocation. -/
def revoked (record : WalletAuthRefreshTokenRecord) (revokedAt : String)
    (replacedBySessionId : Option String) : WalletAuthRefreshTokenRecord :=
  { record with
    revokedAt := some revokedAt
    replacedBySessionId := replacedBySessionId.or record.replacedBySessionId }

/-- A refresh token is revoked when it is there and has not been. -/
theorem revokeRefreshToken_cases (store : WalletAuthStore) (tokenHash revokedAt : String)
    (replacedBy : Option String) :
    (store.revokeRefreshToken tokenHash revokedAt replacedBy = (store, false) ∧
      ∀ record, store.getRefreshToken tokenHash = some record → record.revokedAt.isSome = true) ∨
      ∃ record, store.getRefreshToken tokenHash = some record ∧ record.revokedAt = none ∧
        store.revokeRefreshToken tokenHash revokedAt replacedBy =
          (store.saveRefreshToken tokenHash (revoked record revokedAt replacedBy), true) := by
  cases hfound : store.getRefreshToken tokenHash with
  | none => exact .inl ⟨by rw [revokeRefreshToken, hfound], nofun⟩
  | some record =>
      by_cases hrevoked : record.revokedAt.isSome = true
      · refine .inl ⟨by rw [revokeRefreshToken, hfound]; exact if_pos hrevoked, ?_⟩
        intro found heq
        cases heq
        exact hrevoked
      · refine .inr ⟨record, rfl, by simpa using hrevoked, ?_⟩
        rw [revokeRefreshToken, hfound]
        exact if_neg hrevoked

end WalletAuthStore

namespace WalletAuth

open WalletAuthStore

variable {ν : Type} {auth : WalletAuthenticator ν}

/-! ## What a call uses up, and what it issues -/

/-- What is good for one call. -/
inductive Credential
  | challenge (challengeId : String)
  | token (tokenHash : String)

/-- The credential a call presents for a session. -/
def credential (auth : WalletAuthenticator ν) : AuthCall → Option Credential
  | .createSession _ input => some (.challenge input.challengeId)
  | .refreshSession _ refreshToken => some (.token (hashToken auth refreshToken))
  | _ => none

/-- The refresh token a call would issue. -/
def issues (auth : WalletAuthenticator ν) : AuthCall → Option String
  | .createSession env _ | .refreshSession env _ => some (hashToken auth env.refreshToken)
  | _ => none

def Used (store : WalletAuthStore) : Credential → Prop
  | .challenge challengeId =>
      ∃ challenge, store.getChallenge challengeId = some challenge ∧
        challenge.consumedAt.isSome = true
  | .token tokenHash =>
      ∃ record, store.getRefreshToken tokenHash = some record ∧ record.revokedAt.isSome = true

/-- A call has used its credential up, and may issue a token of the challenge under a session. -/
def Entitled (auth : WalletAuthenticator ν) (store : WalletAuthStore) (challengeId sessionId : String) :
    AuthCall → Prop
  | .createSession _ input =>
      input.challengeId = challengeId ∧ Used store (.challenge challengeId)
  | .refreshSession _ refreshToken =>
      ∃ record, store.getRefreshToken (hashToken auth refreshToken) = some record ∧
        record.challengeId = challengeId ∧ record.revokedAt.isSome = true ∧
        record.replacedBySessionId = some sessionId
  | _ => False

/-- The call is about to save what it issues. -/
def Issuing : Await AuthAnswer → Prop
  | .await (.saveSession _ _) _ | .await (.saveRefreshToken _ _) _ => True
  | _ => False

/-- The call is about to save what it issues, or has saved it. -/
def Holds (auth : WalletAuthenticator ν) (store : WalletAuthStore) (call : AuthCall)
    (p : Await AuthAnswer) : Prop :=
  Issuing p ∨ ∃ tokenHash, issues auth call = some tokenHash ∧
    (store.getRefreshToken tokenHash).isSome = true

/-- What is prepared for a call that is entitled to it, and not saved yet. -/
structure Prepared (auth : WalletAuthenticator ν) (store : WalletAuthStore) (call : AuthCall)
    (issued : IssuedSession) : Prop where
  issues_eq : issues auth call = some (hashToken auth issued.refreshToken)
  absent : store.getRefreshToken (hashToken auth issued.refreshToken) = none
  live : issued.refreshTokenRecord.revokedAt = none
  unreplaced : issued.refreshTokenRecord.replacedBySessionId = none
  entitled : Entitled auth store issued.refreshTokenRecord.challengeId
    issued.refreshTokenRecord.sessionId call

/-! ## Where a call is -/

/-- Where a call can be, and what it then knows of the store. -/
inductive Stage (auth : WalletAuthenticator ν) (store : WalletAuthStore) :
    AuthCall → Await AuthAnswer → Prop
  | failed (call : AuthCall) (error : WalletAuthError) : Stage auth store call (.done (.error error))
  | saveChallenge {env : AuthEnv} {input : CreateWalletAuthChallengeInput}
      {record : WalletAuthChallengeRecord} : record.challengeId = env.challengeId →
      store.getChallenge env.challengeId = none →
      Stage auth store (.createChallenge env input)
        (Await.saveChallenge record >>= fun _ => pure (.challenge record))
  | challenge {env : AuthEnv} {input : CreateWalletAuthChallengeInput}
      (record : WalletAuthChallengeRecord) :
      Stage auth store (.createChallenge env input) (.done (.ok (.challenge record)))
  | getChallenge {env : AuthEnv} {input : CreateWalletAuthSessionInput} :
      store.getRefreshToken (hashToken auth env.refreshToken) = none →
      Stage auth store (.createSession env input)
        (Await.getChallenge input.challengeId >>= redeemChallenge auth env input)
  | consume {env : AuthEnv} {input : CreateWalletAuthSessionInput}
      {record : WalletAuthChallengeRecord} :
      store.getRefreshToken (hashToken auth env.refreshToken) = none →
      record.challengeId = input.challengeId →
      Stage auth store (.createSession env input)
        (Await.consumeChallenge record.challengeId (now auth env) >>=
          issueForChallenge auth env record)
  | getToken {env : AuthEnv} {refreshToken : String} :
      store.getRefreshToken (hashToken auth env.refreshToken) = none →
      Stage auth store (.refreshSession env refreshToken)
        (Await.getRefreshToken (hashToken auth refreshToken) >>=
          rotateToken auth env (hashToken auth refreshToken))
  | rotate {env : AuthEnv} {refreshToken : String} {record found : WalletAuthRefreshTokenRecord} :
      store.getRefreshToken (hashToken auth env.refreshToken) = none →
      store.getRefreshToken (hashToken auth refreshToken) = some found →
      found.challengeId = record.challengeId →
      Stage auth store (.refreshSession env refreshToken)
        (Await.revokeRefreshToken (hashToken auth refreshToken) (now auth env)
            (some env.sessionId) >>= issueForToken auth env record env.sessionId)
  | saveSession {call : AuthCall} {issued : IssuedSession} : Prepared auth store call issued →
      Stage auth store call (saveIssued auth issued)
  | saveToken {call : AuthCall} {issued : IssuedSession} : Prepared auth store call issued →
      Stage auth store call (saveIssuedToken auth issued)
  | issued {call : AuthCall} {result : WalletAuthSessionResult} :
      issues auth call = some (hashToken auth result.refreshToken) →
      (store.getRefreshToken (hashToken auth result.refreshToken)).isSome = true →
      Stage auth store call (.done (.ok (.session result)))
  | findToken {env : AuthEnv} {refreshToken : String} :
      Stage auth store (.revokeSession env refreshToken)
        (Await.getRefreshToken (hashToken auth refreshToken) >>=
          revokeToken auth env (hashToken auth refreshToken))
  | revoke {env : AuthEnv} {refreshToken wallet : String}
      {found : WalletAuthRefreshTokenRecord} :
      store.getRefreshToken (hashToken auth refreshToken) = some found →
      Stage auth store (.revokeSession env refreshToken)
        (Await.revokeRefreshToken (hashToken auth refreshToken) (now auth env) none >>=
          fun revoked => pure (.revocation ⟨!revoked, wallet⟩))
  | revoked {env : AuthEnv} {refreshToken : String} {result : WalletAuthRevocationResult}
      {found : WalletAuthRefreshTokenRecord} :
      store.getRefreshToken (hashToken auth refreshToken) = some found →
      found.revokedAt.isSome = true →
      (result.alreadyRevoked = false → found.replacedBySessionId = none) →
      Stage auth store (.revokeSession env refreshToken) (.done (.ok (.revocation result)))
  | getSession {env : AuthEnv} {accessToken : String} :
      Stage auth store (.authenticateAccessToken env accessToken)
        (Await.getSession (hashToken auth accessToken) >>=
          fun session => pure (.authenticated (liveSession auth env session)))
  | authenticated {env : AuthEnv} {accessToken : String}
      {session : Option AuthenticatedWalletSession} :
      session.all (fun session => !notAfter auth session.expiresAt (now auth env)) = true →
      Stage auth store (.authenticateAccessToken env accessToken)
        (.done (.ok (.authenticated session)))

/-! ## What an operation does -/

/-- Nothing is unused again, and no token changes its challenge. -/
structure Evolves (store store' : WalletAuthStore) : Prop where
  challenge : ∀ id challenge, store.getChallenge id = some challenge →
    ∃ challenge', store'.getChallenge id = some challenge' ∧
      (challenge.consumedAt.isSome = true → challenge'.consumedAt.isSome = true)
  token : ∀ tokenHash record, store.getRefreshToken tokenHash = some record →
    ∃ record', store'.getRefreshToken tokenHash = some record' ∧
      record'.challengeId = record.challengeId ∧
      (record.revokedAt.isSome = true → record' = record)

variable {store store' : WalletAuthStore} {call : AuthCall} {p : Await AuthAnswer}

theorem Evolves.refl (store : WalletAuthStore) : Evolves store store :=
  ⟨fun _ challenge h => ⟨challenge, h, id⟩, fun _ record h => ⟨record, h, rfl, fun _ => rfl⟩⟩

theorem Evolves.used (h : Evolves store store') {credential : Credential}
    (hused : Used store credential) : Used store' credential := by
  cases credential with
  | challenge id =>
      obtain ⟨challenge, hfound, hconsumed⟩ := hused
      obtain ⟨challenge', hfound', hmono⟩ := h.challenge _ _ hfound
      exact ⟨challenge', hfound', hmono hconsumed⟩
  | token tokenHash =>
      obtain ⟨record, hfound, hrevoked⟩ := hused
      obtain ⟨record', hfound', -, hsame⟩ := h.token _ _ hfound
      exact ⟨record', hfound', by rw [hsame hrevoked]; exact hrevoked⟩

theorem Evolves.entitled (h : Evolves store store') {challengeId sessionId : String}
    (hentitled : Entitled auth store challengeId sessionId call) :
    Entitled auth store' challengeId sessionId call := by
  cases call with
  | createSession env input => exact ⟨hentitled.1, h.used hentitled.2⟩
  | refreshSession env refreshToken =>
      obtain ⟨record, hfound, hid, hrevoked, hreplaced⟩ := hentitled
      obtain ⟨record', hfound', -, hsame⟩ := h.token _ _ hfound
      rw [hsame hrevoked] at hfound'
      exact ⟨record, hfound', hid, hrevoked, hreplaced⟩
  | createChallenge _ _ | revokeSession _ _ | authenticateAccessToken _ _ => exact hentitled.elim

/-- What one operation of a call can do to the store. -/
inductive Effect (auth : WalletAuthenticator ν) (store : WalletAuthStore) :
    AuthCall → WalletAuthStore → Prop
  | same (call : AuthCall) : Effect auth store call store
  | challenge {env : AuthEnv} {input : CreateWalletAuthChallengeInput}
      {record : WalletAuthChallengeRecord} : record.challengeId = env.challengeId →
      store.getChallenge env.challengeId = none →
      Effect auth store (.createChallenge env input) (store.saveChallenge record)
  | consume {env : AuthEnv} {input : CreateWalletAuthSessionInput}
      {record : WalletAuthChallengeRecord} (consumedAt : String) :
      store.getChallenge input.challengeId = some record → record.consumedAt = none →
      Effect auth store (.createSession env input)
        (store.saveChallenge { record with consumedAt := some consumedAt })
  | session (call : AuthCall) (tokenHash : String) (session : AuthenticatedWalletSession) :
      Effect auth store call (store.saveSession tokenHash session)
  | token {call : AuthCall} {issued : IssuedSession} : Prepared auth store call issued →
      Effect auth store call
        (store.saveRefreshToken (hashToken auth issued.refreshToken) issued.refreshTokenRecord)
  | rotate {env : AuthEnv} {refreshToken : String} {record : WalletAuthRefreshTokenRecord}
      (revokedAt : String) :
      store.getRefreshToken (hashToken auth refreshToken) = some record →
      record.revokedAt = none →
      Effect auth store (.refreshSession env refreshToken)
        (store.saveRefreshToken (hashToken auth refreshToken)
          (WalletAuthStore.revoked record revokedAt (some env.sessionId)))
  | revoke {env : AuthEnv} {refreshToken : String} {record : WalletAuthRefreshTokenRecord}
      (revokedAt : String) :
      store.getRefreshToken (hashToken auth refreshToken) = some record →
      record.revokedAt = none →
      Effect auth store (.revokeSession env refreshToken)
        (store.saveRefreshToken (hashToken auth refreshToken)
          (WalletAuthStore.revoked record revokedAt none))

/-- A token that is revoked where it was live. -/
theorem evolves_revoked {tokenHash revokedAt : String} {replacedBy : Option String}
    {record : WalletAuthRefreshTokenRecord} (hfound : store.getRefreshToken tokenHash = some record)
    (hlive : record.revokedAt = none) :
    Evolves store (store.saveRefreshToken tokenHash
      (WalletAuthStore.revoked record revokedAt replacedBy)) := by
  refine ⟨fun _ challenge h => ⟨challenge, h, id⟩, ?_⟩
  intro key other hother
  rw [getRefreshToken_saveRefreshToken]
  by_cases hkey : tokenHash = key
  · subst hkey
    cases hfound.symm.trans hother
    exact ⟨_, if_pos rfl, rfl, fun hrevoked => by rw [hlive] at hrevoked; cases hrevoked⟩
  · exact ⟨other, (if_neg hkey).trans hother, rfl, fun _ => rfl⟩

theorem Effect.evolves (h : Effect auth store call store') : Evolves store store' := by
  cases h with
  | same => exact .refl store
  | @challenge env input record hid habsent =>
      refine ⟨?_, fun _ record h => ⟨record, h, rfl, fun _ => rfl⟩⟩
      intro id other hother
      rw [getChallenge_saveChallenge]
      by_cases hkey : record.challengeId = id
      · rw [← hkey, hid, habsent] at hother
        cases hother
      · exact ⟨other, (if_neg hkey).trans hother, fun hconsumed => hconsumed⟩
  | @consume env input record consumedAt hfound hunused =>
      refine ⟨?_, fun _ record h => ⟨record, h, rfl, fun _ => rfl⟩⟩
      intro id other hother
      rw [getChallenge_saveChallenge]
      by_cases hkey : record.challengeId = id
      · exact ⟨_, if_pos hkey, fun _ => rfl⟩
      · exact ⟨other, (if_neg hkey).trans hother, fun hconsumed => hconsumed⟩
  | session => exact ⟨fun _ challenge h => ⟨challenge, h, id⟩,
      fun _ record h => ⟨record, h, rfl, fun _ => rfl⟩⟩
  | @token _ issued hprepared =>
      refine ⟨fun _ challenge h => ⟨challenge, h, id⟩, ?_⟩
      intro key other hother
      rw [getRefreshToken_saveRefreshToken]
      by_cases hkey : hashToken auth issued.refreshToken = key
      · rw [← hkey, hprepared.absent] at hother
        cases hother
      · exact ⟨other, (if_neg hkey).trans hother, rfl, fun _ => rfl⟩
  | rotate _ hfound hlive => exact evolves_revoked hfound hlive
  | revoke _ hfound hlive => exact evolves_revoked hfound hlive

/-- Only the call that issues a token adds it. -/
theorem Effect.absent (h : Effect auth store call store') {tokenHash : String}
    (hne : issues auth call ≠ some tokenHash) (habsent : store.getRefreshToken tokenHash = none) :
    store'.getRefreshToken tokenHash = none := by
  have hrevoked : ∀ refreshToken record record',
      store.getRefreshToken (hashToken auth refreshToken) = some record →
      (store.saveRefreshToken (hashToken auth refreshToken) record').getRefreshToken tokenHash =
        none := by
    intro refreshToken record record' hfound
    rw [getRefreshToken_saveRefreshToken]
    by_cases hkey : hashToken auth refreshToken = tokenHash
    · rw [hkey, habsent] at hfound
      cases hfound
    · rw [if_neg hkey, habsent]
  cases h with
  | same | challenge | consume | session => exact habsent
  | @token _ issued hprepared =>
      rw [getRefreshToken_saveRefreshToken]
      by_cases hkey : hashToken auth issued.refreshToken = tokenHash
      · rw [← hkey] at hne
        exact absurd hprepared.issues_eq hne
      · rw [if_neg hkey, habsent]
  | rotate _ hfound _ => exact hrevoked _ _ _ hfound
  | revoke _ hfound _ => exact hrevoked _ _ _ hfound

/-- Only the call that creates a challenge adds it. -/
theorem Effect.absentChallenge (h : Effect auth store call store') {challengeId : String}
    (hne : ∀ env input, call = .createChallenge env input → env.challengeId ≠ challengeId)
    (habsent : store.getChallenge challengeId = none) :
    store'.getChallenge challengeId = none := by
  cases h with
  | same | session | token | rotate | revoke => exact habsent
  | @challenge env input record hid _ =>
      rw [getChallenge_saveChallenge, if_neg, habsent]
      rw [hid]
      exact hne _ _ rfl
  | @consume env input record consumedAt hfound _ =>
      rw [getChallenge_saveChallenge, if_neg, habsent]
      rintro rfl
      have hid : record.challengeId = input.challengeId := challengeId_of_get hfound
      dsimp only at habsent
      rw [hid, hfound] at habsent
      cases habsent

/-! ## The steps of a call -/

/-- A stage is kept by what other calls do. -/
theorem Stage.stable (h : Stage auth store call p) (hevolves : Evolves store store')
    (htoken : ∀ tokenHash, issues auth call = some tokenHash →
      store.getRefreshToken tokenHash = none → store'.getRefreshToken tokenHash = none)
    (hchallenge : ∀ env input, call = .createChallenge env input →
      store.getChallenge env.challengeId = none → store'.getChallenge env.challengeId = none) :
    Stage auth store' call p := by
  have hprepared : ∀ {call : AuthCall} {issued : IssuedSession}, (∀ tokenHash,
      issues auth call = some tokenHash → store.getRefreshToken tokenHash = none →
        store'.getRefreshToken tokenHash = none) → Prepared auth store call issued →
      Prepared auth store' call issued := fun htoken h =>
    ⟨h.issues_eq, htoken _ h.issues_eq h.absent, h.live, h.unreplaced, hevolves.entitled h.entitled⟩
  have hpresent : ∀ tokenHash, (store.getRefreshToken tokenHash).isSome = true →
      (store'.getRefreshToken tokenHash).isSome = true := by
    intro tokenHash hsome
    obtain ⟨record, hrecord⟩ := Option.isSome_iff_exists.mp hsome
    obtain ⟨record', hrecord', -⟩ := hevolves.token _ _ hrecord
    rw [hrecord']
    rfl
  cases h with
  | failed call error => exact .failed call error
  | saveChallenge hid habsent => exact .saveChallenge hid (hchallenge _ _ rfl habsent)
  | challenge record => exact .challenge record
  | getChallenge habsent => exact .getChallenge (htoken _ rfl habsent)
  | consume habsent hid => exact .consume (htoken _ rfl habsent) hid
  | getToken habsent => exact .getToken (htoken _ rfl habsent)
  | rotate habsent hfound hid =>
      obtain ⟨found', hfound', hid', -⟩ := hevolves.token _ _ hfound
      exact .rotate (htoken _ rfl habsent) hfound' (hid'.trans hid)
  | saveSession h => exact .saveSession (hprepared htoken h)
  | saveToken h => exact .saveToken (hprepared htoken h)
  | issued hissues hsome => exact .issued hissues (hpresent _ hsome)
  | findToken => exact .findToken
  | revoke hfound =>
      obtain ⟨found', hfound', -⟩ := hevolves.token _ _ hfound
      exact .revoke hfound'
  | revoked hfound hrevoked hreplaced =>
      obtain ⟨found', hfound', -, hsame⟩ := hevolves.token _ _ hfound
      rw [hsame hrevoked] at hfound'
      exact .revoked hfound' hrevoked hreplaced
  | getSession => exact .getSession
  | authenticated hlive => exact .authenticated hlive

/-- What a call does with one answer: the effect, its next stage, and that it gets past nothing but
a credential that was unused. -/
structure Next (auth : WalletAuthenticator ν) (store store' : WalletAuthStore) (call : AuthCall)
    (p p' : Await AuthAnswer) : Prop where
  effect : Effect auth store call store'
  stage : Stage auth store' call p'
  passed : Holds auth store' call p' → Holds auth store call p ∨
    ∃ used, credential auth call = some used ∧ ¬ Used store used ∧ Used store' used

/-- A call that is rejected ends. -/
theorem Next.failed {error : WalletAuthError} (h : Effect auth store call store')
    (hkept : ∀ tokenHash, issues auth call = some tokenHash →
      (store'.getRefreshToken tokenHash).isSome = true → Holds auth store call p) :
    Next auth store store' call p (.done (.error error)) := by
  refine ⟨h, .failed _ _, ?_⟩
  rintro (hissuing | ⟨tokenHash, hissues, hsome⟩)
  · exact hissuing.elim
  · exact .inl (hkept tokenHash hissues hsome)

/-- An operation has been served and answers, or it is rejected before or after. -/
theorem handle_cases {op : Op} {answer : Except WalletAuthError op.Answer}
    (h : handle call store op store' answer) :
    (store' = (serve store op).1 ∧ answer = (serve store op).2) ∨
      ∃ error, answer = .error error ∧ (store' = store ∨ store' = (serve store op).1) := by
  cases h with
  | served => exact .inl ⟨rfl, rfl⟩
  | failedBefore _ => exact .inr ⟨_, rfl, .inl rfl⟩
  | failedAfter _ => exact .inr ⟨_, rfl, .inr rfl⟩

/-- A call that has read the store goes on, or ends with the error of the read. -/
theorem Next.of_read {op : Op} {next : op.Answer → Await AuthAnswer}
    {answer : Except WalletAuthError op.Answer} (hread : (serve store op).1 = store)
    (h : handle call store op store' answer)
    (hstage : ∀ a, (serve store op).2 = .ok a → Stage auth store call (next a))
    (hissuing : ∀ a, ¬ Issuing (next a)) :
    Next auth store store' call (Async.call op >>= next)
      ((Async.done answer : Await op.Answer) >>= next) := by
  have hsame : store' = store := by
    rcases handle_cases h with ⟨hstore, -⟩ | ⟨_, -, hstore | hstore⟩
    · rw [hstore, hread]
    · exact hstore
    · rw [hstore, hread]
  subst hsame
  rcases handle_cases h with ⟨-, hanswer⟩ | ⟨error, rfl, -⟩
  · cases hresult : (serve store' op).2 with
    | ok a =>
        rw [hanswer, hresult]
        refine ⟨.same call, hstage a hresult, ?_⟩
        rintro (hbad | hsaved)
        · exact absurd hbad (hissuing a)
        · exact .inl (.inr hsaved)
    | error error =>
        rw [hanswer, hresult]
        exact .failed (.same call) fun tokenHash hissues hsome => .inr ⟨tokenHash, hissues, hsome⟩
  · exact .failed (.same call) fun tokenHash hissues hsome => .inr ⟨tokenHash, hissues, hsome⟩

/-- What a call has prepared, when it returns. -/
theorem prepareSession_eq_ok {env : AuthEnv} {input : IssueSessionInput} {issued : IssuedSession}
    (h : prepareSession auth env input = .ok issued) :
    issued.refreshToken = env.refreshToken ∧
      issued.refreshTokenRecord.challengeId = input.challengeId ∧
      issued.refreshTokenRecord.revokedAt = none ∧
      issued.refreshTokenRecord.replacedBySessionId = none ∧
      ∀ sessionId, input.sessionId = some sessionId →
        issued.refreshTokenRecord.sessionId = sessionId := by
  obtain ⟨accessToken, -, h⟩ := bind_eq_ok.mp h
  obtain ⟨refreshToken, hrefresh, h⟩ := bind_eq_ok.mp h
  obtain ⟨sessionId, hsession, h⟩ := bind_eq_ok.mp h
  obtain ⟨expiresAt, -, h⟩ := bind_eq_ok.mp h
  obtain ⟨refreshTokenId, -, h⟩ := bind_eq_ok.mp h
  obtain ⟨refreshTokenExpiresAt, -, h⟩ := bind_eq_ok.mp h
  cases pure_eq_ok.mp h
  refine ⟨?_, rfl, rfl, rfl, ?_⟩
  · rw [assertNonEmptyString, assertThat] at hrefresh
    split at hrefresh
    · exact (pure_eq_ok.mp hrefresh).symm
    · exact absurd hrefresh throw_ne_ok
  · intro given hgiven
    rw [issuedSessionId, hgiven] at hsession
    exact (pure_eq_ok.mp hsession).symm

/-- A call that is entitled to it issues a session. -/
theorem stage_issueSession {env : AuthEnv} {input : IssueSessionInput}
    (hissues : issues auth call = some (hashToken auth env.refreshToken))
    (habsent : store.getRefreshToken (hashToken auth env.refreshToken) = none)
    (hentitled : ∀ sessionId, (∀ given, input.sessionId = some given → sessionId = given) →
      Entitled auth store input.challengeId sessionId call) :
    Stage auth store call (issueSession auth env input) := by
  rw [issueSession]
  cases hprepared : prepareSession auth env input with
  | error error => exact .failed _ _
  | ok issued =>
      obtain ⟨htoken, hid, hlive, hunreplaced, hsession⟩ := prepareSession_eq_ok hprepared
      refine .saveSession ⟨?_, ?_, hlive, hunreplaced, ?_⟩
      · rw [htoken]
        exact hissues
      · rw [htoken]
        exact habsent
      · rw [hid]
        exact hentitled _ hsession

/-! ### The atomic operations -/

/-- Consuming a challenge gets a call past it. -/
theorem Next.of_consume {env : AuthEnv} {input : CreateWalletAuthSessionInput}
    {record : WalletAuthChallengeRecord} {consumedAt : String} {answer : Except WalletAuthError Bool}
    (habsent : store.getRefreshToken (hashToken auth env.refreshToken) = none)
    (hid : record.challengeId = input.challengeId)
    (h : handle (.createSession env input) store
      (.consumeChallenge record.challengeId consumedAt) store' answer) :
    Next auth store store' (.createSession env input)
      (Await.consumeChallenge record.challengeId consumedAt >>=
        issueForChallenge auth env record)
      ((Async.done answer : Await Bool) >>= issueForChallenge auth env record) := by
  have hkept : ∀ {store' : WalletAuthStore}, (∀ key, store'.getRefreshToken key =
      store.getRefreshToken key) → ∀ tokenHash,
      issues auth (.createSession env input) = some tokenHash →
      (store'.getRefreshToken tokenHash).isSome = true →
      Holds auth store (.createSession env input)
        (Await.consumeChallenge record.challengeId consumedAt >>=
          issueForChallenge auth env record) := by
    intro store' hsame tokenHash hissues hsome
    rw [hsame] at hsome
    exact .inr ⟨tokenHash, hissues, hsome⟩
  rw [hid] at h hkept ⊢
  rcases consumeChallenge_cases store input.challengeId consumedAt with
    hnot | ⟨challenge, hfound, hunused, hconsumed⟩
  · have hserve : serve store (.consumeChallenge input.challengeId consumedAt) =
        (store, .ok false) := by
      rw [serve, hnot]
    rcases handle_cases h with ⟨rfl, rfl⟩ | ⟨error, rfl, rfl | rfl⟩
    · rw [hserve]
      exact .failed (.same _) (hkept fun _ => rfl)
    · exact .failed (.same _) (hkept fun _ => rfl)
    · rw [hserve]
      exact .failed (.same _) (hkept fun _ => rfl)
  · have hserve : serve store (.consumeChallenge input.challengeId consumedAt) =
        (store.saveChallenge { challenge with consumedAt := some consumedAt }, .ok true) := by
      rw [serve, hconsumed]
    have hchallengeId := challengeId_of_get hfound
    rcases handle_cases h with ⟨rfl, rfl⟩ | ⟨error, rfl, rfl | rfl⟩
    · rw [hserve]
      have hused : Used (store.saveChallenge { challenge with consumedAt := some consumedAt })
          (.challenge input.challengeId) :=
        ⟨_, by rw [getChallenge_saveChallenge]; exact if_pos hchallengeId, rfl⟩
      refine ⟨.consume consumedAt hfound hunused, ?_, ?_⟩
      · refine stage_issueSession rfl habsent ?_
        intro sessionId _
        exact ⟨hid.symm, by rw [hid]; exact hused⟩
      · intro _
        refine .inr ⟨_, rfl, ?_, hused⟩
        rintro ⟨other, hother, hsome⟩
        cases hfound.symm.trans hother
        rw [hunused] at hsome
        cases hsome
    · exact .failed (.same _) (hkept fun _ => rfl)
    · rw [hserve]
      exact .failed (.consume consumedAt hfound hunused) (hkept fun _ => rfl)

/-- A revocation of a token that is there leaves the tokens of others absent. -/
theorem absent_of_revoked {tokenHash key : String} {found record : WalletAuthRefreshTokenRecord}
    (hfound : store.getRefreshToken tokenHash = some found)
    (habsent : store.getRefreshToken key = none) :
    (store.saveRefreshToken tokenHash record).getRefreshToken key = none := by
  rw [getRefreshToken_saveRefreshToken, if_neg, habsent]
  rintro rfl
  rw [hfound] at habsent
  cases habsent

/-- Revoking a refresh token for its successor gets a call past it. -/
theorem Next.of_rotate {env : AuthEnv} {refreshToken revokedAt : String}
    {record found : WalletAuthRefreshTokenRecord} {answer : Except WalletAuthError Bool}
    (habsent : store.getRefreshToken (hashToken auth env.refreshToken) = none)
    (hfound : store.getRefreshToken (hashToken auth refreshToken) = some found)
    (hid : found.challengeId = record.challengeId)
    (h : handle (.refreshSession env refreshToken) store
      (.revokeRefreshToken (hashToken auth refreshToken) revokedAt (some env.sessionId)) store'
      answer) :
    Next auth store store' (.refreshSession env refreshToken) p
      ((Async.done answer : Await Bool) >>= issueForToken auth env record env.sessionId) := by
  have hgone : ∀ {store' : WalletAuthStore},
      store'.getRefreshToken (hashToken auth env.refreshToken) = none → ∀ tokenHash,
      issues auth (.refreshSession env refreshToken) = some tokenHash →
      (store'.getRefreshToken tokenHash).isSome = true →
      Holds auth store (.refreshSession env refreshToken) p := by
    intro store' hnone tokenHash hissues hsome
    cases hissues
    rw [hnone] at hsome
    cases hsome
  rcases revokeRefreshToken_cases store (hashToken auth refreshToken) revokedAt
    (some env.sessionId) with ⟨hnot, -⟩ | ⟨other, hother, hlive, hrevoked⟩
  · have hserve : serve store (.revokeRefreshToken (hashToken auth refreshToken) revokedAt
        (some env.sessionId)) = (store, .ok false) := by
      rw [serve, hnot]
    rcases handle_cases h with ⟨rfl, rfl⟩ | ⟨error, rfl, rfl | rfl⟩
    · rw [hserve]
      exact .failed (.same _) (hgone habsent)
    · exact .failed (.same _) (hgone habsent)
    · rw [hserve]
      exact .failed (.same _) (hgone habsent)
  · cases hfound.symm.trans hother
    have hserve : serve store (.revokeRefreshToken (hashToken auth refreshToken) revokedAt
        (some env.sessionId)) = (store.saveRefreshToken (hashToken auth refreshToken)
          (WalletAuthStore.revoked found revokedAt (some env.sessionId)), .ok true) := by
      rw [serve, hrevoked]
    have habsent' := @absent_of_revoked store _ _ _
      (WalletAuthStore.revoked found revokedAt (some env.sessionId)) hfound habsent
    rcases handle_cases h with ⟨rfl, rfl⟩ | ⟨error, rfl, rfl | rfl⟩
    · rw [hserve]
      have hget : (store.saveRefreshToken (hashToken auth refreshToken)
          (WalletAuthStore.revoked found revokedAt (some env.sessionId))).getRefreshToken
          (hashToken auth refreshToken) =
          some (WalletAuthStore.revoked found revokedAt (some env.sessionId)) := by
        rw [getRefreshToken_saveRefreshToken]
        exact if_pos rfl
      refine ⟨.rotate revokedAt hfound hlive, ?_, ?_⟩
      · refine stage_issueSession rfl habsent' ?_
        intro sessionId hsession
        exact ⟨_, hget, hid, rfl, by rw [hsession _ rfl]; rfl⟩
      · intro _
        refine .inr ⟨_, rfl, ?_, ⟨_, hget, rfl⟩⟩
        rintro ⟨other, hother, hsome⟩
        cases hfound.symm.trans hother
        rw [hlive] at hsome
        cases hsome
    · exact .failed (.same _) (hgone habsent)
    · rw [hserve]
      exact .failed (.rotate revokedAt hfound hlive) (hgone habsent')

/-- Revoking a refresh token for good. -/
theorem Next.of_revoke {env : AuthEnv} {refreshToken revokedAt wallet : String}
    {found : WalletAuthRefreshTokenRecord} {answer : Except WalletAuthError Bool}
    (hunreplaced : ∀ tokenHash record, store.getRefreshToken tokenHash = some record →
      record.revokedAt = none → record.replacedBySessionId = none)
    (hfound : store.getRefreshToken (hashToken auth refreshToken) = some found)
    (h : handle (.revokeSession env refreshToken) store
      (.revokeRefreshToken (hashToken auth refreshToken) revokedAt none) store' answer) :
    Next auth store store' (.revokeSession env refreshToken) p
      ((Async.done answer : Await Bool) >>= fun revoked =>
        pure (.revocation ⟨!revoked, wallet⟩)) := by
  have hnothing : ∀ {store' : WalletAuthStore} tokenHash,
      issues auth (.revokeSession env refreshToken) = some tokenHash →
      (store'.getRefreshToken tokenHash).isSome = true →
      Holds auth store (.revokeSession env refreshToken) p := fun _ hissues => nomatch hissues
  have hpassed : ∀ {store' : WalletAuthStore} {result : AuthAnswer},
      Holds auth store' (.revokeSession env refreshToken) (.done (.ok result)) →
      Holds auth store (.revokeSession env refreshToken) p ∨ ∃ used,
        credential auth (.revokeSession env refreshToken) = some used ∧ ¬ Used store used ∧
          Used store' used := by
    rintro store' result (hissuing | ⟨tokenHash, hissues, -⟩)
    · exact hissuing.elim
    · exact nomatch hissues
  rcases revokeRefreshToken_cases store (hashToken auth refreshToken) revokedAt none with
    ⟨hnot, hrevoked⟩ | ⟨other, hother, hlive, hrevoked⟩
  · have hserve : serve store (.revokeRefreshToken (hashToken auth refreshToken) revokedAt none) =
        (store, .ok false) := by
      rw [serve, hnot]
    rcases handle_cases h with ⟨rfl, rfl⟩ | ⟨error, rfl, rfl | rfl⟩
    · rw [hserve]
      exact ⟨.same _, .revoked hfound (hrevoked _ hfound) nofun, hpassed⟩
    · exact .failed (.same _) hnothing
    · rw [hserve]
      exact .failed (.same _) hnothing
  · cases hfound.symm.trans hother
    have hserve : serve store (.revokeRefreshToken (hashToken auth refreshToken) revokedAt none) =
        (store.saveRefreshToken (hashToken auth refreshToken)
          (WalletAuthStore.revoked found revokedAt none), .ok true) := by
      rw [serve, hrevoked]
    rcases handle_cases h with ⟨rfl, rfl⟩ | ⟨error, rfl, rfl | rfl⟩
    · rw [hserve]
      have hget : (store.saveRefreshToken (hashToken auth refreshToken)
          (WalletAuthStore.revoked found revokedAt none)).getRefreshToken
          (hashToken auth refreshToken) = some (WalletAuthStore.revoked found revokedAt none) := by
        rw [getRefreshToken_saveRefreshToken]
        exact if_pos rfl
      exact ⟨.revoke revokedAt hfound hlive,
        .revoked hget rfl fun _ =>
          show found.replacedBySessionId = none from hunreplaced _ _ hfound hlive, hpassed⟩
    · exact .failed (.same _) hnothing
    · rw [hserve]
      exact .failed (.revoke revokedAt hfound hlive) hnothing

/-- Saving the session comes before saving the token. -/
theorem Next.of_saveSession {issued : IssuedSession} {answer : Except WalletAuthError Unit}
    (hprepared : Prepared auth store call issued)
    (h : handle call store (.saveSession (hashToken auth issued.accessToken) issued.session) store'
      answer) :
    Next auth store store' call (saveIssued auth issued)
      ((Async.done answer : Await Unit) >>= fun _ => saveIssuedToken auth issued) := by
  have hholds : Holds auth store call (saveIssued auth issued) := .inl trivial
  rcases handle_cases h with ⟨rfl, rfl⟩ | ⟨error, rfl, rfl | rfl⟩
  · refine ⟨.session call _ _, .saveToken ?_, fun _ => .inl hholds⟩
    exact ⟨hprepared.issues_eq, hprepared.absent, hprepared.live, hprepared.unreplaced,
      (@Effect.session ν auth store call _ _).evolves.entitled hprepared.entitled⟩
  · exact .failed (.same _) fun _ _ _ => hholds
  · exact .failed (.session call _ _) fun _ _ _ => hholds

theorem Next.of_saveToken {issued : IssuedSession} {answer : Except WalletAuthError Unit}
    (hprepared : Prepared auth store call issued)
    (h : handle call store
      (.saveRefreshToken (hashToken auth issued.refreshToken) issued.refreshTokenRecord) store'
      answer) :
    Next auth store store' call (saveIssuedToken auth issued)
      ((Async.done answer : Await Unit) >>= fun _ => pure (.session (sessionResult issued))) := by
  have hholds : Holds auth store call (saveIssuedToken auth issued) := .inl trivial
  rcases handle_cases h with ⟨rfl, rfl⟩ | ⟨error, rfl, rfl | rfl⟩
  · refine ⟨.token hprepared, ?_, fun _ => .inl hholds⟩
    refine .issued hprepared.issues_eq ?_
    change ((store.saveRefreshToken (hashToken auth issued.refreshToken)
      issued.refreshTokenRecord).getRefreshToken (hashToken auth issued.refreshToken)).isSome = true
    rw [getRefreshToken_saveRefreshToken, if_pos rfl]
    rfl
  · exact .failed (.same _) fun _ _ _ => hholds
  · exact .failed (.token hprepared) fun _ _ _ => hholds

/-! ### Every step -/

/-- What is found of a challenge leads to its consumption or to an error. -/
theorem stage_redeemChallenge {env : AuthEnv} {input : CreateWalletAuthSessionInput}
    {challenge : Option WalletAuthChallengeRecord}
    (habsent : store.getRefreshToken (hashToken auth env.refreshToken) = none)
    (hid : ∀ record, challenge = some record → record.challengeId = input.challengeId) :
    Stage auth store (.createSession env input) (redeemChallenge auth env input challenge) := by
  cases challenge with
  | none => exact .failed _ _
  | some record =>
      rw [redeemChallenge]
      repeat' split
      · exact .failed _ _
      · exact .failed _ _
      · exact .failed _ _
      · exact .failed _ _
      · exact .consume habsent (hid record rfl)

theorem stage_rotateToken {env : AuthEnv} {refreshToken : String}
    {record : Option WalletAuthRefreshTokenRecord}
    (habsent : store.getRefreshToken (hashToken auth env.refreshToken) = none)
    (hfound : store.getRefreshToken (hashToken auth refreshToken) = record) :
    Stage auth store (.refreshSession env refreshToken)
      (rotateToken auth env (hashToken auth refreshToken) record) := by
  cases record with
  | none => exact .failed _ _
  | some record =>
      rw [rotateToken]
      repeat' split
      · exact .failed _ _
      · exact .failed _ _
      · rw [assertAuthId, assertThat]
        by_cases hid : isSplit402Id env.sessionId = true
        · rw [if_pos hid]
          exact .rotate habsent hfound rfl
        · rw [if_neg hid]
          exact .failed _ _

theorem stage_revokeToken {env : AuthEnv} {refreshToken : String}
    {record : Option WalletAuthRefreshTokenRecord}
    (hfound : store.getRefreshToken (hashToken auth refreshToken) = record) :
    Stage auth store (.revokeSession env refreshToken)
      (revokeToken auth env (hashToken auth refreshToken) record) := by
  cases record with
  | none => exact .failed _ _
  | some record =>
      rw [revokeToken]
      by_cases hrevoked : record.revokedAt.isSome = true
      · rw [if_pos hrevoked]
        exact .revoked hfound hrevoked nofun
      · rw [if_neg hrevoked]
        exact .revoke hfound

theorem not_issuing_redeemChallenge {env : AuthEnv} {input : CreateWalletAuthSessionInput}
    (challenge : Option WalletAuthChallengeRecord) :
    ¬ Issuing (redeemChallenge auth env input challenge) := by
  cases challenge with
  | none => exact id
  | some record =>
      rw [redeemChallenge]
      repeat' split
      all_goals exact id

theorem not_issuing_rotateToken {env : AuthEnv} {tokenHash : String}
    (record : Option WalletAuthRefreshTokenRecord) :
    ¬ Issuing (rotateToken auth env tokenHash record) := by
  cases record with
  | none => exact id
  | some record =>
      rw [rotateToken]
      repeat' split
      · exact id
      · exact id
      · cases assertAuthId env.sessionId "sessionId" with
        | ok sessionId => exact id
        | error error => exact id

theorem not_issuing_revokeToken {env : AuthEnv} {tokenHash : String}
    (record : Option WalletAuthRefreshTokenRecord) :
    ¬ Issuing (revokeToken auth env tokenHash record) := by
  cases record with
  | none => exact id
  | some record =>
      rw [revokeToken]
      split
      · exact id
      · exact id

/-- **The step lemma.** One answer takes a call from its stage to the next. -/
theorem Stage.next {op : Op} {resume : Except WalletAuthError op.Answer → Await AuthAnswer}
    {answer : Except WalletAuthError op.Answer} (hstage : Stage auth store call (.await op resume))
    (hunreplaced : ∀ tokenHash record, store.getRefreshToken tokenHash = some record →
      record.revokedAt = none → record.replacedBySessionId = none)
    (h : handle call store op store' answer) :
    Next auth store store' call (.await op resume) (resume answer) := by
  generalize hp : (.await op resume : Await AuthAnswer) = p at hstage
  cases hstage with
  | failed | challenge | issued | revoked | authenticated => cases hp
  | @saveChallenge env input record hid habsent =>
      cases hp
      have hkept : ∀ {store' : WalletAuthStore} tokenHash,
          issues auth (.createChallenge env input) = some tokenHash →
          (store'.getRefreshToken tokenHash).isSome = true →
          Holds auth store (.createChallenge env input)
            (Await.saveChallenge record >>= fun _ => pure (.challenge record)) :=
        fun _ hissues => nomatch hissues
      rcases handle_cases h with ⟨rfl, rfl⟩ | ⟨error, rfl, rfl | rfl⟩
      · refine ⟨.challenge hid habsent, .challenge record, ?_⟩
        rintro (hissuing | ⟨tokenHash, hissues, -⟩)
        · exact hissuing.elim
        · exact nomatch hissues
      · exact .failed (.same _) hkept
      · exact .failed (.challenge hid habsent) hkept
  | getChallenge habsent =>
      cases hp
      refine .of_read rfl h ?_ not_issuing_redeemChallenge
      intro found hfound
      refine stage_redeemChallenge habsent ?_
      rintro record rfl
      exact challengeId_of_get (Except.ok.inj hfound)
  | consume habsent hid =>
      cases hp
      exact .of_consume habsent hid h
  | getToken habsent =>
      cases hp
      refine .of_read rfl h ?_ not_issuing_rotateToken
      intro found hfound
      exact stage_rotateToken habsent (Except.ok.inj hfound)
  | rotate habsent hfound hid =>
      cases hp
      exact .of_rotate habsent hfound hid h
  | saveSession hprepared =>
      cases hp
      exact .of_saveSession hprepared h
  | saveToken hprepared =>
      cases hp
      exact .of_saveToken hprepared h
  | findToken =>
      cases hp
      refine .of_read rfl h ?_ not_issuing_revokeToken
      intro found hfound
      exact stage_revokeToken (Except.ok.inj hfound)
  | revoke hfound =>
      cases hp
      exact .of_revoke hunreplaced hfound h
  | @getSession env accessToken =>
      cases hp
      refine .of_read rfl h ?_ fun _ => id
      intro session _
      refine .authenticated ?_
      rw [liveSession]
      cases session with
      | none => rfl
      | some session =>
          by_cases hlive : (!notAfter auth session.expiresAt (now auth env)) = true
          · rw [Option.filter_some, if_pos hlive]
            exact hlive
          · rw [Option.filter_some, if_neg hlive]
            rfl

theorem newChallenge_challengeId {env : AuthEnv} {input : CreateWalletAuthChallengeInput}
    {record : WalletAuthChallengeRecord} (h : newChallenge auth env input = .ok record) :
    record.challengeId = env.challengeId := by
  obtain ⟨challengeId, hid, h⟩ := bind_eq_ok.mp h
  obtain ⟨wallet, -, h⟩ := bind_eq_ok.mp h
  obtain ⟨network, -, h⟩ := bind_eq_ok.mp h
  obtain ⟨nonce, -, h⟩ := bind_eq_ok.mp h
  obtain ⟨expiresAt, -, h⟩ := bind_eq_ok.mp h
  obtain ⟨purpose, -, h⟩ := bind_eq_ok.mp h
  rw [assertAuthId, assertThat] at hid
  split at hid
  · cases pure_eq_ok.mp hid
    dsimp only at h
    split at h
    · exact absurd h throw_ne_ok
    · cases pure_eq_ok.mp h
      rfl
  · exact absurd hid throw_ne_ok

/-- Where a call starts. -/
theorem stage_program
    (htoken : ∀ tokenHash, issues auth call = some tokenHash →
      store.getRefreshToken tokenHash = none)
    (hchallenge : ∀ env input, call = .createChallenge env input →
      store.getChallenge env.challengeId = none) :
    Stage auth store call (program auth call) := by
  have hblank : ∀ {value label checked : String},
      assertNonEmptyString value label = .ok checked → checked = value := by
    intro value label checked h
    rw [assertNonEmptyString, assertThat] at h
    split at h
    · exact (pure_eq_ok.mp h).symm
    · exact absurd h throw_ne_ok
  cases call with
  | createChallenge env input =>
      rw [program, createChallenge]
      cases hrecord : newChallenge auth env input with
      | error error => exact .failed _ _
      | ok record =>
          exact .saveChallenge (newChallenge_challengeId hrecord) (hchallenge _ _ rfl)
  | createSession env input =>
      rw [program, createSession]
      cases hid : assertNonEmptyString input.challengeId "challengeId" with
      | error error => exact .failed _ _
      | ok challengeId =>
          cases hblank hid
          exact .getChallenge (htoken _ rfl)
  | refreshSession env refreshToken =>
      rw [program, refreshSession]
      cases htext : assertNonEmptyString refreshToken "refreshToken" with
      | error error => exact .failed _ _
      | ok checked =>
          cases hblank htext
          exact .getToken (htoken _ rfl)
  | revokeSession env refreshToken =>
      rw [program, revokeSession]
      cases htext : assertNonEmptyString refreshToken "refreshToken" with
      | error error => exact .failed _ _
      | ok checked =>
          cases hblank htext
          exact .findToken
  | authenticateAccessToken env accessToken =>
      rw [program, authenticateAccessToken]
      by_cases hempty : isBlank accessToken = true
      · rw [if_pos hempty]
        exact .authenticated rfl
      · rw [if_neg hempty]
        exact .getSession

theorem not_issuing_program (call : AuthCall) : ¬ Issuing (program auth call) := by
  cases call with
  | createChallenge env input =>
      rw [program, createChallenge]
      cases newChallenge auth env input <;> exact id
  | createSession env input =>
      rw [program, createSession]
      cases assertNonEmptyString input.challengeId "challengeId" <;> exact id
  | refreshSession env refreshToken =>
      rw [program, refreshSession]
      cases assertNonEmptyString refreshToken "refreshToken" <;> exact id
  | revokeSession env refreshToken =>
      rw [program, revokeSession]
      cases assertNonEmptyString refreshToken "refreshToken" <;> exact id
  | authenticateAccessToken env accessToken =>
      rw [program, authenticateAccessToken]
      by_cases hempty : isBlank accessToken = true
      · rw [if_pos hempty]
        exact id
      · rw [if_neg hempty]
        exact id

end WalletAuth

end Split402

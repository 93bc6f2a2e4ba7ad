import Split402.Proof.WalletAuth

/-! # Revoked sessions

A revocation is of one refresh token: from then on the token is traded in for nothing. When it found
the token live, nothing ever descends from it, and it was the live token of its sign-in. Tokens that
already descend from it, and access tokens, are records of their own. -/

namespace Split402

open Base

namespace WalletAuth

open WalletAuthStore

variable {ν : Type} {auth : WalletAuthenticator ν} {pool pool' : Calls} {event : Event}

/-- What a refresh token that has been revoked is good for: `result` is what the revocation
returned. -/
structure RevocationEnds (auth : WalletAuthenticator ν) (pool : Calls) (refreshToken : String)
    (result : WalletAuthRevocationResult) : Prop where
  /-- The token is not usable. -/
  revoked : ∃ record, pool.shared.getRefreshToken (hashToken auth refreshToken) = some record ∧
    record.revokedAt.isSome = true
  /-- In no later state has a refresh with it that has started by now issued a session. -/
  later : ∀ pool', (authSystem auth).Run (NeverRepeats auth) pool pool' → ∀ (j : Nat) env
    refreshToken' p, pool.calls.length ≤ j →
    pool'.calls[j]? = some (.refreshSession env refreshToken', p) →
    hashToken auth refreshToken' = hashToken auth refreshToken →
      ¬ Issued (.refreshSession env refreshToken', p)
  /-- If it was live, no refresh with it has issued a session, whenever it started. -/
  never : result.alreadyRevoked = false → ∀ env refreshToken' p,
    (.refreshSession env refreshToken', p) ∈ pool.calls →
    hashToken auth refreshToken' = hashToken auth refreshToken →
      ¬ Issued (.refreshSession env refreshToken', p)
  /-- If it was live, no refresh token of its challenge is usable. -/
  ended : result.alreadyRevoked = false → ∀ record,
    pool.shared.getRefreshToken (hashToken auth refreshToken) = some record →
    ∀ token ∈ tokensOf pool.shared record.challengeId, token.record.revokedAt.isSome = true
  /-- An access token authenticates until its session expires, and no longer. -/
  access : ∀ env accessToken session, (.authenticateAccessToken env accessToken,
    .done (.ok (.authenticated (some session)))) ∈ pool.calls →
    notAfter auth session.expiresAt (now auth env) = false

/-- What a revocation that has returned knows of its token. -/
theorem revoked_of_stage {store : WalletAuthStore} {env : AuthEnv} {refreshToken : String}
    {result : WalletAuthRevocationResult}
    (h : Stage auth store (.revokeSession env refreshToken) (.done (.ok (.revocation result)))) :
    ∃ record, store.getRefreshToken (hashToken auth refreshToken) = some record ∧
      record.revokedAt.isSome = true ∧
      (result.alreadyRevoked = false → record.replacedBySessionId = none) := by
  cases h with
  | revoked hfound hrevoked hreplaced => exact ⟨_, hfound, hrevoked, hreplaced⟩

/-- A token that is revoked without a successor is the last of its challenge. -/
theorem Invariant.getLast_of_unreplaced (hinv : Invariant auth pool)
    {token : Hashed WalletAuthRefreshTokenRecord} (hmem : token ∈ pool.shared.refreshTokensByHash)
    (hunreplaced : token.record.replacedBySessionId = none) :
    (tokensOf pool.shared token.record.challengeId).getLast? = some token := by
  have htoken : token ∈ tokensOf pool.shared token.record.challengeId :=
    mem_tokensOf.mpr ⟨getRefreshToken_eq_some.mpr hmem, rfl⟩
  rcases (hinv.relay token.record.challengeId).last_or_next htoken with hlast | ⟨next, hnext, hsource⟩
  · exact hlast
  · have hreplaced := (hinv.succeeds htoken hnext hsource).replaced
    rw [hunreplaced] at hreplaced
    cases hreplaced

namespace SignIn

/-- The session the wallet gets when it signs in. -/
def firstSession : AuthenticatedWalletSession where
  sessionId := "ses_00000000000000000000000000000001"
  wallet := Sample.merchantPublicKey
  network := "solana:devnet"
  purpose := "merchant-session"
  challengeId := challenge.challengeId
  issuedAt := "2026-01-01T00:00:00.000Z"
  expiresAt := "2026-01-01T00:15:00.000Z"

/-- What the `n`-th call that issues a session has given out. -/
def issued (n : Nat) : WalletAuthSessionResult :=
  { firstSession with
    sessionId := "ses_0000000000000000000000000000000" ++ toString n
    accessToken := "access-" ++ toString n
    refreshToken := "refresh-" ++ toString n
    refreshTokenExpiresAt := "2026-01-31T00:00:00.000Z" }

/-- The wallet signs in, and revokes the token it got. -/
def revocation : List Event :=
  [.start (.createSession (env 1) ⟨challenge.challengeId, signature, none⟩), .resume 0, .resume 0,
    .resume 0, .resume 0, .start (.revokeSession (env 2) "refresh-1"), .resume 1, .resume 1]

/-- The wallet signs in and refreshes its session; then the token that it traded in is revoked. -/
def lateRevocation : List Event :=
  schedule ++ [.start (.revokeSession (env 3) "refresh-1"), .resume 2]

/-- The access token of the first session, and the refresh token of the second one, are presented. -/
def afterRevocation : List Event :=
  [.start (.authenticateAccessToken (env 3) "access-1"), .resume 3,
    .start (.refreshSession (env 3) "refresh-2"), .resume 4, .resume 4, .resume 4, .resume 4]

end SignIn

/-- What the calls of a state have resolved to. -/
def answers (pool : Calls) : List (Option AuthAnswer) :=
  pool.calls.map (fun entry => entry.2.outcome Except.toOption)

/-- What a call of a computed run is, and what it has resolved to. -/
theorem getElem?_runCalls {store : WalletAuthStore} {schedule : List Event} {i : Nat}
    {call : AuthCall} {answer : AuthAnswer} {all : List (Option AuthAnswer)}
    (hall : answers (runCalls auth store schedule) = all) (hanswer : all[i]? = some (some answer))
    (hcall : (schedule.filterMap Pool.Event.started)[i]? = some call) :
    (runCalls auth store schedule).calls[i]? = some (call, .done (.ok answer)) := by
  rw [← hall, answers, List.getElem?_map, Option.map_eq_some_iff] at hanswer
  obtain ⟨⟨started, p⟩, hentry, hp⟩ := hanswer
  have hstarted : (runCalls auth store schedule).calls.map Prod.fst =
      schedule.filterMap Pool.Event.started := by
    rw [runCalls, Pool.calls_foldl_advance]
    rfl
  rw [← hstarted, List.getElem?_map, hentry, Option.map_some, Option.some_inj] at hcall
  subst hcall
  cases p with
  | done result =>
      cases result with
      | error e => cases hp
      | ok a =>
          cases hp
          exact hentry
  | await op resume => cases hp

/-- The access token issued together with a refresh token authenticates no call that starts later. -/
def AccessOver (pool pool' : Calls) (refreshToken : String) : Prop :=
  ∀ issued ∈ Pool.produced issuedSession pool, issued.refreshToken = refreshToken →
    ∀ (j : Nat) env session, pool.calls.length ≤ j →
      pool'.calls[j]? ≠ some (.authenticateAccessToken env issued.accessToken,
        .done (.ok (.authenticated (some session))))

/-- A refresh token issued for a refresh token issues no session to a call that starts later. -/
def DescentOver (pool pool' : Calls) (refreshToken : String) : Prop :=
  ∀ env issued, (.refreshSession env refreshToken, .done (.ok (.session issued))) ∈ pool.calls →
    ∀ (j : Nat) env' p, pool.calls.length ≤ j →
      pool'.calls[j]? = some (.refreshSession env' issued.refreshToken, p) →
        ¬ Issued (.refreshSession env' issued.refreshToken, p)

/-- Whether every event of a schedule can happen after another one, and repeats no draw. -/
def admitsRest (auth : WalletAuthenticator ν) (pool : Calls) (rest : List Event) : Bool :=
  System.admittedAlong (Pool.advance (fun _ => serve) (fun _ _ => none) (program auth))
    (fun pool event => Pool.canAdvance (fun _ (_ : Unit) => none) pool event &&
      repeatsNothing auth pool event) pool rest

theorem run_runCalls {store : WalletAuthStore} {schedule rest : List Event}
    (h : admitsRest auth (runCalls auth store schedule) rest = true) :
    (authSystem auth).Run (NeverRepeats auth) (runCalls auth store schedule)
      (runCalls auth store (schedule ++ rest)) := by
  have hrun : (authSystem auth).Run (fun pool event => repeatsNothing auth pool event = true)
      (runCalls auth store schedule) (runCalls auth store (schedule ++ rest)) := by
    rw [runCalls, runCalls, List.foldl_append]
    exact Pool.run_of_schedule (fun _ _ _ _ _ hserve => Attempt.of_serve hserve) nofun h
  exact hrun.mono fun _ _ haccept => neverRepeats_of_repeatsNothing haccept

namespace SignIn

/-- The state in which the revocation has returned. -/
def revokedPool : Calls := runCalls authenticator challenges lateRevocation

def laterPool : Calls := runCalls authenticator challenges (lateRevocation ++ afterRevocation)

/-- The two schedules run, computed in one evaluation. -/
theorem pools_computed :
    (admitsCalls authenticator challenges lateRevocation = true ∧
      admitsRest authenticator revokedPool afterRevocation = true) ∧
    answers revokedPool =
      [some (.session (issued 1)), some (.session (issued 2)),
        some (.revocation ⟨true, Sample.merchantPublicKey⟩)] ∧
    answers laterPool =
      [some (.session (issued 1)), some (.session (issued 2)),
        some (.revocation ⟨true, Sample.merchantPublicKey⟩),
        some (.authenticated (some firstSession)), some (.session (issued 3))] := by
  decide +kernel

theorem revokedPool_reachable :
    (authSystem authenticator).Reachable (NeverRepeats authenticator) revokedPool :=
  reachable_runCalls rfl rfl pools_computed.1.1

theorem revokedPool_run :
    (authSystem authenticator).Run (NeverRepeats authenticator) revokedPool laterPool :=
  run_runCalls pools_computed.1.2

theorem revokedPool_answers : answers revokedPool =
    [some (.session (issued 1)), some (.session (issued 2)),
      some (.revocation ⟨true, Sample.merchantPublicKey⟩)] :=
  pools_computed.2.1

theorem laterPool_answers : answers laterPool =
    [some (.session (issued 1)), some (.session (issued 2)),
      some (.revocation ⟨true, Sample.merchantPublicKey⟩),
      some (.authenticated (some firstSession)), some (.session (issued 3))] :=
  pools_computed.2.2

theorem revokedPool_length : revokedPool.calls.length = 3 := by
  have hlength := congrArg List.length revokedPool_answers
  rwa [answers, List.length_map] at hlength

end SignIn

end WalletAuth

end Split402

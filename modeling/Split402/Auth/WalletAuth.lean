import Split402.Base.Async
import Split402.Base.Table
import Split402.Payouts.Checks
import Split402.Protocol.Signing

/-! # Wallet sign-in

`WalletAuthenticator` over a `WalletAuthStore`: a wallet signs a challenge once and gets a session
with an access token and a refresh token, and a refresh token is exchanged once for the next pair.
Between two awaits of a call other calls run. The clock and the random ids and tokens a call sees
come with the call. -/

namespace Split402

open Base
open Base.Utf16 (ofString)

/-! ## Records -/

structure WalletAuthChallengePayload where
  challengeId : String
  wallet : String
  network : String
  purpose : String
  nonce : String
  expiresAt : String
  deriving DecidableEq, Repr

structure WalletAuthChallengeRecord extends WalletAuthChallengePayload where
  message : String
  createdAt : String
  consumedAt : Option String
  deriving DecidableEq, Repr

structure AuthenticatedWalletSession where
  sessionId : String
  wallet : String
  network : String
  purpose : String
  challengeId : String
  issuedAt : String
  expiresAt : String
  deriving DecidableEq, Repr

structure WalletAuthRefreshTokenRecord where
  refreshTokenId : String
  sessionId : String
  wallet : String
  network : String
  purpose : String
  challengeId : String
  issuedAt : String
  expiresAt : String
  revokedAt : Option String
  replacedBySessionId : Option String
  deriving DecidableEq, Repr

/-- A session with its tokens; `tokenType` is always `Bearer`. -/
structure WalletAuthSessionResult extends AuthenticatedWalletSession where
  accessToken : String
  refreshToken : String
  refreshTokenExpiresAt : String
  deriving DecidableEq, Repr

/-- `revoked` is always `true`. -/
structure WalletAuthRevocationResult where
  alreadyRevoked : Bool
  wallet : String
  deriving DecidableEq, Repr

structure CreateWalletAuthChallengeInput where
  wallet : String
  network : String
  purpose : Option String

structure CreateWalletAuthSessionInput where
  challengeId : String
  signature : String
  publicKey : Option String

/-- `WalletAuthValidationError`, `WalletAuthRejectedError`, or an error of another class. -/
inductive WalletAuthError
  | validation (message : String)
  | rejected (message : String)
  | other (message : String)
  deriving DecidableEq, Repr

/-! ## The store -/

/-- A record under the hash of its token. -/
structure Hashed (α : Type) where
  tokenHash : String
  record : α

structure WalletAuthStore where
  challengesById : Table (fun challenge : WalletAuthChallengeRecord => challenge.challengeId)
  sessionsByTokenHash : Table (Hashed.tokenHash (α := AuthenticatedWalletSession))
  refreshTokensByHash : Table (Hashed.tokenHash (α := WalletAuthRefreshTokenRecord))

namespace WalletAuthStore

variable (store : WalletAuthStore)

def saveChallenge (challenge : WalletAuthChallengeRecord) : WalletAuthStore :=
  { store with challengesById := store.challengesById.upsert challenge }

def getChallenge (challengeId : String) : Option WalletAuthChallengeRecord :=
  store.challengesById.find? challengeId

def consumeChallenge (challengeId consumedAt : String) : WalletAuthStore × Bool :=
  match store.getChallenge challengeId with
  | none => (store, false)
  | some challenge =>
      if challenge.consumedAt.isSome then (store, false)
      else (store.saveChallenge { challenge with consumedAt := some consumedAt }, true)

def saveSession (tokenHash : String) (session : AuthenticatedWalletSession) : WalletAuthStore :=
  { store with sessionsByTokenHash := store.sessionsByTokenHash.upsert ⟨tokenHash, session⟩ }

def getSession (tokenHash : String) : Option AuthenticatedWalletSession :=
  (store.sessionsByTokenHash.find? tokenHash).map Hashed.record

def saveRefreshToken (tokenHash : String) (refreshToken : WalletAuthRefreshTokenRecord) :
    WalletAuthStore :=
  { store with refreshTokensByHash := store.refreshTokensByHash.upsert ⟨tokenHash, refreshToken⟩ }

def getRefreshToken (tokenHash : String) : Option WalletAuthRefreshTokenRecord :=
  (store.refreshTokensByHash.find? tokenHash).map Hashed.record

def revokeRefreshToken (tokenHash revokedAt : String) (replacedBySessionId : Option String) :
    WalletAuthStore × Bool :=
  match store.getRefreshToken tokenHash with
  | none => (store, false)
  | some refreshToken =>
      if refreshToken.revokedAt.isSome then (store, false)
      else
        (store.saveRefreshToken tokenHash
          { refreshToken with
            revokedAt := some revokedAt
            replacedBySessionId := replacedBySessionId.or refreshToken.replacedBySessionId }, true)

end WalletAuthStore

/-! ## The authenticator -/

/-- The engine, and the options of the authenticator. -/
structure WalletAuthenticator (ν : Type) where
  runtime : Runtime ν
  host : Host
  challengeTtlMs : Option Int
  sessionTtlMs : Option Int
  refreshTokenTtlMs : Option Int

/-- What one call sees of the clock, and what its factories give it. -/
structure AuthEnv where
  clock : Int
  challengeId : String
  nonce : String
  sessionId : String
  refreshTokenId : String
  accessToken : String
  refreshToken : String

/-- A call of the authenticator. -/
inductive AuthCall
  | createChallenge (env : AuthEnv) (input : CreateWalletAuthChallengeInput)
  | createSession (env : AuthEnv) (input : CreateWalletAuthSessionInput)
  | refreshSession (env : AuthEnv) (refreshToken : String)
  | revokeSession (env : AuthEnv) (refreshToken : String)
  | authenticateAccessToken (env : AuthEnv) (accessToken : String)

/-- What a call resolves to. -/
inductive AuthAnswer
  | challenge (record : WalletAuthChallengeRecord)
  | session (result : WalletAuthSessionResult)
  | revocation (result : WalletAuthRevocationResult)
  | authenticated (session : Option AuthenticatedWalletSession)
  deriving DecidableEq

namespace WalletAuth

/-- What a call awaits. -/
inductive Op
  | saveChallenge (challenge : WalletAuthChallengeRecord)
  | getChallenge (challengeId : String)
  | consumeChallenge (challengeId consumedAt : String)
  | saveSession (tokenHash : String) (session : AuthenticatedWalletSession)
  | getSession (tokenHash : String)
  | saveRefreshToken (tokenHash : String) (refreshToken : WalletAuthRefreshTokenRecord)
  | getRefreshToken (tokenHash : String)
  | revokeRefreshToken (tokenHash revokedAt : String) (replacedBySessionId : Option String)

abbrev Op.Answer : Op → Type
  | .saveChallenge _ | .saveSession _ _ | .saveRefreshToken _ _ => Unit
  | .getChallenge _ => Option WalletAuthChallengeRecord
  | .getSession _ => Option AuthenticatedWalletSession
  | .getRefreshToken _ => Option WalletAuthRefreshTokenRecord
  | .consumeChallenge _ _ | .revokeRefreshToken _ _ _ => Bool

abbrev Await (α : Type) : Type := Async Op Op.Answer WalletAuthError α

namespace Await

def saveChallenge (challenge : WalletAuthChallengeRecord) : Await Unit :=
  Async.call (Op.saveChallenge challenge)

def getChallenge (challengeId : String) : Await (Option WalletAuthChallengeRecord) :=
  Async.call (Op.getChallenge challengeId)

def consumeChallenge (challengeId consumedAt : String) : Await Bool :=
  Async.call (Op.consumeChallenge challengeId consumedAt)

def saveSession (tokenHash : String) (session : AuthenticatedWalletSession) : Await Unit :=
  Async.call (Op.saveSession tokenHash session)

def getSession (tokenHash : String) : Await (Option AuthenticatedWalletSession) :=
  Async.call (Op.getSession tokenHash)

def saveRefreshToken (tokenHash : String) (refreshToken : WalletAuthRefreshTokenRecord) :
    Await Unit :=
  Async.call (Op.saveRefreshToken tokenHash refreshToken)

def getRefreshToken (tokenHash : String) : Await (Option WalletAuthRefreshTokenRecord) :=
  Async.call (Op.getRefreshToken tokenHash)

def revokeRefreshToken (tokenHash revokedAt : String) (replacedBySessionId : Option String) :
    Await Bool :=
  Async.call (Op.revokeRefreshToken tokenHash revokedAt replacedBySessionId)

/-- What throws at once, without an await. -/
def ofExcept {α : Type} (result : Except WalletAuthError α) : Await α := Async.done result

end Await

/-! ### Checks -/

/-- A value that passes a check, or the error that says what it must be. -/
def assertThat (p : Bool) (value message : String) : Except WalletAuthError String :=
  if p then pure value else throw (.validation message)

def assertNonEmptyString (value label : String) : Except WalletAuthError String :=
  assertThat (!isBlank value) value s!"{label} must be a non-empty string"

def assertAuthId (value label : String) : Except WalletAuthError String :=
  assertThat (isSplit402Id value) value s!"{label} must be a Split402 auth id"

def assertWallet (value label : String) : Except WalletAuthError String :=
  assertThat (base58Regex value) value s!"{label} must be a base58 public key"

def assertNetwork (value : String) : Except WalletAuthError String :=
  assertThat ("solana:".toList.isPrefixOf value.toList) value "network must be a solana network id"

def assertWalletAuthPurpose (value : String) : Except WalletAuthError String :=
  assertThat (value == "merchant-session") value "purpose must be merchant-session"

variable {ν : Type} (auth : WalletAuthenticator ν)

def hashToken (token : String) : String := "sha256:" ++ auth.runtime.sha256Hex token.toUTF8

/-- `this.now()`. -/
def now (env : AuthEnv) : String := auth.host.toISOString env.clock

/-- `new Date(Date.parse(time) + ms).toISOString()`: a time that is none or out of range throws. -/
def timeAfter (time : String) (ms : Int) : Except WalletAuthError String :=
  match auth.host.dateParse time with
  | none => throw (.other "Invalid time value")
  | some start =>
      if (start + ms).natAbs ≤ 8640000000000000 then pure (auth.host.toISOString (start + ms))
      else throw (.other "Invalid time value")

/-- `Date.parse(left) <= Date.parse(right)`, which is false of what does not parse. -/
def notAfter (left right : String) : Bool :=
  match auth.host.dateParse left, auth.host.dateParse right with
  | some l, some r => l ≤ r
  | _, _ => false

def buildWalletAuthSigningBytes (challenge : WalletAuthChallengePayload) :
    Except String ByteArray :=
  buildDomainSeparatedSigningBytes auth.runtime.numbers (ofString "split402:auth:v1")
    (.object true
      [(ofString "challengeId", .string (ofString challenge.challengeId)),
        (ofString "wallet", .string (ofString challenge.wallet)),
        (ofString "network", .string (ofString challenge.network)),
        (ofString "purpose", .string (ofString challenge.purpose)),
        (ofString "nonce", .string (ofString challenge.nonce)),
        (ofString "expiresAt", .string (ofString challenge.expiresAt))])

def safeVerifyAuthSignature (challenge : WalletAuthChallengePayload) (signature : String) : Bool :=
  match buildWalletAuthSigningBytes auth challenge with
  | .ok bytes => safeVerify auth.runtime bytes challenge.wallet signature
  | .error _ => false

/-! ### Challenges -/

/-- The challenge of a call, before it is saved. -/
def newChallenge (env : AuthEnv) (input : CreateWalletAuthChallengeInput) :
    Except WalletAuthError WalletAuthChallengeRecord := do
  let createdAt := now auth env
  let challengeId ← assertAuthId env.challengeId "challengeId"
  let wallet ← assertWallet input.wallet "wallet"
  let network ← assertNetwork input.network
  let purpose := input.purpose.getD "merchant-session"
  let nonce ← assertNonEmptyString env.nonce "nonce"
  let expiresAt ← timeAfter auth createdAt (auth.challengeTtlMs.getD (5 * 60 * 1000))
  let purpose ← assertWalletAuthPurpose purpose
  let challenge : WalletAuthChallengePayload :=
    ⟨challengeId, wallet, network, purpose, nonce, expiresAt⟩
  match buildWalletAuthSigningBytes auth challenge with
  | .error message => throw (.other message)
  | .ok bytes =>
      pure
        { challenge with
          message := (String.fromUTF8? bytes).getD ""
          createdAt := createdAt
          consumedAt := none }

def createChallenge (env : AuthEnv) (input : CreateWalletAuthChallengeInput) :
    Await AuthAnswer := do
  let record ← Await.ofExcept (newChallenge auth env input)
  let _ ← Await.saveChallenge record
  pure (.challenge record)

/-! ### Sessions -/

/-- What `issueSession` is given; a session id only by a refresh. -/
structure IssueSessionInput where
  sessionId : Option String
  wallet : String
  network : String
  purpose : String
  challengeId : String
  issuedAt : String

/-- The session and the refresh token of a call, before they are saved. -/
structure IssuedSession where
  accessToken : String
  refreshToken : String
  session : AuthenticatedWalletSession
  refreshTokenRecord : WalletAuthRefreshTokenRecord

/-- `input.sessionId ?? assertAuthId(…)`. -/
def issuedSessionId (env : AuthEnv) (input : IssueSessionInput) : Except WalletAuthError String :=
  match input.sessionId with
  | some sessionId => pure sessionId
  | none => assertAuthId env.sessionId "sessionId"

def prepareSession (env : AuthEnv) (input : IssueSessionInput) :
    Except WalletAuthError IssuedSession := do
  let accessToken ← assertNonEmptyString env.accessToken "accessToken"
  let refreshToken ← assertNonEmptyString env.refreshToken "refreshToken"
  let sessionId ← issuedSessionId env input
  let expiresAt ← timeAfter auth input.issuedAt (auth.sessionTtlMs.getD (15 * 60 * 1000))
  let refreshTokenId ← assertAuthId env.refreshTokenId "refreshTokenId"
  let refreshTokenExpiresAt ←
    timeAfter auth input.issuedAt (auth.refreshTokenTtlMs.getD (30 * 24 * 60 * 60 * 1000))
  pure
    { accessToken := accessToken
      refreshToken := refreshToken
      session :=
        { sessionId := sessionId
          wallet := input.wallet
          network := input.network
          purpose := input.purpose
          challengeId := input.challengeId
          issuedAt := input.issuedAt
          expiresAt := expiresAt }
      refreshTokenRecord :=
        { refreshTokenId := refreshTokenId
          sessionId := sessionId
          wallet := input.wallet
          network := input.network
          purpose := input.purpose
          challengeId := input.challengeId
          issuedAt := input.issuedAt
          expiresAt := refreshTokenExpiresAt
          revokedAt := none
          replacedBySessionId := none } }

def sessionResult (issued : IssuedSession) : WalletAuthSessionResult :=
  { issued.session with
    accessToken := issued.accessToken
    refreshToken := issued.refreshToken
    refreshTokenExpiresAt := issued.refreshTokenRecord.expiresAt }

/-- The refresh token is saved after the session. -/
def saveIssuedToken (issued : IssuedSession) : Await AuthAnswer := do
  let _ ← Await.saveRefreshToken (hashToken auth issued.refreshToken) issued.refreshTokenRecord
  pure (.session (sessionResult issued))

def saveIssued (issued : IssuedSession) : Await AuthAnswer := do
  let _ ← Await.saveSession (hashToken auth issued.accessToken) issued.session
  saveIssuedToken auth issued

def issueSession (env : AuthEnv) (input : IssueSessionInput) : Await AuthAnswer := do
  let issued ← Await.ofExcept (prepareSession auth env input)
  saveIssued auth issued

/-- What is issued for a challenge that has been consumed. -/
def issueForChallenge (env : AuthEnv) (challenge : WalletAuthChallengeRecord) (consumed : Bool) :
    Await AuthAnswer :=
  if !consumed then throw (.rejected "auth challenge already used")
  else
    issueSession auth env
      ⟨none, challenge.wallet, challenge.network, challenge.purpose, challenge.challengeId,
        now auth env⟩

/-- What is done with the challenge that is found. -/
def redeemChallenge (env : AuthEnv) (input : CreateWalletAuthSessionInput) :
    Option WalletAuthChallengeRecord → Await AuthAnswer
  | none => throw (.rejected "unknown auth challenge")
  | some challenge =>
      if challenge.consumedAt.isSome then throw (.rejected "auth challenge already used")
      else if notAfter auth challenge.expiresAt (now auth env) then
        throw (.rejected "auth challenge expired")
      else if input.publicKey.any (· != challenge.wallet) then
        throw (.rejected "signature public key must match challenge wallet")
      else if !safeVerifyAuthSignature auth challenge.toWalletAuthChallengePayload
          input.signature then
        throw (.rejected "invalid auth signature")
      else do
        let consumed ← Await.consumeChallenge challenge.challengeId (now auth env)
        issueForChallenge auth env challenge consumed

def createSession (env : AuthEnv) (input : CreateWalletAuthSessionInput) : Await AuthAnswer := do
  let challengeId ← Await.ofExcept (assertNonEmptyString input.challengeId "challengeId")
  let challenge ← Await.getChallenge challengeId
  redeemChallenge auth env input challenge

/-- What is issued for a refresh token that has been revoked. -/
def issueForToken (env : AuthEnv) (record : WalletAuthRefreshTokenRecord) (nextSessionId : String)
    (revoked : Bool) : Await AuthAnswer :=
  if !revoked then throw (.rejected "refresh token already used")
  else
    issueSession auth env
      ⟨some nextSessionId, record.wallet, record.network, record.purpose, record.challengeId,
        now auth env⟩

/-- What is done with the refresh token that is found. -/
def rotateToken (env : AuthEnv) (refreshTokenHash : String) :
    Option WalletAuthRefreshTokenRecord → Await AuthAnswer
  | none => throw (.rejected "unknown refresh token")
  | some record =>
      if record.revokedAt.isSome then throw (.rejected "refresh token already used")
      else if notAfter auth record.expiresAt (now auth env) then
        throw (.rejected "refresh token expired")
      else do
        let nextSessionId ← Await.ofExcept (assertAuthId env.sessionId "sessionId")
        let revoked ←
          Await.revokeRefreshToken refreshTokenHash (now auth env) (some nextSessionId)
        issueForToken auth env record nextSessionId revoked

def refreshSession (env : AuthEnv) (refreshToken : String) : Await AuthAnswer := do
  let refreshToken ← Await.ofExcept (assertNonEmptyString refreshToken "refreshToken")
  let record ← Await.getRefreshToken (hashToken auth refreshToken)
  rotateToken auth env (hashToken auth refreshToken) record

/-- What is done with the refresh token that is to be revoked. -/
def revokeToken (env : AuthEnv) (refreshTokenHash : String) :
    Option WalletAuthRefreshTokenRecord → Await AuthAnswer
  | none => throw (.rejected "unknown refresh token")
  | some record =>
      if record.revokedAt.isSome then pure (.revocation ⟨true, record.wallet⟩)
      else do
        let revoked ← Await.revokeRefreshToken refreshTokenHash (now auth env) none
        pure (.revocation ⟨!revoked, record.wallet⟩)

def revokeSession (env : AuthEnv) (refreshToken : String) : Await AuthAnswer := do
  let refreshToken ← Await.ofExcept (assertNonEmptyString refreshToken "refreshToken")
  let record ← Await.getRefreshToken (hashToken auth refreshToken)
  revokeToken auth env (hashToken auth refreshToken) record

/-- A session that has not expired. -/
def liveSession (env : AuthEnv) (session : Option AuthenticatedWalletSession) :
    Option AuthenticatedWalletSession :=
  session.filter (fun session => !notAfter auth session.expiresAt (now auth env))

def authenticateAccessToken (env : AuthEnv) (accessToken : String) : Await AuthAnswer :=
  if isBlank accessToken then pure (.authenticated none)
  else do
    let session ← Await.getSession (hashToken auth accessToken)
    pure (.authenticated (liveSession auth env session))

/-! ## Calls over a store -/

def program : AuthCall → Await AuthAnswer
  | .createChallenge env input => createChallenge auth env input
  | .createSession env input => createSession auth env input
  | .refreshSession env refreshToken => refreshSession auth env refreshToken
  | .revokeSession env refreshToken => revokeSession auth env refreshToken
  | .authenticateAccessToken env accessToken => authenticateAccessToken auth env accessToken

/-- How the store serves an operation. -/
def serve (store : WalletAuthStore) : (op : Op) →
    WalletAuthStore × Except WalletAuthError op.Answer
  | .saveChallenge challenge => (store.saveChallenge challenge, .ok ())
  | .getChallenge challengeId => (store, .ok (store.getChallenge challengeId))
  | .consumeChallenge challengeId consumedAt =>
      let (store, consumed) := store.consumeChallenge challengeId consumedAt
      (store, .ok consumed)
  | .saveSession tokenHash session => (store.saveSession tokenHash session, .ok ())
  | .getSession tokenHash => (store, .ok (store.getSession tokenHash))
  | .saveRefreshToken tokenHash refreshToken =>
      (store.saveRefreshToken tokenHash refreshToken, .ok ())
  | .getRefreshToken tokenHash => (store, .ok (store.getRefreshToken tokenHash))
  | .revokeRefreshToken tokenHash revokedAt replacedBySessionId =>
      let (store, revoked) := store.revokeRefreshToken tokenHash revokedAt replacedBySessionId
      (store, .ok revoked)

/-- Calls under way over a store. -/
abbrev Calls : Type := Pool AuthCall WalletAuthStore Op Op.Answer WalletAuthError AuthAnswer

abbrev Event : Type := Pool.Event AuthCall Unit

/-- An operation is atomic; the store may throw any error before or after it. -/
def handle (_ : AuthCall) (store : WalletAuthStore) (op : Op) (store' : WalletAuthStore)
    (answer : Except WalletAuthError op.Answer) : Prop :=
  Attempt serve (fun _ => True) store op store' answer

/-- Any number of calls over a store that starts with any challenges, and without tokens. -/
def authSystem : System Calls Event :=
  Pool.system handle (fun _ _ _ => False) (program auth)
    (fun store => store.sessionsByTokenHash.rows = [] ∧ store.refreshTokensByHash.rows = [])

/-! ### What the factories give -/

inductive Draw
  | challenge (challengeId : String)
  | access (tokenHash : String)
  | refresh (tokenHash : String)
  deriving DecidableEq

/-- The challenge id and the tokens a call draws, the tokens as their hashes. -/
def draws : AuthCall → List Draw
  | .createChallenge env _ => [.challenge env.challengeId]
  | .createSession env _ | .refreshSession env _ =>
      [.access (hashToken auth env.accessToken), .refresh (hashToken auth env.refreshToken)]
  | .revokeSession _ _ | .authenticateAccessToken _ _ => []

/-- The factories never repeat: a call draws nothing that another call has drawn, and no id of a
challenge that is there. -/
def NeverRepeats (pool : Calls) : Event → Prop
  | .start call => ∀ draw ∈ draws auth call, (∀ entry ∈ pool.calls, draw ∉ draws auth entry.1) ∧
      ∀ challenge ∈ pool.shared.challengesById, draw ≠ .challenge challenge.challengeId
  | _ => True

end WalletAuth

end Split402

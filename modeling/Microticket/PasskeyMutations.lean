import Microticket.PasskeyStore
import Microticket.Prog
import Microticket.Text

/-! # The passkey mutations

`begin_passkey_registration`, `finish_passkey_registration`, `begin_passkey_login`,
`finish_passkey_login`, `rename_passkey` and `delete_passkey` of `graphql/mutations.rs`, as programs
over the requests of `PasskeyStore`.  A write whose answer the source drops with `let _` is a request
whose answer is not looked at.

`WebauthnLibs` is what they use of other crates: `webauthn-rs`, the parsers of what the browser sends,
base64 and the hex SHA-256.  `LoginLaws` and `RegistrationLaws` say what is relied on. -/

namespace Microticket

open Interleaving RustText

/-! ### Other crates -/

/-- What the mutations use of other crates. -/
structure WebauthnLibs where
  userUuid : String → String
  startRegistration : (challenge userUuid displayName : String) → (exclude : List String) →
    Except String (String × PasskeyRegistration)
  requireResidentKey : String → Except String String
  startAuthentication : (challenge : String) → Except String (String × DiscoverableAuthentication)
  parseRegisterCredential : String → Except String RegisterPublicKeyCredential
  parseCredential : String → Option PublicKeyCredential
  finishRegistration : RegisterPublicKeyCredential → PasskeyRegistration → Except String Passkey
  identify : PublicKeyCredential → Except String String
  finishAuthentication : PublicKeyCredential → DiscoverableAuthentication → Passkey →
    Except String AuthenticationResult
  updateCredential : Passkey → AuthenticationResult → Passkey
  stateError : StateJson → String
  base64Url : String → String
  sha256Hex : String → String

/-- A registration is accepted only for the id that the authenticator chose, and not for an excluded
one. -/
structure RegistrationLaws (libs : WebauthnLibs) : Prop where
  credId : ∀ {credential state passkey},
    libs.finishRegistration credential state = .ok passkey → passkey.credId = credential.id
  excluded : ∀ {credential state passkey},
    libs.finishRegistration credential state = .ok passkey → passkey.credId ∉ state.exclude

/-- An assertion is accepted only against the challenge that it signed and with a counter not below
that of the passkey; `update_credential` sets the counter to the asserted one. -/
structure LoginLaws (libs : WebauthnLibs) : Prop where
  challenge : ∀ {credential state passkey result},
    libs.finishAuthentication credential state passkey = .ok result →
      credential.challenge = state.challenge
  counter : ∀ {credential state passkey result},
    libs.finishAuthentication credential state passkey = .ok result →
      passkey.counter ≤ result.counter
  update : ∀ {passkey result}, (libs.updateCredential passkey result).counter = result.counter

/-! ### Requests -/

/-- A program over the tables of passkeys. -/
abbrev PasskeyProg (α : Type) : Type := Prog PasskeyOp PasskeyOp.Res Error α

/-- Send a request. -/
def webauthn (op : PasskeyOp) : PasskeyProg op.Res := .call op .done

/-- A `db::Error` of a request propagates. -/
def orDbError {α : Type} (p : PasskeyProg (Except DbError α)) : PasskeyProg α :=
  p >>= fun r => .ofExcept (r.mapError .db)

/-- `anyhow!("{what}: {e}")`. -/
def orFailed {α : Type} (what : String) (r : Except String α) : PasskeyProg α :=
  .ofExcept (r.mapError fun e => .other s!"{what}: {e}")

def maxPasskeysPerUser : ℕ := 10
def webauthnChallengeExpireS : ℕ := 60 * 5
def sessionTokenExpireS : ℕ := 60 * 60 * 8

/-- `AuthGuard` with `Authenticated`, then `require_user_id`. -/
def passkeyUserId : Option AuthInfo → PasskeyProg String
  | some (.user id _ _) => .done id
  | some (.requester ..) => .fail (.forbidden "Must be authenticated as a user")
  | _ => .fail (.api .unauthenticated "Must be authenticated")

/-- `PasskeyChallenge`. -/
structure PasskeyChallenge where
  challengeId : String
  optionsJson : String
  deriving DecidableEq, Repr

/-- `PasskeyInfo`. -/
structure PasskeyInfo where
  id : String
  name : String
  createdAt : ℕ
  lastUsedAt : Option ℕ
  deriving DecidableEq, Repr

/-- `From<WebauthnCredential> for PasskeyInfo`. -/
def WebauthnCredential.info (c : WebauthnCredential) : PasskeyInfo :=
  { id := c.id, name := c.name, createdAt := c.createdAt, lastUsedAt := c.lastUsedAt }

def tooManyPasskeys : Error := .other s!"Maximum of {maxPasskeysPerUser} passkeys allowed"

variable (libs : WebauthnLibs)

/-! ### Registration -/

/-- `put_webauthn_state` of a new challenge. -/
def storeChallenge (kind : String) (userId : Option String) (stateJson : StateJson)
    (optionsJson : String) : PasskeyProg PasskeyChallenge := do
  let challengeId ← webauthn .randomId
  let now ← webauthn .clock
  orDbError (webauthn (.putWebauthnState challengeId kind userId stateJson
    (now + webauthnChallengeExpireS)))
  return { challengeId, optionsJson }

/-- `begin_passkey_registration`. -/
def beginPasskeyRegistration (auth : Option AuthInfo) : PasskeyProg PasskeyChallenge := do
  let userId ← passkeyUserId auth
  let count ← orDbError (webauthn (.countWebauthnCredentialsByUser userId))
  .ensure (count < maxPasskeysPerUser) tooManyPasskeys
  let existing ← orDbError (webauthn (.listWebauthnCredentialsByUser userId))
  let user ← orDbError (webauthn (.getUser userId))
  let displayName := (user.map PasskeyUser.email).getD userId
  let exclude := existing.filterMap fun c => c.passkeyJson.parse.toOption.map Passkey.credId
  let challenge ← webauthn .randomChallenge
  let (options, state) ← .ofExcept
    ((libs.startRegistration challenge (libs.userUuid userId) displayName exclude).mapError .other)
  let optionsJson ← orFailed "Failed to serialize registration options"
    (libs.requireResidentKey options)
  storeChallenge "reg" (some userId) (.registration state) optionsJson

/-- `finish_passkey_registration` once the browser's response is verified. -/
def storePasskey (userId challengeId name : String) (passkey : Passkey) :
    PasskeyProg PasskeyInfo := do
  let count ← orDbError (webauthn (.countWebauthnCredentialsByUser userId))
  if maxPasskeysPerUser ≤ count then do
    let _ ← webauthn (.deleteWebauthnState challengeId)
    Prog.fail tooManyPasskeys
  else do
    let credId := libs.base64Url passkey.credId
    let cred ← orDbError (webauthn (.createWebauthnCredential credId userId name (.passkey passkey)))
    let _ ← webauthn (.deleteWebauthnState challengeId)
    return cred.info

/-- `finish_passkey_registration`. -/
def finishPasskeyRegistration (auth : Option AuthInfo) (challengeId credentialJson name : String) :
    PasskeyProg PasskeyInfo := do
  let userId ← passkeyUserId auth
  let found ← orDbError (webauthn (.getWebauthnState challengeId))
  let state ← .ofOption found (.other "Registration challenge not found or expired")
  .ensure (state.kind = "reg") (.other "Invalid challenge kind")
  .ensure (state.userId = some userId) (.other "Challenge belongs to a different user")
  let now ← webauthn .clock
  if state.expiresAt ≤ now then do
    let _ ← webauthn (.deleteWebauthnState challengeId)
    Prog.fail (.other "Registration challenge expired")
  else do
    let regState ← .ofOption state.stateJson.registration?
      (.other s!"Failed to deserialize registration state: {libs.stateError state.stateJson}")
    let credential ← orFailed "Failed to parse credential" (libs.parseRegisterCredential credentialJson)
    let passkey ← orFailed "Passkey registration failed" (libs.finishRegistration credential regState)
    storePasskey libs userId challengeId name passkey

/-! ### Login -/

/-- `begin_passkey_login`. -/
def beginPasskeyLogin : PasskeyProg PasskeyChallenge := do
  let challenge ← webauthn .randomChallenge
  let (options, state) ← orFailed "Failed to start passkey login" (libs.startAuthentication challenge)
  storeChallenge "auth" none (.authentication state) options

/-- Delete the challenge and answer `None`. -/
def dropChallenge (challengeId : String) : PasskeyProg (Option String) := do
  let _ ← webauthn (.deleteWebauthnState challengeId)
  return none

/-- `issue_user_token`, for the challenge `challengeId`. -/
def issueSessionToken (userId challengeId : String) : PasskeyProg String := do
  let nonce ← webauthn (.generateNonce 32)
  let secret := "mtu_" ++ nonce
  let now ← webauthn .clock
  orDbError (webauthn (.createUserToken (libs.sha256Hex secret) userId (now + sessionTokenExpireS)
    challengeId))
  return secret

/-- The passkey that `finish_passkey_login` writes back. -/
def usedPasskey (passkey : Passkey) (result : AuthenticationResult) : Passkey :=
  if result.needsUpdate then libs.updateCredential passkey result else passkey

/-- `finish_passkey_login` once the assertion is accepted: write the passkey back, delete the
challenge and issue a token. -/
def redeemAssertion (challengeId credId : String) (stored : WebauthnCredential) (passkey : Passkey)
    (result : AuthenticationResult) : PasskeyProg (Option String) := do
  let updated := usedPasskey libs passkey result
  let _ ← webauthn (.updateWebauthnCredential credId (.touchLastUsed (.passkey updated)))
  let _ ← webauthn (.deleteWebauthnState challengeId)
  let user ← orDbError (webauthn (.getUser stored.userId))
  match user.filter PasskeyUser.enabled with
  | none => return none
  | some _ => do
      let token ← issueSessionToken libs stored.userId challengeId
      return some token

/-- `finish_passkey_login` with the challenge: find the credential and verify the assertion. -/
def verifyAssertion (challengeId : String) (authState : DiscoverableAuthentication)
    (credential : PublicKeyCredential) : PasskeyProg (Option String) := do
  let credIdBytes ← orFailed "Failed to identify credential" (libs.identify credential)
  let credId := libs.base64Url credIdBytes
  match ← orDbError (webauthn (.getWebauthnCredential credId)) with
  | none => dropChallenge challengeId
  | some stored => do
      let passkey ← orFailed "Failed to deserialize stored passkey" stored.passkeyJson.parse
      let result ← orFailed "Passkey authentication failed"
        (libs.finishAuthentication credential authState passkey)
      redeemAssertion libs challengeId credId stored passkey result

/-- `finish_passkey_login`. -/
def finishPasskeyLogin (challengeId credentialJson : String) : PasskeyProg (Option String) := do
  let found ← orDbError (webauthn (.getWebauthnState challengeId))
  let state ← .ofOption found (.other "Login challenge not found or expired")
  .ensure (state.kind = "auth") (.other "Invalid challenge kind")
  let now ← webauthn .clock
  if state.expiresAt ≤ now then dropChallenge challengeId
  else do
    let authState ← .ofOption state.stateJson.authentication?
      (.other s!"Failed to deserialize auth state: {libs.stateError state.stateJson}")
    let credential ← .ofOption (libs.parseCredential credentialJson)
      (.other "Failed to parse credential")
    verifyAssertion libs challengeId authState credential

/-! ### The user's own passkeys -/

/-- The credential of the caller; "not found" also if it is of another user. -/
def ownPasskey (userId id : String) : PasskeyProg WebauthnCredential := do
  let found ← orDbError (webauthn (.getWebauthnCredential id))
  let cred ← .ofOption found (.other "Passkey not found")
  .ensure (cred.userId = userId) (.other "Passkey not found")
  return cred

/-- `rename_passkey`. -/
def renamePasskey (auth : Option AuthInfo) (id name : String) : PasskeyProg PasskeyInfo := do
  let userId ← passkeyUserId auth
  let cred ← ownPasskey userId id
  let trimmed := trim name
  .ensure (trimmed ≠ "") (.other "Name cannot be empty")
  orDbError (webauthn (.updateWebauthnCredential id (.rename trimmed)))
  return { cred.info with name := trimmed }

/-- `delete_passkey`. -/
def deletePasskey (auth : Option AuthInfo) (id : String) : PasskeyProg Bool := do
  let userId ← passkeyUserId auth
  let _ ← ownPasskey userId id
  orDbError (webauthn (.deleteWebauthnCredential id))
  return true

/-! ### The system -/

/-- A call of one of the mutations. -/
inductive PasskeyMutation where
  | beginPasskeyRegistration (auth : Option AuthInfo)
  | finishPasskeyRegistration (auth : Option AuthInfo) (challengeId credentialJson name : String)
  | beginPasskeyLogin
  | finishPasskeyLogin (challengeId credentialJson : String)
  | renamePasskey (auth : Option AuthInfo) (id name : String)
  | deletePasskey (auth : Option AuthInfo) (id : String)

/-- What a call returns. -/
inductive PasskeyReply where
  | challenge (challenge : PasskeyChallenge)
  | info (info : PasskeyInfo)
  | token (token : Option String)
  | deleted (deleted : Bool)
  deriving DecidableEq, Repr

/-- The program of a call. -/
def PasskeyMutation.prog : PasskeyMutation → PasskeyProg PasskeyReply
  | .beginPasskeyRegistration auth => do
      let challenge ← Microticket.beginPasskeyRegistration libs auth
      return .challenge challenge
  | .finishPasskeyRegistration auth challengeId credentialJson name => do
      let info ← Microticket.finishPasskeyRegistration libs auth challengeId credentialJson name
      return .info info
  | .beginPasskeyLogin => do
      let challenge ← Microticket.beginPasskeyLogin libs
      return .challenge challenge
  | .finishPasskeyLogin challengeId credentialJson => do
      let token ← Microticket.finishPasskeyLogin libs challengeId credentialJson
      return .token token
  | .renamePasskey auth id name => do
      let info ← Microticket.renamePasskey auth id name
      return .info info
  | .deletePasskey auth id => do
      let deleted ← Microticket.deletePasskey auth id
      return .deleted deleted

/-- The programs that take part in a run. -/
def IsPasskeyMutation (p : PasskeyProg PasskeyReply) : Prop :=
  ∃ m : PasskeyMutation, p = m.prog libs

/-- A pool reached by any interleaving of the mutations, from empty tables. -/
def PasskeyReachable (readOnly : Bool) (c : Pool (passkeyService readOnly) Error PasskeyReply) :
    Prop :=
  Run (passkeyService readOnly) (IsPasskeyMutation libs) (Pool.init ⟨⟨⟨∅, ∅, []⟩, []⟩⟩) c

/-! ### Sample runs

Authenticators hold the credentials `key1` and `key2`; what they send is written as a short text in
place of the JSON. -/

/-- The responses to the login challenges `n1` and `n2`. -/
def sampleAssertions : List (String × PublicKeyCredential) :=
  [("key1 signs n1 at 5", ⟨"key1", "n1", 5, ""⟩), ("key1 signs n2 at 6", ⟨"key1", "n2", 6, ""⟩)]

/-- The libraries agree with the real ones on the strings of the runs. -/
def sampleWebauthnLibs : WebauthnLibs where
  userUuid userId := userId
  startRegistration challenge _ _ exclude := .ok (challenge, ⟨challenge, exclude⟩)
  requireResidentKey := .ok
  startAuthentication challenge := .ok (challenge, ⟨challenge⟩)
  parseRegisterCredential json := .ok ⟨json, ""⟩
  parseCredential json := sampleAssertions.lookup json
  finishRegistration credential state :=
    if credential.id ∈ state.exclude then .error "CredentialAlreadyExists"
    else .ok ⟨credential.id, 0, credential.response⟩
  identify credential := .ok credential.id
  finishAuthentication credential state passkey :=
    if credential.challenge ≠ state.challenge ∨ credential.id ≠ passkey.credId then
      .error "MismatchedChallenge"
    else if passkey.counter < credential.counter ∨ credential.counter = 0 ∧ passkey.counter = 0 then
      .ok ⟨credential.id, credential.counter, passkey.counter < credential.counter⟩
    else .error "CredentialPossibleCompromise"
  updateCredential passkey result := { passkey with counter := result.counter }
  stateError _ := "missing field"
  base64Url s := if s = "key1" then "a2V5MQ" else if s = "key2" then "a2V5Mg" else s
  sha256Hex s :=
    if s = "mtu_n1" then "64f6eb6094e009c195c3ac10c4c2215aeca539c2f241000ecf4bfaa0f99d4c72"
    else if s = "mtu_n2" then "cff554ca75676d43834dbf8ea4f98af831d408291d8c228c43cfb49faa5599e6"
    else s

theorem sampleWebauthn_registration : RegistrationLaws sampleWebauthnLibs where
  credId h := by
    simp only [sampleWebauthnLibs] at h
    split at h
    · cases h
    · exact congrArg Passkey.credId (Except.ok.inj h).symm
  excluded h := by
    simp only [sampleWebauthnLibs] at h
    split at h
    · cases h
    · rename_i hnew
      rw [← Except.ok.inj h]
      exact hnew

theorem sampleWebauthn_login : LoginLaws sampleWebauthnLibs where
  challenge h := by
    simp only [sampleWebauthnLibs] at h
    split at h
    · cases h
    · rename_i hsame
      exact not_not.mp (not_or.mp hsame).1
  counter h := by
    simp only [sampleWebauthnLibs] at h
    split at h
    · cases h
    · split at h
      · rename_i hcounter
        rw [← Except.ok.inj h]
        dsimp only
        omega
      · cases h
  update := rfl

/-- The choices of the sample runs: an enabled user and no failure. -/
def samplePasskeyEnv (random : String) : PasskeyEnv where
  now := 1782777600
  random := random
  lag := 0
  fault := .none
  user := .ok (some ⟨"u1", "ann@example.org", true⟩)

end Microticket

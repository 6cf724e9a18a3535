import Microticket.AdminRequests
import Microticket.OAuthTokens
import Microticket.SessionStore
import Microticket.ProgTranslate

/-! # Authentication

`verify_token` of `auth.rs` with its three schemes, `issue_user_token`, the mutation `logout`, and the
other calls that can touch the tables of tokens and users: the administrative mutations and the
verification of OAuth access tokens, which are programs over other requests and are translated to
those of `SessionStore`.

`SessionLibs` adds to `CodeLibs` what the submit tokens need of serde, and the libraries of OAuth. -/

namespace Microticket

open Interleaving RustText

/-- What authentication uses of other crates. -/
structure SessionLibs extends CodeLibs where
  parseSubmitToken : String → Except String (String × String)
  oauth : OAuthLibs

/-- A program over the tables of sessions. -/
abbrev SessionProg (α : Type) : Type := Prog SessionOp SessionOp.Res OAuthFailure α

/-- What a call returns. -/
inductive SessionReply where
  | verified (info : AuthInfo) (tokenId : Option String)
  | token (secret : String)
  | loggedOut
  | oauth (reply : OAuthReply)
  | admin (reply : AdminReply)
  deriving DecidableEq

/-- The principal of an accepted token. -/
def SessionReply.principal : SessionReply → Option AuthInfo
  | .verified info _ | .oauth (.verified info _) => some info
  | _ => none

/-- Send a request. -/
def session (op : SessionOp) : SessionProg op.Res := .call op .done

/-- The clock. -/
def nowSec : SessionProg ℕ := .call (.admin .clock) .done

/-- `classify_db_err` on a failed request. -/
def orAuthError {α : Type} (context : String) (p : SessionProg (Except DbError α)) :
    SessionProg α :=
  p >>= fun r => .ofExcept (r.mapError fun e => .auth (classifyDbErr context e))

/-- Fail with `AuthError::Permanent`. -/
def denied (message : String) : OAuthFailure := .auth (.permanent message)

/-! ### Requests of the other programs -/

/-- A request of an administrative mutation. -/
def AdminOp.session (op : AdminOp) : Prog SessionOp SessionOp.Res Error op.Res :=
  .call (.admin op) .done

/-- `db::Membership` as `fetch_update_user_auth_info` maps it. -/
def MembershipRow.membership (row : MembershipRow) : Membership :=
  ⟨row.instanceId, row.role == .owner⟩

/-- A request of the verification of an access token. -/
def OAuthOp.session : (op : OAuthOp) → SessionProg op.Res
  | .clock => nowSec
  | .getUser id => Microticket.session (.getAccount id)
  | .updateUserAccessTime id => do
      let now ← nowSec
      Microticket.session (.touchAccessTime id now)
  | .listMembershipsByUser userId => do
      let rows ← Microticket.session (.admin (.listMembershipsByUser userId))
      return rows.map fun rows => rows.map MembershipRow.membership
  | op => Microticket.session (.oauth op)

/-! ### Verification -/

variable (libs : SessionLibs)

/-- `fetch_update_user_auth_info`. -/
def fetchAuthInfo (userId : String) : SessionProg AuthInfo := do
  let answer ← (fetchUpdateUserAuthInfo userId).translate OAuthOp.session
  .ofExcept (answer.mapError .auth)

/-- The answer to a throttled write, which is skipped where mutations are disabled. -/
def skipDisabled : Except DbError Unit → SessionProg Unit
  | .ok () => .done ()
  | .error .mutationDisabled => .done ()
  | .error e => .fail (.auth (.transient e.text))

/-- The throttled touch of a user token. -/
def touchUserToken (row : Hydration.UserToken) (now : ℕ) : SessionProg Unit :=
  if row.lastUsedAt.all fun t => t + 60 < now then do
    let touched ← nowSec
    let answer ← session (.touchUserToken row.id touched)
    skipDisabled answer
  else .done ()

/-- The throttled touch of an API token. -/
def touchApiToken (row : Hydration.ApiToken) (now : ℕ) : SessionProg Unit :=
  if row.lastUsedAt.all fun t => t + 60 < now then do
    let touched ← nowSec
    let answer ← session (.touchApiToken row.id touched)
    skipDisabled answer
  else .done ()

/-- `verify_token_with_user_token`. -/
def verifyTokenWithUserToken (token : String) : SessionProg SessionReply := do
  let found ← orAuthError "fetch user token by hash"
    (session (.getUserTokenByHash (libs.sha256Hex token)))
  let row ← .ofOption found (denied "Invalid user token")
  let now ← nowSec
  .ensure (now < row.expiresAt) (denied "User token has expired")
  touchUserToken row now
  let info ← fetchAuthInfo row.userId
  return .verified info (some row.id)

/-- `verify_token_with_requester_token`. -/
def verifyTokenWithRequesterToken (token : String) : SessionProg SessionReply := do
  let found ← orAuthError "fetch submit token"
    (session (.oauth (.getEphemeralState (submitTokenStateId (libs.sha256Hex token)))))
  let state ← .ofOption (found.filter fun s => s.kind == submitTokenStateKind)
    (denied "Invalid submit token")
  let now ← nowSec
  .ensure (now < state.expiresAt) (denied "Submit token has expired")
  let (email, instanceId) ← .ofExcept ((libs.parseSubmitToken state.payload).mapError
    fun e => denied s!"Corrupt submit token payload: {e}")
  return .verified (.requester email instanceId) none

/-- `parse_api_token`. -/
def parseApiToken (token : String) : Option (String × String) :=
  (dropStart "mta_" token).bind fun rest => (splitOnce '.' rest).bind fun (id, secret) =>
    if id.isEmpty || secret.isEmpty then none else some (id, secret)

/-- `verify_token_with_api_token`. -/
def verifyTokenWithApiToken (token : String) : SessionProg SessionReply := do
  let (id, _) ← .ofOption (parseApiToken token) (denied "Invalid API token")
  let found ← orAuthError "fetch api token" (session (.getApiToken id))
  let row ← .ofOption found (denied "Invalid API token")
  .ensure (constantTimeEq (asBytes (libs.sha256Hex token)) (asBytes row.tokenHash))
    (denied "Invalid API token")
  .ensure (row.enabled = true) (denied "API token is disabled")
  let now ← nowSec
  touchApiToken row now
  return .verified (.apiToken row.id row.instanceId) none

/-- `verify_token`. -/
def verifyToken (token : String) : SessionProg SessionReply :=
  if (dropStart "mtu_" token).isSome then verifyTokenWithUserToken libs token
  else if (dropStart "mts_" token).isSome then verifyTokenWithRequesterToken libs token
  else if (dropStart "mta_" token).isSome then verifyTokenWithApiToken libs token
  else .fail (denied "Unrecognized token")

/-! ### The other calls -/

/-- `issue_user_token`, with which `verify_auth_code` and `finish_passkey_login` end. -/
def createUserSession (userId : String) : SessionProg SessionReply := do
  let nonce ← session (.admin (.generateNonce 32))
  let secret := "mtu_" ++ nonce
  let issued ← nowSec
  let now ← nowSec
  let stored ← session (.createUserToken (libs.sha256Hex secret) userId
    (issued + userTokenExpireS) now)
  .ofExcept (stored.mapError fun e => .resolver (.db e))
  return .token secret

/-- `logout`; `tokenId` is that of the principal. -/
def logout (auth : Option AuthInfo) (tokenId : Option String) : SessionProg SessionReply :=
  match auth, tokenId with
  | some (.user ..), some tokenId => do
      let answer ← session (.deleteUserToken tokenId)
      .ofExcept (answer.mapError fun e => .resolver (.db e))
      return .loggedOut
  | some (.user ..), none | some (.requester ..), _ => .done .loggedOut
  | _, _ => .fail (.resolver (.api .unauthenticated "Must be authenticated"))

/-- The calls. -/
inductive SessionCall where
  | verifyToken (token : String)
  | verifyAccessToken (token expectedResource : String)
  | createUserSession (userId : String)
  | logout (auth : Option AuthInfo) (tokenId : Option String)
  | admin (call : AdminCall)

/-- The program of a call. -/
def SessionCall.program : SessionCall → SessionProg SessionReply
  | .verifyToken token => Microticket.verifyToken libs token
  | .verifyAccessToken token expectedResource =>
      (Microticket.verifyAccessToken libs.oauth token expectedResource).translate OAuthOp.session >>=
        fun reply => .done (.oauth reply)
  | .createUserSession userId => Microticket.createUserSession libs userId
  | .logout auth tokenId => Microticket.logout auth tokenId
  | .admin call =>
      ((call.prog libs.toCodeLibs).translate AdminOp.session).mapError .resolver >>=
        fun reply => .done (.admin reply)

/-- The programs that take part in a run. -/
def IsSessionCall (p : SessionProg SessionReply) : Prop :=
  ∃ call : SessionCall, call.program libs = p

end Microticket

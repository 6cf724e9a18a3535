import Microticket.OAuthStore
import Microticket.Resolution

/-! # The OAuth endpoints

`POST /oauth/token` of `oauth_http.rs` (the authorization-code and the refresh grant), the
verification of access tokens and the minting and rotation of grants of `oauth.rs`, and the mutations
`approve_oauth_authorization` and `revoke_oauth_grant` of `graphql/mutations.rs`, as programs over the
requests of `OAuthStore`.  An error reply of an endpoint ends its program as a failure.

`OAuthLibs` is what the endpoints use of other crates (SHA-256, HMAC, base64url, JSON, form and URL
encoding) and of the environment variables. -/

namespace Microticket

open Interleaving RustText

/-! ### Data -/

/-- `oauth::ClientRegistration`. -/
structure ClientRegistration where
  clientName : String
  redirectUris : List String
  iat : ℕ
  deriving DecidableEq, Repr

/-- `oauth_http::AuthCodePayload`. -/
structure AuthCodePayload where
  userId : String
  clientId : String
  clientName : String
  redirectUri : String
  codeChallenge : String
  scope : Option String
  resource : Option String
  deriving DecidableEq, Repr

/-- What the endpoints use of other crates and of the environment. -/
structure OAuthLibs where
  debug : String → String
  sha256Hex : String → String
  sha256Base64Url : String → String
  hmacSha256 : List UInt8 → List UInt8 → List UInt8
  base64UrlDecode : String → Option (List UInt8)
  parseRegistration : List UInt8 → Option ClientRegistration
  serializePayload : AuthCodePayload → String
  parsePayload : String → Option AuthCodePayload
  parseForm : List UInt8 → List (String × String)
  appendCode : String → String → Option String → Option String
  clientIdKey : Option (List UInt8)
  apiBaseUrlVar : Option String

/-- `auth::AuthError`. -/
inductive AuthError where
  | permanent (message : String)
  | transient (message : String)
  deriving DecidableEq, Repr

/-- What a call fails with: an error reply of an endpoint, an error of a verification, or the error
of a resolver. -/
inductive OAuthFailure where
  | reply (status : ℕ) (error description : String)
  | auth (error : AuthError)
  | resolver (error : Error)
  deriving DecidableEq, Repr

/-- What a call returns. -/
inductive OAuthReply where
  | tokens (accessToken refreshToken scope : String)
  | verified (info : AuthInfo) (grantId : String)
  | redirect (url : String)
  | revoked
  | expired
  deriving DecidableEq

/-- A program over the tables of OAuth. -/
abbrev OAuthProg (α : Type) : Type := Prog OAuthOp OAuthOp.Res OAuthFailure α

/-- Send a request. -/
def oauth (op : OAuthOp) : OAuthProg op.Res := .call op .done

def accessTokenPrefix : String := "mtoa_"
def refreshTokenPrefix : String := "mtor_"
def defaultScope : String := "toolbox"
def accessTokenLifetimeS : ℕ := 60 * 60
def refreshTokenLifetimeS : ℕ := 60 * 60 * 24 * 30
def grantAbsoluteLifetimeS : ℕ := 60 * 60 * 24 * 90
def lastUsedRefreshSecs : ℕ := 5 * 60
def oauthCodeStateKind : String := "oauth_code"
def oauthCodeTtlS : ℕ := 5 * 60

/-! ### Errors -/

/-- The text of a `db::Error`. -/
def DbError.text : DbError → String
  | .notFound message => s!"Record not found: {message}"
  | .hydration message => s!"Hydration error: {message}"
  | .infrastructure message => s!"Infrastructure error: {message}"
  | .integrity message => s!"Data integrity error: {message}"
  | .typeConversion message => s!"Data type conversion error: {message}"
  | .mutationDisabled => "Mutation disabled"

/-- `classify_db_err`. -/
def classifyDbErr (context : String) (e : DbError) : AuthError :=
  match e with
  | .notFound _ => .permanent s!"{context}: {e.text}"
  | _ => .transient s!"{context}: {e.text}"

def invalidGrant (description : String) : OAuthFailure := .reply 400 "invalid_grant" description

/-- `server_error`; what it logs is left out. -/
def serverError : OAuthFailure := .reply 500 "server_error" "Internal error"

/-- A failed request ends the endpoint with `server_error`. -/
def orServerError {α : Type} (p : OAuthProg (Except DbError α)) : OAuthProg α :=
  p >>= fun r => .ofExcept (r.mapError fun _ => serverError)

/-! ### Tokens -/

variable (libs : OAuthLibs)

/-- `parse_token`: the grant id and the full token. -/
def parseToken (tokenPrefix token : String) : Option (String × String) :=
  (dropStart tokenPrefix token).bind fun rest => (splitOnce '.' rest).bind fun (grantId, secret) =>
    if grantId.isEmpty || secret.isEmpty then none else some (grantId, token)

/-- `parse_access_token`. -/
def parseAccessToken : String → Option (String × String) := parseToken accessTokenPrefix

/-- `parse_refresh_token`. -/
def parseRefreshToken : String → Option (String × String) := parseToken refreshTokenPrefix

def accessToken (grantId nonce : String) : String := s!"{accessTokenPrefix}{grantId}.{nonce}"
def refreshToken (grantId nonce : String) : String := s!"{refreshTokenPrefix}{grantId}.{nonce}"

/-- `mint_tokens`. -/
def mintTokens (grantId : String) : OAuthProg (String × String) := do
  let access ← oauth (.generateNonce 32)
  let refresh ← oauth (.generateNonce 32)
  return (accessToken grantId access, refreshToken grantId refresh)

/-- The hashes of two tokens are equal (`constant_time_eq`). -/
def hashMatches (token stored : String) : Bool :=
  constantTimeEq (asBytes (libs.sha256Hex token)) (asBytes stored)

/-- The row that `mint_grant` builds. -/
def mintedGrant (payload : AuthCodePayload) (resource scope id access refresh : String) (now : ℕ) :
    OAuthGrant where
  id := id
  userId := payload.userId
  clientId := payload.clientId
  clientName := payload.clientName
  redirectUri := payload.redirectUri
  resource := resource
  scope := scope
  accessTokenHash := libs.sha256Hex access
  accessExpiresAt := now + accessTokenLifetimeS
  refreshTokenHash := libs.sha256Hex refresh
  refreshExpiresAt := min (now + refreshTokenLifetimeS) (now + grantAbsoluteLifetimeS)
  expiresAt := now + grantAbsoluteLifetimeS
  createdAt := now
  lastUsedAt := none

/-- `mint_grant`. -/
def mintGrant (payload : AuthCodePayload) (resource scope : String) (now : ℕ) :
    OAuthProg (OAuthGrant × String × String) := do
  let id ← oauth .newId
  let (access, refresh) ← mintTokens id
  return (mintedGrant libs payload resource scope id access refresh now, access, refresh)

/-- The update that `rotate_grant` builds. -/
def rotation (grant : OAuthGrant) (access refresh : String) (now : ℕ) : OAuthGrantUpdateShape :=
  .rotate grant.refreshTokenHash (libs.sha256Hex access) (now + accessTokenLifetimeS)
    (libs.sha256Hex refresh) (min (now + refreshTokenLifetimeS) grant.expiresAt)

/-- `rotate_grant`. -/
def rotateGrant (grant : OAuthGrant) (now : ℕ) :
    OAuthProg (OAuthGrantUpdateShape × String × String) := do
  let (access, refresh) ← mintTokens grant.id
  return (rotation libs grant access refresh now, access, refresh)

/-! ### Users -/

/-- The throttled write of `access_time`. -/
def touchAccessTime (userId : String) (user : AccountUser) (now : ℕ) :
    OAuthProg (Except AuthError Unit) :=
  if user.accessTime.all fun t => t + 60 < now then do
    match ← oauth (.updateUserAccessTime userId) with
    | .ok () => return .ok ()
    | .error .mutationDisabled => return .ok ()
    | .error e => return .error (.transient e.text)
  else .done (.ok ())

/-- `fetch_update_user_auth_info` once the user is read. -/
def resolveUser (userId : String) (user : AccountUser) : OAuthProg (Except AuthError AuthInfo) := do
  let now ← oauth .clock
  match ← touchAccessTime userId user now with
  | .error e => return .error e
  | .ok () =>
      match ← oauth (.listMembershipsByUser userId) with
      | .error e => return .error (classifyDbErr "fetch user memberships" e)
      | .ok memberships => return .ok (.user userId memberships user.superuser)

/-- `fetch_update_user_auth_info`. -/
def fetchUpdateUserAuthInfo (userId : String) : OAuthProg (Except AuthError AuthInfo) := do
  match ← oauth (.getUser userId) with
  | .error e => return .error (classifyDbErr "fetch user from db" e)
  | .ok none => return .error (.permanent "User not found")
  | .ok (some user) =>
      if user.enabled then resolveUser userId user
      else return .error (.permanent "User account is disabled")

/-! ### Access tokens -/

/-- The throttled write of `last_used_at`. -/
def touchLastUsed (grant : OAuthGrant) (now : ℕ) : OAuthProg Unit :=
  if grant.lastUsedAt.all fun t => t + lastUsedRefreshSecs < now then do
    let touched ← oauth .clock
    match ← oauth (.updateOAuthGrant grant.id (.touchLastUsed touched)) with
    | .ok () => return ()
    | .error .mutationDisabled => return ()
    | .error e => throw (.auth (.transient e.text))
  else .done ()

/-- `verify_access_token` once the grant is read. -/
def checkAccessToken (fullToken expectedResource : String) (grant : OAuthGrant) :
    OAuthProg OAuthReply := do
  .ensure (hashMatches libs fullToken grant.accessTokenHash)
    (.auth (.permanent "Invalid OAuth access token"))
  let now ← oauth .clock
  .ensure (now < grant.accessExpiresAt) (.auth (.permanent "OAuth access token has expired"))
  .ensure (now < grant.expiresAt) (.auth (.permanent "OAuth grant has expired"))
  .ensure (grant.resource = expectedResource)
    (.auth (.permanent "OAuth access token is not valid for this resource"))
  touchLastUsed grant now
  let info ← fetchUpdateUserAuthInfo grant.userId
  let info ← .ofExcept (info.mapError .auth)
  return .verified info grant.id

/-- `verify_access_token`. -/
def verifyAccessToken (token expectedResource : String) : OAuthProg OAuthReply :=
  match parseAccessToken token with
  | none => .fail (.auth (.permanent "Malformed OAuth access token"))
  | some (grantId, fullToken) => do
      let row ← oauth (.getOAuthGrant grantId)
      let row ← .ofExcept (row.mapError fun e => .auth (classifyDbErr "fetch oauth grant" e))
      let grant ← .ofOption row (.auth (.permanent "OAuth grant not found"))
      checkAccessToken libs fullToken expectedResource grant

/-! ### Clients -/

/-- `decode_client_id`. -/
def decodeClientId (key : List UInt8) (clientId : String) : Option ClientRegistration :=
  (splitOnce '.' clientId).bind fun (payload, signature) =>
    (libs.base64UrlDecode signature).bind fun given =>
      if constantTimeEq (libs.hmacSha256 key (asBytes payload)) given then
        (libs.base64UrlDecode payload).bind libs.parseRegistration
      else none

/-- The registration of a client, if the server signs client ids. -/
def knownClient (clientId : String) : Option ClientRegistration :=
  libs.clientIdKey.bind fun key => decodeClientId libs key clientId

/-- `is_valid_pkce_verifier`. -/
def isValidPkceVerifier (verifier : String) : Bool :=
  decide (43 ≤ verifier.utf8ByteSize) && decide (verifier.utf8ByteSize ≤ 128) &&
    verifier.toList.all fun c =>
      c.isAlphanum || c == '-' || c == '.' || c == '_' || c == '~'

/-- `verify_pkce_s256`. -/
def verifyPkceS256 (verifier challenge : String) : Bool :=
  isValidPkceVerifier verifier &&
    constantTimeEq (asBytes (libs.sha256Base64Url verifier)) (asBytes challenge)

/-- `api_base_url`. -/
def apiBaseUrl (host : Option String) : String :=
  match (libs.apiBaseUrlVar.map trim).filter fun base => !base.isEmpty with
  | some base => String.ofList ((base.toList.reverse.dropWhile (· == '/')).reverse)
  | none =>
      let host := trim (host.getD "localhost:8000")
      let scheme := if (dropStart "localhost" host).isSome || (dropStart "127.0.0.1" host).isSome
        then "http" else "https"
      s!"{scheme}://{host}"

/-- `default_resource`. -/
def defaultResource (host : Option String) : String := s!"{apiBaseUrl libs host}/mcp"

/-! ### The token endpoint -/

/-- The parameters of a form. -/
abbrev Params : Type := String → Option String

/-- `oauth_code_state_id`. -/
def oauthCodeStateId (codeHash : String) : String := s!"{oauthCodeStateKind}_{codeHash}"

/-- Delete the row of a code, if it was loaded. -/
def deleteLoaded (state : Option EphemeralRow) (stateId : String) : OAuthProg Unit :=
  if state.isSome then orServerError (oauth (.deleteEphemeralState stateId)) else .done ()

/-- `token_authorization_code` once the payload is known. -/
def exchangeCode (host : Option String) (params : Params)
    (clientId redirectUri codeVerifier : String) (payload : AuthCodePayload) :
    OAuthProg OAuthReply := do
  .ensure (knownClient libs clientId).isSome (.reply 401 "invalid_client" "Unknown client")
  .ensure (payload.clientId = clientId)
    (invalidGrant "client_id does not match the authorization code")
  .ensure (payload.redirectUri = redirectUri)
    (invalidGrant "redirect_uri does not match the authorization code")
  .ensure (verifyPkceS256 libs codeVerifier payload.codeChallenge)
    (invalidGrant "code_verifier does not match code_challenge")
  let resource := payload.resource.getD (defaultResource libs host)
  .ensure ((params "resource").all fun requested => requested == resource)
    (.reply 400 "invalid_target" "resource does not match the authorization request")
  let scope := payload.scope.getD defaultScope
  let now ← oauth .clock
  let (grant, access, refresh) ← mintGrant libs payload resource scope now
  orServerError (oauth (.createOAuthGrant grant))
  return .tokens access refresh scope

/-- `token_authorization_code`. -/
def tokenAuthorizationCode (host : Option String) (params : Params) : OAuthProg OAuthReply :=
  match params "code", params "client_id", params "redirect_uri", params "code_verifier" with
  | some code, some clientId, some redirectUri, some codeVerifier => do
      let stateId := oauthCodeStateId (libs.sha256Hex code)
      let state ← orServerError (oauth (.getEphemeralState stateId))
      deleteLoaded state stateId
      let state ← .ofOption (state.filter fun s => s.kind == oauthCodeStateKind)
        (invalidGrant "Unknown or already-used authorization code")
      let now ← oauth .clock
      .ensure (now < state.expiresAt) (invalidGrant "Authorization code has expired")
      let payload ← .ofOption (libs.parsePayload state.payload)
        (invalidGrant "Malformed authorization code")
      exchangeCode libs host params clientId redirectUri codeVerifier payload
  | _, _, _, _ => .fail (.reply 400 "invalid_request"
      "code, client_id, redirect_uri and code_verifier are required")

/-- The check of `token_refresh` on the user. -/
def requireAccount : Except AuthError AuthInfo → OAuthProg Unit
  | .ok _ => .done ()
  | .error (.permanent _) => .fail (invalidGrant "User account is no longer available")
  | .error (.transient _) => .fail serverError

/-- The answer to a rotation. -/
def rotated (access refresh scope : String) : Except DbError Unit → OAuthProg OAuthReply
  | .ok () => .done (.tokens access refresh scope)
  | .error (.notFound _) => .fail (invalidGrant "Refresh token has already been used")
  | .error _ => .fail serverError

/-- `token_refresh` with the current token of the grant. -/
def redeemRefreshToken (params : Params) (clientId : String) (grant : OAuthGrant) :
    OAuthProg OAuthReply := do
  let now ← oauth .clock
  .ensure (now < grant.refreshExpiresAt ∧ now < grant.expiresAt)
    (invalidGrant "Refresh token has expired")
  .ensure (grant.clientId = clientId) (invalidGrant "client_id does not match this refresh token")
  .ensure ((params "resource").all fun requested => requested == grant.resource)
    (.reply 400 "invalid_target" "resource does not match this grant")
  let user ← fetchUpdateUserAuthInfo grant.userId
  requireAccount user
  let (shape, access, refresh) ← rotateGrant libs grant now
  let answer ← oauth (.updateOAuthGrant grant.id shape)
  rotated access refresh grant.scope answer

/-- `token_refresh` with another token: the grant is revoked. -/
def revokeReused (grant : OAuthGrant) : OAuthProg OAuthReply := do
  orServerError (oauth (.deleteOAuthGrant grant.id))
  throw (invalidGrant "Refresh token has already been used")

/-- `token_refresh`. -/
def tokenRefresh (params : Params) : OAuthProg OAuthReply :=
  match params "refresh_token", params "client_id" with
  | some refreshToken, some clientId =>
      match parseRefreshToken refreshToken with
      | none => .fail (invalidGrant "Malformed refresh token")
      | some (grantId, full) => do
          let row ← orServerError (oauth (.getOAuthGrant grantId))
          let grant ← .ofOption row (invalidGrant "Unknown refresh token")
          if hashMatches libs full grant.refreshTokenHash then
            redeemRefreshToken libs params clientId grant
          else revokeReused grant
  | _, _ => .fail (.reply 400 "invalid_request" "refresh_token and client_id are required")

/-- The parameters of a request body; the last value of a name counts. -/
def bodyParams (body : List UInt8) : Params := fun name =>
  ((libs.parseForm body).reverse.find? fun pair => pair.1 == name).map Prod.snd

/-- `token`. -/
def token (host : Option String) (body : List UInt8) : OAuthProg OAuthReply :=
  match bodyParams libs body "grant_type" with
  | some "authorization_code" => tokenAuthorizationCode libs host (bodyParams libs body)
  | some "refresh_token" => tokenRefresh libs (bodyParams libs body)
  | some _ => .fail (.reply 400 "unsupported_grant_type"
      "Only authorization_code and refresh_token are supported")
  | none => .fail (.reply 400 "invalid_request" "grant_type is required")

/-! ### Mutations -/

/-- `AuthRequirement::Authenticated` and `require_user_id`. -/
def requireOAuthUser : Option AuthInfo → OAuthProg String
  | some (.user id _ _) => .done id
  | some (.requester ..) =>
      .fail (.resolver (.forbidden "Must be authenticated as a user"))
  | _ => .fail (.resolver (.api .unauthenticated "Must be authenticated"))

/-- A failed request ends the resolver. -/
def orResolverError {α : Type} (p : OAuthProg (Except DbError α)) : OAuthProg α :=
  p >>= fun r => .ofExcept (r.mapError fun e => .resolver (.db e))

/-- A `code_challenge` that could be one of S256. -/
def isS256Challenge (challenge : String) : Bool :=
  challenge.utf8ByteSize == 43 && challenge.toList.all fun c => c.isAlphanum || c == '-' || c == '_'

/-- The checks of `approve_oauth_authorization` after that on the client. -/
def checkAuthorization (registration : ClientRegistration)
    (redirectUri codeChallenge codeChallengeMethod : String) (scope : Option String) :
    OAuthProg Unit := do
  .ensure (redirectUri ∈ registration.redirectUris)
    (.resolver (.other "redirect_uri is not registered for this client"))
  .ensure (codeChallengeMethod = "S256")
    (.resolver (.other "code_challenge_method must be S256"))
  .ensure (isS256Challenge codeChallenge)
    (.resolver (.other "code_challenge does not look like a valid S256 challenge"))
  .ensure (scope.all fun scope => scope == defaultScope)
    (.resolver (.other s!"Unsupported scope: {libs.debug (scope.getD defaultScope)}"))

/-- `approve_oauth_authorization`. -/
def approveOAuthAuthorization (auth : Option AuthInfo)
    (clientId redirectUri codeChallenge codeChallengeMethod : String)
    (scope resource state : Option String) : OAuthProg OAuthReply := do
  let userId ← requireOAuthUser auth
  let registration ← .ofOption (knownClient libs clientId)
    (.resolver (.other "Unknown or invalid client"))
  checkAuthorization libs registration redirectUri codeChallenge codeChallengeMethod scope
  let now ← oauth .clock
  let code ← oauth (.generateNonce 32)
  let payload : AuthCodePayload :=
    ⟨userId, clientId, registration.clientName, redirectUri, codeChallenge, scope, resource⟩
  orResolverError (oauth (.putEphemeralState (oauthCodeStateId (libs.sha256Hex code))
    oauthCodeStateKind (libs.serializePayload payload) (now + oauthCodeTtlS)))
  let url ← .ofOption (libs.appendCode redirectUri code state)
    (.resolver (.other "redirect_uri is not a valid URL"))
  return .redirect url

/-- `revoke_oauth_grant`. -/
def revokeOAuthGrant (auth : Option AuthInfo) (id : String) : OAuthProg OAuthReply := do
  let userId ← requireOAuthUser auth
  let row ← orResolverError (oauth (.getOAuthGrant id))
  let grant ← .ofOption row (.resolver (.other "OAuth grant not found"))
  .ensure (grant.userId = userId) (.resolver (.other "OAuth grant not found"))
  orResolverError (oauth (.deleteOAuthGrant id))
  return .revoked

/-! ### All calls -/

/-- The calls on these tables, and the deletions of DynamoDB. -/
inductive OAuthCall where
  | token (host : Option String) (body : List UInt8)
  | verifyAccessToken (token expectedResource : String)
  | approveOAuthAuthorization (auth : Option AuthInfo)
      (clientId redirectUri codeChallenge codeChallengeMethod : String)
      (scope resource state : Option String)
  | revokeOAuthGrant (auth : Option AuthInfo) (id : String)
  | expire (table : TtlTable) (id : String)

/-- The program of a call. -/
def OAuthCall.program : OAuthCall → OAuthProg OAuthReply
  | .token host body => Microticket.token libs host body
  | .verifyAccessToken presented expectedResource =>
      Microticket.verifyAccessToken libs presented expectedResource
  | .approveOAuthAuthorization auth clientId redirectUri codeChallenge codeChallengeMethod scope
      resource state =>
      Microticket.approveOAuthAuthorization libs auth clientId redirectUri codeChallenge
        codeChallengeMethod scope resource state
  | .revokeOAuthGrant auth id => Microticket.revokeOAuthGrant auth id
  | .expire table id => oauth (.expire table id) >>= fun _ => .done .expired

/-- The programs of the system. -/
def IsOAuthCall (libs : OAuthLibs) (p : OAuthProg OAuthReply) : Prop :=
  ∃ call : OAuthCall, call.program libs = p

end Microticket

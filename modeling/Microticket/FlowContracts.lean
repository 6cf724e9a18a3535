import Microticket.CodeInvariant
import Microticket.FlowStore
import Microticket.OAuthConsent

/-! # What the calls of each flow send

For every call, the requests it may send after the requests it has sent so far (`Permits`), and what
it has sent when it ends with success (`Ends`).  A request is `quiet` if it neither stores or deletes
a row of `ephemeral_state`, nor stores a code or a token, nor sends a code, nor names an instance. -/

namespace Microticket

open Interleaving RustText

variable {i : ℕ}

/-! ### Code mutations -/

def CodeOp.quiet : CodeOp → Bool
  | .sendPlainText .. | .putLoginCode .. | .putEphemeralState .. | .deleteEphemeralState _
  | .createUserToken .. | .getInstanceIdBySlug _ => false
  | _ => true

section codes
variable (libs : CodeLibs) (i)

/-- The requests of a code mutation. -/
inductive CodeMutation.Permits : CodeMutation → List CodeEvent → CodeOp → Prop
  | quiet {m h op} (hquiet : op.quiet = true) : Permits m h op
  | storesLoginCode {raw token ip email code expiresAt now h}
      (hemail : normalizeUserEmail libs raw = .ok email)
      (hcode : ⟨i, .generateCode loginCodeDigits, code⟩ ∈ h) :
      Permits (.requestAuthCode raw token ip) h
        (.putLoginCode email (libs.sha256Hex code) expiresAt now)
  | mailsLoginCode {raw token ip email code expiresAt now subject h}
      (hemail : normalizeUserEmail libs raw = .ok email)
      (hcode : ⟨i, .generateCode loginCodeDigits, code⟩ ∈ h)
      (hput : ⟨i, .putLoginCode email (libs.sha256Hex code) expiresAt now, .ok ()⟩ ∈ h) :
      Permits (.requestAuthCode raw token ip) h
        (.sendPlainText email subject (codeMail "login" code))
  | storesUserToken {raw code nonce userId expiresAt id h}
      (hnonce : ⟨i, .generateNonce 32, nonce⟩ ∈ h) :
      Permits (.verifyAuthCode raw code) h
        (.createUserToken (libs.sha256Hex ("mtu_" ++ nonce)) userId expiresAt id)
  | namesInstance {slug email token ip h} :
      Permits (.requestSubmitCode slug email token ip) h (.getInstanceIdBySlug slug)
  | storesSubmitCode {slug email token ip instanceId code payload expiresAt id h}
      (hinst : ⟨i, .getInstanceIdBySlug slug, .ok (some instanceId)⟩ ∈ h)
      (hcode : ⟨i, .generateCode loginCodeDigits, code⟩ ∈ h)
      (hhash : payload.codeHash = libs.sha256Hex code) :
      Permits (.requestSubmitCode slug email token ip) h
        (.putEphemeralState (submitCodeStateId libs instanceId email) submitCodeStateKind
          (.submitCode payload) expiresAt id)
  | mailsSubmitCode {slug email token ip instanceId code payload expiresAt id subject h}
      (hinst : ⟨i, .getInstanceIdBySlug slug, .ok (some instanceId)⟩ ∈ h)
      (hcode : ⟨i, .generateCode loginCodeDigits, code⟩ ∈ h)
      (hhash : payload.codeHash = libs.sha256Hex code)
      (hput : ⟨i, .putEphemeralState (submitCodeStateId libs instanceId email) submitCodeStateKind
        (.submitCode payload) expiresAt id, .ok ()⟩ ∈ h) :
      Permits (.requestSubmitCode slug email token ip) h
        (.sendPlainText email subject (codeMail "verification" code))
  | checksInstance {slug email code} :
      Permits (.verifySubmitCode slug email code) [] (.getInstanceIdBySlug slug)
  | countsAttempt {slug email code instanceId state payload expiresAt id h}
      (hinst : ⟨i, .getInstanceIdBySlug slug, .ok (some instanceId)⟩ ∈ h)
      (hread : ⟨i, .getEphemeralState (submitCodeStateId libs instanceId email),
        .ok (some state)⟩ ∈ h)
      (hkind : state.kind = submitCodeStateKind) (hpayload : state.payload = .submitCode payload) :
      Permits (.verifySubmitCode slug email code) h
        (.putEphemeralState (submitCodeStateId libs instanceId email) submitCodeStateKind
          (.submitCode { payload with attempts := payload.attempts + 1 }) expiresAt id)
  | deletesSubmitCode {slug email code instanceId h}
      (hinst : ⟨i, .getInstanceIdBySlug slug, .ok (some instanceId)⟩ ∈ h) :
      Permits (.verifySubmitCode slug email code) h
        (.deleteEphemeralState (submitCodeStateId libs instanceId email))
  | storesSubmitToken {slug email code instanceId nonce expiresAt id h}
      (hinst : ⟨i, .getInstanceIdBySlug slug, .ok (some instanceId)⟩ ∈ h)
      (hnonce : ⟨i, .generateNonce 16, nonce⟩ ∈ h) :
      Permits (.verifySubmitCode slug email code) h
        (.putEphemeralState (submitTokenStateId (libs.sha256Hex ("mts_" ++ nonce)))
          submitTokenStateKind (.submitToken email instanceId) expiresAt id)

/-- The row of the code `code` for this address was read, and the hashes were equal. -/
def MatchesLoginCode (email code : String) (h : List CodeEvent) : Prop :=
  ∃ record, ⟨i, .getLoginCode email, .ok (some record)⟩ ∈ h ∧
    ⟨i, .compareHash record.code record.codeHash (libs.sha256Hex code), true⟩ ∈ h

/-- The row of a code for this address and instance was read, and the hashes were equal. -/
def MatchesSubmitCode (instanceId email code : String) (h : List CodeEvent) : Prop :=
  ∃ state payload, ⟨i, .getEphemeralState (submitCodeStateId libs instanceId email),
      .ok (some state)⟩ ∈ h ∧ state.kind = submitCodeStateKind ∧
    state.payload = .submitCode payload ∧
    ⟨i, .compareHash state.code payload.codeHash (libs.sha256Hex code), true⟩ ∈ h

/-- What a code mutation has sent that ends with a token. -/
def CodeMutation.Ends : CodeMutation → Except Empty FlowReply → List CodeEvent → Prop
  | .verifyAuthCode raw code, .ok (.token (some _)), h =>
      ∃ email, normalizeUserEmail libs raw = .ok email ∧ MatchesLoginCode i libs email code h
  | .verifySubmitCode slug email code, .ok (.token (some secret)), h =>
      ∃ instanceId nonce, ⟨i, .getInstanceIdBySlug slug, .ok (some instanceId)⟩ ∈ h ∧
        MatchesSubmitCode i libs instanceId email code h ∧
        ⟨i, .generateNonce 16, nonce⟩ ∈ h ∧ secret = "mts_" ++ nonce
  | _, _, _ => True

end codes

section
variable {libs : CodeLibs} {m : CodeMutation} {h : List CodeEvent} {α : Type}

theorem MatchesLoginCode.more {email code : String} (hmatch : MatchesLoginCode i libs email code h)
    (more : List CodeEvent) : MatchesLoginCode i libs email code (h ++ more) := by
  obtain ⟨record, hread, hsame⟩ := hmatch
  exact ⟨record, List.mem_append_left _ hread, List.mem_append_left _ hsame⟩

/-- Quiet requests may always be sent. -/
theorem sends_quiet {p : CodeProg α} (hp : p.All fun op => op.quiet = true) :
    Sends i (CodeMutation.Permits i libs m) (fun _ _ => True) p h :=
  Sends.of_all hp .quiet

theorem quiet_enabledUser (email : String) : (enabledUser email).All fun op => op.quiet = true := by
  refine ⟨rfl, fun r => ?_⟩
  rcases r with e | _ | userId
  · trivial
  · trivial
  refine ⟨rfl, fun r => ?_⟩
  rcases r with e | _ | user <;> trivial

theorem sends_sendLoginCode {raw email : String} {token ip : Option String} {now : ℕ}
    (hemail : normalizeUserEmail libs raw = .ok email) :
    Sends i (CodeMutation.Permits i libs (.requestAuthCode raw token ip)) (fun _ _ => True)
      (sendLoginCode libs email now) h := by
  refine ⟨.quiet rfl, fun code => ⟨.storesLoginCode hemail (by simp), fun r => ?_⟩⟩
  cases r with
  | error e => trivial
  | ok => exact ⟨.mailsLoginCode hemail (by simp) List.mem_concat_self, fun _ => trivial⟩

theorem sends_requestAuthCode {raw : String} {token ip : Option String} :
    Sends i (CodeMutation.Permits i libs (.requestAuthCode raw token ip)) (fun _ _ => True)
      (requestAuthCode libs raw token ip) [] := by
  unfold requestAuthCode
  cases hemail : normalizeUserEmail libs raw with
  | error e => trivial
  | ok email =>
      refine ⟨.quiet rfl, fun r => ?_⟩
      rcases r with e | _ | _
      · trivial
      · trivial
      refine (sends_quiet (quiet_enabledUser email)).bind (fun user h _ => ?_) fun _ _ _ => trivial
      cases user with
      | none => trivial
      | some user =>
          refine ⟨.quiet rfl, fun now => ⟨.quiet rfl, fun existing => ?_⟩⟩
          dsimp only [bind, Prog.bind]
          split
          · trivial
          · exact sends_sendLoginCode hemail

/-- What `verify_auth_code` has sent that returns a token. -/
theorem sends_verifyAuthCode {raw code : String} :
    Sends i (CodeMutation.Permits i libs (.verifyAuthCode raw code))
      (fun r h => ∀ secret, r = .ok (some secret) →
        ∃ email, normalizeUserEmail libs raw = .ok email ∧ MatchesLoginCode i libs email code h)
      (verifyAuthCode libs raw code) [] := by
  unfold verifyAuthCode
  cases hemail : normalizeUserEmail libs raw with
  | error e => exact nofun
  | ok email =>
      refine ⟨.quiet rfl, fun now => ⟨.quiet rfl, fun r => ?_⟩⟩
      rcases r with e | _ | record
      · exact nofun
      · exact nofun
      dsimp only [bind, Prog.bind]
      unfold checkLoginCode
      split
      · exact ⟨.quiet rfl, fun _ => nofun⟩
      split
      · exact ⟨.quiet rfl, fun _ => nofun⟩
      refine ⟨.quiet rfl, fun _ => ⟨.quiet rfl, fun same => ?_⟩⟩
      cases same with
      | false => exact nofun
      | true =>
          refine ⟨.quiet rfl, fun _ => ?_⟩
          refine (Sends.keeps (K := MatchesLoginCode i libs email code) (quiet_enabledUser email)
            (fun hop _ => .quiet hop) (fun _ hmatch => hmatch.more _) ?_).bind
            (fun user h hmatch => ?_) fun _ _ _ => nofun
          · exact ⟨record, by simp, List.mem_append_left _ List.mem_concat_self⟩
          cases user with
          | none => exact nofun
          | some user =>
              refine ⟨.quiet rfl, fun nonce => ⟨.quiet rfl, fun now =>
                ⟨.storesUserToken (by simp), fun r => ?_⟩⟩⟩
              cases r with
              | error e => exact nofun
              | ok => exact fun _ _ => ⟨email, rfl, ((hmatch.more _).more _).more _⟩

theorem sends_requestSubmitCode {slug email : String} {token ip : Option String} :
    Sends i (CodeMutation.Permits i libs (.requestSubmitCode slug email token ip))
      (fun _ _ => True) (requestSubmitCode libs slug email token ip) [] := by
  refine ⟨.quiet rfl, fun r => ?_⟩
  rcases r with e | _ | _
  · trivial
  · trivial
  refine ⟨.namesInstance, fun r => ?_⟩
  rcases r with e | _ | instanceId
  · trivial
  · trivial
  refine ⟨.quiet rfl, fun r => ?_⟩
  rcases r with e | _ | inst
  · trivial
  · trivial
  dsimp only [bind, Prog.bind]
  split
  swap
  · trivial
  refine ⟨.quiet rfl, fun now => ⟨.quiet rfl, fun existing => ?_⟩⟩
  dsimp only [bind, Prog.bind]
  split
  · trivial
  refine ⟨.quiet rfl, fun code => ⟨.storesSubmitCode (by simp) List.mem_concat_self rfl,
    fun r => ?_⟩⟩
  cases r with
  | error e => trivial
  | ok => exact ⟨.mailsSubmitCode (by simp) (by simp) rfl List.mem_concat_self, fun _ => trivial⟩

/-- What `verify_submit_code` has sent that returns a token. -/
theorem sends_verifySubmitCode {slug email code : String} :
    Sends i (CodeMutation.Permits i libs (.verifySubmitCode slug email code))
      (fun r h => ∀ secret, r = .ok (some secret) →
        ∃ instanceId nonce, ⟨i, .getInstanceIdBySlug slug, .ok (some instanceId)⟩ ∈ h ∧
          MatchesSubmitCode i libs instanceId email code h ∧
          ⟨i, .generateNonce 16, nonce⟩ ∈ h ∧ secret = "mts_" ++ nonce)
      (verifySubmitCode libs slug email code) [] := by
  refine ⟨.checksInstance, fun r => ?_⟩
  rcases r with e | _ | instanceId
  · exact nofun
  · exact nofun
  refine ⟨.quiet rfl, fun now => ⟨.quiet rfl, fun r => ?_⟩⟩
  rcases r with e | _ | state
  · exact nofun
  · exact nofun
  dsimp only [bind, Prog.bind]
  split
  swap
  · exact nofun
  rename_i hkind
  unfold checkSubmitCode
  split
  · exact ⟨.deletesSubmitCode (by simp), fun _ => nofun⟩
  split
  swap
  · exact nofun
  rename_i payload hpayload
  split
  · exact ⟨.deletesSubmitCode (by simp), fun _ => nofun⟩
  refine ⟨.countsAttempt (by simp) List.mem_concat_self hkind hpayload, fun _ =>
    ⟨.quiet rfl, fun same => ?_⟩⟩
  cases same with
  | false => exact nofun
  | true =>
      refine ⟨.deletesSubmitCode (by simp), fun _ => ⟨.quiet rfl, fun nonce => ⟨.quiet rfl,
        fun now => ⟨.storesSubmitToken (by simp) (by simp), fun r => ?_⟩⟩⟩⟩
      cases r with
      | error e => exact nofun
      | ok =>
          rintro _ ⟨⟩
          exact ⟨instanceId, nonce, by simp, ⟨state, payload, by simp, hkind, hpayload, by simp⟩,
            by simp, rfl⟩

/-- A code mutation keeps its contract. -/
theorem CodeMutation.sends (libs : CodeLibs) (m : CodeMutation) :
    Sends i (m.Permits i libs) (m.Ends i libs) (m.reply libs) [] := by
  cases m with
  | requestAuthCode raw token ip =>
      exact sends_requestAuthCode.bind (fun _ _ _ => trivial) fun _ _ _ => trivial
  | verifyAuthCode raw code =>
      refine sends_verifyAuthCode.bind (fun secret h hends => ?_) fun e => e.elim
      cases secret with
      | none => trivial
      | some secret => exact hends secret rfl
  | requestSubmitCode slug email token ip =>
      exact sends_requestSubmitCode.bind (fun _ _ _ => trivial) fun _ _ _ => trivial
  | verifySubmitCode slug email code =>
      refine sends_verifySubmitCode.bind (fun secret h hends => ?_) fun e => e.elim
      cases secret with
      | none => trivial
      | some secret => exact hends secret rfl

end

/-! ### OAuth endpoints -/

section oauth
variable (libs : OAuthLibs) (i)

/-- The requests of a call of OAuth. -/
inductive OAuthCall.Permits : OAuthCall → List OAuthEvent → OAuthOp → Prop
  | quiet {call h op} (hquiet : op.quiet = true) : Permits call h op
  | storesCode {auth clientId redirectUri codeChallenge codeChallengeMethod scope resource state code
      payload expiresAt h} (hnonce : ⟨i, .generateNonce 32, code⟩ ∈ h) :
      Permits (.approveOAuthAuthorization auth clientId redirectUri codeChallenge
        codeChallengeMethod scope resource state) h
        (.putEphemeralState (oauthCodeStateId (libs.sha256Hex code)) oauthCodeStateKind payload
          expiresAt)
  | deletesCode {host body code h}
      (hgrant : bodyParams libs body "grant_type" = some "authorization_code")
      (hcode : bodyParams libs body "code" = some code) :
      Permits (.token host body) h
        (.deleteEphemeralState (oauthCodeStateId (libs.sha256Hex code)))

/-- The row of this authorization code was read. -/
def ReadsCode (code : String) (h : List OAuthEvent) : Prop :=
  ∃ row, ⟨i, .getEphemeralState (oauthCodeStateId (libs.sha256Hex code)), .ok (some row)⟩ ∈ h

/-- What a call of OAuth was given, and has sent, that ends with tokens or with a principal. -/
def OAuthCall.Ends : OAuthCall → Except OAuthFailure OAuthReply → List OAuthEvent → Prop
  | .token _ body, .ok (.tokens ..), h =>
      (bodyParams libs body "grant_type" = some "authorization_code" ∧
        ∃ code, bodyParams libs body "code" = some code ∧ ReadsCode i libs code h) ∨
      bodyParams libs body "grant_type" = some "refresh_token" ∧
        ∃ secret, bodyParams libs body "refresh_token" = some secret ∧
          (parseRefreshToken secret).isSome
  | .verifyAccessToken secret _, .ok (.verified ..), _ => (parseAccessToken secret).isSome
  | _, _, _ => True

end oauth

section
variable {libs : OAuthLibs} {call : OAuthCall} {h : List OAuthEvent} {α : Type}

theorem oauth_quiet {p : OAuthProg α} (hp : p.All fun op => op.quiet = true) :
    Sends i (OAuthCall.Permits i libs call) (fun _ _ => True) p h :=
  Sends.of_all hp .quiet

theorem sends_approveOAuthAuthorization {auth : Option AuthInfo}
    {clientId redirectUri codeChallenge codeChallengeMethod : String}
    {scope resource state : Option String} :
    Sends i (OAuthCall.Permits i libs (.approveOAuthAuthorization auth clientId redirectUri
        codeChallenge codeChallengeMethod scope resource state)) (fun _ _ => True)
      (approveOAuthAuthorization libs auth clientId redirectUri codeChallenge codeChallengeMethod
        scope resource state) h := by
  unfold approveOAuthAuthorization
  refine (oauth_quiet (all_requireOAuthUser auth)).bind (fun userId h _ => ?_) fun _ _ _ => trivial
  refine Sends.ofOption (fun registration _ => ?_) fun _ => trivial
  refine (oauth_quiet (all_checkAuthorization ..)).bind (fun _ h _ => ?_) fun _ _ _ => trivial
  refine ⟨.quiet rfl, fun now => ⟨.quiet rfl, fun code => ⟨.storesCode List.mem_concat_self,
    fun r => ?_⟩⟩⟩
  cases r with
  | error e => trivial
  | ok => exact Sends.ofOption (fun _ _ => trivial) fun _ => trivial

/-- The exchange of a code deletes only the row of that code. -/
theorem tokenAuthorizationCode_deletes (host : Option String) (params : Params) :
    (tokenAuthorizationCode libs host params).All fun op => op.quiet = true ∨
      ∃ code, params "code" = some code ∧
        op = .deleteEphemeralState (oauthCodeStateId (libs.sha256Hex code)) := by
  unfold tokenAuthorizationCode
  split
  · rename_i code clientId redirectUri codeVerifier hcode _ _ _
    refine ⟨.inl rfl, fun r => ?_⟩
    rcases r with e | _ | row
    · trivial
    · trivial
    refine ⟨.inr ⟨code, hcode, rfl⟩, fun r => ?_⟩
    rcases r with e | ⟨⟩
    · trivial
    refine (Prog.all_ofOption ..).bind fun state => ⟨.inl rfl, fun now => ?_⟩
    refine (Prog.all_ensure ..).bind fun _ => (Prog.all_ofOption ..).bind fun payload => ?_
    exact (quiet_exchangeCode ..).mono fun _ => .inl
  · trivial

/-- An exchange that gives tokens has read the row of its code. -/
theorem sends_tokenAuthorizationCode {host : Option String} {body : List UInt8}
    (hgrant : bodyParams libs body "grant_type" = some "authorization_code") :
    Sends i (OAuthCall.Permits i libs (.token host body))
      (fun r h => OAuthCall.Ends i libs (.token host body) r h)
      (tokenAuthorizationCode libs host (bodyParams libs body)) [] := by
  cases hcode : bodyParams libs body "code" with
  | none =>
      unfold tokenAuthorizationCode
      rw [hcode]
      trivial
  | some code =>
      refine ((Sends.of_all (tokenAuthorizationCode_deletes host _) fun hop => hop).and
        (tokenAuthorizationCode_end hcode)).mono ?_ ?_
      · rintro h op ⟨hquiet | ⟨code', hcode', rfl⟩, -⟩
        · exact .quiet hquiet
        · exact .deletesCode hgrant hcode'
      · rintro (e | ⟨access, refresh, scope⟩ | _ | _ | _ | _) h ⟨-, hends⟩
        · trivial
        · obtain ⟨row, payload, now, hx, -⟩ := hends access refresh scope rfl
          exact .inl ⟨hgrant, code, hcode, row, hx.loaded⟩
        all_goals trivial

theorem sends_tokenRefresh {host : Option String} {body : List UInt8}
    (hgrant : bodyParams libs body "grant_type" = some "refresh_token") :
    Sends i (OAuthCall.Permits i libs (.token host body))
      (fun r h => OAuthCall.Ends i libs (.token host body) r h)
      (tokenRefresh libs (bodyParams libs body)) [] := by
  cases hsecret : bodyParams libs body "refresh_token" with
  | none =>
      unfold tokenRefresh
      rw [hsecret]
      trivial
  | some secret =>
      cases hparse : parseRefreshToken secret with
      | none =>
          unfold tokenRefresh
          rw [hsecret]
          cases bodyParams libs body "client_id" with
          | none => trivial
          | some clientId =>
              simp only [hparse]
              trivial
      | some parts =>
          refine (oauth_quiet (quiet_tokenRefresh _)).post ?_
          rintro (e | ⟨access, refresh, scope⟩ | _ | _ | _ | _) h -
          · trivial
          · exact .inr ⟨hgrant, secret, hsecret, by rw [hparse]; rfl⟩
          all_goals trivial

/-- A call of OAuth keeps its contract. -/
theorem OAuthCall.sends (libs : OAuthLibs) (call : OAuthCall) :
    Sends i (call.Permits i libs) (call.Ends i libs) (call.program libs) [] := by
  cases call with
  | token host body =>
      show Sends i _ _ (Microticket.token libs host body) []
      unfold Microticket.token
      split
      · rename_i hgrant
        exact sends_tokenAuthorizationCode hgrant
      · rename_i hgrant
        exact sends_tokenRefresh hgrant
      · trivial
      · trivial
  | verifyAccessToken secret expectedResource =>
      cases hparse : parseAccessToken secret with
      | none =>
          show Sends i _ _ (Microticket.verifyAccessToken libs secret expectedResource) []
          unfold Microticket.verifyAccessToken
          rw [hparse]
          trivial
      | some parts =>
          refine (oauth_quiet (quiet_verifyAccessToken ..)).post ?_
          rintro (e | _ | _ | _ | _ | _) h -
          · trivial
          · trivial
          · show (parseAccessToken secret).isSome
            rw [hparse]
            rfl
          all_goals trivial
  | approveOAuthAuthorization =>
      exact sends_approveOAuthAuthorization.post fun r h _ => by cases r <;> trivial
  | revokeOAuthGrant auth id =>
      refine (oauth_quiet (quiet_revokeOAuthGrant auth id)).post fun r h _ => ?_
      cases r <;> trivial
  | expire table id => exact ⟨.quiet rfl, fun _ => trivial⟩

end

/-! ### Passkey mutations -/

def PasskeyOp.quiet : PasskeyOp → Bool
  | .putWebauthnState .. | .deleteWebauthnState _ | .createUserToken .. => false
  | _ => true

section passkeys
variable (libs : WebauthnLibs) (i)

/-- The requests of a passkey mutation. -/
inductive PasskeyMutation.Permits : PasskeyMutation → List PasskeyEvent → PasskeyOp → Prop
  | quiet {m h op} (hquiet : op.quiet = true) : Permits m h op
  | storesRegistration {userId memberships isSuperuser id state expiresAt h}
      (hid : ⟨i, .randomId, id⟩ ∈ h) :
      Permits (.beginPasskeyRegistration (some (.user userId memberships isSuperuser))) h
        (.putWebauthnState id "reg" (some userId) (.registration state) expiresAt)
  | storesLogin {id state expiresAt h} (hid : ⟨i, .randomId, id⟩ ∈ h) :
      Permits .beginPasskeyLogin h
        (.putWebauthnState id "auth" none (.authentication state) expiresAt)
  | deletesRegistration {auth id json name state h}
      (hread : ⟨i, .getWebauthnState id, .ok (some state)⟩ ∈ h) (hkind : state.kind = "reg") :
      Permits (.finishPasskeyRegistration auth id json name) h (.deleteWebauthnState id)
  | deletesLogin {id json state h}
      (hread : ⟨i, .getWebauthnState id, .ok (some state)⟩ ∈ h) (hkind : state.kind = "auth") :
      Permits (.finishPasskeyLogin id json) h (.deleteWebauthnState id)
  | storesUserToken {id json nonce userId expiresAt challengeId h}
      (hnonce : ⟨i, .generateNonce 32, nonce⟩ ∈ h) :
      Permits (.finishPasskeyLogin id json) h
        (.createUserToken (libs.sha256Hex ("mtu_" ++ nonce)) userId expiresAt challengeId)

/-- The challenge `id` of this kind was read. -/
def ReadsChallenge (id kind : String) (userId : Option String) (h : List PasskeyEvent) : Prop :=
  ∃ state, ⟨i, .getWebauthnState id, .ok (some state)⟩ ∈ h ∧ state.kind = kind ∧
    (userId.isSome → state.userId = userId)

/-- What a passkey mutation has read that accepts a challenge. -/
def PasskeyMutation.Ends : PasskeyMutation → Except Error PasskeyReply → List PasskeyEvent → Prop
  | .finishPasskeyRegistration auth id _ _, .ok (.info _), h =>
      ∃ userId memberships isSuperuser, auth = some (.user userId memberships isSuperuser) ∧
        ReadsChallenge i id "reg" (some userId) h
  | .finishPasskeyLogin id _, .ok (.token (some _)), h => ReadsChallenge i id "auth" none h
  | _, _, _ => True

end passkeys

section
variable {libs : WebauthnLibs} {m : PasskeyMutation} {h : List PasskeyEvent} {α : Type}

theorem passkey_quiet {p : PasskeyProg α} (hp : p.All fun op => op.quiet = true) :
    Sends i (PasskeyMutation.Permits i libs m) (fun _ _ => True) p h :=
  Sends.of_all hp .quiet

/-- A challenge is stored under a new id. -/
theorem sends_storeChallenge {kind optionsJson : String} {userId : Option String}
    {stateJson : StateJson} (hput : ∀ {h id expiresAt}, ⟨i, .randomId, id⟩ ∈ h →
      m.Permits i libs h (.putWebauthnState id kind userId stateJson expiresAt)) :
    Sends i (m.Permits i libs) (fun _ _ => True)
      (storeChallenge kind userId stateJson optionsJson) h := by
  refine ⟨.quiet rfl, fun id => ⟨.quiet rfl, fun now => ⟨hput (by simp), fun r => ?_⟩⟩⟩
  cases r <;> trivial

theorem sends_beginPasskeyRegistration {auth : Option AuthInfo} :
    Sends i (PasskeyMutation.Permits i libs (.beginPasskeyRegistration auth)) (fun _ _ => True)
      (beginPasskeyRegistration libs auth) [] := by
  unfold beginPasskeyRegistration
  rcases auth with _ | ⟨userId, memberships, isSuperuser⟩ | _ | _
  · trivial
  swap
  · trivial
  swap
  · trivial
  refine ⟨.quiet rfl, fun r => ?_⟩
  cases r with
  | error e => trivial
  | ok count =>
      refine Sends.ensure (fun _ => ?_) fun _ => trivial
      refine ⟨.quiet rfl, fun r => ?_⟩
      cases r with
      | error e => trivial
      | ok existing =>
          refine ⟨.quiet rfl, fun r => ?_⟩
          cases r with
          | error e => trivial
          | ok user =>
              refine ⟨.quiet rfl, fun challenge => ?_⟩
              refine Sends.ofExcept (fun started _ => ?_) fun _ _ => trivial
              refine Sends.ofExcept (fun options _ => ?_) fun _ _ => trivial
              exact sends_storeChallenge .storesRegistration

theorem sends_beginPasskeyLogin :
    Sends i (PasskeyMutation.Permits i libs .beginPasskeyLogin) (fun _ _ => True)
      (beginPasskeyLogin libs) [] := by
  refine ⟨.quiet rfl, fun challenge => ?_⟩
  refine Sends.ofExcept (fun started _ => ?_) fun _ _ => trivial
  exact sends_storeChallenge .storesLogin

/-- What `finish_passkey_registration` has read that accepts a challenge. -/
theorem sends_finishPasskeyRegistration {auth : Option AuthInfo} {id json name : String} :
    Sends i (PasskeyMutation.Permits i libs (.finishPasskeyRegistration auth id json name))
      (fun r h => ∀ info, r = .ok info →
        ∃ userId memberships isSuperuser, auth = some (.user userId memberships isSuperuser) ∧
          ReadsChallenge i id "reg" (some userId) h)
      (finishPasskeyRegistration libs auth id json name) [] := by
  unfold finishPasskeyRegistration
  rcases auth with _ | ⟨userId, memberships, isSuperuser⟩ | _ | _
  · exact nofun
  swap
  · exact nofun
  swap
  · exact nofun
  refine ⟨.quiet rfl, fun r => ?_⟩
  rcases r with e | _ | state
  · exact nofun
  · exact nofun
  refine Sends.ensure (fun hkind => ?_) fun _ => nofun
  refine Sends.ensure (fun huser => ?_) fun _ => nofun
  refine ⟨.quiet rfl, fun now => ?_⟩
  dsimp only [bind, Prog.bind]
  split
  · exact ⟨.deletesRegistration (by simp) hkind, fun _ => nofun⟩
  refine Sends.ofOption (fun regState _ => ?_) fun _ => nofun
  refine Sends.ofExcept (fun credential _ => ?_) fun _ _ => nofun
  refine Sends.ofExcept (fun passkey _ => ?_) fun _ _ => nofun
  refine ⟨.quiet rfl, fun r => ?_⟩
  cases r with
  | error e => exact nofun
  | ok count =>
      dsimp only [bind, Prog.bind, Prog.ofExcept, Except.mapError]
      split
      · exact ⟨.deletesRegistration (by simp) hkind, fun _ => nofun⟩
      refine ⟨.quiet rfl, fun r => ?_⟩
      cases r with
      | error e => exact nofun
      | ok cred =>
          refine ⟨.deletesRegistration (by simp) hkind, fun _ info _ => ?_⟩
          exact ⟨userId, memberships, isSuperuser, rfl, state, by simp, hkind, fun _ => huser⟩

/-- What `finish_passkey_login` has read that returns a token. -/
theorem sends_finishPasskeyLogin {id json : String} :
    Sends i (PasskeyMutation.Permits i libs (.finishPasskeyLogin id json))
      (fun r h => ∀ token, r = .ok (some token) → ReadsChallenge i id "auth" none h)
      (finishPasskeyLogin libs id json) [] := by
  refine ⟨.quiet rfl, fun r => ?_⟩
  rcases r with e | _ | state
  · exact nofun
  · exact nofun
  refine Sends.ensure (fun hkind => ?_) fun _ => nofun
  refine ⟨.quiet rfl, fun now => ?_⟩
  dsimp only [bind, Prog.bind]
  split
  · exact ⟨.deletesLogin (by simp) hkind, fun _ => nofun⟩
  refine Sends.ofOption (fun authState _ => ?_) fun _ => nofun
  refine Sends.ofOption (fun credential _ => ?_) fun _ => nofun
  refine Sends.ofExcept (fun credIdBytes _ => ?_) fun _ _ => nofun
  refine ⟨.quiet rfl, fun r => ?_⟩
  rcases r with e | _ | stored
  · exact nofun
  · exact ⟨.deletesLogin (by simp) hkind, fun _ => nofun⟩
  refine Sends.ofExcept (fun passkey _ => ?_) fun _ _ => nofun
  refine Sends.ofExcept (fun result _ => ?_) fun _ _ => nofun
  refine ⟨.quiet rfl, fun _ => ⟨.deletesLogin (by simp) hkind, fun _ => ⟨.quiet rfl, fun r => ?_⟩⟩⟩
  cases r with
  | error e => exact nofun
  | ok user =>
      dsimp only [bind, Prog.bind, Prog.ofExcept, Except.mapError]
      cases user.filter PasskeyUser.enabled with
      | none => exact nofun
      | some user =>
          refine ⟨.quiet rfl, fun nonce => ⟨.quiet rfl, fun now =>
            ⟨.storesUserToken (by simp), fun r => ?_⟩⟩⟩
          cases r with
          | error e => exact nofun
          | ok => exact fun _ _ => ⟨state, by simp, hkind, nofun⟩

theorem quiet_ownPasskey (userId id : String) :
    (ownPasskey userId id).All fun op => op.quiet = true := by
  refine ⟨rfl, fun r => ?_⟩
  rcases r with e | _ | cred
  · trivial
  · trivial
  exact (Prog.all_ensure ..).bind fun _ => trivial

theorem quiet_passkeyUserId (auth : Option AuthInfo) :
    (passkeyUserId auth).All fun op => op.quiet = true := by
  unfold passkeyUserId
  split <;> trivial

theorem quiet_renamePasskey (auth : Option AuthInfo) (id name : String) :
    (renamePasskey auth id name).All fun op => op.quiet = true := by
  refine (quiet_passkeyUserId auth).bind fun userId => (quiet_ownPasskey userId id).bind fun cred =>
    (Prog.all_ensure ..).bind fun _ => ⟨rfl, fun r => ?_⟩
  cases r <;> trivial

theorem quiet_deletePasskey (auth : Option AuthInfo) (id : String) :
    (deletePasskey auth id).All fun op => op.quiet = true := by
  refine (quiet_passkeyUserId auth).bind fun userId => (quiet_ownPasskey userId id).bind fun cred =>
    ⟨rfl, fun r => ?_⟩
  cases r <;> trivial

/-- A passkey mutation keeps its contract. -/
theorem PasskeyMutation.sends (libs : WebauthnLibs) (m : PasskeyMutation) :
    Sends i (m.Permits i libs) (m.Ends i) (m.prog libs) [] := by
  cases m with
  | beginPasskeyRegistration auth =>
      exact sends_beginPasskeyRegistration.bind (fun _ _ _ => trivial) fun _ _ _ => trivial
  | beginPasskeyLogin =>
      exact sends_beginPasskeyLogin.bind (fun _ _ _ => trivial) fun _ _ _ => trivial
  | finishPasskeyRegistration auth id json name =>
      exact sends_finishPasskeyRegistration.bind (fun info h hends => hends info rfl)
        fun _ _ _ => trivial
  | finishPasskeyLogin id json =>
      refine sends_finishPasskeyLogin.bind (fun token h hends => ?_) fun _ _ _ => trivial
      cases token with
      | none => trivial
      | some token => exact hends token rfl
  | renamePasskey auth id name =>
      exact (passkey_quiet (quiet_renamePasskey auth id name)).bind (fun _ _ _ => trivial)
        fun _ _ _ => trivial
  | deletePasskey auth id =>
      exact (passkey_quiet (quiet_deletePasskey auth id)).bind (fun _ _ _ => trivial)
        fun _ _ _ => trivial

end

/-! ### Tokens -/

section tokens
variable (libs : SessionLibs) (i)

/-- What the verification of a token has read that accepts it. -/
inductive Verifies (token : String) : AuthInfo → List SessionEvent → Prop
  | userToken {info row h}
      (hread : ⟨i, .getUserTokenByHash (libs.sha256Hex token), .ok (some row)⟩ ∈ h) :
      Verifies token info h
  | submitToken {email instanceId row h} (hstart : (dropStart "mts_" token).isSome)
      (hread : ⟨i, .oauth (.getEphemeralState (submitTokenStateId (libs.sha256Hex token))),
        .ok (some row)⟩ ∈ h)
      (hpayload : libs.parseSubmitToken row.payload = .ok (email, instanceId)) :
      Verifies token (.requester email instanceId) h
  | apiToken {info h} (hparse : (parseApiToken token).isSome) : Verifies token info h

end tokens

section
variable {libs : SessionLibs} {h : List SessionEvent} {α : Type}

/-- The verification of a token keeps its contract. -/
theorem sends_verifyToken {token : String} :
    Sends i (fun _ _ => True)
      (fun r h => ∀ info id, r = .ok (.verified info id) → Verifies i libs token info h)
      (verifyToken libs token) [] := by
  unfold verifyToken
  split
  · refine ⟨trivial, fun r => ?_⟩
    rcases r with e | _ | row
    · exact nofun
    · exact nofun
    refine (Sends.keeps (K := fun h => ∃ row,
      ⟨i, .getUserTokenByHash (libs.sha256Hex token), .ok (some row)⟩ ∈ h) (Prog.all_true _)
      (fun _ _ => trivial) (fun _ hread => ?_) ⟨row, by simp⟩).post fun r h hread info id _ => ?_
    · obtain ⟨row, hread⟩ := hread
      exact ⟨row, List.mem_append_left _ hread⟩
    · obtain ⟨row, hread⟩ := hread
      exact .userToken hread
  split
  · rename_i hstart
    refine ⟨trivial, fun r => ?_⟩
    cases r with
    | error e => exact nofun
    | ok found =>
        refine Sends.ofOption (fun row hrow => ?_) fun _ => nofun
        obtain ⟨rfl, -⟩ := Option.filter_eq_some_iff.mp hrow
        refine ⟨trivial, fun now => ?_⟩
        refine Sends.ensure (fun _ => ?_) fun _ => nofun
        cases hpayload : libs.parseSubmitToken row.payload with
        | error e => exact nofun
        | ok payload =>
            rintro info id ⟨⟩
            exact .submitToken hstart (by simp) hpayload
  split
  · refine Sends.ofOption (fun parts hparse => ?_) fun _ => nofun
    refine (Sends.of_all (Prog.all_true _) fun _ => trivial).post fun r h _ info id _ => ?_
    exact .apiToken (by rw [hparse]; rfl)
  · exact nofun

end

/-! ### All calls -/

def flowOfCode (ev : CodeEvent) : FlowEvent := ⟨ev.caller, .code ev.op, ev.res⟩
def flowOfOAuth (ev : OAuthEvent) : FlowEvent := ⟨ev.caller, .oauth ev.op, ev.res⟩
def flowOfPasskey (ev : PasskeyEvent) : FlowEvent := ⟨ev.caller, .passkey ev.op, ev.res⟩
def flowOfSession (ev : SessionEvent) : FlowEvent := ⟨ev.caller, .session ev.op, ev.res⟩

section calls
variable (libs : FlowLibs) (i)

/-- The requests of a call. -/
inductive FlowCall.Permits : FlowCall → List FlowEvent → FlowOp → Prop
  | code {m h op} (hop : CodeMutation.Permits i libs.toCodeLibs m h op) :
      Permits (.code m) (h.map flowOfCode) (.code op)
  | oauth {call h op} (hop : OAuthCall.Permits i libs.oauth call h op) :
      Permits (.oauth call) (h.map flowOfOAuth) (.oauth op)
  | passkey {m h op} (hop : PasskeyMutation.Permits i libs.webauthn m h op) :
      Permits (.passkey m) (h.map flowOfPasskey) (.passkey op)
  | session {token h op} : Permits (.verifyToken token) h (.session op)

/-- What a call has sent that returns `reply`. -/
def FlowCall.Ends : FlowCall → FlowReply → List FlowEvent → Prop
  | .code m, reply, h =>
      ∃ h₀, h = h₀.map flowOfCode ∧ m.Ends i libs.toCodeLibs (.ok reply) h₀
  | .oauth call, .oauth reply, h =>
      ∃ h₀, h = h₀.map flowOfOAuth ∧ call.Ends i libs.oauth (.ok reply) h₀
  | .passkey m, .passkey reply, h => ∃ h₀, h = h₀.map flowOfPasskey ∧ m.Ends i (.ok reply) h₀
  | .verifyToken token, .session (.verified info _), h =>
      ∃ h₀, h = h₀.map flowOfSession ∧ Verifies i libs.toSessionLibs token info h₀
  | _, _, _ => True

end calls

section
variable (libs : FlowLibs)

theorem code_sends (m : CodeMutation) :
    Sends i (FlowCall.Permits i libs (.code m))
      (fun r h => ∃ h₀, h = h₀.map flowOfCode ∧ m.Ends i libs.toCodeLibs r h₀)
      ((m.reply libs.toCodeLibs).translate CodeOp.flow) [] := by
  have hsends : Sends i (m.Permits i libs.toCodeLibs) (m.Ends i libs.toCodeLibs)
    (m.reply libs.toCodeLibs) [] := m.sends libs.toCodeLibs
  exact Sends.lift (ι := .code) (f := CodeOp.flow) (φ := flowOfCode)
    (fun hG => ⟨hG, fun r => ⟨r, rfl, rfl⟩⟩) (hsends.mono (fun _ _ => .code) fun _ _ => id)

theorem oauth_sends (call : OAuthCall) :
    Sends i (FlowCall.Permits i libs (.oauth call))
      (fun r h => ∃ h₀, h = h₀.map flowOfOAuth ∧ call.Ends i libs.oauth r h₀)
      ((call.program libs.oauth).translate OAuthOp.flow) [] := by
  have hsends : Sends i (call.Permits i libs.oauth) (call.Ends i libs.oauth)
    (call.program libs.oauth) [] := call.sends libs.oauth
  exact Sends.lift (ι := .oauth) (f := OAuthOp.flow) (φ := flowOfOAuth)
    (fun hG => ⟨hG, fun r => ⟨r, rfl, rfl⟩⟩) (hsends.mono (fun _ _ => .oauth) fun _ _ => id)

theorem passkey_sends (m : PasskeyMutation) :
    Sends i (FlowCall.Permits i libs (.passkey m))
      (fun r h => ∃ h₀, h = h₀.map flowOfPasskey ∧ m.Ends i r h₀)
      ((m.prog libs.webauthn).translate PasskeyOp.flow) [] := by
  have hsends : Sends i (m.Permits i libs.webauthn) (m.Ends i) (m.prog libs.webauthn) [] :=
    m.sends libs.webauthn
  exact Sends.lift (ι := .passkey) (f := PasskeyOp.flow) (φ := flowOfPasskey)
    (fun hG => ⟨hG, fun r => ⟨r, rfl, rfl⟩⟩) (hsends.mono (fun _ _ => .passkey) fun _ _ => id)

theorem verifyToken_sends (token : String) :
    Sends i (FlowCall.Permits i libs (.verifyToken token))
      (fun r h => ∃ h₀, h = h₀.map flowOfSession ∧ ∀ info id, r = .ok (.verified info id) →
        Verifies i libs.toSessionLibs token info h₀)
      ((verifyToken libs.toSessionLibs token).translate SessionOp.flow) [] := by
  have hsends : Sends i (fun _ _ => True) (fun r h => ∀ info id, r = .ok (.verified info id) →
    Verifies i libs.toSessionLibs token info h) (verifyToken libs.toSessionLibs token) [] :=
    sends_verifyToken
  exact Sends.lift (ι := .session) (f := SessionOp.flow) (φ := flowOfSession)
    (fun hG => ⟨hG, fun r => ⟨r, rfl, rfl⟩⟩) (hsends.mono (fun _ _ _ => .session) fun _ _ => id)

/-- What a call has sent that is done. -/
def FlowCall.Ended (i : ℕ) (libs : FlowLibs) (call : FlowCall) (r : Except OAuthFailure FlowReply)
    (h : List FlowEvent) : Prop :=
  ∀ reply, r = .ok reply → call.Ends i libs reply h

theorem FlowCall.Ended.error {call : FlowCall} {e : OAuthFailure} {h : List FlowEvent} :
    call.Ended i libs (.error e) h := by
  intro reply hreply
  cases hreply

theorem FlowCall.Ended.ok {call : FlowCall} {reply : FlowReply} {h : List FlowEvent}
    (hends : call.Ends i libs reply h) : call.Ended i libs (.ok reply) h := by
  intro reply' hreply
  cases hreply
  exact hends

/-- A call keeps its contract. -/
theorem FlowCall.sends (call : FlowCall) :
    Sends i (call.Permits i libs) (call.Ended i libs) (call.program libs) [] := by
  cases call with
  | code m =>
      refine Sends.mapError ((code_sends libs m).post fun r h hends => ?_)
      cases r with
      | error e => exact e.elim
      | ok reply => exact .ok libs hends
  | oauth call =>
      exact (oauth_sends libs call).bind (fun _ _ hends => .ok libs hends) fun _ _ _ => .error libs
  | passkey m =>
      have hmapped : Sends i (FlowCall.Permits i libs (.passkey m))
          (fun r h => ∀ reply, r = .ok reply → ∃ h₀, h = h₀.map flowOfPasskey ∧
            m.Ends i (.ok reply) h₀)
          (((m.prog libs.webauthn).translate PasskeyOp.flow).mapError OAuthFailure.resolver) [] := by
        refine Sends.mapError ((passkey_sends libs m).post fun r h hends reply hreply => ?_)
        cases r with
        | error e => cases hreply
        | ok reply' =>
            cases hreply
            exact hends
      exact hmapped.bind (fun reply _ hends => .ok libs (hends reply rfl)) fun _ _ _ => .error libs
  | verifyToken token =>
      refine (verifyToken_sends libs token).bind (fun reply h hends => ?_) fun _ _ _ => .error libs
      obtain ⟨h₀, hmap, hends⟩ := hends
      cases reply with
      | verified info id => exact .ok libs ⟨h₀, hmap, hends info id rfl⟩
      | _ => exact .ok libs trivial

end

end Microticket

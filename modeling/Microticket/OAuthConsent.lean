import Microticket.OAuthCodes
import Mathlib.Data.Set.Function
import Mathlib.Logic.Encodable.Basic
import Mathlib.Logic.Equiv.List

/-! # Grants are bound to a consent

`approve_oauth_authorization` checks the client and the challenge and stores them in the row of a
new code; the token endpoint reads the row back and compares it with what is presented.
`oauth_consent` follows a grant through the row to the call that approved it, and says which of the requests that
presented the code before may have left the row in place: those that lacked a parameter, and those
whose read or deletion of the row failed (`incomplete_request_keeps_code` is one of the former). -/

namespace Microticket

open Interleaving Tables RustText

/-! ### What an exchange rests on -/

/-- What the history of an exchange holds that read `payload` from `row` at the time `now`. -/
structure CodeExchange (libs : OAuthLibs) (i : ℕ) (params : Params) (stateId : String)
    (row : EphemeralRow) (payload : AuthCodePayload) (now : ℕ) (h : List OAuthEvent) : Prop where
  loaded : ⟨i, .getEphemeralState stateId, .ok (some row)⟩ ∈ h
  clock : ⟨i, .clock, now⟩ ∈ h
  live : now < row.expiresAt
  parsed : libs.parsePayload row.payload = some payload
  client : params "client_id" = some payload.clientId
  redirect : params "redirect_uri" = some payload.redirectUri
  verifier : ∃ codeVerifier, params "code_verifier" = some codeVerifier ∧
    libs.sha256Base64Url codeVerifier = payload.codeChallenge

/-- The history creates a grant to the client of the payload, with these tokens. -/
def Grants (libs : OAuthLibs) (i : ℕ) (payload : AuthCodePayload) (resource access refresh : String)
    (h : List OAuthEvent) : Prop :=
  ∃ grant, ⟨i, .createOAuthGrant grant, .ok ()⟩ ∈ h ∧ grant.userId = payload.userId ∧
    grant.clientId = payload.clientId ∧ grant.resource = resource ∧
    grant.accessTokenHash = libs.sha256Hex access ∧ grant.refreshTokenHash = libs.sha256Hex refresh

/-- An exchange that gave these tokens. -/
def ExchangeEnd (libs : OAuthLibs) (i : ℕ) (host : Option String) (params : Params)
    (stateId : String) (r : Except OAuthFailure OAuthReply) (h : List OAuthEvent) : Prop :=
  ∀ access refresh scope, r = .ok (.tokens access refresh scope) → ∃ row payload now,
    CodeExchange libs i params stateId row payload now h ∧
    Grants libs i payload (payload.resource.getD (defaultResource libs host)) access refresh h

section exchange
variable {libs : OAuthLibs} {i : ℕ} {host : Option String} {params : Params} {stateId : String}
variable {row : EphemeralRow} {payload : AuthCodePayload} {now : ℕ} {h : List OAuthEvent}

theorem CodeExchange.more {ev : OAuthEvent}
    (hx : CodeExchange libs i params stateId row payload now h) :
    CodeExchange libs i params stateId row payload now (h ++ [ev]) :=
  { hx with loaded := mem_more hx.loaded, clock := mem_more hx.clock }

theorem verifyPkceS256_hash {verifier challenge : String}
    (h : verifyPkceS256 libs verifier challenge) : libs.sha256Base64Url verifier = challenge :=
  asBytes_inj (eq_of_constantTimeEq (Bool.and_eq_true_iff.mp h).2)

/-- The checks of the exchange, and the grant that it creates. -/
theorem exchangeCode_end {clientId redirectUri codeVerifier : String}
    (hclient : params "client_id" = some clientId)
    (hredirect : params "redirect_uri" = some redirectUri)
    (hverifier : params "code_verifier" = some codeVerifier)
    (hloaded : ⟨i, .getEphemeralState stateId, .ok (some row)⟩ ∈ h) (hclock : ⟨i, .clock, now⟩ ∈ h)
    (hlive : now < row.expiresAt) (hparsed : libs.parsePayload row.payload = some payload) :
    Sends i (fun _ _ => True) (ExchangeEnd libs i host params stateId)
      (exchangeCode libs host params clientId redirectUri codeVerifier payload) h := by
  unfold exchangeCode
  refine Sends.ensure (fun _ => ?_) fun _ => nofun
  refine Sends.ensure (fun hsame => ?_) fun _ => nofun
  refine Sends.ensure (fun huri => ?_) fun _ => nofun
  refine Sends.ensure (fun hpkce => ?_) fun _ => nofun
  refine Sends.ensure (fun _ => ?_) fun _ => nofun
  have hx : CodeExchange libs i params stateId row payload now h :=
    ⟨hloaded, hclock, hlive, hparsed, hsame ▸ hclient, huri ▸ hredirect, codeVerifier, hverifier,
      verifyPkceS256_hash hpkce⟩
  refine ⟨trivial, fun minted => ⟨trivial, fun id => ⟨trivial, fun access => ⟨trivial,
    fun refresh => ⟨trivial, fun r => ?_⟩⟩⟩⟩⟩
  cases r with
  | error e => exact nofun
  | ok =>
      intro access' refresh' scope' heq
      cases heq
      exact ⟨row, payload, now, hx.more.more.more.more.more, _, mem_last, rfl, rfl, rfl, rfl, rfl⟩

/-- What an exchange rests on that gives tokens. -/
theorem tokenAuthorizationCode_end {code : String} (hcode : params "code" = some code) :
    Sends i (fun _ _ => True)
      (ExchangeEnd libs i host params (oauthCodeStateId (libs.sha256Hex code)))
      (tokenAuthorizationCode libs host params) [] := by
  unfold tokenAuthorizationCode
  rw [hcode]
  rcases hclient : params "client_id" with _ | clientId
  · exact nofun
  rcases hredirect : params "redirect_uri" with _ | redirectUri
  · exact nofun
  rcases hverifier : params "code_verifier" with _ | codeVerifier
  · exact nofun
  refine ⟨trivial, fun r => ?_⟩
  rcases r with e | _ | row
  · exact nofun
  · exact nofun
  refine ⟨trivial, fun r => ?_⟩
  rcases r with e | ⟨⟩
  · exact nofun
  refine Sends.ofOption (fun state hkind => ?_) fun _ => nofun
  have hstate : state = row := (Option.some.inj (Option.filter_eq_some_iff.mp hkind).1).symm
  subst hstate
  refine ⟨trivial, fun now => ?_⟩
  refine Sends.ensure (fun hlive => ?_) fun _ => nofun
  refine Sends.ofOption (fun payload hparsed => ?_) fun _ => nofun
  exact exchangeCode_end hclient hredirect hverifier (mem_more (mem_more List.mem_cons_self))
    mem_last hlive hparsed

end exchange

/-! ### What a request with a code does to its row -/

/-- The parameters that an exchange needs besides the code. -/
def Complete (params : Params) : Prop :=
  (params "client_id").isSome ∧ (params "redirect_uri").isSome ∧ (params "code_verifier").isSome

/-- The read of the row failed, or it found none, or the row was deleted, or that failed. -/
inductive Burns (i : ℕ) (stateId : String) (h : List OAuthEvent) : Prop
  | unread {e : DbError} (hev : ⟨i, .getEphemeralState stateId, .error e⟩ ∈ h)
  | missing (hev : ⟨i, .getEphemeralState stateId, .ok none⟩ ∈ h)
  | deleted (hev : ⟨i, .deleteEphemeralState stateId, .ok ()⟩ ∈ h)
  | undeleted {e : DbError} (hev : ⟨i, .deleteEphemeralState stateId, .error e⟩ ∈ h)

theorem Burns.more {i : ℕ} {stateId : String} {h : List OAuthEvent} {ev : OAuthEvent}
    (hb : Burns i stateId h) : Burns i stateId (h ++ [ev]) := by
  cases hb with
  | unread hev => exact .unread (mem_more hev)
  | missing hev => exact .missing (mem_more hev)
  | deleted hev => exact .deleted (mem_more hev)
  | undeleted hev => exact .undeleted (mem_more hev)

/-- A complete request deletes the row before it checks anything else. -/
theorem tokenAuthorizationCode_burns {libs : OAuthLibs} {i : ℕ} {host : Option String}
    {params : Params} {code : String} (hcode : params "code" = some code)
    (hcomplete : Complete params) :
    Sends i (fun _ _ => True) (fun _ h => Burns i (oauthCodeStateId (libs.sha256Hex code)) h)
      (tokenAuthorizationCode libs host params) [] := by
  obtain ⟨clientId, hclient⟩ := Option.isSome_iff_exists.mp hcomplete.1
  obtain ⟨redirectUri, hredirect⟩ := Option.isSome_iff_exists.mp hcomplete.2.1
  obtain ⟨codeVerifier, hverifier⟩ := Option.isSome_iff_exists.mp hcomplete.2.2
  unfold tokenAuthorizationCode
  simp only [hcode, hclient, hredirect, hverifier]
  refine ⟨trivial, fun r => ?_⟩
  rcases r with e | _ | row
  · exact .unread List.mem_cons_self
  · exact .missing List.mem_cons_self
  refine ⟨trivial, fun r => ?_⟩
  rcases r with e | ⟨⟩
  · exact .undeleted mem_last
  -- the row is gone, whatever the checks say
  exact Sends.keeps (K := Burns i _) (Prog.all_true _) (fun _ _ => trivial) (fun _ hb => hb.more)
    (.deleted mem_last)

/-! ### Approvals -/

/-- What the call that stores the row of a code has checked, read and drawn. -/
structure Approval (libs : OAuthLibs) (i : ℕ) (payload : AuthCodePayload) (time : ℕ) (code : String)
    (h : List OAuthEvent) : Prop where
  registered : ∃ registration, knownClient libs payload.clientId = some registration ∧
    payload.redirectUri ∈ registration.redirectUris
  challenge : isS256Challenge payload.codeChallenge
  clock : ⟨i, .clock, time⟩ ∈ h
  drew : Drew i h code

/-- The request that stores the row of an approved code. -/
@[reducible] def OAuthOp.storesConsent (libs : OAuthLibs) (payload : AuthCodePayload) (time : ℕ)
    (code : String) : OAuthOp :=
  .putEphemeralState (oauthCodeStateId (libs.sha256Hex code)) oauthCodeStateKind
    (libs.serializePayload payload) (time + oauthCodeTtlS)

section approvals
variable {libs : OAuthLibs} {i : ℕ} {h h' : List OAuthEvent} {payload : AuthCodePayload} {time : ℕ}
variable {code : String}

theorem Approval.mono (ha : Approval libs i payload time code h) (hsub : ∀ ev ∈ h, ev ∈ h') :
    Approval libs i payload time code h' :=
  { ha with clock := hsub _ ha.clock, drew := hsub _ ha.drew }

theorem checkAuthorization_done {registration : ClientRegistration}
    {redirectUri codeChallenge codeChallengeMethod : String} {scope : Option String} {a : Unit}
    (h : checkAuthorization libs registration redirectUri codeChallenge codeChallengeMethod scope =
      .done a) :
    redirectUri ∈ registration.redirectUris ∧ codeChallengeMethod = "S256" ∧
      isS256Challenge codeChallenge := by
  unfold checkAuthorization at h
  by_cases hregistered : redirectUri ∈ registration.redirectUris
  · rw [Prog.ensure_pos hregistered, Prog.done_bind] at h
    by_cases hmethod : codeChallengeMethod = "S256"
    · rw [Prog.ensure_pos hmethod, Prog.done_bind] at h
      by_cases hchallenge : isS256Challenge codeChallenge
      · exact ⟨hregistered, hmethod, hchallenge⟩
      · rw [Prog.ensure_neg hchallenge] at h
        cases h
    · rw [Prog.ensure_neg hmethod] at h
      cases h
  · rw [Prog.ensure_neg hregistered] at h
    cases h

/-- The row that the approval of a user stores. -/
theorem approval_approveOAuthAuthorization (auth : Option AuthInfo)
    (clientId redirectUri codeChallenge codeChallengeMethod : String)
    (scope resource state : Option String) :
    Sends i (fun h op => op.storesCode → ∃ userId memberships isSuperuser clientName time code,
        auth = some (.user userId memberships isSuperuser) ∧ codeChallengeMethod = "S256" ∧
        Approval libs i ⟨userId, clientId, clientName, redirectUri, codeChallenge, scope, resource⟩
          time code h ∧
        op = .storesConsent libs
          ⟨userId, clientId, clientName, redirectUri, codeChallenge, scope, resource⟩ time code)
      (fun _ _ => True)
      (approveOAuthAuthorization libs auth clientId redirectUri codeChallenge codeChallengeMethod
        scope resource state) [] := by
  unfold approveOAuthAuthorization
  rcases auth with _ | ⟨userId, memberships, isSuperuser⟩ | _ | _
  · trivial
  · refine Sends.ofOption (fun registration hknown => ?_) fun _ => trivial
    generalize hchecks : checkAuthorization libs registration redirectUri codeChallenge
      codeChallengeMethod scope = checks
    cases checks with
    | done =>
        obtain ⟨hregistered, hmethod, hchallenge⟩ := checkAuthorization_done hchecks
        refine ⟨nofun, fun time => ⟨nofun, fun code => ⟨fun _ => ?_, fun r => ?_⟩⟩⟩
        · exact ⟨userId, memberships, isSuperuser, registration.clientName, time, code, rfl, hmethod,
            ⟨⟨registration, hknown, hregistered⟩, hchallenge, mem_more mem_last, mem_last⟩, rfl⟩
        · cases r with
          | error e => trivial
          | ok => exact Sends.ofOption (fun _ _ => trivial) fun _ => trivial
    | fail e => trivial
    | call op k =>
        have hsilent : (checkAuthorization libs registration redirectUri codeChallenge
            codeChallengeMethod scope).All fun _ => False := all_checkAuthorization ..
        rw [hchecks] at hsilent
        exact hsilent.1.elim
  · trivial
  · trivial

/-- The other calls leave the rows of codes alone. -/
theorem quiet_touchAccessTime (userId : String) (user : AccountUser) (now : ℕ) :
    (touchAccessTime userId user now).All fun op => op.quiet = true := by
  unfold touchAccessTime
  split
  · refine ⟨rfl, fun r => ?_⟩
    rcases r with e | ⟨⟩
    · cases e <;> trivial
    · trivial
  · trivial

theorem quiet_fetchUpdateUserAuthInfo (userId : String) :
    (fetchUpdateUserAuthInfo userId).All fun op => op.quiet = true := by
  refine ⟨rfl, fun r => ?_⟩
  rcases r with e | _ | user
  · trivial
  · trivial
  show (if user.enabled = true then _ else _ : OAuthProg (Except AuthError AuthInfo)).All _
  split
  · refine ⟨rfl, fun now => (quiet_touchAccessTime userId user now).bind fun answer => ?_⟩
    rcases answer with e | ⟨⟩
    · trivial
    · refine ⟨rfl, fun r => ?_⟩
      cases r <;> trivial
  · trivial

theorem quiet_exchangeCode (host : Option String) (params : Params)
    (clientId redirectUri codeVerifier : String) (payload : AuthCodePayload) :
    (exchangeCode libs host params clientId redirectUri codeVerifier payload).All
      fun op => op.quiet = true := by
  unfold exchangeCode
  refine (Prog.all_ensure ..).bind fun _ => (Prog.all_ensure ..).bind fun _ =>
    (Prog.all_ensure ..).bind fun _ => (Prog.all_ensure ..).bind fun _ =>
    (Prog.all_ensure ..).bind fun _ => ?_
  refine ⟨rfl, fun now => ⟨rfl, fun id => ⟨rfl, fun access => ⟨rfl, fun refresh => ⟨rfl,
    fun r => ?_⟩⟩⟩⟩⟩
  cases r <;> trivial

theorem unsent_tokenAuthorizationCode (host : Option String) (params : Params) :
    (tokenAuthorizationCode libs host params).All fun op => op.storesCode = false := by
  unfold tokenAuthorizationCode
  split
  · refine ⟨rfl, fun r => ?_⟩
    rcases r with e | _ | row
    · trivial
    · trivial
    refine ⟨rfl, fun r => ?_⟩
    rcases r with e | ⟨⟩
    · trivial
    refine (Prog.all_ofOption ..).bind fun state => ⟨rfl, fun now => ?_⟩
    refine (Prog.all_ensure ..).bind fun _ => (Prog.all_ofOption ..).bind fun payload => ?_
    exact (quiet_exchangeCode ..).mono fun _ => OAuthOp.not_storesCode_of_quiet
  · trivial

theorem quiet_redeemRefreshToken (params : Params) (clientId : String) (grant : OAuthGrant) :
    (redeemRefreshToken libs params clientId grant).All fun op => op.quiet = true := by
  unfold redeemRefreshToken
  refine ⟨rfl, fun now => ?_⟩
  refine (Prog.all_ensure ..).bind fun _ => (Prog.all_ensure ..).bind fun _ =>
    (Prog.all_ensure ..).bind fun _ => (quiet_fetchUpdateUserAuthInfo _).bind fun user => ?_
  rcases user with (message | message) | info
  · trivial
  · trivial
  refine ⟨rfl, fun access => ⟨rfl, fun refresh => ⟨rfl, fun r => ?_⟩⟩⟩
  rcases r with e | ⟨⟩
  · cases e <;> trivial
  · trivial

theorem quiet_tokenRefresh (params : Params) :
    (tokenRefresh libs params).All fun op => op.quiet = true := by
  unfold tokenRefresh
  split
  · split
    · trivial
    · refine ⟨rfl, fun r => ?_⟩
      rcases r with e | _ | grant
      · trivial
      · trivial
      show (if hashMatches libs _ grant.refreshTokenHash = true then _ else _ :
        OAuthProg OAuthReply).All _
      split
      · exact quiet_redeemRefreshToken ..
      · refine ⟨rfl, fun r => ?_⟩
        cases r <;> trivial
  · trivial

theorem quiet_verifyAccessToken (presented expectedResource : String) :
    (verifyAccessToken libs presented expectedResource).All fun op => op.quiet = true := by
  unfold verifyAccessToken
  split
  · trivial
  · refine ⟨rfl, fun r => ?_⟩
    rcases r with e | _ | grant
    · trivial
    · trivial
    refine (Prog.all_ensure ..).bind fun _ => ⟨rfl, fun now => ?_⟩
    refine (Prog.all_ensure ..).bind fun _ => (Prog.all_ensure ..).bind fun _ =>
      (Prog.all_ensure ..).bind fun _ => ?_
    refine ((plain_touchLastUsed grant now).mono fun _ => OAuthOp.quiet_of_plain).bind fun _ => ?_
    exact (quiet_fetchUpdateUserAuthInfo _).bind fun info =>
      Prog.All.ofExcept_bind fun _ _ => trivial

theorem quiet_revokeOAuthGrant (auth : Option AuthInfo) (id : String) :
    (revokeOAuthGrant auth id).All fun op => op.quiet = true := by
  unfold revokeOAuthGrant
  refine (all_requireOAuthUser auth).bind fun userId => ⟨rfl, fun r => ?_⟩
  rcases r with e | _ | grant
  · trivial
  · trivial
  refine (Prog.all_ensure ..).bind fun _ => ⟨rfl, fun r => ?_⟩
  cases r <;> trivial

/-- The row of a code is stored by a call that approves it. -/
theorem storesCode_approves (call : OAuthCall) (i : ℕ) :
    Sends i (fun h op => op.storesCode → ∃ payload memberships isSuperuser state time code,
        call = .approveOAuthAuthorization (some (.user payload.userId memberships isSuperuser))
          payload.clientId payload.redirectUri payload.codeChallenge "S256" payload.scope
          payload.resource state ∧
        Approval libs i payload time code h ∧ op = .storesConsent libs payload time code)
      (fun _ _ => True) (call.program libs) [] := by
  have hother : ∀ {p : OAuthProg OAuthReply} {P : List OAuthEvent → OAuthOp → Prop},
      p.All (fun op => op.storesCode = false) →
      Sends i (fun h op => op.storesCode → P h op) (fun _ _ => True) p [] :=
    fun hp => Sends.of_all hp fun hop hstores => by rw [hop] at hstores; cases hstores
  cases call with
  | token host body =>
      refine hother ?_
      show (token libs host body).All _
      unfold token
      split
      · exact unsent_tokenAuthorizationCode ..
      · exact (quiet_tokenRefresh _).mono fun _ => OAuthOp.not_storesCode_of_quiet
      · trivial
      · trivial
  | verifyAccessToken presented expectedResource =>
      exact hother ((quiet_verifyAccessToken ..).mono fun _ => OAuthOp.not_storesCode_of_quiet)
  | revokeOAuthGrant auth id =>
      exact hother ((quiet_revokeOAuthGrant ..).mono fun _ => OAuthOp.not_storesCode_of_quiet)
  | expire table id => exact hother ⟨rfl, fun _ => trivial⟩
  | approveOAuthAuthorization auth clientId redirectUri codeChallenge codeChallengeMethod scope
      resource state =>
      refine (approval_approveOAuthAuthorization auth clientId redirectUri codeChallenge
        codeChallengeMethod scope resource state).mono (fun h op happroves hstores => ?_) fun _ _ => id
      obtain ⟨userId, memberships, isSuperuser, clientName, time, code, rfl, rfl, happroval, hop⟩ :=
        happroves hstores
      exact ⟨_, memberships, isSuperuser, state, time, code, rfl, happroval, hop⟩

end approvals

/-! ### Rows and times -/

section traces
variable {readOnly consistent : Bool} {libs : OAuthLibs} {i : ℕ} {stateId : String}
variable {t : Trace (oauthService readOnly consistent)} {e : OAuthEnv} {op : OAuthOp}
variable {c c' : Pool (oauthService readOnly consistent) OAuthFailure OAuthReply}

/-- Every row of every version is as some request stored it. -/
def RowsPut (t : Trace (oauthService readOnly consistent)) : Prop :=
  ∀ d stateId row, (oauthDb t).Committed d → d.states.lookup stateId = some row →
    ∃ j r, ⟨j, .putEphemeralState stateId row.kind row.payload row.expiresAt, r⟩ ∈ t.events

theorem RowsPut.serve (h : RowsPut t) : RowsPut (t.serve i e op) := by
  intro d stateId row hd hrow
  have hold : ∀ {d row}, (oauthDb t).Committed d → d.states.lookup stateId = some row → ∃ j r,
      ⟨j, .putEphemeralState stateId row.kind row.payload row.expiresAt, r⟩ ∈
        (t.serve i e op).events := by
    intro d row hd hrow
    obtain ⟨j, r, hput⟩ := h d stateId row hd hrow
    exact ⟨j, r, mem_serve hput⟩
  rcases oauthDb_serve t i e op with hdb | ⟨d', hchange, hdb⟩
  · rw [hdb] at hd
    exact hold hd hrow
  rw [hdb] at hd
  rcases List.mem_cons.mp hd with rfl | hd
  · cases OAuthDb.states_move hchange with
    | same heq =>
        rw [heq] at hrow
        exact hold (Replica.committed_now _) hrow
    | delete heq =>
        exact hold (Replica.committed_now _) (Table.lookup_of_erase _ _ _ _ (heq ▸ hrow))
    | put hput heq =>
        subst hput
        rw [heq, Table.lookup_insert_if] at hrow
        split at hrow
        · rename_i hid
          subst hid
          cases hrow
          exact ⟨i, _, mem_last⟩
        · exact hold (Replica.committed_now _) hrow
  · exact hold hd hrow

theorem OAuthReachable.rows_put (h : OAuthReachable libs c) : RowsPut c.trace := by
  refine OAuthReachable.keeps (P := fun _ => True) (K := RowsPut) (.refl) h
    (fun _ _ _ _ hrows => hrows.serve) (fun _ _ => trivial) ?_
  intro d stateId row hd hrow
  obtain rfl := List.mem_singleton.mp hd
  cases hrow

/-- What was read of the clock is past. -/
theorem OAuthReachable.clock_past (h : OAuthReachable libs c) {now : ℕ}
    (hread : ⟨i, .clock, now⟩ ∈ c.trace.events) : now ≤ clockOf c.trace := by
  refine OAuthReachable.keeps (P := fun _ => True)
    (K := fun t => ∀ i now, ⟨i, .clock, now⟩ ∈ t.events → now ≤ clockOf t) (.refl) h ?_
    (fun _ _ => trivial) (fun _ _ hev => by cases hev) i now hread
  intro t i e op _ he _ _ hpast j now hev
  have hclock : clockOf (t.serve i e op) = e.now := OAuthStore.serve_clock t.state e readOnly op
  rw [hclock]
  rcases List.mem_append.mp hev with hev | hev
  · have hle := hpast j now hev
    have hnow : clockOf t ≤ e.now := he.1
    omega
  · cases List.mem_singleton.mp hev
    exact le_refl _

/-- A program of a reachable pool with a request is one of the calls. -/
theorem OAuthReachable.plays (h : OAuthReachable libs c) {ev : OAuthEvent}
    (hev : ev ∈ c.trace.events) : ∃ call : OAuthCall, c.Plays ev.caller (call.program libs) := by
  have hcaller := h.started.callers ev hev
  obtain ⟨p, hp⟩ : ∃ p, c.threads[ev.caller]? = some p := ⟨_, List.getElem?_eq_getElem hcaller⟩
  obtain ⟨p₀, ⟨call, rfl⟩, hpath⟩ := h.started.path hp
  exact ⟨call, p, hp, hpath⟩

/-- The row of a code comes from the call of a user who approved what it says. -/
theorem OAuthReachable.approved (h : OAuthReachable libs c) {j : ℕ} {kind payload : String}
    {expiresAt : ℕ} {r : Except DbError Unit}
    (hput : ⟨j, .putEphemeralState stateId kind payload expiresAt, r⟩ ∈ c.trace.events) :
    ∃ approved memberships isSuperuser state time code,
      c.Plays j (approveOAuthAuthorization libs (some (.user approved.userId memberships isSuperuser))
        approved.clientId approved.redirectUri approved.codeChallenge "S256" approved.scope
        approved.resource state) ∧
      Approval libs j approved time code c.trace.events ∧
      OAuthOp.putEphemeralState stateId kind payload expiresAt =
        .storesConsent libs approved time code := by
  obtain ⟨call, hplays⟩ := h.plays hput
  have hmem := mem_ownEvents.mpr ⟨hput, rfl⟩
  obtain ⟨p, -, hpath⟩ := id hplays
  obtain ⟨before, after, hsplit⟩ := List.append_of_mem hmem
  rw [hsplit] at hpath
  obtain ⟨approved, memberships, isSuperuser, state, time, code, rfl, happroval, hop⟩ :=
    (storesCode_approves call j).request hpath rfl
  refine ⟨approved, memberships, isSuperuser, state, time, code, hplays,
    happroval.mono fun ev hev => ?_, hop⟩
  have hown : ev ∈ ownEvents j c.trace.events := by
    rw [hsplit]
    exact List.mem_append_left _ hev
  exact (mem_ownEvents.mp hown).1

theorem OAuthReachable.code_stored (h : OAuthReachable libs c) {j : ℕ} {kind payload : String}
    {expiresAt : ℕ} {r : Except DbError Unit}
    (hput : ⟨j, .putEphemeralState stateId kind payload expiresAt, r⟩ ∈ c.trace.events) :
    CodeStored libs c.trace.events stateId := by
  obtain ⟨approved, -, -, -, time, code, -, happroval, hop⟩ := h.approved hput
  injection hop with hid
  exact ⟨j, code, happroval.drew, hid, _, hput, rfl, rfl⟩

end traces

/-! ### The consent behind a grant -/

section claim
variable {readOnly consistent : Bool} {libs : OAuthLibs} {i j k : ℕ} {code : String}
variable {host : Option String} {params : Params} {payload : AuthCodePayload} {time : ℕ}

section pools
variable (libs) (c : Pool (oauthService readOnly consistent) OAuthFailure OAuthReply) (i j : ℕ)

/-- Program `i` is an authorization-code request with the parameters `params`. -/
def RequestsGrant (host : Option String) (params : Params) : Prop :=
  (∃ body, c.Plays i (token libs host body) ∧ bodyParams libs body = params) ∧
    params "grant_type" = some "authorization_code"

/-- Program `i` is a request that presented the code and has ended. -/
def Presented (params : Params) (code : String) : Prop :=
  (∃ host, RequestsGrant libs c i host params) ∧ params "code" = some code ∧
    ((∃ reply, c.threads[i]? = some (.done reply)) ∨ ∃ e, c.threads[i]? = some (.fail e))

/-- Program `j` is the signed-in user's approval of `payload`, which read the time `time` and drew
the code. -/
structure Consented (payload : AuthCodePayload) (time : ℕ) (code : String) : Prop
    extends Approval libs j payload time code c.trace.events where
  approves : ∃ memberships isSuperuser state,
    c.Plays j (approveOAuthAuthorization libs (some (.user payload.userId memberships isSuperuser))
      payload.clientId payload.redirectUri payload.codeChallenge "S256" payload.scope
      payload.resource state)

end pools

theorem RequestsGrant.exchanges {c : Pool (oauthService readOnly consistent) OAuthFailure OAuthReply}
    (h : RequestsGrant libs c i host params) :
    c.Plays i (tokenAuthorizationCode libs host params) := by
  obtain ⟨⟨body, hplays, rfl⟩, hgrant⟩ := h
  unfold token at hplays
  rw [hgrant] at hplays
  exact hplays

/-- What the code of a complete request that has ended came to. -/
theorem Presented.burns {c : Pool (oauthService readOnly consistent) OAuthFailure OAuthReply}
    (h : Presented libs c k params code) (hcomplete : Complete params) :
    Burns k (oauthCodeStateId (libs.sha256Hex code)) (ownEvents k c.trace.events) := by
  obtain ⟨⟨host, hrequest⟩, hcode, hended⟩ := h
  have hburns : Sends k (fun _ _ => True)
      (fun _ h => Burns k (oauthCodeStateId (libs.sha256Hex code)) h)
      (tokenAuthorizationCode libs host params) [] := tokenAuthorizationCode_burns hcode hcomplete
  rcases hended with ⟨reply, hdone⟩ | ⟨e, hfail⟩
  · exact hrequest.exchanges.done hdone hburns
  · exact hrequest.exchanges.fail hfail hburns

/-- Once the row of a code is gone no request finds it. -/
theorem gone_not_loaded {c c₁ c' : Pool (oauthService readOnly true) OAuthFailure OAuthReply}
    {stateId : String} {row : EphemeralRow} (h : OAuthReachable libs c)
    (hrun : Run (oauthService readOnly true) (IsOAuthCall libs) c c₁)
    (hrun' : Run (oauthService readOnly true) (IsOAuthCall libs) c₁ c')
    (hcoll : NoCollision libs c'.trace.events fun code => code)
    (hstored : CodeStored libs c.trace.events stateId)
    (hgone : (oauthDb c.trace).now.states.lookup stateId = none) :
    ⟨i, .getEphemeralState stateId, .ok (some row)⟩ ∉ c₁.since c' := by
  intro hload
  obtain ⟨c₂, c₃, hrun₂, hserves, hrun₃⟩ := Run.split hrun' hload
  have hcoll₂ := hcoll.mono fun _ hev => (Run.grows (.head hserves.1 hrun₃)).subset hev
  have hnone := h.code_gone (hrun.trans hrun₂) hcoll₂ hstored hgone
  rw [load_sees hserves] at hnone
  cases hnone

/-- A complete request that presented a code and has ended left the row of the code in place only if
one of its two requests failed, or if the code was not stored yet. -/
theorem Presented.kept {c c' : Pool (oauthService readOnly true) OAuthFailure OAuthReply}
    {row : EphemeralRow} {r : Except DbError Unit} (hpresented : Presented libs c k params code)
    (hcomplete : Complete params) (h : OAuthReachable libs c)
    (hrun : Run (oauthService readOnly true) (IsOAuthCall libs) c c')
    (hcoll : NoCollision libs c'.trace.events fun code => code)
    (hput : ⟨j, .storesConsent libs payload time code, r⟩ ∈ c'.trace.events)
    (hload : ⟨i, .getEphemeralState (oauthCodeStateId (libs.sha256Hex code)), .ok (some row)⟩ ∈
      c.since c') :
    (∃ e, ⟨k, .getEphemeralState (oauthCodeStateId (libs.sha256Hex code)), .error e⟩ ∈
      c.trace.events) ∨
    (∃ e, ⟨k, .deleteEphemeralState (oauthCodeStateId (libs.sha256Hex code)), .error e⟩ ∈
      c.trace.events) ∨
    [⟨k, .getEphemeralState (oauthCodeStateId (libs.sha256Hex code)), .ok none⟩,
      ⟨j, .storesConsent libs payload time code, r⟩].Sublist c'.trace.events := by
  cases hpresented.burns hcomplete with
  | unread hev => exact .inl ⟨_, (mem_ownEvents.mp hev).1⟩
  | undeleted hev => exact .inr (.inl ⟨_, (mem_ownEvents.mp hev).1⟩)
  | deleted hev =>
      obtain ⟨c₁, c₂, hrun₁, hserves, hrun₂⟩ := Run.split h (mem_ownEvents.mp hev).1
      -- the deletion follows a load, which saw the row
      obtain ⟨⟨host, ⟨body, hplays, -⟩, -⟩, -⟩ := hpresented
      obtain ⟨row', hown⟩ := hserves.permitted hrun₂ hplays (ordered_token host body)
      have hload' := (mem_ownEvents.mp (hown ▸ List.mem_singleton_self _)).1
      obtain ⟨c₃, c₄, hrun₃, hserves₃, hrun₄⟩ := Run.split hrun₁ hload'
      have hrows := OAuthReachable.code_rows hrun₃ _ _ _ (Replica.committed_now _) (load_sees hserves₃)
      have hstored := hrows.mono
        fun _ hev => (Run.grows (.head hserves₃.1 (hrun₄.tail hserves.1))).subset hev
      exact absurd hload (gone_not_loaded (OAuthReachable.trans hrun₁ (.single hserves.1)) hrun₂ hrun
        hcoll hstored (delete_gone hserves))
  | missing hev =>
      obtain ⟨c₁, c₂, hrun₁, hserves, hrun₂⟩ := Run.split h (mem_ownEvents.mp hev).1
      obtain ⟨rest, hrest⟩ := Run.grows (hrun₂.trans hrun)
      rw [hserves.2, List.append_assoc] at hrest
      rw [← hrest, List.mem_append] at hput
      rcases hput with hput | hput
      · -- the code was stored, so its row was gone when it was presented
        have hstored := OAuthReachable.code_stored hrun₁ hput
        refine absurd hload (gone_not_loaded hrun₁ ((Relation.ReflTransGen.single hserves.1).trans hrun₂)
          hrun hcoll hstored ?_)
        obtain ⟨e, -, -, hallowed, -, hres⟩ := hserves.trace
        have hseen := OAuthStore.read_ok hres.symm
        rw [hallowed.2.2.2 rfl] at hseen
        exact hseen.symm
      · refine .inr (.inr ?_)
        have hput' := (List.mem_cons.mp hput).resolve_left fun heq => by cases heq
        rw [← hrest]
        exact ((List.singleton_sublist.mpr hput').cons_cons _).trans (List.sublist_append_right _ _)

/-- Tokens that an authorization code gives come from the consent of a signed-in user to this client,
this redirect URI, this challenge and this resource, less than 300 seconds before.  If no read is
stale, a complete request that presented the code before and has ended was one whose read or deletion
of the row failed, or it came before the code existed. -/
theorem oauth_consent {c : Pool (oauthService readOnly consistent) OAuthFailure OAuthReply}
    (h : OAuthReachable libs c)
    (hround : ∀ payload, libs.parsePayload (libs.serializePayload payload) = some payload)
    (hinj : Set.InjOn libs.sha256Hex
      {s | (∃ j, Drew j c.trace.events s) ∨ params "code" = some s})
    (hrequest : RequestsGrant libs c i host params) {access refresh scope : String}
    (hdone : c.threads[i]? = some (.done (.tokens access refresh scope))) :
    ∃ code j payload now time row r, params "code" = some code ∧
      Consented libs c j payload time code ∧
      [⟨j, .storesConsent libs payload time code, r⟩,
        ⟨i, .getEphemeralState (oauthCodeStateId (libs.sha256Hex code)), .ok (some row)⟩].Sublist
          c.trace.events ∧
      CodeExchange libs i params (oauthCodeStateId (libs.sha256Hex code)) row payload now
        (ownEvents i c.trace.events) ∧
      time ≤ now ∧ now < time + 300 ∧
      Grants libs i payload (payload.resource.getD (defaultResource libs host)) access refresh
        (ownEvents i c.trace.events) ∧
      (consistent → ∀ k params' c₁, OAuthReachable libs c₁ →
        Run (oauthService readOnly consistent) (IsOAuthCall libs) c₁ c →
        ownEvents i c₁.trace.events = [] → Presented libs c₁ k params' code → Complete params' →
        (∃ e, ⟨k, .getEphemeralState (oauthCodeStateId (libs.sha256Hex code)), .error e⟩ ∈
          c₁.trace.events) ∨
        (∃ e, ⟨k, .deleteEphemeralState (oauthCodeStateId (libs.sha256Hex code)), .error e⟩ ∈
          c₁.trace.events) ∨
        [⟨k, .getEphemeralState (oauthCodeStateId (libs.sha256Hex code)), .ok none⟩,
          ⟨j, .storesConsent libs payload time code, r⟩].Sublist c.trace.events) := by
  have hplays := hrequest.exchanges
  rcases hcode : params "code" with _ | code
  · -- without a code there are no tokens
    unfold tokenAuthorizationCode at hplays
    simp only [hcode] at hplays
    have hfails := hplays.done hdone (G := fun _ _ => True) (Q := fun r _ => ∀ reply, r ≠ .ok reply)
      nofun
    exact absurd rfl (hfails _)
  obtain ⟨row, payload, now, hx, hgrants⟩ :=
    hplays.done hdone (tokenAuthorizationCode_end hcode) access refresh scope rfl
  -- the row was stored by an approval, before it was loaded
  obtain ⟨c₁, c₂, hrun₁, hserves, hrun₂⟩ := Run.split h (mem_ownEvents.mp hx.loaded).1
  obtain ⟨e, -, -, -, -, hres⟩ := hserves.trace
  have hseen := OAuthStore.read_ok hres.symm
  obtain ⟨j, r, hput⟩ := OAuthReachable.rows_put hrun₁ _ _ _ (Replica.committed_seen _ _) hseen.symm
  obtain ⟨approved, memberships, isSuperuser, state, time, code', happroves, happroval, hop⟩ :=
    OAuthReachable.approved hrun₁ hput
  have hrun : Run (oauthService readOnly consistent) (IsOAuthCall libs) c₁ c := .head hserves.1 hrun₂
  have hgrows : ∀ ev ∈ c₁.trace.events, ev ∈ c.trace.events := fun _ hev => hrun.grows.subset hev
  injection hop with hid hkind htext hexpires
  have hsame : code' = code :=
    hinj (.inl ⟨j, hgrows _ happroval.drew⟩) (.inr hcode) (oauthCodeStateId_inj hid).symm
  subst hsame
  have hpayload : payload = approved := by
    have hparsed := hx.parsed
    rw [htext, hround] at hparsed
    exact (Option.some.inj hparsed).symm
  subst hpayload
  rw [hkind, htext, hexpires] at hput
  -- and the exchange read the clock after that
  have hempty : ownEvents i c₁.trace.events = [] :=
    hserves.permitted hrun₂ hplays (ordered_anyAuthorizationCode host params)
  have hpast := OAuthReachable.clock_past hrun₁ happroval.clock
  have hclock := (OAuthReachable.clock_mono hrun₁ hrun).2 (mem_ownEvents.mp hx.clock).1
  have hlater := hclock.resolve_left fun hev => by
    have hmem := mem_ownEvents.mpr ⟨hev, rfl⟩
    rw [hempty] at hmem
    cases hmem
  have hlive := hx.live
  rw [hexpires] at hlive
  refine ⟨code', j, payload, now, time, row, r, rfl,
    ⟨happroval.mono hgrows, memberships, isSuperuser, state, happroves.run hrun⟩, ?_, hx, ?_, hlive,
    hgrants, ?_⟩
  · obtain ⟨rest, hrest⟩ := hrun₂.grows
    rw [hserves.2, List.append_assoc] at hrest
    rw [← hrest]
    exact (List.singleton_sublist.mpr hput).append ((List.nil_sublist _).cons_cons _)
  · omega
  · intro hconsistent k params' c₀ hc₀ hrun₀ hunloaded hpresented hcomplete
    subst hconsistent
    have hcoll : NoCollision libs c.trace.events fun code => code :=
      fun _ _ _ _ hdrew hdrew' => fun heq => hinj (.inl ⟨_, hdrew⟩) (.inl ⟨_, hdrew'⟩) heq
    refine hpresented.kept hcomplete hc₀ hrun₀ hcoll (hgrows _ hput)
      (hrun₀.since_of_new (mem_ownEvents.mp hx.loaded).1 fun hev => ?_)
    have hmem := mem_ownEvents.mpr ⟨hev, rfl⟩
    rw [hunloaded] at hmem
    cases hmem

end claim

/-! ### A run

The libraries of the sample runs, with a text for every payload and a form that lacks the code
verifier. -/

/-- The code points of a text. -/
def codePoints (s : String) : List ℕ := s.toList.map Char.toNat

def ofCodePoints (codes : List ℕ) : String := String.ofList (codes.map Char.ofNat)

theorem ofCodePoints_codePoints (s : String) : ofCodePoints (codePoints s) = s := by
  unfold ofCodePoints codePoints
  rw [List.map_map]
  have hid : Char.ofNat ∘ Char.toNat = id := funext Char.ofNat_toNat
  rw [hid, List.map_id, String.ofList_toList]

/-- The fields of a payload as numbers. -/
def payloadCode (payload : AuthCodePayload) : List (List ℕ) × Option (List ℕ) × Option (List ℕ) :=
  ([payload.userId, payload.clientId, payload.clientName, payload.redirectUri,
    payload.codeChallenge].map codePoints, payload.scope.map codePoints,
    payload.resource.map codePoints)

def ofPayloadCode : List (List ℕ) × Option (List ℕ) × Option (List ℕ) → Option AuthCodePayload
  | ([userId, clientId, clientName, redirectUri, codeChallenge], scope, resource) =>
      some ⟨ofCodePoints userId, ofCodePoints clientId, ofCodePoints clientName,
        ofCodePoints redirectUri, ofCodePoints codeChallenge, scope.map ofCodePoints,
        resource.map ofCodePoints⟩
  | _ => none

theorem ofPayloadCode_payloadCode (payload : AuthCodePayload) :
    ofPayloadCode (payloadCode payload) = some payload := by
  obtain ⟨userId, clientId, clientName, redirectUri, codeChallenge, scope, resource⟩ := payload
  have hid : ofCodePoints ∘ codePoints = id := funext ofCodePoints_codePoints
  simp only [payloadCode, List.map_cons, List.map_nil, ofPayloadCode, ofCodePoints_codePoints,
    Option.map_map, hid, Option.map_id_fun, id_eq]

/-- The JSON text of the sample payload; the others are only told apart. -/
def consentText (payload : AuthCodePayload) : String :=
  if payload = samplePayload then samplePayloadText samplePayload
  else String.ofList (List.replicate (Encodable.encode (payloadCode payload)) 'a')

def parseConsent (text : String) : Option AuthCodePayload :=
  if text = samplePayloadText samplePayload then some samplePayload
  else (Encodable.decode text.length).bind ofPayloadCode

/-- The other texts are not that of the sample payload. -/
theorem letters_ne_samplePayloadText (n : ℕ) :
    String.ofList (List.replicate n 'a') ≠ samplePayloadText samplePayload := by
  intro heq
  have hbrace : '\x7b' ∈ (samplePayloadText samplePayload).toList := by
    unfold samplePayloadText
    simp only [String.toList_append, List.mem_append]
    simp
  rw [← heq, String.toList_ofList] at hbrace
  have hletter := (List.mem_replicate.mp hbrace).2
  revert hletter
  decide

theorem parseConsent_consentText (payload : AuthCodePayload) :
    parseConsent (consentText payload) = some payload := by
  unfold consentText
  by_cases hsample : payload = samplePayload
  · rw [if_pos hsample]
    unfold parseConsent
    rw [if_pos rfl, hsample]
  · rw [if_neg hsample]
    generalize hcode : payloadCode payload = code
    unfold parseConsent
    rw [if_neg (letters_ne_samplePayloadText _), String.length_ofList, List.length_replicate,
      Encodable.encodek, Option.bind_some, ← hcode, ofPayloadCode_payloadCode]

/-- The exchange of the code `n1` without the code verifier. -/
def incompleteForm : List (String × String) :=
  [("grant_type", "authorization_code"), ("code", "n1"), ("client_id", sampleClientId),
    ("redirect_uri", "https://a.io")]

def consentLibs : OAuthLibs :=
  { sampleOAuthLibs with
    serializePayload := consentText
    parsePayload := parseConsent
    parseForm := fun body => if body = [2] then incompleteForm else sampleOAuthLibs.parseForm body }

abbrev ConsentMove : Type := Move sampleOAuth (IsOAuthCall consentLibs)

/-- The approval, the incomplete exchange, and the exchange of its code. -/
def consentCalls : List OAuthCall :=
  [.approveOAuthAuthorization (some (.user "u1" [] false)) sampleClientId "https://a.io"
      sampleChallenge "S256" none none none, .token none [2], .token none [0]]

def consentStart (call : OAuthCall) : ConsentMove := .start (call.program consentLibs) ⟨call, rfl⟩

/-- The requests of the programs in this order, from the `n`-th choice on. -/
def consentServes (n : ℕ) (order : List ℕ) : List ConsentMove :=
  order.mapIdx fun k i => .serve i (sampleOAuthEnv (n + k))

/-- The calls are made and the approval ends. -/
def approvedPool : OAuthPool :=
  (Pool.init (S := sampleOAuth) emptyOAuthStore).play
    (consentCalls.map consentStart ++ consentServes 0 [0, 0, 0])

/-- Then the last call runs. -/
def exchangedPool : OAuthPool := approvedPool.play (consentServes 3 (List.replicate 8 2))

theorem exchangedPool_run : Run sampleOAuth (IsOAuthCall consentLibs) approvedPool exchangedPool :=
  Pool.play_run _ _

theorem approvedPool_reachable : OAuthReachable consentLibs approvedPool := Pool.play_run _ _

theorem approvedPool_plays (i : ℕ) (call : OAuthCall) (hcall : consentCalls[i]? = some call) :
    approvedPool.Plays i (call.program consentLibs) :=
  Pool.calls_plays (S := sampleOAuth) hcall

/-- The form without the verifier has ended with an error, and the whole one is given tokens. -/
theorem consent_run : approvedPool.failure 1 = some (.reply 400 "invalid_request"
      "code, client_id, redirect_uri and code_verifier are required") ∧
    ownEvents 2 approvedPool.trace.events = [] ∧
    exchangedPool.value 2 = some (.tokens "mtoa_g7.n8" "mtor_g7.n9" defaultScope) ∧
    drawnNonces exchangedPool.trace.events = ["n1", "n8", "n9"] ∧
    bodyParams consentLibs [0] "grant_type" = some "authorization_code" ∧
    bodyParams consentLibs [0] "code" = some "n1" ∧
    bodyParams consentLibs [2] "grant_type" = some "authorization_code" ∧
    bodyParams consentLibs [2] "code" = some "n1" ∧
    (["n1", "n8", "n9"].map consentLibs.sha256Hex).Nodup := by decide +kernel

theorem oauth_consent_sample :
    exchangedPool.value 2 = some (.tokens "mtoa_g7.n8" "mtor_g7.n9" defaultScope) ∧
    ∃ j payload time, Consented consentLibs exchangedPool j payload time "n1" ∧
      Grants consentLibs 2 payload (payload.resource.getD (defaultResource consentLibs none))
        "mtoa_g7.n8" "mtor_g7.n9" (ownEvents 2 exchangedPool.trace.events) := by
  obtain ⟨-, -, hvalue, hdrawn, hgrant, hcode, -, -, hnodup⟩ := consent_run
  have hplays := (approvedPool_plays 2 (.token none [0]) rfl).run exchangedPool_run
  have hinj : Set.InjOn consentLibs.sha256Hex {s | (∃ j, Drew j exchangedPool.trace.events s) ∨
      bodyParams consentLibs [0] "code" = some s} := by
    have hmem : ∀ {s}, ((∃ j, Drew j exchangedPool.trace.events s) ∨
        bodyParams consentLibs [0] "code" = some s) → s ∈ ["n1", "n8", "n9"] := by
      rintro s (⟨j, hdrew⟩ | hpresented)
      · rw [← hdrawn]
        exact List.mem_filterMap.mpr ⟨_, hdrew, rfl⟩
      · rw [hcode, Option.some.injEq] at hpresented
        exact hpresented ▸ List.mem_cons_self
    exact fun s hs s' hs' heq => List.inj_on_of_nodup_map hnodup (hmem hs) (hmem hs') heq
  obtain ⟨code, j, payload, now, time, row, r, hcode', hconsented, -, -, -, -, hgrants, -⟩ :=
    oauth_consent (approvedPool_reachable.trans exchangedPool_run) parseConsent_consentText hinj
      ⟨⟨[0], hplays, rfl⟩, hgrant⟩ (Pool.value_some hvalue)
  rw [hcode, Option.some.injEq] at hcode'
  subst hcode'
  exact ⟨hvalue, j, payload, time, hconsented, hgrants⟩

/-- A request that presented the code without the verifier ended with an error, and a later one is
given tokens for the code. -/
theorem incomplete_request_keeps_code :
    OAuthReachable consentLibs approvedPool ∧
    Run sampleOAuth (IsOAuthCall consentLibs) approvedPool exchangedPool ∧
    ownEvents 2 approvedPool.trace.events = [] ∧
    Presented consentLibs approvedPool 1 (bodyParams consentLibs [2]) "n1" ∧
    RequestsGrant consentLibs exchangedPool 2 none (bodyParams consentLibs [0]) ∧
    bodyParams consentLibs [0] "code" = some "n1" ∧
    exchangedPool.threads[2]? = some (.done (.tokens "mtoa_g7.n8" "mtor_g7.n9" defaultScope)) := by
  obtain ⟨hfailure, hempty, hvalue, -, hgrant, hcode, hgrant', hcode', -⟩ := consent_run
  have hplays := (approvedPool_plays 2 (.token none [0]) rfl).run exchangedPool_run
  have hincomplete := approvedPool_plays 1 (.token none [2]) rfl
  refine ⟨approvedPool_reachable, exchangedPool_run, hempty, ?_, ⟨⟨[0], hplays, rfl⟩, hgrant⟩, hcode,
    Pool.value_some hvalue⟩
  exact ⟨⟨none, ⟨[2], hincomplete, rfl⟩, hgrant'⟩, hcode', .inr ⟨_, Pool.failure_some hfailure⟩⟩

end Microticket

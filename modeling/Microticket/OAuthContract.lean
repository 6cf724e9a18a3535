import Microticket.Contract
import Microticket.OAuthTokens

/-! # What the OAuth endpoints send

The contracts of the calls on the tables of OAuth.  `OAuthOp.ordered` is what every call respects: it
stores tokens once, made of nonces that it drew itself, under an identifier that it drew or read, and
it stores the row of one code that it drew.  The outcomes of the endpoints are described by what their
histories hold: `Redeemed` and `RefreshEnd` for the refresh grant, `Verified` for an access token and
`Exchanged` for an authorization code. -/

namespace Microticket

open Interleaving RustText

/-! ### The rules of all calls -/

/-- The requests that store the hashes of new tokens. -/
def OAuthOp.storesTokens : OAuthOp → Bool
  | .createOAuthGrant _ | .updateOAuthGrant _ (.rotate ..) => true
  | _ => false

/-- The requests that store the row of a code. -/
def OAuthOp.storesCode : OAuthOp → Bool
  | .putEphemeralState .. => true
  | _ => false

/-- The requests that leave the rows of codes alone. -/
def OAuthOp.quiet : OAuthOp → Bool
  | .putEphemeralState .. | .deleteEphemeralState _ => false
  | _ => true

/-- The history has no request with `P`. -/
def Unsent (P : OAuthOp → Bool) (h : List OAuthEvent) : Prop := ∀ ev ∈ h, P ev.op = false

/-- The program drew the nonce. -/
def Drew (i : ℕ) (h : List OAuthEvent) (nonce : String) : Prop :=
  ⟨i, .generateNonce 32, nonce⟩ ∈ h

/-- What the rules ask of a request. -/
def OAuthOp.ordered (libs : OAuthLibs) (i : ℕ) (h : List OAuthEvent) : OAuthOp → Prop
  | .createOAuthGrant grant => Unsent OAuthOp.storesTokens h ∧ ⟨i, .newId, grant.id⟩ ∈ h ∧
      ∃ payload resource scope access refresh now, Drew i h access ∧ Drew i h refresh ∧
        grant = mintedGrant libs payload resource scope grant.id (accessToken grant.id access)
          (refreshToken grant.id refresh) now
  | .updateOAuthGrant id (.rotate expected accessHash accessExpires refreshHash refreshExpires) =>
      Unsent OAuthOp.storesTokens h ∧ ∃ key grant access refresh now,
        ⟨i, .getOAuthGrant key, .ok (some grant)⟩ ∈ h ∧ grant.id = id ∧ Drew i h access ∧
        Drew i h refresh ∧ .rotate expected accessHash accessExpires refreshHash refreshExpires =
          rotation libs grant (accessToken id access) (refreshToken id refresh) now
  | .putEphemeralState id _ _ _ => Unsent OAuthOp.storesCode h ∧
      ∃ code, Drew i h code ∧ id = oauthCodeStateId (libs.sha256Hex code)
  | .getOAuthGrant _ | .getEphemeralState _ => h = []
  | .deleteEphemeralState id => ∃ row, h = [⟨i, .getEphemeralState id, .ok (some row)⟩]
  | _ => True

/-- The requests that the rules do not restrict. -/
def OAuthOp.plain : OAuthOp → Bool
  | .createOAuthGrant _ | .updateOAuthGrant _ (.rotate ..) | .putEphemeralState .. |
    .getOAuthGrant _ | .getEphemeralState _ | .deleteEphemeralState _ => false
  | _ => true

section rules
variable {libs : OAuthLibs} {i : ℕ} {h : List OAuthEvent} {op : OAuthOp}

theorem OAuthOp.ordered_of_plain (hop : op.plain) : op.ordered libs i h := by
  cases op with
  | updateOAuthGrant id change =>
      cases change with
      | rotate => cases hop
      | touchLastUsed => trivial
  | _ => trivial

theorem OAuthOp.not_storesTokens_of_plain (hop : op.plain) : op.storesTokens = false := by
  cases op with
  | updateOAuthGrant id change =>
      cases change with
      | rotate => cases hop
      | touchLastUsed => rfl
  | _ => first | rfl | cases hop

theorem OAuthOp.quiet_of_plain (hop : op.plain) : op.quiet = true := by
  cases op <;> first | rfl | cases hop

theorem OAuthOp.not_storesCode_of_quiet (hop : op.quiet = true) : op.storesCode = false := by
  cases op <;> first | rfl | cases hop

theorem Unsent.nil (P : OAuthOp → Bool) : Unsent P [] := fun _ hev => by cases hev

theorem Unsent.more {P : OAuthOp → Bool} (hno : Unsent P h) (op : OAuthOp) (r : op.Res)
    (hop : P op = false) : Unsent P (h ++ [⟨i, op, r⟩]) := by
  intro ev hev
  rcases List.mem_append.mp hev with hev | hev
  · exact hno ev hev
  · rw [List.mem_singleton.mp hev]
    exact hop

theorem mem_more {ev : OAuthEvent} {more : List OAuthEvent} (hev : ev ∈ h) : ev ∈ h ++ more :=
  List.mem_append_left _ hev

theorem mem_last {ev : OAuthEvent} : ev ∈ h ++ [ev] := List.mem_append_right _ (List.mem_singleton_self _)

end rules

/-! ### Users -/

/-- The requests of `fetch_update_user_auth_info`. -/
def OAuthOp.isAccount : OAuthOp → Bool
  | .clock | .getUser _ | .updateUserAccessTime _ | .listMembershipsByUser _ => true
  | _ => false

theorem OAuthOp.plain_of_isAccount {op : OAuthOp} (hop : op.isAccount) : op.plain := by
  cases op <;> first | rfl | cases hop

/-- The answer says that the account of the grant is not available. -/
def Unavailable : OAuthEvent → Prop
  | ⟨_, .getUser _, r⟩ => ∀ user, r = .ok (some user) → user.enabled = false
  | ⟨_, .listMembershipsByUser _, r⟩ => ∃ message, r = .error (.notFound message)
  | _ => False

section users
variable {i : ℕ} {G : List OAuthEvent → OAuthOp → Prop} {K : List OAuthEvent → Prop}
variable {userId : String}

theorem classifyDbErr_permanent {context message : String} {e : DbError}
    (h : classifyDbErr context e = .permanent message) : ∃ text, e = .notFound text := by
  cases e with
  | notFound text => exact ⟨text, rfl⟩
  | _ => cases h

/-- The account was resolved, or an answer says why it is not available. -/
def AccountKnown (answer : Except AuthError AuthInfo) (h : List OAuthEvent) : Prop :=
  ∀ message, answer = .error (.permanent message) → ∃ ev ∈ h, Unavailable ev

theorem sends_touchAccessTime (hG : ∀ {h op}, op.isAccount → K h → G h op)
    (hK : ∀ {h} op r, op.isAccount → K h → K (h ++ [⟨i, op, r⟩])) (user : AccountUser) (now : ℕ)
    {h : List OAuthEvent} (h₀ : K h) :
    Sends i G (fun r h => K h ∧ ∃ answer, r = .ok answer ∧
      ∀ message, answer ≠ .error (.permanent message)) (touchAccessTime userId user now) h := by
  unfold touchAccessTime
  split
  · refine ⟨hG rfl h₀, fun r => ?_⟩
    have hmore := hK (.updateUserAccessTime userId) r rfl h₀
    rcases r with e | ⟨⟩
    · cases e <;> exact ⟨hmore, _, rfl, nofun⟩
    · exact ⟨hmore, _, rfl, nofun⟩
  · exact ⟨h₀, _, rfl, nofun⟩

theorem sends_resolveUser (hG : ∀ {h op}, op.isAccount → K h → G h op)
    (hK : ∀ {h} op r, op.isAccount → K h → K (h ++ [⟨i, op, r⟩])) (user : AccountUser)
    {h : List OAuthEvent} (h₀ : K h) :
    Sends i G (fun r h => K h ∧ ∃ answer, r = .ok answer ∧ AccountKnown answer h)
      (resolveUser userId user) h := by
  refine ⟨hG rfl h₀, fun now => ?_⟩
  have hmore := hK .clock now rfl h₀
  refine (sends_touchAccessTime (K := K) hG hK user now hmore).bind ?_ ?_
  · rintro answer h ⟨h₀, _, ⟨⟩, hanswer⟩
    rcases answer with e | ⟨⟩
    · refine ⟨h₀, _, rfl, fun message heq => ?_⟩
      rw [Except.error.inj heq] at hanswer
      exact absurd rfl (hanswer message)
    · refine ⟨hG rfl h₀, fun r => ?_⟩
      have hmore := hK (.listMembershipsByUser userId) r rfl h₀
      rcases r with e | memberships
      · refine ⟨hmore, _, rfl, fun message heq => ⟨_, mem_last, ?_⟩⟩
        obtain ⟨text, rfl⟩ := classifyDbErr_permanent (Except.error.inj heq)
        exact ⟨text, rfl⟩
      · exact ⟨hmore, _, rfl, nofun⟩
  · rintro e h ⟨-, _, heq, -⟩
    cases heq

theorem sends_fetchUpdateUserAuthInfo (hG : ∀ {h op}, op.isAccount → K h → G h op)
    (hK : ∀ {h} op r, op.isAccount → K h → K (h ++ [⟨i, op, r⟩])) {h : List OAuthEvent}
    (h₀ : K h) :
    Sends i G (fun r h => K h ∧ ∃ answer, r = .ok answer ∧ AccountKnown answer h)
      (fetchUpdateUserAuthInfo userId) h := by
  refine ⟨hG rfl h₀, fun r => ?_⟩
  have hmore := hK (.getUser userId) r rfl h₀
  rcases r with e | _ | user
  · exact ⟨hmore, _, rfl, fun _ _ => ⟨_, mem_last, nofun⟩⟩
  · exact ⟨hmore, _, rfl, fun _ _ => ⟨_, mem_last, nofun⟩⟩
  · show Sends i G _ (if user.enabled = true then _ else _) _
    split
    · exact sends_resolveUser hG hK user hmore
    · rename_i hdisabled
      refine ⟨hmore, _, rfl, fun _ _ => ⟨_, mem_last, fun user' heq => ?_⟩⟩
      cases heq
      exact eq_false_of_ne_true hdisabled

end users

/-! ### The refresh grant -/

/-- The checks of a refresh request on the grant whose token it has. -/
def Acceptable (params : Params) (grant : OAuthGrant) (now : ℕ) : Prop :=
  (now < grant.refreshExpiresAt ∧ now < grant.expiresAt) ∧
    params "client_id" = some grant.clientId ∧
    (params "resource").all fun requested => requested == grant.resource

/-- How a refresh request with the token `full` of the grant `grantId` ends. -/
inductive RefreshEnd (libs : OAuthLibs) (i : ℕ) (params : Params) (grantId full : String) :
    Except OAuthFailure OAuthReply → List OAuthEvent → Prop
  | redeemed {h : List OAuthEvent} {grant : OAuthGrant} {access refresh scope : String} {now : ℕ}
      (hget : ⟨i, .getOAuthGrant grantId, .ok (some grant)⟩ ∈ h)
      (hmatch : hashMatches libs full grant.refreshTokenHash) (hclock : ⟨i, .clock, now⟩ ∈ h)
      (haccept : Acceptable params grant now)
      (hrotate : ⟨i, .updateOAuthGrant grant.id (rotation libs grant access refresh now),
        .ok ()⟩ ∈ h) :
      RefreshEnd libs i params grantId full (.ok (.tokens access refresh scope)) h
  | revoked {h : List OAuthEvent} {grant : OAuthGrant} {e : OAuthFailure}
      (hget : ⟨i, .getOAuthGrant grantId, .ok (some grant)⟩ ∈ h)
      (hdelete : ⟨i, .deleteOAuthGrant grant.id, .ok ()⟩ ∈ h) :
      RefreshEnd libs i params grantId full (.error e) h
  | unknown {h : List OAuthEvent} {e : OAuthFailure}
      (hget : ⟨i, .getOAuthGrant grantId, .ok none⟩ ∈ h) :
      RefreshEnd libs i params grantId full (.error e) h
  | raced {h : List OAuthEvent} {grant : OAuthGrant} {access refresh message : String} {now : ℕ}
      {e : OAuthFailure} (hget : ⟨i, .getOAuthGrant grantId, .ok (some grant)⟩ ∈ h)
      (hrotate : ⟨i, .updateOAuthGrant grant.id (rotation libs grant access refresh now),
        .error (.notFound message)⟩ ∈ h) :
      RefreshEnd libs i params grantId full (.error e) h
  | refused {h : List OAuthEvent} {grant : OAuthGrant} {now : ℕ} {e : OAuthFailure}
      (hget : ⟨i, .getOAuthGrant grantId, .ok (some grant)⟩ ∈ h)
      (hmatch : hashMatches libs full grant.refreshTokenHash) (hclock : ⟨i, .clock, now⟩ ∈ h)
      (hrefuse : ¬ Acceptable params grant now) :
      RefreshEnd libs i params grantId full (.error e) h
  | unavailable {h : List OAuthEvent} {ev : OAuthEvent} {e : OAuthFailure} (hev : ev ∈ h)
      (hunavailable : Unavailable ev) : RefreshEnd libs i params grantId full (.error e) h
  | incomplete {h : List OAuthEvent} {e : OAuthFailure} (hclient : params "client_id" = none) :
      RefreshEnd libs i params grantId full (.error e) h
  | failed {h : List OAuthEvent} : RefreshEnd libs i params grantId full (.error serverError) h

section refresh
variable {libs : OAuthLibs} {i : ℕ} {params : Params} {grantId full : String} {grant : OAuthGrant}

/-- The requests of a program that keeps the rules. -/
abbrev Ordered {α : Type} (libs : OAuthLibs) (i : ℕ)
    (Q : Except OAuthFailure α → List OAuthEvent → Prop) (p : OAuthProg α)
    (h : List OAuthEvent) : Prop :=
  Sends i (fun h op => op.ordered libs i h) Q p h

/-- The rotation of a grant that was read. -/
theorem ordered_rotateGrant {h : List OAuthEvent} {now : ℕ}
    (hget : ⟨i, .getOAuthGrant grantId, .ok (some grant)⟩ ∈ h)
    (hmatch : hashMatches libs full grant.refreshTokenHash) (hclock : ⟨i, .clock, now⟩ ∈ h)
    (haccept : Acceptable params grant now) (hunsent : Unsent OAuthOp.storesTokens h) :
    Ordered libs i (RefreshEnd libs i params grantId full) (do
      let (shape, access, refresh) ← rotateGrant libs grant now
      let answer ← oauth (.updateOAuthGrant grant.id shape)
      rotated access refresh grant.scope answer) h := by
  refine ⟨trivial, fun access => ⟨trivial, fun refresh => ⟨?_, fun r => ?_⟩⟩⟩
  · have hunsent' := (hunsent.more (i := i) (.generateNonce 32) access rfl).more (i := i)
      (.generateNonce 32) refresh rfl
    exact ⟨hunsent', grantId, grant, access, refresh, now, mem_more (mem_more hget), rfl,
      mem_more mem_last, mem_last, rfl⟩
  · rcases r with e | ⟨⟩
    · cases e with
      | notFound message =>
          exact .raced (mem_more (mem_more (mem_more hget))) mem_last
      | _ => exact .failed
    · exact .redeemed (mem_more (mem_more (mem_more hget))) hmatch
        (mem_more (mem_more (mem_more hclock))) haccept mem_last

theorem ordered_redeemRefreshToken {clientId : String} (hclient : params "client_id" = some clientId)
    (hmatch : hashMatches libs full grant.refreshTokenHash) :
    Ordered libs i (RefreshEnd libs i params grantId full)
      (redeemRefreshToken libs params clientId grant)
      [⟨i, .getOAuthGrant grantId, .ok (some grant)⟩] := by
  refine ⟨trivial, fun now => ?_⟩
  have hget : ⟨i, .getOAuthGrant grantId, .ok (some grant)⟩ ∈
      [⟨i, .getOAuthGrant grantId, .ok (some grant)⟩] ++ [(⟨i, .clock, now⟩ : OAuthEvent)] :=
    List.mem_cons_self
  refine Sends.ensure (fun hlive => ?_) fun hdead => .refused hget hmatch mem_last fun h => hdead h.1
  refine Sends.ensure (fun hsame => ?_) fun hother =>
    .refused hget hmatch mem_last fun h => hother (Option.some.inj (h.2.1.symm.trans hclient))
  refine Sends.ensure (fun hresource => ?_) fun hother =>
    .refused hget hmatch mem_last fun h => hother h.2.2
  have haccept : Acceptable params grant now := ⟨hlive, hsame ▸ hclient, hresource⟩
  have hunsent := ((Unsent.nil OAuthOp.storesTokens).more (i := i) (.getOAuthGrant grantId)
    (.ok (some grant)) rfl).more (i := i) .clock now rfl
  -- what was read and the rules stay through the requests about the account
  refine (sends_fetchUpdateUserAuthInfo (K := fun h =>
    ⟨i, .getOAuthGrant grantId, .ok (some grant)⟩ ∈ h ∧ ⟨i, .clock, now⟩ ∈ h ∧
      Unsent OAuthOp.storesTokens h)
    (fun hop _ => OAuthOp.ordered_of_plain (OAuthOp.plain_of_isAccount hop))
    (fun op r hop h => ⟨mem_more h.1, mem_more h.2.1, h.2.2.more op r
      (OAuthOp.not_storesTokens_of_plain (OAuthOp.plain_of_isAccount hop))⟩)
    ⟨hget, mem_last, hunsent⟩).bind ?_ ?_
  · rintro answer h ⟨⟨hget, hclock, hunsent⟩, _, ⟨⟩, hresolved⟩
    rcases answer with (message | message) | info
    · obtain ⟨ev, hev, hunavailable⟩ := hresolved message rfl
      exact .unavailable hev hunavailable
    · exact .failed
    · exact ordered_rotateGrant hget hmatch hclock haccept hunsent
  · rintro e h ⟨-, _, heq, -⟩
    cases heq

theorem ordered_revokeReused :
    Ordered libs i (RefreshEnd libs i params grantId full) (revokeReused grant)
      [⟨i, .getOAuthGrant grantId, .ok (some grant)⟩] := by
  refine ⟨trivial, fun r => ?_⟩
  rcases r with e | ⟨⟩
  · exact .failed
  · exact .revoked List.mem_cons_self mem_last

/-- How a refresh request ends. -/
theorem ordered_tokenRefresh {presented : String}
    (hpresented : params "refresh_token" = some presented)
    (hparse : parseRefreshToken presented = some (grantId, full)) :
    Ordered libs i (RefreshEnd libs i params grantId full) (tokenRefresh libs params) [] := by
  unfold tokenRefresh
  rw [hpresented]
  rcases hclient : params "client_id" with _ | clientId
  · exact .incomplete hclient
  simp only [hparse]
  refine ⟨rfl, fun r => ?_⟩
  rcases r with e | _ | grant
  · exact .failed
  · exact .unknown List.mem_cons_self
  · show Ordered libs i _ (if hashMatches libs full grant.refreshTokenHash = true then _ else _) _
    split
    · rename_i hmatch
      exact ordered_redeemRefreshToken hclient hmatch
    · exact ordered_revokeReused

theorem ordered_anyRefresh (params : Params) :
    Ordered libs i (fun _ _ => True) (tokenRefresh libs params) [] := by
  rcases hpresented : params "refresh_token" with _ | presented
  · unfold tokenRefresh
    rw [hpresented]
    trivial
  rcases hparse : parseRefreshToken presented with _ | ⟨grantId, full⟩
  · unfold tokenRefresh
    rw [hpresented]
    rcases params "client_id" with _ | clientId
    · trivial
    · simp only [hparse]
      trivial
  · exact (ordered_tokenRefresh hpresented hparse).post fun _ _ _ => trivial

end refresh

/-! ### Access tokens -/

/-- The history holds what the verification of the token `full` of the grant `grantId` rests on. -/
def Verified (libs : OAuthLibs) (i : ℕ) (grantId full : String) (h : List OAuthEvent) : Prop :=
  ∃ grant now, ⟨i, .getOAuthGrant grantId, .ok (some grant)⟩ ∈ h ∧
    hashMatches libs full grant.accessTokenHash ∧ ⟨i, .clock, now⟩ ∈ h ∧
    now < grant.accessExpiresAt ∧ now < grant.expiresAt

section verify
variable {libs : OAuthLibs} {i : ℕ} {grantId full expectedResource : String}

theorem Verified.more {h : List OAuthEvent} {ev : OAuthEvent} (hv : Verified libs i grantId full h) :
    Verified libs i grantId full (h ++ [ev]) := by
  obtain ⟨grant, now, hget, hmatch, hclock, haccess, hexpires⟩ := hv
  exact ⟨grant, now, mem_more hget, hmatch, mem_more hclock, haccess, hexpires⟩

theorem plain_touchLastUsed (grant : OAuthGrant) (now : ℕ) :
    (touchLastUsed grant now).All fun op => op.plain := by
  unfold touchLastUsed
  split
  · refine ⟨rfl, fun touched => ⟨rfl, fun r => ?_⟩⟩
    rcases r with e | ⟨⟩
    · cases e <;> trivial
    · trivial
  · trivial

theorem ordered_checkAccessToken {grant : OAuthGrant} :
    Ordered libs i (fun r h => ∀ reply, r = .ok reply → Verified libs i grantId full h)
      (checkAccessToken libs full expectedResource grant)
      [⟨i, .getOAuthGrant grantId, .ok (some grant)⟩] := by
  refine Sends.ensure (fun hmatch => ?_) fun _ => nofun
  refine ⟨trivial, fun now => ?_⟩
  refine Sends.ensure (fun haccess => ?_) fun _ => nofun
  refine Sends.ensure (fun hexpires => ?_) fun _ => nofun
  refine Sends.ensure (fun _ => ?_) fun _ => nofun
  have hverified : Verified libs i grantId full
      ([⟨i, .getOAuthGrant grantId, .ok (some grant)⟩] ++ [⟨i, .clock, now⟩]) :=
    ⟨grant, now, List.mem_cons_self, hmatch, mem_last, haccess, hexpires⟩
  refine (Sends.keeps (K := Verified libs i grantId full) (plain_touchLastUsed grant now)
    (fun hop _ => OAuthOp.ordered_of_plain hop) (fun _ hv => hv.more) hverified).bind ?_
    fun _ _ _ => nofun
  intro _ h hverified
  refine (sends_fetchUpdateUserAuthInfo (K := Verified libs i grantId full)
    (fun hop _ => OAuthOp.ordered_of_plain (OAuthOp.plain_of_isAccount hop))
    (fun _ _ _ hv => hv.more) hverified).bind ?_ fun _ _ _ => nofun
  rintro answer h ⟨hverified, -⟩
  exact Sends.ofExcept (fun _ _ _ _ => hverified) fun _ _ => nofun

/-- What a verification that succeeds rests on. -/
theorem ordered_verifyAccessToken {presented : String}
    (hparse : parseAccessToken presented = some (grantId, full)) :
    Ordered libs i (fun r h => ∀ reply, r = .ok reply → Verified libs i grantId full h)
      (verifyAccessToken libs presented expectedResource) [] := by
  unfold verifyAccessToken
  simp only [hparse]
  refine ⟨rfl, fun r => ?_⟩
  rcases r with e | _ | grant
  · exact nofun
  · exact nofun
  · exact ordered_checkAccessToken

theorem ordered_anyVerify (presented expectedResource : String) :
    Ordered libs i (fun _ _ => True) (verifyAccessToken libs presented expectedResource) [] := by
  rcases hparse : parseAccessToken presented with _ | ⟨grantId, full⟩
  · unfold verifyAccessToken
    simp only [hparse]
    trivial
  · exact (ordered_verifyAccessToken hparse).post fun _ _ _ => trivial

end verify

/-! ### Authorization codes -/

/-- The history begins with the load of the row of a code and its deletion. -/
def Exchanged (i : ℕ) (stateId : String) (h : List OAuthEvent) : Prop :=
  ∃ row rest, h = ⟨i, .getEphemeralState stateId, .ok (some row)⟩ ::
    ⟨i, .deleteEphemeralState stateId, .ok ()⟩ :: rest

section exchange
variable {libs : OAuthLibs} {i : ℕ} {host : Option String} {params : Params} {stateId : String}

theorem Exchanged.more {h : List OAuthEvent} {ev : OAuthEvent} (hx : Exchanged i stateId h) :
    Exchanged i stateId (h ++ [ev]) := by
  obtain ⟨row, rest, rfl⟩ := hx
  exact ⟨row, rest ++ [ev], rfl⟩

/-- The exchange after the row of the code is deleted. -/
theorem ordered_exchangeCode {clientId redirectUri codeVerifier : String} {payload : AuthCodePayload}
    {h : List OAuthEvent} (hx : Exchanged i stateId h) (hunsent : Unsent OAuthOp.storesTokens h) :
    Ordered libs i (fun r h => ∀ reply, r = .ok reply → Exchanged i stateId h)
      (exchangeCode libs host params clientId redirectUri codeVerifier payload) h := by
  unfold exchangeCode
  refine Sends.ensure (fun _ => ?_) fun _ => nofun
  refine Sends.ensure (fun _ => ?_) fun _ => nofun
  refine Sends.ensure (fun _ => ?_) fun _ => nofun
  refine Sends.ensure (fun _ => ?_) fun _ => nofun
  refine Sends.ensure (fun _ => ?_) fun _ => nofun
  refine ⟨trivial, fun now => ⟨trivial, fun id => ⟨trivial, fun access => ⟨trivial, fun refresh => ?_⟩⟩⟩⟩
  refine ⟨?_, fun r => ?_⟩
  · have hunsent' := (((hunsent.more (i := i) .clock now rfl).more (i := i) .newId id rfl).more
      (i := i) (.generateNonce 32) access rfl).more (i := i) (.generateNonce 32) refresh rfl
    exact ⟨hunsent', mem_more (mem_more mem_last), payload, _, _, access, refresh, now,
      mem_more mem_last, mem_last, rfl⟩
  · rcases r with e | ⟨⟩
    · exact nofun
    · exact fun _ _ => hx.more.more.more.more.more

/-- The exchange after the row of the code is loaded. -/
theorem ordered_loadedCode {clientId redirectUri codeVerifier : String} (row : EphemeralRow) :
    Ordered libs i (fun r h => ∀ reply, r = .ok reply → Exchanged i stateId h) (do
      deleteLoaded (some row) stateId
      let state ← .ofOption ((some row).filter fun s => s.kind == oauthCodeStateKind)
        (invalidGrant "Unknown or already-used authorization code")
      let now ← oauth .clock
      .ensure (now < state.expiresAt) (invalidGrant "Authorization code has expired")
      let payload ← .ofOption (libs.parsePayload state.payload)
        (invalidGrant "Malformed authorization code")
      exchangeCode libs host params clientId redirectUri codeVerifier payload)
      [⟨i, .getEphemeralState stateId, .ok (some row)⟩] := by
  refine ⟨⟨row, rfl⟩, fun r => ?_⟩
  rcases r with e | ⟨⟩
  · exact nofun
  refine Sends.ofOption (fun state _ => ?_) fun _ => nofun
  refine ⟨trivial, fun now => ?_⟩
  refine Sends.ensure (fun _ => ?_) fun _ => nofun
  refine Sends.ofOption (fun payload _ => ?_) fun _ => nofun
  refine ordered_exchangeCode ⟨row, [⟨i, .clock, now⟩], rfl⟩ ?_
  exact (((Unsent.nil OAuthOp.storesTokens).more (i := i) (.getEphemeralState stateId)
    (.ok (some row)) rfl).more (i := i) (.deleteEphemeralState stateId) (.ok ()) rfl).more (i := i)
    .clock now rfl

/-- What an exchange that succeeds rests on. -/
theorem ordered_tokenAuthorizationCode {code : String} (hcode : params "code" = some code) :
    Ordered libs i
      (fun r h => ∀ reply, r = .ok reply → Exchanged i (oauthCodeStateId (libs.sha256Hex code)) h)
      (tokenAuthorizationCode libs host params) [] := by
  unfold tokenAuthorizationCode
  rw [hcode]
  rcases params "client_id" with _ | clientId
  · exact nofun
  rcases params "redirect_uri" with _ | redirectUri
  · exact nofun
  rcases params "code_verifier" with _ | codeVerifier
  · exact nofun
  refine ⟨rfl, fun r => ?_⟩
  rcases r with e | _ | row
  · exact nofun
  · exact nofun
  · exact ordered_loadedCode row

theorem ordered_anyAuthorizationCode (host : Option String) (params : Params) :
    Ordered libs i (fun _ _ => True) (tokenAuthorizationCode libs host params) [] := by
  rcases hcode : params "code" with _ | code
  · unfold tokenAuthorizationCode
    rw [hcode]
    trivial
  · exact (ordered_tokenAuthorizationCode hcode).post fun _ _ _ => trivial

end exchange

/-! ### All calls -/

section calls
variable {libs : OAuthLibs} {i : ℕ}

theorem ordered_token (host : Option String) (body : List UInt8) :
    Ordered libs i (fun _ _ => True) (token libs host body) [] := by
  unfold token
  split
  · exact ordered_anyAuthorizationCode ..
  · exact ordered_anyRefresh _
  · trivial
  · trivial

theorem all_requireOAuthUser {P : OAuthOp → Prop} (auth : Option AuthInfo) :
    (requireOAuthUser auth).All P := by
  unfold requireOAuthUser
  split <;> trivial

theorem all_checkAuthorization {P : OAuthOp → Prop} (registration : ClientRegistration)
    (redirectUri codeChallenge codeChallengeMethod : String) (scope : Option String) :
    (checkAuthorization libs registration redirectUri codeChallenge codeChallengeMethod scope).All P :=
  (Prog.all_ensure ..).bind fun _ => (Prog.all_ensure ..).bind fun _ =>
    (Prog.all_ensure ..).bind fun _ => Prog.all_ensure ..

/-- A part that sends no request. -/
theorem ordered_silent {α β : Type} {p : OAuthProg α} {f : α → OAuthProg β} {h : List OAuthEvent}
    (hp : p.All fun _ => False) (hf : ∀ a, Ordered libs i (fun _ _ => True) (f a) h) :
    Ordered libs i (fun _ _ => True) (p >>= f) h := by
  cases p with
  | done a => exact hf a
  | fail e => trivial
  | call op k => exact hp.1.elim

theorem ordered_approveOAuthAuthorization (auth : Option AuthInfo)
    (clientId redirectUri codeChallenge codeChallengeMethod : String)
    (scope resource state : Option String) :
    Ordered libs i (fun _ _ => True) (approveOAuthAuthorization libs auth clientId redirectUri
      codeChallenge codeChallengeMethod scope resource state) [] := by
  refine ordered_silent (all_requireOAuthUser auth) fun userId => ?_
  refine ordered_silent (Prog.all_ofOption ..) fun registration => ?_
  refine ordered_silent (all_checkAuthorization ..) fun _ => ?_
  refine ⟨trivial, fun now => ⟨trivial, fun code => ⟨?_, fun r => ?_⟩⟩⟩
  · have hunsent := ((Unsent.nil OAuthOp.storesCode).more (i := i) .clock now rfl).more (i := i)
      (.generateNonce 32) code rfl
    exact ⟨hunsent, code, mem_last, rfl⟩
  · rcases r with e | ⟨⟩
    · trivial
    · exact Sends.ofOption (fun _ _ => trivial) fun _ => trivial

theorem ordered_revokeOAuthGrant (auth : Option AuthInfo) (id : String) :
    Ordered libs i (fun _ _ => True) (revokeOAuthGrant auth id) [] := by
  refine ordered_silent (all_requireOAuthUser auth) fun userId => ?_
  refine ⟨rfl, fun r => ?_⟩
  rcases r with e | _ | grant
  · trivial
  · trivial
  · refine Sends.ensure (fun _ => ⟨trivial, fun r => ?_⟩) fun _ => trivial
    rcases r with e | ⟨⟩ <;> trivial

/-- Every call keeps the rules. -/
theorem ordered_call {p : OAuthProg OAuthReply} (hp : IsOAuthCall libs p) (i : ℕ) :
    Ordered libs i (fun _ _ => True) p [] := by
  obtain ⟨call, rfl⟩ := hp
  cases call with
  | token host body => exact ordered_token host body
  | verifyAccessToken presented expectedResource => exact ordered_anyVerify presented expectedResource
  | approveOAuthAuthorization => exact ordered_approveOAuthAuthorization ..
  | revokeOAuthGrant auth id => exact ordered_revokeOAuthGrant auth id
  | expire table id => exact ⟨trivial, fun _ => trivial⟩

end calls

end Microticket

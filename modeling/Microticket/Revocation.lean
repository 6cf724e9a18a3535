import Microticket.OAuthConsent
import Microticket.SessionRules

/-! # Revocation

What a request that is accepted rests on: the row of its token, as it was when the request looked it
up, the clock after that, and the account of the user.  A row that is deleted does not come back, a
token or user that is disabled stays so until a call enables it, and a row that has expired stays
expired if no touch of an expired row is served (`revocation_permanent`).  A touch sets a new
`expires_at` whatever the row says by then, so one that is served late revives its token
(`late_touch_revives`). -/

namespace Microticket

open Interleaving Tables RustText

/-! ### Rows that stay dead -/

section rows
variable {libs : SessionLibs} {readOnly : Bool} {t : Trace (sessionService readOnly)} {i : ℕ}
variable {e : SessionEnv} {op : SessionOp} {id : String}

/-- The row of a user token that was issued before is an earlier row, possibly touched. -/
theorem SessionInvariant.userToken_from (h : SessionInvariant libs t)
    (hG : op.ordered libs i (ownEvents i t.events)) {nonce : String}
    (hissued : TokenIssued drawsNonce nonce SessionOp.createsUserToken t.events)
    (hinj : ∀ j nonce', drawsNonce j nonce' ∈ t.events →
      userTokenHash libs nonce' = userTokenHash libs nonce → nonce' = nonce)
    {row : Hydration.UserToken}
    (hrow : (SessionStore.sessions (t.serve i e op).state).now.userTokens.lookup id = some row)
    (hhash : row.tokenHash = userTokenHash libs nonce) :
    ∃ row₀, (SessionStore.sessions t.state).now.userTokens.lookup id = some row₀ ∧
      row₀.tokenHash = userTokenHash libs nonce ∧
      (row = row₀ ∨ ∃ now, op = .touchUserToken id now) := by
  cases SessionStore.userToken_move hrow with
  | kept hrow₀ => exact ⟨row, hrow₀, hhash, .inl rfl⟩
  | touched hrow₀ heq =>
      subst heq
      exact ⟨_, hrow₀, hhash, .inr ⟨_, rfl⟩⟩
  | created hid heq =>
      obtain ⟨hun, nonce', hdrew, hhash'⟩ := hG
      subst heq
      have hdrew' := (mem_ownEvents.mp hdrew).1
      obtain rfl := hinj i nonce' hdrew' (hhash'.symm.trans hhash)
      exact absurd hissued (TokenIssued.once h.nonces hdrew' hun)

/-- The row of an API token that was issued before is an earlier row, possibly updated. -/
theorem SessionInvariant.apiToken_from (h : SessionInvariant libs t)
    (hG : op.ordered libs i (ownEvents i t.events))
    (hissued : TokenIssued drawsId id SessionOp.createsApiToken t.events) {row : ApiToken}
    (hrow : (SessionStore.admin (t.serve i e op).state).db.now.apiTokens.lookup id = some row) :
    ∃ row₀, (SessionStore.admin t.state).db.now.apiTokens.lookup id = some row₀ ∧
      (row = row₀ ∨ ∃ name enabled, op = .admin (.updateApiToken id name enabled) ∧
        row.enabled = enabled) := by
  cases SessionStore.apiToken_move hrow with
  | kept hrow₀ => exact ⟨row, hrow₀, .inl rfl⟩
  | updated hrow₀ heq =>
      subst heq
      exact ⟨_, hrow₀, .inr ⟨_, _, rfl, rfl⟩⟩
  | created hid => exact absurd hissued (TokenIssued.once h.ids (mem_ownEvents.mp hG.2).1 hG.1)

/-- The row of a user that exists is an earlier row, possibly updated. -/
theorem user_from (he : (sessionService readOnly).Allowed t.state e) {d : AdminDb}
    (hd : (SessionStore.admin t.state).db.Committed d) (hexists : (d.users.lookup id).isSome)
    {row : UserRow}
    (hrow : (SessionStore.admin (t.serve i e op).state).db.now.users.lookup id = some row) :
    ∃ row₀, (SessionStore.admin t.state).db.now.users.lookup id = some row₀ ∧
      (row = row₀ ∨ ∃ change, op = .admin (.updateUser id change) ∧ row = change.apply row₀) := by
  cases SessionStore.user_move hrow with
  | kept hrow₀ => exact ⟨row, hrow₀, .inl rfl⟩
  | updated hrow₀ heq => exact ⟨_, hrow₀, .inr ⟨_, rfl, heq⟩⟩
  | created hid =>
      -- the identifier of a new user is that of no row
      have hnone := (he.1 d hd).1
      rw [← hid] at hnone
      rw [hnone] at hexists
      cases hexists

end rows

/-! ### What an acceptance rests on -/

/-- The account of the principal was read, and it was enabled. -/
def AccountRead (i : ℕ) (info : AuthInfo) (h : List OAuthEvent) : Prop :=
  ∃ userId memberships isSuperuser user, info = .user userId memberships isSuperuser ∧
    ⟨i, .getUser userId, .ok (some user)⟩ ∈ h ∧ user.enabled = true

/-- The same, in the history of a session. -/
def AccountSeen (i : ℕ) (userId : String) (h : List SessionEvent) : Prop :=
  ∃ account, ⟨i, .getAccount userId, .ok (some account)⟩ ∈ h ∧ account.enabled = true

section account
variable {i : ℕ} {userId : String}

theorem account_fetchUpdateUserAuthInfo (h : List OAuthEvent) :
    Sends i (fun _ _ => True) (fun r h => ∀ info, r = .ok (.ok info) → AccountRead i info h)
      (fetchUpdateUserAuthInfo userId) h := by
  refine ⟨trivial, fun r => ?_⟩
  rcases r with e | _ | user
  · exact nofun
  · exact nofun
  show Sends i _ _ (if user.enabled = true then _ else _) _
  split
  · rename_i henabled
    refine ⟨trivial, fun now => ?_⟩
    have hread : ⟨i, .getUser userId, .ok (some user)⟩ ∈
        h ++ [⟨i, .getUser userId, .ok (some user)⟩] ++ [⟨i, .clock, now⟩] := mem_more mem_last
    have htouch := Sends.keeps (i := i) (G := fun _ _ => True)
      (K := fun h => ⟨i, .getUser userId, .ok (some user)⟩ ∈ h)
      (Prog.all_true (touchAccessTime userId user now)) (fun _ _ => trivial)
      (fun _ hmem => mem_more hmem) hread
    refine htouch.bind (fun answer h hmem => ?_) fun _ _ _ => nofun
    rcases answer with e | ⟨⟩
    · exact nofun
    refine ⟨trivial, fun r => ?_⟩
    rcases r with e | memberships
    · exact nofun
    intro info heq
    cases heq
    exact ⟨userId, memberships, user.superuser, user, rfl, mem_more hmem, henabled⟩
  · exact nofun

theorem account_verifyAccessToken {libs : OAuthLibs} (token expectedResource : String) :
    Sends i (fun _ _ => True) (fun r h => ∀ info grantId, r = .ok (.verified info grantId) →
      AccountRead i info h) (verifyAccessToken libs token expectedResource) [] := by
  unfold verifyAccessToken
  split
  · exact nofun
  refine ⟨trivial, fun r => ?_⟩
  rcases r with e | _ | grant
  · exact nofun
  · exact nofun
  refine Sends.ensure (fun _ => ?_) fun _ => nofun
  refine ⟨trivial, fun now => ?_⟩
  refine Sends.ensure (fun _ => ?_) fun _ => nofun
  refine Sends.ensure (fun _ => ?_) fun _ => nofun
  refine Sends.ensure (fun _ => ?_) fun _ => nofun
  refine (Sends.of_all (P := fun _ => True) (Prog.all_true _) fun _ => trivial).bind
    (fun _ h _ => ?_) fun _ _ _ => nofun
  refine (account_fetchUpdateUserAuthInfo h).bind (fun answer h hread => ?_) fun _ _ _ => nofun
  refine Sends.ofExcept (fun info heq => ?_) fun _ _ => nofun
  cases answer with
  | error e => cases heq
  | ok info' =>
      intro info'' grantId hreply
      cases heq
      cases hreply
      exact hread _ rfl

/-- The session has read every account that the program has. -/
def Carries (i : ℕ) (h : List OAuthEvent) (h' : List SessionEvent) : Prop :=
  ∀ userId r, ⟨i, .getUser userId, r⟩ ∈ h → (⟨i, .getAccount userId, r⟩ : SessionEvent) ∈ h'

theorem Carries.other {h : List OAuthEvent} {h' : List SessionEvent} (hc : Carries i h h')
    {op : OAuthOp} (hop : ∀ userId, op ≠ .getUser userId) (r : op.Res) :
    Carries i (h ++ [⟨i, op, r⟩]) h' := by
  intro userId r' hmem
  rcases List.mem_append.mp hmem with hmem | hmem
  · exact hc userId r' hmem
  · rw [List.mem_singleton] at hmem
    exact absurd (Event.mk.inj hmem).2.1.symm (hop userId)

theorem Carries.more {h : List OAuthEvent} {h' : List SessionEvent} {ev : SessionEvent}
    (hc : Carries i h h') : Carries i h (h' ++ [ev]) :=
  fun userId r hmem => List.mem_append_left _ (hc userId r hmem)

/-- A request of the program, and what it becomes. -/
theorem carries_session {h : List OAuthEvent} {h' : List SessionEvent} (hc : Carries i h h')
    (op : OAuthOp) :
    Sends i (fun _ _ => True) (fun r h'' => ∃ a, r = .ok a ∧ Carries i (h ++ [⟨i, op, a⟩]) h'')
      op.session h' := by
  cases op with
  | getUser id =>
      refine ⟨trivial, fun r => ⟨r, rfl, fun userId r' hmem => ?_⟩⟩
      rcases List.mem_append.mp hmem with hmem | hmem
      · exact List.mem_append_left _ (hc userId r' hmem)
      · rw [List.mem_singleton] at hmem
        obtain ⟨-, hop, hr⟩ := Event.mk.inj hmem
        cases hop
        cases hr
        exact List.mem_append_right _ (List.mem_singleton_self _)
  | updateUserAccessTime id =>
      refine ⟨trivial, fun now => ⟨trivial, fun r => ⟨r, rfl, ?_⟩⟩⟩
      exact (hc.more.more).other (fun _ heq => by cases heq) _
  | listMembershipsByUser id =>
      exact ⟨trivial, fun r => ⟨_, rfl, hc.more.other (fun _ heq => by cases heq) _⟩⟩
  | _ => exact ⟨trivial, fun r => ⟨r, rfl, hc.more.other (fun _ heq => by cases heq) _⟩⟩

theorem AccountRead.seen {info : AuthInfo} {h : List OAuthEvent} {h' : List SessionEvent}
    (hread : AccountRead i info h) (hc : Carries i h h') :
    ∃ userId memberships isSuperuser, info = .user userId memberships isSuperuser ∧
      AccountSeen i userId h' := by
  obtain ⟨userId, memberships, isSuperuser, user, rfl, hmem, henabled⟩ := hread
  exact ⟨userId, memberships, isSuperuser, rfl, user, hc userId _ hmem, henabled⟩

/-- The outcome has a user as its principal only if his account was read. -/
def PrincipalSeen (i : ℕ) (r : Except OAuthFailure SessionReply) (h : List SessionEvent) : Prop :=
  ∀ reply userId memberships isSuperuser, r = .ok reply →
    reply.principal = some (.user userId memberships isSuperuser) → AccountSeen i userId h

theorem seen_fetchAuthInfo (h : List SessionEvent) :
    Sends i (fun _ _ => True) (fun r h => ∀ info memberships isSuperuser id, r = .ok info →
      info = .user id memberships isSuperuser → AccountSeen i id h) (fetchAuthInfo userId) h := by
  unfold fetchAuthInfo
  have hcarries : Carries i [] h := fun _ _ hmem => absurd hmem List.not_mem_nil
  refine (Sends.translate (R := Carries i) (fun hR _ => carries_session hR _)
    (account_fetchUpdateUserAuthInfo []) hcarries).bind (fun answer h' hread => ?_) fun _ _ _ => nofun
  obtain ⟨h₁, hR, hread⟩ := hread
  cases answer with
  | error e => exact nofun
  | ok info =>
      intro info' memberships isSuperuser id heq huser
      cases heq
      obtain ⟨userId, _, _, rfl, hseen⟩ := (hread info rfl).seen hR
      cases huser
      exact hseen

theorem seen_error {e : OAuthFailure} {h : List SessionEvent} : PrincipalSeen i (.error e) h := by
  intro reply id memberships isSuperuser heq
  cases heq

theorem seen_none {reply : SessionReply} {h : List SessionEvent} (hnone : reply.principal = none) :
    PrincipalSeen i (.ok reply) h := by
  intro reply' id memberships isSuperuser heq hprincipal
  obtain rfl := Except.ok.inj heq
  rw [hnone] at hprincipal
  cases hprincipal

/-- A user as the principal comes with his account. -/
theorem seen_verified {info : AuthInfo} {tokenId : Option String} {h : List SessionEvent}
    (hseen : ∀ memberships isSuperuser id, info = .user id memberships isSuperuser →
      AccountSeen i id h) : PrincipalSeen i (.ok (.verified info tokenId)) h := by
  intro reply id memberships isSuperuser heq hprincipal
  obtain rfl := Except.ok.inj heq
  exact hseen memberships isSuperuser id (Option.some.inj hprincipal)

section tokens
variable {libs : SessionLibs} {token : String}

theorem seen_userToken :
    Sends i (fun _ _ => True) (PrincipalSeen i) (verifyTokenWithUserToken libs token) [] := by
  refine ⟨trivial, fun r => Sends.ofExcept (fun found _ => ?_) fun _ _ => seen_error⟩
  refine Sends.ofOption (fun row _ => ⟨trivial, fun now => ?_⟩) fun _ => seen_error
  refine Sends.ensure (fun _ => ?_) fun _ => seen_error
  have htouch := Sends.of_all (i := i) (G := fun _ _ => True) (P := fun _ => True)
    (h := [] ++ [⟨i, .getUserTokenByHash (libs.sha256Hex token), r⟩] ++ [⟨i, .admin .clock, now⟩])
    (Prog.all_true (touchUserToken row now)) fun _ => trivial
  refine htouch.bind (fun _ h _ => ?_) fun _ _ _ => seen_error
  refine (seen_fetchAuthInfo h).bind (fun info h hseen => ?_) fun _ _ _ => seen_error
  exact seen_verified fun memberships isSuperuser id => hseen info memberships isSuperuser id rfl

theorem seen_requesterToken :
    Sends i (fun _ _ => True) (PrincipalSeen i) (verifyTokenWithRequesterToken libs token) [] := by
  refine ⟨trivial, fun r => Sends.ofExcept (fun found _ => ?_) fun _ _ => seen_error⟩
  refine Sends.ofOption (fun state _ => ⟨trivial, fun now => ?_⟩) fun _ => seen_error
  refine Sends.ensure (fun _ => ?_) fun _ => seen_error
  refine Sends.ofExcept (fun parsed _ => ?_) fun _ _ => seen_error
  exact seen_verified fun _ _ _ heq => by cases heq

theorem seen_apiToken :
    Sends i (fun _ _ => True) (PrincipalSeen i) (verifyTokenWithApiToken libs token) [] := by
  refine Sends.ofOption (fun parsed _ => ⟨trivial, fun r => ?_⟩) fun _ => seen_error
  refine Sends.ofExcept (fun found _ => ?_) fun _ _ => seen_error
  refine Sends.ofOption (fun row _ => ?_) fun _ => seen_error
  refine Sends.ensure (fun _ => ?_) fun _ => seen_error
  refine Sends.ensure (fun _ => ⟨trivial, fun now => ?_⟩) fun _ => seen_error
  have htouch := Sends.of_all (i := i) (G := fun _ _ => True) (P := fun _ => True)
    (h := [] ++ [⟨i, .getApiToken parsed.1, r⟩] ++ [⟨i, .admin .clock, now⟩])
    (Prog.all_true (touchApiToken row now)) fun _ => trivial
  refine htouch.bind (fun _ h _ => ?_) fun _ _ _ => seen_error
  exact seen_verified fun _ _ _ heq => by cases heq

theorem seen_verifyToken :
    Sends i (fun _ _ => True) (PrincipalSeen i) (verifyToken libs token) [] := by
  unfold verifyToken
  split
  · exact seen_userToken
  · split
    · exact seen_requesterToken
    · split
      · exact seen_apiToken
      · exact seen_error

/-- Every call that returns a user has read his account. -/
theorem seen_call {p : SessionProg SessionReply} (hp : IsSessionCall libs p) :
    Sends i (fun _ _ => True) (PrincipalSeen i) p [] := by
  obtain ⟨call, rfl⟩ := hp
  cases call with
  | verifyToken token => exact seen_verifyToken
  | verifyAccessToken token expectedResource =>
      have hcarries : Carries i [] [] := fun _ _ hmem => absurd hmem List.not_mem_nil
      refine (Sends.translate (R := Carries i) (fun hR _ => carries_session hR _)
        (account_verifyAccessToken token expectedResource) hcarries).bind (fun reply h hread => ?_)
          fun _ _ _ => seen_error
      obtain ⟨h₁, hR, hread⟩ := hread
      cases reply with
      | verified info grantId =>
          obtain ⟨userId, _, _, rfl, hseen⟩ := (hread info grantId rfl).seen hR
          intro reply' id memberships isSuperuser heq hprincipal
          obtain rfl := Except.ok.inj heq
          cases hprincipal
          exact hseen
      | _ => exact seen_none rfl
  | createUserSession userId =>
      refine ⟨trivial, fun nonce => ⟨trivial, fun issued => ⟨trivial, fun now => ?_⟩⟩⟩
      refine ⟨trivial, fun r => ?_⟩
      exact Sends.ofExcept (fun _ _ => seen_none rfl) fun _ _ => seen_error
  | logout auth tokenId =>
      show Sends i _ _ (logout auth tokenId) []
      unfold logout
      split
      · exact ⟨trivial, fun r => Sends.ofExcept (fun _ _ => seen_none rfl) fun _ _ => seen_error⟩
      · exact seen_none rfl
      · exact seen_none rfl
      · exact seen_error
  | admin call =>
      have hall := Sends.of_all (i := i) (G := fun _ _ => True) (P := fun _ => True) (h := [])
        (Prog.all_true (((call.prog libs.toCodeLibs).translate AdminOp.session).mapError
          OAuthFailure.resolver)) fun _ => trivial
      exact hall.bind (fun _ _ _ => seen_none rfl) fun _ _ _ => seen_error

end tokens

end account

/-! ### The rows of tokens -/

/-- The row that a request found under the hash of its token, and the clock that it read next. -/
def FoundUserToken (i : ℕ) (tokenHash : String) (h : List SessionEvent) : Prop :=
  ∃ row now rest, h = ⟨i, .getUserTokenByHash tokenHash, .ok (some row)⟩ ::
    ⟨i, .admin .clock, now⟩ :: rest ∧ now < row.expiresAt

/-- The row that a request found under the identifier in its token. -/
def FoundApiToken (i : ℕ) (id : String) (h : List SessionEvent) : Prop :=
  ∃ row rest, h = ⟨i, .getApiToken id, .ok (some row)⟩ :: rest ∧ row.enabled = true

/-- The request was accepted only if the history has `F`. -/
def AcceptedOn (F : List SessionEvent → Prop) (r : Except OAuthFailure SessionReply)
    (h : List SessionEvent) : Prop :=
  ∀ reply, r = .ok reply → F h

section found
variable {libs : SessionLibs} {i : ℕ} {token id secret : String} {F : List SessionEvent → Prop}

theorem acceptedOn_error {e : OAuthFailure} {h : List SessionEvent} :
    AcceptedOn F (.error e) h := by
  intro reply heq
  cases heq

theorem FoundUserToken.more {tokenHash : String} {h : List SessionEvent} {ev : SessionEvent}
    (hf : FoundUserToken i tokenHash h) : FoundUserToken i tokenHash (h ++ [ev]) := by
  obtain ⟨row, now, rest, rfl, hlive⟩ := hf
  exact ⟨row, now, rest ++ [ev], rfl, hlive⟩

theorem FoundApiToken.more {h : List SessionEvent} {ev : SessionEvent} (hf : FoundApiToken i id h) :
    FoundApiToken i id (h ++ [ev]) := by
  obtain ⟨row, rest, rfl, henabled⟩ := hf
  exact ⟨row, rest ++ [ev], rfl, henabled⟩

/-- A user token is accepted on the row of its hash. -/
theorem found_userToken (htoken : (dropStart "mtu_" token).isSome) :
    Sends i (fun _ _ => True)
      (AcceptedOn (FoundUserToken i (libs.sha256Hex token)))
      (verifyToken libs token) [] := by
  unfold verifyToken
  rw [if_pos htoken]
  refine ⟨trivial, fun r => Sends.ofExcept (fun found hr => ?_) fun _ _ => acceptedOn_error⟩
  refine Sends.ofOption (fun row hrow => ⟨trivial, fun now => ?_⟩) fun _ => acceptedOn_error
  refine Sends.ensure (fun hlive => ?_) fun _ => acceptedOn_error
  cases r with
  | error e => cases hr
  | ok answer =>
      obtain rfl := Except.ok.inj hr
      subst hrow
      have hfound : FoundUserToken i (libs.sha256Hex token)
          ([] ++ [⟨i, .getUserTokenByHash (libs.sha256Hex token), .ok (some row)⟩] ++
            [⟨i, .admin .clock, now⟩]) := ⟨row, now, [], rfl, hlive⟩
      refine (Sends.keeps (K := FoundUserToken i (libs.sha256Hex token)) (Prog.all_true _)
        (fun _ _ => trivial) (fun _ hf => hf.more) hfound).post fun _ _ hf _ _ => hf

/-- The prefixes of the schemes exclude each other. -/
theorem dropStart_api (h : (dropStart "mta_" token).isSome) :
    (dropStart "mtu_" token).isSome = false ∧ (dropStart "mts_" token).isSome = false := by
  unfold dropStart at h ⊢
  rw [Option.isSome_map] at h ⊢
  rw [Option.isSome_map]
  have hapi : "mta_".toList = ['m', 't', 'a', '_'] := rfl
  have huser : "mtu_".toList = ['m', 't', 'u', '_'] := rfl
  have hrequester : "mts_".toList = ['m', 't', 's', '_'] := rfl
  rw [hapi] at h
  rw [huser, hrequester]
  generalize token.toList = cs at h ⊢
  rcases cs with _ | ⟨a, _ | ⟨b, _ | ⟨c, rest⟩⟩⟩
  · cases h
  · simp [dropStart.dropChars] at h
  · simp [dropStart.dropChars] at h
  · simp only [dropStart.dropChars] at h ⊢
    by_cases hc : 'a' = c
    · subst hc
      simp
    · simp [hc] at h

/-- An API token is accepted on the row of its identifier, and only if that is enabled. -/
theorem found_apiToken (hparse : parseApiToken token = some (id, secret)) :
    Sends i (fun _ _ => True) (AcceptedOn (FoundApiToken i id))
      (verifyToken libs token) [] := by
  have htoken : (dropStart "mta_" token).isSome := by
    unfold parseApiToken at hparse
    cases hdrop : dropStart "mta_" token with
    | none =>
        rw [hdrop] at hparse
        cases hparse
    | some rest => rfl
  obtain ⟨huser, hrequester⟩ := dropStart_api htoken
  unfold verifyToken
  rw [if_neg (Bool.eq_false_iff.mp huser), if_neg (Bool.eq_false_iff.mp hrequester), if_pos htoken]
  unfold verifyTokenWithApiToken
  rw [hparse]
  refine ⟨trivial, fun r => Sends.ofExcept (fun found hr => ?_) fun _ _ => acceptedOn_error⟩
  refine Sends.ofOption (fun row hrow => ?_) fun _ => acceptedOn_error
  refine Sends.ensure (fun _ => ?_) fun _ => acceptedOn_error
  refine Sends.ensure (fun henabled => ?_) fun _ => acceptedOn_error
  cases r with
  | error e => cases hr
  | ok answer =>
      obtain rfl := Except.ok.inj hr
      subst hrow
      have hfound : FoundApiToken i id ([] ++ [⟨i, .getApiToken id, .ok (some row)⟩]) :=
        ⟨row, [], rfl, henabled⟩
      refine (Sends.keeps (K := FoundApiToken i id) (Prog.all_true _)
        (fun _ _ => trivial) (fun _ hf => hf.more) hfound).post fun _ _ hf _ _ => hf

end found

/-! ### Runs -/

/-- The pools of calls on the tables of sessions. -/
abbrev SessionPool (readOnly : Bool) : Type :=
  Pool (sessionService readOnly) OAuthFailure SessionReply

/-- There is a row of a user token with this hash. -/
def HasUserToken {readOnly : Bool} (t : Trace (sessionService readOnly)) (tokenHash : String) :
    Prop :=
  ∃ id row, (SessionStore.sessions t.state).now.userTokens.lookup id = some row ∧
    row.tokenHash = tokenHash

/-- There is a row of an API token with this identifier. -/
def HasApiToken {readOnly : Bool} (t : Trace (sessionService readOnly)) (id : String) : Prop :=
  ∃ row, (SessionStore.admin t.state).db.now.apiTokens.lookup id = some row

def ApiTokenEnabled {readOnly : Bool} (t : Trace (sessionService readOnly)) (id : String) : Prop :=
  ∃ row, (SessionStore.admin t.state).db.now.apiTokens.lookup id = some row ∧ row.enabled = true

def UserEnabled {readOnly : Bool} (t : Trace (sessionService readOnly)) (id : String) : Prop :=
  ∃ row, (SessionStore.admin t.state).db.now.users.lookup id = some row ∧ row.enabled = true

/-- All rows of user tokens with this hash that there are, or that program `i` has read, have `P`. -/
structure UserTokensHave {readOnly : Bool} (tokenHash : String) (i : ℕ)
    (P : Hydration.UserToken → Prop) (t : Trace (sessionService readOnly)) : Prop where
  rows : ∀ {id row}, (SessionStore.sessions t.state).now.userTokens.lookup id = some row →
    row.tokenHash = tokenHash → P row
  answers : ∀ {row}, ⟨i, .getUserTokenByHash tokenHash, .ok (some row)⟩ ∈ t.events → P row

/-- The row of the API token, now or as program `i` has read it, has `P` of its `enabled`. -/
structure ApiTokenHas {readOnly : Bool} (id : String) (i : ℕ) (P : Bool → Prop)
    (t : Trace (sessionService readOnly)) : Prop where
  row : ∀ {row}, (SessionStore.admin t.state).db.now.apiTokens.lookup id = some row → P row.enabled
  answers : ∀ {row}, ⟨i, .getApiToken id, .ok (some row)⟩ ∈ t.events → P row.enabled

/-- A call enables the API token between the two pools. -/
def EnablesApiToken (libs : SessionLibs) {readOnly : Bool} (c c' : SessionPool readOnly)
    (id : String) : Prop :=
  ∃ c₁ c₂ ev name, Run (sessionService readOnly) (IsSessionCall libs) c c₁ ∧
    Serves (sessionService readOnly) (IsSessionCall libs) c₁ c₂ ev ∧
    Run (sessionService readOnly) (IsSessionCall libs) c₂ c' ∧
    ev.op = .admin (.updateApiToken id name true) ∧ ¬ ApiTokenEnabled c₁.trace id ∧
    ApiTokenEnabled c₂.trace id

/-- A call enables the user between the two pools. -/
def EnablesUser (libs : SessionLibs) {readOnly : Bool} (c c' : SessionPool readOnly)
    (id : String) : Prop :=
  ∃ c₁ c₂ ev name, Run (sessionService readOnly) (IsSessionCall libs) c c₁ ∧
    Serves (sessionService readOnly) (IsSessionCall libs) c₁ c₂ ev ∧
    Run (sessionService readOnly) (IsSessionCall libs) c₂ c' ∧
    ev.op = .admin (.updateUser id (.fields name true)) ∧ ¬ UserEnabled c₁.trace id ∧
    UserEnabled c₂.trace id

/-- The clock has come to `time`, and program `i` has read it only since. -/
structure ClockPast {readOnly : Bool} (time i : ℕ) (t : Trace (sessionService readOnly)) : Prop where
  now : time ≤ SessionStore.clock t.state
  answers : ∀ {now}, ⟨i, .admin .clock, now⟩ ∈ t.events → time ≤ now

/-- A touch of a user token is served before the `expires_at` that its row has by then. -/
def TouchesLive {readOnly : Bool} (c : SessionPool readOnly) (ev : SessionEvent) : Prop :=
  ∀ id now row, ev.op = .touchUserToken id now →
    (SessionStore.sessions c.trace.state).now.userTokens.lookup id = some row →
    SessionStore.clock c.trace.state < row.expiresAt

/-- Program `i` verifies `token`, and it was accepted. -/
structure Authenticates (libs : SessionLibs) {readOnly : Bool} (c : SessionPool readOnly) (i : ℕ)
    (token : String) : Prop where
  plays : c.Plays i (verifyToken libs token)
  accepted : ∃ reply, c.threads[i]? = some (.done reply)

/-- Program `i` has sent a request. -/
def Began {readOnly : Bool} (c : SessionPool readOnly) (i : ℕ) : Prop :=
  ownEvents i c.trace.events ≠ []

section run
variable {libs : SessionLibs} {readOnly : Bool} {c c' : SessionPool readOnly} {ev : SessionEvent}

/-- What is known of a request that is served. -/
theorem SessionReachable.served (h : SessionReachable libs c)
    (hserves : Serves (sessionService readOnly) (IsSessionCall libs) c c' ev) :
    ∃ e, (sessionService readOnly).Allowed c.trace.state e ∧
      c'.trace = c.trace.serve ev.caller e ev.op ∧
      ev.res = (SessionStore.serve c.trace.state e readOnly ev.op).1 ∧
      ev.op.ordered libs ev.caller (ownEvents ev.caller c.trace.events) := by
  obtain ⟨e, k, hk, he, htrace, hres⟩ := hserves.trace
  obtain ⟨p₀, hp₀, hpath⟩ := (Run.started h (.init _)).path hk
  exact ⟨e, he, htrace, hres, (rules_call hp₀ ev.caller).waits hpath⟩

/-- The rows of an issued user token keep `P` if no row with `P` is touched. -/
theorem UserTokensHave.serve {tokenHash nonce : String} {i : ℕ} {P : Hydration.UserToken → Prop}
    (hc : SessionReachable libs c)
    (hserves : Serves (sessionService readOnly) (IsSessionCall libs) c c' ev)
    (hissued : TokenIssued drawsNonce nonce SessionOp.createsUserToken c.trace.events)
    (hinj : ∀ j nonce', drawsNonce j nonce' ∈ c.trace.events →
      userTokenHash libs nonce' = userTokenHash libs nonce → nonce' = nonce)
    (hhash : tokenHash = userTokenHash libs nonce)
    (htouch : ∀ id row now, ev.op = .touchUserToken id now →
      (SessionStore.sessions c.trace.state).now.userTokens.lookup id = some row → ¬ P row)
    (h : UserTokensHave tokenHash i P c.trace) : UserTokensHave tokenHash i P c'.trace := by
  obtain ⟨e, he, htrace, hres, hG⟩ := hc.served hserves
  subst hhash
  refine ⟨fun {id row} hrow hrowhash => ?_, fun {row} hmem => ?_⟩
  · rw [htrace] at hrow
    obtain ⟨row₀, hrow₀, hhash₀, heq⟩ := hc.invariant.userToken_from hG hissued hinj hrow hrowhash
    rcases heq with rfl | ⟨now, hop⟩
    · exact h.rows hrow₀ hhash₀
    · exact absurd (h.rows hrow₀ hhash₀) (htouch id row₀ now hop hrow₀)
  · rw [hserves.2, List.mem_append, List.mem_singleton] at hmem
    rcases hmem with hmem | rfl
    · exact h.answers hmem
    · obtain ⟨id, hrow, hrowhash⟩ := userTokenByHash_some (Fault.read_ok hres.symm)
      exact h.rows hrow hrowhash

/-- The row of an issued API token keeps `P` if no update sets an `enabled` without it. -/
theorem ApiTokenHas.serve {id : String} {i : ℕ} {P : Bool → Prop} (hc : SessionReachable libs c)
    (hserves : Serves (sessionService readOnly) (IsSessionCall libs) c c' ev)
    (hissued : TokenIssued drawsId id SessionOp.createsApiToken c.trace.events)
    (hupdate : ∀ row row' name, ev.op = .admin (.updateApiToken id name row'.enabled) →
      (SessionStore.admin c.trace.state).db.now.apiTokens.lookup id = some row → P row.enabled →
      (SessionStore.admin c'.trace.state).db.now.apiTokens.lookup id = some row' → P row'.enabled)
    (h : ApiTokenHas id i P c.trace) : ApiTokenHas id i P c'.trace := by
  obtain ⟨e, he, htrace, hres, hG⟩ := hc.served hserves
  refine ⟨fun {row} hrow => ?_, fun {row} hmem => ?_⟩
  · have hrow' := hrow
    rw [htrace] at hrow'
    obtain ⟨row₀, hrow₀, heq⟩ := hc.invariant.apiToken_from hG hissued hrow'
    rcases heq with rfl | ⟨name, enabled, hop, henabled⟩
    · exact h.row hrow₀
    · exact hupdate row₀ row name (henabled ▸ hop) hrow₀ (h.row hrow₀) hrow
  · rw [hserves.2, List.mem_append, List.mem_singleton] at hmem
    rcases hmem with hmem | rfl
    · exact h.answers hmem
    · have hread := Except.ok.inj (Fault.read_ok hres.symm)
      obtain ⟨row₀, hrow₀, rfl⟩ := Option.map_eq_some_iff.mp hread
      exact h.row hrow₀

theorem ClockPast.serve {time i : ℕ} (hc : SessionReachable libs c)
    (hserves : Serves (sessionService readOnly) (IsSessionCall libs) c c' ev)
    (h : ClockPast time i c.trace) : ClockPast time i c'.trace := by
  obtain ⟨e, he, htrace, hres, -⟩ := hc.served hserves
  have hpast : time ≤ e.now := h.now.trans he.2.2.1
  refine ⟨?_, fun {now} hmem => ?_⟩
  · rw [htrace]
    show time ≤ (SessionStore.serve c.trace.state e readOnly ev.op).2.clock
    rw [(SessionStore.serve_drawn _ _ _ _).1]
    exact hpast
  · rw [hserves.2, List.mem_append, List.mem_singleton] at hmem
    rcases hmem with hmem | rfl
    · exact h.answers hmem
    · have hnow : now = e.now := hres
      exact hnow ▸ hpast

theorem UserTokensHave.init {tokenHash : String} {i : ℕ} {P : Hydration.UserToken → Prop}
    (hrows : ∀ {id row}, (SessionStore.sessions c.trace.state).now.userTokens.lookup id = some row →
      row.tokenHash = tokenHash → P row) (hbegan : ¬ Began c i) :
    UserTokensHave tokenHash i P c.trace := by
  refine ⟨hrows, fun {row} hmem => ?_⟩
  have hown := mem_ownEvents.mpr ⟨hmem, rfl⟩
  rw [not_not.mp hbegan] at hown
  cases hown

theorem ApiTokenHas.init {id : String} {i : ℕ} {P : Bool → Prop}
    (hrow : ∀ {row}, (SessionStore.admin c.trace.state).db.now.apiTokens.lookup id = some row →
      P row.enabled) (hbegan : ¬ Began c i) : ApiTokenHas id i P c.trace := by
  refine ⟨hrow, fun {row} hmem => ?_⟩
  have hown := mem_ownEvents.mpr ⟨hmem, rfl⟩
  rw [not_not.mp hbegan] at hown
  cases hown

theorem ClockPast.init {i : ℕ} (hbegan : ¬ Began c i) :
    ClockPast (SessionStore.clock c.trace.state) i c.trace := by
  refine ⟨Nat.le_refl _, fun {now} hmem => ?_⟩
  have hown := mem_ownEvents.mpr ⟨hmem, rfl⟩
  rw [not_not.mp hbegan] at hown
  cases hown

/-- A user token whose rows have `P` is accepted later only on a row with `P`, if no row with `P` is
touched. -/
theorem Authenticates.on_userToken {token tokenHash nonce : String} {i : ℕ}
    {P : Hydration.UserToken → Prop} {ok : SessionPool readOnly → SessionEvent → Prop}
    (hc : SessionReachable libs c)
    (h : GuardedRun (sessionService readOnly) (IsSessionCall libs) ok c c')
    (hinj : Set.InjOn (userTokenHash libs) {nonce | ∃ j, drawsNonce j nonce ∈ c'.trace.events})
    (htoken : (dropStart "mtu_" token).isSome) (hhash : libs.sha256Hex token = tokenHash)
    (hissued : TokenIssued drawsNonce nonce SessionOp.createsUserToken c.trace.events)
    (hnonce : tokenHash = userTokenHash libs nonce)
    (hrows : ∀ {id row}, (SessionStore.sessions c.trace.state).now.userTokens.lookup id = some row →
      row.tokenHash = tokenHash → P row)
    (htouch : ∀ c₁ ev, SessionStore.clock c.trace.state ≤ SessionStore.clock c₁.trace.state →
      ok c₁ ev → ∀ id row now, ev.op = .touchUserToken id now →
      (SessionStore.sessions c₁.trace.state).now.userTokens.lookup id = some row → ¬ P row)
    (hbegan : ¬ Began c i) (haccepts : Authenticates libs c' i token) :
    ∃ row now, P row ∧ now < row.expiresAt ∧ SessionStore.clock c.trace.state ≤ now := by
  have hdrew : nonce ∈ {nonce | ∃ j, drawsNonce j nonce ∈ c'.trace.events} := by
    obtain ⟨j, hdrew, -⟩ := hissued
    exact ⟨j, (Run.grows h.run).subset hdrew⟩
  have hkept : UserTokensHave tokenHash i P c'.trace ∧
      ClockPast (SessionStore.clock c.trace.state) i c'.trace := by
    refine GuardedRun.keeps (K := fun t => UserTokensHave tokenHash i P t ∧
      ClockPast (SessionStore.clock c.trace.state) i t)
      (fun {c₁ c₂ ev} hrun hserves hafter hok hK => ?_) h ⟨.init hrows hbegan, .init hbegan⟩
    have hreach : SessionReachable libs c₁ := Relation.ReflTransGen.trans hc hrun
    refine ⟨hK.1.serve hreach hserves (hissued.mono fun _ hev => (Run.grows hrun).subset hev)
      (fun j nonce' hdrew' heq => ?_) hnonce (htouch c₁ ev hK.2.now hok), hK.2.serve hreach hserves⟩
    exact hinj ⟨j, (Run.grows (hafter.head hserves.1)).subset hdrew'⟩ hdrew heq
  obtain ⟨reply, hreply⟩ := haccepts.accepted
  have hfound := haccepts.plays.done hreply (found_userToken htoken) reply rfl
  rw [hhash] at hfound
  obtain ⟨row, now, rest, hown, hlive⟩ := hfound
  have hlookup := (mem_ownEvents.mp (hown ▸ List.mem_cons_self)).1
  have hclock := (mem_ownEvents.mp (hown ▸ List.mem_cons_of_mem _ List.mem_cons_self)).1
  exact ⟨row, now, hkept.1.answers hlookup, hlive, hkept.2.answers hclock⟩

/-- An API token whose row has `P` is accepted later only on an enabled row with `P`, if no update
gives the row an `enabled` without `P`. -/
theorem Authenticates.on_apiToken {token id secret : String} {i : ℕ} {P : Bool → Prop}
    (hc : SessionReachable libs c)
    (h : Run (sessionService readOnly) (IsSessionCall libs) c c')
    (hparse : parseApiToken token = some (id, secret))
    (hissued : TokenIssued drawsId id SessionOp.createsApiToken c.trace.events)
    (hrow : ∀ {row}, (SessionStore.admin c.trace.state).db.now.apiTokens.lookup id = some row →
      P row.enabled)
    (hupdate : ∀ c₁ c₂ ev, Run (sessionService readOnly) (IsSessionCall libs) c c₁ →
      Serves (sessionService readOnly) (IsSessionCall libs) c₁ c₂ ev →
      Run (sessionService readOnly) (IsSessionCall libs) c₂ c' →
      ∀ row row' name, ev.op = .admin (.updateApiToken id name row'.enabled) →
      (SessionStore.admin c₁.trace.state).db.now.apiTokens.lookup id = some row → P row.enabled →
      (SessionStore.admin c₂.trace.state).db.now.apiTokens.lookup id = some row' → P row'.enabled)
    (hbegan : ¬ Began c i) (haccepts : Authenticates libs c' i token) : P true := by
  have hkept : ApiTokenHas id i P c'.trace := by
    refine GuardedRun.keeps (K := ApiTokenHas id i P)
      (fun {c₁ c₂ ev} hrun hserves hafter _ hK => ?_) (Run.guarded h) (.init hrow hbegan)
    exact hK.serve (Relation.ReflTransGen.trans hc hrun) hserves
      (hissued.mono fun _ hev => (Run.grows hrun).subset hev)
      (hupdate c₁ c₂ ev hrun hserves hafter)
  obtain ⟨reply, hreply⟩ := haccepts.accepted
  obtain ⟨row, rest, hown, henabled⟩ :=
    haccepts.plays.done hreply (found_apiToken hparse) reply rfl
  rw [← henabled]
  exact hkept.answers (mem_ownEvents.mp (hown ▸ List.mem_cons_self)).1

/-- A user that is disabled is not let in on a later read of his account, unless a call enables him. -/
theorem AccountSeen.before {userId : String} {i : ℕ} (hc : SessionReachable libs c)
    (h : Run (sessionService readOnly) (IsSessionCall libs) c c') {row : UserRow}
    (hrow : (SessionStore.admin c.trace.state).db.now.users.lookup userId = some row)
    (hdisabled : row.enabled = false) (hkept : ¬ EnablesUser libs c c' userId)
    (hseen : AccountSeen i userId c'.trace.events) : AccountSeen i userId c.trace.events := by
  have hall : (∃ d, (SessionStore.admin c'.trace.state).db.Committed d ∧
      (d.users.lookup userId).isSome) ∧ ¬ UserEnabled c'.trace userId ∧
      (AccountSeen i userId c'.trace.events → AccountSeen i userId c.trace.events) := by
    refine GuardedRun.keeps (K := fun t => (∃ d, (SessionStore.admin t.state).db.Committed d ∧
      (d.users.lookup userId).isSome) ∧ ¬ UserEnabled t userId ∧
      (AccountSeen i userId t.events → AccountSeen i userId c.trace.events))
      (fun {c₁ c₂ ev} hrun hserves hafter _ hK => ?_) (Run.guarded h) ⟨?_, ?_, id⟩
    · obtain ⟨⟨d, hd, hexists⟩, hoff, hbefore⟩ := hK
      have hreach : SessionReachable libs c₁ := Relation.ReflTransGen.trans hc hrun
      obtain ⟨e, he, htrace, hres, -⟩ := hreach.served hserves
      refine ⟨⟨d, ?_, hexists⟩, fun hon => ?_, fun hnow => ?_⟩
      · rw [htrace]
        rcases SessionStore.serve_admin c₁.trace.state e readOnly ev.op with heq | ⟨_, _, _, _, heq⟩
        · exact heq ▸ hd
        · exact heq ▸ Replica.committed_write _ hd
      · -- the step that enables the user
        refine hkept ⟨c₁, c₂, ev, ?_⟩
        obtain ⟨row', hrow', henabled⟩ := hon
        have hnext := hrow'
        rw [htrace] at hnext
        obtain ⟨row₀, hrow₀, heq⟩ := user_from he hd hexists hnext
        rcases heq with rfl | ⟨change, hop, rfl⟩
        · exact absurd ⟨_, hrow₀, henabled⟩ hoff
        · cases change with
          | fields name enabled =>
              obtain rfl : enabled = true := henabled
              exact ⟨name, hrun, hserves, hafter, hop, hoff, _, hrow', rfl⟩
          | setEmail email => exact absurd ⟨_, hrow₀, henabled⟩ hoff
      · obtain ⟨account, hmem, henabled⟩ := hnow
        rw [hserves.2, List.mem_append, List.mem_singleton] at hmem
        rcases hmem with hmem | rfl
        · exact hbefore ⟨account, hmem, henabled⟩
        · have hread := Except.ok.inj (Fault.read_ok hres.symm)
          obtain ⟨row₀, hrow₀, rfl⟩ := Option.map_eq_some_iff.mp hread
          exact absurd ⟨row₀, hrow₀, henabled⟩ hoff
    · exact ⟨_, Replica.committed_now _, by rw [hrow]; rfl⟩
    · rintro ⟨row', hrow', henabled⟩
      rw [hrow, Option.some.injEq] at hrow'
      rw [← hrow', hdisabled] at henabled
      cases henabled
  exact hall.2.2 hseen

/-- A token whose row was deleted, an API token that was disabled, a user token that expired and a
token of a disabled user: none is accepted later, by a request that had not begun (or, for the
user, had not read his account), unless a call enables the API token or the user.  For the expired
token no touch may be served after the `expires_at` that its row has by then. -/
theorem revocation_permanent {c₁ : SessionPool readOnly} (hc₁ : SessionReachable libs c₁)
    (h : Run (sessionService readOnly) (IsSessionCall libs) c₁ c)
    (hinj : Set.InjOn (userTokenHash libs) {nonce | ∃ j, drawsNonce j nonce ∈ c.trace.events}) :
    -- a user token that was deleted
    (∀ c₀ i token, SessionReachable libs c₀ →
      Run (sessionService readOnly) (IsSessionCall libs) c₀ c₁ →
      (dropStart "mtu_" token).isSome → HasUserToken c₀.trace (libs.sha256Hex token) →
      ¬ HasUserToken c₁.trace (libs.sha256Hex token) → Authenticates libs c i token →
      Began c₁ i) ∧
    -- an API token that was deleted
    (∀ c₀ i token id secret, SessionReachable libs c₀ →
      Run (sessionService readOnly) (IsSessionCall libs) c₀ c₁ →
      parseApiToken token = some (id, secret) → HasApiToken c₀.trace id →
      ¬ HasApiToken c₁.trace id → Authenticates libs c i token → Began c₁ i) ∧
    -- an API token that is disabled
    (∀ i token id secret, parseApiToken token = some (id, secret) → HasApiToken c₁.trace id →
      ¬ ApiTokenEnabled c₁.trace id → Authenticates libs c i token →
      Began c₁ i ∨ EnablesApiToken libs c₁ c id) ∧
    -- a user token that has expired
    (∀ i token, GuardedRun (sessionService readOnly) (IsSessionCall libs) TouchesLive c₁ c →
      (dropStart "mtu_" token).isSome → HasUserToken c₁.trace (libs.sha256Hex token) →
      (∀ id row, (SessionStore.sessions c₁.trace.state).now.userTokens.lookup id = some row →
        row.tokenHash = libs.sha256Hex token → row.expiresAt ≤ SessionStore.clock c₁.trace.state) →
      Authenticates libs c i token → Began c₁ i) ∧
    -- a user who is disabled
    (∀ i userId row reply memberships isSuperuser,
      (SessionStore.admin c₁.trace.state).db.now.users.lookup userId = some row →
      row.enabled = false → c.threads[i]? = some (.done reply) →
      reply.principal = some (.user userId memberships isSuperuser) →
      AccountSeen i userId c₁.trace.events ∨ EnablesUser libs c₁ c userId) := by
  refine ⟨?_, ?_, ?_, ?_, ?_⟩
  · intro c₀ i token hc₀ hrun htoken hrow hgone haccepts
    by_contra hbegan
    obtain ⟨id, row, hrow, hhash⟩ := hrow
    obtain ⟨-, nonce, hnonce, hissued⟩ := hc₀.invariant.userTokens hrow
    obtain ⟨row', now, hfalse, -⟩ := haccepts.on_userToken (P := fun _ => False) hc₁ (Run.guarded h)
      hinj htoken rfl (hissued.mono fun _ hev => (Run.grows hrun).subset hev) (hhash.symm.trans hnonce)
      (fun hrow hhash => hgone ⟨_, _, hrow, hhash⟩) (fun _ _ _ _ _ _ _ _ _ => not_false) hbegan
    exact hfalse
  · intro c₀ i token id secret hc₀ hrun hparse hrow hgone haccepts
    by_contra hbegan
    obtain ⟨row, hrow⟩ := hrow
    have hissued := (hc₀.invariant.apiTokens hrow).2.mono fun _ hev => (Run.grows hrun).subset hev
    exact haccepts.on_apiToken (P := fun _ => False) hc₁ h hparse hissued
      (fun hrow => hgone ⟨_, hrow⟩) (fun _ _ _ _ _ _ _ _ _ _ _ hfalse _ => hfalse) hbegan
  · intro i token id secret hparse hrow hoff haccepts
    by_contra hnot
    obtain ⟨hbegan, hkept⟩ := not_or.mp hnot
    obtain ⟨row, hrow⟩ := hrow
    have hfalse := haccepts.on_apiToken (P := fun enabled => enabled = false) hc₁ h hparse
      (hc₁.invariant.apiTokens hrow).2
      (fun hrow' => eq_false_of_ne_true fun henabled => hoff ⟨_, hrow', henabled⟩) ?_ hbegan
    · cases hfalse
    intro c₂ c₃ ev hrun hserves hafter row₂ row₃ name hop hrow₂ hoff₂ hrow₃
    by_contra hon
    have henabled := eq_true_of_ne_false hon
    rw [henabled] at hop
    refine hkept ⟨c₂, c₃, ev, name, hrun, hserves, hafter, hop, ?_, row₃, hrow₃, henabled⟩
    rintro ⟨row', hrow', henabled'⟩
    rw [hrow₂, Option.some.injEq] at hrow'
    rw [← hrow', hoff₂] at henabled'
    cases henabled'
  · intro i token hguarded htoken hrow hexpired haccepts
    by_contra hbegan
    obtain ⟨id, row, hrow, hhash⟩ := hrow
    obtain ⟨-, nonce, hnonce, hissued⟩ := hc₁.invariant.userTokens hrow
    have htouch : ∀ (c₂ : SessionPool readOnly) ev,
        SessionStore.clock c₁.trace.state ≤ SessionStore.clock c₂.trace.state → TouchesLive c₂ ev →
        ∀ id row now, ev.op = .touchUserToken id now →
        (SessionStore.sessions c₂.trace.state).now.userTokens.lookup id = some row →
        ¬ row.expiresAt ≤ SessionStore.clock c₁.trace.state := by
      intro c₂ ev hclock hok id row now hop hrow
      have hlive := hok id now row hop hrow
      omega
    obtain ⟨row', now, hdead, hlive, hpast⟩ := haccepts.on_userToken
      (P := fun row => row.expiresAt ≤ SessionStore.clock c₁.trace.state) hc₁ hguarded hinj htoken rfl
      hissued (hhash.symm.trans hnonce) (hexpired _ _) htouch hbegan
    omega
  · intro i userId row reply memberships isSuperuser hrow hdisabled hdone hprincipal
    by_contra hnot
    obtain ⟨hunseen, hkept⟩ := not_or.mp hnot
    obtain ⟨p₀, hp₀, hpath⟩ := (Run.started (Relation.ReflTransGen.trans hc₁ h) (.init _)).path hdone
    obtain ⟨account, hmem, henabled⟩ :=
      (seen_call hp₀).done hpath reply userId memberships isSuperuser rfl hprincipal
    exact hunseen (AccountSeen.before hc₁ h hrow hdisabled hkept
      ⟨account, (mem_ownEvents.mp hmem).1, henabled⟩)

end run

/-! ### Sample runs -/

def sampleSessionLibs : SessionLibs where
  toLowercase := id
  debug s := "\"" ++ s ++ "\""
  sha256Hex := id
  parseSubmitToken _ := .error "expected value"
  oauth := sampleOAuthLibs

abbrev sampleSessions : Service SessionOp SessionOp.Res := sessionService false

abbrev SessionMove : Type := Move sampleSessions (IsSessionCall sampleSessionLibs)

def sessionStart (call : SessionCall) : SessionMove :=
  .start (call.program sampleSessionLibs) ⟨call, rfl⟩

/-- A name of its own for every choice. -/
def drawnName (first : Char) (n : ℕ) : String := String.ofList (first :: Nat.toDigits 10 n)

/-- The `n`-th choice, at the time `now`; the requests of OAuth are not used. -/
def sampleSessionEnv (n now : ℕ) : SessionEnv where
  now := now
  newId := drawnName 'i' n
  nonce := drawnName 'n' n
  lag := 0
  fault := .none
  superuser := false
  oauth
    | .clock => now
    | .newId | .generateNonce _ => "x"
    | .expire .. => ()
    | .getEphemeralState _ | .getOAuthGrant _ | .getUser _ | .listMembershipsByUser _ =>
        .error connectionLost
    | .putEphemeralState .. | .deleteEphemeralState _ | .createOAuthGrant _
    | .updateOAuthGrant .. | .deleteOAuthGrant _ | .updateUserAccessTime _ => .error connectionLost

def sessionAdmin : Option AuthInfo := some (.user "root" [] true)

/-- A user is created and signs in; he presents his token, is disabled and enabled, presents it again,
signs out and presents it once more. -/
def sampleSessionCalls : List SessionCall :=
  [.admin (.createUser sessionAdmin "ann@example.org" "Ann"), .createUserSession "i1",
    .verifyToken "mtu_n2", .admin (.updateUser sessionAdmin "i1" "Ann" "ann@example.org" false),
    .admin (.updateUser sessionAdmin "i1" "Ann" "ann@example.org" true), .verifyToken "mtu_n2",
    .logout (some (.user "i1" [] false)) (some "i5"), .verifyToken "mtu_n2"]

/-- The requests of the programs in this order, each at its time, from the `n`-th choice on. -/
def sessionServes (n : ℕ) (order : List (ℕ × ℕ)) : List SessionMove :=
  order.mapIdx fun k (i, now) => .serve i (sampleSessionEnv (n + k) now)

/-- The user has signed in, at the time 1000. -/
def signedIn : SessionPool false :=
  (Pool.init (S := sampleSessions) emptySessionStore).play
    (sampleSessionCalls.map sessionStart ++
      sessionServes 0 [(0, 1000), (0, 1000), (1, 1000), (1, 1000), (1, 1000), (1, 1000)])

/-- His first request finds the token live, he is disabled, and the token expires before the touch. -/
def expiredPool : SessionPool false :=
  signedIn.play (sessionServes 6 [(2, 29799), (2, 29799), (3, 29799), (3, 29799), (2, 29801)])

/-- The touch is served, he is enabled, and presents the token again. -/
def revivedPool : SessionPool false :=
  expiredPool.play (sessionServes 11 ([(2, 29801), (2, 29801), (4, 29801), (4, 29801)] ++
    List.replicate 9 (5, 30000)))

/-- He signs out instead, and presents the token. -/
def signedOut : SessionPool false := signedIn.play (sessionServes 6 [(6, 1001)])

def rejectedPool : SessionPool false := signedOut.play (sessionServes 7 [(7, 1002)])

theorem sampleSessionHash_inj : Function.Injective (userTokenHash sampleSessionLibs) :=
  fun _ _ heq => (String.append_right_inj _).mp heq

theorem signedIn_reachable : SessionReachable sampleSessionLibs signedIn := Pool.play_run _ _

theorem signedIn_plays (i : ℕ) (call : SessionCall) (hcall : sampleSessionCalls[i]? = some call) :
    signedIn.Plays i (call.program sampleSessionLibs) :=
  Pool.calls_plays (S := sampleSessions) hcall

/-- What the sample runs come to. -/
theorem session_runs :
    (signedIn.trace.state.sessions.now.userTokens.lookup "i5").map (·.tokenHash) = some "mtu_n2" ∧
    ownEvents 7 signedOut.trace.events = [] ∧
    signedOut.trace.state.sessions.now.userTokens.entries = [] ∧
    (expiredPool.trace.state.sessions.now.userTokens.lookup "i5").map (·.tokenHash) = some "mtu_n2" ∧
    (expiredPool.trace.state.sessions.now.userTokens.entries.all fun entry =>
      decide (entry.2.expiresAt ≤ expiredPool.trace.state.clock)) ∧
    ownEvents 5 expiredPool.trace.events = [] ∧
    revivedPool.value 5 = some (.verified (.user "i1" [] false) (some "i5")) := by decide +kernel

/-- A token whose row was deleted is not accepted. -/
theorem revocation_permanent_sample : ¬ Authenticates sampleSessionLibs rejectedPool 7 "mtu_n2" := by
  obtain ⟨hrow, hbegan, hgone, -⟩ := session_runs
  have hrun : Run sampleSessions (IsSessionCall sampleSessionLibs) signedIn signedOut :=
    Pool.play_run _ _
  obtain ⟨row, hrow, hhash⟩ := Option.map_eq_some_iff.mp hrow
  refine fun haccepts => (revocation_permanent (signedIn_reachable.trans hrun) (Pool.play_run _ _)
    sampleSessionHash_inj.injOn).1 signedIn 7 "mtu_n2" signedIn_reachable hrun (by decide)
    ⟨"i5", row, hrow, hhash⟩ ?_ haccepts hbegan
  rintro ⟨id, row', hrow', -⟩
  have hmem := AList.mem_lookup_iff.mp hrow'
  rw [hgone] at hmem
  cases hmem

/-- A request that found its token live touches it after it has expired, and is not let in; a later
request is. -/
theorem late_touch_revives : ¬ ∀ (libs : SessionLibs) (readOnly : Bool) (c₁ c : SessionPool readOnly),
    SessionReachable libs c₁ → Run (sessionService readOnly) (IsSessionCall libs) c₁ c →
    Set.InjOn (userTokenHash libs) {nonce | ∃ j, drawsNonce j nonce ∈ c.trace.events} →
    ∀ i token, (dropStart "mtu_" token).isSome → HasUserToken c₁.trace (libs.sha256Hex token) →
      (∀ id row, (SessionStore.sessions c₁.trace.state).now.userTokens.lookup id = some row →
        row.tokenHash = libs.sha256Hex token → row.expiresAt ≤ SessionStore.clock c₁.trace.state) →
      Authenticates libs c i token → Began c₁ i := by
  intro hclaim
  obtain ⟨-, -, -, hrow, hexpired, hbegan, hvalue⟩ := session_runs
  have hrun : Run sampleSessions (IsSessionCall sampleSessionLibs) signedIn expiredPool :=
    Pool.play_run _ _
  have hrun' : Run sampleSessions (IsSessionCall sampleSessionLibs) expiredPool revivedPool :=
    Pool.play_run _ _
  obtain ⟨row, hrow, hhash⟩ := Option.map_eq_some_iff.mp hrow
  refine hclaim sampleSessionLibs false expiredPool revivedPool (signedIn_reachable.trans hrun) hrun'
    sampleSessionHash_inj.injOn 5 "mtu_n2" (by decide) ⟨"i5", row, hrow, hhash⟩ ?_ ?_ hbegan
  · intro id row' hrow' _
    have hone := List.all_eq_true.mp hexpired _ (AList.mem_lookup_iff.mp hrow')
    exact of_decide_eq_true hone
  · exact ⟨((signedIn_plays 5 (.verifyToken "mtu_n2") rfl).run hrun).run hrun', _,
      Pool.value_some hvalue⟩

end Microticket

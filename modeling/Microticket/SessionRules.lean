import Microticket.Sessions

/-! # The rules of sessions

Every call keeps two rules, whatever it is answered: it creates at most one token, and the hash or
the identifier under which it stores that token comes from what it has drawn itself (`rules_call`).
As nothing is drawn twice, the row of a token is only ever stored by one program, and only once, so a
row that is gone does not come back (`TokenIssued.once`). -/

namespace Microticket

open Interleaving Tables RustText

/-! ### The rules of all calls -/

/-- The requests that create a user token, and those that create an API token. -/
def SessionOp.createsUserToken : SessionOp → Bool
  | .createUserToken .. => true
  | _ => false

def SessionOp.createsApiToken : SessionOp → Bool
  | .admin op => op.createsToken
  | _ => false

/-- The history has no request with `P`. -/
def Uncreated (P : SessionOp → Bool) (h : List SessionEvent) : Prop := ∀ ev ∈ h, P ev.op = false

/-- What the rules ask of a request: a token is created once, of what the program has drawn. -/
def SessionOp.ordered (libs : SessionLibs) (i : ℕ) (h : List SessionEvent) : SessionOp → Prop
  | .createUserToken tokenHash _ _ _ => Uncreated SessionOp.createsUserToken h ∧
      ∃ nonce, ⟨i, .admin (.generateNonce 32), nonce⟩ ∈ h ∧
        tokenHash = libs.sha256Hex ("mtu_" ++ nonce)
  | .admin (.createApiToken id _ _ _ _) => Uncreated SessionOp.createsApiToken h ∧
      ⟨i, .admin .newId, id⟩ ∈ h
  | _ => True

/-- The requests that create no token. -/
def SessionOp.plain (op : SessionOp) : Bool := !op.createsUserToken && !op.createsApiToken

section rules
variable {libs : SessionLibs} {i : ℕ} {h : List SessionEvent} {op : SessionOp} {ε α : Type}

/-- A program that keeps the rules. -/
abbrev KeepsRules (libs : SessionLibs) (i : ℕ) (p : Prog SessionOp SessionOp.Res ε α)
    (h : List SessionEvent) : Prop :=
  Sends i (fun h op => op.ordered libs i h) (fun _ _ => True) p h

theorem SessionOp.ordered_of_plain (hop : op.plain) : op.ordered libs i h := by
  cases op with
  | createUserToken => cases hop
  | admin op =>
      cases op with
      | createApiToken => cases hop
      | _ => trivial
  | _ => trivial

theorem rules_of_plain {p : Prog SessionOp SessionOp.Res ε α} (hp : p.All fun op => op.plain) :
    KeepsRules libs i p h :=
  Sends.of_all hp SessionOp.ordered_of_plain

theorem plain_session (op : OAuthOp) : op.session.All fun op => op.plain := by
  cases op with
  | updateUserAccessTime id => exact ⟨rfl, fun now => ⟨rfl, fun r => trivial⟩⟩
  | _ => exact ⟨rfl, fun r => trivial⟩

theorem plain_fetchAuthInfo (userId : String) : (fetchAuthInfo userId).All fun op => op.plain := by
  unfold fetchAuthInfo
  refine Prog.All.bind ((Prog.all_true _).translate fun op _ => plain_session op) fun answer => ?_
  exact Prog.all_ofExcept _

theorem plain_skipDisabled (answer : Except DbError Unit) :
    (skipDisabled answer).All fun op => op.plain := by
  unfold skipDisabled
  split <;> trivial

theorem plain_touchUserToken (row : Hydration.UserToken) (now : ℕ) :
    (touchUserToken row now).All fun op => op.plain := by
  unfold touchUserToken
  split
  · exact ⟨rfl, fun touched => ⟨rfl, fun answer => plain_skipDisabled answer⟩⟩
  · trivial

theorem plain_touchApiToken (row : Hydration.ApiToken) (now : ℕ) :
    (touchApiToken row now).All fun op => op.plain := by
  unfold touchApiToken
  split
  · exact ⟨rfl, fun touched => ⟨rfl, fun answer => plain_skipDisabled answer⟩⟩
  · trivial

theorem plain_verifyToken (token : String) : (verifyToken libs token).All fun op => op.plain := by
  unfold verifyToken
  split
  · refine ⟨rfl, fun r => (Prog.all_ofExcept _).bind fun found => ?_⟩
    refine (Prog.all_ofOption ..).bind fun row => ⟨rfl, fun now => ?_⟩
    refine (Prog.all_ensure ..).bind fun _ => (plain_touchUserToken row now).bind fun _ => ?_
    exact (plain_fetchAuthInfo _).bind fun info => trivial
  · split
    · refine ⟨rfl, fun r => (Prog.all_ofExcept _).bind fun found => ?_⟩
      refine (Prog.all_ofOption ..).bind fun state => ⟨rfl, fun now => ?_⟩
      refine (Prog.all_ensure ..).bind fun _ => (Prog.all_ofExcept _).bind fun payload => ?_
      trivial
    · split
      · refine (Prog.all_ofOption ..).bind fun parsed => ⟨rfl, fun r => ?_⟩
        refine (Prog.all_ofExcept _).bind fun found => (Prog.all_ofOption ..).bind fun row => ?_
        refine (Prog.all_ensure ..).bind fun _ => (Prog.all_ensure ..).bind fun _ => ?_
        exact ⟨rfl, fun now => (plain_touchApiToken row now).bind fun _ => trivial⟩
      · trivial

theorem rules_createUserSession (userId : String) :
    KeepsRules libs i (createUserSession libs userId) [] := by
  refine ⟨trivial, fun nonce => ⟨trivial, fun issued => ⟨trivial, fun now => ⟨⟨?_, nonce, ?_, rfl⟩,
    fun r => ?_⟩⟩⟩⟩
  · intro ev hev
    simp only [List.nil_append, List.cons_append, List.mem_cons, List.not_mem_nil, or_false] at hev
    rcases hev with rfl | rfl | rfl <;> rfl
  · exact List.mem_cons_self
  · cases r <;> trivial

/-! ### Administrative calls -/

/-- A request of an administrative mutation, with its answer. -/
def AdminEvent.session (ev : AdminEvent) : SessionEvent := ⟨ev.caller, .admin ev.op, ev.res⟩

/-- The rules, for an administrative mutation. -/
def AdminOp.ordered (i : ℕ) (h : List AdminEvent) : AdminOp → Prop
  | .createApiToken id _ _ _ _ => (∀ ev ∈ h, ev.op.createsToken = false) ∧ ⟨i, .newId, id⟩ ∈ h
  | _ => True

theorem rules_admin {p : AdminProg AdminReply}
    (hp : Sends i (fun h op => op.ordered i h) (fun _ _ => True) p []) :
    KeepsRules libs i (p.translate AdminOp.session) [] := by
  refine (Sends.translate (R := fun h h' => h' = h.map AdminEvent.session) ?_ hp rfl).post
    fun _ _ _ => trivial
  rintro op h h' rfl hop
  refine ⟨?_, fun r => ⟨r, rfl, ?_⟩⟩
  · cases op with
    | createApiToken id =>
        refine ⟨fun ev hev => ?_, List.mem_map_of_mem (f := AdminEvent.session) hop.2⟩
        obtain ⟨ev', hev', rfl⟩ := List.mem_map.mp hev
        exact hop.1 ev' hev'
    | _ => trivial
  · rw [List.map_append]
    rfl

/-- The history of an administrative mutation creates no token. -/
def CreatesNone (h : List AdminEvent) : Prop := ∀ ev ∈ h, ev.op.createsToken = false

theorem createsNone_nil : CreatesNone [] := fun _ hev => absurd hev List.not_mem_nil

theorem CreatesNone.more {h : List AdminEvent} {ev : AdminEvent} (hh : CreatesNone h)
    (hev : ev.op.createsToken = false) : CreatesNone (h ++ [ev]) := by
  intro ev' hev'
  rcases List.mem_append.mp hev' with hev' | hev'
  · exact hh ev' hev'
  · rw [List.mem_singleton.mp hev']
    exact hev

theorem ordered_of_tokenless {β : Type} {p : AdminProg β} {h : List AdminEvent}
    (hp : p.All fun op => op.createsToken = false) (hh : CreatesNone h) :
    Sends i (fun h op => op.ordered i h) (fun _ h => CreatesNone h) p h := by
  refine Sends.keeps hp (fun {h op} hop _ => ?_) (fun hop hh => hh.more hop) hh
  cases op with
  | createApiToken => cases hop
  | _ => trivial

theorem ordered_createApiToken (auth : Option AuthInfo) (instanceId name : String)
    {libs : CodeLibs} : Sends i (fun h op => op.ordered i h) (fun _ _ => True)
      (createApiToken libs auth instanceId name) [] := by
  unfold createApiToken
  generalize requireApiTokenName name = checkedName
  have hguard : (guardOwnerOrSuperuser instanceId auth).All fun op => op.createsToken = false :=
    tokenless_of_plain (plain_guardOwnerOrSuperuser instanceId)
  have huser : (adminUserId auth).All fun op => op.createsToken = false :=
    tokenless_of_plain plain_adminUserId
  refine (ordered_of_tokenless hguard createsNone_nil).bind (fun _ h₁ hh₁ => ?_) fun _ _ _ => trivial
  refine (ordered_of_tokenless huser hh₁).bind (fun userId h₂ hh₂ => ?_) fun _ _ _ => trivial
  refine Sends.ofExcept (fun name _ => ⟨trivial, fun found => ?_⟩) fun _ _ => trivial
  refine Sends.ofExcept (fun inst _ => Sends.ofOption (fun _ _ => ?_) fun _ => trivial)
    fun _ _ => trivial
  -- the identifier and the nonce are drawn, and the token is created
  refine ⟨trivial, fun id => ⟨trivial, fun nonce => ⟨⟨?_, ?_⟩, fun r => ?_⟩⟩⟩
  · exact ((hh₂.more rfl).more rfl).more rfl
  · exact List.mem_append_left _ (List.mem_append_right _ (List.mem_singleton_self _))
  · exact Sends.ofExcept (fun _ _ => trivial) fun _ _ => trivial

/-- An administrative mutation creates a token of the identifier that it has drawn, and only one. -/
theorem ordered_adminCall (call : AdminCall) {libs : CodeLibs} :
    Sends i (fun h op => op.ordered i h) (fun _ _ => True) (call.prog libs) [] := by
  by_cases hcall : ∀ auth instanceId name, call ≠ .createApiToken auth instanceId name
  · exact (ordered_of_tokenless (tokenless_call hcall) createsNone_nil).post fun _ _ _ => trivial
  · push Not at hcall
    obtain ⟨auth, instanceId, name, rfl⟩ := hcall
    exact (ordered_createApiToken auth instanceId name).bind (fun _ _ _ => trivial) fun _ _ _ => trivial

/-- Every call keeps the rules. -/
theorem rules_call {p : SessionProg SessionReply} (hp : IsSessionCall libs p) (i : ℕ) :
    KeepsRules libs i p [] := by
  obtain ⟨call, rfl⟩ := hp
  cases call with
  | verifyToken token => exact rules_of_plain (plain_verifyToken token)
  | verifyAccessToken token expectedResource =>
      exact rules_of_plain (((Prog.all_true _).translate fun op _ => plain_session op).bind
        fun _ => trivial)
  | createUserSession userId => exact rules_createUserSession userId
  | logout auth tokenId =>
      refine rules_of_plain ?_
      show (logout auth tokenId).All _
      unfold logout
      split
      · exact ⟨rfl, fun answer => (Prog.all_ofExcept _).bind fun _ => trivial⟩
      · trivial
      · trivial
      · trivial
  | admin call =>
      refine Sends.bind (Q := fun _ _ => True) ?_ (fun _ _ _ => trivial) fun _ _ _ => trivial
      exact (rules_admin (ordered_adminCall call)).mapError

end rules

/-! ### What is drawn -/

/-- A program draws an identifier, or a nonce. -/
@[reducible] def drawsId (i : ℕ) (id : String) : SessionEvent := ⟨i, .admin .newId, id⟩

@[reducible] def drawsNonce (i : ℕ) (nonce : String) : SessionEvent :=
  ⟨i, .admin (.generateNonce 32), nonce⟩

/-- What was drawn is in the list, and no value was drawn by two programs. -/
structure DrawnApart (drawn : List String) (draws : ℕ → String → SessionEvent)
    (evs : List SessionEvent) : Prop where
  mem : ∀ {i v}, draws i v ∈ evs → v ∈ drawn
  once : ∀ {i j v}, draws i v ∈ evs → draws j v ∈ evs → i = j

/-- A program drew `v` and created a token. -/
def TokenIssued (draws : ℕ → String → SessionEvent) (v : String) (creates : SessionOp → Bool)
    (evs : List SessionEvent) : Prop :=
  ∃ j, draws j v ∈ evs ∧ ∃ ev ∈ evs, ev.caller = j ∧ creates ev.op

section drawn
variable {drawn : List String} {draws : ℕ → String → SessionEvent} {evs evs' : List SessionEvent}
variable {creates : SessionOp → Bool} {v : String}

theorem DrawnApart.concat {new : String} {ev : SessionEvent} (h : DrawnApart drawn draws evs)
    (hnew : new ∉ drawn) (hev : ∀ {i v}, ev = draws i v → v = new)
    (hinj : ∀ {i j v}, draws i v = draws j v → i = j) :
    DrawnApart (new :: drawn) draws (evs ++ [ev]) := by
  refine ⟨fun {i v} hmem => ?_, fun {i j v} hi hj => ?_⟩
  · rw [List.mem_append, List.mem_singleton] at hmem
    rcases hmem with hmem | heq
    · exact List.mem_cons_of_mem _ (h.mem hmem)
    · exact hev heq.symm ▸ List.mem_cons_self
  · rw [List.mem_append, List.mem_singleton] at hi hj
    rcases hi with hi | hi
    · rcases hj with hj | hj
      · exact h.once hi hj
      · exact absurd (hev hj.symm ▸ h.mem hi) hnew
    · rcases hj with hj | hj
      · exact absurd (hev hi.symm ▸ h.mem hj) hnew
      · exact hinj (hi.trans hj.symm)

theorem TokenIssued.mono (h : TokenIssued draws v creates evs) (hsub : ∀ ev ∈ evs, ev ∈ evs') :
    TokenIssued draws v creates evs' := by
  obtain ⟨j, hdrew, ev, hev, hcaller, hcreates⟩ := h
  exact ⟨j, hsub _ hdrew, ev, hsub _ hev, hcaller, hcreates⟩

/-- Who draws `v` and has created no token yet finds none of `v`. -/
theorem TokenIssued.once (hd : DrawnApart drawn draws evs) {j : ℕ} (hdrew : draws j v ∈ evs)
    (hun : Uncreated creates (ownEvents j evs)) : ¬ TokenIssued draws v creates evs := by
  rintro ⟨j', hdrew', ev, hev, hcaller, hcreates⟩
  obtain rfl := hd.once hdrew hdrew'
  have hnot := hun ev (mem_ownEvents.mpr ⟨hev, hcaller⟩)
  rw [hcreates] at hnot
  cases hnot

end drawn

/-! ### How the rows change -/

/-- Where the row of a user token comes from. -/
inductive UserTokenMove (d : SessionDb) (newId id : String) (row : Hydration.UserToken) :
    SessionOp → Prop
  | kept {op : SessionOp} (h : d.userTokens.lookup id = some row) : UserTokenMove d newId id row op
  | created {tokenHash userId : String} {expiresAt now : ℕ} (hid : id = newId)
      (hrow : row = newUserToken newId tokenHash userId expiresAt now) :
      UserTokenMove d newId id row (.createUserToken tokenHash userId expiresAt now)
  | touched {row₀ : Hydration.UserToken} {now : ℕ} (h : d.userTokens.lookup id = some row₀)
      (hrow : row = touchedUserToken now row₀) :
      UserTokenMove d newId id row (.touchUserToken id now)

/-- Where the row of an API token comes from. -/
inductive ApiTokenMove (d : AdminDb) (id : String) (row : ApiToken) : SessionOp → Prop
  | kept {op : SessionOp} (h : d.apiTokens.lookup id = some row) : ApiTokenMove d id row op
  | created {instanceId name tokenHash userId : String} (hid : row.id = id) :
      ApiTokenMove d id row (.admin (.createApiToken id instanceId name tokenHash userId))
  | updated {row₀ : ApiToken} {name : String} {enabled : Bool}
      (h : d.apiTokens.lookup id = some row₀) (hrow : row = { row₀ with name, enabled }) :
      ApiTokenMove d id row (.admin (.updateApiToken id name enabled))

/-- Where the row of a user comes from. -/
inductive UserMove (d : AdminDb) (newId id : String) (row : UserRow) : SessionOp → Prop
  | kept {op : SessionOp} (h : d.users.lookup id = some row) : UserMove d newId id row op
  | created {email name : String} (hid : id = newId) :
      UserMove d newId id row (.admin (.createUser email name))
  | updated {row₀ : UserRow} {change : UserUpdateShape} (h : d.users.lookup id = some row₀)
      (hrow : row = change.apply row₀) : UserMove d newId id row (.admin (.updateUser id change))

section moves
variable {readOnly : Bool} {s : SessionStore} {e : SessionEnv} {op : SessionOp} {id : String}

theorem SessionStore.userToken_move {row : Hydration.UserToken}
    (h : (s.serve e readOnly op).2.sessions.now.userTokens.lookup id = some row) :
    UserTokenMove s.sessions.now e.newId id row op := by
  rcases s.serve_sessions e readOnly op with heq | ⟨d, hd, heq⟩
  · rw [heq] at h
    exact .kept h
  · rw [heq] at h
    replace h : d.userTokens.lookup id = some row := h
    cases op with
    | createUserToken tokenHash userId expiresAt now =>
        obtain rfl := Except.ok.inj hd
        rcases Table.lookup_insert_cases _ _ _ _ h with ⟨hid, hrow⟩ | h
        · exact .created hid hrow
        · exact .kept h
    | touchUserToken id' now =>
        obtain ⟨table, htable, rfl⟩ := except_map_ok hd
        obtain ⟨row₀, hrow₀, rfl⟩ := updateRow_ok htable
        rcases Table.lookup_insert_cases _ _ _ _ h with ⟨rfl, hrow⟩ | h
        · exact .touched hrow₀ hrow
        · exact .kept h
    | deleteUserToken id' =>
        obtain rfl := Except.ok.inj hd
        exact .kept (Table.lookup_of_erase _ _ _ _ h)
    | touchApiToken id' now | touchAccessTime id' now =>
        simp only [SessionDb.change, SessionDb.touch] at hd
        split at hd
        · obtain rfl := Except.ok.inj hd
          exact .kept h
        · cases hd
    | _ =>
        obtain rfl := Except.ok.inj hd
        exact .kept h

theorem SessionStore.apiToken_move {row : ApiToken}
    (h : (s.serve e readOnly op).2.admin.db.now.apiTokens.lookup id = some row) :
    ApiTokenMove s.admin.db.now id row op := by
  rcases s.serve_admin e readOnly op with heq | ⟨op, d, rfl, hd, heq⟩
  · rw [heq] at h
    exact .kept h
  · rw [heq] at h
    replace h : d.apiTokens.lookup id = some row := h
    cases op with
    | createApiToken id' instanceId name tokenHash userId =>
        obtain ⟨table, htable, rfl⟩ := except_map_ok hd
        obtain ⟨-, rfl⟩ := putNew_ok htable
        rcases Table.lookup_insert_cases _ _ _ _ h with ⟨rfl, rfl⟩ | h
        · exact .created rfl
        · exact .kept h
    | updateApiToken id' name enabled =>
        obtain ⟨table, htable, rfl⟩ := except_map_ok hd
        obtain ⟨row₀, hrow₀, rfl⟩ := updateRow_ok htable
        rcases Table.lookup_insert_cases _ _ _ _ h with ⟨rfl, hrow⟩ | h
        · exact .updated hrow₀ hrow
        · exact .kept h
    | deleteApiToken id' =>
        obtain rfl := Except.ok.inj hd
        exact .kept (Table.lookup_of_erase _ _ _ _ h)
    | updateUser | updateMembershipRole | createInstance | updateInstance | createProject
    | updateProject =>
        obtain ⟨table, -, rfl⟩ := except_map_ok hd
        exact .kept h
    | _ =>
        obtain rfl := Except.ok.inj hd
        exact .kept h

theorem SessionStore.user_move {row : UserRow}
    (h : (s.serve e readOnly op).2.admin.db.now.users.lookup id = some row) :
    UserMove s.admin.db.now e.newId id row op := by
  rcases s.serve_admin e readOnly op with heq | ⟨op, d, rfl, hd, heq⟩
  · rw [heq] at h
    exact .kept h
  · rw [heq] at h
    replace h : d.users.lookup id = some row := h
    cases op with
    | createUser email name =>
        obtain rfl := Except.ok.inj hd
        rcases Table.lookup_insert_cases _ _ _ _ h with ⟨hid, -⟩ | h
        · exact .created hid
        · exact .kept h
    | updateUser id' change =>
        obtain ⟨table, htable, rfl⟩ := except_map_ok hd
        obtain ⟨row₀, hrow₀, rfl⟩ := updateRow_ok htable
        rcases Table.lookup_insert_cases _ _ _ _ h with ⟨rfl, hrow⟩ | h
        · exact .updated hrow₀ hrow
        · exact .kept h
    | createApiToken | updateApiToken | updateMembershipRole | createInstance | updateInstance
    | createProject | updateProject =>
        obtain ⟨table, -, rfl⟩ := except_map_ok hd
        exact .kept h
    | _ =>
        obtain rfl := Except.ok.inj hd
        exact .kept h

end moves

/-! ### The invariant -/

/-- The hash of a user token with this nonce. -/
def userTokenHash (libs : SessionLibs) (nonce : String) : String :=
  libs.sha256Hex ("mtu_" ++ nonce)

/-- Every row of a token was stored by a program that had drawn its identifier or its nonce. -/
structure SessionInvariant (libs : SessionLibs) {readOnly : Bool}
    (t : Trace (sessionService readOnly)) : Prop where
  ids : DrawnApart (SessionStore.ids t.state) drawsId t.events
  nonces : DrawnApart (SessionStore.nonces t.state) drawsNonce t.events
  userTokens : ∀ {id row}, (SessionStore.sessions t.state).now.userTokens.lookup id = some row →
    row.id = id ∧ ∃ nonce, row.tokenHash = userTokenHash libs nonce ∧
      TokenIssued drawsNonce nonce SessionOp.createsUserToken t.events
  apiTokens : ∀ {id row}, (SessionStore.admin t.state).db.now.apiTokens.lookup id = some row →
    row.id = id ∧ TokenIssued drawsId id SessionOp.createsApiToken t.events

/-- The runs from the empty store. -/
def SessionReachable (libs : SessionLibs) {readOnly : Bool}
    (c : Pool (sessionService readOnly) OAuthFailure SessionReply) : Prop :=
  Run (sessionService readOnly) (IsSessionCall libs) (Pool.init emptySessionStore) c

section invariant
variable {libs : SessionLibs} {readOnly : Bool} {t : Trace (sessionService readOnly)} {i : ℕ}
variable {e : SessionEnv} {op : SessionOp}

theorem SessionInvariant.serve (h : SessionInvariant libs t)
    (he : (sessionService readOnly).Allowed t.state e)
    (hG : op.ordered libs i (ownEvents i t.events)) : SessionInvariant libs (t.serve i e op) := by
  obtain ⟨-, -, -, hid, hnonce⟩ := he
  obtain ⟨-, hids, hnonces⟩ := SessionStore.serve_drawn t.state e readOnly op
  have hmore : ∀ ev ∈ t.events, ev ∈ (t.serve i e op).events :=
    fun ev hev => List.mem_append_left _ hev
  have hown : (⟨i, op, (SessionStore.serve t.state e readOnly op).1⟩ : SessionEvent) ∈
      (t.serve i e op).events := List.mem_append_right _ (List.mem_singleton_self _)
  refine ⟨?_, ?_, fun {id row} hrow => ?_, fun {id row} hrow => ?_⟩
  · show DrawnApart (SessionStore.serve t.state e readOnly op).2.ids _ _
    rw [hids]
    refine h.ids.concat hid (fun {i' v} heq => ?_) fun heq => (Event.mk.inj heq).1
    obtain ⟨rfl, rfl, hres⟩ := Event.mk.inj heq
    exact (eq_of_heq hres).symm
  · show DrawnApart (SessionStore.serve t.state e readOnly op).2.nonces _ _
    rw [hnonces]
    refine h.nonces.concat hnonce (fun {i' v} heq => ?_) fun heq => (Event.mk.inj heq).1
    obtain ⟨rfl, rfl, hres⟩ := Event.mk.inj heq
    exact (eq_of_heq hres).symm
  · cases SessionStore.userToken_move hrow with
    | kept hrow₀ =>
        obtain ⟨hkey, nonce, hhash, hissued⟩ := h.userTokens hrow₀
        exact ⟨hkey, nonce, hhash, hissued.mono hmore⟩
    | touched hrow₀ heq =>
        obtain ⟨hkey, nonce, hhash, hissued⟩ := h.userTokens hrow₀
        subst heq
        exact ⟨hkey, nonce, hhash, hissued.mono hmore⟩
    | created hid heq =>
        obtain ⟨-, nonce, hdrew, hhash⟩ := hG
        subst heq
        exact ⟨hid.symm, nonce, hhash, i, hmore _ (mem_ownEvents.mp hdrew).1, _, hown, rfl, rfl⟩
  · cases SessionStore.apiToken_move hrow with
    | kept hrow₀ =>
        obtain ⟨hkey, hissued⟩ := h.apiTokens hrow₀
        exact ⟨hkey, hissued.mono hmore⟩
    | updated hrow₀ heq =>
        obtain ⟨hkey, hissued⟩ := h.apiTokens hrow₀
        subst heq
        exact ⟨hkey, hissued.mono hmore⟩
    | created hid =>
        obtain ⟨-, hdrew⟩ := hG
        exact ⟨hid, i, hmore _ (mem_ownEvents.mp hdrew).1, _, hown, rfl, rfl⟩

/-- The invariant holds along every run. -/
theorem SessionReachable.invariant {c : Pool (sessionService readOnly) OAuthFailure SessionReply}
    (h : SessionReachable libs c) : SessionInvariant libs c.trace := by
  refine Run.contract (fun p hp i => rules_call hp i) (fun hK he hG => hK.serve he hG) h ?_
  refine ⟨⟨nofun, nofun⟩, ⟨nofun, nofun⟩, nofun, nofun⟩

end invariant

end Microticket

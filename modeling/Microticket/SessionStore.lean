import Microticket.AdminStore
import Microticket.CodeMutations
import Microticket.OAuthStore
import Microticket.RowItems

/-! # The tables of an authenticated request

The table `user_token`, and what the verification of a token reads and writes besides it: the rows of
`AdminStore` with the attributes that the administrative mutations do not use (`last_used_at` of an
API token and `access_time` of a user, which are kept beside the rows), and the rows of OAuth and of
submit tokens, which are requests whose answers `Env` chooses.

Every read returns the latest committed row, time never goes back, and no identifier or nonce is drawn
twice (`sessionService.Allowed`).  The administrative mutations run on the same tables, so their
requests are `SessionOp.admin`. -/

namespace Microticket

open Interleaving Tables

/-- The tables of sessions. -/
structure SessionDb where
  userTokens : Table String Hydration.UserToken
  lastUses : Table String ℕ
  accessTimes : Table String ℕ

/-! ### Requests -/

/-- The requests; a touch carries the time that its handler has read. -/
inductive SessionOp where
  | admin (op : AdminOp)
  | oauth (op : OAuthOp)
  | createUserToken (tokenHash userId : String) (expiresAt now : ℕ)
  | getUserTokenByHash (tokenHash : String)
  | touchUserToken (id : String) (now : ℕ)
  | deleteUserToken (id : String)
  | getApiToken (id : String)
  | touchApiToken (id : String) (now : ℕ)
  | getAccount (id : String)
  | touchAccessTime (id : String) (now : ℕ)
  deriving DecidableEq

/-- The answer to a request. -/
@[reducible] def SessionOp.Res : SessionOp → Type
  | .admin op => op.Res
  | .oauth op => op.Res
  | .createUserToken .. | .touchUserToken .. | .deleteUserToken _ | .touchApiToken .. |
    .touchAccessTime .. => Except DbError Unit
  | .getUserTokenByHash _ => Except DbError (Option Hydration.UserToken)
  | .getApiToken _ => Except DbError (Option Hydration.ApiToken)
  | .getAccount _ => Except DbError (Option AccountUser)

/-- A request with its answer. -/
abbrev SessionEvent : Type := Event SessionOp SessionOp.Res

/-- What the tables do not decide themselves. -/
structure SessionEnv extends AdminEnv where
  superuser : Bool
  oauth : (op : OAuthOp) → op.Res

/-- The state: the committed versions of the tables, the time, and what was drawn. -/
structure SessionStore where
  admin : AdminStore
  sessions : Replica SessionDb
  clock : ℕ
  ids : List String
  nonces : List String

/-! ### Rows -/

/-- The row of `create_user_token`. -/
def newUserToken (id tokenHash userId : String) (expiresAt now : ℕ) : Hydration.UserToken :=
  { id, tokenHash, userId, createdAt := now, expiresAt, lastUsedAt := none }

/-- `UserTokenUpdateShape::TouchLastUsed`. -/
def touchedUserToken (now : ℕ) (row : Hydration.UserToken) : Hydration.UserToken :=
  { row with lastUsedAt := some now, expiresAt := now + userTokenExpireS }

/-- The row of an API token with its last use. -/
def ApiToken.withUse (row : ApiToken) (lastUsedAt : Option ℕ) : Hydration.ApiToken where
  id := row.id
  instanceId := row.instanceId
  name := row.name
  tokenHash := row.tokenHash
  enabled := row.enabled
  createdAt := row.createdAt
  createdByUserId := row.createdByUserId
  lastUsedAt := lastUsedAt

namespace SessionDb

variable (d : SessionDb)

/-- `get_user_token_by_hash`. -/
def userTokenByHash (tokenHash : String) : Except DbError (Option Hydration.UserToken) :=
  (AdminDb.atMostOneId "Multiple user tokens share the same hash"
    (AdminDb.idsWhere d.userTokens fun row => row.tokenHash == tokenHash)).map
      fun id => id.bind d.userTokens.lookup

/-- An update whose condition is `attribute_exists(id)` of a row in `rows`. -/
def touch {α : Type} (what : String) (rows : Table String α) (id : String) (d : SessionDb) :
    Except DbError SessionDb :=
  if (rows.lookup id).isSome then .ok d else .error (.notFound s!"{what} {id}")

/-- The tables after a write, or why its condition fails; the other requests write nothing here. -/
def change (a : AdminDb) (newId : String) : SessionOp → Except DbError SessionDb
  | .createUserToken tokenHash userId expiresAt now => .ok { d with
      userTokens := d.userTokens.insert newId (newUserToken newId tokenHash userId expiresAt now) }
  | .touchUserToken id now =>
      (AdminDb.updateRow "UserToken" d.userTokens id (touchedUserToken now)).map
        fun userTokens => { d with userTokens }
  | .deleteUserToken id => .ok { d with userTokens := d.userTokens.erase id }
  | .touchApiToken id now =>
      touch "ApiToken" a.apiTokens id { d with lastUses := d.lastUses.insert id now }
  | .touchAccessTime id now =>
      touch "User" a.users id { d with accessTimes := d.accessTimes.insert id now }
  | _ => .ok d

end SessionDb

/-! ### The service -/

namespace SessionStore

variable (s : SessionStore) (e : SessionEnv)

/-- The time passes, and what was on offer is drawn. -/
def tick : SessionStore :=
  { s with clock := e.now, ids := e.newId :: s.ids, nonces := e.nonce :: s.nonces }

/-- A read. -/
def read {α : Type} (answer : Except DbError α) : Except DbError α × SessionStore :=
  (e.fault.read answer, s.tick e)

/-- A write. -/
def write (readOnly : Bool) (op : SessionOp) : Except DbError Unit × SessionStore :=
  let (answer, sessions) := e.fault.commit readOnly s.sessions
    (s.sessions.now.change s.admin.db.now e.newId op) ()
  (answer, { s.tick e with sessions })

/-- Serve one request. -/
def serve (readOnly : Bool) : (op : SessionOp) → op.Res × SessionStore
  | .admin op => ((s.admin.serve e.toAdminEnv readOnly op).1,
      { s.tick e with admin := (s.admin.serve e.toAdminEnv readOnly op).2 })
  | .oauth op => (e.oauth op, s.tick e)
  | .createUserToken tokenHash userId expiresAt now =>
      s.write e readOnly (.createUserToken tokenHash userId expiresAt now)
  | .getUserTokenByHash tokenHash => s.read e (s.sessions.now.userTokenByHash tokenHash)
  | .touchUserToken id now => s.write e readOnly (.touchUserToken id now)
  | .deleteUserToken id => s.write e readOnly (.deleteUserToken id)
  | .getApiToken id => s.read e (.ok ((s.admin.db.now.apiTokens.lookup id).map
      fun row => row.withUse (s.sessions.now.lastUses.lookup id)))
  | .touchApiToken id now => s.write e readOnly (.touchApiToken id now)
  | .getAccount id => s.read e (.ok ((s.admin.db.now.users.lookup id).map
      fun row => ⟨row.enabled, e.superuser, s.sessions.now.accessTimes.lookup id⟩))
  | .touchAccessTime id now => s.write e readOnly (.touchAccessTime id now)

end SessionStore

/-- The tables as a service. -/
@[reducible] def sessionService (readOnly : Bool) : Service SessionOp SessionOp.Res where
  State := SessionStore
  Env := SessionEnv
  Allowed s e := (adminService readOnly).Allowed s.admin e.toAdminEnv ∧ e.lag = 0 ∧
    s.clock ≤ e.now ∧ e.newId ∉ s.ids ∧ e.nonce ∉ s.nonces
  serve s e op := s.serve e readOnly op

instance (readOnly : Bool) (s : (sessionService readOnly).State)
    (e : (sessionService readOnly).Env) : Decidable ((sessionService readOnly).Allowed s e) :=
  inferInstanceAs (Decidable ((adminService readOnly).Allowed (SessionStore.admin s)
    (SessionEnv.toAdminEnv e) ∧ e.lag = 0 ∧ SessionStore.clock s ≤ e.now ∧
    e.newId ∉ SessionStore.ids s ∧ e.nonce ∉ SessionStore.nonces s))

/-- The store before the first request. -/
def emptySessionStore : SessionStore :=
  ⟨⟨⟨⟨∅, ∅, ∅, ∅, ∅⟩, []⟩⟩, ⟨⟨∅, ∅, ∅⟩, []⟩, 0, [], []⟩

/-! ### What a request does -/

theorem idsWhere_mem {α : Type} {t : Table String α} {test : α → Bool} {id : String}
    (h : id ∈ AdminDb.idsWhere t test) : ∃ row, t.lookup id = some row ∧ test row := by
  obtain ⟨entry, hentry, rfl⟩ := List.mem_map.mp h
  obtain ⟨hmem, htest⟩ := List.mem_filter.mp hentry
  exact ⟨entry.2, AList.mem_lookup_iff.mpr hmem, htest⟩

/-- The row that the look-up of a hash answers. -/
theorem userTokenByHash_some {d : SessionDb} {tokenHash : String} {row : Hydration.UserToken}
    (h : d.userTokenByHash tokenHash = .ok (some row)) :
    ∃ id, d.userTokens.lookup id = some row ∧ row.tokenHash = tokenHash := by
  obtain ⟨found, hfound, hrow⟩ := except_map_ok h
  rcases hids : AdminDb.idsWhere d.userTokens fun row => row.tokenHash == tokenHash with
    _ | ⟨id, _ | ⟨id', ids⟩⟩
  · rw [hids] at hfound
    obtain rfl := Except.ok.inj hfound
    cases hrow
  · rw [hids] at hfound
    obtain rfl := Except.ok.inj hfound
    obtain ⟨row', hrow', htest⟩ := idsWhere_mem (hids ▸ List.mem_cons_self)
    rw [Option.bind_some, hrow'] at hrow
    obtain rfl := Option.some.inj hrow
    exact ⟨id, hrow', eq_of_beq htest⟩
  · rw [hids] at hfound
    cases hfound

section served
variable {readOnly : Bool} {s : SessionStore} {e : SessionEnv} {op : SessionOp}

theorem SessionStore.write_sessions : (s.write e readOnly op).2.sessions = s.sessions ∨
    ∃ d, s.sessions.now.change s.admin.db.now e.newId op = .ok d ∧
      (s.write e readOnly op).2.sessions = s.sessions.write d := Fault.commit_state

theorem SessionStore.write_ok (h : (s.write e readOnly op).1 = .ok ()) :
    ∃ d, s.sessions.now.change s.admin.db.now e.newId op = .ok d ∧
      (s.write e readOnly op).2.sessions = s.sessions.write d := Fault.commit_ok h

/-- What a request does to the tables of sessions. -/
theorem SessionStore.serve_sessions (s : SessionStore) (e : SessionEnv) (readOnly : Bool)
    (op : SessionOp) : (s.serve e readOnly op).2.sessions = s.sessions ∨
    ∃ d, s.sessions.now.change s.admin.db.now e.newId op = .ok d ∧
      (s.serve e readOnly op).2.sessions = s.sessions.write d := by
  cases op with
  | createUserToken | touchUserToken | deleteUserToken | touchApiToken | touchAccessTime =>
      exact write_sessions
  | _ => exact .inl rfl

/-- What a request does to the other tables. -/
theorem SessionStore.serve_admin (s : SessionStore) (e : SessionEnv) (readOnly : Bool)
    (op : SessionOp) : (s.serve e readOnly op).2.admin = s.admin ∨
    ∃ op' d, op = .admin op' ∧ s.admin.db.now.change e.toAdminEnv op' = .ok d ∧
      (s.serve e readOnly op).2.admin = ⟨s.admin.db.write d⟩ := by
  cases op with
  | admin op =>
      rcases s.admin.serve_state e.toAdminEnv readOnly op with heq | ⟨-, d, hd, heq⟩
      · exact .inl heq
      · exact .inr ⟨op, d, rfl, hd, heq⟩
  | _ => exact .inl rfl

/-- Every request takes its time and what was on offer. -/
theorem SessionStore.serve_drawn (s : SessionStore) (e : SessionEnv) (readOnly : Bool)
    (op : SessionOp) : (s.serve e readOnly op).2.clock = e.now ∧
      (s.serve e readOnly op).2.ids = e.newId :: s.ids ∧
      (s.serve e readOnly op).2.nonces = e.nonce :: s.nonces := by
  cases op <;> exact ⟨rfl, rfl, rfl⟩

end served

end Microticket

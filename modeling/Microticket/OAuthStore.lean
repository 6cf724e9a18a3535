import Microticket.Rows
import Microticket.Service
import Microticket.Store

/-! # The tables of OAuth

The tables `oauth_grant` and `ephemeral_state` as the OAuth endpoints use them.  An `OAuthOp` is one
request.  Grants are read with `ConsistentRead`, ephemeral rows are not, so a read of one returns the
row of `Env.lag` commits ago.  The reads of users and memberships are requests whose answers `Env`
chooses.

The clock of `OAuthStore` never goes back, and no identifier or nonce is generated twice.  `expire` is
the deletion of a row by DynamoDB after its `expires_at`, the TTL attribute of both tables; it is no
request of the code.

`oauthService readOnly consistent`: if `consistent`, a read of an ephemeral row is not stale. -/

namespace Microticket

open Interleaving Tables

/-! ### Rows -/

/-- `db::OAuthGrant`. -/
structure OAuthGrant where
  id : String
  userId : String
  clientId : String
  clientName : String
  redirectUri : String
  resource : String
  scope : String
  accessTokenHash : String
  accessExpiresAt : ℕ
  refreshTokenHash : String
  refreshExpiresAt : ℕ
  expiresAt : ℕ
  createdAt : ℕ
  lastUsedAt : Option ℕ
  deriving DecidableEq, Repr

/-- `db::OAuthGrantUpdateShape`, with the time that `TouchLastUsed` writes. -/
inductive OAuthGrantUpdateShape where
  | rotate (expectedRefreshTokenHash accessTokenHash : String) (accessExpiresAt : ℕ)
      (refreshTokenHash : String) (refreshExpiresAt : ℕ)
  | touchLastUsed (now : ℕ)
  deriving DecidableEq, Repr

/-- `db::EphemeralState`, with the payload as it is stored. -/
structure EphemeralRow where
  id : String
  kind : String
  payload : String
  expiresAt : ℕ
  deriving DecidableEq, Repr

/-- What `fetch_update_user_auth_info` reads of `db::User`. -/
structure AccountUser where
  enabled : Bool
  superuser : Bool
  accessTime : Option ℕ
  deriving DecidableEq, Repr

/-- The tables. -/
structure OAuthDb where
  grants : Table String OAuthGrant
  states : Table String EphemeralRow

/-- A table with a TTL attribute. -/
inductive TtlTable where
  | grants
  | states
  deriving DecidableEq, Repr

/-! ### Requests -/

/-- The requests. -/
inductive OAuthOp where
  | clock
  | newId
  | generateNonce (bytes : ℕ)
  | getEphemeralState (id : String)
  | putEphemeralState (id kind payload : String) (expiresAt : ℕ)
  | deleteEphemeralState (id : String)
  | createOAuthGrant (grant : OAuthGrant)
  | getOAuthGrant (id : String)
  | updateOAuthGrant (id : String) (change : OAuthGrantUpdateShape)
  | deleteOAuthGrant (id : String)
  | getUser (id : String)
  | updateUserAccessTime (id : String)
  | listMembershipsByUser (userId : String)
  | expire (table : TtlTable) (id : String)
  deriving DecidableEq

/-- The answer to a request. -/
@[reducible] def OAuthOp.Res : OAuthOp → Type
  | .clock => ℕ
  | .newId | .generateNonce _ => String
  | .getEphemeralState _ => Except DbError (Option EphemeralRow)
  | .getOAuthGrant _ => Except DbError (Option OAuthGrant)
  | .getUser _ => Except DbError (Option AccountUser)
  | .listMembershipsByUser _ => Except DbError (List Membership)
  | .putEphemeralState .. | .deleteEphemeralState _ | .createOAuthGrant _ | .updateOAuthGrant .. |
    .deleteOAuthGrant _ | .updateUserAccessTime _ => Except DbError Unit
  | .expire .. => Unit

/-- A request with its answer. -/
abbrev OAuthEvent : Type := Event OAuthOp OAuthOp.Res

/-- What the tables do not decide themselves. -/
structure OAuthEnv where
  now : ℕ
  newId : String
  nonce : String
  lag : ℕ
  fault : Fault
  user : Except DbError (Option AccountUser)
  userUpdate : Except DbError Unit
  memberships : Except DbError (List Membership)

/-- The state: the committed versions of the tables, the time, and what was generated. -/
structure OAuthStore where
  db : Replica OAuthDb
  clock : ℕ
  ids : List String
  nonces : List String

/-! ### Writes -/

/-- `update_oauth_grant` on the row; `none` if the condition fails. -/
def OAuthGrant.update (grant : OAuthGrant) : OAuthGrantUpdateShape → Option OAuthGrant
  | .rotate expected accessTokenHash accessExpiresAt refreshTokenHash refreshExpiresAt =>
      if grant.refreshTokenHash = expected then
        some { grant with accessTokenHash, accessExpiresAt, refreshTokenHash, refreshExpiresAt }
      else none
  | .touchLastUsed now => some { grant with lastUsedAt := some now }

namespace OAuthDb

variable (d : OAuthDb)

/-- What a write does to the tables; `none` if its condition fails or if it writes nothing. -/
def change (now : ℕ) : OAuthOp → Option OAuthDb
  | .putEphemeralState id kind payload expiresAt =>
      some { d with states := d.states.insert id ⟨id, kind, payload, expiresAt⟩ }
  | .deleteEphemeralState id => some { d with states := d.states.erase id }
  | .createOAuthGrant grant =>
      if (d.grants.lookup grant.id).isNone then
        some { d with grants := d.grants.insert grant.id grant }
      else none
  | .updateOAuthGrant id shape =>
      (d.grants.lookup id).bind fun grant => (grant.update shape).map fun grant =>
        { d with grants := d.grants.insert id grant }
  | .deleteOAuthGrant id => some { d with grants := d.grants.erase id }
  | .expire .grants id =>
      (d.grants.lookup id).bind fun grant =>
        if grant.expiresAt ≤ now then some { d with grants := d.grants.erase id } else none
  | .expire .states id =>
      (d.states.lookup id).bind fun state =>
        if state.expiresAt ≤ now then some { d with states := d.states.erase id } else none
  | _ => none

end OAuthDb

/-! ### The service -/

namespace OAuthStore

variable (s : OAuthStore) (e : OAuthEnv)

/-- The time passes. -/
def tick : OAuthStore := { s with clock := e.now }

/-- A read. -/
def read {α : Type} (answer : α) : Except DbError α × OAuthStore :=
  (if e.fault = .none then .ok answer else .error connectionLost, s.tick e)

/-- The store after a write. -/
def commit (op : OAuthOp) : OAuthStore :=
  match s.db.now.change e.now op with
  | none => s.tick e
  | some d => { s.tick e with db := s.db.write d }

/-- A write that answers `refused` if its condition fails. -/
def write (readOnly : Bool) (op : OAuthOp) (refused : DbError) :
    Except DbError Unit × OAuthStore :=
  if readOnly then (.error .mutationDisabled, s.tick e)
  else if e.fault = .lost ∨ e.fault = .cancelled then (.error connectionLost, s.tick e)
  else (if e.fault ≠ .none then .error connectionLost
    else if (s.db.now.change e.now op).isSome then .ok () else .error refused, s.commit e op)

/-- Serve one request. -/
def serve (readOnly : Bool) : (op : OAuthOp) → op.Res × OAuthStore
  | .clock => (e.now, s.tick e)
  | .newId => (e.newId, { s.tick e with ids := e.newId :: s.ids })
  | .generateNonce _ => (e.nonce, { s.tick e with nonces := e.nonce :: s.nonces })
  | .getUser _ => (e.user, s.tick e)
  | .updateUserAccessTime _ => (e.userUpdate, s.tick e)
  | .listMembershipsByUser _ => (e.memberships, s.tick e)
  | .getEphemeralState id => s.read e ((s.db.seen e.lag).states.lookup id)
  | .getOAuthGrant id => s.read e (s.db.now.grants.lookup id)
  | .putEphemeralState id kind payload expiresAt =>
      s.write e readOnly (.putEphemeralState id kind payload expiresAt) connectionLost
  | .deleteEphemeralState id => s.write e readOnly (.deleteEphemeralState id) connectionLost
  | .createOAuthGrant grant =>
      s.write e readOnly (.createOAuthGrant grant)
        (.infrastructure "ConditionalCheckFailedException")
  | .updateOAuthGrant id shape =>
      s.write e readOnly (.updateOAuthGrant id shape) (.notFound s!"OAuthGrant {id}")
  | .deleteOAuthGrant id => s.write e readOnly (.deleteOAuthGrant id) connectionLost
  | .expire table id => ((), s.commit e (.expire table id))

end OAuthStore

/-- The tables of OAuth as a service. -/
@[reducible] def oauthService (readOnly consistent : Bool) : Service OAuthOp OAuthOp.Res where
  State := OAuthStore
  Env := OAuthEnv
  Allowed s e := s.clock ≤ e.now ∧ e.newId ∉ s.ids ∧ e.nonce ∉ s.nonces ∧ (consistent → e.lag = 0)
  serve s e op := s.serve e readOnly op

instance (readOnly consistent : Bool) (s : (oauthService readOnly consistent).State)
    (e : (oauthService readOnly consistent).Env) :
    Decidable ((oauthService readOnly consistent).Allowed s e) :=
  inferInstanceAs (Decidable (OAuthStore.clock s ≤ e.now ∧ e.newId ∉ OAuthStore.ids s ∧
    e.nonce ∉ OAuthStore.nonces s ∧ (consistent → e.lag = 0)))

/-- The store before the first request. -/
def emptyOAuthStore : OAuthStore := ⟨⟨⟨∅, ∅⟩, []⟩, 0, [], []⟩

end Microticket

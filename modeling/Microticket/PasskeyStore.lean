import Microticket.Rows
import Microticket.Service
import Microticket.Store

/-! # The tables of passkeys

The tables `webauthn_credential`, `ephemeral_state` and `user_token` as the passkey mutations use
them.  A `PasskeyOp` is one request.  No read is `ConsistentRead`, so each returns what was committed
`Env.lag` commits ago; the only condition of a write is the `attribute_exists(id)` of
`update_webauthn_credential`.  The clock, the random generators and the reads of the user table are
requests whose answers `Env` chooses.

The JSON of a passkey and of a challenge is kept as the value that it was serialized from.  A request
that stores a token names the challenge it is made for; no program branches on that, it only makes
the history readable. -/

namespace Microticket

open Interleaving Tables

/-! ### Values of `webauthn-rs` -/

/-- `Passkey`: its credential id, its signature counter, and the rest. -/
structure Passkey where
  credId : String
  counter : ℕ
  key : String
  deriving DecidableEq, Repr

/-- `PasskeyRegistration`. -/
structure PasskeyRegistration where
  challenge : String
  exclude : List String
  deriving DecidableEq, Repr

/-- `DiscoverableAuthentication`. -/
structure DiscoverableAuthentication where
  challenge : String
  deriving DecidableEq, Repr

/-- `RegisterPublicKeyCredential`: the id that the authenticator chose, and the rest. -/
structure RegisterPublicKeyCredential where
  id : String
  response : String
  deriving DecidableEq, Repr

/-- `PublicKeyCredential`: the credential, the challenge that was signed, the counter that is
asserted, and the rest. -/
structure PublicKeyCredential where
  id : String
  challenge : String
  counter : ℕ
  response : String
  deriving DecidableEq, Repr

/-- `AuthenticationResult`. -/
structure AuthenticationResult where
  credId : String
  counter : ℕ
  needsUpdate : Bool
  deriving DecidableEq, Repr

/-! ### Rows -/

/-- `passkey_json`; `text` does not parse, for the reason given. -/
inductive PasskeyJson where
  | passkey (value : Passkey)
  | text (reason : String)
  deriving DecidableEq, Repr

/-- Deserialize a passkey. -/
def PasskeyJson.parse : PasskeyJson → Except String Passkey
  | .passkey value => .ok value
  | .text reason => .error reason

/-- The counter inside. -/
def PasskeyJson.counter : PasskeyJson → Option ℕ
  | .passkey value => some value.counter
  | .text _ => none

/-- `db::WebauthnCredential`. -/
structure WebauthnCredential where
  id : String
  userId : String
  name : String
  passkeyJson : PasskeyJson
  createdAt : ℕ
  lastUsedAt : Option ℕ
  deriving DecidableEq, Repr

/-- `db::WebauthnCredentialUpdate`. -/
inductive WebauthnCredentialUpdate where
  | rename (name : String)
  | touchLastUsed (passkeyJson : PasskeyJson)
  deriving DecidableEq, Repr

/-- The update expression of `update_webauthn_credential`. -/
def WebauthnCredentialUpdate.apply (now : ℕ) (row : WebauthnCredential) :
    WebauthnCredentialUpdate → WebauthnCredential
  | .rename name => { row with name }
  | .touchLastUsed passkeyJson => { row with passkeyJson, lastUsedAt := some now }

/-- `state_json`; `text` is neither of the two. -/
inductive StateJson where
  | registration (state : PasskeyRegistration)
  | authentication (state : DiscoverableAuthentication)
  | text (raw : String)
  deriving DecidableEq, Repr

/-- Deserialize the state of a registration. -/
def StateJson.registration? : StateJson → Option PasskeyRegistration
  | .registration state => some state
  | _ => none

/-- Deserialize the state of a login. -/
def StateJson.authentication? : StateJson → Option DiscoverableAuthentication
  | .authentication state => some state
  | _ => none

/-- The payload of an `ephemeral_state` row: of a challenge, other JSON (a submit code or a submit
token), or a text that is no JSON. -/
inductive StatePayload where
  | webauthn (userId : Option String) (stateJson : StateJson)
  | otherJson (raw : String)
  | text (reason : String)
  deriving DecidableEq, Repr

/-- A row of `ephemeral_state`. -/
structure StateRow where
  id : String
  kind : String
  payload : StatePayload
  expiresAt : ℕ
  deriving DecidableEq, Repr

/-- `db::WebauthnState`. -/
structure WebauthnState where
  id : String
  kind : String
  userId : Option String
  stateJson : StateJson
  expiresAt : ℕ
  deriving DecidableEq, Repr

/-- A row of `user_token`. -/
structure SessionToken where
  tokenHash : String
  userId : String
  createdAt : ℕ
  expiresAt : ℕ
  deriving DecidableEq, Repr

/-- What the passkey mutations read of `db::User`. -/
structure PasskeyUser where
  id : String
  email : String
  enabled : Bool
  deriving DecidableEq, Repr

/-- The tables. -/
structure PasskeyDb where
  credentials : Table String WebauthnCredential
  states : Table String StateRow
  userTokens : List SessionToken

/-! ### Requests -/

/-- The requests. -/
inductive PasskeyOp where
  | clock
  | randomId
  | randomChallenge
  | generateNonce (bytes : ℕ)
  | getUser (id : String)
  | createWebauthnCredential (id userId name : String) (passkeyJson : PasskeyJson)
  | getWebauthnCredential (id : String)
  | listWebauthnCredentialsByUser (userId : String)
  | countWebauthnCredentialsByUser (userId : String)
  | updateWebauthnCredential (id : String) (change : WebauthnCredentialUpdate)
  | deleteWebauthnCredential (id : String)
  | putWebauthnState (id kind : String) (userId : Option String) (stateJson : StateJson)
      (expiresAt : ℕ)
  | getWebauthnState (id : String)
  | deleteWebauthnState (id : String)
  | createUserToken (tokenHash userId : String) (expiresAt : ℕ) (challengeId : String)
  deriving DecidableEq

/-- The answer to a request. -/
@[reducible] def PasskeyOp.Res : PasskeyOp → Type
  | .clock => ℕ
  | .randomId | .randomChallenge | .generateNonce _ => String
  | .getUser _ => Except DbError (Option PasskeyUser)
  | .createWebauthnCredential .. => Except DbError WebauthnCredential
  | .getWebauthnCredential _ => Except DbError (Option WebauthnCredential)
  | .listWebauthnCredentialsByUser _ => Except DbError (List WebauthnCredential)
  | .countWebauthnCredentialsByUser _ => Except DbError ℕ
  | .getWebauthnState _ => Except DbError (Option WebauthnState)
  | .updateWebauthnCredential .. | .deleteWebauthnCredential _ | .putWebauthnState ..
  | .deleteWebauthnState _ | .createUserToken .. => Except DbError Unit

/-- What the tables do not decide themselves. -/
structure PasskeyEnv where
  now : ℕ
  random : String
  lag : ℕ
  fault : Fault
  user : Except DbError (Option PasskeyUser)

/-- The state: the committed versions of the tables. -/
structure PasskeyStore where
  db : Replica PasskeyDb

/-- The row of `create_webauthn_credential`. -/
def newCredential (id userId name : String) (passkeyJson : PasskeyJson) (now : ℕ) :
    WebauthnCredential :=
  { id, userId, name, passkeyJson, createdAt := now, lastUsedAt := none }

/-- `get_webauthn_state` of a row. -/
def StateRow.state (row : StateRow) : Except DbError WebauthnState :=
  match row.payload with
  | .webauthn userId stateJson =>
      .ok { id := row.id, kind := row.kind, userId, stateJson, expiresAt := row.expiresAt }
  | .otherJson _ => .error (.hydration "WebauthnState payload missing state_json")
  | .text reason => .error (.hydration s!"WebauthnState payload: {reason}")

namespace PasskeyDb

variable (d : PasskeyDb)

/-- The rows of the index `user_id-index`. -/
def credentialsOf (userId : String) : List WebauthnCredential :=
  (d.credentials.entries.map Sigma.snd).filter fun row => row.userId == userId

/-- `get_webauthn_state`. -/
def getState (id : String) : Except DbError (Option WebauthnState) :=
  match d.states.lookup id with
  | none => .ok none
  | some row => row.state.map some

/-- The tables after a write, or why its condition fails; the other requests write nothing. -/
def change (e : PasskeyEnv) : PasskeyOp → Except DbError PasskeyDb
  | .createWebauthnCredential id userId name passkeyJson =>
      .ok { d with credentials :=
        d.credentials.insert id (newCredential id userId name passkeyJson e.now) }
  | .updateWebauthnCredential id change =>
      match d.credentials.lookup id with
      | none => .error (.notFound s!"WebauthnCredential {id}")
      | some row => .ok { d with credentials := d.credentials.insert id (change.apply e.now row) }
  | .deleteWebauthnCredential id => .ok { d with credentials := d.credentials.erase id }
  | .putWebauthnState id kind userId stateJson expiresAt =>
      .ok { d with states := d.states.insert id ⟨id, kind, .webauthn userId stateJson, expiresAt⟩ }
  | .deleteWebauthnState id => .ok { d with states := d.states.erase id }
  | .createUserToken tokenHash userId expiresAt _ =>
      .ok { d with userTokens := ⟨tokenHash, userId, e.now, expiresAt⟩ :: d.userTokens }
  | _ => .ok d

end PasskeyDb

namespace PasskeyStore

variable (s : PasskeyStore) (e : PasskeyEnv)

/-- A read. -/
def read {α : Type} (answer : Except DbError α) : Except DbError α × PasskeyStore :=
  (e.fault.read answer, s)

/-- A write that answers `committed`. -/
def write {α : Type} (readOnly : Bool) (op : PasskeyOp) (committed : α) :
    Except DbError α × PasskeyStore :=
  let (answer, db) := e.fault.commit readOnly s.db (s.db.now.change e op) committed
  (answer, ⟨db⟩)

/-- Serve one request. -/
def serve (readOnly : Bool) : (op : PasskeyOp) → op.Res × PasskeyStore
  | .clock => (e.now, s)
  | .randomId => (e.random, s)
  | .randomChallenge => (e.random, s)
  | .generateNonce _ => (e.random, s)
  | .getUser _ => (e.user, s)
  | .getWebauthnCredential id => s.read e (.ok ((s.db.seen e.lag).credentials.lookup id))
  | .listWebauthnCredentialsByUser userId => s.read e (.ok ((s.db.seen e.lag).credentialsOf userId))
  | .countWebauthnCredentialsByUser userId =>
      s.read e (.ok ((s.db.seen e.lag).credentialsOf userId).length)
  | .getWebauthnState id => s.read e ((s.db.seen e.lag).getState id)
  | .createWebauthnCredential id userId name passkeyJson =>
      s.write e readOnly (.createWebauthnCredential id userId name passkeyJson)
        (newCredential id userId name passkeyJson e.now)
  | .updateWebauthnCredential id change =>
      s.write e readOnly (.updateWebauthnCredential id change) ()
  | .deleteWebauthnCredential id => s.write e readOnly (.deleteWebauthnCredential id) ()
  | .putWebauthnState id kind userId stateJson expiresAt =>
      s.write e readOnly (.putWebauthnState id kind userId stateJson expiresAt) ()
  | .deleteWebauthnState id => s.write e readOnly (.deleteWebauthnState id) ()
  | .createUserToken tokenHash userId expiresAt challengeId =>
      s.write e readOnly (.createUserToken tokenHash userId expiresAt challengeId) ()

end PasskeyStore

/-- The tables of passkeys as a service. -/
@[reducible] def passkeyService (readOnly : Bool) : Service PasskeyOp PasskeyOp.Res where
  State := PasskeyStore
  Env := PasskeyEnv
  Allowed _ _ := True
  serve s e op := s.serve e readOnly op

instance (readOnly : Bool) (s : (passkeyService readOnly).State)
    (e : (passkeyService readOnly).Env) : Decidable ((passkeyService readOnly).Allowed s e) :=
  inferInstanceAs (Decidable True)

/-- A served request. -/
abbrev PasskeyEvent : Type := Event PasskeyOp PasskeyOp.Res

/-! ### What a request does -/

/-- An update that is committed finds its row. -/
theorem PasskeyDb.change_update {d d' : PasskeyDb} {e : PasskeyEnv} {id : String}
    {change : WebauthnCredentialUpdate}
    (h : d.change e (.updateWebauthnCredential id change) = .ok d') :
    ∃ row, d.credentials.lookup id = some row ∧
      d' = { d with credentials := d.credentials.insert id (change.apply e.now row) } := by
  simp only [PasskeyDb.change] at h
  cases hrow : d.credentials.lookup id with
  | none =>
      rw [hrow] at h
      cases h
  | some row =>
      rw [hrow] at h
      exact ⟨row, rfl, (Except.ok.inj h).symm⟩

section served
variable {readOnly : Bool} {s : PasskeyStore} {e : PasskeyEnv} {op : PasskeyOp}

/-- The requests that write. -/
def PasskeyOp.writes : PasskeyOp → Bool
  | .createWebauthnCredential .. | .updateWebauthnCredential .. | .deleteWebauthnCredential _
  | .putWebauthnState .. | .deleteWebauthnState _ | .createUserToken .. => true
  | _ => false

theorem PasskeyStore.write_state {α : Type} {committed : α} :
    (s.write e readOnly op committed).2 = s ∨
      ∃ d, s.db.now.change e op = .ok d ∧ (s.write e readOnly op committed).2 = ⟨s.db.write d⟩ :=
  Fault.commit_state.imp (congrArg PasskeyStore.mk) fun ⟨d, hd, heq⟩ =>
    ⟨d, hd, congrArg PasskeyStore.mk heq⟩

/-- A write that is acknowledged is committed. -/
theorem PasskeyStore.write_ok {α : Type} {committed a : α}
    (h : (s.write e readOnly op committed).1 = .ok a) :
    ∃ d, s.db.now.change e op = .ok d ∧ (s.write e readOnly op committed).2 = ⟨s.db.write d⟩ := by
  obtain ⟨d, hd, heq⟩ := Fault.commit_ok h
  exact ⟨d, hd, congrArg PasskeyStore.mk heq⟩

/-- A request leaves the tables as they are, or it is a write that is committed. -/
theorem PasskeyStore.serve_state (s : PasskeyStore) (e : PasskeyEnv) (readOnly : Bool)
    (op : PasskeyOp) : (s.serve e readOnly op).2 = s ∨
      op.writes ∧ ∃ d, s.db.now.change e op = .ok d ∧ (s.serve e readOnly op).2 = ⟨s.db.write d⟩ := by
  cases op with
  | createWebauthnCredential id userId name passkeyJson =>
      exact write_state.imp_right fun h => ⟨rfl, h⟩
  | updateWebauthnCredential id change => exact write_state.imp_right fun h => ⟨rfl, h⟩
  | deleteWebauthnCredential id => exact write_state.imp_right fun h => ⟨rfl, h⟩
  | putWebauthnState id kind userId stateJson expiresAt =>
      exact write_state.imp_right fun h => ⟨rfl, h⟩
  | deleteWebauthnState id => exact write_state.imp_right fun h => ⟨rfl, h⟩
  | createUserToken tokenHash userId expiresAt challengeId =>
      exact write_state.imp_right fun h => ⟨rfl, h⟩
  | _ => exact .inl rfl

end served

end Microticket

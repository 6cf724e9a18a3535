import Microticket.Rows
import Microticket.Service
import Microticket.Store
import Microticket.Text

/-! # The tables of one-time codes

The tables `login_code`, `ephemeral_state` and `user_token` as the login-code and submit-code flows
use them.  A `CodeOp` is one request; the reads are not `ConsistentRead`, so they return the row of
`Env.lag` commits ago, and no write has a condition.  The clock, the random generator, Turnstile,
the mail and the reads of the user and instance tables are requests whose answers `Env` chooses.

Three things are not in the source; no program branches on them, they only make the history
readable.

* Every row of a code carries the `CodeId` of the code that was issued; a put that is not the
  write-back of a row gets a new one.
* `compareHash` stands for the comparison of the two hashes inside the resolvers.
* The requests that count an attempt and that store a token name the code they are made for.

`codeService readOnly reliable`: if `reliable`, requests on the row of a code neither fail nor read
an old version. -/

namespace Microticket

open Interleaving Tables RustText

/-! ### Rows -/

/-- The row that a code is kept in: of `login_code` or of `ephemeral_state`. -/
inductive CodeKey where
  | login (email : String)
  | submit (id : String)
  deriving DecidableEq, Repr

/-- An issued code: its row, and a number that no other code has. -/
structure CodeId where
  key : CodeKey
  number : ℕ
  deriving DecidableEq, Repr

/-- `db::LoginCode`. -/
structure LoginCode where
  email : String
  codeHash : String
  expiresAt : ℕ
  attempts : ℕ
  lastSentAt : ℕ
  code : CodeId
  deriving DecidableEq, Repr

/-- A row of `login_code`; `ADD attempts` on a missing row leaves one with only this attribute. -/
inductive LoginRow where
  | complete (record : LoginCode)
  | attemptsOnly (attempts : ℕ)
  deriving DecidableEq, Repr

/-- `auth::SubmitCodePayload`. -/
structure SubmitCodePayload where
  codeHash : String
  attempts : ℕ
  lastSentAt : ℕ
  deriving DecidableEq, Repr

/-- The payload of an `ephemeral_state` row, as the value it was serialized from; `text` is a payload
that does not parse. -/
inductive Payload where
  | submitCode (payload : SubmitCodePayload)
  | submitToken (email instanceId : String)
  | text (raw : String)
  deriving DecidableEq, Repr

/-- `db::EphemeralState`. -/
structure EphemeralState where
  id : String
  kind : String
  payload : Payload
  expiresAt : ℕ
  code : CodeId
  deriving DecidableEq, Repr

/-- `db::UserToken`. -/
structure UserToken where
  tokenHash : String
  userId : String
  createdAt : ℕ
  expiresAt : ℕ
  deriving DecidableEq, Repr

/-- What the flows read of `db::User`. -/
structure User where
  id : String
  enabled : Bool
  deriving DecidableEq, Repr

def submitCodeStateKind : String := "submit_code"
def submitTokenStateKind : String := "submit_token"

/-- The tables. -/
structure CodeDb where
  loginCodes : Table String LoginRow
  ephemeral : Table String EphemeralState
  userTokens : List UserToken

/-! ### Requests -/

/-- The requests. -/
inductive CodeOp where
  | clock
  | generateCode (digits : ℕ)
  | generateNonce (bytes : ℕ)
  | verifyTurnstile (token remoteIp : Option String)
  | sendPlainText (recipient subject content : String)
  | compareHash (code : CodeId) (stored given : String)
  | getUserIdByEmail (email : String)
  | getUser (id : String)
  | getInstanceIdBySlug (slug : String)
  | getInstance (id : String)
  | putLoginCode (email codeHash : String) (expiresAt now : ℕ)
  | getLoginCode (email : String)
  | deleteLoginCode (email : String)
  | incrementLoginCodeAttempts (email : String) (code : CodeId)
  | createUserToken (tokenHash userId : String) (expiresAt : ℕ) (code : CodeId)
  | putEphemeralState (id kind : String) (payload : Payload) (expiresAt : ℕ) (code : Option CodeId)
  | getEphemeralState (id : String)
  | deleteEphemeralState (id : String)
  deriving DecidableEq

/-- The answer to a request. -/
@[reducible] def CodeOp.Res : CodeOp → Type
  | .clock => ℕ
  | .generateCode _ | .generateNonce _ => String
  | .verifyTurnstile .. => Except String Bool
  | .sendPlainText .. => Except String Unit
  | .compareHash .. => Bool
  | .getUserIdByEmail _ | .getInstanceIdBySlug _ => Except DbError (Option String)
  | .getUser _ => Except DbError (Option User)
  | .getInstance _ => Except DbError (Option Instance)
  | .getLoginCode _ => Except DbError (Option LoginCode)
  | .getEphemeralState _ => Except DbError (Option EphemeralState)
  | .putLoginCode .. | .deleteLoginCode _ | .incrementLoginCodeAttempts .. | .createUserToken ..
  | .putEphemeralState .. | .deleteEphemeralState _ => Except DbError Unit

/-- What the tables do not decide themselves. -/
structure CodeEnv where
  now : ℕ
  random : ℕ
  nonce : String
  number : ℕ
  lag : ℕ
  fault : Fault
  turnstile : Except String Bool
  mail : Except String Unit
  userId : Except DbError (Option String)
  user : Except DbError (Option User)
  instanceId : Except DbError (Option String)
  inst : Except DbError (Option Instance)

/-- The state: the committed versions of the tables, and the numbers given to codes. -/
structure CodeStore where
  db : Replica CodeDb
  minted : List ℕ

namespace CodeDb

variable (d : CodeDb)

/-- `put_login_code`. -/
def putLoginCode (email codeHash : String) (expiresAt now number : ℕ) : CodeDb :=
  { d with loginCodes := d.loginCodes.insert email (.complete
      { email, codeHash, expiresAt, attempts := 0, lastSentAt := now,
        code := ⟨.login email, number⟩ }) }

/-- `ADD attempts :one`. -/
def LoginRow.addAttempt : Option LoginRow → LoginRow
  | some (.complete record) => .complete { record with attempts := record.attempts + 1 }
  | some (.attemptsOnly attempts) => .attemptsOnly (attempts + 1)
  | none => .attemptsOnly 1

/-- `increment_login_code_attempts`. -/
def incrementLoginCodeAttempts (email : String) : CodeDb :=
  { d with loginCodes :=
      d.loginCodes.insert email (LoginRow.addAttempt (d.loginCodes.lookup email)) }

/-- `delete_login_code`. -/
def deleteLoginCode (email : String) : CodeDb :=
  { d with loginCodes := d.loginCodes.erase email }

/-- `get_login_code`: an incomplete row is a hydration error. -/
def getLoginCode (email : String) : Except DbError (Option LoginCode) :=
  match d.loginCodes.lookup email with
  | none => .ok none
  | some (.complete record) => .ok (some record)
  | some (.attemptsOnly _) => .error (.hydration "LoginCode missing code_hash")

/-- `put_ephemeral_state`. -/
def putEphemeralState (id kind : String) (payload : Payload) (expiresAt : ℕ) (code : CodeId) :
    CodeDb :=
  { d with ephemeral := d.ephemeral.insert id { id, kind, payload, expiresAt, code } }

/-- `delete_ephemeral_state`. -/
def deleteEphemeralState (id : String) : CodeDb :=
  { d with ephemeral := d.ephemeral.erase id }

/-- `create_user_token`. -/
def createUserToken (tokenHash userId : String) (expiresAt now : ℕ) : CodeDb :=
  { d with userTokens := { tokenHash, userId, createdAt := now, expiresAt } :: d.userTokens }

/-- The tables after a write; `none` for the other requests. -/
def change (e : CodeEnv) : CodeOp → Option CodeDb
  | .putLoginCode email codeHash expiresAt now =>
      some (d.putLoginCode email codeHash expiresAt now e.number)
  | .deleteLoginCode email => some (d.deleteLoginCode email)
  | .incrementLoginCodeAttempts email _ => some (d.incrementLoginCodeAttempts email)
  | .createUserToken tokenHash userId expiresAt _ =>
      some (d.createUserToken tokenHash userId expiresAt e.now)
  | .putEphemeralState id kind payload expiresAt code =>
      some (d.putEphemeralState id kind payload expiresAt (code.getD ⟨.submit id, e.number⟩))
  | .deleteEphemeralState id => some (d.deleteEphemeralState id)
  | _ => none

end CodeDb

/-! ### The service -/

/-- The row of a code that the request reads or writes. -/
def CodeOp.row : CodeOp → Option CodeKey
  | .putLoginCode email .. | .getLoginCode email | .deleteLoginCode email
  | .incrementLoginCodeAttempts email _ => some (.login email)
  | .putEphemeralState id .. | .getEphemeralState id | .deleteEphemeralState id => some (.submit id)
  | _ => none

/-- The choices for the request: a reliable row neither fails nor is read late. -/
def CodeEnv.on (e : CodeEnv) (reliable : Bool) (op : CodeOp) : CodeEnv :=
  if reliable && op.row.isSome then { e with lag := 0, fault := .none } else e

namespace CodeStore

variable (s : CodeStore) (e : CodeEnv)

/-- A read of a table. -/
def read {α : Type} (answer : Except DbError α) : Except DbError α × CodeStore :=
  (if e.fault = .none then answer else .error connectionLost, s)

/-- A write. -/
def write (readOnly : Bool) (d : Option CodeDb) : Except DbError Unit × CodeStore :=
  match d with
  | none => (.error connectionLost, s)
  | some d =>
      if readOnly then (.error .mutationDisabled, s)
      else match e.fault with
        | .none => (.ok (), { db := s.db.write d, minted := e.number :: s.minted })
        | .unacknowledged =>
            (.error connectionLost, { db := s.db.write d, minted := e.number :: s.minted })
        | .lost | .cancelled => (.error connectionLost, s)

/-- Serve one request. -/
def serve (readOnly reliable : Bool) (op : CodeOp) : op.Res × CodeStore :=
  let e := e.on reliable op
  match op with
  | .clock => (e.now, s)
  | .generateCode digits => (zeroPadded digits (e.random % 10 ^ digits), s)
  | .generateNonce _ => (e.nonce, s)
  | .verifyTurnstile .. => (e.turnstile, s)
  | .sendPlainText .. => (e.mail, s)
  | .compareHash _ stored given => (stored == given, s)
  | .getUserIdByEmail _ => (e.userId, s)
  | .getUser _ => (e.user, s)
  | .getInstanceIdBySlug _ => (e.instanceId, s)
  | .getInstance _ => (e.inst, s)
  | .getLoginCode email => s.read e ((s.db.seen e.lag).getLoginCode email)
  | .getEphemeralState id => s.read e (.ok ((s.db.seen e.lag).ephemeral.lookup id))
  | .putLoginCode email codeHash expiresAt now =>
      s.write e readOnly (s.db.now.change e (.putLoginCode email codeHash expiresAt now))
  | .deleteLoginCode email => s.write e readOnly (s.db.now.change e (.deleteLoginCode email))
  | .incrementLoginCodeAttempts email code =>
      s.write e readOnly (s.db.now.change e (.incrementLoginCodeAttempts email code))
  | .createUserToken tokenHash userId expiresAt code =>
      s.write e readOnly (s.db.now.change e (.createUserToken tokenHash userId expiresAt code))
  | .putEphemeralState id kind payload expiresAt code =>
      s.write e readOnly (s.db.now.change e (.putEphemeralState id kind payload expiresAt code))
  | .deleteEphemeralState id =>
      s.write e readOnly (s.db.now.change e (.deleteEphemeralState id))

end CodeStore

/-- The tables of codes as a service. -/
@[reducible] def codeService (readOnly reliable : Bool) : Service CodeOp CodeOp.Res where
  State := CodeStore
  Env := CodeEnv
  Allowed s e := e.number ∉ s.minted
  serve s e op := s.serve e readOnly reliable op

instance (readOnly reliable : Bool) (s : (codeService readOnly reliable).State)
    (e : (codeService readOnly reliable).Env) :
    Decidable ((codeService readOnly reliable).Allowed s e) :=
  inferInstanceAs (Decidable (e.number ∉ CodeStore.minted s))

end Microticket

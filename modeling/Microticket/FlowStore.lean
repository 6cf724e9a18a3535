import Microticket.CodeMutations
import Microticket.PasskeyMutations
import Microticket.Sessions

/-! # The flows that share `ephemeral_state`

The table `ephemeral_state` under all its users at once: submit codes, submit tokens, OAuth
authorization codes and the challenges of passkeys, with `login_code` and `user_token` beside it.
The programs are those of `CodeMutations`, `OAuthTokens`, `PasskeyMutations` and `Sessions`; a
`FlowOp` is a request of one of them, and `FlowCall.program` sends it here.

A row is stored as `db::EphemeralState`, with its payload as a text; every flow reads it through its
own parser (`FlowLibs`, with the laws `FlowLaws`).  Reads may be stale and answers may be lost.  All
requests on other tables are answered by `Env`, in any way.  No nonce and no `random_id` is drawn
twice, an id has 32 characters and a nonce those of its bytes in base64url, and the id of an instance
is a `random_id` (`flowService.Allowed`).  The `CodeId` of a code is not used. -/

namespace Microticket

open Interleaving Tables RustText

/-! ### Other crates -/

/-- What the flows use of other crates. -/
structure FlowLibs extends SessionLibs where
  webauthn : WebauthnLibs
  serializeSubmitCode : SubmitCodePayload → String
  parseSubmitCode : String → Option SubmitCodePayload
  serializeSubmitToken : (email instanceId : String) → String
  serializeWebauthnState : (userId : Option String) → StateJson → String
  parseWebauthnState : String → StatePayload

/-- A payload that is serialized is read back, `sha256_hex` is one function, and its values have 64
digits. -/
structure FlowLaws (libs : FlowLibs) : Prop where
  submitCode : ∀ payload, libs.parseSubmitCode (libs.serializeSubmitCode payload) = some payload
  submitToken : ∀ email instanceId,
    libs.parseSubmitToken (libs.serializeSubmitToken email instanceId) = .ok (email, instanceId)
  registration : ∀ userId state,
    libs.parseWebauthnState (libs.serializeWebauthnState userId (.registration state)) =
      .webauthn userId (.registration state)
  oauthHash : libs.oauth.sha256Hex = libs.sha256Hex
  webauthnHash : libs.webauthn.sha256Hex = libs.sha256Hex
  digits : ∀ s, (libs.sha256Hex s).length = 64

/-! ### Tables -/

/-- The tables. -/
structure FlowDb where
  loginCodes : Table String LoginRow
  states : Table String EphemeralRow
  userTokens : Table String Hydration.UserToken

/-- The requests. -/
inductive FlowOp where
  | code (op : CodeOp)
  | oauth (op : OAuthOp)
  | passkey (op : PasskeyOp)
  | session (op : SessionOp)
  deriving DecidableEq

/-- The answer to a request. -/
@[reducible] def FlowOp.Res : FlowOp → Type
  | .code op => op.Res
  | .oauth op => op.Res
  | .passkey op => op.Res
  | .session op => op.Res

/-- A request with its answer. -/
abbrev FlowEvent : Type := Event FlowOp FlowOp.Res

/-- What the tables do not decide themselves. -/
structure FlowEnv where
  now : ℕ
  random : ℕ
  nonce : ℕ → String
  id : String
  lag : ℕ
  fault : Fault
  instanceId : Except DbError (Option String)
  answer : (op : FlowOp) → op.Res

/-- The state: the committed versions of the tables, and what was drawn. -/
structure FlowStore where
  db : Replica FlowDb
  drawn : List String

section rows
variable (libs : FlowLibs)

/-- The text of a payload of `auth.rs`. -/
def Payload.toText : Payload → String
  | .submitCode payload => libs.serializeSubmitCode payload
  | .submitToken email instanceId => libs.serializeSubmitToken email instanceId
  | .text raw => raw

/-- A row as the submit codes read it. -/
def EphemeralRow.codeState (row : EphemeralRow) : EphemeralState where
  id := row.id
  kind := row.kind
  payload := match libs.parseSubmitCode row.payload with
    | some payload => .submitCode payload
    | none => .text row.payload
  expiresAt := row.expiresAt
  code := ⟨.submit row.id, 0⟩

/-- A row as the passkeys read it. -/
def EphemeralRow.stateRow (row : EphemeralRow) : StateRow where
  id := row.id
  kind := row.kind
  payload := libs.parseWebauthnState row.payload
  expiresAt := row.expiresAt

/-- The row that a request puts. -/
def FlowOp.puts : FlowOp → Option EphemeralRow
  | .code (.putEphemeralState id kind payload expiresAt _) =>
      some ⟨id, kind, payload.toText libs, expiresAt⟩
  | .oauth (.putEphemeralState id kind payload expiresAt) => some ⟨id, kind, payload, expiresAt⟩
  | .passkey (.putWebauthnState id kind userId stateJson expiresAt) =>
      some ⟨id, kind, libs.serializeWebauthnState userId stateJson, expiresAt⟩
  | _ => none

end rows

/-- The row that a request deletes. -/
def FlowOp.deletes : FlowOp → Option String
  | .code (.deleteEphemeralState id) | .oauth (.deleteEphemeralState id)
  | .passkey (.deleteWebauthnState id) => some id
  | _ => none

/-- The hash of the user token that a request stores. -/
def FlowOp.storesToken : FlowOp → Option String
  | .code (.createUserToken tokenHash ..) | .passkey (.createUserToken tokenHash ..) =>
      some tokenHash
  | _ => none

namespace FlowDb

variable (libs : FlowLibs) (e : FlowEnv) (d : FlowDb)

/-- The tables as `CodeStore` has them, for `login_code`. -/
def codes : CodeDb := ⟨d.loginCodes, ∅, []⟩

/-- `put_ephemeral_state`. -/
def putState (row : EphemeralRow) : FlowDb := { d with states := d.states.insert row.id row }

/-- `delete_ephemeral_state`. -/
def deleteState (id : String) : FlowDb := { d with states := d.states.erase id }

/-- `create_user_token`. -/
def createUserToken (tokenHash userId : String) (expiresAt : ℕ) : FlowDb :=
  { d with userTokens :=
      d.userTokens.insert e.id (newUserToken e.id tokenHash userId expiresAt e.now) }

/-- The tables after a write of a code mutation; the other requests write nothing here. -/
def changeCode : CodeOp → FlowDb
  | .putLoginCode email codeHash expiresAt now =>
      { d with loginCodes := (d.codes.putLoginCode email codeHash expiresAt now 0).loginCodes }
  | .deleteLoginCode email => { d with loginCodes := (d.codes.deleteLoginCode email).loginCodes }
  | .incrementLoginCodeAttempts email _ =>
      { d with loginCodes := (d.codes.incrementLoginCodeAttempts email).loginCodes }
  | .createUserToken tokenHash userId expiresAt _ => d.createUserToken e tokenHash userId expiresAt
  | .putEphemeralState id kind payload expiresAt _ =>
      d.putState ⟨id, kind, payload.toText libs, expiresAt⟩
  | .deleteEphemeralState id => d.deleteState id
  | _ => d

/-- The tables after a write of an OAuth endpoint, or after the deletion of an expired row. -/
def changeOAuth : OAuthOp → FlowDb
  | .putEphemeralState id kind payload expiresAt => d.putState ⟨id, kind, payload, expiresAt⟩
  | .deleteEphemeralState id => d.deleteState id
  | .expire .states id =>
      if (d.states.lookup id).any fun row => row.expiresAt ≤ e.now then d.deleteState id else d
  | _ => d

/-- The tables after a write of a passkey mutation. -/
def changePasskey : PasskeyOp → FlowDb
  | .putWebauthnState id kind userId stateJson expiresAt =>
      d.putState ⟨id, kind, libs.serializeWebauthnState userId stateJson, expiresAt⟩
  | .deleteWebauthnState id => d.deleteState id
  | .createUserToken tokenHash userId expiresAt _ => d.createUserToken e tokenHash userId expiresAt
  | _ => d

/-- The tables after a write, or why its condition fails. -/
def change : FlowOp → Except DbError FlowDb
  | .code op => .ok (d.changeCode libs e op)
  | .oauth op => .ok (d.changeOAuth e op)
  | .passkey op => .ok (d.changePasskey libs e op)
  | .session (.touchUserToken id now) =>
      (AdminDb.updateRow "UserToken" d.userTokens id (touchedUserToken now)).map
        fun userTokens => { d with userTokens }
  | .session _ => .ok d

end FlowDb

/-! ### The service -/

namespace FlowStore

variable (libs : FlowLibs) (s : FlowStore) (e : FlowEnv)

/-- What was on offer is drawn. -/
def tick : FlowStore := { s with drawn := e.id :: e.nonce 16 :: e.nonce 32 :: s.drawn }

/-- A read. -/
def read {α : Type} (answer : Except DbError α) : Except DbError α × FlowStore :=
  (e.fault.read answer, s.tick e)

/-- A write. -/
def write (readOnly : Bool) (op : FlowOp) : Except DbError Unit × FlowStore :=
  let (answer, db) := e.fault.commit readOnly s.db (s.db.now.change libs e op) ()
  (answer, { s.tick e with db })

/-- A request of a code mutation. -/
def serveCode (readOnly : Bool) : (op : CodeOp) → op.Res × FlowStore
  | .clock => (e.now, s.tick e)
  | .generateCode digits => (zeroPadded digits (e.random % 10 ^ digits), s.tick e)
  | .generateNonce bytes => (e.nonce bytes, s.tick e)
  | .compareHash _ stored given => (stored == given, s.tick e)
  | .getInstanceIdBySlug _ => (e.instanceId, s.tick e)
  | .getLoginCode email => s.read e ((s.db.seen e.lag).codes.getLoginCode email)
  | .getEphemeralState id =>
      s.read e (.ok (((s.db.seen e.lag).states.lookup id).map (EphemeralRow.codeState libs)))
  | .putLoginCode email codeHash expiresAt now =>
      s.write libs e readOnly (.code (.putLoginCode email codeHash expiresAt now))
  | .deleteLoginCode email => s.write libs e readOnly (.code (.deleteLoginCode email))
  | .incrementLoginCodeAttempts email code =>
      s.write libs e readOnly (.code (.incrementLoginCodeAttempts email code))
  | .createUserToken tokenHash userId expiresAt code =>
      s.write libs e readOnly (.code (.createUserToken tokenHash userId expiresAt code))
  | .putEphemeralState id kind payload expiresAt code =>
      s.write libs e readOnly (.code (.putEphemeralState id kind payload expiresAt code))
  | .deleteEphemeralState id => s.write libs e readOnly (.code (.deleteEphemeralState id))
  | op => (e.answer (.code op), s.tick e)

/-- A request of an OAuth endpoint. -/
def serveOAuth (readOnly : Bool) : (op : OAuthOp) → op.Res × FlowStore
  | .clock => (e.now, s.tick e)
  | .generateNonce bytes => (e.nonce bytes, s.tick e)
  | .getEphemeralState id => s.read e (.ok ((s.db.seen e.lag).states.lookup id))
  | .putEphemeralState id kind payload expiresAt =>
      s.write libs e readOnly (.oauth (.putEphemeralState id kind payload expiresAt))
  | .deleteEphemeralState id => s.write libs e readOnly (.oauth (.deleteEphemeralState id))
  | .expire table id =>
      ((), { s.tick e with db := s.db.write (s.db.now.changeOAuth e (.expire table id)) })
  | op => (e.answer (.oauth op), s.tick e)

/-- A request of a passkey mutation. -/
def servePasskey (readOnly : Bool) : (op : PasskeyOp) → op.Res × FlowStore
  | .clock => (e.now, s.tick e)
  | .randomId => (e.id, s.tick e)
  | .generateNonce bytes => (e.nonce bytes, s.tick e)
  | .getWebauthnState id => s.read e (match (s.db.seen e.lag).states.lookup id with
      | none => .ok none
      | some row => (row.stateRow libs).state.map some)
  | .putWebauthnState id kind userId stateJson expiresAt =>
      s.write libs e readOnly (.passkey (.putWebauthnState id kind userId stateJson expiresAt))
  | .deleteWebauthnState id => s.write libs e readOnly (.passkey (.deleteWebauthnState id))
  | .createUserToken tokenHash userId expiresAt challengeId =>
      s.write libs e readOnly (.passkey (.createUserToken tokenHash userId expiresAt challengeId))
  | op => (e.answer (.passkey op), s.tick e)

/-- A request of the verification of a token. -/
def serveSession (readOnly : Bool) : (op : SessionOp) → op.Res × FlowStore
  | .oauth (.getEphemeralState id) => s.read e (.ok ((s.db.seen e.lag).states.lookup id))
  | .getUserTokenByHash tokenHash =>
      s.read e ((⟨(s.db.seen e.lag).userTokens, ∅, ∅⟩ : SessionDb).userTokenByHash tokenHash)
  | .touchUserToken id now => s.write libs e readOnly (.session (.touchUserToken id now))
  | op => (e.answer (.session op), s.tick e)

/-- Serve one request. -/
def serve (readOnly : Bool) : (op : FlowOp) → op.Res × FlowStore
  | .code op => s.serveCode libs e readOnly op
  | .oauth op => s.serveOAuth libs e readOnly op
  | .passkey op => s.servePasskey libs e readOnly op
  | .session op => s.serveSession libs e readOnly op

end FlowStore

/-- The ids and nonces are those of the code's generators, and new. -/
def FlowEnv.Draws (e : FlowEnv) (drawn : List String) : Prop :=
  e.id ∉ drawn ∧ e.nonce 16 ∉ drawn ∧ e.nonce 32 ∉ drawn ∧
    e.id.length = 32 ∧ (e.nonce 16).length = 22 ∧ (e.nonce 32).length = 43 ∧
    '.' ∉ e.id.toList ∧ '.' ∉ (e.nonce 16).toList ∧ '.' ∉ (e.nonce 32).toList

/-- The id of an instance has no `:`. -/
def FlowEnv.NamesInstance (e : FlowEnv) : Prop :=
  ∀ id ∈ e.instanceId.toOption.join, ':' ∉ id.toList

instance (e : FlowEnv) (drawn : List String) : Decidable (e.Draws drawn) :=
  inferInstanceAs (Decidable (_ ∧ _))

instance (e : FlowEnv) : Decidable e.NamesInstance :=
  inferInstanceAs (Decidable (∀ id ∈ e.instanceId.toOption.join, _))

/-- The tables of the flows as a service. -/
@[reducible] def flowService (libs : FlowLibs) (readOnly : Bool) : Service FlowOp FlowOp.Res where
  State := FlowStore
  Env := FlowEnv
  Allowed s e := e.Draws s.drawn ∧ e.NamesInstance
  serve s e op := s.serve libs e readOnly op

instance (libs : FlowLibs) (readOnly : Bool) (s : (flowService libs readOnly).State)
    (e : (flowService libs readOnly).Env) : Decidable ((flowService libs readOnly).Allowed s e) :=
  inferInstanceAs (Decidable (FlowEnv.Draws e (FlowStore.drawn s) ∧ FlowEnv.NamesInstance e))

/-- The store before the first request. -/
def emptyFlowStore : FlowStore := ⟨⟨⟨∅, ∅, ∅⟩, []⟩, []⟩

/-! ### What a request does -/

section served
variable {libs : FlowLibs} {readOnly : Bool} {s : FlowStore} {e : FlowEnv} {op : FlowOp}
variable {d d' : FlowDb}

theorem FlowStore.write_db : (s.write libs e readOnly op).2.db = s.db ∨
    ∃ d, s.db.now.change libs e op = .ok d ∧ (s.write libs e readOnly op).2.db = s.db.write d :=
  Fault.commit_state

/-- A request leaves the tables as they are, or it is a write that is committed. -/
theorem FlowStore.serve_db (libs : FlowLibs) (s : FlowStore) (e : FlowEnv) (readOnly : Bool)
    (op : FlowOp) : (s.serve libs e readOnly op).2.db = s.db ∨
      ∃ d, s.db.now.change libs e op = .ok d ∧ (s.serve libs e readOnly op).2.db = s.db.write d := by
  rcases op with op | op | op | op
  · cases op with
    | putLoginCode | deleteLoginCode | incrementLoginCodeAttempts | createUserToken
    | putEphemeralState | deleteEphemeralState => exact write_db
    | _ => exact .inl rfl
  · cases op with
    | putEphemeralState | deleteEphemeralState => exact write_db
    | expire => exact .inr ⟨_, rfl, rfl⟩
    | _ => exact .inl rfl
  · cases op with
    | putWebauthnState | deleteWebauthnState | createUserToken => exact write_db
    | _ => exact .inl rfl
  · cases op with
    | touchUserToken => exact write_db
    | oauth op => cases op <;> exact .inl rfl
    | _ => exact .inl rfl

/-- Every request takes what was on offer. -/
theorem FlowStore.serve_drawn (libs : FlowLibs) (s : FlowStore) (e : FlowEnv) (readOnly : Bool)
    (op : FlowOp) : (s.serve libs e readOnly op).2.drawn =
      e.id :: e.nonce 16 :: e.nonce 32 :: s.drawn := by
  rcases op with op | op | op | op
  · cases op <;> rfl
  · cases op <;> rfl
  · cases op <;> rfl
  · cases op with
    | oauth op => cases op <;> rfl
    | _ => rfl

/-- A touch finds its row. -/
theorem FlowDb.change_touch {id : String} {now : ℕ}
    (h : d.change libs e (.session (.touchUserToken id now)) = .ok d') :
    ∃ row, d.userTokens.lookup id = some row ∧
      d' = { d with userTokens := d.userTokens.insert id (touchedUserToken now row) } := by
  obtain ⟨tokens, htouch, rfl⟩ := except_map_ok h
  obtain ⟨row, hrow, rfl⟩ := updateRow_ok htouch
  exact ⟨row, hrow, rfl⟩

/-- OAuth leaves the other tables as they are. -/
theorem FlowDb.changeOAuth_others (d : FlowDb) (e : FlowEnv) (op : OAuthOp) :
    (d.changeOAuth e op).loginCodes = d.loginCodes ∧
      (d.changeOAuth e op).userTokens = d.userTokens := by
  cases op with
  | expire table key =>
      cases table with
      | grants => exact ⟨rfl, rfl⟩
      | states =>
          unfold changeOAuth
          dsimp only
          split <;> exact ⟨rfl, rfl⟩
  | _ => exact ⟨rfl, rfl⟩

/-- A row of `ephemeral_state` after a write was there before, or the write put it. -/
theorem FlowDb.change_states (h : d.change libs e op = .ok d') {id : String} {row : EphemeralRow}
    (hrow : d'.states.lookup id = some row) :
    d.states.lookup id = some row ∨ op.puts libs = some row ∧ row.id = id := by
  have hput : ∀ {new : EphemeralRow}, (d.putState new).states.lookup id = some row →
      d.states.lookup id = some row ∨ some new = some row ∧ row.id = id := by
    intro new hnew
    rcases Table.lookup_insert_cases _ _ _ _ hnew with ⟨rfl, rfl⟩ | hold
    · exact .inr ⟨rfl, rfl⟩
    · exact .inl hold
  have hdelete : ∀ {key : String}, (d.deleteState key).states.lookup id = some row →
      d.states.lookup id = some row := fun h => Table.lookup_of_erase _ _ _ _ h
  rcases op with op | op | op | op
  · cases h
    cases op with
    | putEphemeralState => exact hput hrow
    | deleteEphemeralState => exact .inl (hdelete hrow)
    | _ => exact .inl hrow
  · cases h
    cases op with
    | putEphemeralState => exact hput hrow
    | deleteEphemeralState => exact .inl (hdelete hrow)
    | expire table key =>
        cases table with
        | grants => exact .inl hrow
        | states =>
            unfold changeOAuth at hrow
            dsimp only at hrow
            split at hrow
            · exact .inl (hdelete hrow)
            · exact .inl hrow
    | _ => exact .inl hrow
  · cases h
    cases op with
    | putWebauthnState => exact hput hrow
    | deleteWebauthnState => exact .inl (hdelete hrow)
    | _ => exact .inl hrow
  · cases op with
    | touchUserToken key now =>
        obtain ⟨old, -, rfl⟩ := change_touch h
        exact .inl hrow
    | _ =>
        cases h
        exact .inl hrow

/-- The code of a login row after a write was there before, or the write stored it. -/
theorem FlowDb.change_logins (h : d.change libs e op = .ok d') {email : String} {record : LoginCode}
    (hrow : d'.loginCodes.lookup email = some (.complete record)) :
    (∃ old, d.loginCodes.lookup email = some (.complete old) ∧ old.codeHash = record.codeHash) ∨
      ∃ expiresAt now, op = .code (.putLoginCode email record.codeHash expiresAt now) := by
  have hkept : d'.loginCodes = d.loginCodes → ∃ old,
      d.loginCodes.lookup email = some (.complete old) ∧ old.codeHash = record.codeHash :=
    fun heq => ⟨record, heq ▸ hrow, rfl⟩
  rcases op with op | op | op | op
  · cases h
    cases op with
    | putLoginCode key hash expiresAt now =>
        rcases Table.lookup_insert_cases _ _ _ _ hrow with ⟨rfl, hnew⟩ | hold
        · cases hnew
          exact .inr ⟨expiresAt, now, rfl⟩
        · exact .inl ⟨record, hold, rfl⟩
    | deleteLoginCode key => exact .inl ⟨record, Table.lookup_of_erase _ _ _ _ hrow, rfl⟩
    | incrementLoginCodeAttempts key code =>
        rcases Table.lookup_insert_cases _ _ _ _ hrow with ⟨rfl, hnew⟩ | hold
        · change _ = CodeDb.LoginRow.addAttempt (d.loginCodes.lookup email) at hnew
          cases hold : d.loginCodes.lookup email with
          | none =>
              rw [hold] at hnew
              cases hnew
          | some old =>
              rw [hold] at hnew
              cases old with
              | attemptsOnly n => cases hnew
              | complete old =>
                  cases hnew
                  exact .inl ⟨old, rfl, rfl⟩
        · exact .inl ⟨record, hold, rfl⟩
    | _ => exact .inl (hkept rfl)
  · cases h
    exact .inl (hkept (changeOAuth_others d e op).1)
  · cases h
    cases op <;> exact .inl (hkept rfl)
  · cases op with
    | touchUserToken key now =>
        obtain ⟨old, -, rfl⟩ := change_touch h
        exact .inl (hkept rfl)
    | _ =>
        cases h
        exact .inl (hkept rfl)

/-- The hash of a user token after a write was there before, or the write stored it. -/
theorem FlowDb.change_tokens (h : d.change libs e op = .ok d') {id : String}
    {row : Hydration.UserToken} (hrow : d'.userTokens.lookup id = some row) :
    (∃ key old, d.userTokens.lookup key = some old ∧ old.tokenHash = row.tokenHash) ∨
      op.storesToken = some row.tokenHash := by
  have hkept : d'.userTokens = d.userTokens → ∃ key old,
      d.userTokens.lookup key = some old ∧ old.tokenHash = row.tokenHash :=
    fun heq => ⟨id, row, heq ▸ hrow, rfl⟩
  have hcreate : ∀ {tokenHash userId : String} {expiresAt : ℕ},
      (d.createUserToken e tokenHash userId expiresAt).userTokens.lookup id = some row →
      (∃ key old, d.userTokens.lookup key = some old ∧ old.tokenHash = row.tokenHash) ∨
        some tokenHash = some row.tokenHash := by
    intro tokenHash userId expiresAt hnew
    rcases Table.lookup_insert_cases _ _ _ _ hnew with ⟨-, rfl⟩ | hold
    · exact .inr rfl
    · exact .inl ⟨id, row, hold, rfl⟩
  rcases op with op | op | op | op
  · cases h
    cases op with
    | createUserToken => exact hcreate hrow
    | _ => exact .inl (hkept rfl)
  · cases h
    exact .inl (hkept (changeOAuth_others d e op).2)
  · cases h
    cases op with
    | createUserToken => exact hcreate hrow
    | _ => exact .inl (hkept rfl)
  · cases op with
    | touchUserToken key now =>
        obtain ⟨old, hold, rfl⟩ := change_touch h
        rcases Table.lookup_insert_cases _ _ _ _ hrow with ⟨-, rfl⟩ | hsame
        · exact .inl ⟨key, old, hold, rfl⟩
        · exact .inl ⟨id, row, hsame, rfl⟩
    | _ =>
        cases h
        exact .inl (hkept rfl)

end served

/-! ### The system -/

/-- A program over these tables. -/
abbrev FlowProg (ε α : Type) : Type := Prog FlowOp FlowOp.Res ε α

def CodeOp.flow (op : CodeOp) : FlowProg Empty op.Res := .call (.code op) .done
def OAuthOp.flow (op : OAuthOp) : FlowProg OAuthFailure op.Res := .call (.oauth op) .done
def PasskeyOp.flow (op : PasskeyOp) : FlowProg Error op.Res := .call (.passkey op) .done
def SessionOp.flow (op : SessionOp) : FlowProg OAuthFailure op.Res := .call (.session op) .done

/-- The calls. -/
inductive FlowCall where
  | code (m : CodeMutation)
  | oauth (call : OAuthCall)
  | passkey (m : PasskeyMutation)
  | verifyToken (token : String)

/-- What a call returns. -/
inductive FlowReply where
  | requested (sent : Bool)
  | token (secret : Option String)
  | oauth (reply : OAuthReply)
  | passkey (reply : PasskeyReply)
  | session (reply : SessionReply)
  deriving DecidableEq

variable (libs : FlowLibs)

/-- A code mutation with its answer. -/
def CodeMutation.reply (libs : CodeLibs) : CodeMutation → CodeProg FlowReply
  | .requestAuthCode email token ip =>
      Microticket.requestAuthCode libs email token ip >>= fun sent => .done (.requested sent)
  | .verifyAuthCode email code =>
      Microticket.verifyAuthCode libs email code >>= fun secret => .done (.token secret)
  | .requestSubmitCode slug email token ip =>
      Microticket.requestSubmitCode libs slug email token ip >>= fun sent => .done (.requested sent)
  | .verifySubmitCode slug email code =>
      Microticket.verifySubmitCode libs slug email code >>= fun secret => .done (.token secret)

/-- The program of a call. -/
def FlowCall.program : FlowCall → FlowProg OAuthFailure FlowReply
  | .code m => ((m.reply libs.toCodeLibs).translate CodeOp.flow).mapError Empty.elim
  | .oauth call => (call.program libs.oauth).translate OAuthOp.flow >>= fun reply =>
      .done (.oauth reply)
  | .passkey m => ((m.prog libs.webauthn).translate PasskeyOp.flow).mapError .resolver >>=
      fun reply => .done (.passkey reply)
  | .verifyToken token =>
      (Microticket.verifyToken libs.toSessionLibs token).translate SessionOp.flow >>= fun reply =>
        .done (.session reply)

/-- The programs that take part in a run. -/
def IsFlowCall (p : FlowProg OAuthFailure FlowReply) : Prop :=
  ∃ call : FlowCall, call.program libs = p

/-- A pool reached by any interleaving of the calls, from empty tables. -/
def FlowReachable (readOnly : Bool)
    (c : Pool (flowService libs readOnly) OAuthFailure FlowReply) : Prop :=
  Run (flowService libs readOnly) (IsFlowCall libs) (Pool.init emptyFlowStore) c

end Microticket

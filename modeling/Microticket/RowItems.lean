import Microticket.AdminStore
import Microticket.OAuthStore
import Microticket.Service
import Microticket.TicketStore
import Microticket.DynamoWrites
import Mathlib.Algebra.Group.Nat.Defs
import Mathlib.Logic.Function.Basic

/-! # Rows as items

The tables `login_code`, `user_token`, `oauth_grant`, `api_token`, `membership`,
`webauthn_credential` and `ephemeral_state` as they are stored, attribute by attribute, with the
methods of `dynamodb.rs` on them.  A `RowOp` is one call of such a method: `RowOp.request` is the
write that it sends, and the reads turn the items they find into records (`RowTable.tryInto`, the
`TryInto` of the record type).

* A method that reads without `ConsistentRead` sees the row of `RowEnv.lag` commits ago, and an index
  is seen `RowEnv.indexLag` commits late.
* `RowEnv.now` is the clock of the handler; its seconds, with the longest time that a method adds to
  them, fit in an `i64`.
* The removal of a row by its TTL is a delete of that row.  `count_webauthn_credentials_by_user` turns
  no item into a record and is left out, as are the attributes `Null`, which no method writes. -/

namespace Microticket

open Interleaving Tables

/-- `MembershipRole::as_str`. -/
def MembershipRole.asStr : MembershipRole → String
  | owner => "owner"
  | agent => "agent"

/-- `MembershipRole::parse`. -/
def MembershipRole.parse (s : String) : Option MembershipRole :=
  if s = "owner" then some owner else if s = "agent" then some agent else none

/-- `NotificationSettings::default`. -/
def NotificationSettings.default : NotificationSettings := ⟨true, true, true, true, false⟩

namespace Hydration

/-! ### Attributes -/

/-- `Item::id`. -/
def id (item : Item) : Except String String :=
  match item.attribute "id" with
  | none => .error "Encountered an item with a missing id field"
  | some (.s value) => .ok value
  | some _ => .error "Encountered an item with an ID that is not a string"

/-- `Item::string_field`. -/
def stringField (item : Item) (field : String) : Except String (Option String) :=
  match item.attribute field with
  | none => .ok none
  | some (.s value) => .ok (some value)
  | some _ => .error s!"Item had string field of wrong type: {field}"

/-- `Item::i64_field`. -/
def i64Field (item : Item) (field : String) : Except String (Option ℕ) :=
  match item.attribute field with
  | none => .ok none
  | some (.n value) =>
      if value < 2 ^ 63 then .ok (some value)
      else .error s!"Item had unparseable number field: {field}"
  | some _ => .error s!"Item had number field of wrong type: {field}"

/-- `Item::bool_field`. -/
def boolField (item : Item) (field : String) : Except String (Option Bool) :=
  match item.attribute field with
  | none => .ok none
  | some (.bool value) => .ok (some value)
  | some _ => .error s!"Item had bool field of wrong type: {field}"

/-- `ok_or_else` on a field. -/
def required {α : Type} (field : Except String (Option α)) (missing : String) : Except String α := do
  match ← field with
  | some value => return value
  | none => .error missing

/-! ### Records -/

/-- `db::LoginCode`. -/
structure LoginCode where
  email : String
  codeHash : String
  expiresAt : ℕ
  attempts : ℕ
  lastSentAt : ℕ
  deriving DecidableEq, Repr

/-- `db::UserToken`. -/
structure UserToken where
  id : String
  tokenHash : String
  userId : String
  createdAt : ℕ
  expiresAt : ℕ
  lastUsedAt : Option ℕ
  deriving DecidableEq, Repr

/-- `db::ApiToken`. -/
structure ApiToken where
  id : String
  instanceId : String
  name : String
  tokenHash : String
  enabled : Bool
  createdAt : ℕ
  createdByUserId : String
  lastUsedAt : Option ℕ
  deriving DecidableEq, Repr

/-- `db::WebauthnCredential`. -/
structure WebauthnCredential where
  id : String
  userId : String
  name : String
  passkeyJson : String
  createdAt : ℕ
  lastUsedAt : Option ℕ
  deriving DecidableEq, Repr

/-- `db::NotificationSettingsPatch`. -/
structure NotificationSettingsPatch where
  newTicket : Option Bool
  assignedToMe : Option Bool
  assignedToMeUpdated : Option Bool
  unassignedUpdated : Option Bool
  assignedToOthersUpdated : Option Bool
  deriving DecidableEq, Repr

/-- `NotificationSettingsPatch::is_empty`. -/
def NotificationSettingsPatch.isEmpty (patch : NotificationSettingsPatch) : Bool :=
  patch.newTicket.isNone && patch.assignedToMe.isNone && patch.assignedToMeUpdated.isNone &&
    patch.unassignedUpdated.isNone && patch.assignedToOthersUpdated.isNone

/-- `db::Membership`. -/
structure Membership where
  id : String
  userId : String
  instanceId : String
  role : MembershipRole
  notificationSettings : NotificationSettings
  deriving DecidableEq, Repr

variable (item : Item)

/-- `TryInto<db::LoginCode>`. -/
def loginCode : Except String LoginCode := do
  let email ← required (stringField item "email") "LoginCode missing email"
  let codeHash ← required (stringField item "code_hash") "LoginCode missing code_hash"
  let expiresAt ← required (i64Field item "expires_at") "LoginCode missing expires_at"
  let attempts ← i64Field item "attempts"
  let lastSentAt ← required (i64Field item "last_sent_at") "LoginCode missing last_sent_at"
  return { email, codeHash, expiresAt, attempts := attempts.getD 0, lastSentAt }

/-- `TryInto<db::UserToken>`. -/
def userToken : Except String UserToken := do
  let id ← id item
  let tokenHash ← required (stringField item "token_hash") "UserToken missing token_hash"
  let userId ← required (stringField item "user_id") "UserToken missing user_id"
  let createdAt ← required (i64Field item "created_at") "UserToken missing created_at"
  let expiresAt ← required (i64Field item "expires_at") "UserToken missing expires_at"
  let lastUsedAt ← i64Field item "last_used_at"
  return { id, tokenHash, userId, createdAt, expiresAt, lastUsedAt }

/-- `TryInto<db::OAuthGrant>`. -/
def oauthGrant : Except String OAuthGrant := do
  let id ← id item
  let userId ← required (stringField item "user_id") "OAuthGrant missing user_id"
  let clientId ← required (stringField item "client_id") "OAuthGrant missing client_id"
  let clientName ← stringField item "client_name"
  let redirectUri ← required (stringField item "redirect_uri") "OAuthGrant missing redirect_uri"
  let resource ← required (stringField item "resource") "OAuthGrant missing resource"
  let scope ← required (stringField item "scope") "OAuthGrant missing scope"
  let accessTokenHash ←
    required (stringField item "access_token_hash") "OAuthGrant missing access_token_hash"
  let accessExpiresAt ←
    required (i64Field item "access_expires_at") "OAuthGrant missing access_expires_at"
  let refreshTokenHash ←
    required (stringField item "refresh_token_hash") "OAuthGrant missing refresh_token_hash"
  let refreshExpiresAt ←
    required (i64Field item "refresh_expires_at") "OAuthGrant missing refresh_expires_at"
  let expiresAt ← required (i64Field item "expires_at") "OAuthGrant missing expires_at"
  let createdAt ← required (i64Field item "created_at") "OAuthGrant missing created_at"
  let lastUsedAt ← i64Field item "last_used_at"
  return { id, userId, clientId, clientName := clientName.getD "", redirectUri, resource, scope,
           accessTokenHash, accessExpiresAt, refreshTokenHash, refreshExpiresAt, expiresAt,
           createdAt, lastUsedAt }

/-- `TryInto<db::ApiToken>`. -/
def apiToken : Except String ApiToken := do
  let id ← id item
  let instanceId ← required (stringField item "instance_id") "ApiToken missing instance_id"
  let name ← required (stringField item "name") "ApiToken missing name"
  let tokenHash ← required (stringField item "token_hash") "ApiToken missing token_hash"
  let enabled ← required (boolField item "enabled") "ApiToken missing enabled"
  let createdAt ← required (i64Field item "created_at") "ApiToken missing created_at"
  let createdByUserId ←
    required (stringField item "created_by_user_id") "ApiToken missing created_by_user_id"
  let lastUsedAt ← i64Field item "last_used_at"
  return { id, instanceId, name, tokenHash, enabled, createdAt, createdByUserId, lastUsedAt }

/-- `TryInto<db::WebauthnCredential>`. -/
def webauthnCredential : Except String WebauthnCredential := do
  let id ← id item
  let userId ← required (stringField item "user_id") "WebauthnCredential missing user_id"
  let name ← required (stringField item "name") "WebauthnCredential missing name"
  let passkeyJson ← required (stringField item "passkey") "WebauthnCredential missing passkey_json"
  let createdAt ← required (i64Field item "created_at") "WebauthnCredential missing created_at"
  let lastUsedAt ← i64Field item "last_used_at"
  return { id, userId, name, passkeyJson, createdAt, lastUsedAt }

/-- `TryInto<db::Membership>`. -/
def membership : Except String Membership := do
  let role ← required (stringField item "role") "Membership missing role"
  let role ← match MembershipRole.parse role with
    | some role => .ok role
    | none => .error s!"Membership has unrecognized role: {role}"
  let defaults := NotificationSettings.default
  let id ← id item
  let userId ← required (stringField item "user_id") "Membership missing user_id"
  let instanceId ← required (stringField item "instance_id") "Membership missing instance_id"
  let newTicket ← boolField item "notify_new_ticket"
  let assignedToMe ← boolField item "notify_assigned_to_me"
  let assignedToMeUpdated ← boolField item "notify_assigned_to_me_updated"
  let unassignedUpdated ← boolField item "notify_unassigned_updated"
  let assignedToOthersUpdated ← boolField item "notify_assigned_to_others_updated"
  return { id, userId, instanceId, role, notificationSettings := {
    newTicket := newTicket.getD defaults.newTicket
    assignedToMe := assignedToMe.getD defaults.assignedToMe
    assignedToMeUpdated := assignedToMeUpdated.getD defaults.assignedToMeUpdated
    unassignedUpdated := unassignedUpdated.getD defaults.unassignedUpdated
    assignedToOthersUpdated := assignedToOthersUpdated.getD defaults.assignedToOthersUpdated } }

/-- `TryInto<db::EphemeralState>`. -/
def ephemeralState : Except String EphemeralRow := do
  let id ← id item
  let kind ← required (stringField item "kind") "EphemeralState missing kind"
  let payload ← required (stringField item "payload") "EphemeralState missing payload"
  let expiresAt ← required (i64Field item "expires_at") "EphemeralState missing expires_at"
  return { id, kind, payload, expiresAt }

end Hydration

/-! ### Tables -/

inductive RowTable where
  | loginCode
  | userToken
  | oauthGrant
  | apiToken
  | membership
  | webauthnCredential
  | ephemeralState
  deriving DecidableEq, Repr

namespace RowTable

/-- The key of the table. -/
def hash : RowTable → String
  | loginCode => "email"
  | _ => "id"

/-- The record type of the rows. -/
@[reducible] def Record : RowTable → Type
  | loginCode => Hydration.LoginCode
  | userToken => Hydration.UserToken
  | oauthGrant => OAuthGrant
  | apiToken => Hydration.ApiToken
  | membership => Hydration.Membership
  | webauthnCredential => Hydration.WebauthnCredential
  | ephemeralState => EphemeralRow

/-- The `TryInto` of the record type. -/
def tryInto : (table : RowTable) → Item → Except String table.Record
  | loginCode => Hydration.loginCode
  | userToken => Hydration.userToken
  | oauthGrant => Hydration.oauthGrant
  | apiToken => Hydration.apiToken
  | membership => Hydration.membership
  | webauthnCredential => Hydration.webauthnCredential
  | ephemeralState => Hydration.ephemeralState

/-- `hydrate_item`: a failure names the row, if it has an `id`. -/
def hydrateItem (table : RowTable) (item : Item) : Except DbError table.Record :=
  match table.tryInto item with
  | .ok record => .ok record
  | .error source => .error (.hydration (match Hydration.id item with
    | .ok id => s!"record {id}: {source}"
    | .error _ => source))

end RowTable

/-- The tables. -/
abbrev RowDb : Type := RowTable → Table String Item

/-! ### Requests -/

/-- `db::ApiTokenUpdateShape`. -/
inductive ApiTokenUpdateShape where
  | fields (name : String) (enabled : Bool)
  | touchLastUsed
  deriving DecidableEq, Repr

/-- `db::WebauthnCredentialUpdate`, with the passkey as it is stored. -/
inductive CredentialUpdate where
  | rename (name : String)
  | touchLastUsed (passkeyJson : String)
  deriving DecidableEq, Repr

/-- The methods. -/
inductive RowOp where
  | putLoginCode (email codeHash : String) (expiresAt now : ℕ)
  | getLoginCode (email : String)
  | deleteLoginCode (email : String)
  | incrementLoginCodeAttempts (email : String)
  | createUserToken (tokenHash userId : String) (expiresAt : ℕ)
  | getUserTokenByHash (tokenHash : String)
  | updateUserToken (id : String)
  | deleteUserToken (id : String)
  | createOAuthGrant (grant : OAuthGrant)
  | getOAuthGrant (id : String)
  | updateOAuthGrant (id : String) (change : OAuthGrantUpdateShape)
  | deleteOAuthGrant (id : String)
  | listOAuthGrantsByUser (userId : String)
  | createApiToken (id instanceId name tokenHash createdByUserId : String)
  | getApiToken (id : String)
  | listApiTokensByInstance (instanceId : String)
  | updateApiToken (id : String) (change : ApiTokenUpdateShape)
  | deleteApiToken (id : String)
  | createMembership (userId instanceId : String) (role : MembershipRole)
  | deleteMembership (id : String)
  | updateMembershipRole (id : String) (role : MembershipRole)
  | updateMembershipNotificationSettings (id : String) (patch : Hydration.NotificationSettingsPatch)
  | listMembershipsByUser (userId : String)
  | listMembershipsByInstance (instanceId : String)
  | createWebauthnCredential (id userId name passkeyJson : String)
  | getWebauthnCredential (id : String)
  | listWebauthnCredentialsByUser (userId : String)
  | updateWebauthnCredential (id : String) (change : CredentialUpdate)
  | deleteWebauthnCredential (id : String)
  | putEphemeralState (id kind payload : String) (expiresAt : ℕ)
  | getEphemeralState (id : String)
  | deleteEphemeralState (id : String)
  deriving DecidableEq

/-- What a method returns. -/
@[reducible] def RowOp.Answer : RowOp → Type
  | .getLoginCode _ => Option Hydration.LoginCode
  | .createUserToken .. => Hydration.UserToken
  | .getUserTokenByHash _ => Option Hydration.UserToken
  | .getOAuthGrant _ => Option OAuthGrant
  | .listOAuthGrantsByUser _ => List OAuthGrant
  | .createApiToken .. => Hydration.ApiToken
  | .getApiToken _ => Option Hydration.ApiToken
  | .listApiTokensByInstance _ => List Hydration.ApiToken
  | .createMembership .. => Hydration.Membership
  | .listMembershipsByUser _ | .listMembershipsByInstance _ => List Hydration.Membership
  | .createWebauthnCredential .. => Hydration.WebauthnCredential
  | .getWebauthnCredential _ => Option Hydration.WebauthnCredential
  | .listWebauthnCredentialsByUser _ => List Hydration.WebauthnCredential
  | .getEphemeralState _ => Option EphemeralRow
  | _ => Unit

@[reducible] def RowOp.Res (op : RowOp) : Type := Except DbError op.Answer

/-- What the tables do not decide themselves. -/
structure RowEnv where
  now : ℕ
  newId : String
  lag : ℕ
  indexLag : ℕ
  fault : Fault

/-- `ExpirePolicy::UserToken` at the time `now`. -/
def userTokenExpiresAt (now : ℕ) : ℕ := now + 60 * 60 * 8

/-- The attributes that `update_membership_notification_settings` sets. -/
def Hydration.NotificationSettingsPatch.sets (patch : NotificationSettingsPatch) : Item :=
  Item.optional "notify_new_ticket" .bool patch.newTicket ++
    Item.optional "notify_assigned_to_me" .bool patch.assignedToMe ++
    Item.optional "notify_assigned_to_me_updated" .bool patch.assignedToMeUpdated ++
    Item.optional "notify_unassigned_updated" .bool patch.unassignedUpdated ++
    Item.optional "notify_assigned_to_others_updated" .bool patch.assignedToOthersUpdated

/-- The write that a method sends; `none` for the reads and for an empty patch. -/
def RowOp.request (e : RowEnv) : RowOp → Option (RowTable × WriteRequest)
  | .putLoginCode email codeHash expiresAt now => some (.loginCode, .put email [] [
      ("email", .s email), ("code_hash", .s codeHash), ("expires_at", .n expiresAt),
      ("attempts", .n 0), ("last_sent_at", .n now)])
  | .deleteLoginCode email => some (.loginCode, .delete email)
  | .incrementLoginCodeAttempts email =>
      some (.loginCode, .update email [] [] (some ("attempts", 1)))
  | .createUserToken tokenHash userId expiresAt => some (.userToken, .put e.newId [] [
      ("id", .s e.newId), ("token_hash", .s tokenHash), ("user_id", .s userId),
      ("created_at", .n e.now), ("expires_at", .n expiresAt)])
  | .updateUserToken id => some (.userToken, .update id [.attributeExists "id"]
      [("last_used_at", .n e.now), ("expires_at", .n (userTokenExpiresAt e.now))] none)
  | .deleteUserToken id => some (.userToken, .delete id)
  | .createOAuthGrant grant => some (.oauthGrant, .put grant.id [.attributeNotExists "id"] (
      [("id", .s grant.id), ("user_id", .s grant.userId), ("client_id", .s grant.clientId),
        ("client_name", .s grant.clientName), ("redirect_uri", .s grant.redirectUri),
        ("resource", .s grant.resource), ("scope", .s grant.scope),
        ("access_token_hash", .s grant.accessTokenHash),
        ("access_expires_at", .n grant.accessExpiresAt),
        ("refresh_token_hash", .s grant.refreshTokenHash),
        ("refresh_expires_at", .n grant.refreshExpiresAt), ("expires_at", .n grant.expiresAt),
        ("created_at", .n grant.createdAt)] ++
      Item.optional "last_used_at" .n grant.lastUsedAt))
  | .updateOAuthGrant id (.rotate expectedRefreshTokenHash accessTokenHash accessExpiresAt
      refreshTokenHash refreshExpiresAt) => some (.oauthGrant, .update id
      [.attributeExists "id", .equals "refresh_token_hash" expectedRefreshTokenHash]
      [("access_token_hash", .s accessTokenHash), ("access_expires_at", .n accessExpiresAt),
        ("refresh_token_hash", .s refreshTokenHash), ("refresh_expires_at", .n refreshExpiresAt)]
      none)
  | .updateOAuthGrant id (.touchLastUsed now) => some (.oauthGrant, .update id
      [.attributeExists "id"] [("last_used_at", .n now)] none)
  | .deleteOAuthGrant id => some (.oauthGrant, .delete id)
  | .createApiToken id instanceId name tokenHash createdByUserId => some (.apiToken,
      .put id [.attributeNotExists "id"] [("id", .s id), ("instance_id", .s instanceId),
        ("name", .s name), ("token_hash", .s tokenHash), ("enabled", .bool true),
        ("created_at", .n e.now), ("created_by_user_id", .s createdByUserId)])
  | .updateApiToken id (.fields name enabled) => some (.apiToken, .update id
      [.attributeExists "id"] [("name", .s name), ("enabled", .bool enabled)] none)
  | .updateApiToken id .touchLastUsed => some (.apiToken, .update id
      [.attributeExists "id"] [("last_used_at", .n e.now)] none)
  | .deleteApiToken id => some (.apiToken, .delete id)
  | .createMembership userId instanceId role => some (.membership, .put e.newId [] [
      ("id", .s e.newId), ("user_id", .s userId), ("instance_id", .s instanceId),
      ("role", .s role.asStr)])
  | .deleteMembership id => some (.membership, .delete id)
  | .updateMembershipRole id role => some (.membership, .update id
      [.attributeExists "id"] [("role", .s role.asStr)] none)
  | .updateMembershipNotificationSettings id patch =>
      if patch.isEmpty then none
      else some (.membership, .update id [.attributeExists "id"] patch.sets none)
  | .createWebauthnCredential id userId name passkeyJson => some (.webauthnCredential, .put id [] [
      ("id", .s id), ("user_id", .s userId), ("name", .s name), ("passkey", .s passkeyJson),
      ("created_at", .n e.now)])
  | .updateWebauthnCredential id (.rename name) => some (.webauthnCredential, .update id
      [.attributeExists "id"] [("name", .s name)] none)
  | .updateWebauthnCredential id (.touchLastUsed passkeyJson) => some (.webauthnCredential,
      .update id [.attributeExists "id"]
        [("last_used_at", .n e.now), ("passkey", .s passkeyJson)] none)
  | .deleteWebauthnCredential id => some (.webauthnCredential, .delete id)
  | .putEphemeralState id kind payload expiresAt => some (.ephemeralState, .put id [] [
      ("id", .s id), ("kind", .s kind), ("payload", .s payload), ("expires_at", .n expiresAt)])
  | .deleteEphemeralState id => some (.ephemeralState, .delete id)
  | _ => none

/-- `map_update_err` of the updates; a failed condition of a create is any other error. -/
def RowOp.conditionFailure : RowOp → DbError
  | .updateUserToken id => .notFound s!"UserToken {id}"
  | .updateOAuthGrant id _ => .notFound s!"OAuthGrant {id}"
  | .updateApiToken id _ => .notFound s!"ApiToken {id}"
  | .updateMembershipRole id _ | .updateMembershipNotificationSettings id _ =>
      .notFound s!"Membership {id}"
  | .updateWebauthnCredential id _ => .notFound s!"WebauthnCredential {id}"
  | _ => .infrastructure "ConditionalCheckFailedException: The conditional request failed"

/-! ### The service -/

namespace RowDb

variable (d : RowDb) (table : RowTable)

/-- The tables after the write of a method. -/
def change (e : RowEnv) (op : RowOp) : Except DbError RowDb :=
  match op.request e with
  | none => .ok d
  | some (table, request) => match request.apply table.hash (d table) with
    | .ok t => .ok (Function.update d table t)
    | .error .conditionalCheckFailed => .error op.conditionFailure
    | .error .validation => .error (.infrastructure "ValidationException")

/-- A `GetItem`. -/
def getItem (key : String) : Except DbError (Option table.Record) :=
  match (d table).lookup key with
  | none => .ok none
  | some item => (table.hydrateItem item).map some

/-- The rows that an index lists under a value of its key. -/
def listed (name value : String) : List (Sigma fun _ : String => Item) :=
  (d table).entries.filter fun entry => match entry.2.attribute name with
    | some (.s text) => text == value
    | _ => false

/-- `query_all` on an index that has all attributes. -/
def queryAll (name value : String) : Except DbError (List table.Record) :=
  (d.listed table name value).mapM fun entry => table.hydrateItem entry.2

/-- `get_user_token_by_hash`: the ids in the index, then the row. -/
def getUserTokenByHash (later : RowDb) (tokenHash : String) :
    Except DbError (Option Hydration.UserToken) :=
  match (d.listed .userToken "token_hash" tokenHash).map Sigma.fst with
  | [] => .ok none
  | [id] => later.getItem .userToken id
  | _ => .error (.integrity "Multiple user tokens share the same hash")

end RowDb

/-- The committed versions of the tables. -/
abbrev RowStore : Type := Replica RowDb

namespace RowStore

variable (s : RowStore) (e : RowEnv) (readOnly : Bool)

/-- A read. -/
def read {α : Type} (answer : Except DbError α) : Except DbError α × RowStore :=
  (e.fault.read answer, s)

/-- A write. -/
def write {α : Type} (op : RowOp) (answer : α) : Except DbError α × RowStore :=
  e.fault.commit readOnly s (s.now.change e op) answer

/-- Serve one call. -/
def serve : (op : RowOp) → op.Res × RowStore
  | .getLoginCode email => s.read e ((s.seen e.lag).getItem .loginCode email)
  | .getUserTokenByHash tokenHash =>
      s.read e ((s.seen e.indexLag).getUserTokenByHash (s.seen e.lag) tokenHash)
  | .getOAuthGrant id => s.read e (s.now.getItem .oauthGrant id)
  | .listOAuthGrantsByUser userId =>
      s.read e ((s.seen e.indexLag).queryAll .oauthGrant "user_id" userId)
  | .getApiToken id => s.read e (s.now.getItem .apiToken id)
  | .listApiTokensByInstance instanceId =>
      s.read e ((s.seen e.indexLag).queryAll .apiToken "instance_id" instanceId)
  | .listMembershipsByUser userId =>
      s.read e ((s.seen e.indexLag).queryAll .membership "user_id" userId)
  | .listMembershipsByInstance instanceId =>
      s.read e ((s.seen e.indexLag).queryAll .membership "instance_id" instanceId)
  | .getWebauthnCredential id => s.read e ((s.seen e.lag).getItem .webauthnCredential id)
  | .listWebauthnCredentialsByUser userId =>
      s.read e ((s.seen e.indexLag).queryAll .webauthnCredential "user_id" userId)
  | .getEphemeralState id => s.read e ((s.seen e.lag).getItem .ephemeralState id)
  | .createUserToken tokenHash userId expiresAt =>
      s.write e readOnly (.createUserToken tokenHash userId expiresAt)
        ⟨e.newId, tokenHash, userId, e.now, expiresAt, none⟩
  | .createApiToken id instanceId name tokenHash createdByUserId =>
      s.write e readOnly (.createApiToken id instanceId name tokenHash createdByUserId)
        ⟨id, instanceId, name, tokenHash, true, e.now, createdByUserId, none⟩
  | .createMembership userId instanceId role =>
      s.write e readOnly (.createMembership userId instanceId role)
        ⟨e.newId, userId, instanceId, role, .default⟩
  | .createWebauthnCredential id userId name passkeyJson =>
      s.write e readOnly (.createWebauthnCredential id userId name passkeyJson)
        ⟨id, userId, name, passkeyJson, e.now, none⟩
  | .putLoginCode email codeHash expiresAt now =>
      s.write e readOnly (.putLoginCode email codeHash expiresAt now) ()
  | .deleteLoginCode email => s.write e readOnly (.deleteLoginCode email) ()
  | .incrementLoginCodeAttempts email => s.write e readOnly (.incrementLoginCodeAttempts email) ()
  | .updateUserToken id => s.write e readOnly (.updateUserToken id) ()
  | .deleteUserToken id => s.write e readOnly (.deleteUserToken id) ()
  | .createOAuthGrant grant => s.write e readOnly (.createOAuthGrant grant) ()
  | .updateOAuthGrant id change => s.write e readOnly (.updateOAuthGrant id change) ()
  | .deleteOAuthGrant id => s.write e readOnly (.deleteOAuthGrant id) ()
  | .updateApiToken id change => s.write e readOnly (.updateApiToken id change) ()
  | .deleteApiToken id => s.write e readOnly (.deleteApiToken id) ()
  | .deleteMembership id => s.write e readOnly (.deleteMembership id) ()
  | .updateMembershipRole id role => s.write e readOnly (.updateMembershipRole id role) ()
  | .updateMembershipNotificationSettings id patch =>
      s.write e readOnly (.updateMembershipNotificationSettings id patch) ()
  | .updateWebauthnCredential id change =>
      s.write e readOnly (.updateWebauthnCredential id change) ()
  | .deleteWebauthnCredential id => s.write e readOnly (.deleteWebauthnCredential id) ()
  | .putEphemeralState id kind payload expiresAt =>
      s.write e readOnly (.putEphemeralState id kind payload expiresAt) ()
  | .deleteEphemeralState id => s.write e readOnly (.deleteEphemeralState id) ()

end RowStore

/-- The tables as a service; the time fits in an `i64`. -/
@[reducible] def rowService (readOnly : Bool) : Service RowOp RowOp.Res where
  State := RowStore
  Env := RowEnv
  Allowed _ e := userTokenExpiresAt e.now < 2 ^ 63
  serve s e op := s.serve e readOnly op

instance (readOnly : Bool) (s : (rowService readOnly).State) (e : (rowService readOnly).Env) :
    Decidable ((rowService readOnly).Allowed s e) :=
  inferInstanceAs (Decidable (userTokenExpiresAt (RowEnv.now e) < 2 ^ 63))

end Microticket

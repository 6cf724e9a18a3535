import Microticket.Rows
import Microticket.Service
import Microticket.Store

/-! # The tables of users, memberships, instances, tokens and projects

The tables `user`, `membership`, `instance`, `api_token` and `project` as the administrative mutations
use them.  An `AdminOp` is one request.  Only `get_api_token` is `ConsistentRead`; every other read
returns what was committed `Env.lag` commits ago.  `AdminDb.change` is what a write does, or why its
condition fails: the put of an instance, a token or a project needs a new id, an update an existing
row, and the puts of users and memberships and all deletions are unconditional.

An identifier that `new_id` draws is not the id of any row that was ever stored
(`adminService.Allowed`). -/

namespace Microticket

open Interleaving Tables

/-! ### Rows -/

/-- What the mutations use of `db::User`. -/
structure UserRow where
  id : String
  email : String
  name : String
  enabled : Bool
  createdAt : ℕ
  deriving DecidableEq, Repr

/-- `db::MembershipRole`. -/
inductive MembershipRole where
  | owner
  | agent
  deriving DecidableEq, Repr

/-- What the mutations use of `db::Membership`. -/
structure MembershipRow where
  id : String
  userId : String
  instanceId : String
  role : MembershipRole
  deriving DecidableEq, Repr

/-- What the mutations use of `db::ApiToken`. -/
structure ApiToken where
  id : String
  instanceId : String
  name : String
  tokenHash : String
  enabled : Bool
  createdAt : ℕ
  createdByUserId : String
  deriving DecidableEq, Repr

/-- `db::Project`. -/
structure ProjectRow extends Project where
  name : String
  createdAt : ℕ
  updatedAt : ℕ
  deriving DecidableEq, Repr

/-- The editable fields of a project. -/
structure ProjectFields where
  name : String
  clientName : String
  clientAbn : Option String
  clientAddress : Option String
  reference : Option String
  deriving DecidableEq, Repr

/-- `db::InstanceUpdateShape`. -/
inductive InstanceUpdateShape where
  | fields (name fromName signature : String) (publicSubmissionEnabled : Bool)
  | setDeleted (deleted : Bool)
  | setInvoicingSettings
      (businessName businessAbn businessAddress businessPhone businessEmail paymentDetails :
        Option String) (gstRegistered : Bool) (currency : Option String)
  deriving DecidableEq, Repr

/-- The update expressions of `update_instance`. -/
def InstanceUpdateShape.apply (inst : Instance) : InstanceUpdateShape → Instance
  | .fields name fromName signature publicSubmissionEnabled =>
      { inst with name, fromName, signature, publicSubmissionEnabled }
  | .setDeleted deleted => { inst with deleted }
  | .setInvoicingSettings businessName businessAbn businessAddress businessPhone businessEmail
      paymentDetails gstRegistered currency =>
      { inst with businessName, businessAbn, businessAddress, businessPhone, businessEmail,
                  paymentDetails, gstRegistered, currency }

/-- `db::UserUpdateShape`, the two shapes that the mutations write. -/
inductive UserUpdateShape where
  | fields (name : String) (enabled : Bool)
  | setEmail (email : String)
  deriving DecidableEq, Repr

/-- The update expressions of `update_user`. -/
def UserUpdateShape.apply (row : UserRow) : UserUpdateShape → UserRow
  | .fields name enabled => { row with name, enabled }
  | .setEmail email => { row with email }

/-- The tables. -/
structure AdminDb where
  users : Table String UserRow
  memberships : Table String MembershipRow
  instances : Table String Instance
  apiTokens : Table String ApiToken
  projects : Table String ProjectRow

/-! ### Requests -/

/-- The requests. -/
inductive AdminOp where
  | newId
  | generateNonce (bytes : ℕ)
  | clock
  | getUser (id : String)
  | getUserIdByEmail (email : String)
  | createUser (email name : String)
  | updateUser (id : String) (change : UserUpdateShape)
  | listMembershipsByUser (userId : String)
  | createMembership (userId instanceId : String) (role : MembershipRole)
  | deleteMembership (id : String)
  | updateMembershipRole (id : String) (role : MembershipRole)
  | getInstance (id : String)
  | getInstanceIdBySlug (slug : String)
  | createInstance (name slug fromName signature : String) (publicSubmissionEnabled : Bool)
      (kind : InstanceKind)
  | updateInstance (id : String) (change : InstanceUpdateShape)
  | createApiToken (id instanceId name tokenHash createdByUserId : String)
  | getApiToken (id : String)
  | updateApiToken (id name : String) (enabled : Bool)
  | deleteApiToken (id : String)
  | createProject (instanceId : String) (fields : ProjectFields)
  | getProject (id : String)
  | updateProject (id : String) (fields : ProjectFields) (archived : Bool)
  deriving DecidableEq

/-- The answer to a request. -/
@[reducible] def AdminOp.Res : AdminOp → Type
  | .newId | .generateNonce _ => String
  | .clock => ℕ
  | .getUser _ => Except DbError (Option UserRow)
  | .getUserIdByEmail _ | .getInstanceIdBySlug _ => Except DbError (Option String)
  | .createUser .. => Except DbError UserRow
  | .listMembershipsByUser _ => Except DbError (List MembershipRow)
  | .createMembership .. => Except DbError MembershipRow
  | .getInstance _ => Except DbError (Option Instance)
  | .createInstance .. => Except DbError Instance
  | .createApiToken .. => Except DbError ApiToken
  | .getApiToken _ => Except DbError (Option ApiToken)
  | .createProject .. => Except DbError ProjectRow
  | .getProject _ => Except DbError (Option ProjectRow)
  | .updateUser .. | .deleteMembership _ | .updateMembershipRole .. | .updateInstance ..
  | .updateApiToken .. | .deleteApiToken _ | .updateProject .. => Except DbError Unit

/-- What the tables do not decide themselves. -/
structure AdminEnv where
  now : ℕ
  newId : String
  nonce : String
  lag : ℕ
  fault : Fault

/-- The state: the committed versions of the tables. -/
structure AdminStore where
  db : Replica AdminDb

/-! ### New rows -/

section rows
variable (e : AdminEnv)

/-- The row of `create_user`. -/
def newUser (email name : String) : UserRow :=
  { id := e.newId, email, name, enabled := true, createdAt := e.now }

/-- The row of `create_membership`. -/
def newMembership (userId instanceId : String) (role : MembershipRole) : MembershipRow :=
  { id := e.newId, userId, instanceId, role }

/-- The row of `create_instance`. -/
def newInstance (name slug fromName signature : String) (publicSubmissionEnabled : Bool)
    (kind : InstanceKind) : Instance :=
  { id := e.newId, name, slug, kind, publicSubmissionEnabled, fromName, signature,
    deleted := false, businessName := none, businessAbn := none, businessAddress := none,
    businessPhone := none, businessEmail := none, paymentDetails := none, gstRegistered := false,
    currency := none }

/-- The row of `create_api_token`. -/
def newApiToken (id instanceId name tokenHash createdByUserId : String) : ApiToken :=
  { id, instanceId, name, tokenHash, enabled := true, createdAt := e.now, createdByUserId }

/-- The row of `create_project`. -/
def newProject (instanceId : String) (fields : ProjectFields) : ProjectRow :=
  { id := e.newId, instanceId, clientName := fields.clientName, clientAbn := fields.clientAbn,
    clientAddress := fields.clientAddress, reference := fields.reference, archived := false,
    name := fields.name, createdAt := e.now, updatedAt := e.now }

/-- The update expression of `update_project`. -/
def ProjectRow.update (row : ProjectRow) (fields : ProjectFields) (archived : Bool) : ProjectRow :=
  { row with clientName := fields.clientName, clientAbn := fields.clientAbn,
             clientAddress := fields.clientAddress, reference := fields.reference, archived,
             name := fields.name, updatedAt := e.now }

end rows

namespace AdminDb

variable (d : AdminDb)

/-- The ids of the rows that an index finds. -/
def idsWhere {α : Type} (table : Table String α) (test : α → Bool) : List String :=
  (table.entries.filter fun entry => test entry.2).map Sigma.fst

/-- `at_most_one`. -/
def atMostOneId (describe : String) : List String → Except DbError (Option String)
  | [] => .ok none
  | [id] => .ok (some id)
  | _ => .error (.integrity describe)

/-- `get_user_id_by_email`. -/
def userIdByEmail (email : String) : Except DbError (Option String) :=
  atMostOneId s!"Multiple users share email {email}" (idsWhere d.users fun row => row.email == email)

/-- `get_instance_id_by_slug`. -/
def instanceIdBySlug (slug : String) : Except DbError (Option String) :=
  atMostOneId s!"Multiple instances share slug {slug}"
    (idsWhere d.instances fun row => row.slug == slug)

/-- The rows of the index `user_id-index` of `membership`. -/
def membershipsOf (userId : String) : List MembershipRow :=
  (d.memberships.entries.map Sigma.snd).filter fun row => row.userId == userId

/-- `attribute_not_exists(id)`. -/
def putNew {α : Type} (table : Table String α) (id : String) (row : α) :
    Except DbError (Table String α) :=
  if (table.lookup id).isSome then .error (.infrastructure "ConditionalCheckFailedException")
  else .ok (table.insert id row)

/-- `attribute_exists(id)`. -/
def updateRow {α : Type} (what : String) (table : Table String α) (id : String) (f : α → α) :
    Except DbError (Table String α) :=
  match table.lookup id with
  | none => .error (.notFound s!"{what} {id}")
  | some row => .ok (table.insert id (f row))

/-- The tables after a write, or why its condition fails; the other requests write nothing. -/
def change (e : AdminEnv) : AdminOp → Except DbError AdminDb
  | .createUser email name => .ok { d with users := d.users.insert e.newId (newUser e email name) }
  | .updateUser id change =>
      (updateRow "User" d.users id change.apply).map fun users => { d with users }
  | .createMembership userId instanceId role => .ok { d with
      memberships := d.memberships.insert e.newId (newMembership e userId instanceId role) }
  | .deleteMembership id => .ok { d with memberships := d.memberships.erase id }
  | .updateMembershipRole id role =>
      (updateRow "Membership" d.memberships id fun row => { row with role }).map
        fun memberships => { d with memberships }
  | .createInstance name slug fromName signature publicSubmissionEnabled kind =>
      (putNew d.instances e.newId (newInstance e name slug fromName signature
        publicSubmissionEnabled kind)).map fun instances => { d with instances }
  | .updateInstance id change =>
      (updateRow "Instance" d.instances id change.apply).map fun instances => { d with instances }
  | .createApiToken id instanceId name tokenHash createdByUserId =>
      (putNew d.apiTokens id (newApiToken e id instanceId name tokenHash createdByUserId)).map
        fun apiTokens => { d with apiTokens }
  | .updateApiToken id name enabled =>
      (updateRow "ApiToken" d.apiTokens id fun row => { row with name, enabled }).map
        fun apiTokens => { d with apiTokens }
  | .deleteApiToken id => .ok { d with apiTokens := d.apiTokens.erase id }
  | .createProject instanceId fields =>
      (putNew d.projects e.newId (newProject e instanceId fields)).map
        fun projects => { d with projects }
  | .updateProject id fields archived =>
      (updateRow "Project" d.projects id fun row => row.update e fields archived).map
        fun projects => { d with projects }
  | _ => .ok d

end AdminDb

namespace AdminStore

variable (s : AdminStore) (e : AdminEnv)

/-- A read. -/
def read {α : Type} (answer : Except DbError α) : Except DbError α × AdminStore :=
  (e.fault.read answer, s)

/-- A write that answers `committed`. -/
def write {α : Type} (readOnly : Bool) (op : AdminOp) (committed : α) :
    Except DbError α × AdminStore :=
  let (answer, db) := e.fault.commit readOnly s.db (s.db.now.change e op) committed
  (answer, ⟨db⟩)

/-- Serve one request. -/
def serve (readOnly : Bool) : (op : AdminOp) → op.Res × AdminStore
  | .newId => (e.newId, s)
  | .generateNonce _ => (e.nonce, s)
  | .clock => (e.now, s)
  | .getUser id => s.read e (.ok ((s.db.seen e.lag).users.lookup id))
  | .getUserIdByEmail email => s.read e ((s.db.seen e.lag).userIdByEmail email)
  | .listMembershipsByUser userId => s.read e (.ok ((s.db.seen e.lag).membershipsOf userId))
  | .getInstance id => s.read e (.ok ((s.db.seen e.lag).instances.lookup id))
  | .getInstanceIdBySlug slug => s.read e ((s.db.seen e.lag).instanceIdBySlug slug)
  | .getApiToken id => s.read e (.ok (s.db.now.apiTokens.lookup id))
  | .getProject id => s.read e (.ok ((s.db.seen e.lag).projects.lookup id))
  | .createUser email name => s.write e readOnly (.createUser email name) (newUser e email name)
  | .updateUser id change => s.write e readOnly (.updateUser id change) ()
  | .createMembership userId instanceId role =>
      s.write e readOnly (.createMembership userId instanceId role)
        (newMembership e userId instanceId role)
  | .deleteMembership id => s.write e readOnly (.deleteMembership id) ()
  | .updateMembershipRole id role => s.write e readOnly (.updateMembershipRole id role) ()
  | .createInstance name slug fromName signature publicSubmissionEnabled kind =>
      s.write e readOnly
        (.createInstance name slug fromName signature publicSubmissionEnabled kind)
        (newInstance e name slug fromName signature publicSubmissionEnabled kind)
  | .updateInstance id change => s.write e readOnly (.updateInstance id change) ()
  | .createApiToken id instanceId name tokenHash createdByUserId =>
      s.write e readOnly (.createApiToken id instanceId name tokenHash createdByUserId)
        (newApiToken e id instanceId name tokenHash createdByUserId)
  | .updateApiToken id name enabled => s.write e readOnly (.updateApiToken id name enabled) ()
  | .deleteApiToken id => s.write e readOnly (.deleteApiToken id) ()
  | .createProject instanceId fields =>
      s.write e readOnly (.createProject instanceId fields) (newProject e instanceId fields)
  | .updateProject id fields archived => s.write e readOnly (.updateProject id fields archived) ()

end AdminStore

/-- The id is not that of a row. -/
def AdminDb.Unused (d : AdminDb) (id : String) : Prop :=
  d.users.lookup id = none ∧ d.memberships.lookup id = none ∧ d.instances.lookup id = none ∧
    d.apiTokens.lookup id = none ∧ d.projects.lookup id = none

instance (d : AdminDb) (id : String) : Decidable (d.Unused id) :=
  inferInstanceAs (Decidable (_ ∧ _))

/-- The tables as a service. -/
@[reducible] def adminService (readOnly : Bool) : Service AdminOp AdminOp.Res where
  State := AdminStore
  Env := AdminEnv
  Allowed s e := ∀ d ∈ s.db.now :: s.db.past, d.Unused e.newId
  serve s e op := s.serve e readOnly op

instance (readOnly : Bool) (s : (adminService readOnly).State) (e : (adminService readOnly).Env) :
    Decidable ((adminService readOnly).Allowed s e) :=
  inferInstanceAs (Decidable (∀ d ∈ (AdminStore.db s).now :: (AdminStore.db s).past,
    d.Unused (AdminEnv.newId e)))

/-- A served request. -/
abbrev AdminEvent : Type := Event AdminOp AdminOp.Res

/-! ### What a request does -/

/-- A value that is not the error that an `Except` was mapped from. -/
theorem except_map_ok {ε α β : Type} {f : α → β} {r : Except ε α} {b : β} (h : r.map f = .ok b) :
    ∃ a, r = .ok a ∧ b = f a := by
  cases r with
  | ok a => exact ⟨a, rfl, (Except.ok.inj h).symm⟩
  | error e => cases h

theorem updateRow_ok {α : Type} {what id : String} {t t' : Table String α} {f : α → α}
    (h : AdminDb.updateRow what t id f = .ok t') :
    ∃ row, t.lookup id = some row ∧ t' = t.insert id (f row) := by
  unfold AdminDb.updateRow at h
  cases hrow : t.lookup id with
  | none =>
      rw [hrow] at h
      cases h
  | some row =>
      rw [hrow] at h
      exact ⟨row, rfl, (Except.ok.inj h).symm⟩

theorem putNew_ok {α : Type} {id : String} {t t' : Table String α} {row : α}
    (h : AdminDb.putNew t id row = .ok t') : t.lookup id = none ∧ t' = t.insert id row := by
  unfold AdminDb.putNew at h
  split at h
  · cases h
  · rename_i hnew
    exact ⟨Option.not_isSome_iff_eq_none.mp hnew, (Except.ok.inj h).symm⟩

section served
variable {readOnly : Bool} {s : AdminStore} {e : AdminEnv} {op : AdminOp}

theorem AdminStore.write_state {α : Type} {committed : α} :
    (s.write e readOnly op committed).2 = s ∨
      ∃ d, s.db.now.change e op = .ok d ∧ (s.write e readOnly op committed).2 = ⟨s.db.write d⟩ :=
  Fault.commit_state.imp (congrArg AdminStore.mk) fun ⟨d, hd, heq⟩ =>
    ⟨d, hd, congrArg AdminStore.mk heq⟩

theorem AdminStore.write_ok {α : Type} {committed a : α}
    (h : (s.write e readOnly op committed).1 = .ok a) :
    ∃ d, s.db.now.change e op = .ok d ∧ (s.write e readOnly op committed).2 = ⟨s.db.write d⟩ := by
  obtain ⟨d, hd, heq⟩ := Fault.commit_ok h
  exact ⟨d, hd, congrArg AdminStore.mk heq⟩

/-- The requests that only read or draw. -/
def AdminOp.reads : AdminOp → Bool
  | .newId | .generateNonce _ | .clock | .getUser _ | .getUserIdByEmail _
  | .listMembershipsByUser _ | .getInstance _ | .getInstanceIdBySlug _ | .getApiToken _
  | .getProject _ => true
  | _ => false

theorem AdminStore.serve_reads (h : op.reads) : (s.serve e readOnly op).2 = s := by
  cases op with
  | newId | generateNonce _ | clock | getUser _ | getUserIdByEmail _ | listMembershipsByUser _
  | getInstance _ | getInstanceIdBySlug _ | getApiToken _ | getProject _ => rfl
  | _ => cases h

/-- A request leaves the tables as they are, or it is a write that is committed. -/
theorem AdminStore.serve_state (s : AdminStore) (e : AdminEnv) (readOnly : Bool) (op : AdminOp) :
    (s.serve e readOnly op).2 = s ∨
      op.reads = false ∧ ∃ d, s.db.now.change e op = .ok d ∧
        (s.serve e readOnly op).2 = ⟨s.db.write d⟩ := by
  cases hreads : op.reads with
  | true => exact .inl (serve_reads hreads)
  | false =>
      refine Or.imp_right (fun h => ⟨rfl, h⟩) ?_
      cases op with
      | newId | generateNonce _ | clock | getUser _ | getUserIdByEmail _ | listMembershipsByUser _
      | getInstance _ | getInstanceIdBySlug _ | getApiToken _ | getProject _ => cases hreads
      | _ => exact write_state

/-- The committed tables, and what a request makes of them. -/
def adminDb (t : Trace (adminService readOnly)) : AdminDb := t.state.db.now

end served

end Microticket

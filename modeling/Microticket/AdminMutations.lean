import Microticket.AdminStore
import Microticket.CodeMutations

/-! # The administrative mutations

The mutations of `graphql/mutations.rs` for users, memberships, instances, API tokens and projects, as
programs over the requests of `AdminStore`.  `auth` is the principal of the request, and `CodeLibs`
what they use of other crates (Unicode lower case, the `{:?}` format and the hex SHA-256).  A call
returns the database row that its GraphQL object wraps. -/

namespace Microticket

open Interleaving RustText

/-- A program over the administrative tables. -/
abbrev AdminProg (α : Type) : Type := Prog AdminOp AdminOp.Res Error α

/-- Send a request. -/
def admin (op : AdminOp) : AdminProg op.Res := .call op .done

/-- A `db::Error` of a request propagates. -/
def orAdminError {α : Type} (p : AdminProg (Except DbError α)) : AdminProg α :=
  p >>= fun r => .ofExcept (r.mapError .db)

/-- A validation result; its message becomes the error. -/
def checked {α : Type} (r : Except String α) : AdminProg α := .ofExcept (r.mapError .other)

/-! ### Authorization -/

/-- `AuthRequirement::Superuser`. -/
def guardSuperuser : Option AuthInfo → AdminProg Unit
  | some (.user _ _ isSuperuser) =>
      .ensure (isSuperuser = true) (.api .unauthenticated "Must be a superuser")
  | _ => .fail (.api .unauthenticated "Must be a superuser")

/-- `AuthRequirement::InstanceOwnerOrSuperuser`. -/
def guardOwnerOrSuperuser (instanceId : String) : Option AuthInfo → AdminProg Unit
  | some (.user _ memberships isSuperuser) =>
      .ensure (isSuperuser || isOwner memberships instanceId)
        (.api .unauthenticated "Must be an owner of this instance, or a superuser")
  | _ => .fail (.api .unauthenticated "Must be an owner of this instance, or a superuser")

/-- `AuthRequirement::Member`. -/
def guardMember (instanceId : String) : Option AuthInfo → AdminProg Unit
  | some (.user _ memberships _) =>
      .ensure (isMember memberships instanceId)
        (.api .unauthenticated "Must be a member of this instance")
  | _ => .fail (.api .unauthenticated "Must be a member of this instance")

/-- `require_user_id`. -/
def adminUserId : Option AuthInfo → AdminProg String
  | some (.user id _ _) => .done id
  | _ => .fail (.forbidden "Must be authenticated as a user")

/-- `get_instances(&[id])`, or `NOT_FOUND`. -/
def existingInstance (id : String) : AdminProg Instance := do
  let found ← orAdminError (admin (.getInstance id))
  .ofOption found (.notFound "Instance" id)

/-- `get_users(&[id])`, or `NOT_FOUND`. -/
def existingUser (id : String) : AdminProg UserRow := do
  let found ← orAdminError (admin (.getUser id))
  .ofOption found (.notFound "User" id)

/-- `require_api_token_manager`. -/
def requireApiTokenManager (auth : Option AuthInfo) (id : String) : AdminProg ApiToken :=
  match auth with
  | some (.user _ memberships isSuperuser) => do
      let found ← orAdminError (admin (.getApiToken id))
      let token ← .ofOption found (.notFound "ApiToken" id)
      .ensure (isSuperuser || isOwner memberships token.instanceId) (.notFound "ApiToken" id)
      return token
  | _ => .fail (.forbidden "Must be authenticated as a user")

/-- `require_project_member`. -/
def projectOfMember (auth : Option AuthInfo) (id : String) : AdminProg ProjectRow :=
  match auth with
  | some (.user _ memberships _) => do
      let found ← orAdminError (admin (.getProject id))
      let project ← .ofOption found (.notFound "Project" id)
      .ensure (isMember memberships project.instanceId) (.notFound "Project" id)
      return project
  | _ => .fail (.forbidden "Must be authenticated as a user")

/-! ### Checks -/

def maxApiTokenNameLen : ℕ := 100
def maxInvoicingFieldLen : ℕ := 200
def maxInvoicingLongFieldLen : ℕ := 2000
def maxSlugLen : ℕ := 63

/-- A trimmed text that is not blank. -/
def requireName (name : String) : Except String String :=
  if (trim name).isEmpty then .error "name cannot be empty" else .ok (trim name)

/-- A trimmed text that is neither blank nor too long. -/
def requireShort (field : String) (maxLen : ℕ) (raw : String) : Except String String :=
  if (trim raw).isEmpty then .error s!"{field} cannot be empty"
  else if maxLen < (trim raw).length then
    .error s!"{field} cannot be longer than {maxLen} characters"
  else .ok (trim raw)

/-- The name of an API token. -/
def requireApiTokenName : String → Except String String := requireShort "name" maxApiTokenNameLen

/-- `require_project_name`. -/
def requireProjectName : String → Except String String := requireShort "name" maxInvoicingFieldLen

/-- `require_project_client_name`. -/
def requireProjectClientName : String → Except String String :=
  requireShort "clientName" maxInvoicingFieldLen

/-- `normalize_project_field`. -/
def normalizeProjectField (field : String) (maxLen : ℕ) : Option String →
    Except String (Option String)
  | none => .ok none
  | some raw =>
      if (trim raw).isEmpty then .ok none
      else if maxLen < (trim raw).length then
        .error s!"{field} cannot be longer than {maxLen} characters"
      else .ok (some (trim raw))

/-- `normalize_invoicing_field`. -/
def normalizeInvoicingField (raw field : String) : Except String (Option String) :=
  normalizeProjectField field maxInvoicingFieldLen (some raw)

/-- `normalize_invoicing_long_field`. -/
def normalizeInvoicingLongField (raw field : String) : Except String (Option String) :=
  normalizeProjectField field maxInvoicingLongFieldLen (some raw)

/-- `validate_slug`. -/
def validateSlug (slug : String) : Except String Unit :=
  if slug.isEmpty then .error "slug cannot be empty"
  else if maxSlugLen < slug.utf8ByteSize then
    .error s!"slug cannot be longer than {maxSlugLen} characters"
  else if !slug.toList.all fun c => c.isLower || isAsciiDigit c || c == '-' then
    .error "slug may only contain lowercase letters, digits, and hyphens"
  else if slug.toList.head? = some '-' ∨ slug.toList.getLast? = some '-' then
    .error "slug cannot start or end with a hyphen"
  else .ok ()

variable (libs : CodeLibs)

/-- `validate_currency_code` of a trimmed code; a blank one is absent. -/
def normalizeCurrency (raw : String) : Except String (Option String) :=
  let code := trim raw
  if code.isEmpty then .ok none
  else if code.utf8ByteSize ≠ 3 ∨ !code.toList.all Char.isUpper then
    let shown := libs.debug code
    .error s!"{shown} is not a valid currency code (must be 3 uppercase letters, e.g. AUD)"
  else .ok (some code)

/-- `require_instance_kind`. -/
def requireInstanceKind (inst : Instance) (expected : InstanceKind) : Except String Unit :=
  if inst.kind = expected then .ok ()
  else
    let actual := libs.debug inst.kind.asStr
    let wanted := libs.debug expected.asStr
    .error s!"instance {inst.id} has kind {actual}, expected kind {wanted}"

/-! ### Instances -/

/-- `create_instance`. -/
def createInstance (auth : Option AuthInfo) (name slug : String)
    (fromName signature : Option String) (publicSubmissionEnabled : Bool) (kind : InstanceKind) :
    AdminProg Instance := do
  guardSuperuser auth
  let name ← checked (requireName name)
  let slug := trim slug
  .ofExcept ((validateSlug slug).mapError .forbidden)
  let taken ← orAdminError (admin (.getInstanceIdBySlug slug))
  let shown := libs.debug slug
  .ensure (taken = none) (.conflict s!"slug {shown} is already taken")
  let fromName := ((fromName.map trim).filter fun s => !s.isEmpty).getD name
  .ensure (publicSubmissionEnabled = true → kind = .support)
    (.other "publicSubmissionEnabled only applies to a support instance")
  orAdminError (admin (.createInstance name slug fromName (signature.getD "")
    publicSubmissionEnabled kind))

/-- `update_instance`. -/
def updateInstance (auth : Option AuthInfo) (id name fromName signature : String)
    (publicSubmissionEnabled : Bool) : AdminProg Instance := do
  guardSuperuser auth
  let name ← checked (requireName name)
  let current ← existingInstance id
  .ensure (publicSubmissionEnabled = true → current.kind = .support)
    (.other "publicSubmissionEnabled only applies to a support instance")
  orAdminError (admin (.updateInstance id (.fields name fromName signature
    publicSubmissionEnabled)))
  return { current with name, fromName, signature, publicSubmissionEnabled }

/-- `set_instance_deleted`. -/
def setInstanceDeleted (auth : Option AuthInfo) (id : String) (deleted : Bool) :
    AdminProg Instance := do
  guardSuperuser auth
  let current ← existingInstance id
  if current.deleted = deleted then return current
  else do
    orAdminError (admin (.updateInstance id (.setDeleted deleted)))
    return { current with deleted }

/-- `InvoicingSettingsInput`. -/
structure InvoicingSettingsInput where
  businessName : String
  businessAbn : String
  businessAddress : String
  businessPhone : String
  businessEmail : String
  paymentDetails : String
  gstRegistered : Bool
  currency : String

/-- The update that the settings are written with. -/
def InvoicingSettingsInput.shape (input : InvoicingSettingsInput) :
    Except String InstanceUpdateShape := do
  let businessName ← normalizeInvoicingField input.businessName "businessName"
  let businessAbn ← normalizeInvoicingField input.businessAbn "businessAbn"
  let businessAddress ← normalizeInvoicingLongField input.businessAddress "businessAddress"
  let businessPhone ← normalizeInvoicingField input.businessPhone "businessPhone"
  let businessEmail ← normalizeInvoicingField input.businessEmail "businessEmail"
  let paymentDetails ← normalizeInvoicingLongField input.paymentDetails "paymentDetails"
  let currency ← normalizeCurrency libs input.currency
  return .setInvoicingSettings businessName businessAbn businessAddress businessPhone businessEmail
    paymentDetails input.gstRegistered currency

/-- `update_invoicing_settings`. -/
def updateInvoicingSettings (auth : Option AuthInfo) (instanceId : String)
    (input : InvoicingSettingsInput) : AdminProg Instance := do
  guardOwnerOrSuperuser instanceId auth
  let inst ← existingInstance instanceId
  checked (requireInstanceKind libs inst .invoicing)
  let shape ← checked (input.shape libs)
  orAdminError (admin (.updateInstance instanceId shape))
  return shape.apply inst

/-! ### Users -/

/-- `create_user`. -/
def createUser (auth : Option AuthInfo) (email name : String) : AdminProg UserRow := do
  guardSuperuser auth
  let name ← checked (requireName name)
  let email ← checked (normalizeUserEmail libs email)
  let taken ← orAdminError (admin (.getUserIdByEmail email))
  .ensure (taken = none) (.conflict s!"a user with email {email} already exists")
  orAdminError (admin (.createUser email name))

/-- The taken-email check of `update_user` and the write of the email. -/
def changeEmail (id email : String) (current : UserRow) : AdminProg Unit :=
  if email = current.email then .done ()
  else do
    let taken ← orAdminError (admin (.getUserIdByEmail email))
    .ensure (taken = none) (.conflict s!"a user with email {email} already exists")
    orAdminError (admin (.updateUser id (.setEmail email)))

/-- `update_user`. -/
def updateUser (auth : Option AuthInfo) (id name email : String) (enabled : Bool) :
    AdminProg UserRow := do
  guardSuperuser auth
  let callerId ← adminUserId auth
  let name ← checked (requireName name)
  let email ← checked (normalizeUserEmail libs email)
  let current ← existingUser id
  .ensure (enabled = true ∨ id ≠ callerId) (.forbidden "Cannot disable your own account")
  changeEmail id email current
  orAdminError (admin (.updateUser id (.fields name enabled)))
  return { current with name, email, enabled }

/-- `delete_user`. -/
def deleteUser (auth : Option AuthInfo) (id : String) : AdminProg UserRow := do
  guardSuperuser auth
  let callerId ← adminUserId auth
  .ensure (id ≠ callerId) (.forbidden "Cannot delete your own account")
  let current ← existingUser id
  orAdminError (admin (.updateUser id (.fields current.name false)))
  let memberships ← orAdminError (admin (.listMembershipsByUser id))
  let _ ← Prog.forEach (fun m => orAdminError (admin (.deleteMembership m.id))) memberships
  return { current with enabled := false }

/-! ### Members -/

/-- `add_member`. -/
def addMember (auth : Option AuthInfo) (instanceId userId : String) (role : MembershipRole) :
    AdminProg Instance := do
  guardSuperuser auth
  let inst ← existingInstance instanceId
  let _ ← existingUser userId
  let existing ← orAdminError (admin (.listMembershipsByUser userId))
  .ensure (¬ existing.any fun m => m.instanceId == inst.id)
    (.conflict (s!"user {userId} is already a member of instance {instanceId} — use " ++
      "setMemberRole to change the role"))
  let _ ← orAdminError (admin (.createMembership userId inst.id role))
  return inst

/-- The membership that `remove_member` and `set_member_role` look for. -/
def existingMembership (instanceId userId : String) (inst : Instance) :
    AdminProg MembershipRow := do
  let memberships ← orAdminError (admin (.listMembershipsByUser userId))
  .ofOption (memberships.find? fun m => m.instanceId == inst.id)
    (.notFound "Membership" s!"{userId}@{instanceId}")

/-- `remove_member`. -/
def removeMember (auth : Option AuthInfo) (instanceId userId : String) : AdminProg Instance := do
  guardSuperuser auth
  let inst ← existingInstance instanceId
  let membership ← existingMembership instanceId userId inst
  orAdminError (admin (.deleteMembership membership.id))
  return inst

/-- `set_member_role`. -/
def setMemberRole (auth : Option AuthInfo) (instanceId userId : String) (role : MembershipRole) :
    AdminProg Instance := do
  guardSuperuser auth
  let inst ← existingInstance instanceId
  let membership ← existingMembership instanceId userId inst
  orAdminError (admin (.updateMembershipRole membership.id role))
  return inst

/-! ### API tokens -/

/-- `create_api_token` and `issue_api_token`. -/
def createApiToken (auth : Option AuthInfo) (instanceId name : String) :
    AdminProg (String × ApiToken) := do
  guardOwnerOrSuperuser instanceId auth
  let userId ← adminUserId auth
  let name ← checked (requireApiTokenName name)
  let found ← orAdminError (admin (.getInstance instanceId))
  let _ ← .ofOption (found.filter fun i => !i.deleted && i.kind == .support)
    (.notFound "Instance" instanceId)
  let id ← admin .newId
  let nonce ← admin (.generateNonce 32)
  let fullToken := s!"mta_{id}.{nonce}"
  let token ← orAdminError (admin (.createApiToken id instanceId name (libs.sha256Hex fullToken)
    userId))
  return (fullToken, token)

/-- `update_api_token`. -/
def updateApiToken (auth : Option AuthInfo) (id name : String) (enabled : Bool) :
    AdminProg ApiToken := do
  let existing ← requireApiTokenManager auth id
  let name ← checked (requireApiTokenName name)
  orAdminError (admin (.updateApiToken existing.id name enabled))
  return { existing with name, enabled }

/-- `delete_api_token`. -/
def deleteApiToken (auth : Option AuthInfo) (id : String) : AdminProg Bool := do
  let existing ← requireApiTokenManager auth id
  orAdminError (admin (.deleteApiToken existing.id))
  return true

/-! ### Projects -/

/-- `CreateProjectInput`; `UpdateProjectInput` less its `archived`. -/
structure ProjectInput where
  name : String
  clientName : String
  clientAbn : Option String
  clientAddress : Option String
  reference : Option String

/-- The checks of `create_project` and `update_project`. -/
def ProjectInput.fields (input : ProjectInput) : Except String ProjectFields := do
  let name ← requireProjectName input.name
  let clientName ← requireProjectClientName input.clientName
  let clientAbn ← normalizeProjectField "clientAbn" maxInvoicingFieldLen input.clientAbn
  let clientAddress ←
    normalizeProjectField "clientAddress" maxInvoicingLongFieldLen input.clientAddress
  let reference ← normalizeProjectField "reference" maxInvoicingFieldLen input.reference
  return { name, clientName, clientAbn, clientAddress, reference }

/-- `create_project`. -/
def createProject (auth : Option AuthInfo) (instanceId : String) (input : ProjectInput) :
    AdminProg ProjectRow := do
  guardMember instanceId auth
  let inst ← existingInstance instanceId
  checked (requireInstanceKind libs inst .invoicing)
  let fields ← checked input.fields
  orAdminError (admin (.createProject instanceId fields))

/-- `update_project`. -/
def updateProject (auth : Option AuthInfo) (id : String) (input : ProjectInput)
    (archived : Bool) : AdminProg ProjectRow := do
  let project ← projectOfMember auth id
  let fields ← checked input.fields
  orAdminError (admin (.updateProject project.id fields archived))
  let now ← admin .clock
  return { project with
    clientName := fields.clientName, clientAbn := fields.clientAbn,
    clientAddress := fields.clientAddress, reference := fields.reference, archived,
    name := fields.name, updatedAt := now }

/-! ### The system -/

/-- A call of one of the mutations. -/
inductive AdminCall where
  | createInstance (auth : Option AuthInfo) (name slug : String)
      (fromName signature : Option String) (publicSubmissionEnabled : Bool) (kind : InstanceKind)
  | updateInstance (auth : Option AuthInfo) (id name fromName signature : String)
      (publicSubmissionEnabled : Bool)
  | setInstanceDeleted (auth : Option AuthInfo) (id : String) (deleted : Bool)
  | updateInvoicingSettings (auth : Option AuthInfo) (instanceId : String)
      (input : InvoicingSettingsInput)
  | createUser (auth : Option AuthInfo) (email name : String)
  | updateUser (auth : Option AuthInfo) (id name email : String) (enabled : Bool)
  | deleteUser (auth : Option AuthInfo) (id : String)
  | addMember (auth : Option AuthInfo) (instanceId userId : String) (role : MembershipRole)
  | removeMember (auth : Option AuthInfo) (instanceId userId : String)
  | setMemberRole (auth : Option AuthInfo) (instanceId userId : String) (role : MembershipRole)
  | createApiToken (auth : Option AuthInfo) (instanceId name : String)
  | updateApiToken (auth : Option AuthInfo) (id name : String) (enabled : Bool)
  | deleteApiToken (auth : Option AuthInfo) (id : String)
  | createProject (auth : Option AuthInfo) (instanceId : String) (input : ProjectInput)
  | updateProject (auth : Option AuthInfo) (id : String) (input : ProjectInput) (archived : Bool)

/-- What a call returns. -/
inductive AdminReply where
  | inst (inst : Instance)
  | user (user : UserRow)
  | newToken (secret : String) (token : ApiToken)
  | token (token : ApiToken)
  | deleted (deleted : Bool)
  | project (project : ProjectRow)
  deriving DecidableEq, Repr

/-- Make a reply of a result. -/
def AdminProg.reply {α : Type} (f : α → AdminReply) (p : AdminProg α) : AdminProg AdminReply :=
  p >>= fun a => .done (f a)

/-- The program of a call. -/
def AdminCall.prog : AdminCall → AdminProg AdminReply
  | .createInstance auth name slug fromName signature publicSubmissionEnabled kind =>
      AdminProg.reply .inst (Microticket.createInstance libs auth name slug fromName signature
        publicSubmissionEnabled kind)
  | .updateInstance auth id name fromName signature publicSubmissionEnabled =>
      AdminProg.reply .inst (Microticket.updateInstance auth id name fromName signature
        publicSubmissionEnabled)
  | .setInstanceDeleted auth id deleted =>
      AdminProg.reply .inst (Microticket.setInstanceDeleted auth id deleted)
  | .updateInvoicingSettings auth instanceId input =>
      AdminProg.reply .inst (Microticket.updateInvoicingSettings libs auth instanceId input)
  | .createUser auth email name =>
      AdminProg.reply .user (Microticket.createUser libs auth email name)
  | .updateUser auth id name email enabled =>
      AdminProg.reply .user (Microticket.updateUser libs auth id name email enabled)
  | .deleteUser auth id => AdminProg.reply .user (Microticket.deleteUser auth id)
  | .addMember auth instanceId userId role =>
      AdminProg.reply .inst (Microticket.addMember auth instanceId userId role)
  | .removeMember auth instanceId userId =>
      AdminProg.reply .inst (Microticket.removeMember auth instanceId userId)
  | .setMemberRole auth instanceId userId role =>
      AdminProg.reply .inst (Microticket.setMemberRole auth instanceId userId role)
  | .createApiToken auth instanceId name =>
      AdminProg.reply (fun r => .newToken r.1 r.2)
        (Microticket.createApiToken libs auth instanceId name)
  | .updateApiToken auth id name enabled =>
      AdminProg.reply .token (Microticket.updateApiToken auth id name enabled)
  | .deleteApiToken auth id => AdminProg.reply .deleted (Microticket.deleteApiToken auth id)
  | .createProject auth instanceId input =>
      AdminProg.reply .project (Microticket.createProject libs auth instanceId input)
  | .updateProject auth id input archived =>
      AdminProg.reply .project (Microticket.updateProject auth id input archived)

/-- The programs that take part in a run. -/
def IsAdminCall (p : AdminProg AdminReply) : Prop := ∃ call : AdminCall, p = call.prog libs

end Microticket

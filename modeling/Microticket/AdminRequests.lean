import Microticket.AdminMutations

/-! # What the administrative mutations send

Most of the mutations write no project and create no token: their requests are `plain`. -/

namespace Microticket

open Interleaving RustText

/-- The requests that write no project and create no token. -/
def AdminOp.plain : AdminOp → Bool
  | .createProject .. | .updateProject .. | .createApiToken .. => false
  | _ => true

section plain
variable {libs : CodeLibs} {auth : Option AuthInfo} {α : Type}

theorem plain_admin {op : AdminOp} (hop : op.plain) :
    (admin op).All fun op => op.plain := ⟨hop, fun _ => trivial⟩

theorem plain_orAdminError {p : AdminProg (Except DbError α)}
    (hp : p.All fun op => op.plain) :
    (orAdminError p).All fun op => op.plain :=
  hp.bind fun _ => Prog.all_ofExcept _

theorem plain_checked (r : Except String α) : (checked r).All fun op => op.plain :=
  Prog.all_ofExcept _

theorem plain_guardSuperuser : (guardSuperuser auth).All fun op => op.plain := by
  unfold guardSuperuser
  split
  · exact Prog.all_ensure _ _
  · trivial

theorem plain_guardOwnerOrSuperuser (instanceId : String) :
    (guardOwnerOrSuperuser instanceId auth).All fun op => op.plain := by
  unfold guardOwnerOrSuperuser
  split
  · exact Prog.all_ensure _ _
  · trivial

theorem plain_guardMember (instanceId : String) :
    (guardMember instanceId auth).All fun op => op.plain := by
  unfold guardMember
  split
  · exact Prog.all_ensure _ _
  · trivial

theorem plain_adminUserId : (adminUserId auth).All fun op => op.plain := by
  unfold adminUserId
  split <;> trivial

theorem plain_existingInstance (id : String) :
    (existingInstance id).All fun op => op.plain := by
  refine Prog.All.bind (plain_orAdminError ⟨rfl, fun _ => trivial⟩) fun found => ?_
  exact Prog.all_ofOption _ _

theorem plain_existingUser (id : String) : (existingUser id).All fun op => op.plain := by
  refine Prog.All.bind (plain_orAdminError ⟨rfl, fun _ => trivial⟩) fun found => ?_
  exact Prog.all_ofOption _ _

theorem plain_existingMembership (instanceId userId : String) (inst : Instance) :
    (existingMembership instanceId userId inst).All fun op => op.plain := by
  refine Prog.All.bind (plain_orAdminError ⟨rfl, fun _ => trivial⟩) fun memberships => ?_
  exact Prog.all_ofOption _ _

theorem plain_requireApiTokenManager (id : String) :
    (requireApiTokenManager auth id).All fun op => op.plain := by
  unfold requireApiTokenManager
  split
  · refine Prog.All.bind (plain_orAdminError ⟨rfl, fun _ => trivial⟩) fun found => ?_
    refine Prog.All.bind (Prog.all_ofOption _ _) fun token => ?_
    refine Prog.All.bind (Prog.all_ensure _ _) fun _ => ?_
    trivial
  · trivial

theorem plain_createInstance (name slug : String) (fromName signature : Option String)
    (publicSubmissionEnabled : Bool) (kind : InstanceKind) :
    (createInstance libs auth name slug fromName signature publicSubmissionEnabled kind).All
      fun op => op.plain := by
  unfold createInstance
  generalize requireName name = checkedName
  generalize trim slug = slug
  refine Prog.All.bind plain_guardSuperuser fun _ => ?_
  apply Prog.All.bind (plain_checked _)
  intro name
  refine Prog.All.bind (Prog.all_ofExcept _) fun _ => ?_
  refine Prog.All.bind (plain_orAdminError ⟨rfl, fun _ => trivial⟩) fun taken => ?_
  generalize libs.debug slug = shown
  refine Prog.All.bind (Prog.all_ensure _ _) fun _ => ?_
  generalize ((fromName.map trim).filter fun s => !s.isEmpty).getD name = fromName
  refine Prog.All.bind (Prog.all_ensure _ _) fun _ => ?_
  exact plain_orAdminError ⟨rfl, fun _ => trivial⟩

theorem plain_updateInstance (id name fromName signature : String) (publicSubmissionEnabled : Bool) :
    (updateInstance auth id name fromName signature publicSubmissionEnabled).All
      fun op => op.plain := by
  unfold updateInstance
  generalize requireName name = checkedName
  refine Prog.All.bind plain_guardSuperuser fun _ => ?_
  apply Prog.All.bind (plain_checked _)
  intro name
  refine Prog.All.bind (plain_existingInstance id) fun current => ?_
  refine Prog.All.bind (Prog.all_ensure _ _) fun _ => ?_
  refine Prog.All.bind (plain_orAdminError ⟨rfl, fun _ => trivial⟩) fun _ => ?_
  trivial

theorem plain_setInstanceDeleted (id : String) (deleted : Bool) :
    (setInstanceDeleted auth id deleted).All fun op => op.plain := by
  unfold setInstanceDeleted
  refine Prog.All.bind plain_guardSuperuser fun _ => ?_
  refine Prog.All.bind (plain_existingInstance id) fun current => ?_
  split
  · trivial
  · refine Prog.All.bind (plain_orAdminError ⟨rfl, fun _ => trivial⟩) fun _ => ?_
    trivial

theorem plain_updateInvoicingSettings (instanceId : String) (input : InvoicingSettingsInput) :
    (updateInvoicingSettings libs auth instanceId input).All fun op => op.plain := by
  unfold updateInvoicingSettings
  generalize input.shape libs = checkedShape
  refine Prog.All.bind (plain_guardOwnerOrSuperuser instanceId) fun _ => ?_
  refine Prog.All.bind (plain_existingInstance instanceId) fun inst => ?_
  apply Prog.All.bind (plain_checked _)
  intro _
  apply Prog.All.bind (plain_checked _)
  intro shape
  refine Prog.All.bind (plain_orAdminError ⟨rfl, fun _ => trivial⟩) fun _ => ?_
  trivial

theorem plain_createUser (email name : String) :
    (createUser libs auth email name).All fun op => op.plain := by
  unfold createUser
  generalize requireName name = checkedName, normalizeUserEmail libs email = checkedEmail
  refine Prog.All.bind plain_guardSuperuser fun _ => ?_
  apply Prog.All.bind (plain_checked _)
  intro name
  apply Prog.All.bind (plain_checked _)
  intro email
  refine Prog.All.bind (plain_orAdminError ⟨rfl, fun _ => trivial⟩) fun taken => ?_
  refine Prog.All.bind (Prog.all_ensure _ _) fun _ => ?_
  exact plain_orAdminError ⟨rfl, fun _ => trivial⟩

theorem plain_updateUser (id name email : String) (enabled : Bool) :
    (updateUser libs auth id name email enabled).All fun op => op.plain := by
  unfold updateUser
  generalize requireName name = checkedName, normalizeUserEmail libs email = checkedEmail
  refine Prog.All.bind plain_guardSuperuser fun _ => ?_
  refine Prog.All.bind plain_adminUserId fun callerId => ?_
  apply Prog.All.bind (plain_checked _)
  intro name
  apply Prog.All.bind (plain_checked _)
  intro email
  refine Prog.All.bind (plain_existingUser id) fun current => ?_
  refine Prog.All.bind (Prog.all_ensure _ _) fun _ => ?_
  have hemail : (changeEmail id email current).All fun op => op.plain := by
    unfold changeEmail
    split
    · trivial
    · refine Prog.All.bind (plain_orAdminError ⟨rfl, fun _ => trivial⟩) fun taken => ?_
      refine Prog.All.bind (Prog.all_ensure _ _) fun _ => ?_
      exact plain_orAdminError ⟨rfl, fun _ => trivial⟩
  refine Prog.All.bind hemail fun _ => ?_
  refine Prog.All.bind (plain_orAdminError ⟨rfl, fun _ => trivial⟩) fun _ => ?_
  trivial

theorem plain_deleteUser (id : String) : (deleteUser auth id).All fun op => op.plain := by
  unfold deleteUser
  refine Prog.All.bind plain_guardSuperuser fun _ => ?_
  refine Prog.All.bind plain_adminUserId fun callerId => ?_
  refine Prog.All.bind (Prog.all_ensure _ _) fun _ => ?_
  refine Prog.All.bind (plain_existingUser id) fun current => ?_
  refine Prog.All.bind (plain_orAdminError ⟨rfl, fun _ => trivial⟩) fun _ => ?_
  refine Prog.All.bind (plain_orAdminError ⟨rfl, fun _ => trivial⟩) fun memberships => ?_
  have hdelete : ∀ m : MembershipRow, (orAdminError (admin (.deleteMembership m.id))).All
      fun op => op.plain := fun m => plain_orAdminError ⟨rfl, fun _ => trivial⟩
  refine Prog.All.bind (Prog.All.forEach hdelete _) fun _ => ?_
  trivial

theorem plain_addMember (instanceId userId : String) (role : MembershipRole) :
    (addMember auth instanceId userId role).All fun op => op.plain := by
  unfold addMember
  refine Prog.All.bind plain_guardSuperuser fun _ => ?_
  refine Prog.All.bind (plain_existingInstance instanceId) fun inst => ?_
  refine Prog.All.bind (plain_existingUser userId) fun _ => ?_
  refine Prog.All.bind (plain_orAdminError ⟨rfl, fun _ => trivial⟩) fun existing => ?_
  refine Prog.All.bind (Prog.all_ensure _ _) fun _ => ?_
  refine Prog.All.bind (plain_orAdminError ⟨rfl, fun _ => trivial⟩) fun _ => ?_
  trivial

theorem plain_removeMember (instanceId userId : String) :
    (removeMember auth instanceId userId).All fun op => op.plain := by
  unfold removeMember
  refine Prog.All.bind plain_guardSuperuser fun _ => ?_
  refine Prog.All.bind (plain_existingInstance instanceId) fun inst => ?_
  refine Prog.All.bind (plain_existingMembership instanceId userId inst) fun membership => ?_
  refine Prog.All.bind (plain_orAdminError ⟨rfl, fun _ => trivial⟩) fun _ => ?_
  trivial

theorem plain_setMemberRole (instanceId userId : String) (role : MembershipRole) :
    (setMemberRole auth instanceId userId role).All fun op => op.plain := by
  unfold setMemberRole
  refine Prog.All.bind plain_guardSuperuser fun _ => ?_
  refine Prog.All.bind (plain_existingInstance instanceId) fun inst => ?_
  refine Prog.All.bind (plain_existingMembership instanceId userId inst) fun membership => ?_
  refine Prog.All.bind (plain_orAdminError ⟨rfl, fun _ => trivial⟩) fun _ => ?_
  trivial

theorem plain_updateApiToken (id name : String) (enabled : Bool) :
    (updateApiToken auth id name enabled).All fun op => op.plain := by
  unfold updateApiToken
  generalize requireApiTokenName name = checkedName
  refine Prog.All.bind (plain_requireApiTokenManager id) fun existing => ?_
  apply Prog.All.bind (plain_checked _)
  intro name
  refine Prog.All.bind (plain_orAdminError ⟨rfl, fun _ => trivial⟩) fun _ => ?_
  trivial

theorem plain_deleteApiToken (id : String) :
    (deleteApiToken auth id).All fun op => op.plain := by
  unfold deleteApiToken
  refine Prog.All.bind (plain_requireApiTokenManager id) fun existing => ?_
  refine Prog.All.bind (plain_orAdminError ⟨rfl, fun _ => trivial⟩) fun _ => ?_
  trivial

/-- A call whose requests are plain. -/
def AdminCall.isPlain : AdminCall → Bool
  | .createProject .. | .updateProject .. | .createApiToken .. => false
  | _ => true

theorem plain_call {call : AdminCall} (hcall : call.isPlain) :
    (call.prog libs).All fun op => op.plain := by
  have hreply : ∀ {α : Type} {f : α → AdminReply} {p : AdminProg α}, (p.All fun op => op.plain) →
      (AdminProg.reply f p).All fun op => op.plain := fun hp => hp.bind fun _ => trivial
  cases call with
  | createInstance => exact hreply (plain_createInstance ..)
  | updateInstance => exact hreply (plain_updateInstance ..)
  | setInstanceDeleted => exact hreply (plain_setInstanceDeleted ..)
  | updateInvoicingSettings => exact hreply (plain_updateInvoicingSettings ..)
  | createUser => exact hreply (plain_createUser ..)
  | updateUser => exact hreply (plain_updateUser ..)
  | deleteUser => exact hreply (plain_deleteUser _)
  | addMember => exact hreply (plain_addMember ..)
  | removeMember => exact hreply (plain_removeMember ..)
  | setMemberRole => exact hreply (plain_setMemberRole ..)
  | updateApiToken => exact hreply (plain_updateApiToken ..)
  | deleteApiToken => exact hreply (plain_deleteApiToken _)
  | createProject => cases hcall
  | updateProject => cases hcall
  | createApiToken => cases hcall

end plain

/-! ### Tokens -/

/-- The requests that create a token. -/
def AdminOp.createsToken : AdminOp → Bool
  | .createApiToken .. => true
  | _ => false

section tokens
variable {libs : CodeLibs} {auth : Option AuthInfo} {α : Type}

theorem tokenless_of_plain {p : AdminProg α} (hp : p.All fun op => op.plain) :
    p.All fun op => op.createsToken = false := by
  refine hp.mono fun op hop => ?_
  cases op <;> first | rfl | cases hop

theorem tokenless_createProject (instanceId : String) (input : ProjectInput) :
    (createProject libs auth instanceId input).All fun op => op.createsToken = false := by
  unfold createProject
  generalize input.fields = result
  refine (tokenless_of_plain (plain_guardMember instanceId)).bind fun _ => ?_
  refine (tokenless_of_plain (plain_existingInstance instanceId)).bind fun inst => ?_
  apply (tokenless_of_plain (plain_checked _)).bind
  intro _
  apply (tokenless_of_plain (plain_checked _)).bind
  intro fields
  exact ⟨rfl, fun r => Prog.all_ofExcept _⟩

theorem tokenless_updateProject (id : String) (input : ProjectInput) (archived : Bool) :
    (updateProject auth id input archived).All fun op => op.createsToken = false := by
  have hproject : (projectOfMember auth id).All fun op => op.createsToken = false := by
    unfold projectOfMember
    split
    · refine ⟨rfl, fun r => ?_⟩
      refine (Prog.all_ofExcept _).bind fun found => (Prog.all_ofOption _ _).bind fun project => ?_
      exact (Prog.all_ensure _ _).bind fun _ => trivial
    · trivial
  unfold updateProject
  generalize input.fields = result
  refine hproject.bind fun project => ?_
  apply (tokenless_of_plain (plain_checked _)).bind
  intro fields
  exact ⟨rfl, fun r => (Prog.all_ofExcept _).bind fun _ => ⟨rfl, fun _ => trivial⟩⟩

/-- Only `create_api_token` creates a token. -/
theorem tokenless_call {call : AdminCall}
    (hcall : ∀ auth instanceId name, call ≠ .createApiToken auth instanceId name) :
    (call.prog libs).All fun op => op.createsToken = false := by
  cases call with
  | createProject => exact (tokenless_createProject ..).bind fun _ => trivial
  | updateProject => exact (tokenless_updateProject ..).bind fun _ => trivial
  | createApiToken auth instanceId name => exact absurd rfl (hcall auth instanceId name)
  | _ => exact tokenless_of_plain (plain_call rfl)

end tokens

end Microticket

import Microticket.AdminRequests
import Microticket.Contract
import Microticket.InvoiceMutations

/-! # What an administrative mutation has checked before it writes

Users, memberships and instances are written for a superuser; the settings of an instance and its
API tokens also for its owners, and its projects for its members.  A token or a project that is
changed has been read before, and it was one of an instance of the caller; a new one is stored after
the instance was read, as one of kind `support` or `invoicing` (`AdminOp.grounded`).  Nothing makes
the writes conditional on it. -/

namespace Microticket

open Interleaving RustText

/-! ### Principals -/

/-- The principal is a user who is a member of the instance. -/
def memberOf (auth : Option AuthInfo) (instanceId : String) : Bool :=
  match auth with
  | some (.user _ memberships _) => isMember memberships instanceId
  | _ => false

/-- The principal is a superuser. -/
def superuser (auth : Option AuthInfo) : Bool :=
  match auth with
  | some (.user _ _ isSuperuser) => isSuperuser
  | _ => false

theorem ownerOrSuperuser_of_superuser {auth : Option AuthInfo} (h : superuser auth)
    (instanceId : String) : instanceOwnerOrSuperuser auth instanceId := by
  cases auth with
  | none => cases h
  | some principal =>
      cases principal with
      | user id memberships isSuperuser =>
          show (isSuperuser || _) = true
          rw [show isSuperuser = true from h]
          rfl
      | requester | apiToken => cases h

/-! ### The contract -/

/-- What the call has checked before the request. -/
def AdminOp.grounded (auth : Option AuthInfo) (i : ℕ) (h : List AdminEvent) : AdminOp → Prop
  | .createUser .. | .updateUser .. | .createMembership .. | .deleteMembership _
  | .updateMembershipRole .. | .createInstance .. => superuser auth
  | .updateInstance id (.setInvoicingSettings ..) => instanceOwnerOrSuperuser auth id
  | .updateInstance _ _ => superuser auth
  | .createApiToken _ instanceId .. => instanceOwnerOrSuperuser auth instanceId ∧
      ∃ inst, ⟨i, .getInstance instanceId, .ok (some inst)⟩ ∈ h ∧ inst.kind = .support
  | .updateApiToken id .. | .deleteApiToken id => superuser auth ∨
      ∃ key token, ⟨i, .getApiToken key, .ok (some token)⟩ ∈ h ∧ token.id = id ∧
        instanceOwnerOrSuperuser auth token.instanceId
  | .createProject instanceId _ => memberOf auth instanceId ∧
      ∃ inst, ⟨i, .getInstance instanceId, .ok (some inst)⟩ ∈ h ∧ inst.kind = .invoicing
  | .updateProject id .. =>
      ∃ key project, ⟨i, .getProject key, .ok (some project)⟩ ∈ h ∧ project.id = id ∧
        memberOf auth project.instanceId
  | _ => True

section grounds
variable {libs : CodeLibs} {auth : Option AuthInfo} {i : ℕ} {h : List AdminEvent} {α β : Type}

theorem AdminOp.grounded_of_reads {op : AdminOp} (hop : op.reads) : op.grounded auth i h := by
  cases op with
  | newId | generateNonce | clock | getUser | getUserIdByEmail | listMembershipsByUser
  | getInstance | getInstanceIdBySlug | getApiToken | getProject => trivial
  | _ => cases hop

theorem AdminOp.grounded_of_superuser (hauth : superuser auth) {op : AdminOp} (hop : op.plain) :
    op.grounded auth i h := by
  cases op with
  | createProject | updateProject | createApiToken => cases hop
  | updateInstance id change =>
      cases change with
      | setInvoicingSettings => exact ownerOrSuperuser_of_superuser hauth id
      | _ => exact hauth
  | updateApiToken | deleteApiToken => exact .inl hauth
  | createUser | updateUser | createMembership | deleteMembership | updateMembershipRole
  | createInstance => exact hauth
  | _ => trivial

/-- The requests of a mutation for `auth` are grounded. -/
abbrev AdminGrounded (auth : Option AuthInfo) (i : ℕ) (p : AdminProg α) (h : List AdminEvent) :
    Prop :=
  Sends i (fun h op => op.grounded auth i h) (fun _ _ => True) p h

theorem adminGrounded_of_reads {p : AdminProg α} (hp : p.All fun op => op.reads) :
    AdminGrounded auth i p h :=
  Sends.of_all hp AdminOp.grounded_of_reads

theorem grounded_checked {r : Except String α} {f : α → AdminProg β}
    (hf : ∀ a, r = .ok a → AdminGrounded auth i (f a) h) :
    AdminGrounded auth i (checked r >>= f) h := by
  cases r with
  | error e => trivial
  | ok a => exact hf a rfl

/-- The mutations for superusers. -/
theorem grounded_superuser {f : Unit → AdminProg α}
    (hp : (guardSuperuser auth >>= f).All fun op => op.plain) :
    AdminGrounded auth i (guardSuperuser auth >>= f) h := by
  cases hauth : superuser auth with
  | true => exact Sends.of_all hp (AdminOp.grounded_of_superuser hauth)
  | false =>
      unfold guardSuperuser
      split
      · refine Sends.ensure (fun hok => ?_) fun _ => trivial
        exact absurd (hok.symm.trans hauth) (by decide)
      · trivial

theorem grounded_guardOwnerOrSuperuser {instanceId : String} {f : Unit → AdminProg α}
    (hf : instanceOwnerOrSuperuser auth instanceId → AdminGrounded auth i (f ()) h) :
    AdminGrounded auth i (guardOwnerOrSuperuser instanceId auth >>= f) h := by
  unfold guardOwnerOrSuperuser
  split
  · exact Sends.ensure hf fun _ => trivial
  · trivial

theorem grounded_guardMember {instanceId : String} {f : Unit → AdminProg α}
    (hf : memberOf auth instanceId → AdminGrounded auth i (f ()) h) :
    AdminGrounded auth i (guardMember instanceId auth >>= f) h := by
  unfold guardMember
  split
  · exact Sends.ensure hf fun _ => trivial
  · trivial

theorem grounded_existingInstance {id : String} {f : Instance → AdminProg α}
    (hf : ∀ inst h, ⟨i, .getInstance id, .ok (some inst)⟩ ∈ h → AdminGrounded auth i (f inst) h) :
    AdminGrounded auth i (existingInstance id >>= f) h := by
  refine ⟨trivial, fun r => ?_⟩
  rcases r with e | row
  · trivial
  refine Sends.ofOption (fun inst hinst => ?_) fun _ => trivial
  rw [hinst]
  exact hf inst _ List.mem_concat_self

theorem requireInstanceKind_ok {inst : Instance} {kind : InstanceKind} {u : Unit}
    (hok : requireInstanceKind libs inst kind = .ok u) : inst.kind = kind := by
  unfold requireInstanceKind at hok
  split at hok
  · assumption
  · cases hok

theorem reads_adminUserId : (adminUserId auth).All fun op => op.reads := by
  unfold adminUserId
  split <;> trivial

/-! ### The mutations -/

/-- The settings are written in their own shape. -/
theorem grounded_settings {input : InvoicingSettingsInput} {shape : InstanceUpdateShape}
    {id : String} (hok : input.shape libs = .ok shape) (hauth : instanceOwnerOrSuperuser auth id) :
    (AdminOp.updateInstance id shape).grounded auth i h := by
  unfold InvoicingSettingsInput.shape at hok
  generalize normalizeInvoicingField input.businessName _ = r₁ at hok
  generalize normalizeInvoicingField input.businessAbn _ = r₂ at hok
  generalize normalizeInvoicingLongField input.businessAddress _ = r₃ at hok
  generalize normalizeInvoicingField input.businessPhone _ = r₄ at hok
  generalize normalizeInvoicingField input.businessEmail _ = r₅ at hok
  generalize normalizeInvoicingLongField input.paymentDetails _ = r₆ at hok
  generalize normalizeCurrency libs input.currency = r₇ at hok
  rcases r₁ with e | a₁ <;> try cases hok
  rcases r₂ with e | a₂ <;> try cases hok
  rcases r₃ with e | a₃ <;> try cases hok
  rcases r₄ with e | a₄ <;> try cases hok
  rcases r₅ with e | a₅ <;> try cases hok
  rcases r₆ with e | a₆ <;> try cases hok
  rcases r₇ with e | a₇ <;> try cases hok
  exact hauth

theorem grounded_updateInvoicingSettings (instanceId : String) (input : InvoicingSettingsInput) :
    AdminGrounded auth i (updateInvoicingSettings libs auth instanceId input) h := by
  unfold updateInvoicingSettings
  generalize hresult : input.shape libs = checkedShape
  refine grounded_guardOwnerOrSuperuser fun hauth => ?_
  refine grounded_existingInstance fun inst h _ => ?_
  refine grounded_checked fun _ _ => ?_
  refine grounded_checked fun shape hshape => ?_
  refine ⟨grounded_settings (hresult.trans hshape) hauth, fun r => ?_⟩
  rcases r with e | ⟨⟩ <;> trivial

theorem grounded_createApiToken (instanceId name : String) :
    AdminGrounded auth i (createApiToken libs auth instanceId name) h := by
  unfold createApiToken
  generalize requireApiTokenName name = checkedName
  refine grounded_guardOwnerOrSuperuser fun hauth => ?_
  refine (adminGrounded_of_reads reads_adminUserId).bind (fun userId h _ => ?_) fun _ _ _ => trivial
  refine grounded_checked fun name _ => ?_
  refine ⟨trivial, fun r => ?_⟩
  rcases r with e | row
  · trivial
  refine Sends.ofOption (fun inst hinst => ?_) fun _ => trivial
  obtain ⟨rfl, htest⟩ := Option.filter_eq_some_iff.mp hinst
  rw [Bool.and_eq_true] at htest
  have hkind : inst.kind = .support := eq_of_beq htest.2
  refine ⟨trivial, fun id => ⟨trivial, fun nonce => ⟨⟨hauth, inst, ?_, hkind⟩, fun r => ?_⟩⟩⟩
  · exact List.mem_append_left _ (List.mem_append_left _ List.mem_concat_self)
  · rcases r with e | token <;> trivial

/-- The token that is let through was read, and the caller may manage it. -/
theorem grounded_requireApiTokenManager (id : String) :
    Sends i (fun h op => op.grounded auth i h) (fun r h => ∀ token, r = .ok token →
        ⟨i, .getApiToken id, .ok (some token)⟩ ∈ h ∧
        instanceOwnerOrSuperuser auth token.instanceId)
      (requireApiTokenManager auth id) h := by
  unfold requireApiTokenManager
  split
  · refine ⟨trivial, fun r => ?_⟩
    rcases r with e | row
    · rintro _ ⟨⟩
    cases row with
    | none => rintro _ ⟨⟩
    | some token =>
        refine Sends.ensure (fun hauth => ?_) fun _ => ?_
        · rintro _ ⟨⟩
          exact ⟨List.mem_concat_self, hauth⟩
        · rintro _ ⟨⟩
  · rintro _ ⟨⟩

theorem grounded_updateApiToken (id name : String) (enabled : Bool) :
    AdminGrounded auth i (updateApiToken auth id name enabled) h := by
  unfold updateApiToken
  generalize requireApiTokenName name = checkedName
  refine (grounded_requireApiTokenManager id).bind (fun token h hr => ?_) fun _ _ _ => trivial
  obtain ⟨hread, hauth⟩ := hr token rfl
  refine grounded_checked fun name _ => ?_
  refine ⟨.inr ⟨id, token, hread, rfl, hauth⟩, fun r => ?_⟩
  rcases r with e | ⟨⟩ <;> trivial

theorem grounded_deleteApiToken (id : String) :
    AdminGrounded auth i (deleteApiToken auth id) h := by
  unfold deleteApiToken
  refine (grounded_requireApiTokenManager id).bind (fun token h hr => ?_) fun _ _ _ => trivial
  obtain ⟨hread, hauth⟩ := hr token rfl
  refine ⟨.inr ⟨id, token, hread, rfl, hauth⟩, fun r => ?_⟩
  rcases r with e | ⟨⟩ <;> trivial

theorem grounded_createProject (instanceId : String) (input : ProjectInput) :
    AdminGrounded auth i (createProject libs auth instanceId input) h := by
  unfold createProject
  generalize input.fields = checkedFields
  refine grounded_guardMember fun hauth => ?_
  refine grounded_existingInstance fun inst h hread => ?_
  refine grounded_checked fun _ hkind => ?_
  refine grounded_checked fun fields _ => ?_
  refine ⟨⟨hauth, inst, hread, requireInstanceKind_ok hkind⟩, fun r => ?_⟩
  rcases r with e | project <;> trivial

/-- The project that is let through was read, and the caller is a member of its instance. -/
theorem grounded_projectOfMember (id : String) :
    Sends i (fun h op => op.grounded auth i h) (fun r h => ∀ project, r = .ok project →
        ⟨i, .getProject id, .ok (some project)⟩ ∈ h ∧ memberOf auth project.instanceId)
      (projectOfMember auth id) h := by
  unfold projectOfMember
  split
  · refine ⟨trivial, fun r => ?_⟩
    rcases r with e | row
    · rintro _ ⟨⟩
    cases row with
    | none => rintro _ ⟨⟩
    | some project =>
        refine Sends.ensure (fun hauth => ?_) fun _ => ?_
        · rintro _ ⟨⟩
          exact ⟨List.mem_concat_self, hauth⟩
        · rintro _ ⟨⟩
  · rintro _ ⟨⟩

theorem grounded_updateProject (id : String) (input : ProjectInput) (archived : Bool) :
    AdminGrounded auth i (updateProject auth id input archived) h := by
  unfold updateProject
  generalize input.fields = checkedFields
  refine (grounded_projectOfMember id).bind (fun project h hr => ?_) fun _ _ _ => trivial
  obtain ⟨hread, hauth⟩ := hr project rfl
  refine grounded_checked fun fields _ => ?_
  refine ⟨⟨id, project, hread, rfl, hauth⟩, fun r => ?_⟩
  rcases r with e | ⟨⟩
  · trivial
  · exact ⟨trivial, fun now => trivial⟩

end grounds

/-! ### All calls -/

/-- The principal of a call. -/
def AdminCall.auth : AdminCall → Option AuthInfo
  | .createInstance auth .. | .updateInstance auth .. | .setInstanceDeleted auth ..
  | .updateInvoicingSettings auth .. | .createUser auth .. | .updateUser auth .. | .deleteUser auth _
  | .addMember auth .. | .removeMember auth .. | .setMemberRole auth .. | .createApiToken auth ..
  | .updateApiToken auth .. | .deleteApiToken auth _ | .createProject auth ..
  | .updateProject auth .. => auth

/-- The requests of every call are grounded. -/
theorem grounded_adminCall {libs : CodeLibs} (call : AdminCall) (i : ℕ) :
    AdminGrounded call.auth i (call.prog libs) [] := by
  have hreply : ∀ {α : Type} {f : α → AdminReply} {p : AdminProg α},
      AdminGrounded call.auth i p [] → AdminGrounded call.auth i (AdminProg.reply f p) [] :=
    fun hp => hp.bind (fun _ _ _ => trivial) fun _ _ _ => trivial
  cases call with
  | updateInvoicingSettings => exact hreply (grounded_updateInvoicingSettings ..)
  | createApiToken => exact hreply (grounded_createApiToken ..)
  | updateApiToken => exact hreply (grounded_updateApiToken ..)
  | deleteApiToken => exact hreply (grounded_deleteApiToken _)
  | createProject => exact hreply (grounded_createProject ..)
  | updateProject => exact hreply (grounded_updateProject ..)
  | createInstance => exact hreply (grounded_superuser (plain_createInstance ..))
  | updateInstance => exact hreply (grounded_superuser (plain_updateInstance ..))
  | setInstanceDeleted => exact hreply (grounded_superuser (plain_setInstanceDeleted ..))
  | createUser => exact hreply (grounded_superuser (plain_createUser ..))
  | updateUser => exact hreply (grounded_superuser (plain_updateUser ..))
  | deleteUser => exact hreply (grounded_superuser (plain_deleteUser _))
  | addMember => exact hreply (grounded_superuser (plain_addMember ..))
  | removeMember => exact hreply (grounded_superuser (plain_removeMember ..))
  | setMemberRole => exact hreply (grounded_superuser (plain_setMemberRole ..))

end Microticket

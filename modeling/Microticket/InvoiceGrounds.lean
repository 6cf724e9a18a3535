import Microticket.AdminGrounds
import Microticket.InvoiceRejection

/-! # What a mutation of invoicing has checked before it writes

A billable item or an invoice is stored with the ids of a project that the call has read, and with
its instance.  An item or an invoice that is changed has been read before, an invoice together with
its project where items are added to it.  The caller is a member of the instance of what was read;
the counter is set for owners and superusers (`InvoiceOp.grounded`). -/

namespace Microticket

open Interleaving RustText

/-! ### The contract -/

/-- The call has read an invoice with this id, of an instance of the caller. -/
def ReadInvoice (auth : Option AuthInfo) (i : ℕ) (h : List InvoiceEvent) (id : String)
    (P : Invoice → Prop) : Prop :=
  ∃ key invoice, ⟨i, .getInvoiceConsistent key, .ok (some invoice)⟩ ∈ h ∧ invoice.id = id ∧
    memberOf auth invoice.instanceId ∧ P invoice

/-- What the call has checked before the request. -/
def InvoiceOp.grounded (auth : Option AuthInfo) (i : ℕ) (h : List InvoiceEvent) : InvoiceOp → Prop
  | .createBillableItem instanceId projectId .. | .createInvoice instanceId projectId .. =>
      ∃ key project, ⟨i, .getProject key, .ok (some project)⟩ ∈ h ∧ project.id = projectId ∧
        project.instanceId = instanceId ∧ memberOf auth instanceId
  | .updateBillableItem id .. | .deleteBillableItem id =>
      ∃ key item, ⟨i, .getBillableItem key, .ok (some item)⟩ ∈ h ∧ item.id = id ∧
        memberOf auth item.instanceId
  | .addInvoiceItems invoiceId projectId .. =>
      ReadInvoice auth i h invoiceId fun invoice => invoice.projectId = projectId
  | .removeInvoiceItems invoiceId .. | .deleteInvoice invoiceId .. | .finalizeInvoice invoiceId ..
  | .setInvoicePaid invoiceId _ | .setInvoicePdfKey invoiceId _ =>
      ReadInvoice auth i h invoiceId fun _ => True
  | .incrementInvoiceCounter instanceId => memberOf auth instanceId
  | .setNextInvoiceNumber instanceId _ =>
      ∃ key inst, ⟨i, .getInstance key, .ok (some inst)⟩ ∈ h ∧ inst.id = instanceId ∧
        instanceOwnerOrSuperuser auth key
  | .putProject _ | .putInstance _ => False
  | _ => True

section grounds
variable {libs : InvoiceLibs} {auth : Option AuthInfo} {i : ℕ} {h : List InvoiceEvent}
variable {α β : Type}

theorem InvoiceOp.grounded_of_read {op : InvoiceOp} (hop : op.IsRead) : op.grounded auth i h := by
  cases op with
  | getProject | getInstance | getBillableItem | getBillableItemConsistent
  | getInvoiceConsistent | putBytes | presignGetDownload => trivial
  | _ => cases hop

/-- The requests of a mutation for `auth` are grounded. -/
abbrev InvoiceGrounded (auth : Option AuthInfo) (i : ℕ) (p : InvoiceProg α)
    (h : List InvoiceEvent) : Prop :=
  Sends i (fun h op => op.grounded auth i h) (fun _ _ => True) p h

theorem invoiceGrounded_of_read {p : InvoiceProg α} (hp : p.All InvoiceOp.IsRead) :
    InvoiceGrounded auth i p h :=
  Sends.of_all hp InvoiceOp.grounded_of_read

/-- A request whose failure ends the program. -/
theorem invoiceGrounded_request {op : InvoiceOp} {f : op.Ret → InvoiceProg α}
    (hop : op.grounded auth i h) (hf : ∀ a h, InvoiceGrounded auth i (f a) h) :
    InvoiceGrounded auth i (request op >>= f) h := by
  refine ⟨hop, fun r => ?_⟩
  rcases r with e | a
  · trivial
  · exact hf a _

theorem isRead_getBillableItems (ids : List String) :
    (getBillableItems ids).All InvoiceOp.IsRead := all_getBillableItems (fun _ hop => hop) ids

theorem isRead_fetchEligibleItems (projectId : String) (ids : List String) :
    (fetchEligibleItems projectId ids).All InvoiceOp.IsRead :=
  all_fetchEligibleItems (fun _ hop => hop) projectId ids

theorem isRead_requireInstance (id : String) : (requireInstance id).All InvoiceOp.IsRead :=
  all_requireInstance (fun _ hop => hop) id

theorem grounded_validated {r : Except String α} {f : α → InvoiceProg β}
    (hf : ∀ a, r = .ok a → InvoiceGrounded auth i (f a) h) :
    InvoiceGrounded auth i (validated r >>= f) h := by
  cases r with
  | error e => trivial
  | ok a => exact hf a rfl

/-! ### Authorization -/

/-- The project that is let through was read, and the caller is a member of its instance. -/
theorem grounded_requireProjectMember (id : String) :
    Sends i (fun h op => op.grounded auth i h) (fun r h => ∀ project, r = .ok project →
        ⟨i, .getProject id, .ok (some project)⟩ ∈ h ∧ memberOf auth project.instanceId)
      (requireProjectMember auth id) h := by
  unfold requireProjectMember requireUser
  split
  · refine ⟨trivial, fun r => ?_⟩
    rcases r with e | row
    · rintro _ ⟨⟩
    cases row with
    | none => rintro _ ⟨⟩
    | some project =>
        refine Sends.ensure (fun hauth => ?_) fun _ => ?_
        · rintro _ ⟨⟩
          exact ⟨List.mem_concat_self, hauth⟩
        · rintro _ ⟨⟩
  · rintro _ ⟨⟩

/-- So was the billable item. -/
theorem grounded_requireBillableItemMember (id : String) :
    Sends i (fun h op => op.grounded auth i h) (fun r h => ∀ item, r = .ok item →
        ⟨i, .getBillableItem id, .ok (some item)⟩ ∈ h ∧ memberOf auth item.instanceId)
      (requireBillableItemMember auth id) h := by
  unfold requireBillableItemMember requireUser
  split
  · refine ⟨trivial, fun r => ?_⟩
    rcases r with e | row
    · rintro _ ⟨⟩
    cases row with
    | none => rintro _ ⟨⟩
    | some item =>
        refine Sends.ensure (fun hauth => ?_) fun _ => ?_
        · rintro _ ⟨⟩
          exact ⟨List.mem_concat_self, hauth⟩
        · rintro _ ⟨⟩
  · rintro _ ⟨⟩

/-- So was the invoice. -/
theorem grounded_requireInvoiceMember (id : String) :
    Sends i (fun h op => op.grounded auth i h) (fun r h => ∀ invoice, r = .ok invoice →
        ⟨i, .getInvoiceConsistent id, .ok (some invoice)⟩ ∈ h ∧ memberOf auth invoice.instanceId)
      (requireInvoiceMember auth id) h := by
  unfold requireInvoiceMember requireUser
  split
  · refine ⟨trivial, fun r => ?_⟩
    rcases r with e | row
    · rintro _ ⟨⟩
    cases row with
    | none => rintro _ ⟨⟩
    | some invoice =>
        refine Sends.ensure (fun hauth => ?_) fun _ => ?_
        · rintro _ ⟨⟩
          exact ⟨List.mem_concat_self, hauth⟩
        · rintro _ ⟨⟩
  · rintro _ ⟨⟩

/-- A program that goes on with the user's id. -/
theorem grounded_requireUser {f : String × List Membership → InvoiceProg α}
    (hf : ∀ user, InvoiceGrounded auth i (f user) h) :
    InvoiceGrounded auth i (requireUser auth >>= f) h := by
  unfold requireUser
  split
  · rename_i id memberships isSuperuser
    exact hf (id, memberships)
  · trivial

/-! ### Billable items -/

theorem grounded_createBillableItem (projectId : String) (input : BillableItemInput) :
    InvoiceGrounded auth i (createBillableItem libs auth projectId input) h := by
  unfold createBillableItem
  refine (grounded_requireProjectMember _).bind (fun project h hr => ?_) fun _ _ _ => trivial
  obtain ⟨hread, hauth⟩ := hr project rfl
  refine grounded_requireUser fun user => ?_
  refine Sends.ensure (fun _ => ?_) fun _ => trivial
  refine grounded_validated fun fields _ => ?_
  refine ⟨⟨_, project, hread, rfl, rfl, hauth⟩, fun r => ?_⟩
  rcases r with e | item <;> trivial

theorem grounded_updateBillableItem (id : String) (input : BillableItemInput) :
    InvoiceGrounded auth i (updateBillableItem libs auth id input) h := by
  unfold updateBillableItem
  refine (grounded_requireBillableItemMember _).bind (fun item h hr => ?_) fun _ _ _ => trivial
  obtain ⟨hread, hauth⟩ := hr item rfl
  refine (invoiceGrounded_of_read (all_requireDraft (fun _ hop => hop) _)).next fun _ h hsub => ?_
  replace hread := hsub hread
  refine grounded_validated fun fields _ => ?_
  refine invoiceGrounded_request ⟨_, item, hread, rfl, hauth⟩ fun written h => ?_
  exact Sends.ensure (fun _ => trivial) fun _ => trivial

theorem grounded_deleteBillableItem (id : String) :
    InvoiceGrounded auth i (deleteBillableItem auth id) h := by
  unfold deleteBillableItem
  refine (grounded_requireBillableItemMember _).bind (fun item h hr => ?_) fun _ _ _ => trivial
  obtain ⟨hread, hauth⟩ := hr item rfl
  refine Sends.ensure (fun _ => ?_) fun _ => trivial
  refine invoiceGrounded_request ⟨_, item, hread, rfl, hauth⟩ fun deleted h => ?_
  exact Sends.ensure (fun _ => trivial) fun _ => trivial

/-! ### Invoices -/

theorem grounded_createInvoice (projectId : String) (itemIds : List String) :
    InvoiceGrounded auth i (createInvoice auth projectId itemIds) h := by
  unfold createInvoice
  refine (grounded_requireProjectMember _).bind (fun project h hr => ?_) fun _ _ _ => trivial
  obtain ⟨hread, hauth⟩ := hr project rfl
  refine grounded_requireUser fun user => ?_
  refine Sends.ofExcept (fun ids _ => ?_) fun _ _ => trivial
  refine (invoiceGrounded_of_read (isRead_fetchEligibleItems _ _)).next fun items h hsub => ?_
  replace hread := hsub hread
  refine (invoiceGrounded_of_read (isRead_requireInstance _)).next fun inst h hsub => ?_
  replace hread := hsub hread
  refine grounded_validated fun _ _ => ?_
  refine invoiceGrounded_request ⟨_, project, hread, rfl, rfl, hauth⟩ fun row h => ?_
  cases row <;> trivial

theorem grounded_addInvoiceItems (invoiceId : String) (itemIds : List String) :
    InvoiceGrounded auth i (addInvoiceItems auth invoiceId itemIds) h := by
  unfold addInvoiceItems
  refine (grounded_requireInvoiceMember _).bind (fun invoice h hr => ?_) fun _ _ _ => trivial
  obtain ⟨hread, hauth⟩ := hr invoice rfl
  refine Sends.ensure (fun _ => ?_) fun _ => trivial
  refine Sends.ofExcept (fun newIds _ => ?_) fun _ _ => trivial
  refine (invoiceGrounded_of_read (isRead_fetchEligibleItems _ _)).next fun newItems h hsub => ?_
  replace hread := hsub hread
  refine (invoiceGrounded_of_read (isRead_getBillableItems _)).next fun existing h hsub => ?_
  replace hread := hsub hread
  refine (invoiceGrounded_of_read (isRead_requireInstance _)).next fun inst h hsub => ?_
  replace hread := hsub hread
  refine grounded_validated fun _ _ => ?_
  refine invoiceGrounded_request ⟨_, invoice, hread, rfl, hauth, rfl⟩ fun committed h => ?_
  exact Sends.ensure (fun _ => trivial) fun _ => trivial

theorem grounded_removeInvoiceItems (invoiceId : String) (itemIds : List String) :
    InvoiceGrounded auth i (removeInvoiceItems auth invoiceId itemIds) h := by
  unfold removeInvoiceItems
  refine (grounded_requireInvoiceMember _).bind (fun invoice h hr => ?_) fun _ _ _ => trivial
  obtain ⟨hread, hauth⟩ := hr invoice rfl
  refine Sends.ensure (fun _ => ?_) fun _ => trivial
  refine Sends.ofExcept (fun removeIds _ => ?_) fun _ _ => trivial
  refine invoiceGrounded_request ⟨_, invoice, hread, rfl, hauth, trivial⟩ fun committed h => ?_
  exact Sends.ensure (fun _ => trivial) fun _ => trivial

theorem grounded_deleteInvoice (invoiceId : String) :
    InvoiceGrounded auth i (deleteInvoice auth invoiceId) h := by
  unfold deleteInvoice
  refine (grounded_requireInvoiceMember _).bind (fun invoice h hr => ?_) fun _ _ _ => trivial
  obtain ⟨hread, hauth⟩ := hr invoice rfl
  refine Sends.ensure (fun _ => ?_) fun _ => trivial
  refine invoiceGrounded_request ⟨_, invoice, hread, rfl, hauth, trivial⟩ fun committed h => ?_
  exact Sends.ensure (fun _ => trivial) fun _ => trivial

theorem grounded_allocateAndFinalize {invoice : Invoice} {key : String}
    (hread : ⟨i, .getInvoiceConsistent key, .ok (some invoice)⟩ ∈ h)
    (hauth : memberOf auth invoice.instanceId) (userId issueDate : String) (inst : Instance)
    (project : Project) (items : List BillableItem) :
    InvoiceGrounded auth i (allocateAndFinalize libs invoice userId issueDate inst project items)
      h := by
  unfold allocateAndFinalize
  refine ⟨hauth, fun r => ?_⟩
  rcases r with e | allocated
  · trivial
  refine grounded_validated fun _ _ => ?_
  refine Sends.ofExcept (fun snapshotJson _ => ?_) fun _ _ => trivial
  refine invoiceGrounded_request ⟨_, invoice, List.mem_append_left _ hread, rfl, hauth, trivial⟩
    fun committed h => ?_
  exact Sends.ensure (fun _ => trivial) fun _ => trivial

theorem grounded_finalizeInvoice (invoiceId issueDate : String) :
    InvoiceGrounded auth i (finalizeInvoice libs auth invoiceId issueDate) h := by
  unfold finalizeInvoice
  refine (grounded_requireInvoiceMember _).bind (fun invoice h hr => ?_) fun _ _ _ => trivial
  obtain ⟨hread, hauth⟩ := hr invoice rfl
  refine grounded_requireUser fun user => ?_
  refine Sends.ensure (fun _ => ?_) fun _ => trivial
  refine Sends.ensure (fun _ => ?_) fun _ => trivial
  refine grounded_validated fun issueDate _ => ?_
  have hfetch : (getBillableItemsConsistent invoice.itemIds).All InvoiceOp.IsRead := by
    refine .forEach (fun id => ?_) _
    exact all_request trivial
  refine (invoiceGrounded_of_read hfetch).next fun fetched h hsub => ?_
  replace hread := hsub hread
  refine Sends.ofExcept (fun items _ => ?_) fun _ _ => trivial
  refine ⟨trivial, fun r => ?_⟩
  rcases r with e | row
  · trivial
  refine Sends.ofOption (fun project _ => ?_) fun _ => trivial
  refine (invoiceGrounded_of_read (isRead_requireInstance _)).next fun inst h hsub => ?_
  replace hread := hsub (List.mem_append_left _ hread)
  refine Sends.ensure (fun _ => ?_) fun _ => trivial
  exact grounded_allocateAndFinalize hread hauth ..

theorem grounded_setInvoicePaid (invoiceId : String) (paidDate : Option String) :
    InvoiceGrounded auth i (setInvoicePaid libs auth invoiceId paidDate) h := by
  unfold setInvoicePaid
  refine (grounded_requireInvoiceMember _).bind (fun invoice h hr => ?_) fun _ _ _ => trivial
  obtain ⟨hread, hauth⟩ := hr invoice rfl
  refine Sends.ensure (fun _ => ?_) fun _ => trivial
  have hdate : (validatedPaidDate libs paidDate).All InvoiceOp.IsRead := by
    cases paidDate with
    | none => trivial
    | some d => exact .bind (all_validated _) fun _ => trivial
  refine (invoiceGrounded_of_read hdate).next fun paidDate h hsub => ?_
  replace hread := hsub hread
  refine invoiceGrounded_request ⟨_, invoice, hread, rfl, hauth, trivial⟩ fun committed h => ?_
  exact Sends.ensure (fun _ => trivial) fun _ => trivial

theorem grounded_renderAndStorePdf {invoice : Invoice} {key : String}
    (hread : ⟨i, .getInvoiceConsistent key, .ok (some invoice)⟩ ∈ h)
    (hauth : memberOf auth invoice.instanceId) (filename : String) :
    InvoiceGrounded auth i (renderAndStorePdf libs invoice filename) h := by
  unfold renderAndStorePdf
  refine Sends.ofOption (fun snapshotJson _ => ?_) fun _ => trivial
  refine Sends.ofExcept (fun snapshot _ => ?_) fun _ _ => trivial
  refine grounded_validated fun pdfBytes _ => ?_
  refine ⟨trivial, fun r => ?_⟩
  rcases r with e | ⟨⟩
  · trivial
  exact invoiceGrounded_request ⟨_, invoice, List.mem_append_left _ hread, rfl, hauth, trivial⟩
    fun written h => trivial

theorem grounded_downloadInvoicePdf (invoiceId : String) :
    InvoiceGrounded auth i (downloadInvoicePdf libs auth invoiceId) h := by
  unfold downloadInvoicePdf
  refine (grounded_requireInvoiceMember _).bind (fun invoice h hr => ?_) fun _ _ _ => trivial
  obtain ⟨hread, hauth⟩ := hr invoice rfl
  refine Sends.ensure (fun _ => ?_) fun _ => trivial
  have hkey : ∀ filename, InvoiceGrounded auth i (pdfKey libs invoice filename) h := by
    intro filename
    unfold pdfKey
    split
    · trivial
    · exact grounded_renderAndStorePdf hread hauth filename
  refine (hkey _).bind (fun key h _ => ?_) fun _ _ _ => trivial
  refine ⟨trivial, fun r => ?_⟩
  rcases r with e | url <;> trivial

theorem grounded_setNextInvoiceNumber (instanceId : String) (next : Int32) :
    InvoiceGrounded auth i (setNextInvoiceNumber libs auth instanceId next) h := by
  unfold setNextInvoiceNumber
  refine Sends.ensure (fun hauth => ?_) fun _ => trivial
  refine ⟨trivial, fun r => ?_⟩
  rcases r with e | row
  · trivial
  cases row with
  | none => trivial
  | some inst =>
      refine Sends.ensure (fun _ => ?_) fun _ => trivial
      refine Sends.ensure (fun _ => ?_) fun _ => trivial
      refine invoiceGrounded_request ⟨instanceId, inst, List.mem_concat_self, rfl, hauth⟩
        fun committed h => ?_
      exact Sends.ensure (fun _ => trivial) fun _ => trivial

end grounds

/-! ### All mutations -/

/-- The principal of a call. -/
def InvoiceMutation.auth : InvoiceMutation → Option AuthInfo
  | .createBillableItem auth .. | .updateBillableItem auth .. | .deleteBillableItem auth _
  | .createInvoice auth .. | .addInvoiceItems auth .. | .removeInvoiceItems auth ..
  | .deleteInvoice auth _ | .finalizeInvoice auth .. | .setInvoicePaid auth ..
  | .downloadInvoicePdf auth _ | .setNextInvoiceNumber auth .. => auth
  | .putProject _ | .putInstance _ => none

/-- A write of the tables of projects and instances, which stands for another mutation. -/
def InvoiceMutation.standsIn : InvoiceMutation → Bool
  | .putProject _ | .putInstance _ => true
  | _ => false

/-- The requests of every mutation are grounded. -/
theorem grounded_invoiceMutation {libs : InvoiceLibs} {m : InvoiceMutation}
    (hm : m.standsIn = false) (i : ℕ) : InvoiceGrounded m.auth i (m.prog libs) [] := by
  have hvoid : ∀ {α : Type} {p : InvoiceProg α},
      InvoiceGrounded m.auth i p [] → InvoiceGrounded m.auth i p.void [] :=
    fun hp => hp.bind (fun _ _ _ => trivial) fun _ _ _ => trivial
  cases m with
  | createBillableItem => exact hvoid (grounded_createBillableItem ..)
  | updateBillableItem => exact hvoid (grounded_updateBillableItem ..)
  | deleteBillableItem => exact hvoid (grounded_deleteBillableItem _)
  | createInvoice => exact hvoid (grounded_createInvoice ..)
  | addInvoiceItems => exact hvoid (grounded_addInvoiceItems ..)
  | removeInvoiceItems => exact hvoid (grounded_removeInvoiceItems ..)
  | deleteInvoice => exact hvoid (grounded_deleteInvoice _)
  | finalizeInvoice => exact hvoid (grounded_finalizeInvoice ..)
  | setInvoicePaid => exact hvoid (grounded_setInvoicePaid ..)
  | downloadInvoicePdf => exact hvoid (grounded_downloadInvoicePdf _)
  | setNextInvoiceNumber => exact hvoid (grounded_setNextInvoiceNumber ..)
  | putProject => cases hm
  | putInstance => cases hm

end Microticket

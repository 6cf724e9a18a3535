import Microticket.InvoiceStore
import Microticket.Snapshot

/-! # The invoicing mutations

The resolvers of `graphql/mutations.rs` for billable items and invoices, and the helpers they share,
as programs over the requests of `InvoiceStore`.  They return the database row that the GraphQL
object wraps, less the timestamps that the resolver stamps on its copy after the write.  Ids of the request arrive as strings; `auth` is the principal of the request
(`ctx.data_opt::<AuthInfo>()`).

What they use of other crates is the parameter `InvoiceLibs`: the dates of `chrono`, the `{:?}`
format, the JSON of `serde_json` and the renderer of `invoicing::pdf`.  `getRecords` reads the keys
of a `BatchGetItem` one after the other; the resolvers never pass a key twice. -/

namespace Microticket

open Interleaving RustText

/-- What the mutations use of other crates. -/
structure InvoiceLibs where
  dates : DateFormat
  debug : String → String
  toJson : InvoiceSnapshot → Except String String
  fromJson : String → Except String InvoiceSnapshot
  renderInvoicePdf : InvoiceSnapshot → Except String (List UInt8)

/-- A program over the invoicing tables. -/
abbrev InvoiceProg (α : Type) : Type := Prog InvoiceOp InvoiceOp.Res Error α

/-- Send a request; a `db::Error` propagates. -/
def request (op : InvoiceOp) : InvoiceProg op.Ret :=
  .call op fun
    | .ok a => .done a
    | .error e => .fail (.db e)

/-- Send a request to the object storage. -/
def storage (op : InvoiceOp) : InvoiceProg op.Ret :=
  .call op fun
    | .ok a => .done a
    | .error _ => .fail (.other "storage request failed")

/-- A validation result; its message becomes the error. -/
def validated {α : Type} (r : Except String α) : InvoiceProg α := .ofExcept (r.mapError .other)

/-- `get_billable_items`, key by key. -/
def getBillableItems (ids : List String) : InvoiceProg (List (Option BillableItem)) :=
  .forEach (fun id => request (.getBillableItem id)) ids

/-- `get_billable_items_consistent`, key by key. -/
def getBillableItemsConsistent (ids : List String) : InvoiceProg (List (Option BillableItem)) :=
  .forEach (fun id => request (.getBillableItemConsistent id)) ids

def maxInvoiceItems : ℕ := 50

/-! ### Authorization -/

/-- `let Some(AuthInfo::User { .. }) = ctx.data_opt::<AuthInfo>() else { forbidden }`: the user's id
and memberships. -/
def requireUser (auth : Option AuthInfo) : InvoiceProg (String × List Membership) :=
  match auth with
  | some (.user id memberships _) => .done (id, memberships)
  | _ => .fail (.forbidden "Must be authenticated as a user")

/-- `require_project_member`. -/
def requireProjectMember (auth : Option AuthInfo) (id : String) : InvoiceProg Project := do
  let (_, memberships) ← requireUser auth
  let project ← .ofOption (← request (.getProject id)) (.notFound "Project" id)
  .ensure (isMember memberships project.instanceId) (.notFound "Project" id)
  return project

/-- `require_billable_item_member`. -/
def requireBillableItemMember (auth : Option AuthInfo) (id : String) :
    InvoiceProg BillableItem := do
  let (_, memberships) ← requireUser auth
  let item ← .ofOption (← request (.getBillableItem id)) (.notFound "BillableItem" id)
  .ensure (isMember memberships item.instanceId) (.notFound "BillableItem" id)
  return item

/-- `require_invoice_member`. -/
def requireInvoiceMember (auth : Option AuthInfo) (id : String) : InvoiceProg Invoice := do
  let (_, memberships) ← requireUser auth
  let invoice ← .ofOption (← request (.getInvoiceConsistent id)) (.notFound "Invoice" id)
  .ensure (isMember memberships invoice.instanceId) (.notFound "Invoice" id)
  return invoice

/-- `AuthRequirement::InstanceOwnerOrSuperuser`. -/
def instanceOwnerOrSuperuser (auth : Option AuthInfo) (instanceId : String) : Bool :=
  match auth with
  | some (.user _ memberships isSuperuser) => isSuperuser || isOwner memberships instanceId
  | _ => false

/-! ### Item ids -/

/-- The ids, unless one is in `seen` or earlier in the list. -/
def distinctIds (seen : List String) : List String → Except Error (List String)
  | [] => .ok []
  | id :: ids =>
      if seen.contains id then .error (.other s!"Item {id} is duplicated")
      else (distinctIds (id :: seen) ids).map (id :: ·)

/-- `validate_new_invoice_item_ids`. -/
def validateNewInvoiceItemIds (ids existing : List String) : Except Error (List String) :=
  if ids.isEmpty then .error (.other "At least one item id is required")
  else if maxInvoiceItems < existing.length + ids.length then
    .error (.other s!"An invoice can have at most {maxInvoiceItems} items")
  else distinctIds existing ids

/-- The ids, unless one is in `seen` or earlier in the list, or is not in `current`. -/
def distinctIdsOf (current seen : List String) : List String → Except Error (List String)
  | [] => .ok []
  | id :: ids =>
      if seen.contains id then .error (.other s!"Item {id} is duplicated")
      else if !current.contains id then .error (.other s!"Item {id} is not on this invoice")
      else (distinctIdsOf current (id :: seen) ids).map (id :: ·)

/-- `validate_remove_invoice_item_ids`. -/
def validateRemoveInvoiceItemIds (ids current : List String) : Except Error (List String) :=
  if ids.isEmpty then .error (.other "At least one item id is required")
  else distinctIdsOf current [] ids

/-- The loop of `fetch_eligible_items`. -/
def eligibleItems (projectId : String) :
    List (String × Option BillableItem) → Except Error (List BillableItem)
  | [] => .ok []
  | (id, none) :: _ => .error (.notFound "BillableItem" id)
  | (id, some item) :: rest =>
      if item.projectId ≠ projectId then
        .error (.conflict s!"Billable item {id} does not belong to this invoice's project")
      else if item.invoiceId.isSome then
        .error (.conflict s!"Billable item {id} is already on an invoice")
      else (eligibleItems projectId rest).map (item :: ·)

/-- `fetch_eligible_items`. -/
def fetchEligibleItems (projectId : String) (ids : List String) :
    InvoiceProg (List BillableItem) := do
  let fetched ← getBillableItems ids
  .ofExcept (eligibleItems projectId (ids.zip fetched))

/-! ### Billable items -/

/-- `BillableItemInput`. -/
structure BillableItemInput where
  date : String
  description : String
  quantity : String
  unitPriceCents : ℤ

/-- `ValidBillableItem`. -/
structure ValidBillableItem where
  date : String
  description : String
  quantityHundredths : ℤ
  unitPriceCents : ℤ

variable (libs : InvoiceLibs)

/-- `validate_billable_item_input`. -/
def validateBillableItemInput (input : BillableItemInput) : Except String ValidBillableItem := do
  let date ← validateItemDate libs.dates libs.debug input.date
  let description ← validateDescription input.description
  let quantityHundredths ← parseQuantity libs.debug input.quantity
  let unitPriceCents ← validateUnitPriceCents input.unitPriceCents
  return { date, description, quantityHundredths, unitPriceCents }

/-- `create_billable_item`. -/
def createBillableItem (auth : Option AuthInfo) (projectId : String) (input : BillableItemInput) :
    InvoiceProg BillableItem := do
  let project ← requireProjectMember auth projectId
  let (userId, _) ← requireUser auth
  .ensure (project.archived = false)
    (.other "Project is archived — un-archive it to add billable items")
  let fields ← validated (validateBillableItemInput libs input)
  request (.createBillableItem project.instanceId project.id fields.date fields.description
    fields.quantityHundredths fields.unitPriceCents userId)

/-- The up-front check of `update_billable_item`: the item's invoice, if any, is a draft. -/
def requireDraft (invoiceId : Option String) : InvoiceProg Unit :=
  match invoiceId with
  | none => .done ()
  | some invoiceId => do
      let invoice ← .ofOption (← request (.getInvoiceConsistent invoiceId))
        (.conflict "Billable item's invoice is missing — reload and try again")
      .ensure (invoice.status = .draft)
        (.conflict "Billable item is on a finalized invoice and can no longer be edited")

/-- `update_billable_item`. -/
def updateBillableItem (auth : Option AuthInfo) (id : String) (input : BillableItemInput) :
    InvoiceProg BillableItem := do
  let item ← requireBillableItemMember auth id
  requireDraft item.invoiceId
  let fields ← validated (validateBillableItemInput libs input)
  let written ← request (.updateBillableItem item.id item.invoiceId fields.date fields.description
    fields.quantityHundredths fields.unitPriceCents)
  .ensure (written = true) (.conflict "Billable item changed concurrently — reload and try again")
  return { item with
    date := fields.date
    description := fields.description
    quantityHundredths := fields.quantityHundredths
    unitPriceCents := fields.unitPriceCents }

/-- `delete_billable_item`. -/
def deleteBillableItem (auth : Option AuthInfo) (id : String) : InvoiceProg String := do
  let item ← requireBillableItemMember auth id
  .ensure (item.invoiceId = none) (.conflict "Billable item is already on an invoice")
  let deleted ← request (.deleteBillableItem item.id)
  .ensure (deleted = true)
    (.conflict "Billable item changed (deleted or put on an invoice) — reload and try again")
  return item.id

/-! ### Invoices -/

def changedConcurrently : Error :=
  .conflict "Invoice changed concurrently — reload and try again"

/-- `get_instances(&[id])`, or `NOT_FOUND`. -/
def requireInstance (id : String) : InvoiceProg Instance := do
  .ofOption (← request (.getInstance id)) (.notFound "Instance" id)

/-- `create_invoice`. -/
def createInvoice (auth : Option AuthInfo) (projectId : String) (itemIds : List String) :
    InvoiceProg Invoice := do
  let project ← requireProjectMember auth projectId
  let (userId, _) ← requireUser auth
  let ids ← .ofExcept (validateNewInvoiceItemIds itemIds [])
  let items ← fetchEligibleItems project.id ids
  let inst ← requireInstance project.instanceId
  validated (checkInvoiceTotalWithinSafeInteger items inst.gstRegistered)
  .ofOption (← request (.createInvoice project.instanceId project.id ids userId)) (.conflict
    "One or more items changed (deleted or put on another invoice) — reload and try again")

/-- `add_invoice_items`. -/
def addInvoiceItems (auth : Option AuthInfo) (invoiceId : String) (itemIds : List String) :
    InvoiceProg Invoice := do
  let invoice ← requireInvoiceMember auth invoiceId
  .ensure (invoice.status = .draft) (.conflict "Invoice is finalized and can no longer be edited")
  let newIds ← .ofExcept (validateNewInvoiceItemIds itemIds invoice.itemIds)
  let newItems ← fetchEligibleItems invoice.projectId newIds
  let existing ← getBillableItems invoice.itemIds
  let inst ← requireInstance invoice.instanceId
  validated (checkInvoiceTotalWithinSafeInteger (existing.reduceOption ++ newItems)
    inst.gstRegistered)
  let committed ← request (.addInvoiceItems invoice.id invoice.projectId newIds invoice.version)
  .ensure (committed = true) changedConcurrently
  return { invoice with itemIds := invoice.itemIds ++ newIds, version := invoice.version + 1 }

/-- `remove_invoice_items`. -/
def removeInvoiceItems (auth : Option AuthInfo) (invoiceId : String) (itemIds : List String) :
    InvoiceProg Invoice := do
  let invoice ← requireInvoiceMember auth invoiceId
  .ensure (invoice.status = .draft) (.conflict "Invoice is finalized and can no longer be edited")
  let removeIds ← .ofExcept (validateRemoveInvoiceItemIds itemIds invoice.itemIds)
  let committed ← request (.removeInvoiceItems invoice.id removeIds invoice.version)
  .ensure (committed = true) changedConcurrently
  return { invoice with
    itemIds := invoice.itemIds.filter fun id => !removeIds.contains id
    version := invoice.version + 1 }

/-- `delete_invoice`. -/
def deleteInvoice (auth : Option AuthInfo) (invoiceId : String) : InvoiceProg String := do
  let invoice ← requireInvoiceMember auth invoiceId
  .ensure (invoice.status = .draft) (.conflict "Only a draft invoice can be deleted")
  let committed ← request (.deleteInvoice invoice.id invoice.itemIds invoice.version)
  .ensure (committed = true) changedConcurrently
  return invoice.id

/-- The loop of step 2 of `finalize_invoice`: every item is there and points back. -/
def resolveItems (invoiceId : String) :
    List (String × Option BillableItem) → Except Error (List BillableItem)
  | [] => .ok []
  | (id, none) :: _ =>
      .error (.conflict s!"Billable item {id} is missing — reload and try again")
  | (_, some item) :: rest =>
      if item.invoiceId ≠ some invoiceId then .error changedConcurrently
      else (resolveItems invoiceId rest).map (item :: ·)

/-- `u32::try_from(number).unwrap_or(u32::MAX)`. -/
def numberOfCounter (n : ℕ) : ℕ := min n 4294967295

/-- `instance.business_name.as_deref().map(str::trim).unwrap_or("").is_empty()`. -/
def businessNameMissing (inst : Instance) : Bool := ((inst.businessName.map trim).getD "").isEmpty

/-- Steps 4 to 6 of `finalize_invoice`: allocate the number, build the snapshot, write it. -/
def allocateAndFinalize (invoice : Invoice) (userId issueDate : String) (inst : Instance)
    (project : Project) (items : List BillableItem) : InvoiceProg Invoice := do
  let allocated ← request (.incrementInvoiceCounter invoice.instanceId)
  let number := numberOfCounter allocated
  let snapshot := buildSnapshot inst project items (some number) (some issueDate)
  validated (validateTotalWithinSafeInteger snapshot.totalCents)
  let snapshotJson ← .ofExcept ((libs.toJson snapshot).mapError fun e =>
    .other s!"Failed to serialize invoice snapshot: {e}")
  let committed ← request (.finalizeInvoice invoice.id invoice.version number issueDate
    snapshotJson snapshot.totalCents userId)
  .ensure (committed = true) changedConcurrently
  return { invoice with
    status := .finalized
    version := invoice.version + 1
    number := some number
    issueDate := some issueDate
    snapshot := some snapshotJson
    totalCents := some snapshot.totalCents
    finalizedByUserId := some userId }

/-- `finalize_invoice`. -/
def finalizeInvoice (auth : Option AuthInfo) (invoiceId issueDate : String) :
    InvoiceProg Invoice := do
  let invoice ← requireInvoiceMember auth invoiceId
  let (userId, _) ← requireUser auth
  .ensure (invoice.status = .draft) (.conflict "Invoice is already finalized")
  .ensure (invoice.itemIds ≠ []) (.other "Add at least one item before finalizing")
  let issueDate ← validated (validateItemDate libs.dates libs.debug issueDate)
  let fetched ← getBillableItemsConsistent invoice.itemIds
  let items ← .ofExcept (resolveItems invoice.id (invoice.itemIds.zip fetched))
  let project ← .ofOption (← request (.getProject invoice.projectId))
    (.notFound "Project" invoice.projectId)
  let inst ← requireInstance invoice.instanceId
  .ensure (businessNameMissing inst = false) (.other "Complete the invoicing settings first")
  allocateAndFinalize libs invoice userId issueDate inst project items

/-- The validation of `set_invoice_paid`: a given date, or none to clear it. -/
def validatedPaidDate : Option String → InvoiceProg (Option String)
  | none => .done none
  | some d => do
      let date ← validated (validateItemDate libs.dates libs.debug d)
      return some date

/-- `set_invoice_paid`. -/
def setInvoicePaid (auth : Option AuthInfo) (invoiceId : String) (paidDate : Option String) :
    InvoiceProg Invoice := do
  let invoice ← requireInvoiceMember auth invoiceId
  .ensure (invoice.status = .finalized) (.conflict "Only a finalized invoice can be marked paid")
  let paidDate ← validatedPaidDate libs paidDate
  let committed ← request (.setInvoicePaid invoice.id paidDate)
  .ensure (committed = true) changedConcurrently
  return { invoice with paidDate }

/-- The branch of `download_invoice_pdf` without a cached key: render, store and remember it. -/
def renderAndStorePdf (invoice : Invoice) (filename : String) : InvoiceProg String := do
  let snapshotJson ← .ofOption invoice.snapshot
    (.other s!"Finalized invoice {invoice.id} is missing its snapshot")
  let snapshot ← .ofExcept ((libs.fromJson snapshotJson).mapError fun e =>
    .other s!"Invoice {invoice.id} has a corrupt snapshot: {e}")
  let pdfBytes ← validated (libs.renderInvoicePdf snapshot)
  let key := s!"invoices/{invoice.instanceId}/{invoice.id}/{filename}"
  storage (.putBytes key pdfBytes "application/pdf")
  let _ ← request (.setInvoicePdfKey invoice.id key)
  return key

/-- The key of the PDF: the cached one, or a new one. -/
def pdfKey (invoice : Invoice) (filename : String) : InvoiceProg String :=
  match invoice.pdfS3Key with
  | some key => .done key
  | none => renderAndStorePdf libs invoice filename

/-- `download_invoice_pdf`. -/
def downloadInvoicePdf (auth : Option AuthInfo) (invoiceId : String) : InvoiceProg String := do
  let invoice ← requireInvoiceMember auth invoiceId
  .ensure (invoice.status = .finalized) (.conflict "Only a finalized invoice can be downloaded")
  let displayNumber := (invoice.number.map (zeroPadded 3)).getD "unknown"
  let filename := s!"Invoice-{displayNumber}.pdf"
  let key ← pdfKey libs invoice filename
  storage (.presignGetDownload key filename)

/-- `set_next_invoice_number`, with its guard. -/
def setNextInvoiceNumber (auth : Option AuthInfo) (instanceId : String) (next : Int32) :
    InvoiceProg Instance := do
  .ensure (instanceOwnerOrSuperuser auth instanceId)
    (.api .unauthenticated "Must be an owner of this instance, or a superuser")
  let inst ← requireInstance instanceId
  let actual := libs.debug inst.kind.asStr
  let expected := libs.debug InstanceKind.invoicing.asStr
  .ensure (inst.kind = .invoicing)
    (.other s!"instance {inst.id} has kind {actual}, expected kind {expected}")
  .ensure (1 ≤ next.toInt) (.other "next must be at least 1")
  let committed ← request (.setNextInvoiceNumber inst.id (next.toInt - 1).toNat)
  .ensure (committed = true) (.conflict "The next invoice number can only move forward")
  return inst

/-! ### The system -/

/-- A call of a mutation, or a write of another mutation to the project or instance table. -/
inductive InvoiceMutation where
  | createBillableItem (auth : Option AuthInfo) (projectId : String) (input : BillableItemInput)
  | updateBillableItem (auth : Option AuthInfo) (id : String) (input : BillableItemInput)
  | deleteBillableItem (auth : Option AuthInfo) (id : String)
  | createInvoice (auth : Option AuthInfo) (projectId : String) (itemIds : List String)
  | addInvoiceItems (auth : Option AuthInfo) (invoiceId : String) (itemIds : List String)
  | removeInvoiceItems (auth : Option AuthInfo) (invoiceId : String) (itemIds : List String)
  | deleteInvoice (auth : Option AuthInfo) (invoiceId : String)
  | finalizeInvoice (auth : Option AuthInfo) (invoiceId issueDate : String)
  | setInvoicePaid (auth : Option AuthInfo) (invoiceId : String) (paidDate : Option String)
  | downloadInvoicePdf (auth : Option AuthInfo) (invoiceId : String)
  | setNextInvoiceNumber (auth : Option AuthInfo) (instanceId : String) (next : Int32)
  | putProject (project : Project)
  | putInstance (inst : Instance)

/-- The program of a call. -/
def InvoiceMutation.prog : InvoiceMutation → InvoiceProg Unit
  | .createBillableItem auth projectId input =>
      (Microticket.createBillableItem libs auth projectId input).void
  | .updateBillableItem auth id input => (Microticket.updateBillableItem libs auth id input).void
  | .deleteBillableItem auth id => (Microticket.deleteBillableItem auth id).void
  | .createInvoice auth projectId itemIds => (Microticket.createInvoice auth projectId itemIds).void
  | .addInvoiceItems auth invoiceId itemIds =>
      (Microticket.addInvoiceItems auth invoiceId itemIds).void
  | .removeInvoiceItems auth invoiceId itemIds =>
      (Microticket.removeInvoiceItems auth invoiceId itemIds).void
  | .deleteInvoice auth invoiceId => (Microticket.deleteInvoice auth invoiceId).void
  | .finalizeInvoice auth invoiceId issueDate =>
      (Microticket.finalizeInvoice libs auth invoiceId issueDate).void
  | .setInvoicePaid auth invoiceId paidDate =>
      (Microticket.setInvoicePaid libs auth invoiceId paidDate).void
  | .downloadInvoicePdf auth invoiceId => (Microticket.downloadInvoicePdf libs auth invoiceId).void
  | .setNextInvoiceNumber auth instanceId next =>
      (Microticket.setNextInvoiceNumber libs auth instanceId next).void
  | .putProject project => request (.putProject project)
  | .putInstance inst => request (.putInstance inst)

/-- The programs that take part in a run. -/
def IsInvoiceMutation (p : InvoiceProg Unit) : Prop := ∃ m : InvoiceMutation, p = m.prog libs

/-! ### The requests of the mutations -/

/-- Requests that only read. -/
def InvoiceOp.IsRead : InvoiceOp → Prop
  | .getProject _ | .getInstance _ | .getBillableItem _ | .getBillableItemConsistent _
  | .getInvoiceConsistent _ | .putBytes .. | .presignGetDownload .. => True
  | _ => False

/-- Requests whose effect needs no knowledge of what was read before: all but the writes conditioned
on a version whose arguments matter, and the writes of the counter. -/
def InvoiceOp.Plain : InvoiceOp → Prop
  | .createInvoice _ _ itemIds _ => itemIds.length ≤ maxInvoiceItems
  | .addInvoiceItems .. | .deleteInvoice .. | .finalizeInvoice .. | .incrementInvoiceCounter _
  | .setNextInvoiceNumber .. => False
  | _ => True

theorem InvoiceOp.IsRead.plain {op : InvoiceOp} (h : op.IsRead) : op.Plain := by
  cases op <;> trivial

section
variable {P : InvoiceOp → Prop}

theorem all_request {op : InvoiceOp} (h : P op) : (request op).All P :=
  ⟨h, fun r => by cases r <;> trivial⟩

theorem all_storage {op : InvoiceOp} (h : P op) : (storage op).All P :=
  ⟨h, fun r => by cases r <;> trivial⟩

@[simp] theorem all_validated {α : Type} (r : Except String α) : (validated r).All P :=
  Prog.all_ofExcept _

theorem all_requireUser (auth : Option AuthInfo) : (requireUser auth).All P := by
  unfold requireUser
  split <;> trivial

variable (hP : ∀ op, op.IsRead → P op)
include hP

theorem all_requireProjectMember (auth : Option AuthInfo) (id : String) :
    (requireProjectMember auth id).All P :=
  .bind (all_requireUser auth) fun _ => .bind (all_request (hP _ trivial)) fun _ =>
    .bind (Prog.all_ofOption _ _) fun _ => .bind (Prog.all_ensure _ _) fun _ => trivial

theorem all_requireBillableItemMember (auth : Option AuthInfo) (id : String) :
    (requireBillableItemMember auth id).All P :=
  .bind (all_requireUser auth) fun _ => .bind (all_request (hP _ trivial)) fun _ =>
    .bind (Prog.all_ofOption _ _) fun _ => .bind (Prog.all_ensure _ _) fun _ => trivial

theorem all_requireInvoiceMember (auth : Option AuthInfo) (id : String) :
    (requireInvoiceMember auth id).All P :=
  .bind (all_requireUser auth) fun _ => .bind (all_request (hP _ trivial)) fun _ =>
    .bind (Prog.all_ofOption _ _) fun _ => .bind (Prog.all_ensure _ _) fun _ => trivial

theorem all_requireInstance (id : String) : (requireInstance id).All P :=
  .bind (all_request (hP (.getInstance id) trivial)) fun _ => Prog.all_ofOption _ _

theorem all_getBillableItems (ids : List String) : (getBillableItems ids).All P := by
  refine .forEach (fun id => ?_) ids
  exact all_request (hP (.getBillableItem id) trivial)

theorem all_fetchEligibleItems (projectId : String) (ids : List String) :
    (fetchEligibleItems projectId ids).All P :=
  .bind (all_getBillableItems hP ids) fun _ => Prog.all_ofExcept _

theorem all_requireDraft (invoiceId : Option String) : (requireDraft invoiceId).All P := by
  cases invoiceId with
  | none => trivial
  | some invoiceId =>
      exact .bind (all_request (hP _ trivial)) fun _ => .bind (Prog.all_ofOption _ _) fun _ =>
        Prog.all_ensure _ _

end

/-- The ids that `validate_new_invoice_item_ids` accepts. -/
theorem distinctIds_ok {seen ids out : List String} (h : distinctIds seen ids = .ok out) :
    out = ids ∧ ids.Nodup ∧ ∀ id ∈ ids, id ∉ seen := by
  induction ids generalizing seen out with
  | nil => simp_all [distinctIds]
  | cons id ids ih =>
      simp only [distinctIds] at h
      split at h
      · cases h
      · rename_i hid
        rcases hr : distinctIds (id :: seen) ids with e | rest
        · simp [hr, Except.map] at h
        · obtain ⟨rfl, hn, hs⟩ := ih hr
          obtain rfl : id :: rest = out := by simpa [hr, Except.map] using h
          refine ⟨rfl, List.nodup_cons.mpr ⟨fun hm => (hs id hm) List.mem_cons_self, hn⟩, ?_⟩
          intro x hx
          rcases List.mem_cons.mp hx with rfl | hx
          · simpa using hid
          · exact fun h => hs x hx (List.mem_cons_of_mem _ h)

theorem validateNewInvoiceItemIds_ok {ids existing out : List String}
    (h : validateNewInvoiceItemIds ids existing = .ok out) :
    out = ids ∧ ids.Nodup ∧ (∀ id ∈ ids, id ∉ existing) ∧
      existing.length + ids.length ≤ maxInvoiceItems := by
  unfold validateNewInvoiceItemIds at h
  split at h
  · cases h
  split at h
  · cases h
  rename_i hle
  obtain ⟨ho, hn, hs⟩ := distinctIds_ok h
  exact ⟨ho, hn, hs, by omega⟩

section
variable (auth : Option AuthInfo) (id : String)

theorem createBillableItem_plain (input : BillableItemInput) :
    (createBillableItem libs auth id input).All InvoiceOp.Plain :=
  .bind (all_requireProjectMember (fun _ h => h.plain) auth id) fun _ =>
    .bind (all_requireUser auth) fun _ => .bind (Prog.all_ensure _ _) fun _ =>
      .bind (all_validated _) fun _ => all_request trivial

theorem updateBillableItem_plain (input : BillableItemInput) :
    (updateBillableItem libs auth id input).All InvoiceOp.Plain :=
  .bind (all_requireBillableItemMember (fun _ h => h.plain) auth id) fun _ =>
    .bind (all_requireDraft (fun _ h => h.plain) _) fun _ => .bind (all_validated _) fun _ =>
      .bind (all_request trivial) fun _ => .bind (Prog.all_ensure _ _) fun _ => trivial

theorem deleteBillableItem_plain : (deleteBillableItem auth id).All InvoiceOp.Plain :=
  .bind (all_requireBillableItemMember (fun _ h => h.plain) auth id) fun _ =>
    .bind (Prog.all_ensure _ _) fun _ => .bind (all_request trivial) fun _ =>
      .bind (Prog.all_ensure _ _) fun _ => trivial

theorem createInvoice_plain (itemIds : List String) :
    (createInvoice auth id itemIds).All InvoiceOp.Plain := by
  refine .bind (all_requireProjectMember (fun _ h => h.plain) auth id) fun project =>
    .bind (all_requireUser auth) fun user => Prog.All.ofExcept_bind fun ids hids => ?_
  obtain ⟨rfl, -, -, hlen⟩ := validateNewInvoiceItemIds_ok hids
  exact .bind (all_fetchEligibleItems (fun _ h => h.plain) _ _) fun _ =>
    .bind (all_requireInstance (fun _ h => h.plain) _) fun _ => .bind (all_validated _) fun _ =>
      .bind (all_request (by simpa [InvoiceOp.Plain] using hlen)) fun _ => Prog.all_ofOption _ _

theorem removeInvoiceItems_plain (itemIds : List String) :
    (removeInvoiceItems auth id itemIds).All InvoiceOp.Plain :=
  .bind (all_requireInvoiceMember (fun _ h => h.plain) auth id) fun _ =>
    .bind (Prog.all_ensure _ _) fun _ => .bind (Prog.all_ofExcept _) fun _ =>
      .bind (all_request trivial) fun _ => .bind (Prog.all_ensure _ _) fun _ => trivial

theorem setInvoicePaid_plain (paidDate : Option String) :
    (setInvoicePaid libs auth id paidDate).All InvoiceOp.Plain := by
  refine .bind (all_requireInvoiceMember (fun _ h => h.plain) auth id) fun _ =>
    .bind (Prog.all_ensure _ _) fun _ => .bind ?_ fun _ => .bind (all_request trivial) fun _ =>
      .bind (Prog.all_ensure _ _) fun _ => trivial
  cases paidDate with
  | none => trivial
  | some d => exact .bind (all_validated _) fun _ => trivial

theorem renderAndStorePdf_plain (invoice : Invoice) (filename : String) :
    (renderAndStorePdf libs invoice filename).All InvoiceOp.Plain :=
  .bind (Prog.all_ofOption _ _) fun _ => .bind (Prog.all_ofExcept _) fun _ =>
    .bind (all_validated _) fun _ => .bind (all_storage trivial) fun _ =>
      .bind (all_request trivial) fun _ => trivial

theorem downloadInvoicePdf_plain : (downloadInvoicePdf libs auth id).All InvoiceOp.Plain := by
  refine .bind (all_requireInvoiceMember (fun _ h => h.plain) auth id) fun invoice =>
    .bind (Prog.all_ensure _ _) fun _ => .bind ?_ fun _ => all_storage trivial
  unfold pdfKey
  split
  · trivial
  · exact renderAndStorePdf_plain libs _ _

end

end Microticket

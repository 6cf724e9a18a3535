import Microticket.Rows
import Microticket.Service
import Microticket.Store

/-! # The invoicing tables and their requests

The tables `project`, `instance`, `billable_item`, `invoice` and `counter` as `dynamodb.rs` uses
them.  An `InvoiceOp` is one request: a `GetItem` (or one key of a `BatchGetItem`, whose keys are
read at different instants), one conditional write, or one `TransactWriteItems`.

* `InvoiceDb.change d e op` is what the write `op` does to the tables: `some d'` if its condition
  expressions hold, `none` if one fails.  `wellFormed` are the requests DynamoDB does not reject
  outright (string sets and transactions without duplicates, no empty set in an expression).
* Reads that are not `ConsistentRead` return the row of an earlier version, `Env.lag` commits ago.
* `Env.fault` is an infrastructure failure: the request is lost, or it is committed and only its
  answer is lost, or a transaction is cancelled for a reason other than its conditions.
* `minted` collects the identifiers of all rows ever created; a new one (`nanoid!`) is not among
  them (`invoiceService.Allowed`).
* `putProject` and `putInstance` stand for the mutations that write these two tables; they may
  write any row.  The two storage requests do not touch the tables. -/

namespace Microticket

open Interleaving Tables

/-- The tables. -/
structure InvoiceDb where
  projects : Table String Project
  instances : Table String Instance
  items : Table String BillableItem
  invoices : Table String Invoice
  counters : Table String ℕ

/-- The requests. -/
inductive InvoiceOp where
  | getProject (id : String)
  | getInstance (id : String)
  | getBillableItem (id : String)
  | getBillableItemConsistent (id : String)
  | getInvoiceConsistent (id : String)
  | createBillableItem (instanceId projectId date description : String)
      (quantityHundredths unitPriceCents : ℤ) (createdByUserId : String)
  | updateBillableItem (id : String) (invoiceId : Option String) (date description : String)
      (quantityHundredths unitPriceCents : ℤ)
  | deleteBillableItem (id : String)
  | createInvoice (instanceId projectId : String) (itemIds : List String) (createdByUserId : String)
  | addInvoiceItems (invoiceId projectId : String) (itemIds : List String) (expectedVersion : ℕ)
  | removeInvoiceItems (invoiceId : String) (itemIds : List String) (expectedVersion : ℕ)
  | deleteInvoice (invoiceId : String) (itemIds : List String) (expectedVersion : ℕ)
  | finalizeInvoice (invoiceId : String) (expectedVersion number : ℕ)
      (issueDate snapshotJson : String) (totalCents : ℤ) (finalizedByUserId : String)
  | setInvoicePaid (invoiceId : String) (paidDate : Option String)
  | setInvoicePdfKey (invoiceId key : String)
  | incrementInvoiceCounter (instanceId : String)
  | setNextInvoiceNumber (instanceId : String) (newValue : ℕ)
  | putBytes (key : String) (bytes : List UInt8) (contentType : String)
  | presignGetDownload (key filename : String)
  | putProject (project : Project)
  | putInstance (inst : Instance)
  deriving DecidableEq

/-- What a request returns when it does not fail. -/
@[reducible] def InvoiceOp.Ret : InvoiceOp → Type
  | .getProject _ => Option Project
  | .getInstance _ => Option Instance
  | .getBillableItem _ | .getBillableItemConsistent _ => Option BillableItem
  | .getInvoiceConsistent _ => Option Invoice
  | .createBillableItem .. => BillableItem
  | .createInvoice .. => Option Invoice
  | .incrementInvoiceCounter _ => ℕ
  | .updateBillableItem .. | .deleteBillableItem _ | .addInvoiceItems .. | .removeInvoiceItems ..
  | .deleteInvoice .. | .finalizeInvoice .. | .setInvoicePaid .. | .setInvoicePdfKey ..
  | .setNextInvoiceNumber .. => Bool
  | .putBytes .. | .putProject _ | .putInstance _ => Unit
  | .presignGetDownload .. => String

/-- The answer to a request. -/
abbrev InvoiceOp.Res (op : InvoiceOp) : Type := Except DbError op.Ret

/-- What the tables do not decide themselves. -/
structure InvoiceEnv where
  now : ℕ
  newId : String
  lag : ℕ
  fault : Fault

/-- The state: the committed versions of the tables, and the identifiers ever created. -/
structure InvoiceStore where
  db : Replica InvoiceDb
  minted : List String

/-! ### Conditional writes -/

namespace InvoiceDb

variable (d : InvoiceDb)

/-- `attribute_exists(id) AND attribute_not_exists(invoice_id) AND project_id = :project_id` -/
def attachable (projectId id : String) : Bool :=
  (d.items.lookup id).any fun item => item.invoiceId.isNone && item.projectId == projectId

/-- `attribute_exists(id) AND invoice_id = :invoice_id` -/
def attachedTo (invoiceId id : String) : Bool :=
  (d.items.lookup id).any fun item => item.invoiceId == some invoiceId

/-- `#status = :draft AND #v = :expected_version` -/
def draftAt (invoiceId : String) (expectedVersion : ℕ) : Option Invoice :=
  (d.invoices.lookup invoiceId).filter fun invoice =>
    invoice.status = .draft ∧ invoice.version = expectedVersion

/-- `SET invoice_id = :invoice_id` on the items `ids`. -/
def attach (invoiceId : String) (ids : List String) : Table String BillableItem :=
  d.items.modifyAll (fun item => { item with invoiceId := some invoiceId }) ids

/-- `REMOVE invoice_id` on the items `ids`. -/
def detach (ids : List String) : Table String BillableItem :=
  d.items.modifyAll (fun item => { item with invoiceId := none }) ids

/-- The row `create_billable_item` puts. -/
def newItem (e : InvoiceEnv) (instanceId projectId date description : String)
    (quantityHundredths unitPriceCents : ℤ) (createdByUserId : String) : BillableItem :=
  { id := e.newId, instanceId, projectId, date, description, quantityHundredths, unitPriceCents,
    invoiceId := none, createdByUserId, createdAt := e.now, updatedAt := e.now }

/-- The row `create_invoice` puts. -/
def newInvoice (e : InvoiceEnv) (instanceId projectId : String) (itemIds : List String)
    (createdByUserId : String) : Invoice :=
  { id := e.newId, instanceId, projectId, status := .draft, version := 1, itemIds,
    createdByUserId, createdAt := e.now, updatedAt := e.now, number := none, issueDate := none,
    snapshot := none, totalCents := none, finalizedAt := none, finalizedByUserId := none,
    paidDate := none, pdfS3Key := none }

/-- The value of `next_invoice_number`, an absent attribute counting as zero. -/
def counter (instanceId : String) : ℕ := (d.counters.lookup instanceId).getD 0

/-- `create_billable_item`. -/
def createBillableItem (item : BillableItem) : Option InvoiceDb :=
  if (d.items.lookup item.id).isNone then some { d with items := d.items.insert item.id item }
  else none

/-- `update_billable_item`: of an unbilled item, or of an item on a draft, whose version it bumps in
the same transaction. -/
def updateBillableItem (now : ℕ) (id : String) (invoiceId : Option String)
    (date description : String) (quantityHundredths unitPriceCents : ℤ) : Option InvoiceDb := do
  let item ← d.items.lookup id
  let updated := { item with date, description, quantityHundredths, unitPriceCents,
                             updatedAt := now }
  guard (item.invoiceId = invoiceId)
  match invoiceId with
  | none => return { d with items := d.items.insert id updated }
  | some invoiceId =>
      let invoice ← d.invoices.lookup invoiceId
      guard (invoice.status = .draft)
      return { d with
        items := d.items.insert id updated
        invoices := d.invoices.insert invoiceId
          { invoice with updatedAt := now, version := invoice.version + 1 } }

/-- `delete_billable_item`. -/
def deleteBillableItem (id : String) : Option InvoiceDb := do
  let item ← d.items.lookup id
  guard (item.invoiceId = none)
  return { d with items := d.items.erase id }

/-- `create_invoice`. -/
def createInvoice (invoice : Invoice) : Option InvoiceDb :=
  if (d.invoices.lookup invoice.id).isNone && invoice.itemIds.all (d.attachable invoice.projectId)
  then some { d with
    invoices := d.invoices.insert invoice.id invoice
    items := d.attach invoice.id invoice.itemIds }
  else none

/-- `add_invoice_items`. -/
def addInvoiceItems (now : ℕ) (invoiceId projectId : String) (itemIds : List String)
    (expectedVersion : ℕ) : Option InvoiceDb := do
  let invoice ← d.draftAt invoiceId expectedVersion
  guard (itemIds.all (d.attachable projectId))
  return { d with
    invoices := d.invoices.insert invoiceId { invoice with
      updatedAt := now
      itemIds := invoice.itemIds ++ itemIds.filter fun id => !invoice.itemIds.contains id
      version := invoice.version + 1 }
    items := d.attach invoiceId itemIds }

/-- `remove_invoice_items`. -/
def removeInvoiceItems (now : ℕ) (invoiceId : String) (itemIds : List String)
    (expectedVersion : ℕ) : Option InvoiceDb := do
  let invoice ← d.draftAt invoiceId expectedVersion
  guard (itemIds.all (d.attachedTo invoiceId))
  return { d with
    invoices := d.invoices.insert invoiceId { invoice with
      updatedAt := now
      itemIds := invoice.itemIds.filter fun id => !itemIds.contains id
      version := invoice.version + 1 }
    items := d.detach itemIds }

/-- `delete_invoice`. -/
def deleteInvoice (invoiceId : String) (itemIds : List String) (expectedVersion : ℕ) :
    Option InvoiceDb := do
  let _ ← d.draftAt invoiceId expectedVersion
  guard (itemIds.all (d.attachedTo invoiceId))
  return { d with invoices := d.invoices.erase invoiceId, items := d.detach itemIds }

/-- `finalize_invoice`. -/
def finalizeInvoice (now : ℕ) (invoiceId : String) (expectedVersion number : ℕ)
    (issueDate snapshotJson : String) (totalCents : ℤ) (finalizedByUserId : String) :
    Option InvoiceDb := do
  let invoice ← d.draftAt invoiceId expectedVersion
  return { d with
    invoices := d.invoices.insert invoiceId { invoice with
      status := .finalized
      number := some number
      issueDate := some issueDate
      snapshot := some snapshotJson
      totalCents := some totalCents
      finalizedAt := some now
      finalizedByUserId := some finalizedByUserId
      updatedAt := now
      version := invoice.version + 1 } }

/-- `attribute_exists(id) AND #status = :finalized`, then the given update. -/
def updateFinalized (invoiceId : String) (update : Invoice → Invoice) : Option InvoiceDb := do
  let invoice ← d.invoices.lookup invoiceId
  guard (invoice.status = .finalized)
  return { d with invoices := d.invoices.insert invoiceId (update invoice) }

/-- `set_invoice_paid`. -/
def setInvoicePaid (now : ℕ) (invoiceId : String) (paidDate : Option String) : Option InvoiceDb :=
  d.updateFinalized invoiceId fun invoice => { invoice with paidDate, updatedAt := now }

/-- `set_invoice_pdf_key`. -/
def setInvoicePdfKey (invoiceId key : String) : Option InvoiceDb :=
  d.updateFinalized invoiceId fun invoice => { invoice with pdfS3Key := some key }

/-- `increment_invoice_counter`. -/
def incrementInvoiceCounter (instanceId : String) : InvoiceDb :=
  { d with counters := d.counters.insert instanceId (d.counter instanceId + 1) }

/-- `set_next_invoice_number`: only forward. -/
def setNextInvoiceNumber (instanceId : String) (newValue : ℕ) : Option InvoiceDb :=
  if (d.counters.lookup instanceId).all (· ≤ newValue) then
    some { d with counters := d.counters.insert instanceId newValue }
  else none

/-- What a write does to the tables; `none` if its condition fails or if it writes nothing. -/
def change (e : InvoiceEnv) : InvoiceOp → Option InvoiceDb
  | .createBillableItem instanceId projectId date description quantity price userId =>
      d.createBillableItem
        (newItem e instanceId projectId date description quantity price userId)
  | .updateBillableItem id invoiceId date description quantity price =>
      d.updateBillableItem e.now id invoiceId date description quantity price
  | .deleteBillableItem id => d.deleteBillableItem id
  | .createInvoice instanceId projectId itemIds userId =>
      d.createInvoice (newInvoice e instanceId projectId itemIds userId)
  | .addInvoiceItems invoiceId projectId itemIds version =>
      d.addInvoiceItems e.now invoiceId projectId itemIds version
  | .removeInvoiceItems invoiceId itemIds version =>
      d.removeInvoiceItems e.now invoiceId itemIds version
  | .deleteInvoice invoiceId itemIds version => d.deleteInvoice invoiceId itemIds version
  | .finalizeInvoice invoiceId version number issueDate snapshotJson totalCents userId =>
      d.finalizeInvoice e.now invoiceId version number issueDate snapshotJson totalCents userId
  | .setInvoicePaid invoiceId paidDate => d.setInvoicePaid e.now invoiceId paidDate
  | .setInvoicePdfKey invoiceId key => d.setInvoicePdfKey invoiceId key
  | .incrementInvoiceCounter instanceId => some (d.incrementInvoiceCounter instanceId)
  | .setNextInvoiceNumber instanceId newValue => d.setNextInvoiceNumber instanceId newValue
  | .putProject project => some { d with projects := d.projects.insert project.id project }
  | .putInstance inst => some { d with instances := d.instances.insert inst.id inst }
  | _ => none

end InvoiceDb

/-! ### The service -/

/-- Requests that DynamoDB validates before it looks at the tables. -/
def InvoiceOp.wellFormed : InvoiceOp → Bool
  | .createInvoice _ _ itemIds _ | .deleteInvoice _ itemIds _ => itemIds.Nodup
  | .addInvoiceItems _ _ itemIds _ | .removeInvoiceItems _ itemIds _ =>
      !itemIds.isEmpty && itemIds.Nodup
  | _ => true

/-- Writes that are sent as a `TransactWriteItems`. -/
def InvoiceOp.transactional : InvoiceOp → Bool
  | .updateBillableItem _ invoiceId .. => invoiceId.isSome
  | .createInvoice .. | .addInvoiceItems .. | .removeInvoiceItems .. | .deleteInvoice .. => true
  | _ => false

namespace InvoiceStore

variable (s : InvoiceStore) (e : InvoiceEnv)

/-- A read. -/
def read {α : Type} (row : α) : Except DbError α × InvoiceStore :=
  (if e.fault = .none then .ok row else .error connectionLost, s)

/-- A write that answers `committed` or `refused`. -/
def write {α : Type} (readOnly : Bool) (op : InvoiceOp) (committed : α)
    (refused : Except DbError α) : Except DbError α × InvoiceStore :=
  if readOnly then (.error .mutationDisabled, s)
  else if e.fault = .lost then (.error connectionLost, s)
  else if e.fault = .cancelled then
    (if op.transactional then refused else .error connectionLost, s)
  else if !op.wellFormed then (.error (.infrastructure "ValidationException"), s)
  else match s.db.now.change e op with
    | none => (refused, s)
    | some d =>
        (if e.fault = .none then .ok committed else .error connectionLost,
          { db := s.db.write d, minted := e.newId :: s.minted })

/-- Serve one request. -/
def serve (readOnly : Bool) : (op : InvoiceOp) → op.Res × InvoiceStore
  | .getProject id => s.read e ((s.db.seen e.lag).projects.lookup id)
  | .getInstance id => s.read e ((s.db.seen e.lag).instances.lookup id)
  | .getBillableItem id => s.read e ((s.db.seen e.lag).items.lookup id)
  | .getBillableItemConsistent id => s.read e (s.db.now.items.lookup id)
  | .getInvoiceConsistent id => s.read e (s.db.now.invoices.lookup id)
  | .createBillableItem instanceId projectId date description quantity price userId =>
      s.write e readOnly
        (.createBillableItem instanceId projectId date description quantity price userId)
        (InvoiceDb.newItem e instanceId projectId date description quantity price userId)
        (.error (.infrastructure "ConditionalCheckFailedException"))
  | .createInvoice instanceId projectId itemIds userId =>
      s.write e readOnly (.createInvoice instanceId projectId itemIds userId)
        (some (InvoiceDb.newInvoice e instanceId projectId itemIds userId)) (.ok none)
  | .incrementInvoiceCounter instanceId =>
      s.write e readOnly (.incrementInvoiceCounter instanceId)
        (s.db.now.counter instanceId + 1) (.error connectionLost)
  | .updateBillableItem id invoiceId date description quantity price =>
      s.write e readOnly (.updateBillableItem id invoiceId date description quantity price)
        true (.ok false)
  | .deleteBillableItem id => s.write e readOnly (.deleteBillableItem id) true (.ok false)
  | .addInvoiceItems invoiceId projectId itemIds version =>
      s.write e readOnly (.addInvoiceItems invoiceId projectId itemIds version) true (.ok false)
  | .removeInvoiceItems invoiceId itemIds version =>
      s.write e readOnly (.removeInvoiceItems invoiceId itemIds version) true (.ok false)
  | .deleteInvoice invoiceId itemIds version =>
      s.write e readOnly (.deleteInvoice invoiceId itemIds version) true (.ok false)
  | .finalizeInvoice invoiceId version number issueDate snapshotJson totalCents userId =>
      s.write e readOnly
        (.finalizeInvoice invoiceId version number issueDate snapshotJson totalCents userId)
        true (.ok false)
  | .setInvoicePaid invoiceId paidDate =>
      s.write e readOnly (.setInvoicePaid invoiceId paidDate) true (.ok false)
  | .setInvoicePdfKey invoiceId key =>
      s.write e readOnly (.setInvoicePdfKey invoiceId key) true (.ok false)
  | .setNextInvoiceNumber instanceId newValue =>
      s.write e readOnly (.setNextInvoiceNumber instanceId newValue) true (.ok false)
  | .putProject project => s.write e readOnly (.putProject project) () (.error connectionLost)
  | .putInstance inst => s.write e readOnly (.putInstance inst) () (.error connectionLost)
  | .putBytes .. => s.read e ()
  | .presignGetDownload key _ => s.read e key

end InvoiceStore

/-- The invoicing tables as a service; `readOnly` is the server's `--enable-mutations` switch. -/
@[reducible] def invoiceService (readOnly : Bool) : Service InvoiceOp InvoiceOp.Res where
  State := InvoiceStore
  Env := InvoiceEnv
  Allowed s e := e.newId ∉ s.minted
  serve s e op := s.serve e readOnly op

instance (readOnly : Bool) (s : (invoiceService readOnly).State)
    (e : (invoiceService readOnly).Env) : Decidable ((invoiceService readOnly).Allowed s e) :=
  inferInstanceAs (Decidable (e.newId ∉ InvoiceStore.minted s))

/-! ### What a request does to the state -/

section
variable {readOnly : Bool} {s : InvoiceStore} {e : InvoiceEnv} {op : InvoiceOp}

theorem InvoiceStore.write_state {α : Type} (committed : α) (refused : Except DbError α) :
    (s.write e readOnly op committed refused).2 = s ∨
      op.wellFormed ∧ ∃ d, s.db.now.change e op = some d ∧
        (s.write e readOnly op committed refused).2 =
          { db := s.db.write d, minted := e.newId :: s.minted } := by
  unfold InvoiceStore.write
  split
  · exact .inl rfl
  split
  · exact .inl rfl
  split
  · exact .inl rfl
  split
  · exact .inl rfl
  rename_i hw
  split
  · exact .inl rfl
  · rename_i d hd
    exact .inr ⟨by simpa using hw, d, hd, rfl⟩

/-- A request leaves the state as it is or commits its `change`. -/
theorem InvoiceStore.serve_state (readOnly : Bool) (s : InvoiceStore) (e : InvoiceEnv)
    (op : InvoiceOp) : (s.serve e readOnly op).2 = s ∨
      op.wellFormed ∧ ∃ d, s.db.now.change e op = some d ∧
        (s.serve e readOnly op).2 = { db := s.db.write d, minted := e.newId :: s.minted } := by
  cases op <;> first | exact .inl rfl | exact InvoiceStore.write_state _ _

/-- A write that returns its `committed` answer was committed. -/
theorem InvoiceStore.write_ok {α : Type} {committed a : α} {refused : Except DbError α}
    (h : (s.write e readOnly op committed refused).1 = .ok a) (hr : refused ≠ .ok a) :
    a = committed ∧ op.wellFormed ∧ ∃ d, s.db.now.change e op = some d ∧
      (s.write e readOnly op committed refused).2 =
        { db := s.db.write d, minted := e.newId :: s.minted } := by
  unfold InvoiceStore.write at h ⊢
  split at h
  · cases h
  split at h
  · cases h
  split at h
  · split at h
    · exact absurd h hr
    · cases h
  split at h
  · cases h
  rename_i hro hl hc hw
  split at h
  · exact absurd h hr
  · rename_i d hd
    split at h
    · rw [if_neg hro, if_neg hl, if_neg hc, if_neg hw, hd]
      simp only [Except.ok.injEq] at h
      exact ⟨h.symm, by simpa using hw, d, rfl, rfl⟩
    · cases h

theorem InvoiceStore.read_ok {α : Type} {row a : α} (h : (s.read e row).1 = .ok a) : row = a := by
  unfold InvoiceStore.read at h
  split at h
  · simpa using h
  · cases h

end

end Microticket

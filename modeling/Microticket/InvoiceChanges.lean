import Microticket.InvoiceLedger

/-! # What a write of invoicing does to the rows

`ItemsMove` and `InvoicesMove` say once, table by table, what each write can do to the items and to the
invoices, with what its conditions have ensured. -/

namespace Microticket

open Tables

/-- The invoice that a request writes under its id. -/
def InvoiceOp.onInvoice : InvoiceOp → Option String
  | .addInvoiceItems id .. | .removeInvoiceItems id .. | .deleteInvoice id .. | .finalizeInvoice id ..
  | .setInvoicePaid id _ | .setInvoicePdfKey id _ => some id
  | _ => none

/-- The invoice that a request takes items off. -/
def InvoiceOp.detaches : InvoiceOp → Option String
  | .removeInvoiceItems id .. | .deleteInvoice id .. => some id
  | _ => none

namespace InvoiceDb

/-- What a write does to the items. -/
inductive ItemsMove (e : InvoiceEnv) (d d' : InvoiceDb) : InvoiceOp → Prop
  | same {op} (h : d'.items = d.items) : ItemsMove e d d' op
  | create {instanceId projectId date description userId : String} {quantity price : ℤ}
      (h : d'.items = d.items.insert e.newId
        (newItem e instanceId projectId date description quantity price userId)) :
      ItemsMove e d d'
        (.createBillableItem instanceId projectId date description quantity price userId)
  | edit {id date description : String} {invoiceId : Option String} {quantity price : ℤ}
      {item : BillableItem} (hitem : d.items.lookup id = some item)
      (hon : item.invoiceId = invoiceId)
      (h : d'.items = d.items.insert id { item with
        date, description, quantityHundredths := quantity, unitPriceCents := price,
        updatedAt := e.now }) :
      ItemsMove e d d' (.updateBillableItem id invoiceId date description quantity price)
  | erase {id : String} {item : BillableItem} (hitem : d.items.lookup id = some item)
      (hfree : item.invoiceId = none) (h : d'.items = d.items.erase id) :
      ItemsMove e d d' (.deleteBillableItem id)
  | attachNew {instanceId projectId userId : String} {ids : List String}
      (hall : ids.all (d.attachable projectId)) (h : d'.items = d.attach e.newId ids) :
      ItemsMove e d d' (.createInvoice instanceId projectId ids userId)
  | attach {invoiceId projectId : String} {ids : List String} {version : ℕ}
      (hall : ids.all (d.attachable projectId)) (h : d'.items = d.attach invoiceId ids) :
      ItemsMove e d d' (.addInvoiceItems invoiceId projectId ids version)
  | detach {op} {invoiceId : String} {ids : List String} (hop : op.detaches = some invoiceId)
      (hall : ids.all (d.attachedTo invoiceId)) (h : d'.items = d.detach ids) :
      ItemsMove e d d' op

/-- What a write does to the invoices. -/
inductive InvoicesMove (e : InvoiceEnv) (d d' : InvoiceDb) : InvoiceOp → Prop
  | same {op} (h : d'.invoices = d.invoices) : InvoicesMove e d d' op
  | create {instanceId projectId userId : String} {ids : List String}
      (hall : ids.all (d.attachable projectId))
      (h : d'.invoices = d.invoices.insert e.newId (newInvoice e instanceId projectId ids userId)) :
      InvoicesMove e d d' (.createInvoice instanceId projectId ids userId)
  | add {invoiceId projectId : String} {ids : List String} {version : ℕ} {invoice : Invoice}
      (hinvoice : d.invoices.lookup invoiceId = some invoice)
      (hall : ids.all (d.attachable projectId))
      (h : d'.invoices = d.invoices.insert invoiceId { invoice with
        updatedAt := e.now
        itemIds := invoice.itemIds ++ ids.filter fun id => !invoice.itemIds.contains id
        version := invoice.version + 1 }) :
      InvoicesMove e d d' (.addInvoiceItems invoiceId projectId ids version)
  | bump {id date description invoiceId : String} {quantity price : ℤ} {item : BillableItem}
      {invoice : Invoice} (hitem : d.items.lookup id = some item)
      (hon : item.invoiceId = some invoiceId)
      (hinvoice : d.invoices.lookup invoiceId = some invoice)
      (h : d'.invoices = d.invoices.insert invoiceId
        { invoice with updatedAt := e.now, version := invoice.version + 1 }) :
      InvoicesMove e d d' (.updateBillableItem id (some invoiceId) date description quantity price)
  | change {op} {id : String} {invoice invoice' : Invoice} (hop : op.onInvoice = some id)
      (hinvoice : d.invoices.lookup id = some invoice)
      (h : d'.invoices = d.invoices.insert id invoice')
      (hid : invoice'.id = invoice.id) (hproject : invoice'.projectId = invoice.projectId)
      (hinstance : invoice'.instanceId = invoice.instanceId)
      (hitems : invoice'.itemIds ⊆ invoice.itemIds) : InvoicesMove e d d' op
  | erase {id : String} {ids : List String} {version : ℕ} (h : d'.invoices = d.invoices.erase id) :
      InvoicesMove e d d' (.deleteInvoice id ids version)

section
variable {d d' : InvoiceDb} {e : InvoiceEnv} {op : InvoiceOp}

/-- An item that may be put on an invoice. -/
theorem attachable_item {projectId id : String} {ids : List String}
    (hall : ids.all (d.attachable projectId)) (hid : id ∈ ids) :
    ∃ item, d.items.lookup id = some item ∧ item.invoiceId = none ∧ item.projectId = projectId := by
  have hone := List.all_eq_true.mp hall id hid
  simp only [InvoiceDb.attachable, Option.any_eq_true, Bool.and_eq_true,
    Option.isNone_iff_eq_none, beq_iff_eq] at hone
  exact hone

/-- An item that may be taken off an invoice. -/
theorem attachedTo_item {invoiceId id : String} {ids : List String}
    (hall : ids.all (d.attachedTo invoiceId)) (hid : id ∈ ids) :
    ∃ item, d.items.lookup id = some item ∧ item.invoiceId = some invoiceId := by
  have hone := List.all_eq_true.mp hall id hid
  simp only [InvoiceDb.attachedTo, Option.any_eq_true, beq_iff_eq] at hone
  exact hone

/-- The moves of one write. -/
abbrev RowMoves (e : InvoiceEnv) (d d' : InvoiceDb) (op : InvoiceOp) : Prop :=
  ItemsMove e d d' op ∧ InvoicesMove e d d' op

theorem updateBillableItem_moves {id date description : String} {invoiceId : Option String}
    {quantity price : ℤ}
    (h : d.updateBillableItem e.now id invoiceId date description quantity price = some d') :
    RowMoves e d d' (.updateBillableItem id invoiceId date description quantity price) := by
  simp only [InvoiceDb.updateBillableItem, Option.bind_eq_bind, Option.bind_eq_some_iff] at h
  obtain ⟨item, hitem, _, hg, h⟩ := h
  have hon : item.invoiceId = invoiceId := guard_eq_some_iff.mp hg
  cases invoiceId with
  | none =>
      obtain rfl := Option.some.inj h
      exact ⟨.edit hitem hon rfl, .same rfl⟩
  | some invoiceId =>
      simp only [Option.bind_eq_some_iff] at h
      obtain ⟨invoice, hinvoice, _, -, h⟩ := h
      obtain rfl := Option.some.inj h
      exact ⟨.edit hitem hon rfl, .bump hitem hon hinvoice rfl⟩

theorem updateFinalized_moves {id : String} {update : Invoice → Invoice}
    (h : d.updateFinalized id update = some d') (hop : op.onInvoice = some id)
    (hid : ∀ invoice, (update invoice).id = invoice.id)
    (hproject : ∀ invoice, (update invoice).projectId = invoice.projectId)
    (hinstance : ∀ invoice, (update invoice).instanceId = invoice.instanceId)
    (hitems : ∀ invoice, (update invoice).itemIds = invoice.itemIds) : RowMoves e d d' op := by
  simp only [InvoiceDb.updateFinalized, Option.bind_eq_bind, Option.bind_eq_some_iff] at h
  obtain ⟨invoice, hinvoice, _, -, h⟩ := h
  obtain rfl := Option.some.inj h
  refine ⟨.same rfl, .change hop hinvoice rfl (hid _) (hproject _) (hinstance _) ?_⟩
  rw [hitems]
  exact List.Subset.refl _

/-- What a write does to the rows. -/
theorem row_moves (h : d.change e op = some d') : RowMoves e d d' op := by
  cases op with
  | createBillableItem =>
      simp only [InvoiceDb.change, InvoiceDb.createBillableItem, Option.ite_none_right_eq_some,
        Option.some.injEq] at h
      obtain ⟨-, rfl⟩ := h
      exact ⟨.create rfl, .same rfl⟩
  | updateBillableItem => exact updateBillableItem_moves h
  | deleteBillableItem id =>
      simp only [InvoiceDb.change, InvoiceDb.deleteBillableItem, Option.bind_eq_bind,
        Option.bind_eq_some_iff] at h
      obtain ⟨item, hitem, _, hg, h⟩ := h
      obtain rfl := Option.some.inj h
      exact ⟨.erase hitem (guard_eq_some_iff.mp hg) rfl, .same rfl⟩
  | createInvoice =>
      simp only [InvoiceDb.change, InvoiceDb.createInvoice, Bool.and_eq_true,
        Option.ite_none_right_eq_some, Option.some.injEq] at h
      obtain ⟨⟨-, hall⟩, rfl⟩ := h
      exact ⟨.attachNew hall rfl, .create hall rfl⟩
  | addInvoiceItems =>
      simp only [InvoiceDb.change, InvoiceDb.addInvoiceItems, Option.bind_eq_bind,
        Option.bind_eq_some_iff] at h
      obtain ⟨invoice, hat, _, hg, h⟩ := h
      have hall := guard_eq_some_iff.mp hg
      obtain rfl := Option.some.inj h
      exact ⟨.attach hall rfl, .add (draftAt_eq_some.mp hat).1 hall rfl⟩
  | removeInvoiceItems =>
      simp only [InvoiceDb.change, InvoiceDb.removeInvoiceItems, Option.bind_eq_bind,
        Option.bind_eq_some_iff] at h
      obtain ⟨invoice, hat, _, hg, h⟩ := h
      obtain rfl := Option.some.inj h
      exact ⟨.detach rfl (guard_eq_some_iff.mp hg) rfl,
        .change rfl (draftAt_eq_some.mp hat).1 rfl rfl rfl rfl List.filter_sublist.subset⟩
  | deleteInvoice =>
      simp only [InvoiceDb.change, InvoiceDb.deleteInvoice, Option.bind_eq_bind,
        Option.bind_eq_some_iff] at h
      obtain ⟨invoice, -, _, hg, h⟩ := h
      obtain rfl := Option.some.inj h
      exact ⟨.detach rfl (guard_eq_some_iff.mp hg) rfl, .erase rfl⟩
  | finalizeInvoice =>
      simp only [InvoiceDb.change, InvoiceDb.finalizeInvoice, Option.bind_eq_bind,
        Option.bind_eq_some_iff] at h
      obtain ⟨invoice, hat, h⟩ := h
      obtain rfl := Option.some.inj h
      exact ⟨.same rfl,
        .change rfl (draftAt_eq_some.mp hat).1 rfl rfl rfl rfl (List.Subset.refl _)⟩
  | setInvoicePaid =>
      exact updateFinalized_moves h rfl (fun _ => rfl) (fun _ => rfl) (fun _ => rfl) fun _ => rfl
  | setInvoicePdfKey =>
      exact updateFinalized_moves h rfl (fun _ => rfl) (fun _ => rfl) (fun _ => rfl) fun _ => rfl
  | setNextInvoiceNumber =>
      simp only [InvoiceDb.change, InvoiceDb.setNextInvoiceNumber, Option.ite_none_right_eq_some,
        Option.some.injEq] at h
      obtain ⟨-, rfl⟩ := h
      exact ⟨.same rfl, .same rfl⟩
  | incrementInvoiceCounter | putProject | putInstance =>
      obtain rfl := Option.some.inj h
      exact ⟨.same rfl, .same rfl⟩
  | _ => cases h

end

end InvoiceDb

end Microticket

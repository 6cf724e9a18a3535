import Microticket.InvoiceMutations
import Microticket.Ledger

/-! # The invoicing tables as a ledger

A billable item is a ledger item of its project, owned by the invoice it is on; an invoice is a
container of its project, closed once it is finalized.  What `setInvoicePaid` and
`downloadInvoicePdf` may still write on a finalized invoice (`paid_date`, `pdf_s3_key`,
`updated_at`) is not part of the container (`Invoice.frozen`).

`change_step` is the simulation: a request that DynamoDB accepts, sent under the guard
`InvoiceOp.Guarded`, makes one ledger step or none (`Moves`). -/

namespace Microticket

open Interleaving Tables

/-- The part of an invoice that finalization freezes. -/
def Invoice.frozen (invoice : Invoice) : Invoice :=
  { invoice with updatedAt := 0, paidDate := none, pdfS3Key := none }

theorem Invoice.instanceId_of_frozen {a b : Invoice} (h : a.frozen = b.frozen) :
    a.instanceId = b.instanceId := by
  have h' := congrArg Invoice.instanceId h
  exact h'

theorem Invoice.number_of_frozen {a b : Invoice} (h : a.frozen = b.frozen) :
    a.number = b.number := by
  have h' := congrArg Invoice.number h
  exact h'

/-- The ledger item of a billable item. -/
def BillableItem.entry (item : BillableItem) : Ledger.Item String String BillableItem :=
  ⟨item.projectId, item.invoiceId, { item with invoiceId := none }⟩

/-- The container of an invoice. -/
def Invoice.box (invoice : Invoice) : Ledger.Box String String Invoice :=
  ⟨invoice.projectId, invoice.itemIds, invoice.version, decide (invoice.status = .finalized),
    invoice.frozen⟩

/-- The ledger of the tables. -/
def InvoiceDb.ledger (d : InvoiceDb) : Ledger String String String BillableItem Invoice :=
  ⟨fun id => (d.items.lookup id).map BillableItem.entry,
    fun id => (d.invoices.lookup id).map Invoice.box⟩

theorem BillableItem.entry_injective : Function.Injective BillableItem.entry := by
  intro a b h
  cases a
  cases b
  simp_all [BillableItem.entry]

section
variable {item : BillableItem} {invoice : Invoice}

@[simp] theorem BillableItem.entry_group : item.entry.group = item.projectId := rfl
@[simp] theorem BillableItem.entry_owner : item.entry.owner = item.invoiceId := rfl
@[simp] theorem Invoice.box_group : invoice.box.group = invoice.projectId := rfl
@[simp] theorem Invoice.box_members : invoice.box.members = invoice.itemIds := rfl
@[simp] theorem Invoice.box_version : invoice.box.version = invoice.version := rfl
@[simp] theorem Invoice.box_data : invoice.box.data = invoice.frozen := rfl

theorem Invoice.box_closed : invoice.box.closed = true ↔ invoice.status = .finalized := by
  simp [Invoice.box]

theorem Invoice.box_open : invoice.box.closed = false ↔ invoice.status = .draft := by
  cases h : invoice.status <;> simp [Invoice.box, h]

end

section
variable {d : InvoiceDb} {id : String}

theorem InvoiceDb.ledger_items_some {entry : Ledger.Item String String BillableItem} :
    d.ledger.items id = some entry ↔ ∃ item, d.items.lookup id = some item ∧ item.entry = entry := by
  simp [InvoiceDb.ledger]

theorem InvoiceDb.ledger_boxes_some {box : Ledger.Box String String Invoice} :
    d.ledger.boxes id = some box ↔
      ∃ invoice, d.invoices.lookup id = some invoice ∧ invoice.box = box := by
  simp [InvoiceDb.ledger]

theorem InvoiceDb.ledger_items_of {item : BillableItem} (h : d.items.lookup id = some item) :
    d.ledger.items id = some item.entry := ledger_items_some.mpr ⟨item, h, rfl⟩

theorem InvoiceDb.ledger_boxes_of {invoice : Invoice} (h : d.invoices.lookup id = some invoice) :
    d.ledger.boxes id = some invoice.box := ledger_boxes_some.mpr ⟨invoice, h, rfl⟩

end

/-! ### How the table writes look in the ledger -/

section
variable (d : InvoiceDb) (id : String)

theorem ledger_insertItem (item : BillableItem) :
    (fun k => ((d.items.insert id item).lookup k).map BillableItem.entry) =
      Function.update d.ledger.items id (some item.entry) := by
  funext k
  simp only [Table.lookup_insert_if, Function.update_apply, InvoiceDb.ledger]
  split <;> rfl

theorem ledger_eraseItem :
    (fun k => ((d.items.erase id).lookup k).map BillableItem.entry) =
      Function.update d.ledger.items id none := by
  funext k
  simp only [Table.lookup_erase_if, Function.update_apply, InvoiceDb.ledger]
  split <;> rfl

theorem ledger_insertInvoice (invoice : Invoice) :
    (fun k => ((d.invoices.insert id invoice).lookup k).map Invoice.box) =
      Function.update d.ledger.boxes id (some invoice.box) := by
  funext k
  simp only [Table.lookup_insert_if, Function.update_apply, InvoiceDb.ledger]
  split <;> rfl

theorem ledger_eraseInvoice :
    (fun k => ((d.invoices.erase id).lookup k).map Invoice.box) =
      Function.update d.ledger.boxes id none := by
  funext k
  simp only [Table.lookup_erase_if, Function.update_apply, InvoiceDb.ledger]
  split <;> rfl

theorem ledger_attach {ids : List String} (h : ids.Nodup) :
    (fun k => ((d.attach id ids).lookup k).map BillableItem.entry) =
      d.ledger.setOwner ids (some id) := by
  funext k
  simp only [InvoiceDb.attach, Table.lookup_modifyAll _ _ _ h, Ledger.setOwner, InvoiceDb.ledger]
  split
  · simp [Option.map_map, Function.comp_def, BillableItem.entry]
  · rfl

theorem ledger_detach {ids : List String} (h : ids.Nodup) :
    (fun k => ((d.detach ids).lookup k).map BillableItem.entry) = d.ledger.setOwner ids none := by
  funext k
  simp only [InvoiceDb.detach, Table.lookup_modifyAll _ _ _ h, Ledger.setOwner, InvoiceDb.ledger]
  split
  · simp [Option.map_map, Function.comp_def, BillableItem.entry]
  · rfl

variable {d id}

theorem free_of_attachable {projectId : String} {ids : List String}
    (h : ids.all (d.attachable projectId) = true) : d.ledger.Free projectId ids := by
  intro k hk
  have := List.all_eq_true.mp h k hk
  simp only [InvoiceDb.attachable, Option.any_eq_true, Bool.and_eq_true, Option.isNone_iff_eq_none,
    beq_iff_eq] at this
  obtain ⟨item, hl, hn, hp⟩ := this
  exact ⟨item.entry, InvoiceDb.ledger_items_of hl, hn, hp⟩

theorem owned_of_attachedTo {ids : List String} (h : ids.all (d.attachedTo id) = true) :
    d.ledger.Owned id ids := by
  intro k hk
  have := List.all_eq_true.mp h k hk
  simp only [InvoiceDb.attachedTo, Option.any_eq_true, beq_iff_eq] at this
  obtain ⟨item, hl, ho⟩ := this
  exact ⟨item.entry, InvoiceDb.ledger_items_of hl, ho⟩

theorem draftAt_eq_some {version : ℕ} {invoice : Invoice} :
    d.draftAt id version = some invoice ↔
      d.invoices.lookup id = some invoice ∧ invoice.status = .draft ∧ invoice.version = version := by
  simp [InvoiceDb.draftAt, Option.filter_eq_some_iff]

end

/-! ### The simulation -/

/-- What the mutations ensure of a request besides its own conditions. -/
def InvoiceOp.Guarded (d : InvoiceDb) : InvoiceOp → Prop
  | .createInvoice _ _ itemIds _ => itemIds.length ≤ maxInvoiceItems
  | .addInvoiceItems invoiceId projectId itemIds version =>
      ∀ invoice, d.draftAt invoiceId version = some invoice → projectId = invoice.projectId ∧
        (∀ id ∈ itemIds, id ∉ invoice.itemIds) ∧
        invoice.itemIds.length + itemIds.length ≤ maxInvoiceItems
  | .deleteInvoice invoiceId itemIds version =>
      ∀ invoice, d.draftAt invoiceId version = some invoice → ∀ id ∈ invoice.itemIds, id ∈ itemIds
  | _ => True

/-- Rows are stored under their own ids. -/
structure InvoiceDb.Keyed (d : InvoiceDb) : Prop where
  items : d.items.KeyedBy BillableItem.id
  invoices : d.invoices.KeyedBy Invoice.id

theorem InvoiceDb.Keyed.attach {d : InvoiceDb} (h : d.Keyed) {invoiceId : String}
    {ids : List String} (hn : ids.Nodup) :
    Table.KeyedBy (d.attach invoiceId ids) BillableItem.id := by
  unfold InvoiceDb.attach
  refine h.items.modifyAll ?_ hn
  exact fun _ => rfl

theorem InvoiceDb.Keyed.detach {d : InvoiceDb} (h : d.Keyed) {ids : List String} (hn : ids.Nodup) :
    Table.KeyedBy (d.detach ids) BillableItem.id := by
  unfold InvoiceDb.detach
  refine h.items.modifyAll ?_ hn
  exact fun _ => rfl

/-- The invoice with this id is finalized. -/
def InvoiceDb.Finalized (d : InvoiceDb) (id : String) : Prop :=
  ∃ invoice, d.invoices.lookup id = some invoice ∧ invoice.status = .finalized

/-- What an accepted request does: one ledger step or none, rows stay under their ids, a new invoice
has the id `newId`, an invoice that becomes finalized satisfies `closes`, and a counter that is
written satisfies `counts`. -/
structure Moves (newId : String) (closes : String → Invoice → Prop) (counts : String → ℕ → Prop)
    (d d' : InvoiceDb) : Prop where
  ledger : d'.ledger = d.ledger ∨ Ledger.Step maxInvoiceItems d.ledger d'.ledger
  keyed : d.Keyed → d'.Keyed
  created : ∀ {id}, id ≠ newId → d.invoices.lookup id = none → d'.invoices.lookup id = none
  closed : ∀ {id invoice}, d'.invoices.lookup id = some invoice → invoice.status = .finalized →
    d.Finalized id ∨ closes id invoice
  counted : ∀ inst, d'.counter inst = d.counter inst ∨ counts inst (d'.counter inst)

section
variable {d d' : InvoiceDb} {now : ℕ} {newId id : String} {ids : List String} {version : ℕ}
variable {closes : String → Invoice → Prop} {counts : String → ℕ → Prop}

/-- The ledger of tables whose two parts are known. -/
theorem ledger_mk {projects : Table String Project} {instances : Table String Instance}
    {items : Table String BillableItem} {invoices : Table String Invoice}
    {counters : Table String ℕ} {items' : String → Option (Ledger.Item String String BillableItem)}
    {boxes' : String → Option (Ledger.Box String String Invoice)}
    (hi : (fun k => (items.lookup k).map BillableItem.entry) = items')
    (hb : (fun k => (invoices.lookup k).map Invoice.box) = boxes') :
    (⟨projects, instances, items, invoices, counters⟩ : InvoiceDb).ledger = ⟨items', boxes'⟩ := by
  rw [← hi, ← hb]
  rfl

theorem guard_eq_some_iff {p : Prop} [Decidable p] {u : Unit} :
    (guard p : Option Unit) = some u ↔ p := by
  unfold guard
  split <;> simp [*]

/-- Writing a draft finalizes nothing. -/
theorem closed_insert {draft invoice : Invoice} {k : String} (hd : draft.status = .draft)
    (h : (d.invoices.insert id draft).lookup k = some invoice) (hf : invoice.status = .finalized) :
    d.Finalized k ∨ closes k invoice := by
  rw [Table.lookup_insert_if] at h
  split at h
  · cases h
    simp [hd] at hf
  · exact .inl ⟨_, h, hf⟩

theorem createBillableItem_step {item : BillableItem} (h : d.createBillableItem item = some d')
    (ho : item.invoiceId = none) : Moves newId closes counts d d' := by
  simp only [InvoiceDb.createBillableItem, Option.isNone_iff_eq_none, Option.ite_none_right_eq_some,
    Option.some.injEq] at h
  obtain ⟨hnone, rfl⟩ := h
  refine ⟨.inr ?_, fun hk => ⟨hk.items.insert rfl, hk.invoices⟩, fun _ h => h,
    fun h hf => .inl ⟨_, h, hf⟩, fun _ => .inl rfl⟩
  rw [ledger_mk (ledger_insertItem d item.id item) rfl]
  exact .record _ _ (by simp [InvoiceDb.ledger, hnone]) ho

theorem updateBillableItem_step {invoiceId : Option String} {date description : String}
    {quantity price : ℤ}
    (h : d.updateBillableItem now id invoiceId date description quantity price = some d') :
    Moves newId closes counts d d' := by
  simp only [InvoiceDb.updateBillableItem, Option.bind_eq_bind, Option.bind_eq_some_iff] at h
  obtain ⟨item, hitem, _, hg, h⟩ := h
  have ho : item.invoiceId = invoiceId := guard_eq_some_iff.mp hg
  cases invoiceId with
  | none =>
      obtain rfl := Option.some.inj h
      refine ⟨.inr ?_, fun hk => ⟨hk.items.replace hitem rfl, hk.invoices⟩, fun _ h => h,
    fun h hf => .inl ⟨_, h, hf⟩, fun _ => .inl rfl⟩
      rw [ledger_mk (ledger_insertItem d id _) rfl]
      exact .editFree _ _ _ (InvoiceDb.ledger_items_of hitem) ho ho
  | some invoiceId =>
      simp only [Option.bind_eq_some_iff] at h
      obtain ⟨invoice, hinvoice, _, hg', h⟩ := h
      have hdraft : invoice.status = .draft := guard_eq_some_iff.mp hg'
      obtain rfl := Option.some.inj h
      refine ⟨.inr ?_, fun hk => ⟨hk.items.replace hitem rfl,
        hk.invoices.replace hinvoice rfl⟩, fun _ => Table.lookup_replace_none _ _ _ hinvoice,
        closed_insert hdraft, fun _ => .inl rfl⟩
      rw [ledger_mk (ledger_insertItem d id _) (ledger_insertInvoice d invoiceId _)]
      exact .editBound _ _ _ _ _ _ (InvoiceDb.ledger_items_of hitem) ho
        (InvoiceDb.ledger_boxes_of hinvoice) (Invoice.box_open.mpr hdraft) ho rfl rfl rfl
        (Nat.lt_succ_self _)

theorem deleteBillableItem_step (h : d.deleteBillableItem id = some d') :
    Moves newId closes counts d d' := by
  simp only [InvoiceDb.deleteBillableItem, Option.bind_eq_bind, Option.bind_eq_some_iff] at h
  obtain ⟨item, hitem, _, hg, h⟩ := h
  have ho : item.invoiceId = none := guard_eq_some_iff.mp hg
  obtain rfl := Option.some.inj h
  refine ⟨.inr ?_, fun hk => ⟨hk.items.erase id, hk.invoices⟩, fun _ h => h,
    fun h hf => .inl ⟨_, h, hf⟩, fun _ => .inl rfl⟩
  rw [ledger_mk (ledger_eraseItem d id) rfl]
  exact .discard _ _ (InvoiceDb.ledger_items_of hitem) ho

theorem createInvoice_step {invoice : Invoice} (h : d.createInvoice invoice = some d')
    (hd : invoice.status = .draft) (hn : invoice.itemIds.Nodup)
    (hl : invoice.itemIds.length ≤ maxInvoiceItems) :
    Moves invoice.id closes counts d d' := by
  simp only [InvoiceDb.createInvoice, Bool.and_eq_true, Option.isNone_iff_eq_none,
    Option.ite_none_right_eq_some, Option.some.injEq] at h
  obtain ⟨⟨hnone, hfree⟩, rfl⟩ := h
  refine ⟨.inr ?_, fun hk => ⟨hk.attach hn, hk.invoices.insert rfl⟩,
    fun hne h => (AList.lookup_insert_ne hne).trans h, closed_insert hd, fun _ => .inl rfl⟩
  rw [ledger_mk (ledger_attach d invoice.id hn) (ledger_insertInvoice d invoice.id invoice)]
  exact .openBox invoice.id invoice.box (by simp [InvoiceDb.ledger, hnone])
    (free_of_attachable hfree) hn hl

theorem addInvoiceItems_step {projectId : String}
    (h : d.addInvoiceItems now id projectId ids version = some d') (hn : ids.Nodup)
    (hg : InvoiceOp.Guarded d (.addInvoiceItems id projectId ids version))
    (hd : d.ledger.Consistent maxInvoiceItems) :
    Moves newId closes counts d d' := by
  simp only [InvoiceDb.addInvoiceItems, Option.bind_eq_bind, Option.bind_eq_some_iff] at h
  obtain ⟨invoice, hat, _, hf, h⟩ := h
  obtain ⟨rfl, hnew, hlen⟩ := hg invoice hat
  obtain ⟨hl, hdraft, -⟩ := draftAt_eq_some.mp hat
  have hfree : ids.all (d.attachable invoice.projectId) = true := guard_eq_some_iff.mp hf
  obtain rfl := Option.some.inj h
  have hfilter : ids.filter (fun k => !invoice.itemIds.contains k) = ids := by
    rw [List.filter_eq_self]
    intro k hk
    simpa using hnew k hk
  refine ⟨.inr ?_, fun hk => ⟨hk.attach hn,
    hk.invoices.replace hl rfl⟩, fun _ => Table.lookup_replace_none _ _ _ hl,
    closed_insert hdraft, fun _ => .inl rfl⟩
  rw [hfilter, ledger_mk (ledger_attach d id hn) (ledger_insertInvoice d id _)]
  refine .bind id invoice.box _ ids (InvoiceDb.ledger_boxes_of hl) (Invoice.box_open.mpr hdraft)
    (free_of_attachable hfree) hn rfl (fun k => List.mem_append) ?_ ?_ (Nat.lt_succ_self _)
  · exact List.nodup_append.mpr ⟨hd.nodup (InvoiceDb.ledger_boxes_of hl), hn,
      fun a ha b hb hab => hnew b hb (hab ▸ ha)⟩
  · simpa using hlen

theorem removeInvoiceItems_step (h : d.removeInvoiceItems now id ids version = some d')
    (hn : ids.Nodup) : Moves newId closes counts d d' := by
  simp only [InvoiceDb.removeInvoiceItems, Option.bind_eq_bind, Option.bind_eq_some_iff] at h
  obtain ⟨invoice, hat, _, hf, h⟩ := h
  obtain ⟨hl, hdraft, -⟩ := draftAt_eq_some.mp hat
  have hown : ids.all (d.attachedTo id) = true := guard_eq_some_iff.mp hf
  obtain rfl := Option.some.inj h
  refine ⟨.inr ?_, fun hk => ⟨hk.detach hn,
    hk.invoices.replace hl rfl⟩, fun _ => Table.lookup_replace_none _ _ _ hl,
    closed_insert hdraft, fun _ => .inl rfl⟩
  rw [ledger_mk (ledger_detach d hn) (ledger_insertInvoice d id _)]
  exact .release id invoice.box _ ids (InvoiceDb.ledger_boxes_of hl) (Invoice.box_open.mpr hdraft)
    (owned_of_attachedTo hown) rfl rfl (Nat.lt_succ_self _)

theorem deleteInvoice_step (h : d.deleteInvoice id ids version = some d') (hn : ids.Nodup)
    (hg : InvoiceOp.Guarded d (.deleteInvoice id ids version)) :
    Moves newId closes counts d d' := by
  simp only [InvoiceDb.deleteInvoice, Option.bind_eq_bind, Option.bind_eq_some_iff] at h
  obtain ⟨invoice, hat, _, hf, h⟩ := h
  obtain ⟨hl, hdraft, -⟩ := draftAt_eq_some.mp hat
  have hown : ids.all (d.attachedTo id) = true := guard_eq_some_iff.mp hf
  obtain rfl := Option.some.inj h
  refine ⟨.inr ?_, fun hk => ⟨hk.detach hn, hk.invoices.erase id⟩,
    fun _ => Table.lookup_erase_none _ _ _, 
    fun h hf => .inl ⟨_, Table.lookup_of_erase _ _ _ _ h, hf⟩, fun _ => .inl rfl⟩
  rw [ledger_mk (ledger_detach d hn) (ledger_eraseInvoice d id)]
  exact .dissolve id invoice.box ids (InvoiceDb.ledger_boxes_of hl) (Invoice.box_open.mpr hdraft)
    (owned_of_attachedTo hown) (hg invoice hat)

theorem finalizeInvoice_step {number : ℕ} {issueDate snapshotJson userId : String} {total : ℤ}
    (h : d.finalizeInvoice now id version number issueDate snapshotJson total userId = some d') :
    Moves newId (fun k invoice' => k = id ∧ ∃ invoice, d.draftAt id version = some invoice ∧
      invoice'.instanceId = invoice.instanceId ∧ invoice'.projectId = invoice.projectId ∧
      invoice'.number = some number ∧ invoice'.snapshot = some snapshotJson ∧
      invoice'.totalCents = some total) counts d d' := by
  simp only [InvoiceDb.finalizeInvoice, Option.bind_eq_bind, Option.bind_eq_some_iff] at h
  obtain ⟨invoice, hat, h⟩ := h
  obtain ⟨hl, hdraft, -⟩ := draftAt_eq_some.mp hat
  obtain rfl := Option.some.inj h
  refine ⟨.inr ?_, fun hk => ⟨hk.items, hk.invoices.replace hl rfl⟩,
    fun _ => Table.lookup_replace_none _ _ _ hl, fun {k invoice'} h hf => ?_,
    fun _ => .inl rfl⟩
  · rw [ledger_mk rfl (ledger_insertInvoice d id _)]
    exact .close id invoice.box _ (InvoiceDb.ledger_boxes_of hl) (Invoice.box_open.mpr hdraft) rfl rfl
      (Nat.lt_succ_self _)
  · rw [Table.lookup_insert_if] at h
    split at h
    · rename_i hid
      obtain rfl := Option.some.inj h
      exact .inr ⟨hid, invoice, hat, rfl, rfl, rfl, rfl, rfl⟩
    · exact .inl ⟨_, h, hf⟩

/-- An update of a finalized invoice outside its frozen part is not seen in the ledger. -/
theorem updateFinalized_step {update : Invoice → Invoice} (h : d.updateFinalized id update = some d')
    (hu : ∀ invoice, (update invoice).box = invoice.box ∧ (update invoice).id = invoice.id ∧
      (update invoice).status = invoice.status) :
    Moves newId closes counts d d' := by
  simp only [InvoiceDb.updateFinalized, Option.bind_eq_bind, Option.bind_eq_some_iff] at h
  obtain ⟨invoice, hl, _, hg, h⟩ := h
  have hfin : invoice.status = .finalized := guard_eq_some_iff.mp hg
  obtain rfl := Option.some.inj h
  refine ⟨.inl ?_, fun hk =>
    ⟨hk.items, hk.invoices.replace hl (hu invoice).2.1⟩,
    fun _ => Table.lookup_replace_none _ _ _ hl, fun {k invoice'} h hf => ?_,
    fun _ => .inl rfl⟩
  · rw [ledger_mk rfl (ledger_insertInvoice d id _), (hu invoice).1,
      Function.update_eq_self_iff.mpr (InvoiceDb.ledger_boxes_of hl).symm]
    rfl
  · rw [Table.lookup_insert_if] at h
    split at h
    · rename_i hid
      exact .inl ⟨invoice, hid ▸ hl, hfin⟩
    · exact .inl ⟨_, h, hf⟩

/-- A write that changes neither items nor invoices. -/
theorem Moves.of_eq (hi : d'.items = d.items) (hv : d'.invoices = d.invoices)
    (hc : ∀ inst, d'.counter inst = d.counter inst ∨ counts inst (d'.counter inst)) :
    Moves newId closes counts d d' := by
  refine ⟨.inl ?_, fun hk => ⟨hi ▸ hk.items, hv ▸ hk.invoices⟩, fun _ h => hv ▸ h,
    fun h hf => .inl ⟨_, hv ▸ h, hf⟩, hc⟩
  unfold InvoiceDb.ledger
  rw [hi, hv]

end

/-- What finalization writes: `op` may finalize the invoice `id` and turn it into `invoice'`. -/
def InvoiceOp.Closes (d : InvoiceDb) (id : String) (invoice' : Invoice) : InvoiceOp → Prop
  | .finalizeInvoice invoiceId version number _ snapshotJson totalCents _ =>
      id = invoiceId ∧ ∃ invoice, d.draftAt invoiceId version = some invoice ∧
        invoice'.instanceId = invoice.instanceId ∧ invoice'.projectId = invoice.projectId ∧
        invoice'.number = some number ∧ invoice'.snapshot = some snapshotJson ∧
        invoice'.totalCents = some totalCents
  | _ => False

/-- What a counter write writes: `op` may set the counter of `inst` to `n`. -/
def InvoiceOp.Counts (d : InvoiceDb) (inst : String) (n : ℕ) : InvoiceOp → Prop
  | .incrementInvoiceCounter instanceId => inst = instanceId ∧ n = d.counter inst + 1
  | .setNextInvoiceNumber instanceId newValue =>
      inst = instanceId ∧ d.counter inst ≤ newValue ∧ n = newValue
  | _ => False

theorem counter_insert {d : InvoiceDb} {projects : Table String Project}
    {instances : Table String Instance} {items : Table String BillableItem}
    {invoices : Table String Invoice} (instanceId inst : String) (n : ℕ) :
    (⟨projects, instances, items, invoices, d.counters.insert instanceId n⟩ : InvoiceDb).counter
      inst = if inst = instanceId then n else d.counter inst := by
  unfold InvoiceDb.counter
  rw [Table.lookup_insert_if]
  split <;> rfl

/-- What an accepted request does. -/
theorem change_step {d d' : InvoiceDb} {e : InvoiceEnv} {op : InvoiceOp}
    (h : d.change e op = some d') (hw : op.wellFormed = true) (hg : op.Guarded d)
    (hd : d.ledger.Consistent maxInvoiceItems) :
    Moves e.newId (fun id invoice => op.Closes d id invoice) (fun inst n => op.Counts d inst n)
      d d' := by
  cases op with
  | createBillableItem => exact createBillableItem_step h rfl
  | updateBillableItem => exact updateBillableItem_step h
  | deleteBillableItem => exact deleteBillableItem_step h
  | createInvoice =>
      have hn : List.Nodup _ := of_decide_eq_true hw
      exact createInvoice_step h rfl hn hg
  | addInvoiceItems =>
      have hn := (Bool.and_eq_true _ _ ▸ hw : _ ∧ _).2
      exact addInvoiceItems_step h (by simpa using hn) hg hd
  | removeInvoiceItems =>
      have hn := (Bool.and_eq_true _ _ ▸ hw : _ ∧ _).2
      exact removeInvoiceItems_step h (by simpa using hn)
  | deleteInvoice => exact deleteInvoice_step h (by simpa [InvoiceOp.wellFormed] using hw) hg
  | finalizeInvoice => exact finalizeInvoice_step h
  | setInvoicePaid => exact updateFinalized_step h fun _ => ⟨rfl, rfl, rfl⟩
  | setInvoicePdfKey => exact updateFinalized_step h fun _ => ⟨rfl, rfl, rfl⟩
  | incrementInvoiceCounter instanceId =>
      obtain rfl := Option.some.inj h
      refine .of_eq rfl rfl fun inst => ?_
      unfold InvoiceDb.incrementInvoiceCounter
      rw [counter_insert]
      split
      · rename_i hinst
        exact .inr ⟨hinst, hinst ▸ rfl⟩
      · exact .inl rfl
  | setNextInvoiceNumber instanceId newValue =>
      simp only [InvoiceDb.change, InvoiceDb.setNextInvoiceNumber, Option.ite_none_right_eq_some,
        Option.some.injEq] at h
      obtain ⟨hle, rfl⟩ := h
      refine .of_eq rfl rfl fun inst => ?_
      rw [counter_insert]
      split
      · rename_i hinst
        refine .inr ⟨hinst, ?_, rfl⟩
        unfold InvoiceDb.counter
        rw [hinst]
        rcases hl : d.counters.lookup instanceId with _ | n
        · exact Nat.zero_le _
        · simpa [hl] using hle
      · exact .inl rfl
  | putProject | putInstance =>
      obtain rfl := Option.some.inj h
      exact .of_eq rfl rfl fun _ => .inl rfl
  | _ => cases h

end Microticket

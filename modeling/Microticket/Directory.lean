import Microticket.InvoiceChanges
import Microticket.Registers
import Microticket.SystemGrounds

/-! # Where everything belongs

A `Directory` says of every instance its kind, of every project its instance, of every billable item
and invoice its project, of every ticket its instance and of every message its ticket.  It is sound by
construction: projects are of instances of kind `invoicing`, tickets of instances of kind `support`.

The tables fit a directory (`AdminDb.Fits`, `InvoiceDb.Fits`, `TicketDb.Fits`), and so do the answers
of the requests.  A request that the directory allows (`AdminOp.Knows` and its fellows) leads to tables
that fit the directory with one more entry. -/

namespace Microticket

open Interleaving Tables

/-! ### Directories -/

/-- The project of an item or an invoice, with its instance. -/
structure Place where
  projectId : String
  instanceId : String
  deriving DecidableEq

def BillableItem.place (item : BillableItem) : Place := ⟨item.projectId, item.instanceId⟩
def Invoice.place (invoice : Invoice) : Place := ⟨invoice.projectId, invoice.instanceId⟩

/-- What never changes of the rows. -/
structure Directory where
  kind : Register String InstanceKind
  project : Register String String
  place : Register String Place
  ticket : Register String String
  message : Register String String
  project_kind : ∀ ⦃id instanceId⦄, project id = some instanceId → kind instanceId = some .invoicing
  place_project : ∀ ⦃id p⦄, place id = some p → project p.projectId = some p.instanceId
  ticket_kind : ∀ ⦃id instanceId⦄, ticket id = some instanceId → kind instanceId = some .support
  message_ticket : ∀ ⦃id ticketId⦄, message id = some ticketId → (ticket ticketId).isSome

namespace Directory

/-- The directory before the first row. -/
def empty : Directory where
  kind _ := none
  project _ := none
  place _ := none
  ticket _ := none
  message _ := none
  project_kind _ _ h := by cases h
  place_project _ _ h := by cases h
  ticket_kind _ _ h := by cases h
  message_ticket _ _ h := by cases h

/-- `dir'` says what `dir` says. -/
structure Le (dir dir' : Directory) : Prop where
  kind : dir.kind.Le dir'.kind
  project : dir.project.Le dir'.project
  place : dir.place.Le dir'.place
  ticket : dir.ticket.Le dir'.ticket
  message : dir.message.Le dir'.message

theorem Le.refl (dir : Directory) : dir.Le dir :=
  ⟨.refl _, .refl _, .refl _, .refl _, .refl _⟩

theorem Le.trans {dir₁ dir₂ dir₃ : Directory} (h₁ : dir₁.Le dir₂) (h₂ : dir₂.Le dir₃) :
    dir₁.Le dir₃ where
  kind := h₁.kind.trans h₂.kind
  project := h₁.project.trans h₂.project
  place := h₁.place.trans h₂.place
  ticket := h₁.ticket.trans h₂.ticket
  message := h₁.message.trans h₂.message

section entries
variable (dir : Directory)

def addInstance (id : String) (kind : InstanceKind) (hnew : dir.kind id = none) : Directory :=
  { dir with
    kind := dir.kind.record id kind
    project_kind := fun _ _ h => Register.le_record hnew kind (dir.project_kind h)
    ticket_kind := fun _ _ h => Register.le_record hnew kind (dir.ticket_kind h) }

def addProject (id instanceId : String) (hkind : dir.kind instanceId = some .invoicing)
    (hnew : dir.project id = none) : Directory :=
  { dir with
    project := dir.project.record id instanceId
    project_kind := fun _ _ h => by
      rcases Register.record_cases h with ⟨-, rfl⟩ | h
      · exact hkind
      · exact dir.project_kind h
    place_project := fun _ _ h => Register.le_record hnew instanceId (dir.place_project h) }

def addPlace (id : String) (p : Place) (hproject : dir.project p.projectId = some p.instanceId) :
    Directory :=
  { dir with
    place := dir.place.record id p
    place_project := fun _ _ h => by
      rcases Register.record_cases h with ⟨-, rfl⟩ | h
      · exact hproject
      · exact dir.place_project h }

def addTicket (id instanceId : String) (hkind : dir.kind instanceId = some .support)
    (hnew : dir.ticket id = none) : Directory :=
  { dir with
    ticket := dir.ticket.record id instanceId
    ticket_kind := fun _ _ h => by
      rcases Register.record_cases h with ⟨-, rfl⟩ | h
      · exact hkind
      · exact dir.ticket_kind h
    message_ticket := fun _ _ h => (Register.le_record hnew instanceId).isSome (dir.message_ticket h) }

def addMessage (id ticketId : String) (hticket : (dir.ticket ticketId).isSome) : Directory :=
  { dir with
    message := dir.message.record id ticketId
    message_ticket := fun _ _ h => by
      rcases Register.record_cases h with ⟨-, rfl⟩ | h
      · exact hticket
      · exact dir.message_ticket h }

variable {dir}

theorem le_addInstance {id : String} {kind : InstanceKind} (hnew : dir.kind id = none) :
    dir.Le (dir.addInstance id kind hnew) :=
  ⟨Register.le_record hnew kind, .refl _, .refl _, .refl _, .refl _⟩

theorem le_addProject {id instanceId : String} (hkind : dir.kind instanceId = some .invoicing)
    (hnew : dir.project id = none) : dir.Le (dir.addProject id instanceId hkind hnew) :=
  ⟨.refl _, Register.le_record hnew instanceId, .refl _, .refl _, .refl _⟩

theorem le_addPlace {id : String} {p : Place} (hproject : dir.project p.projectId = some p.instanceId)
    (hnew : dir.place id = none) : dir.Le (dir.addPlace id p hproject) :=
  ⟨.refl _, .refl _, Register.le_record hnew p, .refl _, .refl _⟩

theorem le_addTicket {id instanceId : String} (hkind : dir.kind instanceId = some .support)
    (hnew : dir.ticket id = none) : dir.Le (dir.addTicket id instanceId hkind hnew) :=
  ⟨.refl _, .refl _, .refl _, Register.le_record hnew instanceId, .refl _⟩

theorem le_addMessage {id ticketId : String} (hticket : (dir.ticket ticketId).isSome)
    (hnew : dir.message id = none) : dir.Le (dir.addMessage id ticketId hticket) :=
  ⟨.refl _, .refl _, .refl _, .refl _, Register.le_record hnew ticketId⟩

end entries

/-! ### Rows -/

section rows
variable (dir : Directory)

def IsInstance (id : String) (inst : Instance) : Prop := inst.id = id ∧ dir.kind id = some inst.kind

def IsProject (id : String) (project : Project) : Prop :=
  project.id = id ∧ dir.project id = some project.instanceId

def IsItem (id : String) (item : BillableItem) : Prop :=
  item.id = id ∧ dir.place id = some item.place ∧
    ∀ invoiceId, item.invoiceId = some invoiceId → dir.place invoiceId = some item.place

def IsInvoice (id : String) (invoice : Invoice) : Prop :=
  invoice.id = id ∧ dir.place id = some invoice.place ∧
    ∀ itemId ∈ invoice.itemIds, dir.place itemId = some invoice.place

def IsTicket (id : String) (ticket : Ticket) : Prop :=
  ticket.id = id ∧ dir.ticket id = some ticket.instanceId

def IsMessage (id : String) (message : TicketMessage) : Prop :=
  message.id = id ∧ dir.message id = some message.content.ticketId

def IsAddress (address : String) (row : InboundAddress) : Prop :=
  row.address = address ∧ dir.kind row.instanceId = some .support

variable {dir} {dir' : Directory} {id : String}

theorem IsInstance.mono {inst : Instance} (h : dir.IsInstance id inst) (hle : dir.Le dir') :
    dir'.IsInstance id inst := ⟨h.1, hle.kind h.2⟩

theorem IsProject.mono {project : Project} (h : dir.IsProject id project) (hle : dir.Le dir') :
    dir'.IsProject id project := ⟨h.1, hle.project h.2⟩

theorem IsItem.mono {item : BillableItem} (h : dir.IsItem id item) (hle : dir.Le dir') :
    dir'.IsItem id item :=
  ⟨h.1, hle.place h.2.1, fun invoiceId hon => hle.place (h.2.2 invoiceId hon)⟩

theorem IsInvoice.mono {invoice : Invoice} (h : dir.IsInvoice id invoice) (hle : dir.Le dir') :
    dir'.IsInvoice id invoice :=
  ⟨h.1, hle.place h.2.1, fun itemId hitem => hle.place (h.2.2 itemId hitem)⟩

theorem IsTicket.mono {ticket : Ticket} (h : dir.IsTicket id ticket) (hle : dir.Le dir') :
    dir'.IsTicket id ticket := ⟨h.1, hle.ticket h.2⟩

theorem IsMessage.mono {message : TicketMessage} (h : dir.IsMessage id message)
    (hle : dir.Le dir') : dir'.IsMessage id message := ⟨h.1, hle.message h.2⟩

theorem IsAddress.mono {row : InboundAddress} (h : dir.IsAddress id row) (hle : dir.Le dir') :
    dir'.IsAddress id row := ⟨h.1, hle.kind h.2⟩

end rows

end Directory

/-! ### The tables -/

/-- The administrative tables fit the directory. -/
structure AdminDb.Fits (d : AdminDb) (dir : Directory) : Prop where
  instances : Table.Each d.instances dir.IsInstance
  projects : Table.Each d.projects fun id row => dir.IsProject id row.toProject
  apiTokens : Table.Each d.apiTokens fun _ token => dir.kind token.instanceId = some .support

/-- The tables of invoicing fit the directory. -/
structure InvoiceDb.Fits (d : InvoiceDb) (dir : Directory) : Prop where
  items : Table.Each d.items dir.IsItem
  invoices : Table.Each d.invoices dir.IsInvoice

/-- The tables of tickets fit the directory. -/
structure TicketDb.Fits (d : TicketDb) (dir : Directory) : Prop where
  tickets : Table.Each d.tickets fun id row => dir.IsTicket id row.record
  messages : Table.Each d.messages dir.IsMessage
  addresses : Table.Each d.addresses dir.IsAddress

section mono
variable {dir dir' : Directory}

theorem AdminDb.Fits.mono {d : AdminDb} (h : d.Fits dir) (hle : dir.Le dir') : d.Fits dir' where
  instances := h.instances.mono fun _ _ hrow => hrow.mono hle
  projects := h.projects.mono fun _ _ hrow => hrow.mono hle
  apiTokens := h.apiTokens.mono fun _ _ hrow => hle.kind hrow

theorem InvoiceDb.Fits.mono {d : InvoiceDb} (h : d.Fits dir) (hle : dir.Le dir') : d.Fits dir' where
  items := h.items.mono fun _ _ hrow => hrow.mono hle
  invoices := h.invoices.mono fun _ _ hrow => hrow.mono hle

theorem TicketDb.Fits.mono {d : TicketDb} (h : d.Fits dir) (hle : dir.Le dir') : d.Fits dir' where
  tickets := h.tickets.mono fun _ _ hrow => hrow.mono hle
  messages := h.messages.mono fun _ _ hrow => hrow.mono hle
  addresses := h.addresses.mono fun _ _ hrow => hrow.mono hle

end mono

/-! ### The requests that the directory allows -/

/-- A new token or project is for an instance of the right kind. -/
def AdminOp.Knows (dir : Directory) : AdminOp → Prop
  | .createApiToken _ instanceId .. => dir.kind instanceId = some .support
  | .createProject instanceId _ => dir.kind instanceId = some .invoicing
  | _ => True

/-- A new row is for a project with its instance, and items are added to an invoice of theirs. -/
def InvoiceOp.Knows (dir : Directory) : InvoiceOp → Prop
  | .createBillableItem instanceId projectId .. | .createInvoice instanceId projectId .. =>
      dir.project projectId = some instanceId
  | .addInvoiceItems invoiceId projectId .. =>
      ∃ instanceId, dir.place invoiceId = some ⟨projectId, instanceId⟩
  | _ => True

/-- A new ticket or address is for an instance of kind `support`, a new message for a ticket. -/
def TicketOp.Knows (dir : Directory) : TicketOp → Prop
  | .createTicket instanceId .. | .createInboundAddress _ instanceId _ =>
      dir.kind instanceId = some .support
  | .createTicketMessage content => (dir.ticket content.ticketId).isSome
  | _ => True

section knows
variable {dir dir' : Directory}

theorem AdminOp.Knows.mono {op : AdminOp} (h : op.Knows dir) (hle : dir.Le dir') :
    op.Knows dir' := by
  cases op with
  | createApiToken | createProject => exact hle.kind h
  | _ => trivial

theorem InvoiceOp.Knows.mono {op : InvoiceOp} (h : op.Knows dir) (hle : dir.Le dir') :
    op.Knows dir' := by
  cases op with
  | createBillableItem | createInvoice => exact hle.project h
  | addInvoiceItems =>
      obtain ⟨instanceId, hplace⟩ := h
      exact ⟨instanceId, hle.place hplace⟩
  | _ => trivial

theorem TicketOp.Knows.mono {op : TicketOp} (h : op.Knows dir) (hle : dir.Le dir') :
    op.Knows dir' := by
  cases op with
  | createTicket | createInboundAddress => exact hle.kind h
  | createTicketMessage => exact hle.ticket.isSome h
  | _ => trivial

end knows

end Microticket

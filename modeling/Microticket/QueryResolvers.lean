import Microticket.Queries

/-! # The resolvers of the queries

The fields of `QueryRoot` and of the objects of `graphql/query.rs` that lead to other objects.  `Shown`
are the objects that a request can reach, field after field. -/

namespace Microticket

open Interleaving Tables

/-- What the queries use of other crates. -/
structure QueryLibs where
  code : CodeLibs
  dates : DateFormat
  debugError : DbError → String
  fromJson : String → Except String InvoiceSnapshot

/-- A program of reads. -/
abbrev QueryProg (α : Type) : Type := Prog QueryOp QueryOp.Res Error α

/-- Send a read; a `db::Error` propagates. -/
def fetch (op : QueryOp) : QueryProg op.Ret :=
  .call op fun
    | .ok a => .done a
    | .error e => .fail (.db e)

/-- A guard of a field. -/
def passes (requirement : AuthRequirement) (auth : Option AuthInfo) : QueryProg Unit :=
  .ofExcept (requirement.check auth)

/-- `let Some(AuthInfo::User { memberships, .. }) = ctx.data_opt::<AuthInfo>() else { forbidden }`. -/
def callerMemberships : Option AuthInfo → QueryProg (List Membership)
  | some (.user _ memberships _) => .done memberships
  | _ => .fail (.forbidden "Must be authenticated as a user")

namespace Query

/-! ### Fields of objects -/

section objects
variable (libs : QueryLibs) (auth : Option AuthInfo)

/-- `DataLoader::load_one`. -/
def loadOne (what : String) (op : QueryOp) : QueryProg op.Ret :=
  .call op fun
    | .ok a => .done a
    | .error e => .fail (.other
        s!"Failed to load {what} via DataLoader: DB error: {libs.debugError e}")

/-- `instance` of a ticket or a project. -/
def instanceOf (instanceId : String) : QueryProg Instance := do
  .ofOption (← loadOne libs "instance" (.getInstance instanceId))
    (.other s!"Instance with ID {instanceId} missing")

/-- `project` of an item or an invoice. -/
def projectOf (projectId : String) : QueryProg ProjectRow := do
  .ofOption (← loadOne libs "project" (.getProject projectId))
    (.other s!"Project with ID {projectId} missing")

/-- A user who may be missing. -/
def userOf (what : String) : Option String → QueryProg (Option UserRow)
  | none => return none
  | some id => loadOne libs what (.getUser id)

/-- `Instance::inbound_addresses`. -/
def inboundAddresses (rec : Instance) : QueryProg (List InboundAddress) := do
  passes (.instanceOwnerOrSuperuser rec.id) auth
  fetch (.listInboundAddressesByInstance rec.id)

/-- `Instance::members`. -/
def members (rec : Instance) : QueryProg (List (UserRow × MembershipRole)) := do
  passes (.instanceOwnerOrSuperuser rec.id) auth
  let memberships ← fetch (.listMembershipsByInstance rec.id)
  let users ← .forEach (fun row => fetch (.getUser row.userId)) memberships
  return (memberships.zip users).filterMap fun (row, user) => user.map fun user => (user, row.role)

/-- `Instance::api_tokens`. -/
def apiTokens (rec : Instance) : QueryProg (List ApiToken) := do
  passes (.instanceOwnerOrSuperuser rec.id) auth
  let tokens ← fetch (.listApiTokensByInstance rec.id)
  return tokens.mergeSort fun a b => decide (a.createdAt ≤ b.createdAt)

/-- `User::memberships`. -/
def memberships (rec : UserRow) : QueryProg (List (MembershipRow × Instance)) := do
  passes .authenticated auth
  let memberships ← fetch (.listMembershipsByUser rec.id)
  let instances ← .forEach (fun row => fetch (.getInstance row.instanceId)) memberships
  return (memberships.zip instances).filterMap fun (row, inst) =>
    (inst.filter fun inst => !inst.deleted).map fun inst => (row, inst)

/-- Whether `Ticket::messages` shows the notes. -/
def showNotes (rec : Ticket) : Except Error Bool :=
  match auth with
  | some (.user _ memberships _) =>
      if !isMember memberships rec.instanceId then
        .error (.forbidden "Not a member of this ticket's instance")
      else .ok true
  | some (.requester email instanceId) =>
      if instanceId ≠ rec.instanceId ∨ !rec.requesterEmails.contains email then
        .error (.forbidden "Not authorized to view this ticket")
      else .ok false
  | some (.apiToken ..) | none => .error (.forbidden "Must be authenticated")

/-- `Ticket::messages`. -/
def messages (rec : Ticket) : QueryProg (List TicketMessage) := do
  let showNotes ← .ofExcept (showNotes auth rec)
  let messages ← fetch (.listTicketMessages rec.id)
  return messages.filter fun message => showNotes || message.content.kind != .note

/-- `BillableItem::invoice`. -/
def invoiceOf (rec : BillableItem) (parentInvoice : Option Invoice) : QueryProg (Option Invoice) :=
  match rec.invoiceId with
  | none => return none
  | some invoiceId =>
      match parentInvoice.filter fun parent => parent.id == invoiceId with
      | some parent => return some parent
      | none => loadOne libs "invoice" (.getInvoice invoiceId)

/-- `Invoice::items`, and the items of `Invoice::effective`. -/
def invoiceItems (rec : Invoice) : QueryProg (List BillableItem) := do
  let items ← .forEach (fun id => fetch (.getBillableItem id)) rec.itemIds
  return items.filterMap id

/-- `Invoice::effective`. -/
def effective (rec : Invoice) : QueryProg InvoiceSnapshot :=
  match rec.status with
  | .finalized => do
      let json ← .ofOption rec.snapshot
        (.other s!"Finalized invoice {rec.id} is missing its snapshot")
      .ofExcept ((libs.fromJson json).mapError fun e =>
        .other s!"Invoice {rec.id} has a corrupt snapshot: {e}")
  | .draft => do
      let project ← .ofOption (← fetch (.getProject rec.projectId))
        (.other s!"Project with ID {rec.projectId} missing")
      let inst ← .ofOption (← fetch (.getInstance rec.instanceId))
        (.other s!"Instance with ID {rec.instanceId} missing")
      let items ← invoiceItems rec
      return buildSnapshot inst project.toProject items none none

end objects

/-! ### Fields of the root -/

section roots
variable (libs : QueryLibs) (auth : Option AuthInfo)

/-- `me`. -/
def me : QueryProg UserRow := do
  passes .authenticated auth
  match auth with
  | some (.user id _ _) => .ofOption (← fetch (.getUser id)) (.other s!"User with ID {id} missing")
  | _ => .fail (.other "Only an authenticated user has a `me` record")

/-- `instance`. -/
def instanceOfSlug (slug : String) : QueryProg (Option Instance) := do
  passes .authenticated auth
  let memberships ← callerMemberships auth
  match ← fetch (.getInstanceIdBySlug slug) with
  | none => return none
  | some instanceId =>
      if isMember memberships instanceId then
        return (← fetch (.getInstance instanceId)).filter fun inst => !inst.deleted
      else return none

/-- `public_instances`. -/
def publicInstances : QueryProg (List Instance) := do
  let instances ← fetch .listInstances
  return instances.filter fun inst =>
    inst.publicSubmissionEnabled && !inst.deleted && inst.kind == .support

/-- `tickets`. -/
def tickets (instanceId : String) (status : TicketStatusFilter)
    (assignedTo after before : Option String) (first last : Option ℤ) :
    QueryProg (Connection Ticket) := do
  .ofExcept (passTickets auth instanceId status)
  let afterCursor ← .ofExcept (after.mapM decodeTicketCursor)
  let beforeCursor ← .ofExcept (before.mapM decodeTicketCursor)
  let (pageSize, isLastMode) ← .ofExcept (paginationArgs first last 25 100)
  let items ← fetch (.listTickets instanceId (ticketListFilter status assignedTo)
    ⟨afterCursor, beforeCursor, pageSize + 1, !isLastMode⟩)
  return buildConnection items pageSize isLastMode afterCursor.isSome beforeCursor.isSome fun row =>
    (encodeTicketCursor row.record, row.record)

/-- Whether `ticket` shows the ticket. -/
def visible (rec : Ticket) : Bool :=
  match auth with
  | some (.user _ memberships _) => isMember memberships rec.instanceId
  | some (.requester email instanceId) =>
      instanceId == rec.instanceId && rec.requesterEmails.contains email
  | some (.apiToken ..) | none => false

/-- `ticket`. -/
def ticket (id : String) : QueryProg (Option Ticket) := do
  passes .authenticated auth
  return (← fetch (.getTicket id)).filter (visible auth)

/-- The instance of `projects`, `billable_items` and `invoices`. -/
def invoicingInstance (instanceId : String) : QueryProg Instance := do
  passes (.member instanceId) auth
  let inst ← .ofOption (← fetch (.getInstance instanceId)) (.notFound "Instance" instanceId)
  .ofExcept ((requireInstanceKind libs.code inst .invoicing).mapError .other)
  return inst

/-- `projects`. -/
def projects (instanceId : String) (includeArchived : Bool) : QueryProg (List ProjectRow) := do
  let _ ← invoicingInstance libs auth instanceId
  let projects ← fetch (.listProjectsByInstance instanceId)
  let projects := projects.filter fun row => includeArchived || !row.archived
  return projects.mergeSort fun a b =>
    decide (libs.code.toLowercase a.name ≤ libs.code.toLowercase b.name)

/-- The row of `project` and `invoice`, if the caller is a member of its instance, and this is one for
invoicing. -/
def memberOnly {α : Type} (instanceId : α → String) (row : Option α) (memberships : List Membership) :
    QueryProg (Option α) :=
  match row.filter fun row => isMember memberships (instanceId row) with
  | none => return none
  | some row => do
      let inst ← fetch (.getInstance (instanceId row))
      return if inst.any fun inst => inst.kind == .invoicing then some row else none

/-- `project`. -/
def project (id : String) : QueryProg (Option ProjectRow) := do
  passes .authenticated auth
  let memberships ← callerMemberships auth
  memberOnly (fun row => row.instanceId) (← fetch (.getProject id)) memberships

/-- What `billable_items` and `invoices` check first. -/
def resolveScope (instanceId : String) (projectId : Option String) : QueryProg ListScope := do
  let inst ← invoicingInstance libs auth instanceId
  match projectId with
  | none => return .inst instanceId
  | some projectId => do
      let row ← fetch (.getProject projectId)
      let _ ← .ofOption (row.filter fun row => row.instanceId == inst.id)
        (.notFound "Project" projectId)
      return .project projectId

/-- `billable_items`. -/
def billableItems (instanceId : String) (projectId : Option String) (filter : BillableItemFilter)
    (first : Option ℤ) (after : Option String) : QueryProg (Connection BillableItem) := do
  let scope ← resolveScope libs auth instanceId projectId
  let afterCursor ← .ofExcept (after.mapM (decodeBillableItemCursor libs.dates libs.code.debug))
  let (pageSize, _) ← .ofExcept (paginationArgs first none 25 100)
  let items ← fetch (.listBillableItems scope filter afterCursor (pageSize + 1))
  return buildConnection items pageSize false afterCursor.isSome false fun i =>
    (encodeBillableItemCursor i, i)

/-- `invoices`. -/
def invoices (instanceId : String) (projectId : Option String) (filter : InvoiceListFilter)
    (first : Option ℤ) (after : Option String) : QueryProg (Connection Invoice) := do
  let scope ← resolveScope libs auth instanceId projectId
  let afterCursor ← .ofExcept (after.mapM decodeInvoiceCursor)
  let (pageSize, _) ← .ofExcept (paginationArgs first none 25 100)
  let invoices ← fetch (.listInvoices scope filter afterCursor (pageSize + 1))
  return buildConnection invoices pageSize false afterCursor.isSome false fun i =>
    (encodeInvoiceCursor i, i)

/-- `invoice`. -/
def invoice (id : String) : QueryProg (Option Invoice) := do
  passes .authenticated auth
  let memberships ← callerMemberships auth
  memberOnly Invoice.instanceId (← fetch (.getInvoice id)) memberships

/-- `admin_instances`. -/
def adminInstances : QueryProg (List Instance) := do
  passes .superuser auth
  return (← fetch .listInstances).mergeSort fun a b => decide (a.name ≤ b.name)

/-- `admin_instance`. -/
def adminInstance (id : String) : QueryProg (Option Instance) := do
  passes .superuser auth
  fetch (.getInstance id)

/-- `admin_users`. -/
def adminUsers : QueryProg (List UserRow) := do
  passes .superuser auth
  return (← fetch .listUsers).mergeSort fun a b => decide (a.email ≤ b.email)

/-- `admin_user`. -/
def adminUser (id : String) : QueryProg (Option UserRow) := do
  passes .superuser auth
  fetch (.getUser id)

end roots

end Query

/-! ### Objects -/

/-- The objects.  The members of an instance carry its id. -/
inductive Node where
  | publicInstance (name slug : String)
  | inst (rec : Instance)
  | address (rec : InboundAddress)
  | member (instanceId : String) (user : UserRow) (role : MembershipRole)
  | apiToken (rec : ApiToken)
  | user (rec : UserRow)
  | membership (row : MembershipRow) (inst : Instance)
  | ticket (rec : Ticket)
  | message (rec : TicketMessage)
  | project (rec : ProjectRow)
  | item (rec : BillableItem) (parentInvoice : Option Invoice)
  | invoice (rec : Invoice)
  | content (invoice : Invoice) (snapshot : InvoiceSnapshot)

/-- The fields of the root. -/
inductive RootField where
  | me
  | inst (slug : String)
  | publicInstances
  | tickets (instanceId : String) (status : TicketStatusFilter)
      (assignedTo after before : Option String) (first last : Option ℤ)
  | ticket (id : String)
  | projects (instanceId : String) (includeArchived : Bool)
  | project (id : String)
  | billableItems (instanceId : String) (projectId : Option String) (filter : BillableItemFilter)
      (first : Option ℤ) (after : Option String)
  | invoices (instanceId : String) (projectId : Option String) (filter : InvoiceListFilter)
      (first : Option ℤ) (after : Option String)
  | invoice (id : String)
  | adminInstances
  | adminInstance (id : String)
  | adminUsers
  | adminUser (id : String)

section fields
variable (libs : QueryLibs) (auth : Option AuthInfo)

/-- The objects that `f` makes of what the resolver `p` returns. -/
def leads {α : Type} (p : QueryProg α) (f : α → List Node) : QueryProg (List Node) :=
  p >>= fun a => .done (f a)

/-- What a field of the root leads to. -/
def RootField.nodes : RootField → QueryProg (List Node)
  | .me => leads (Query.me auth) fun rec => [.user rec]
  | .inst slug => leads (Query.instanceOfSlug auth slug) fun rec => rec.toList.map Node.inst
  | .publicInstances => leads Query.publicInstances
      (List.map fun rec => Node.publicInstance rec.name rec.slug)
  | .tickets instanceId status assignedTo after before first last =>
      leads (Query.tickets auth instanceId status assignedTo after before first last) fun page =>
        page.edges.map fun edge => Node.ticket edge.2
  | .ticket id => leads (Query.ticket auth id) fun rec => rec.toList.map Node.ticket
  | .projects instanceId includeArchived =>
      leads (Query.projects libs auth instanceId includeArchived) (List.map Node.project)
  | .project id => leads (Query.project auth id) fun rec => rec.toList.map Node.project
  | .billableItems instanceId projectId filter first after =>
      leads (Query.billableItems libs auth instanceId projectId filter first after) fun page =>
        page.edges.map fun edge => Node.item edge.2 none
  | .invoices instanceId projectId filter first after =>
      leads (Query.invoices libs auth instanceId projectId filter first after) fun page =>
        page.edges.map fun edge => Node.invoice edge.2
  | .invoice id => leads (Query.invoice auth id) fun rec => rec.toList.map Node.invoice
  | .adminInstances => leads (Query.adminInstances auth) (List.map Node.inst)
  | .adminInstance id => leads (Query.adminInstance auth id) fun rec => rec.toList.map Node.inst
  | .adminUsers => leads (Query.adminUsers auth) (List.map Node.user)
  | .adminUser id => leads (Query.adminUser auth id) fun rec => rec.toList.map Node.user

/-- What the fields of an object lead to. -/
def Node.fields : Node → List (QueryProg (List Node))
  | .publicInstance .. | .address _ | .content .. => []
  | .inst rec =>
      [leads (Query.inboundAddresses auth rec) (List.map Node.address),
        leads (Query.members auth rec) (List.map fun m => Node.member rec.id m.1 m.2),
        leads (Query.apiTokens auth rec) (List.map Node.apiToken)]
  | .member _ rec _ => [.done [.user rec]]
  | .apiToken rec =>
      [leads (Query.userOf libs "createdBy" (some rec.createdByUserId)) fun rec =>
        rec.toList.map Node.user]
  | .user rec =>
      [leads (Query.memberships auth rec) (List.map fun m => Node.membership m.1 m.2)]
  | .membership _ rec => [.done [.inst rec]]
  | .ticket rec =>
      [leads (Query.instanceOf libs rec.instanceId) fun rec => [.inst rec],
        leads (Query.userOf libs "assignee" rec.assigneeUserId) fun rec => rec.toList.map Node.user,
        leads (Query.messages auth rec) (List.map Node.message)]
  | .message rec =>
      [leads (Query.userOf libs "author" rec.content.authorUserId) fun rec =>
        rec.toList.map Node.user]
  | .project rec => [leads (Query.instanceOf libs rec.instanceId) fun rec => [.inst rec]]
  | .item rec parentInvoice =>
      [leads (Query.projectOf libs rec.projectId) fun rec => [.project rec],
        leads (Query.invoiceOf libs rec parentInvoice) fun rec => rec.toList.map Node.invoice]
  | .invoice rec =>
      [leads (Query.projectOf libs rec.projectId) fun rec => [.project rec],
        leads (Query.invoiceItems rec) (List.map fun item => Node.item item (some rec)),
        leads (Query.effective libs rec) fun snapshot => [.content rec snapshot]]

/-- The objects that a request of the principal can reach, reading the store. -/
inductive Shown (s : SystemStore) : Node → Prop
  | root {field : RootField} {nodes : List Node} {node : Node}
      (h : Gives s.Answers (field.nodes libs auth) (.ok nodes)) (hnode : node ∈ nodes) :
      Shown s node
  | field {parent node : Node} {p : QueryProg (List Node)} {nodes : List Node}
      (hparent : Shown s parent) (hp : p ∈ parent.fields libs auth)
      (h : Gives s.Answers p (.ok nodes)) (hnode : node ∈ nodes) : Shown s node

end fields

end Microticket

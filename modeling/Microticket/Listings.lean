import Microticket.AdminMutations
import Microticket.InvoiceStore
import Microticket.Pagination
import Mathlib.Data.Prod.Lex
import Mathlib.Data.String.Basic

/-! # The paged listings

`list_billable_items`, `list_invoices` and `list_tickets` of `dynamodb.rs`, and the queries
`billableItems`, `invoices` and `tickets`, over tables that do not change.  An index holds a row in the
partition of its hash attribute, in the order of its sort key and then of its `id`; a row without the
attribute is not in the index.  What `Query` leaves open are the `rounds`. -/

namespace Microticket

open RustText Keyset Tables

/-! ### Indexes -/

/-- The rows of a partition of an index. -/
def partition {α : Type} (t : Table String α) (hash : α → Option String) (value : String) : List α :=
  (t.entries.map Sigma.snd).filter fun row => hash row == some value

/-- The `loop` of the listings.  A round that gives a key to go on from has examined a row, so there are
no more of these than rows. -/
def queryLoop {α K : Type} [LinearOrder K] (key : α → K) (scanForward : Bool) (rows : List α)
    (filterExpression : Option (α → Bool)) (limit : Option ℕ) (fetchLimit : ℕ)
    (exclusiveStartKey : Option K) (rounds : ℕ → Round) : List α :=
  gather key scanForward (scan key scanForward rows) (filterExpression.getD fun _ => true) limit
    fetchLimit (rows.length + 1) rounds exclusiveStartKey []

/-- `db::BillableItemScope` and `db::InvoiceScope`. -/
inductive ListScope where
  | inst (id : String)
  | project (id : String)
  deriving DecidableEq

/-! ### Billable items -/

/-- `db::BillableItemFilter` and `BillableItemFilterType`. -/
inductive BillableItemFilter where
  | all
  | unbilled
  | billed
  deriving DecidableEq

/-- The sort key `date`, and the key of the table. -/
def itemKey (i : BillableItem) : String ×ₗ String := toLex (i.date, i.id)

def BillableItemCursor.key (c : BillableItemCursor) : String ×ₗ String := toLex (c.date, c.id)

/-- The index of a scope, and the value of its hash attribute. -/
def ListScope.itemIndex : ListScope → (BillableItem → Option String) × String
  | .inst id => (fun i => some i.instanceId, id)
  | .project id => (fun i => some i.projectId, id)

def BillableItemFilter.expression : BillableItemFilter → Option (BillableItem → Bool)
  | .all => none
  | .unbilled => some fun i => i.invoiceId.isNone
  | .billed => some fun i => i.invoiceId.isSome

/-- `list_billable_items`. -/
def listBillableItems (items : Table String BillableItem) (scope : ListScope)
    (filter : BillableItemFilter) (after : Option BillableItemCursor) (limit : ℤ)
    (rounds : ℕ → Round) : List BillableItem :=
  let fetchLimit := limit.toNat
  if fetchLimit = 0 then []
  else
    let (hash, keyValue) := scope.itemIndex
    let limit := if filter.expression.isNone then some fetchLimit else none
    (queryLoop itemKey false (partition items hash keyValue) filter.expression limit fetchLimit
      (after.map BillableItemCursor.key) rounds).take fetchLimit

/-! ### Invoices -/

/-- `db::InvoiceListFilter` and `InvoiceFilterType`. -/
inductive InvoiceListFilter where
  | all
  | draft
  | unpaid
  | paid
  deriving DecidableEq

/-- The sort key `created_at`, and the key of the table. -/
def invoiceKey (i : Invoice) : ℕ ×ₗ String := toLex (i.createdAt, i.id)

def InvoiceCursor.key (c : InvoiceCursor) : ℕ ×ₗ String := toLex (c.createdAt, c.id)

/-- The index of a scope, and the value of its hash attribute. -/
def ListScope.invoiceIndex : ListScope → (Invoice → Option String) × String
  | .inst id => (fun i => some i.instanceId, id)
  | .project id => (fun i => some i.projectId, id)

def InvoiceListFilter.expression : InvoiceListFilter → Option (Invoice → Bool)
  | .all => none
  | .draft => some fun i => i.status == .draft
  | .unpaid => some fun i => i.status == .finalized && i.paidDate.isNone
  | .paid => some fun i => i.status == .finalized && i.paidDate.isSome

/-- `list_invoices`. -/
def listInvoices (invoices : Table String Invoice) (scope : ListScope) (filter : InvoiceListFilter)
    (after : Option InvoiceCursor) (limit : ℤ) (rounds : ℕ → Round) : List Invoice :=
  let fetchLimit := limit.toNat
  if fetchLimit = 0 then []
  else
    let (hash, keyValue) := scope.invoiceIndex
    let limit := if filter.expression.isNone then some fetchLimit else none
    (queryLoop invoiceKey false (partition invoices hash keyValue) filter.expression limit fetchLimit
      (after.map InvoiceCursor.key) rounds).take fetchLimit

/-! ### Tickets -/

/-- `db::TicketListFilter`. -/
inductive TicketListFilter where
  | status (status : TicketStatus)
  | visible
  | assignedTo (userId : String) (status : Option TicketStatus)
  deriving DecidableEq

/-- `db::ListTicketsPage`. -/
structure ListTicketsPage where
  after : Option TicketCursor
  before : Option TicketCursor
  limit : ℤ
  descending : Bool

/-- `page_scan_direction`. -/
def pageScanDirection (hasAfter hasBefore descending : Bool) : Bool × Bool :=
  let scanForward := match hasAfter, hasBefore with
    | true, _ => !descending
    | false, true => descending
    | false, false => !descending
  (scanForward, hasBefore && !hasAfter)

/-- The sort key `last_activity_at`, and the key of the table. -/
def ticketKey (row : TicketRow) : ℕ ×ₗ String := toLex (row.record.lastActivityAt, row.record.id)

def TicketCursor.key (c : TicketCursor) : ℕ ×ₗ String := toLex (c.lastActivityAt, c.id)

/-- The index of a filter, the value of its hash attribute, and the status to filter by. -/
def TicketListFilter.index (instanceId : String) :
    TicketListFilter → (TicketRow → Option String) × String × Option TicketStatus
  | .status wanted =>
      (fun row => some row.markers.instanceStatus, s!"{instanceId}#{wanted.asStr}", none)
  | .visible => (fun row => row.markers.instanceVisible, instanceId, none)
  | .assignedTo userId wanted =>
      (fun row => row.markers.instanceAssignee, s!"{instanceId}#{userId}", wanted)

/-- `list_tickets`: the rows whose records it returns. -/
def listTickets (tickets : Table String TicketRow) (instanceId : String) (filter : TicketListFilter)
    (page : ListTicketsPage) (rounds : ℕ → Round) : List TicketRow :=
  let fetchLimit := page.limit.toNat
  let (scanForward, reverseOutput) :=
    pageScanDirection page.after.isSome page.before.isSome page.descending
  let (hash, keyValue, statusFilter) := filter.index instanceId
  let filterExpression := statusFilter.map fun status row => row.record.status == status
  let found := queryLoop ticketKey scanForward (partition tickets hash keyValue) filterExpression
    (some fetchLimit) fetchLimit ((page.after.or page.before).map TicketCursor.key) rounds
  if reverseOutput then found.reverse else found

/-! ### The queries -/

section queries
variable (libs : CodeLibs) (dates : DateFormat) (auth : Option AuthInfo)

/-- The guard `AuthRequirement::Member`. -/
def passMember (instanceId : String) : Except Error Unit :=
  match auth with
  | some (.user _ memberships _) =>
      if isMember memberships instanceId then .ok ()
      else .error (.api .unauthenticated "Must be a member of this instance")
  | _ => .error (.api .unauthenticated "Must be a member of this instance")

/-- What `billable_items` and `invoices` check first: the instance and the project. -/
def resolveScope (d : InvoiceDb) (instanceId : String) (projectId : Option String) :
    Except Error ListScope := do
  passMember auth instanceId
  match d.instances.lookup instanceId with
  | none => throw (.notFound "Instance" instanceId)
  | some inst =>
      (requireInstanceKind libs inst .invoicing).mapError .other
      match projectId with
      | none => return .inst instanceId
      | some projectId =>
          match (d.projects.lookup projectId).filter fun p => p.instanceId == inst.id with
          | none => throw (.notFound "Project" projectId)
          | some _ => return .project projectId

/-- `billable_items`. -/
def billableItems (d : InvoiceDb) (instanceId : String) (projectId : Option String)
    (filter : BillableItemFilter) (first : Option ℤ) (after : Option String) (rounds : ℕ → Round) :
    Except Error (Connection BillableItem) := do
  let scope ← resolveScope libs auth d instanceId projectId
  let afterCursor ← after.mapM (decodeBillableItemCursor dates libs.debug)
  let (pageSize, _) ← paginationArgs first none 25 100
  let items := listBillableItems d.items scope filter afterCursor (pageSize + 1) rounds
  return buildConnection items pageSize false afterCursor.isSome false fun i =>
    (encodeBillableItemCursor i, i)

/-- `invoices`. -/
def invoices (d : InvoiceDb) (instanceId : String) (projectId : Option String)
    (filter : InvoiceListFilter) (first : Option ℤ) (after : Option String) (rounds : ℕ → Round) :
    Except Error (Connection Invoice) := do
  let scope ← resolveScope libs auth d instanceId projectId
  let afterCursor ← after.mapM decodeInvoiceCursor
  let (pageSize, _) ← paginationArgs first none 25 100
  let invoices := listInvoices d.invoices scope filter afterCursor (pageSize + 1) rounds
  return buildConnection invoices pageSize false afterCursor.isSome false fun i =>
    (encodeInvoiceCursor i, i)

/-- `TicketStatusFilterType`. -/
inductive TicketStatusFilter where
  | open
  | closed
  | all
  | deleted
  deriving DecidableEq

/-- The filter that `tickets` lists by. -/
def ticketListFilter (status : TicketStatusFilter) (assignedTo : Option String) : TicketListFilter :=
  match assignedTo with
  | some uid => .assignedTo uid (match status with
    | .open => some .open
    | .closed => some .closed
    | .all => none
    | .deleted => some .deleted)
  | none => match status with
    | .open => .status .open
    | .closed => .status .closed
    | .all => .visible
    | .deleted => .status .deleted

/-- What `tickets` checks of the caller. -/
def passTickets (instanceId : String) (status : TicketStatusFilter) : Except Error Unit := do
  passMember auth instanceId
  match auth with
  | some (.user _ memberships _) =>
      if status = .deleted ∧ !isOwner memberships instanceId then
        throw (.forbidden "Only an owner can list deleted tickets")
  | _ => throw (.forbidden "Must be authenticated as a user")

/-- `tickets`. -/
def tickets (d : TicketDb) (instanceId : String) (status : TicketStatusFilter)
    (assignedTo after before : Option String) (first last : Option ℤ) (rounds : ℕ → Round) :
    Except Error (Connection Ticket) := do
  passTickets auth instanceId status
  let afterCursor ← after.mapM decodeTicketCursor
  let beforeCursor ← before.mapM decodeTicketCursor
  let (pageSize, isLastMode) ← paginationArgs first last 25 100
  let page := ⟨afterCursor, beforeCursor, pageSize + 1, !isLastMode⟩
  let items := listTickets d.tickets instanceId (ticketListFilter status assignedTo) page rounds
  return buildConnection items pageSize isLastMode afterCursor.isSome beforeCursor.isSome fun row =>
    (encodeTicketCursor row.record, row.record)

end queries

end Microticket

import Microticket.Answers
import Microticket.Listings
import Microticket.SystemStore

/-! # The queries

`QueryRoot` and the objects of `graphql/query.rs`, as programs over reads (`QueryOp`).  A read sees a
committed version of the tables, as old as it may be, and the rounds of a listing may see different
ones (`SystemStore.query`).  An object is a `Node`; `RootField.nodes` and `Node.fields` give what a field
leads to.

Left out are the fields that are plain attributes of an object, those that presign a download or read
the tables of passkeys, grants and counters, and `oauthAuthorizationRequest`. -/

namespace Microticket

open Interleaving Keyset Tables

/-! ### Reads -/

/-- The reads. -/
inductive QueryOp where
  | getUser (id : String)
  | listUsers
  | listMembershipsByUser (userId : String)
  | listMembershipsByInstance (instanceId : String)
  | getInstance (id : String)
  | getInstanceIdBySlug (slug : String)
  | listInstances
  | listInboundAddressesByInstance (instanceId : String)
  | listApiTokensByInstance (instanceId : String)
  | getProject (id : String)
  | listProjectsByInstance (instanceId : String)
  | getBillableItem (id : String)
  | listBillableItems (scope : ListScope) (filter : BillableItemFilter)
      (after : Option BillableItemCursor) (limit : ℤ)
  | getInvoice (id : String)
  | listInvoices (scope : ListScope) (filter : InvoiceListFilter) (after : Option InvoiceCursor)
      (limit : ℤ)
  | getTicket (id : String)
  | listTickets (instanceId : String) (filter : TicketListFilter) (page : ListTicketsPage)
  | listTicketMessages (ticketId : String)

/-- What a read returns. -/
@[reducible] def QueryOp.Ret : QueryOp → Type
  | .getUser _ => Option UserRow
  | .listUsers => List UserRow
  | .listMembershipsByUser _ | .listMembershipsByInstance _ => List MembershipRow
  | .getInstance _ => Option Instance
  | .getInstanceIdBySlug _ => Option String
  | .listInstances => List Instance
  | .listInboundAddressesByInstance _ => List InboundAddress
  | .listApiTokensByInstance _ => List ApiToken
  | .getProject _ => Option ProjectRow
  | .listProjectsByInstance _ => List ProjectRow
  | .getBillableItem _ => Option BillableItem
  | .listBillableItems .. => List BillableItem
  | .getInvoice _ => Option Invoice
  | .listInvoices .. => List Invoice
  | .getTicket _ => Option Ticket
  | .listTickets .. => List TicketRow
  | .listTicketMessages _ => List TicketMessage

/-- The answer to a read. -/
@[reducible] def QueryOp.Res (op : QueryOp) : Type := Except DbError op.Ret

/-- What the tables do not decide: how old the version is that each round of a read sees, what the
rounds of a listing examine and how many there are, and whether the answer arrives. -/
structure QueryEnv where
  lags : ℕ → ℕ
  rounds : ℕ → Round
  count : ℕ
  fault : Fault

/-- `query_all` and `scan_all`. -/
def QueryEnv.all {α : Type} (e : QueryEnv) (id : α → String) (rows : ℕ → List α) : List α :=
  gatherVersions id true (fun _ => true) none (fun _ => false) e.count rows e.rounds none []

/-- `queryLoop` where every round reads the rows as they are by then. -/
def QueryEnv.loop {α K : Type} [LinearOrder K] (e : QueryEnv) (key : α → K) (scanForward : Bool)
    (rows : ℕ → List α) (filterExpression : Option (α → Bool)) (limit : Option ℕ) (fetchLimit : ℕ)
    (exclusiveStartKey : Option K) : List α :=
  gatherVersions key scanForward (filterExpression.getD fun _ => true) limit
    (fun n => decide (fetchLimit ≤ n)) e.count rows e.rounds exclusiveStartKey []

namespace QueryEnv

variable (e : QueryEnv)

/-- `list_billable_items`. -/
def listBillableItems (items : ℕ → Table String BillableItem) (scope : ListScope)
    (filter : BillableItemFilter) (after : Option BillableItemCursor) (limit : ℤ) :
    List BillableItem :=
  let fetchLimit := limit.toNat
  if fetchLimit = 0 then []
  else
    let (hash, keyValue) := scope.itemIndex
    let limit := if filter.expression.isNone then some fetchLimit else none
    (e.loop itemKey false (fun n => partition (items n) hash keyValue) filter.expression limit
      fetchLimit (after.map BillableItemCursor.key)).take fetchLimit

/-- `list_invoices`. -/
def listInvoices (invoices : ℕ → Table String Invoice) (scope : ListScope)
    (filter : InvoiceListFilter) (after : Option InvoiceCursor) (limit : ℤ) : List Invoice :=
  let fetchLimit := limit.toNat
  if fetchLimit = 0 then []
  else
    let (hash, keyValue) := scope.invoiceIndex
    let limit := if filter.expression.isNone then some fetchLimit else none
    (e.loop invoiceKey false (fun n => partition (invoices n) hash keyValue) filter.expression limit
      fetchLimit (after.map InvoiceCursor.key)).take fetchLimit

/-- `list_tickets`. -/
def listTickets (tickets : ℕ → Table String TicketRow) (instanceId : String)
    (filter : TicketListFilter) (page : ListTicketsPage) : List TicketRow :=
  let fetchLimit := page.limit.toNat
  let (scanForward, reverseOutput) :=
    pageScanDirection page.after.isSome page.before.isSome page.descending
  let (hash, keyValue, statusFilter) := filter.index instanceId
  let filterExpression := statusFilter.map fun status row => row.record.status == status
  let found := e.loop ticketKey scanForward (fun n => partition (tickets n) hash keyValue)
    filterExpression (some fetchLimit) fetchLimit
    ((page.after.or page.before).map TicketCursor.key)
  if reverseOutput then found.reverse else found

end QueryEnv

/-! ### The listings of one version -/

section constant
variable (e : QueryEnv)

/-- On tables that do not change, and with rounds enough, the listings are those of `Listings`. -/
theorem listBillableItems_const (items : Table String BillableItem) (scope : ListScope)
    (filter : BillableItemFilter) (after : Option BillableItemCursor) (limit : ℤ)
    (hcount : e.count = (partition items scope.itemIndex.1 scope.itemIndex.2).length + 1) :
    e.listBillableItems (fun _ => items) scope filter after limit =
      listBillableItems items scope filter after limit e.rounds := by
  unfold QueryEnv.listBillableItems listBillableItems QueryEnv.loop queryLoop
  simp only [gatherVersions_const, hcount]

theorem listInvoices_const (invoices : Table String Invoice) (scope : ListScope)
    (filter : InvoiceListFilter) (after : Option InvoiceCursor) (limit : ℤ)
    (hcount : e.count = (partition invoices scope.invoiceIndex.1 scope.invoiceIndex.2).length + 1) :
    e.listInvoices (fun _ => invoices) scope filter after limit =
      listInvoices invoices scope filter after limit e.rounds := by
  unfold QueryEnv.listInvoices listInvoices QueryEnv.loop queryLoop
  simp only [gatherVersions_const, hcount]

theorem listTickets_const (tickets : Table String TicketRow) (instanceId : String)
    (filter : TicketListFilter) (page : ListTicketsPage)
    (hcount : e.count =
      (partition tickets (filter.index instanceId).1 (filter.index instanceId).2.1).length + 1) :
    e.listTickets (fun _ => tickets) instanceId filter page =
      listTickets tickets instanceId filter page e.rounds := by
  unfold QueryEnv.listTickets listTickets QueryEnv.loop queryLoop
  simp only [gatherVersions_const, hcount]

end constant

/-! ### Answers -/

namespace SystemStore

variable (s : SystemStore) (e : QueryEnv)

/-- The versions that the rounds of a read see. -/
def adminVersion (n : ℕ) : AdminDb := s.admin.db.seen (e.lags n)
def invoiceVersion (n : ℕ) : InvoiceDb := s.invoices.db.seen (e.lags n)
def ticketVersion (n : ℕ) : TicketDb := s.tickets.db.seen (e.lags n)

/-- Answer a read. -/
def query : (op : QueryOp) → op.Res
  | .getUser id => e.fault.read (.ok ((s.adminVersion e 0).users.lookup id))
  | .listUsers => e.fault.read (.ok (e.all UserRow.id fun n =>
      (s.adminVersion e n).users.entries.map Sigma.snd))
  | .listMembershipsByUser userId => e.fault.read (.ok (e.all MembershipRow.id fun n =>
      partition (s.adminVersion e n).memberships (fun row => some row.userId) userId))
  | .listMembershipsByInstance instanceId => e.fault.read (.ok (e.all MembershipRow.id fun n =>
      partition (s.adminVersion e n).memberships (fun row => some row.instanceId) instanceId))
  | .getInstance id => e.fault.read (.ok ((s.adminVersion e 0).instances.lookup id))
  | .getInstanceIdBySlug slug => e.fault.read ((s.adminVersion e 0).instanceIdBySlug slug)
  | .listInstances => e.fault.read (.ok (e.all Instance.id fun n =>
      (s.adminVersion e n).instances.entries.map Sigma.snd))
  | .listInboundAddressesByInstance instanceId =>
      e.fault.read (.ok (e.all InboundAddress.address fun n =>
        partition (s.ticketVersion e n).addresses (fun row => some row.instanceId) instanceId))
  | .listApiTokensByInstance instanceId => e.fault.read (.ok (e.all ApiToken.id fun n =>
      partition (s.adminVersion e n).apiTokens (fun row => some row.instanceId) instanceId))
  | .getProject id => e.fault.read (.ok ((s.adminVersion e 0).projects.lookup id))
  | .listProjectsByInstance instanceId =>
      e.fault.read (.ok (e.all (fun row => row.id) fun n =>
        partition (s.adminVersion e n).projects (fun row => some row.instanceId) instanceId))
  | .getBillableItem id => e.fault.read (.ok ((s.invoiceVersion e 0).items.lookup id))
  | .listBillableItems scope filter after limit => e.fault.read (.ok
      (e.listBillableItems (fun n => (s.invoiceVersion e n).items) scope filter after limit))
  | .getInvoice id => e.fault.read (.ok ((s.invoiceVersion e 0).invoices.lookup id))
  | .listInvoices scope filter after limit => e.fault.read (.ok
      (e.listInvoices (fun n => (s.invoiceVersion e n).invoices) scope filter after limit))
  | .getTicket id =>
      e.fault.read (.ok (((s.ticketVersion e 0).tickets.lookup id).map TicketRow.record))
  | .listTickets instanceId filter page => e.fault.read (.ok
      (e.listTickets (fun n => (s.ticketVersion e n).tickets) instanceId filter page))
  | .listTicketMessages ticketId =>
      e.fault.read (.ok ((e.all TicketMessage.id fun n =>
        partition (s.ticketVersion e n).messages (fun row => some row.content.ticketId)
          ticketId).mergeSort TicketDb.olderMessage))

/-- The answers that a read may be given. -/
def Answers (op : QueryOp) (r : op.Res) : Prop := ∃ e, r = s.query e op

end SystemStore

/-! ### Guards -/

/-- `AuthRequirement`. -/
inductive AuthRequirement where
  | authenticated
  | member (instanceId : String)
  | instanceOwner (instanceId : String)
  | requester
  | superuser
  | instanceOwnerOrSuperuser (instanceId : String)
  | apiToken

/-- The principals that a requirement admits. -/
def AuthRequirement.admits : AuthRequirement → Option AuthInfo → Bool
  | .authenticated, some (.user ..) | .authenticated, some (.requester ..) => true
  | .member instanceId, some (.user _ memberships _) => isMember memberships instanceId
  | .instanceOwner instanceId, some (.user _ memberships _) => isOwner memberships instanceId
  | .requester, some (.requester ..) => true
  | .superuser, some (.user _ _ isSuperuser) => isSuperuser
  | .instanceOwnerOrSuperuser instanceId, some (.user _ memberships isSuperuser) =>
      isSuperuser || isOwner memberships instanceId
  | .apiToken, some (.apiToken ..) => true
  | _, _ => false

/-- What a principal who is not admitted is told. -/
def AuthRequirement.message : AuthRequirement → String
  | .authenticated => "Must be authenticated"
  | .member _ => "Must be a member of this instance"
  | .instanceOwner _ => "Must be an owner of this instance"
  | .requester => "Must provide a requester submit token"
  | .superuser => "Must be a superuser"
  | .instanceOwnerOrSuperuser _ => "Must be an owner of this instance, or a superuser"
  | .apiToken => "Must provide a valid API token"

/-- `AuthGuard::check`. -/
def AuthRequirement.check (requirement : AuthRequirement) (auth : Option AuthInfo) :
    Except Error Unit :=
  if requirement.admits auth then .ok ()
  else .error (.api .unauthenticated requirement.message)

end Microticket

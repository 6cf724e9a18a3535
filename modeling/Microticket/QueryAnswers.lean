import Microticket.QueryResolvers
import Microticket.SystemTickets
import Microticket.TicketQueue

/-! # What the answers to reads tell

Every version that a read can see fits the directory, so what it answers does (`query_tells`): a row that
is found by its id is where the directory says, and a row of a listing is also of the project, instance
or ticket that was asked for. -/

namespace Microticket

open Interleaving Keyset Tables

/-! ### Rows of listings -/

section listings
variable {e : QueryEnv}

theorem mem_all {α : Type} {id : α → String} {rows : ℕ → List α} {row : α}
    (h : row ∈ e.all id rows) : ∃ n, row ∈ rows n := by
  rcases mem_gatherVersions h with h | ⟨-, hrow⟩
  · cases h
  · exact hrow

theorem mem_loop {α K : Type} [LinearOrder K] {key : α → K} {scanForward : Bool}
    {rows : ℕ → List α} {filterExpression : Option (α → Bool)} {limit : Option ℕ} {fetchLimit : ℕ}
    {start : Option K} {row : α}
    (h : row ∈ e.loop key scanForward rows filterExpression limit fetchLimit start) :
    (∀ test ∈ filterExpression, test row) ∧ ∃ n, row ∈ rows n := by
  rcases mem_gatherVersions h with h | ⟨hhit, hrow⟩
  · cases h
  · refine ⟨fun test htest => ?_, hrow⟩
    obtain rfl := Option.mem_def.mp htest
    exact hhit

/-- A row of a partition is stored, and has the value. -/
theorem mem_partition {α : Type} {t : Table String α} {hash : α → Option String} {value : String}
    {row : α} (h : row ∈ partition t hash value) :
    (∃ id, t.lookup id = some row) ∧ hash row = some value := by
  obtain ⟨hrow, hvalue⟩ := List.mem_filter.mp h
  obtain ⟨⟨id, row'⟩, hentry, rfl⟩ := List.mem_map.mp hrow
  exact ⟨⟨id, AList.mem_lookup_iff.mpr hentry⟩, eq_of_beq hvalue⟩

theorem mem_listBillableItems {items : ℕ → Table String BillableItem} {scope : ListScope}
    {filter : BillableItemFilter} {after : Option BillableItemCursor} {limit : ℤ}
    {item : BillableItem} (h : item ∈ e.listBillableItems items scope filter after limit) :
    (∃ n id, (items n).lookup id = some item) ∧ scope.itemIndex.1 item = some scope.itemIndex.2 := by
  unfold QueryEnv.listBillableItems at h
  dsimp only at h
  split at h
  · cases h
  · obtain ⟨n, hrow⟩ := (mem_loop (List.mem_of_mem_take h)).2
    obtain ⟨⟨id, hid⟩, hvalue⟩ := mem_partition hrow
    exact ⟨⟨n, id, hid⟩, hvalue⟩

theorem mem_listInvoices {invoices : ℕ → Table String Invoice} {scope : ListScope}
    {filter : InvoiceListFilter} {after : Option InvoiceCursor} {limit : ℤ} {invoice : Invoice}
    (h : invoice ∈ e.listInvoices invoices scope filter after limit) :
    (∃ n id, (invoices n).lookup id = some invoice) ∧
      scope.invoiceIndex.1 invoice = some scope.invoiceIndex.2 := by
  unfold QueryEnv.listInvoices at h
  dsimp only at h
  split at h
  · cases h
  · obtain ⟨n, hrow⟩ := (mem_loop (List.mem_of_mem_take h)).2
    obtain ⟨⟨id, hid⟩, hvalue⟩ := mem_partition hrow
    exact ⟨⟨n, id, hid⟩, hvalue⟩

theorem mem_listTickets {tickets : ℕ → Table String TicketRow} {instanceId : String}
    {filter : TicketListFilter} {page : ListTicketsPage} {row : TicketRow}
    (h : row ∈ e.listTickets tickets instanceId filter page) :
    (∃ n id, (tickets n).lookup id = some row) ∧ filter.Holds instanceId row := by
  unfold QueryEnv.listTickets at h
  dsimp only at h
  generalize pageScanDirection page.after.isSome page.before.isSome page.descending = direction at h
  have hfound : row ∈ e.loop ticketKey direction.1
      (fun n => partition (tickets n) (filter.index instanceId).1 (filter.index instanceId).2.1)
      ((filter.index instanceId).2.2.map fun status row => row.record.status == status)
      (some page.limit.toNat) page.limit.toNat
      ((page.after.or page.before).map TicketCursor.key) := by
    split at h
    · exact List.mem_reverse.mp h
    · exact h
  obtain ⟨htest, n, hrow⟩ := mem_loop hfound
  obtain ⟨⟨id, hid⟩, hvalue⟩ := mem_partition hrow
  refine ⟨⟨n, id, hid⟩, hvalue, fun status hstatus => ?_⟩
  exact eq_of_beq (htest _ (Option.mem_map_of_mem _ hstatus))

end listings

/-! ### Answers -/

section answers
variable {s : SystemStore} {dir : Directory}

/-- What the answer to a read tells. -/
def QueryOp.Tells (s : SystemStore) (dir : Directory) : (op : QueryOp) → op.Ret → Prop
  | .getInstance id, inst => ∀ rec ∈ inst, dir.IsInstance id rec
  | .listInstances, insts => ∀ rec ∈ insts, ∃ d id, s.admin.db.Committed d ∧
      d.instances.lookup id = some rec
  | .listInboundAddressesByInstance instanceId, rows => ∀ rec ∈ rows, rec.instanceId = instanceId
  | .listApiTokensByInstance instanceId, rows => ∀ rec ∈ rows, rec.instanceId = instanceId
  | .getProject id, row => ∀ rec ∈ row, dir.IsProject id rec.toProject
  | .listProjectsByInstance instanceId, rows => ∀ rec ∈ rows,
      dir.IsProject rec.id rec.toProject ∧ rec.instanceId = instanceId
  | .getBillableItem id, item => ∀ rec ∈ item, dir.IsItem id rec
  | .listBillableItems scope _ _ _, items => ∀ rec ∈ items,
      dir.IsItem rec.id rec ∧ scope.itemIndex.1 rec = some scope.itemIndex.2
  | .getInvoice id, invoice => ∀ rec ∈ invoice, dir.IsInvoice id rec
  | .listInvoices scope _ _ _, invoices => ∀ rec ∈ invoices,
      dir.IsInvoice rec.id rec ∧ scope.invoiceIndex.1 rec = some scope.invoiceIndex.2
  | .getTicket id, ticket => ∀ rec ∈ ticket, dir.IsTicket id rec ∧ ∃ d row,
      s.tickets.db.Committed d ∧ d.tickets.lookup id = some row ∧ row.record = rec
  | .listTickets instanceId filter _, rows => ∀ row ∈ rows, filter.Holds instanceId row ∧
      dir.IsTicket row.record.id row.record ∧ ∃ d, s.tickets.db.Committed d ∧
        d.tickets.lookup row.record.id = some row
  | .listTicketMessages ticketId, messages => ∀ rec ∈ messages,
      dir.IsMessage rec.id rec ∧ rec.content.ticketId = ticketId
  | _, _ => True

theorem query_tells (h : s.Fits dir) {op : QueryOp} {a : op.Ret} (hans : s.Answers op (.ok a)) :
    op.Tells s dir a := by
  obtain ⟨e, hans⟩ := hans
  have hadmin : ∀ n, (s.adminVersion e n).Fits dir :=
    fun n => h.admin _ (Replica.committed_seen _ _)
  have hinvoices : ∀ n, (s.invoiceVersion e n).Fits dir :=
    fun n => h.invoices _ (Replica.committed_seen _ _)
  have htickets : ∀ n, (s.ticketVersion e n).Fits dir :=
    fun n => h.tickets _ (Replica.committed_seen _ _)
  cases op with
  | getInstance id =>
      intro rec hrec
      obtain rfl := Except.ok.inj (Fault.read_ok hans.symm)
      exact (hadmin 0).instances hrec
  | listInstances =>
      intro rec hrec
      obtain rfl := Except.ok.inj (Fault.read_ok hans.symm)
      obtain ⟨n, hrow⟩ := mem_all hrec
      obtain ⟨⟨id, row⟩, hentry, rfl⟩ := List.mem_map.mp hrow
      exact ⟨_, id, Replica.committed_seen _ _, AList.mem_lookup_iff.mpr hentry⟩
  | listInboundAddressesByInstance instanceId =>
      intro rec hrec
      obtain rfl := Except.ok.inj (Fault.read_ok hans.symm)
      obtain ⟨n, hrow⟩ := mem_all hrec
      exact Option.some.inj (mem_partition hrow).2
  | listApiTokensByInstance instanceId =>
      intro rec hrec
      obtain rfl := Except.ok.inj (Fault.read_ok hans.symm)
      obtain ⟨n, hrow⟩ := mem_all hrec
      exact Option.some.inj (mem_partition hrow).2
  | getProject id =>
      intro rec hrec
      obtain rfl := Except.ok.inj (Fault.read_ok hans.symm)
      exact (hadmin 0).projects hrec
  | listProjectsByInstance instanceId =>
      intro rec hrec
      obtain rfl := Except.ok.inj (Fault.read_ok hans.symm)
      obtain ⟨n, hrow⟩ := mem_all hrec
      obtain ⟨⟨id, hid⟩, hinst⟩ := mem_partition hrow
      have hproject := (hadmin n).projects hid
      exact ⟨hproject.1.symm ▸ hproject, Option.some.inj hinst⟩
  | getBillableItem id =>
      intro rec hrec
      obtain rfl := Except.ok.inj (Fault.read_ok hans.symm)
      exact (hinvoices 0).items hrec
  | listBillableItems scope filter after limit =>
      intro rec hrec
      obtain rfl := Except.ok.inj (Fault.read_ok hans.symm)
      obtain ⟨⟨n, id, hid⟩, hvalue⟩ := mem_listBillableItems hrec
      have hitem := (hinvoices n).items hid
      exact ⟨hitem.1.symm ▸ hitem, hvalue⟩
  | getInvoice id =>
      intro rec hrec
      obtain rfl := Except.ok.inj (Fault.read_ok hans.symm)
      exact (hinvoices 0).invoices hrec
  | listInvoices scope filter after limit =>
      intro rec hrec
      obtain rfl := Except.ok.inj (Fault.read_ok hans.symm)
      obtain ⟨⟨n, id, hid⟩, hvalue⟩ := mem_listInvoices hrec
      have hinvoice := (hinvoices n).invoices hid
      exact ⟨hinvoice.1.symm ▸ hinvoice, hvalue⟩
  | getTicket id =>
      intro rec hrec
      obtain rfl := Except.ok.inj (Fault.read_ok hans.symm)
      obtain ⟨row, hrow, rfl⟩ := Option.map_eq_some_iff.mp hrec
      exact ⟨(htickets 0).tickets hrow, _, row, Replica.committed_seen _ _, hrow, rfl⟩
  | listTickets instanceId filter page =>
      intro row hrow
      obtain rfl := Except.ok.inj (Fault.read_ok hans.symm)
      obtain ⟨⟨n, id, hid⟩, hholds⟩ := mem_listTickets hrow
      have hticket := (htickets n).tickets hid
      obtain rfl := hticket.1
      exact ⟨hholds, hticket, _, Replica.committed_seen _ _, hid⟩
  | listTicketMessages ticketId =>
      intro rec hrec
      obtain rfl := Except.ok.inj (Fault.read_ok hans.symm)
      obtain ⟨n, hrow⟩ := mem_all (List.mem_mergeSort.mp hrec)
      obtain ⟨⟨id, hid⟩, hticket⟩ := mem_partition hrow
      have hmessage := (htickets n).messages hid
      exact ⟨hmessage.1.symm ▸ hmessage, Option.some.inj hticket⟩
  | _ => trivial

/-- A read gives what its answers tell. -/
theorem fetch_tells (h : s.Fits dir) (op : QueryOp) :
    Always s.Answers (op.Tells s dir) (fetch op) := by
  intro r hr
  cases r with
  | error err => trivial
  | ok a => exact query_tells h hr

theorem loadOne_tells (h : s.Fits dir) (libs : QueryLibs) (what : String) (op : QueryOp) :
    Always s.Answers (op.Tells s dir) (Query.loadOne libs what op) := by
  intro r hr
  cases r with
  | error err => trivial
  | ok a => exact query_tells h hr

end answers

end Microticket

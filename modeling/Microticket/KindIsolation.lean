import Microticket.AdminAccounts
import Microticket.InvoiceInvariant
import Microticket.SystemInvariant

/-! # Support and invoicing stay apart

Whatever the mutations and inbound mail do, in any interleaving, projects, billable items and invoices
are of instances of kind `invoicing`, and tickets, inbound addresses and API tokens of instances of
kind `support`; an instance keeps its kind (`kind_isolation`).  Rows refer to rows that are there and
agree with them (`references_hold`).

No write is conditional on any of this: the calls check it by reads that may be old. -/

namespace Microticket

open Interleaving Tables

/-! ### Kinds -/

/-- The instance exists and is of this kind. -/
def SystemStore.HasKind (s : SystemStore) (instanceId : String) (kind : InstanceKind) : Prop :=
  ∃ inst, s.admin.db.now.instances.lookup instanceId = some inst ∧ inst.kind = kind

/-- Every row is of an instance of its kind. -/
structure SystemStore.KindsApart (s : SystemStore) : Prop where
  project : ∀ {id row}, s.admin.db.now.projects.lookup id = some row →
    s.HasKind row.instanceId .invoicing
  item : ∀ {id item}, s.invoices.db.now.items.lookup id = some item →
    s.HasKind item.instanceId .invoicing
  invoice : ∀ {id invoice}, s.invoices.db.now.invoices.lookup id = some invoice →
    s.HasKind invoice.instanceId .invoicing
  ticket : ∀ {id row}, s.tickets.db.now.tickets.lookup id = some row →
    s.HasKind row.record.instanceId .support
  address : ∀ {address row}, s.tickets.db.now.addresses.lookup address = some row →
    s.HasKind row.instanceId .support
  apiToken : ∀ {id token}, s.admin.db.now.apiTokens.lookup id = some token →
    s.HasKind token.instanceId .support

/-! ### References -/

/-- The rows that a row refers to are there, and agree with it. -/
structure SystemStore.Refers (s : SystemStore) : Prop where
  item_project : ∀ {id item}, s.invoices.db.now.items.lookup id = some item →
    ∃ project, s.admin.db.now.projects.lookup item.projectId = some project ∧
      project.instanceId = item.instanceId
  invoice_project : ∀ {id invoice}, s.invoices.db.now.invoices.lookup id = some invoice →
    ∃ project, s.admin.db.now.projects.lookup invoice.projectId = some project ∧
      project.instanceId = invoice.instanceId
  item_invoice : ∀ {id item invoiceId invoice}, s.invoices.db.now.items.lookup id = some item →
    item.invoiceId = some invoiceId → s.invoices.db.now.invoices.lookup invoiceId = some invoice →
    invoice.place = item.place
  invoice_item : ∀ {id invoice itemId item}, s.invoices.db.now.invoices.lookup id = some invoice →
    itemId ∈ invoice.itemIds → s.invoices.db.now.items.lookup itemId = some item →
    item.place = invoice.place
  message_ticket : ∀ {id message}, s.tickets.db.now.messages.lookup id = some message →
    (s.tickets.db.now.tickets.lookup message.content.ticketId).isSome

/-- Rows of the later store `s'` are where they were in `s`. -/
structure SystemStore.Stays (s s' : SystemStore) : Prop where
  kind : ∀ {id kind}, s.HasKind id kind → s'.HasKind id kind
  project : ∀ {id row}, s.admin.db.now.projects.lookup id = some row →
    ∃ row', s'.admin.db.now.projects.lookup id = some row' ∧ row'.instanceId = row.instanceId
  item : ∀ {id item item'}, s.invoices.db.now.items.lookup id = some item →
    s'.invoices.db.now.items.lookup id = some item' → item'.place = item.place
  invoice : ∀ {id invoice invoice'}, s.invoices.db.now.invoices.lookup id = some invoice →
    s'.invoices.db.now.invoices.lookup id = some invoice' → invoice'.place = invoice.place
  ticket : ∀ {id row}, s.tickets.db.now.tickets.lookup id = some row →
    ∃ row', s'.tickets.db.now.tickets.lookup id = some row' ∧
      row'.record.instanceId = row.record.instanceId
  message : ∀ {id message}, s.tickets.db.now.messages.lookup id = some message →
    ∃ message', s'.tickets.db.now.messages.lookup id = some message' ∧
      message'.content.ticketId = message.content.ticketId

/-! ### From the directory -/

section directory
variable {s s' : SystemStore} {dir dir' : Directory}

/-- The tables as they are now fit the directory. -/
structure SystemStore.NowFits (s : SystemStore) (dir : Directory) : Prop where
  admin : s.admin.db.now.Fits dir
  invoices : s.invoices.db.now.Fits dir
  tickets : s.tickets.db.now.Fits dir

theorem SystemStore.NowFits.mono (h : s.NowFits dir) (hle : dir.Le dir') : s.NowFits dir' :=
  ⟨h.admin.mono hle, h.invoices.mono hle, h.tickets.mono hle⟩

theorem SystemStore.Fits.now (h : s.Fits dir) : s.NowFits dir :=
  ⟨h.admin _ (Replica.committed_now _), h.invoices _ (Replica.committed_now _),
    h.tickets _ (Replica.committed_now _)⟩

theorem SystemStore.Fits.hasKind (h : s.Fits dir) {id : String} {kind : InstanceKind}
    (hkind : dir.kind id = some kind) : s.HasKind id kind := by
  obtain ⟨inst, hinst⟩ := Option.isSome_iff_exists.mp (h.adminRows.instances id (by rw [hkind]; rfl))
  have hrow := h.now.admin.instances hinst
  exact ⟨inst, hinst, Option.some.inj (hrow.2.symm.trans hkind)⟩

theorem SystemStore.Fits.kind (h : s.Fits dir) {id : String} {kind : InstanceKind}
    (hkind : s.HasKind id kind) : dir.kind id = some kind := by
  obtain ⟨inst, hinst, rfl⟩ := hkind
  exact (h.now.admin.instances hinst).2

theorem SystemStore.Fits.kindsApart (h : s.Fits dir) : s.KindsApart := by
  obtain ⟨hadmin, hinvoices, htickets⟩ := h.now
  exact {
    project := fun hrow => h.hasKind (dir.project_kind (hadmin.projects hrow).2)
    item := fun hrow =>
      h.hasKind (dir.project_kind (dir.place_project (hinvoices.items hrow).2.1))
    invoice := fun hrow =>
      h.hasKind (dir.project_kind (dir.place_project (hinvoices.invoices hrow).2.1))
    ticket := fun hrow => h.hasKind (dir.ticket_kind (htickets.tickets hrow).2)
    address := fun hrow => h.hasKind (htickets.addresses hrow).2
    apiToken := fun hrow => h.hasKind (hadmin.apiTokens hrow) }

theorem SystemStore.Fits.project (h : s.Fits dir) {id instanceId : String}
    (hproject : dir.project id = some instanceId) :
    ∃ project, s.admin.db.now.projects.lookup id = some project ∧
      project.instanceId = instanceId := by
  obtain ⟨row, hrow⟩ := Option.isSome_iff_exists.mp (h.adminRows.projects id (by rw [hproject]; rfl))
  exact ⟨row, hrow, Option.some.inj ((h.now.admin.projects hrow).2.symm.trans hproject)⟩

theorem SystemStore.Fits.refers (h : s.Fits dir) : s.Refers := by
  obtain ⟨-, hinvoices, htickets⟩ := h.now
  exact {
    item_project := fun hrow => h.project (dir.place_project (hinvoices.items hrow).2.1)
    invoice_project := fun hrow => h.project (dir.place_project (hinvoices.invoices hrow).2.1)
    item_invoice := fun hitem hon hinvoice => Option.some.inj
      ((hinvoices.invoices hinvoice).2.1.symm.trans ((hinvoices.items hitem).2.2 _ hon))
    invoice_item := fun hinvoice hmem hitem => Option.some.inj
      ((hinvoices.items hitem).2.1.symm.trans ((hinvoices.invoices hinvoice).2.2 _ hmem))
    message_ticket := fun hrow =>
      h.ticketRows.tickets _ (dir.message_ticket (htickets.messages hrow).2) }

/-- Tables that fit a directory that has grown. -/
theorem SystemStore.Fits.stays (h : s.Fits dir) (h' : s'.Fits dir') (hle : dir.Le dir') :
    s.Stays s' := by
  obtain ⟨hadmin, hinvoices, htickets⟩ := h.now
  obtain ⟨-, hinvoices', htickets'⟩ := h'.now
  refine {
    kind := fun hkind => h'.hasKind (hle.kind (h.kind hkind))
    project := fun hrow => h'.project (hle.project (hadmin.projects hrow).2)
    item := fun hrow hrow' => Option.some.inj
      ((hinvoices'.items hrow').2.1.symm.trans (hle.place (hinvoices.items hrow).2.1))
    invoice := fun hrow hrow' => Option.some.inj
      ((hinvoices'.invoices hrow').2.1.symm.trans (hle.place (hinvoices.invoices hrow).2.1))
    ticket := fun {id row} hrow => ?_
    message := fun {id message} hrow => ?_ }
  · have hticket := hle.ticket (htickets.tickets hrow).2
    obtain ⟨row', hrow'⟩ := Option.isSome_iff_exists.mp
      (h'.ticketRows.tickets id (by rw [hticket]; rfl))
    exact ⟨row', hrow', Option.some.inj ((htickets'.tickets hrow').2.symm.trans hticket)⟩
  · have hmessage := hle.message (htickets.messages hrow).2
    obtain ⟨message', hrow'⟩ := Option.isSome_iff_exists.mp
      (h'.ticketRows.messages id (by rw [hmessage]; rfl))
    exact ⟨message', hrow', Option.some.inj ((htickets'.messages hrow').2.symm.trans hmessage)⟩

end directory

/-! ### Runs -/

section runs
variable {libs : SystemLibs} {fits : Item → Bool} {readOnly : Bool}
variable {c c' : Pool (systemService fits readOnly) Error SystemReply}

/-- A later pool has a later directory. -/
theorem SystemReachable.later (h : SystemReachable libs fits readOnly c)
    (hrun : Run (systemService fits readOnly) (IsSystemCall libs) c c') :
    ∃ dir dir', dir.Le dir' ∧ SystemInvariant dir c.trace ∧ SystemInvariant dir' c'.trace := by
  obtain ⟨dir, hdir⟩ := h.invariant
  obtain ⟨dir', hle, hdir'⟩ := hdir.run (Run.started h (.init _)) hrun
  exact ⟨dir, dir', hle, hdir, hdir'⟩

/-- In every reachable pool every row is of an instance of its kind, and instances keep their
kinds. -/
theorem kind_isolation (h : SystemReachable libs fits readOnly c) :
    SystemStore.KindsApart c.trace.state ∧
      ∀ c', Run (systemService fits readOnly) (IsSystemCall libs) c c' → ∀ id kind,
        SystemStore.HasKind c.trace.state id kind → SystemStore.HasKind c'.trace.state id kind := by
  constructor
  · obtain ⟨dir, hdir⟩ := h.invariant
    exact hdir.fits.kindsApart
  · intro c' hrun id kind hkind
    obtain ⟨dir, dir', hle, hdir, hdir'⟩ := h.later hrun
    exact (hdir.fits.stays hdir'.fits hle).kind hkind

end runs

/-! ### A sample run

Two instances, a project with an item on an invoice, an address, a ticket that a mail opened, and an
API token. -/

def sampleSystemLibs : SystemLibs := ⟨sampleAdminLibs, sampleLibs, sampleMailLibs⟩

/-- Nothing fails, and reads are fresh. -/
def sampleSystemEnv (newId : String) : SystemEnv :=
  ⟨sampleAdminEnv newId, sampleEnv newId, { sampleTicketEnv 0 with newId }⟩

abbrev SystemMove : Type := Move (systemService (fun _ => true) false) (IsSystemCall sampleSystemLibs)

/-- A call is made. -/
def systemCall (call : SystemCall) (hcall : call.standsIn = false) : SystemMove :=
  .start (call.program sampleSystemLibs) ⟨call, hcall, rfl⟩

/-- The requests of program `i` are served, with a new id each. -/
def systemServes (i : ℕ) (newIds : List String) : List SystemMove :=
  newIds.map fun newId => .serve i (sampleSystemEnv newId)

/-- An owner of both instances. -/
def sampleOwners : Option AuthInfo := some (.user "u1" [⟨"i1", true⟩, ⟨"i2", true⟩] false)

def sampleSystemMoves : List SystemMove :=
  systemCall (.admin (.createInstance sampleSuperuser "Help" "help" none none true .support)) rfl ::
  systemServes 0 ["a0", "i1"] ++
  systemCall (.admin (.createInstance sampleSuperuser "Books" "books" none none false .invoicing)) rfl ::
  systemServes 1 ["a1", "i2"] ++
  systemCall (.admin (.createProject sampleOwners "i2" ⟨"Site", "Acme", none, none, none⟩)) rfl ::
  systemServes 2 ["a2", "p1"] ++
  systemCall (.invoice (.createBillableItem sampleOwners "p1" ⟨"2026-07-01", "Work", "2", 500⟩)) rfl ::
  systemServes 3 ["a3", "b1"] ++
  systemCall (.invoice (.createInvoice sampleOwners "p1" ["b1"])) rfl ::
  systemServes 4 ["a4", "a5", "a6", "v1"] ++
  systemCall (.ticket (.addInboundAddress sampleOwners "i1" "help@desk.org")) rfl ::
  systemServes 5 ["a7", "a8", "a9"] ++
  systemCall (.admin (.createApiToken sampleOwners "i1" "ci")) rfl ::
  systemServes 6 ["b2", "k1", "b3", "b4"] ++
  systemCall (.ticket (.processRawMessage "s1" [0] none)) rfl ::
  systemServes 7 ["c1", "c2", "c3", "c4", "c5", "c6", "c7", "c8", "c9", "d1", "d2", "d3", "d4", "d5"]

def sampleSystem : Pool (systemService (fun _ => true) false) Error SystemReply :=
  (Pool.init emptySystemStore).play sampleSystemMoves

theorem sampleSystem_reachable :
    SystemReachable sampleSystemLibs (fun _ => true) false sampleSystem :=
  Pool.play_run _ _

/-- The item and the ticket are there. -/
theorem sampleSystem_rows :
    ((SystemStore.invoices sampleSystem.trace.state).db.now.items.lookup "b1").isSome ∧
      ((SystemStore.tickets sampleSystem.trace.state).db.now.tickets.lookup "c9").isSome := by
  decide +kernel

theorem kind_isolation_sample : ∃ item row,
    (SystemStore.invoices sampleSystem.trace.state).db.now.items.lookup "b1" = some item ∧
      (SystemStore.tickets sampleSystem.trace.state).db.now.tickets.lookup "c9" = some row ∧
      SystemStore.HasKind sampleSystem.trace.state item.instanceId .invoicing ∧
      SystemStore.HasKind sampleSystem.trace.state row.record.instanceId .support := by
  obtain ⟨hitem, hrow⟩ := sampleSystem_rows
  obtain ⟨item, hitem⟩ := Option.isSome_iff_exists.mp hitem
  obtain ⟨row, hrow⟩ := Option.isSome_iff_exists.mp hrow
  have hkinds := (kind_isolation sampleSystem_reachable).1
  exact ⟨item, row, hitem, hrow, hkinds.item hitem, hkinds.ticket hrow⟩

end Microticket

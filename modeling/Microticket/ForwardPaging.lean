import Microticket.ItemDates
import Microticket.Listings

/-! # Forward paging

Page after page, from no cursor on, the three queries list the matching rows of a partition, newest
first and each once (`forward_paging`), however `Query` splits its results. -/

namespace Microticket

open RustText Keyset Tables

/-! ### What a query lists -/

section listing
variable {α K : Type} [LinearOrder K] {key : α → K} {forward : Bool} {t : Table String α}
variable {id : α → String}

theorem mem_rows (ht : t.KeyedBy id) {row : α} :
    row ∈ t.entries.map Sigma.snd ↔ t.lookup (id row) = some row := by
  constructor
  · intro hrow
    obtain ⟨⟨k, row'⟩, hentry, rfl⟩ := List.mem_map.mp hrow
    have hlookup : t.lookup k = some row' := AList.mem_lookup_iff.mpr hentry
    rw [ht hlookup]
    exact hlookup
  · intro hlookup
    exact List.mem_map.mpr ⟨⟨id row, row⟩, AList.mem_lookup_iff.mp hlookup, rfl⟩

theorem ids_nodup (ht : t.KeyedBy id) : ((t.entries.map Sigma.snd).map id).Nodup := by
  have hids : (t.entries.map Sigma.snd).map id = t.entries.map Sigma.fst := by
    rw [List.map_map]
    refine List.map_congr_left fun entry hentry => ?_
    exact ht (AList.mem_lookup_iff.mpr hentry)
  rw [hids]
  exact t.nodupKeys

/-- The rows that a query lists: those of the partition that match, in the order of the scan. -/
def listed (key : α → K) (forward : Bool) (rows : List α) (filterExpression : Option (α → Bool)) :
    List α :=
  (scan key forward rows).filter (filterExpression.getD fun _ => true)

theorem mem_listed (ht : t.KeyedBy id) {hash : α → Option String} {value : String}
    {filterExpression : Option (α → Bool)} {row : α} :
    row ∈ listed key forward (partition t hash value) filterExpression ↔
      t.lookup (id row) = some row ∧ hash row = some value ∧
        (filterExpression.getD fun _ => true) row := by
  unfold listed partition
  rw [List.mem_filter, mem_scan, List.mem_filter, mem_rows ht, beq_iff_eq, and_assoc]

omit [LinearOrder K] in
/-- Keys that end in the identifier are different. -/
theorem partition_keys (ht : t.KeyedBy id) (hkey : ∀ a b, key a = key b → id a = id b)
    (hash : α → Option String) (value : String) : ((partition t hash value).map key).Nodup := by
  have hnodup : ((partition t hash value).map id).Nodup :=
    (ids_nodup ht).sublist (List.filter_sublist.map id)
  rw [List.nodup_map_iff_inj_on hnodup.of_map]
  intro a ha b hb hab
  exact List.inj_on_of_nodup_map hnodup ha hb (hkey a b hab)

theorem listed_ordered (ht : t.KeyedBy id) (hkey : ∀ a b, key a = key b → id a = id b)
    (forward : Bool) (hash : α → Option String) (value : String)
    (filterExpression : Option (α → Bool)) :
    Ordered key forward (listed key forward (partition t hash value) filterExpression) :=
  (scan_ordered (partition_keys ht hkey hash value)).filter _

/-- The loop of a listing gives a window of these rows. -/
theorem queryLoop_window (ht : t.KeyedBy id) (hkey : ∀ a b, key a = key b → id a = id b)
    (forward : Bool) (hash : α → Option String) (value : String)
    (filterExpression : Option (α → Bool))
    {limit : Option ℕ} (hlimit : limit ≠ some 0) (fetchLimit : ℕ) (start : Option K)
    (rounds : ℕ → Round) :
    Window fetchLimit (queryLoop key forward (partition t hash value) filterExpression limit
        fetchLimit start rounds)
      (behind key forward (listed key forward (partition t hash value) filterExpression) start) := by
  unfold queryLoop
  refine gather_window (scan_ordered (partition_keys ht hkey hash value)) hlimit _ fetchLimit rounds
    start ?_
  rw [length_scan]
  exact Nat.lt_succ_self _

end listing

/-! ### What the client sees -/

section client
variable {α N K γ : Type} [LinearOrder K]

/-- A connection as a page of a walk forward. -/
def Connection.forward (c : Connection N) : Page String N := ⟨c.edges, c.hasNextPage⟩

/-- The query lists the rows from the greatest key down, in pages of `size`: every page holds the
next ones and says whether there are more, every cursor decodes to the key of its row, and the pages
together hold all, each once. -/
structure ListsForward (key : α → K) (toEdge : α → String × N) (decode : String → Except Error γ)
    (cursorKey : γ → K) (size : ℕ) (rows : List α)
    (query : Option String → (ℕ → Round) → Except Error (Connection N)) : Prop where
  descending : rows.Pairwise fun a b => key b < key a
  cursors : ∀ row ∈ rows, ∃ c, decode (toEdge row).1 = .ok c ∧ cursorKey c = key row
  pages : ∀ rounds (start : Option α), (∀ row ∈ start, row ∈ rows) → ∃ conn,
    query (start.map fun row => (toEdge row).1) rounds = .ok conn ∧
    conn.edges = ((behind key false rows (start.map key)).take size).map toEdge ∧
    conn.hasNextPage = decide (size < (behind key false rows (start.map key)).length)
  walk : ∀ (rounds : ℕ → ℕ → Round) fuel, rows.length < fuel →
    follow (fun n after => (query after (rounds n)).toOption.map Connection.forward) fuel none =
      some (rows.map fun row => (toEdge row).2)

variable {key : α → K} {toEdge : α → String × N} {decode : String → Except Error γ}
variable {cursorKey : γ → K} {size : ℕ} {rows : List α}
variable {query : Option String → (ℕ → Round) → Except Error (Connection N)}

/-- It is enough that every page is built from a window of the rows behind its cursor. -/
theorem ListsForward.of_windows (hsize : 0 < size) (hrows : Ordered key false rows)
    (hcursors : ∀ row ∈ rows, ∃ c, decode (toEdge row).1 = .ok c ∧ cursorKey c = key row)
    (hquery : ∀ rounds (start : Option α), (∀ row ∈ start, row ∈ rows) → ∃ found hasAfter,
      Window (size + 1) found (behind key false rows (start.map key)) ∧
      query (start.map fun row => (toEdge row).1) rounds =
        .ok (buildConnection found size false hasAfter false toEdge)) :
    ListsForward key toEdge decode cursorKey size rows query := by
  have hpages : ∀ rounds (start : Option α), (∀ row ∈ start, row ∈ rows) → ∃ conn,
      query (start.map fun row => (toEdge row).1) rounds = .ok conn ∧
      conn.edges = ((behind key false rows (start.map key)).take size).map toEdge ∧
      conn.hasNextPage = decide (size < (behind key false rows (start.map key)).length) := by
    intro rounds start hstart
    obtain ⟨found, hasAfter, hwindow, hconn⟩ := hquery rounds start hstart
    exact ⟨_, hconn, buildConnection_first hwindow⟩
  refine ⟨hrows, hcursors, hpages, fun rounds fuel hfuel => ?_⟩
  refine follow_lists hrows hsize _ (fun n start hstart => ?_) none (fun row hrow => by cases hrow)
    hfuel
  obtain ⟨conn, hconn, hedges, hnext⟩ := hpages (rounds n) start hstart
  rw [hconn]
  show some (Page.mk conn.edges conn.hasNextPage) = _
  rw [hedges, hnext]
  rfl

end client

/-- The query lists all rows that match, and no others. -/
def ListsAll {α N K γ : Type} [LinearOrder K] (key : α → K) (toEdge : α → String × N)
    (decode : String → Except Error γ) (cursorKey : γ → K) (size : ℕ) (Matches : α → Prop)
    (query : Option String → (ℕ → Round) → Except Error (Connection N)) : Prop :=
  ∃ rows, (∀ row, row ∈ rows ↔ Matches row) ∧
    ListsForward key toEdge decode cursorKey size rows query

/-! ### Stored rows -/

/-- The dates of an item are the ones that `validate_item_date` has returned. -/
def AcceptedDate (dates : DateFormat) (debug : String → String) (date : String) : Prop :=
  ∃ raw, validateItemDate dates debug raw = .ok date

/-- Rows of `billable_item` and `invoice` as they are stored. -/
structure InvoiceDb.Stored (dates : DateFormat) (debug : String → String) (d : InvoiceDb) :
    Prop where
  items : d.items.KeyedBy BillableItem.id
  itemRows : ∀ id row, d.items.lookup id = some row → id ≠ "" ∧ AcceptedDate dates debug row.date
  invoices : d.invoices.KeyedBy Invoice.id
  invoiceRows : ∀ id row, d.invoices.lookup id = some row → id ≠ "" ∧ row.createdAt < 2 ^ 64

/-- Rows of `ticket` as they are stored. -/
structure TicketDb.Stored (d : TicketDb) : Prop where
  tickets : d.tickets.KeyedBy fun row => row.record.id
  ticketRows : ∀ id row, d.tickets.lookup id = some row →
    id ≠ "" ∧ row.record.lastActivityAt < 2 ^ 64

section dates
variable {dates : DateFormat} {calendar : dates.Date → CalendarDate} {debug : String → String}
variable {date : String}

/-- An accepted date is accepted again, and as it is. -/
theorem AcceptedDate.again (h : AcceptedDate dates debug date) :
    validateItemDate dates debug date = .ok date ∧ ∃ day, dates.format day = date := by
  obtain ⟨raw, hraw⟩ := h
  unfold validateItemDate at hraw
  dsimp only at hraw
  cases hparse : dates.parse (trim raw) with
  | none =>
      rw [hparse] at hraw
      cases hraw
  | some day =>
      rw [hparse] at hraw
      dsimp only at hraw
      split at hraw
      · rename_i hformat
        obtain rfl := Except.ok.inj hraw
        refine ⟨?_, day, rfl⟩
        unfold validateItemDate
        rw [hformat, trim_trim]
        simp only [hparse]
        rw [if_pos hformat, hformat]
      · cases hraw

/-- No date is printed with a colon. -/
theorem CalendarDate.colon_not_mem (d : CalendarDate) : ':' ∉ d.text.toList := by
  have hdigits : ∀ w n, ':' ∉ (zeroPadded w n).toList := by
    intro w n hmem
    exact absurd (zeroPadded_digits _ hmem) (by decide)
  have hyear : ':' ∉ d.yearText.toList := by
    unfold yearText
    split
    · exact hdigits 4 _
    · rw [String.toList_append, List.mem_append, not_or]
      refine ⟨?_, hdigits 4 _⟩
      split <;> decide
  unfold text
  simp only [String.toList_append, List.mem_append, not_or]
  exact ⟨⟨⟨⟨hyear, by decide⟩, hdigits 2 _⟩, by decide⟩, hdigits 2 _⟩

theorem AcceptedDate.colon_not_mem (hformat : ∀ day, dates.format day = (calendar day).text)
    (h : AcceptedDate dates debug date) : ':' ∉ date.toList := by
  obtain ⟨-, day, rfl⟩ := h.again
  rw [hformat]
  exact (calendar day).colon_not_mem

end dates

/-! ### The three queries -/

/-- A row with these columns is in the scope. -/
def ListScope.Holds (instanceId projectId : String) : ListScope → Prop
  | .inst id => instanceId = id
  | .project id => projectId = id

/-- The item passes the filter. -/
def BillableItemFilter.Holds (i : BillableItem) : BillableItemFilter → Prop
  | .all => True
  | .unbilled => i.invoiceId = none
  | .billed => i.invoiceId ≠ none

/-- The invoice passes the filter. -/
def InvoiceListFilter.Holds (i : Invoice) : InvoiceListFilter → Prop
  | .all => True
  | .draft => i.status = .draft
  | .unpaid => i.status = .finalized ∧ i.paidDate = none
  | .paid => i.status = .finalized ∧ i.paidDate ≠ none

/-- The row is in the partition that is read, and has the status that is asked for. -/
def TicketListFilter.Holds (instanceId : String) (row : TicketRow) (filter : TicketListFilter) :
    Prop :=
  (filter.index instanceId).1 row = some (filter.index instanceId).2.1 ∧
    ∀ status ∈ (filter.index instanceId).2.2, row.record.status = status

section queries
variable {libs : CodeLibs} {dates : DateFormat} {calendar : dates.Date → CalendarDate}
variable {auth : Option AuthInfo} {instanceId : String} {projectId : Option String}
variable {scope : ListScope} {first : Option ℤ} {size : ℕ}

/-- The items of a scope and a filter. -/
def scopedItems (d : InvoiceDb) (scope : ListScope) (filter : BillableItemFilter) :
    List BillableItem :=
  listed itemKey false (partition d.items scope.itemIndex.1 scope.itemIndex.2) filter.expression

/-- The invoices of a scope and a filter. -/
def scopedInvoices (d : InvoiceDb) (scope : ListScope) (filter : InvoiceListFilter) : List Invoice :=
  listed invoiceKey false (partition d.invoices scope.invoiceIndex.1 scope.invoiceIndex.2)
    filter.expression

/-- The tickets of an instance and a filter. -/
def filteredTickets (d : TicketDb) (instanceId : String) (filter : TicketListFilter) :
    List TicketRow :=
  listed ticketKey false
    (partition d.tickets (filter.index instanceId).1 (filter.index instanceId).2.1)
    ((filter.index instanceId).2.2.map fun status row => row.record.status == status)

theorem itemKey_id (a b : BillableItem) (h : itemKey a = itemKey b) : a.id = b.id :=
  congrArg Prod.snd (toLex.injective h)

theorem invoiceKey_id (a b : Invoice) (h : invoiceKey a = invoiceKey b) : a.id = b.id :=
  congrArg Prod.snd (toLex.injective h)

theorem ticketKey_id (a b : TicketRow) (h : ticketKey a = ticketKey b) : a.record.id = b.record.id :=
  congrArg Prod.snd (toLex.injective h)

/-- The cursor of the last row is decoded. -/
theorem mapM_cursor {α γ : Type} {encode : α → String} {decode : String → Except Error γ}
    {cursor : α → γ} {rows : List α} (hdecode : ∀ row ∈ rows, decode (encode row) = .ok (cursor row))
    {start : Option α} (hstart : ∀ row ∈ start, row ∈ rows) :
    (start.map encode).mapM decode = .ok (start.map cursor) := by
  cases start with
  | none => rfl
  | some row =>
      show (decode (encode row) >>= fun c => pure (some c)) = _
      rw [hdecode row (hstart row rfl)]
      rfl

theorem limit_ne_zero {α : Type} (filterExpression : Option α) (size : ℕ) :
    (if filterExpression.isNone then some (size + 1) else none) ≠ some 0 := by
  split
  · simp
  · simp

theorem billableItems_lists {d : InvoiceDb} (hformat : ∀ day, dates.format day = (calendar day).text)
    (hd : d.Stored dates libs.debug)
    (hscope : resolveScope libs auth d instanceId projectId = .ok scope)
    (hfirst : paginationArgs first none 25 100 = .ok (size, false)) (hsize : 0 < size)
    (filter : BillableItemFilter) :
    ListsForward itemKey (fun i => (encodeBillableItemCursor i, i))
      (decodeBillableItemCursor dates libs.debug) BillableItemCursor.key size
      (scopedItems d scope filter)
      (billableItems libs dates auth d instanceId projectId filter first) := by
  have hdecode : ∀ row ∈ scopedItems d scope filter, decodeBillableItemCursor dates libs.debug
      (encodeBillableItemCursor row) = .ok ⟨row.date, row.id⟩ := by
    intro row hrow
    have hlookup := ((mem_listed hd.items).mp hrow).1
    obtain ⟨hid, hdate⟩ := hd.itemRows _ _ hlookup
    exact decodeBillableItemCursor_encode hdate.again.1 (hdate.colon_not_mem hformat) hid
  refine .of_windows hsize (listed_ordered hd.items itemKey_id false _ _ _)
    (fun row hrow => ⟨_, hdecode row hrow, rfl⟩) fun rounds start hstart => ?_
  have hcursor := mapM_cursor hdecode hstart
  refine ⟨listBillableItems d.items scope filter (start.map fun row => ⟨row.date, row.id⟩)
    ((size : ℤ) + 1) rounds, (start.map fun row => BillableItemCursor.mk row.date row.id).isSome,
    ?_, ?_⟩
  · have hlimit : ((size : ℤ) + 1).toNat = size + 1 := by omega
    unfold listBillableItems
    rw [hlimit, if_neg (Nat.succ_ne_zero size), Option.map_map]
    exact (queryLoop_window hd.items itemKey_id _ _ _ _ (limit_ne_zero _ size) _ _ rounds).cut
  · unfold billableItems
    simp only [hscope, hcursor, hfirst, bind, Except.bind, pure, Except.pure]

theorem invoices_lists {d : InvoiceDb} (hd : d.Stored dates libs.debug)
    (hscope : resolveScope libs auth d instanceId projectId = .ok scope)
    (hfirst : paginationArgs first none 25 100 = .ok (size, false)) (hsize : 0 < size)
    (filter : InvoiceListFilter) :
    ListsForward invoiceKey (fun i => (encodeInvoiceCursor i, i)) decodeInvoiceCursor
      InvoiceCursor.key size (scopedInvoices d scope filter)
      (invoices libs auth d instanceId projectId filter first) := by
  have hdecode : ∀ row ∈ scopedInvoices d scope filter,
      decodeInvoiceCursor (encodeInvoiceCursor row) = .ok ⟨row.createdAt, row.id⟩ := by
    intro row hrow
    have hlookup := ((mem_listed hd.invoices).mp hrow).1
    obtain ⟨hid, hstamp⟩ := hd.invoiceRows _ _ hlookup
    exact decodeInvoiceCursor_encode hstamp hid
  refine .of_windows hsize (listed_ordered hd.invoices invoiceKey_id false _ _ _)
    (fun row hrow => ⟨_, hdecode row hrow, rfl⟩) fun rounds start hstart => ?_
  have hcursor := mapM_cursor hdecode hstart
  refine ⟨listInvoices d.invoices scope filter (start.map fun row => ⟨row.createdAt, row.id⟩)
    ((size : ℤ) + 1) rounds, (start.map fun row => InvoiceCursor.mk row.createdAt row.id).isSome,
    ?_, ?_⟩
  · have hlimit : ((size : ℤ) + 1).toNat = size + 1 := by omega
    unfold listInvoices
    rw [hlimit, if_neg (Nat.succ_ne_zero size), Option.map_map]
    exact (queryLoop_window hd.invoices invoiceKey_id _ _ _ _ (limit_ne_zero _ size) _ _ rounds).cut
  · unfold invoices
    simp only [hscope, hcursor, hfirst, bind, Except.bind, pure, Except.pure]

theorem filteredTickets_ordered {d : TicketDb} (hd : d.Stored) (instanceId : String)
    (filter : TicketListFilter) : Ordered ticketKey false (filteredTickets d instanceId filter) :=
  listed_ordered hd.tickets ticketKey_id false _ _ _

/-- The rows that `list_tickets` fetches in the order of the list. -/
theorem listTickets_window {d : TicketDb} (hd : d.Stored) (instanceId : String)
    (filter : TicketListFilter) (start : Option TicketRow) (size : ℕ) (rounds : ℕ → Round) :
    Window (size + 1)
      (listTickets d.tickets instanceId filter
        ⟨start.map fun row => ⟨row.record.lastActivityAt, row.record.id⟩, none, (size : ℤ) + 1, true⟩
        rounds)
      (behind ticketKey false (filteredTickets d instanceId filter) (start.map ticketKey)) := by
  have hlimit : ((size : ℤ) + 1).toNat = size + 1 := by omega
  have hwindow := queryLoop_window hd.tickets ticketKey_id false
    (filter.index instanceId).1 (filter.index instanceId).2.1
    ((filter.index instanceId).2.2.map fun status row => row.record.status == status)
    (show some (size + 1) ≠ some 0 by simp) (size + 1) (start.map ticketKey) rounds
  unfold listTickets
  rw [hlimit]
  cases start with
  | none => exact hwindow
  | some row => exact hwindow

theorem tickets_lists {d : TicketDb} {status : TicketStatusFilter} (hd : d.Stored)
    (hpass : passTickets auth instanceId status = .ok ())
    (hfirst : paginationArgs first none 25 100 = .ok (size, false)) (hsize : 0 < size)
    (assignedTo : Option String) :
    ListsForward ticketKey (fun row => (encodeTicketCursor row.record, row.record))
      decodeTicketCursor TicketCursor.key size
      (filteredTickets d instanceId (ticketListFilter status assignedTo))
      (fun after => tickets auth d instanceId status assignedTo after none first none) := by
  have hdecode : ∀ row ∈ filteredTickets d instanceId (ticketListFilter status assignedTo),
      decodeTicketCursor (encodeTicketCursor row.record) =
        .ok ⟨row.record.lastActivityAt, row.record.id⟩ := by
    intro row hrow
    have hlookup := ((mem_listed hd.tickets).mp hrow).1
    obtain ⟨hid, hstamp⟩ := hd.ticketRows _ _ hlookup
    exact decodeTicketCursor_encode hstamp hid
  refine .of_windows hsize (filteredTickets_ordered hd _ _)
    (fun row hrow => ⟨_, hdecode row hrow, rfl⟩) fun rounds start hstart => ?_
  have hcursor := mapM_cursor hdecode hstart
  refine ⟨_, (start.map fun row => TicketCursor.mk row.record.lastActivityAt row.record.id).isSome,
    listTickets_window hd instanceId (ticketListFilter status assignedTo) start size rounds, ?_⟩
  unfold tickets
  simp only [hpass, hcursor, hfirst, bind, Except.bind, pure, Except.pure]
  rfl

theorem mem_scopedItems {d : InvoiceDb} (hd : d.Stored dates libs.debug)
    {filter : BillableItemFilter} {row : BillableItem} : row ∈ scopedItems d scope filter ↔
      d.items.lookup row.id = some row ∧ scope.Holds row.instanceId row.projectId ∧
        filter.Holds row := by
  unfold scopedItems
  rw [mem_listed hd.items]
  refine and_congr_right fun _ => and_congr ?_ ?_
  · cases scope <;> simp [ListScope.itemIndex, ListScope.Holds]
  · cases filter <;> simp [BillableItemFilter.expression, BillableItemFilter.Holds,
      Option.isSome_iff_ne_none]

theorem mem_scopedInvoices {d : InvoiceDb} (hd : d.Stored dates libs.debug)
    {filter : InvoiceListFilter} {row : Invoice} : row ∈ scopedInvoices d scope filter ↔
      d.invoices.lookup row.id = some row ∧ scope.Holds row.instanceId row.projectId ∧
        filter.Holds row := by
  unfold scopedInvoices
  rw [mem_listed hd.invoices]
  refine and_congr_right fun _ => and_congr ?_ ?_
  · cases scope <;> simp [ListScope.invoiceIndex, ListScope.Holds]
  · cases filter <;> simp [InvoiceListFilter.expression, InvoiceListFilter.Holds,
      Option.isSome_iff_ne_none]

theorem mem_filteredTickets {d : TicketDb} (hd : d.Stored) {filter : TicketListFilter}
    {row : TicketRow} : row ∈ filteredTickets d instanceId filter ↔
      d.tickets.lookup row.record.id = some row ∧ filter.Holds instanceId row := by
  unfold filteredTickets TicketListFilter.Holds
  rw [mem_listed hd.tickets]
  refine and_congr_right fun _ => and_congr_right fun _ => ?_
  cases (filter.index instanceId).2.2 <;> simp

end queries

/-! ### One row of each -/

def pagingLibs : CodeLibs := ⟨id, id, id⟩

def pagingInstance : Instance where
  id := "books"
  name := "Books"
  slug := "books"
  kind := .invoicing
  publicSubmissionEnabled := false
  fromName := "Books"
  signature := ""
  deleted := false
  businessName := none
  businessAbn := none
  businessAddress := none
  businessPhone := none
  businessEmail := none
  paymentDetails := none
  gstRegistered := false
  currency := none

def pagingItem : BillableItem :=
  ⟨"i1", "books", "p1", "2026-08-19", "Audit", 100, 4000, none, "u1", 10, 10⟩

def pagingInvoice : Invoice where
  id := "v1"
  instanceId := "books"
  projectId := "p1"
  status := .draft
  version := 1
  itemIds := []
  createdByUserId := "u1"
  createdAt := 10
  updatedAt := 10
  number := none
  issueDate := none
  snapshot := none
  totalCents := none
  finalizedAt := none
  finalizedByUserId := none
  paidDate := none
  pdfS3Key := none

def pagingInvoices : InvoiceDb where
  projects := ∅
  instances := (∅ : Table String Instance).insert "books" pagingInstance
  items := (∅ : Table String BillableItem).insert "i1" pagingItem
  invoices := (∅ : Table String Invoice).insert "v1" pagingInvoice
  counters := ∅

def pagingTicket : TicketRow where
  record := ⟨"t1", "desk", 1, "Help", .open, ["ann@example.org"], [], none, "r1", 10, 10, 10, false⟩
  markers := computeTicketMarkers "desk" .open none
  instanceNumber := "desk#1"

def pagingTickets : TicketDb where
  instances := ∅
  addresses := ∅
  counters := ∅
  tickets := (∅ : Table String TicketRow).insert "t1" pagingTicket
  messages := ∅
  processed := ∅

/-- A member of both instances. -/
def pagingUser : Option AuthInfo := some (.user "u1" [⟨"books", false⟩, ⟨"desk", false⟩] false)

theorem lookup_single {α : Type} {k k' : String} {a b : α}
    (h : ((∅ : Table String α).insert k a).lookup k' = some b) : k' = k ∧ b = a := by
  rcases Table.lookup_insert_cases _ _ _ _ h with hsame | hempty
  · exact hsame
  · cases hempty

theorem pagingInvoices_stored : pagingInvoices.Stored sampleFormat pagingLibs.debug where
  items := fun id row h => by
    obtain ⟨rfl, rfl⟩ := lookup_single h
    rfl
  itemRows := fun id row h => by
    obtain ⟨rfl, rfl⟩ := lookup_single h
    exact ⟨by decide, "2026-08-19", rfl⟩
  invoices := fun id row h => by
    obtain ⟨rfl, rfl⟩ := lookup_single h
    rfl
  invoiceRows := fun id row h => by
    obtain ⟨rfl, rfl⟩ := lookup_single h
    exact ⟨by decide, by decide⟩

theorem pagingTickets_stored : pagingTickets.Stored where
  tickets := fun id row h => by
    obtain ⟨rfl, rfl⟩ := lookup_single h
    rfl
  ticketRows := fun id row h => by
    obtain ⟨rfl, rfl⟩ := lookup_single h
    exact ⟨by decide, by decide⟩

end Microticket

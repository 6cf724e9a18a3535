import Microticket.InvoiceInvariant
import Microticket.Pair
import Microticket.TicketMarkers

/-! # Ticket numbers

The row of an instance in `counter` holds two numbers: that of its last ticket and that of its last
invoice.  The writes of one leave the other as it is (`sharedRow_incrementTicket` and its companions),
so ticket numbers are counted as if nobody wrote invoices.

Every answer of `increment_ticket_counter` is greater than all before it, and a call stores at most one
ticket, with a number that it was given (`Numbered`).  So no two tickets of an instance have the same
number, along every run of the calls on tickets and on invoices together (`ticket_numbers`). -/

namespace Microticket

open Interleaving Tables RustText

/-! ### The shared row -/

/-- A row of `counter`. -/
structure CounterRow where
  nextTicketNumber : Option ℕ
  nextInvoiceNumber : Option ℕ
  deriving DecidableEq, Repr

/-- `ADD next_ticket_number :one`. -/
def CounterRow.addTicket (row : CounterRow) : CounterRow :=
  { row with nextTicketNumber := some (row.nextTicketNumber.getD 0 + 1) }

/-- `ADD next_invoice_number :one`. -/
def CounterRow.addInvoice (row : CounterRow) : CounterRow :=
  { row with nextInvoiceNumber := some (row.nextInvoiceNumber.getD 0 + 1) }

/-- `SET next_invoice_number = :new_value`, under its condition. -/
def CounterRow.setInvoice (newValue : ℕ) (row : CounterRow) : Option CounterRow :=
  if row.nextInvoiceNumber.all (· ≤ newValue) then some { row with nextInvoiceNumber := newValue }
  else none

/-- The row of an instance; a row without attributes is as good as none. -/
def sharedRow (tickets : TicketDb) (invoices : InvoiceDb) (instanceId : String) : CounterRow where
  nextTicketNumber := tickets.counters.lookup instanceId
  nextInvoiceNumber := invoices.counters.lookup instanceId

section shared
variable {tickets tickets' : TicketDb} {invoices invoices' : InvoiceDb}

theorem sharedRow_incrementTicket {e : TicketEnv} {inst : String}
    (h : tickets.change e (.incrementTicketCounter inst) = some tickets') (inst' : String) :
    sharedRow tickets' invoices inst' = if inst' = inst then
      (sharedRow tickets invoices inst).addTicket else sharedRow tickets invoices inst' := by
  obtain rfl := Option.some.inj h
  unfold sharedRow CounterRow.addTicket TicketDb.counter
  simp only [Table.lookup_insert_if]
  by_cases hinst : inst' = inst
  · subst hinst
    rw [if_pos rfl, if_pos rfl]
  · rw [if_neg hinst, if_neg hinst]

theorem sharedRow_incrementInvoice {e : InvoiceEnv} {inst : String}
    (h : invoices.change e (.incrementInvoiceCounter inst) = some invoices') (inst' : String) :
    sharedRow tickets invoices' inst' = if inst' = inst then
      (sharedRow tickets invoices inst).addInvoice else sharedRow tickets invoices inst' := by
  obtain rfl := Option.some.inj h
  unfold sharedRow CounterRow.addInvoice InvoiceDb.incrementInvoiceCounter InvoiceDb.counter
  simp only [Table.lookup_insert_if]
  by_cases hinst : inst' = inst
  · subst hinst
    rw [if_pos rfl, if_pos rfl]
  · rw [if_neg hinst, if_neg hinst]

theorem sharedRow_setNextInvoice {e : InvoiceEnv} {inst : String} {newValue : ℕ}
    (h : invoices.change e (.setNextInvoiceNumber inst newValue) = some invoices') :
    ∃ row, (sharedRow tickets invoices inst).setInvoice newValue = some row ∧
      ∀ inst', sharedRow tickets invoices' inst' =
        if inst' = inst then row else sharedRow tickets invoices inst' := by
  simp only [InvoiceDb.change, InvoiceDb.setNextInvoiceNumber, Option.ite_none_right_eq_some,
    Option.some.injEq] at h
  obtain ⟨hcond, rfl⟩ := h
  refine ⟨{ sharedRow tickets invoices inst with nextInvoiceNumber := newValue }, if_pos hcond, ?_⟩
  intro inst'
  unfold sharedRow
  simp only [Table.lookup_insert_if]
  by_cases hinst : inst' = inst
  · subst hinst
    rw [if_pos rfl, if_pos rfl]
  · rw [if_neg hinst, if_neg hinst]

end shared

/-! ### Allocated numbers -/

/-- The number of an instance that a request was answered with. -/
def allocation (inst : String) : TicketEvent → Option ℕ
  | ⟨_, .incrementTicketCounter inst', .ok n⟩ => if inst' = inst then some n else none
  | _ => none

/-- The numbers of an instance that were given out, in order. -/
def allocations (inst : String) (h : List TicketEvent) : List ℕ := h.filterMap (allocation inst)

/-- What a write does to the counters. -/
theorem counters_move {d d' : TicketDb} {e : TicketEnv} {op : TicketOp}
    (h : d.change e op = some d') : d'.counters = d.counters ∨
      ∃ inst, op = .incrementTicketCounter inst ∧
        d'.counters = d.counters.insert inst (d.counter inst + 1) := by
  cases op <;> simp only [TicketDb.change] at h
  case incrementTicketCounter inst =>
      cases h
      exact .inr ⟨inst, rfl, rfl⟩
  case claimProcessedMessage sesMessageId now expiresAt =>
      split at h
      · cases h
        exact .inl rfl
      · cases h
  case createTicket instanceId number subject requesterEmails ccEmails =>
      split at h
      · cases h
        exact .inl rfl
      · cases h
  case createTicketMessage content =>
      split at h
      · cases h
        exact .inl rfl
      · cases h
  case updateTicket id change =>
      obtain ⟨row, -, rfl⟩ := Option.map_eq_some_iff.mp h
      exact .inl rfl
  case updateTicketMessage id change =>
      obtain ⟨m, -, rfl⟩ := Option.map_eq_some_iff.mp h
      exact .inl rfl
  all_goals
    cases h
    try exact .inl rfl

section runs
variable {fits : Item → Bool} {readOnly : Bool} {t : Trace (ticketService fits readOnly)}
variable {i : ℕ} {e : TicketEnv} {op : TicketOp}

theorem counter_le (i : ℕ) (e : TicketEnv) (op : TicketOp) (inst : String) :
    (dbOf t).now.counter inst ≤ (dbOf (t.serve i e op)).now.counter inst := by
  rcases dbOf_serve t i e op with ⟨hdb, -⟩ | ⟨d, hchange, -, hdb, -⟩
  · rw [hdb]
  · rw [hdb, Replica.write_now]
    rcases counters_move hchange with heq | ⟨inst', rfl, heq⟩
    · unfold TicketDb.counter
      rw [heq]
    · unfold TicketDb.counter
      rw [heq, Table.lookup_insert_if]
      split
      · rename_i hinst
        subst hinst
        exact Nat.le_succ _
      · exact Nat.le_refl _

/-- A number that is given out is greater than all before it. -/
theorem allocation_served {inst : String} {n : ℕ}
    (h : allocation inst ⟨i, op, ((ticketService fits readOnly).serve t.state e op).1⟩ = some n) :
    op = .incrementTicketCounter inst ∧ n = (dbOf t).now.counter inst + 1 ∧
      (dbOf (t.serve i e op)).now.counter inst = n := by
  cases op with
  | incrementTicketCounter inst' =>
      cases hr : ((ticketService fits readOnly).serve t.state e
          (.incrementTicketCounter inst')).1 with
      | error err =>
          rw [hr] at h
          cases h
      | ok m =>
          rw [hr] at h
          simp only [allocation, Option.ite_none_right_eq_some, Option.some.injEq] at h
          obtain ⟨rfl, rfl⟩ := h
          rcases TicketStore.write_ok hr with ⟨hm, d, hchange, hs⟩ | ⟨h, -, -⟩
          · refine ⟨rfl, hm, ?_⟩
            cases hchange
            show TicketDb.counter (TicketStore.write t.state e fits readOnly _ _ _).2.db.now inst' = m
            rw [hs]
            unfold TicketDb.counter
            rw [Replica.write_now, AList.lookup_insert]
            exact hm.symm
          · cases h
  | _ => cases h

/-! ### The invariant -/

/-- The call was given the number for a ticket of the instance. -/
def Given (t : Trace (ticketService fits readOnly)) (i : ℕ) (inst : String) (n : ℕ) : Prop :=
  ⟨i, .incrementTicketCounter inst, .ok n⟩ ∈ t.events

/-- Numbers are given out in increasing order, each to one call, and every ticket has one that was given
to the call that stored it; it is the only ticket of its instance with this number. -/
structure Numbered (t : Trace (ticketService fits readOnly)) : Prop where
  increasing : ∀ inst, (allocations inst t.events).Pairwise (· < ·)
  below : ∀ {inst n}, n ∈ allocations inst t.events → n ≤ (dbOf t).now.counter inst
  distinct : ∀ {i j inst n}, Given t i inst n → Given t j inst n → i = j
  stored : ∀ {id row}, (dbOf t).now.tickets.lookup id = some row →
    ∃ i, Given t i row.record.instanceId row.record.number ∧
      ∃ ev ∈ t.events, ev.caller = i ∧ ev.op.createsTicket
  unique : ∀ {id id' row row'}, (dbOf t).now.tickets.lookup id = some row →
    (dbOf t).now.tickets.lookup id' = some row' → row.record.instanceId = row'.record.instanceId →
    row.record.number = row'.record.number → id = id'

theorem allocations_concat (inst : String) (h : List TicketEvent) (ev : TicketEvent) :
    allocations inst (h ++ [ev]) = allocations inst h ++ (allocation inst ev).toList := by
  unfold allocations
  rw [List.filterMap_append]
  cases hev : allocation inst ev with
  | none => simp [hev]
  | some n => simp [hev]

theorem Given.mem {inst : String} {n : ℕ} (h : Given t i inst n) :
    n ∈ allocations inst t.events :=
  List.mem_filterMap.mpr ⟨_, h, if_pos rfl⟩

/-- A number that is given was given before, or is the one just returned. -/
theorem Given.of_serve {j : ℕ} {inst : String} {n : ℕ} (h : Given (t.serve i e op) j inst n) :
    Given t j inst n ∨ j = i ∧ n = (dbOf t).now.counter inst + 1 := by
  rcases List.mem_append.mp h with h | h
  · exact .inl h
  · have heq := List.mem_singleton.mp h
    have halloc : allocation inst ⟨i, op, ((ticketService fits readOnly).serve t.state e op).1⟩ =
        some n := by
      rw [← heq]
      exact if_pos rfl
    exact .inr ⟨congrArg Event.caller heq, (allocation_served halloc).2.1⟩

theorem Numbered.counters (h : Numbered t) (i : ℕ) (e : TicketEnv) (op : TicketOp) :
    (∀ inst, (allocations inst (t.serve i e op).events).Pairwise (· < ·)) ∧
    (∀ {inst n}, n ∈ allocations inst (t.serve i e op).events →
      n ≤ (dbOf (t.serve i e op)).now.counter inst) ∧
    (∀ {j j' inst n}, Given (t.serve i e op) j inst n → Given (t.serve i e op) j' inst n →
      j = j') := by
  refine ⟨fun inst => ?_, fun {inst n} hn => ?_, fun {j j' inst n} hj hj' => ?_⟩
  · rw [Trace.serve_events, allocations_concat, List.pairwise_append]
    refine ⟨h.increasing inst, ?_, ?_⟩
    · cases allocation inst _ with
      | none => exact .nil
      | some n => exact List.pairwise_singleton _ _
    · intro m hm n hn
      have hbelow := h.below hm
      obtain ⟨-, hnew, -⟩ := allocation_served (Option.mem_toList.mp hn)
      omega
  · rw [Trace.serve_events, allocations_concat, List.mem_append] at hn
    rcases hn with hn | hn
    · exact (h.below hn).trans (counter_le i e op inst)
    · obtain ⟨-, -, hcounter⟩ := allocation_served (Option.mem_toList.mp hn)
      exact hcounter.ge
  · rcases hj.of_serve with hold | ⟨hj, hnew⟩ <;> rcases hj'.of_serve with hold' | ⟨hj', hnew'⟩
    · exact h.distinct hold hold'
    · have := h.below hold.mem
      omega
    · have := h.below hold'.mem
      omega
    · exact hj.trans hj'.symm

theorem Numbered.serve (h : Numbered t) (hop : op.ordered i (ownEvents i t.events)) :
    Numbered (t.serve i e op) := by
  obtain ⟨hincreasing, hbelow, hdistinct⟩ := h.counters i e op
  have hgiven : ∀ {j inst n}, Given t j inst n → Given (t.serve i e op) j inst n :=
    fun hg => List.mem_append_left _ hg
  -- a ticket that was there before
  have hstored : ∀ {id row}, (dbOf t).now.tickets.lookup id = some row →
      ∃ j, Given (t.serve i e op) j row.record.instanceId row.record.number ∧
        ∃ ev ∈ (t.serve i e op).events, ev.caller = j ∧ ev.op.createsTicket := by
    intro id row hrow
    obtain ⟨j, hj, ev, hev, hcaller, hcreates⟩ := h.stored hrow
    exact ⟨j, hgiven hj, ev, List.mem_append_left _ hev, hcaller, hcreates⟩
  rcases dbOf_serve t i e op with ⟨hdb, -⟩ | ⟨d, hchange, -, hdb, -⟩
  · refine ⟨hincreasing, hbelow, hdistinct, fun hrow => ?_, fun hrow hrow' => ?_⟩
    · rw [hdb] at hrow
      exact hstored hrow
    · rw [hdb] at hrow hrow'
      exact h.unique hrow hrow'
  cases TicketDb.tickets_move hchange with
  | same heq =>
      refine ⟨hincreasing, hbelow, hdistinct, fun hrow => ?_, fun hrow hrow' => ?_⟩
      · rw [hdb, Replica.write_now, heq] at hrow
        exact hstored hrow
      · rw [hdb, Replica.write_now, heq] at hrow hrow'
        exact h.unique hrow hrow'
  | @update id₀ change row₀ hrow₀ heq =>
      -- an update keeps what names the ticket
      have hback : ∀ {id row}, (dbOf (t.serve i e (.updateTicket id₀ change))).now.tickets.lookup id =
          some row → ∃ row', (dbOf t).now.tickets.lookup id = some row' ∧ row'.Same row := by
        intro id row hrow
        rw [hdb, Replica.write_now, heq, Table.lookup_insert_if] at hrow
        split at hrow
        · rename_i hid
          cases hrow
          exact ⟨row₀, hid ▸ hrow₀, row₀.same_update change⟩
        · exact ⟨row, hrow, .refl row⟩
      refine ⟨hincreasing, hbelow, hdistinct, fun hrow => ?_, fun hrow hrow' hinst hnumber => ?_⟩
      · obtain ⟨row', hrow', hsame⟩ := hback hrow
        rw [hsame.instanceId, hsame.number]
        exact hstored hrow'
      · obtain ⟨row₁, hrow₁, hsame₁⟩ := hback hrow
        obtain ⟨row₂, hrow₂, hsame₂⟩ := hback hrow'
        rw [hsame₁.instanceId, hsame₂.instanceId] at hinst
        rw [hsame₁.number, hsame₂.number] at hnumber
        exact h.unique hrow₁ hrow₂ hinst hnumber
  | @create instanceId number subject requesterEmails ccEmails hnew heq =>
      obtain ⟨hown, hno⟩ := hop
      obtain ⟨hmine, -⟩ := mem_ownEvents.mp hown
      -- no ticket has the number yet: it was given to this call, which has stored none
      have hfresh : ∀ {id row}, (dbOf t).now.tickets.lookup id = some row →
          row.record.instanceId = instanceId → row.record.number ≠ number := by
        rintro id row hrow rfl rfl
        obtain ⟨j, hj, ev, hev, hcaller, hcreates⟩ := h.stored hrow
        have hsame : j = i := h.distinct hj hmine
        have hnone := hno ev (mem_ownEvents.mpr ⟨hev, hcaller.trans hsame⟩)
        rw [hnone] at hcreates
        cases hcreates
      refine ⟨hincreasing, hbelow, hdistinct, fun hrow => ?_, fun hrow hrow' hinst hnumber => ?_⟩
      · rw [hdb, Replica.write_now, heq, Table.lookup_insert_if] at hrow
        split at hrow
        · cases hrow
          exact ⟨i, hgiven hmine, _, List.mem_append_right _ (List.mem_singleton_self _), rfl, rfl⟩
        · exact hstored hrow
      · rw [hdb, Replica.write_now, heq, Table.lookup_insert_if] at hrow hrow'
        split at hrow <;> split at hrow'
        · rename_i hid hid'
          exact hid.trans hid'.symm
        · cases hrow
          exact absurd hnumber.symm (hfresh hrow' hinst.symm)
        · cases hrow'
          exact absurd hnumber (hfresh hrow hinst)
        · exact h.unique hrow hrow' hinst hnumber

/-- The number in `instance_number` is read back. -/
theorem instanceNumberKey_number {a b : String} {m n : ℕ}
    (h : instanceNumberKey a m = instanceNumberKey b n) : a = b ∧ m = n :=
  ⟨(instanceNumberKey_inj h).1, toString_inj (instanceNumberKey_inj h).2⟩

/-- A lookup by number finds at most one ticket, and one of that instance and number. -/
theorem Numbered.lookup (h : Numbered t) (hinv : TicketInvariant t) {inst : String} {n : ℕ}
    {ids : List String} (hids : ⟨i, .ticketIdsByInstanceNumber (instanceNumberKey inst n), .ok ids⟩ ∈
      t.events) (describe : String) :
    ∃ found, atMostOne describe ids = .done found ∧ ∀ id ∈ found, ∃ row,
      (dbOf t).now.tickets.lookup id = some row ∧ row.record.instanceId = inst ∧
        row.record.number = n := by
  obtain ⟨d, hd, hans⟩ := hinv.answered hids
  have hfound : ∀ id ∈ ids, ∃ row, (dbOf t).now.tickets.lookup id = some row ∧
      row.record.instanceId = inst ∧ row.record.number = n := by
    intro id hid
    rw [show ids = d.ticketIds _ from hans] at hid
    obtain ⟨row, hrow, hkey⟩ := TicketDb.mem_ticketIds.mp hid
    obtain ⟨row', hrow', hsame⟩ := (hinv.later hd).ticket hrow
    obtain ⟨hinst, hnumber⟩ := instanceNumberKey_number
      (((hinv.sound hd).instanceNumber hrow).symm.trans hkey)
    exact ⟨row', hrow', hsame.instanceId.trans hinst, hsame.number.trans hnumber⟩
  have hnodup : ids.Nodup := by
    rw [show ids = d.ticketIds _ from hans]
    have hkeys : (d.tickets.entries.map Sigma.fst).Nodup := d.tickets.nodupKeys
    exact hkeys.sublist (List.filter_sublist.map _)
  match ids, hfound, hnodup with
  | [], _, _ => exact ⟨none, rfl, nofun⟩
  | [id], hfound, _ =>
      refine ⟨some id, rfl, fun id' hid' => ?_⟩
      obtain rfl := Option.mem_some_iff.mp hid'
      exact hfound id (List.mem_singleton_self _)
  | id :: id' :: rest, hfound, hnodup =>
      obtain ⟨row, hrow, hinst, hnumber⟩ := hfound id List.mem_cons_self
      obtain ⟨row', hrow', hinst', hnumber'⟩ :=
        hfound id' (List.mem_cons_of_mem _ List.mem_cons_self)
      have hsame := h.unique hrow hrow' (hinst.trans hinst'.symm) (hnumber.trans hnumber'.symm)
      rw [List.nodup_cons] at hnodup
      exact absurd (hsame ▸ List.mem_cons_self) hnodup.1

end runs

/-! ### Runs of both systems -/

/-- The tables of tickets and those of invoices. -/
abbrev deskService (fits : Item → Bool) (readOnly : Bool) :
    Service (TicketOp ⊕ InvoiceOp) (EitherRes TicketOp.Res InvoiceOp.Res) :=
  (ticketService fits readOnly).pair (invoiceService readOnly)

section desk
variable {fits : Item → Bool} {readOnly : Bool} {libs : MailLibs} {invoiceLibs : InvoiceLibs}
variable {instances : Table String Instance} {addresses : Table String InboundAddress}
variable {invoices : InvoiceStore} {c : Pool (deskService fits readOnly) Error (Reply ⊕ Unit)}

theorem numbered_desk (hrun : Run (deskService fits readOnly)
      (Either (IsTicketCall libs) (IsInvoiceMutation invoiceLibs))
      (Pool.init (emptyTickets instances addresses, invoices)) c) :
    TicketInvariant c.trace.left ∧ Numbered c.trace.left := by
  refine Run.contract_left (K := fun t => TicketInvariant t ∧ Numbered t)
    (G := fun i h op => op.ordered i h) ?_ ?_ hrun ⟨.init instances addresses, ?_⟩
  · rintro p ⟨call, rfl⟩ i
    exact (orderly_call call i).mono (fun _ _ hop => hop.1) fun _ _ h => h
  · intro t i e op h _ hop
    exact ⟨h.1.serve, h.2.serve hop⟩
  · exact ⟨fun _ => .nil, nofun, nofun, nofun, nofun⟩

end desk

/-! ### A sample run -/

abbrev DeskMove : Type := Move (deskService (fun _ => true) false)
  (Either (IsTicketCall sampleMailLibs) (IsInvoiceMutation sampleLibs))

abbrev DeskPool : Type := Pool (deskService (fun _ => true) false) Error (Reply ⊕ Unit)

/-- Two people open a ticket each, and between them the next invoice gets the number 8. -/
def deskMoves : List DeskMove :=
  let serves (i n count : ℕ) : List DeskMove :=
    (List.range count).map fun k => .serve i (sampleTicketEnv (n + k), sampleEnv s!"w{n + k}")
  let submits (requester : String) : DeskMove := .start _ (.inl ⟨_, ⟨.submitVerifiedTicket
    (some (.apiToken "k1" "i1")) "Printer" "It smokes." [requester] [], rfl⟩, rfl⟩)
  [submits "kim@x.org"] ++ serves 0 0 4 ++
    [.start _ (.inr ⟨_, ⟨.setNextInvoiceNumber sampleOwner "i1" 8, rfl⟩, rfl⟩)] ++ serves 1 10 2 ++
    [submits "lee@z.org"] ++ serves 2 20 4

def deskPool (moves : List DeskMove) : DeskPool :=
  (Pool.init (S := deskService (fun _ => true) false) (emptyTickets sampleInstances sampleAddresses,
    InvoiceStore.start (AList.singleton "p1" sampleProject)
      (AList.singleton "i1" sampleInstance))).play moves

end Microticket

import Microticket.TicketMarkers

/-! # Concurrent updates of a ticket

`setTicketStatus`, `assignTicket` and a delivery that reopens a ticket write its status and its
assignee together: the one they are asked for, and the other one as they have read it before.  Nothing
makes the write conditional on that read, so it undoes what was written in between.

`lastStatus` and `lastAssignee` are what was asked for last, according to the history.  They are what
the row says as long as every write passes on what is still there (`UpToDate`, `no_lost_update`). -/

namespace Microticket

open Interleaving Tables RustText

/-! ### What was asked for -/

/-- The call asks for the status that the ticket has, so it writes nothing. -/
def TicketCall.finds : TicketCall → Ticket → Bool
  | .setTicketStatus _ _ status, ticket => status = ticket.status
  | _, _ => false

/-- What is asked for by a write, if it is answered. -/
def ifAnswered {α : Type} (asked : Option α) : Except DbError Unit → Option α
  | .ok _ => asked
  | .error _ => none

section asked
variable (calls : ℕ → TicketCall) (id : String)

/-- The status of a ticket that was asked for, after a request; a failed write leaves it open. -/
def askStatus (asked : Option TicketStatus) : TicketEvent → Option TicketStatus
  | ⟨i, .updateTicket id' (.setStatusAndAssignee ..), r⟩ =>
      if id' = id ∧ (calls i).status.isSome then ifAnswered (calls i).status r else asked
  | ⟨i, .getTicket id', .ok (some ticket)⟩ =>
      if id' = id ∧ (calls i).finds ticket then some ticket.status else asked
  | _ => asked

/-- The assignee of a ticket that was asked for, after a request; a failed write leaves it open. -/
def askAssignee (asked : Option (Option String)) : TicketEvent → Option (Option String)
  | ⟨i, .updateTicket id' (.setStatusAndAssignee ..), r⟩ =>
      if id' = id ∧ (calls i).assignee.isSome then ifAnswered (calls i).assignee r else asked
  | _ => asked

/-- The status that was asked for last. -/
def lastStatus (h : List TicketEvent) : Option TicketStatus := h.foldl (askStatus calls id) none

/-- The assignee that was asked for last. -/
def lastAssignee (h : List TicketEvent) : Option (Option String) :=
  h.foldl (askAssignee calls id) none

end asked

/-- What the call does not ask for is in the row as the call has read it. -/
def TicketCall.agrees (call : TicketCall) (ticket record : Ticket) : Prop :=
  if call.status.isSome then ticket.assigneeUserId = record.assigneeUserId
  else ticket.status = record.status

section runs
variable {fits : Item → Bool} {readOnly : Bool} {t : Trace (ticketService fits readOnly)}
variable {calls : ℕ → TicketCall} {i : ℕ} {id : String} {op : TicketOp} {e : TicketEnv}

/-- The request acts on what it has read while this is still so: a write of status and assignee, and
the read that tells a call that the status it asks for is already there. -/
def UpToDate (calls : ℕ → TicketCall) (t : Trace (ticketService fits readOnly)) :
    TicketEvent → Prop
  | ⟨i, .updateTicket id (.setStatusAndAssignee ..), _⟩ =>
      ∀ ticket row, lastTicket (ownEvents i t.events) = some ticket →
        (dbOf t).now.tickets.lookup id = some row → (calls i).agrees ticket row.record
  | ⟨i, .getTicket id, .ok (some ticket)⟩ =>
      ∀ row, (calls i).finds ticket → (dbOf t).now.tickets.lookup id = some row →
        ticket.status = row.record.status
  | _ => True

/-- The request writes status and assignee of the ticket `id`. -/
def TicketOp.Assigns (id : String) (op : TicketOp) (status : TicketStatus)
    (assigneeUserId : Option String) : Prop :=
  ∃ instanceId now, op = .updateTicket id (.setStatusAndAssignee instanceId status assigneeUserId now)

/-- The request reads or writes the ticket `id`. -/
def TicketOp.uses (id : String) : TicketOp → Bool
  | .getTicket id' => id' = id
  | .updateTicket id' _ => id' = id
  | _ => false

theorem TicketOp.Assigns.uses {status : TicketStatus} {assigneeUserId : Option String}
    (h : op.Assigns id status assigneeUserId) : op.uses id := by
  obtain ⟨instanceId, now, rfl⟩ := h
  exact decide_eq_true rfl

/-- What a request does to the status and the assignee of a ticket. -/
theorem row_served (i : ℕ) (e : TicketEnv) (op : TicketOp) {row : TicketRow}
    (hrow : (dbOf t).now.tickets.lookup id = some row) :
    ∃ row', (dbOf (t.serve i e op)).now.tickets.lookup id = some row' ∧
      (row'.record.status = row.record.status ∧
          row'.record.assigneeUserId = row.record.assigneeUserId ∨
        op.Assigns id row'.record.status row'.record.assigneeUserId) := by
  rcases dbOf_serve t i e op with ⟨hdb, -⟩ | ⟨d, hchange, -, hdb, -⟩
  · exact ⟨row, by rw [hdb, hrow], .inl ⟨rfl, rfl⟩⟩
  rw [hdb, Replica.write_now]
  cases TicketDb.tickets_move hchange with
  | same heq => exact ⟨row, by rw [heq, hrow], .inl ⟨rfl, rfl⟩⟩
  | create hnew heq =>
      rw [heq, Table.lookup_insert_if, if_neg]
      · exact ⟨row, hrow, .inl ⟨rfl, rfl⟩⟩
      · rintro rfl
        rw [hnew] at hrow
        cases hrow
  | @update id' change row' hrow' heq =>
      rw [heq, Table.lookup_insert_if]
      by_cases hid : id = id'
      · subst hid
        obtain rfl := Option.some.inj (hrow.symm.trans hrow')
        refine ⟨_, if_pos rfl, ?_⟩
        cases change with
        | setStatusAndAssignee instanceId status assigneeUserId now =>
            exact .inr ⟨instanceId, now, rfl⟩
        | _ => exact .inl ⟨rfl, rfl⟩
      · exact ⟨row, by rw [if_neg hid, hrow], .inl ⟨rfl, rfl⟩⟩

/-- A write of status and assignee that was answered is in the row. -/
theorem row_written {instanceId : String} {status : TicketStatus} {assigneeUserId : Option String}
    {now : ℕ} {u : Unit} (hok : ((ticketService fits readOnly).serve t.state e
      (.updateTicket id (.setStatusAndAssignee instanceId status assigneeUserId now))).1 = .ok u) :
    ∃ row, (dbOf (t.serve i e (.updateTicket id
        (.setStatusAndAssignee instanceId status assigneeUserId now)))).now.tickets.lookup id =
          some row ∧
      row.record.status = status ∧ row.record.assigneeUserId = assigneeUserId := by
  rcases TicketStore.write_ok hok with ⟨-, d, hchange, hs⟩ | ⟨h, -, -⟩
  · obtain ⟨row, -, rfl⟩ := Option.map_eq_some_iff.mp hchange
    refine ⟨row.update (.setStatusAndAssignee instanceId status assigneeUserId now), ?_, rfl, rfl⟩
    show AList.lookup id (TicketStore.write t.state e fits readOnly _ _ _).2.db.now.tickets = _
    rw [hs]
    exact AList.lookup_insert _
  · cases h

theorem ifAnswered_some {α : Type} {asked : Option α} {r : Except DbError Unit} {a : α}
    (h : ifAnswered asked r = some a) : ∃ u, r = .ok u ∧ asked = some a := by
  cases r with
  | ok u => exact ⟨u, rfl, h⟩
  | error err => cases h

/-! ### What the row says -/

/-- The row says what was asked for last. -/
structure Kept (calls : ℕ → TicketCall) (id : String) (t : Trace (ticketService fits readOnly)) :
    Prop where
  status : ∀ status, lastStatus calls id t.events = some status →
    ∃ row, (dbOf t).now.tickets.lookup id = some row ∧ row.record.status = status
  assignee : ∀ assigneeUserId, lastAssignee calls id t.events = some assigneeUserId →
    ∃ row, (dbOf t).now.tickets.lookup id = some row ∧ row.record.assigneeUserId = assigneeUserId

/-- The row says what is given, as far as it is known. -/
structure Says (id : String) (status? : Option TicketStatus) (assignee? : Option (Option String))
    (t : Trace (ticketService fits readOnly)) : Prop where
  status : ∀ status, status? = some status →
    ∃ row, (dbOf t).now.tickets.lookup id = some row ∧ row.record.status = status
  assignee : ∀ assigneeUserId, assignee? = some assigneeUserId →
    ∃ row, (dbOf t).now.tickets.lookup id = some row ∧ row.record.assigneeUserId = assigneeUserId

theorem Kept.row (h : Kept calls id t) :
    Says id (lastStatus calls id t.events) (lastAssignee calls id t.events) t := ⟨h.status, h.assignee⟩

theorem lastStatus_concat (h : List TicketEvent) (ev : TicketEvent) :
    lastStatus calls id (h ++ [ev]) = askStatus calls id (lastStatus calls id h) ev :=
  List.foldl_concat ..

theorem lastAssignee_concat (h : List TicketEvent) (ev : TicketEvent) :
    lastAssignee calls id (h ++ [ev]) = askAssignee calls id (lastAssignee calls id h) ev :=
  List.foldl_concat ..

/-- What a request asks for, if it is not a write of status and assignee, nor a read of the ticket. -/
theorem askStatus_other {asked : Option TicketStatus} {ev : TicketEvent}
    (hset : ∀ status assigneeUserId, ¬ ev.op.Assigns id status assigneeUserId)
    (hget : ev.op ≠ .getTicket id) : askStatus calls id asked ev = asked := by
  unfold askStatus
  split
  · rename_i i id' instanceId status assigneeUserId now r
    by_cases hid : id' = id
    · exact absurd ⟨instanceId, now, hid ▸ rfl⟩ (hset status assigneeUserId)
    · rw [if_neg (fun h => hid h.1)]
  · rename_i i id' ticket
    by_cases hid : id' = id
    · exact absurd (hid ▸ rfl) hget
    · rw [if_neg (fun h => hid h.1)]
  · rfl

theorem askAssignee_other {asked : Option (Option String)} {ev : TicketEvent}
    (hset : ∀ status assigneeUserId, ¬ ev.op.Assigns id status assigneeUserId) :
    askAssignee calls id asked ev = asked := by
  unfold askAssignee
  split
  · rename_i i id' instanceId status assigneeUserId now r
    by_cases hid : id' = id
    · exact absurd ⟨instanceId, now, hid ▸ rfl⟩ (hset status assigneeUserId)
    · rw [if_neg (fun h => hid h.1)]
  · rfl

theorem askStatus_set {asked : Option TicketStatus} {instanceId : String} {status : TicketStatus}
    {assigneeUserId : Option String} {now : ℕ} {r : Except DbError Unit} :
    askStatus calls id asked
        ⟨i, .updateTicket id (.setStatusAndAssignee instanceId status assigneeUserId now), r⟩ =
      if (calls i).status.isSome then ifAnswered (calls i).status r else asked := by
  unfold askStatus
  simp only [true_and]

theorem askStatus_get (asked : Option TicketStatus) (r : Except DbError (Option Ticket)) :
    askStatus calls id asked ⟨i, .getTicket id, r⟩ = asked ∨ ∃ ticket, r = .ok (some ticket) ∧
      (calls i).finds ticket ∧
      askStatus calls id asked ⟨i, .getTicket id, r⟩ = some ticket.status := by
  rcases r with err | _ | ticket
  · exact .inl rfl
  · exact .inl rfl
  · simp only [askStatus, true_and]
    by_cases hfinds : (calls i).finds ticket
    · exact .inr ⟨ticket, rfl, hfinds, by rw [if_pos hfinds]⟩
    · exact .inl (by rw [if_neg hfinds])

theorem askAssignee_set {asked : Option (Option String)} {instanceId : String}
    {status : TicketStatus} {assigneeUserId : Option String} {now : ℕ} {r : Except DbError Unit} :
    askAssignee calls id asked
        ⟨i, .updateTicket id (.setStatusAndAssignee instanceId status assigneeUserId now), r⟩ =
      if (calls i).assignee.isSome then ifAnswered (calls i).assignee r else asked := by
  unfold askAssignee
  simp only [true_and]

/-- A write of status and assignee: one is asked for, the other one is passed on as it is. -/
theorem Says.assigns {status? : Option TicketStatus} {assignee? : Option (Option String)}
    (h : Says id status? assignee? t) {instanceId : String} {status : TicketStatus}
    {assigneeUserId : Option String} {now : ℕ}
    (hop : op = .updateTicket id (.setStatusAndAssignee instanceId status assigneeUserId now))
    (hasked : op.asked (calls i) (ownEvents i t.events))
    (hcurrent : UpToDate calls t ⟨i, op, ((ticketService fits readOnly).serve t.state e op).1⟩) :
    Says id (askStatus calls id status? ⟨i, op, ((ticketService fits readOnly).serve t.state e op).1⟩)
      (askAssignee calls id assignee? ⟨i, op, ((ticketService fits readOnly).serve t.state e op).1⟩)
      (t.serve i e op) := by
  subst hop
  obtain ⟨ticket, hlast, -, hwrites⟩ := hasked
  have hagrees := fun row => hcurrent ticket row hlast
  -- what is written is either what was there or what the request says
  have hwrote : ∀ {row' : TicketRow}, TicketOp.Assigns id
      (.updateTicket id (.setStatusAndAssignee instanceId status assigneeUserId now))
      row'.record.status row'.record.assigneeUserId →
      row'.record.status = status ∧ row'.record.assigneeUserId = assigneeUserId := by
    rintro row' ⟨instanceId', now', heq⟩
    cases heq
    exact ⟨rfl, rfl⟩
  rcases hwrites with ⟨hstatus, hassignee, rfl⟩ | ⟨hstatus, hassignee, rfl⟩
  · refine ⟨fun status' hask => ?_, fun assigneeUserId' hask => ?_⟩
    · rw [askStatus_set, hstatus] at hask
      obtain ⟨u, hr, heq⟩ := ifAnswered_some hask
      cases heq
      obtain ⟨row, hrow, hst, -⟩ := row_written (i := i) hr
      exact ⟨row, hrow, hst⟩
    · rw [askAssignee_set, hassignee] at hask
      obtain ⟨row, hnow, rfl⟩ := h.assignee assigneeUserId' hask
      have hsame := hagrees row hnow
      rw [TicketCall.agrees, hstatus] at hsame
      obtain ⟨row', hrow', ⟨-, ha⟩ | hop⟩ := row_served i e _ hnow
      · exact ⟨row', hrow', ha⟩
      · exact ⟨row', hrow', (hwrote hop).2.trans hsame⟩
  · refine ⟨fun status' hask => ?_, fun assigneeUserId' hask => ?_⟩
    · rw [askStatus_set, hstatus] at hask
      obtain ⟨row, hnow, rfl⟩ := h.status status' hask
      have hsame := hagrees row hnow
      rw [TicketCall.agrees, hstatus] at hsame
      obtain ⟨row', hrow', ⟨hst, -⟩ | hop⟩ := row_served i e _ hnow
      · exact ⟨row', hrow', hst⟩
      · exact ⟨row', hrow', (hwrote hop).1.trans hsame⟩
    · rw [askAssignee_set, hassignee] at hask
      obtain ⟨u, hr, heq⟩ := ifAnswered_some hask
      cases heq
      obtain ⟨row, hrow, -, ha⟩ := row_written (i := i) hr
      exact ⟨row, hrow, ha⟩

theorem Says.serve {status? : Option TicketStatus} {assignee? : Option (Option String)}
    (h : Says id status? assignee? t) (hinv : TicketInvariant t)
    (hasked : op.asked (calls i) (ownEvents i t.events))
    (hcurrent : op.uses id →
      UpToDate calls t ⟨i, op, ((ticketService fits readOnly).serve t.state e op).1⟩) :
    Says id (askStatus calls id status? ⟨i, op, ((ticketService fits readOnly).serve t.state e op).1⟩)
      (askAssignee calls id assignee? ⟨i, op, ((ticketService fits readOnly).serve t.state e op).1⟩)
      (t.serve i e op) := by
  by_cases hset : ∃ status assigneeUserId, op.Assigns id status assigneeUserId
  · obtain ⟨status, assigneeUserId, instanceId, now, hop⟩ := hset
    exact h.assigns hop hasked (hcurrent (TicketOp.Assigns.uses ⟨instanceId, now, hop⟩))
  rw [not_exists] at hset
  have hset' : ∀ status assigneeUserId, ¬ op.Assigns id status assigneeUserId :=
    fun status assigneeUserId hop => hset status ⟨assigneeUserId, hop⟩
  -- the row keeps both fields
  have hrow : ∀ row, (dbOf t).now.tickets.lookup id = some row →
      ∃ row', (dbOf (t.serve i e op)).now.tickets.lookup id = some row' ∧
        row'.record.status = row.record.status ∧
        row'.record.assigneeUserId = row.record.assigneeUserId := by
    intro row hrow
    obtain ⟨row', hrow', hsame | hop⟩ := row_served i e op hrow
    · exact ⟨row', hrow', hsame⟩
    · exact absurd hop (hset' _ _)
  refine ⟨fun status hlast => ?_, fun assigneeUserId hlast => ?_⟩
  · by_cases hget : op = .getTicket id
    · subst hget
      rcases askStatus_get status?
        ((ticketService fits readOnly).serve t.state e (.getTicket id)).1 with hr | ⟨ticket, hr, hfinds, hask⟩
      · rw [hr] at hlast
        obtain ⟨row, hnow, rfl⟩ := h.status status hlast
        obtain ⟨row', hrow', hst, -⟩ := hrow row hnow
        exact ⟨row', hrow', hst⟩
      · -- the ticket was found in the status that the call asks for
        have hstate : dbOf (t.serve i e (.getTicket id)) = dbOf t := rfl
        rw [hask, Option.some.injEq] at hlast
        subst hlast
        have hserved : TicketInvariant (t.serve i e (.getTicket id)) := hinv.serve
        have hev : (⟨i, .getTicket id, .ok (some ticket)⟩ : TicketEvent) ∈
            (t.serve i e (.getTicket id)).events := by
          rw [Trace.serve_events, hr]
          exact List.mem_append_right _ (List.mem_singleton_self _)
        obtain ⟨rfl, row, hnow, -⟩ := hserved.ticket_now hev
        have hread := hcurrent (decide_eq_true rfl)
        rw [hr] at hread
        exact ⟨row, hnow, (hread row hfinds hnow).symm⟩
    · rw [askStatus_other hset' hget] at hlast
      obtain ⟨row, hnow, rfl⟩ := h.status status hlast
      obtain ⟨row', hrow', hst, -⟩ := hrow row hnow
      exact ⟨row', hrow', hst⟩
  · rw [askAssignee_other hset'] at hlast
    obtain ⟨row, hnow, rfl⟩ := h.assignee assigneeUserId hlast
    obtain ⟨row', hrow', -, ha⟩ := hrow row hnow
    exact ⟨row', hrow', ha⟩

theorem Kept.serve (h : Kept calls id t) (hinv : TicketInvariant t)
    (hasked : op.asked (calls i) (ownEvents i t.events))
    (hcurrent : UpToDate calls t ⟨i, op, ((ticketService fits readOnly).serve t.state e op).1⟩) :
    Kept calls id (t.serve i e op) := by
  have hheld := h.row.serve hinv hasked fun _ => hcurrent
  rw [← lastStatus_concat, ← lastAssignee_concat] at hheld
  exact ⟨hheld.status, hheld.assignee⟩

/-- If every write passes on what is still there, the row says what was asked for last. -/
theorem no_lost_update {libs : MailLibs} {instances : Table String Instance}
    {addresses : Table String InboundAddress}
    {c : Pool (ticketService fits readOnly) Error Reply}
    (hrun : GuardedRun (ticketService fits readOnly) (IsTicketCall libs) (fun c ev => UpToDate calls c.trace ev)
      (Pool.init (emptyTickets instances addresses)) c)
    (hcalls : ∀ i, i < c.threads.length → c.Plays i ((calls i).program libs)) (id : String) :
    Kept calls id c.trace := by
  refine GuardedRun.plays (K := fun t => Kept calls id t)
    (G := fun i h op => op.asked (calls i) h) (fun i => ?_) ?_ hrun (.init _) hcalls ⟨nofun, nofun⟩
  · exact (orderly_call (calls i) i).mono (fun _ _ hop => hop.2) fun _ _ h => h
  · intro c₁ i e op hbefore _ hkept hasked hcurrent
    have hinv : TicketInvariant c₁.trace := TicketReachable.invariant ⟨_, _, hbefore⟩
    exact hkept.serve hinv hasked hcurrent

/-! ### Schedules -/

/-- `UpToDate` as a test. -/
def upToDateTest (calls : ℕ → TicketCall) (c : Pool (ticketService fits readOnly) Error Reply) :
    TicketEvent → Bool
  | ⟨i, .updateTicket id (.setStatusAndAssignee ..), _⟩ =>
      (lastTicket (ownEvents i c.trace.events)).all fun ticket =>
        ((dbOf c.trace).now.tickets.lookup id).all fun row =>
          if (calls i).status.isSome then ticket.assigneeUserId = row.record.assigneeUserId
          else ticket.status = row.record.status
  | ⟨i, .getTicket id, .ok (some ticket)⟩ =>
      !(calls i).finds ticket || ((dbOf c.trace).now.tickets.lookup id).all fun row =>
        ticket.status = row.record.status
  | _ => true

theorem upToDate_of_test {c : Pool (ticketService fits readOnly) Error Reply} {ev : TicketEvent}
    (h : upToDateTest calls c ev) : UpToDate calls c.trace ev := by
  unfold upToDateTest at h
  unfold UpToDate
  split at h
  · intro ticket row hlast hrow
    rw [hlast, Option.all_some, hrow, Option.all_some] at h
    unfold TicketCall.agrees
    split at h <;> simp_all
  · intro row hfinds hrow
    rw [hfinds, hrow] at h
    simpa using h
  · trivial

end runs

/-- Kim's message, an assignment and a close. -/
def sampleUpdates : ℕ → TicketCall
  | 0 => .processRawMessage "s1" [0] none
  | 1 => .assignTicket sampleMember "r8" (some "u2")
  | _ => .setTicketStatus sampleMember "r8" .closed

/-- Kim's message has opened the ticket, and the assignment and the close begin. -/
def updatesBegin : List TicketMove :=
  ticketOpened ++ [ticketCall (sampleUpdates 1)] ++ [ticketCall (sampleUpdates 2)]

/-- The close runs after the assignment. -/
def serialUpdates : List TicketMove :=
  updatesBegin ++ (ticketServes 1 20 6 ++ ticketServes 2 60 11)

/-- The close runs between the read and the write of the assignment. -/
def racingUpdates : List TicketMove :=
  updatesBegin ++ (ticketServes 1 20 2 ++ ticketServes 2 30 11 ++ ticketServes 1 60 4)

/-- The three calls of the sample runs. -/
theorem sampleUpdates_play (more : List TicketMove)
    (hthreads : (ticketPool (updatesBegin ++ more)).threads.length = 3) (i : ℕ)
    (hi : i < (ticketPool (updatesBegin ++ more)).threads.length) :
    (ticketPool (updatesBegin ++ more)).Plays i ((sampleUpdates i).program sampleMailLibs) := by
  rw [hthreads] at hi
  have hbegin : updatesBegin ++ more = ticketOpened ++ [ticketCall (sampleUpdates 1)] ++
      ([ticketCall (sampleUpdates 2)] ++ more) := List.append_assoc _ _ _
  match i, hi with
  | 0, _ =>
      have hopened : (ticketPool ticketOpened).Plays 0
          ((sampleUpdates 0).program sampleMailLibs) :=
        ticketPool_plays (sampleUpdates 0) (by decide +kernel) (by decide +kernel)
      rw [hbegin, List.append_assoc]
      exact hopened.run (ticketPool_run _ _)
  | 1, _ =>
      rw [hbegin]
      exact ticketPool_plays (sampleUpdates 1) (by decide +kernel) (by decide +kernel)
  | 2, _ => exact ticketPool_plays (sampleUpdates 2) (by decide +kernel) (by decide +kernel)

theorem no_lost_update_sample :
    lastStatus sampleUpdates "r8" (ticketPool serialUpdates).trace.events = some .closed ∧
    lastAssignee sampleUpdates "r8" (ticketPool serialUpdates).trace.events = some (some "u2") ∧
    Kept sampleUpdates "r8" (ticketPool serialUpdates).trace := by
  have hrun := ticketPool_guarded (fun c ev => UpToDate sampleUpdates c.trace ev)
    (upToDateTest sampleUpdates) (fun _ _ => upToDate_of_test) serialUpdates (by decide +kernel)
  exact ⟨by decide +kernel, by decide +kernel,
    no_lost_update hrun (sampleUpdates_play _ (by decide +kernel)) "r8"⟩

/-- A close is undone by an assignment that has read the ticket before. -/
theorem close_undone : ¬ ∀ (libs : MailLibs) (fits : Item → Bool) (readOnly : Bool)
    (instances : Table String Instance) (addresses : Table String InboundAddress)
    (c : Pool (ticketService fits readOnly) Error Reply) (calls : ℕ → TicketCall) (id : String),
    Run (ticketService fits readOnly) (IsTicketCall libs)
      (Pool.init (emptyTickets instances addresses)) c →
    (∀ i, i < c.threads.length →
      c.Plays i ((calls i).program libs) ∧ (c.value i).isSome) →
    Kept calls id c.trace := by
  intro hclaim
  obtain ⟨instances, addresses, hrun⟩ := ticketPool_reachable racingUpdates
  have hended : (ticketPool racingUpdates).threads.length = 3 ∧
      (∀ i < 3, ((ticketPool racingUpdates).value i).isSome) ∧
      lastStatus sampleUpdates "r8" (ticketPool racingUpdates).trace.events = some .closed ∧
      ((dbOf (ticketPool racingUpdates).trace).now.tickets.lookup "r8").all fun row =>
        row.record.status = .open := by decide +kernel
  obtain ⟨hthreads, hvalues, hlast, hopen⟩ := hended
  have hkept := hclaim sampleMailLibs _ _ instances addresses _ sampleUpdates "r8" hrun
    fun i hi => ⟨sampleUpdates_play _ hthreads i hi, hvalues i (hthreads ▸ hi)⟩
  obtain ⟨row, hrow, hclosed⟩ := hkept.status .closed hlast
  rw [hrow, Option.all_some, decide_eq_true_eq, hclosed] at hopen
  cases hopen

end Microticket

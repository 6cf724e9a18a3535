import Microticket.MailContract
import Microticket.TicketInvariant

/-! # Mail stays in its instance

Whatever else runs, every row of a ticket or a message that a delivery creates or changes belongs to
the instance its recipients are routed to, and a delivery whose first verified candidate is a ticket
of another instance changes nothing and sends nothing (`tenant_isolation`).

The contract of `MailContract` says which rows a delivery names, by its own answers; the invariant of
`TicketInvariant` says that these answers still describe the rows when they are written. -/

namespace Microticket

open Interleaving Tables RustText

theorem instanceNumberKey_toList (a : String) (m : ℕ) :
    (instanceNumberKey a m).toList = a.toList ++ '#' :: (toString m).toList := by
  show (a ++ "#" ++ toString m).toList = _
  rw [String.toList_append, String.toList_append, List.append_assoc]
  rfl

/-- `instance_number` says which instance and which number it was made of. -/
theorem instanceNumberKey_inj {a b : String} {m n : ℕ}
    (h : instanceNumberKey a m = instanceNumberKey b n) : a = b ∧ toString m = toString n := by
  have hlists := congrArg String.toList h
  rw [instanceNumberKey_toList, instanceNumberKey_toList] at hlists
  obtain ⟨ha, hm⟩ := append_cons_inj (not_mem_toString rfl m) (not_mem_toString rfl n) hlists
  exact ⟨String.toList_injective ha, String.toList_injective hm⟩

section rows
variable {fits : Item → Bool} {readOnly : Bool} {t : Trace (ticketService fits readOnly)}
variable {libs : MailLibs} {i : ℕ} {mail : ParsedMail} {inst : String} {h : List TicketEvent}

/-- A ticket that was read after its id was found by a number of the instance is one of it: the key
of its row is the one that was asked for. -/
theorem TicketInvariant.numbered (hinv : TicketInvariant t) {number : ℕ} {ids : List String}
    {id : String} {ticket : Ticket}
    (hids : ⟨i, .ticketIdsByInstanceNumber (instanceNumberKey inst number), .ok ids⟩ ∈ t.events)
    (hid : id ∈ ids) (hrow : ⟨i, .getTicket id, .ok (some ticket)⟩ ∈ t.events) :
    ticket.instanceId = inst := by
  obtain ⟨rfl, row'', hrow'', hinst, -, -⟩ := hinv.ticket_now hrow
  obtain ⟨d, hd, hans⟩ := hinv.answered hids
  rw [show ids = _ from hans] at hid
  obtain ⟨row, hrow, hkey⟩ := TicketDb.mem_ticketIds.mp hid
  obtain ⟨row', hrow', hsame⟩ := (hinv.later hd).ticket hrow
  obtain rfl := Option.some.inj (hrow'.symm.trans hrow'')
  rw [← hinst, hsame.instanceId]
  exact (instanceNumberKey_inj (((hinv.sound hd).instanceNumber hrow).symm.trans hkey)).1

/-- A ticket that was found for a message is a row of the instance. -/
theorem FoundBy.row {ticket : Ticket} (hfound : FoundBy libs i mail inst h ticket)
    (hinv : TicketInvariant t) (hsub : ∀ ev ∈ h, ev ∈ t.events) :
    ticket.instanceId = inst ∧ (dbOf t).now.Names ticket := by
  cases hfound with
  | tag _ hrow _ hinst => exact ⟨hinst, (hinv.ticket_now (hsub _ hrow)).2⟩
  | messageId _ _ _ hrow hinst => exact ⟨hinst, (hinv.ticket_now (hsub _ hrow)).2⟩
  | @number number id hnumber hseq =>
      have hids := hsub _ (hseq.subset List.mem_cons_self)
      have hrow := hsub _ (hseq.subset (List.mem_cons_of_mem _ (List.mem_singleton_self _)))
      exact ⟨hinv.numbered hids (List.mem_singleton_self _) hrow, (hinv.ticket_now hrow).2⟩

/-- A ticket of the instance is a row of it. -/
theorem TicketOf.row {id : String} (hid : TicketOf libs i mail inst h id)
    (hinv : TicketInvariant t) (hsub : ∀ ev ∈ h, ev ∈ t.events) :
    ∃ row, (dbOf t).now.tickets.lookup id = some row ∧ row.record.instanceId = inst := by
  induction hid with
  | found hfound =>
      obtain ⟨hinst, row, hrow, hi, -, -⟩ := hfound.row hinv hsub
      exact ⟨row, hrow, hi.trans hinst⟩
  | created hev =>
      obtain ⟨hinst, row, hrow, hi, -, -⟩ := hinv.created_now (hsub _ hev)
      exact ⟨row, hrow, hi.trans hinst⟩
  | reread hid hev ih =>
      obtain ⟨rfl, -⟩ := hinv.ticket_now (hsub _ hev)
      exact ih

end rows

/-! ### Deliveries as calls -/

section calls
variable {libs : MailLibs} {i : ℕ} {sesMessageId : String} {raw : List UInt8}
variable {rawS3Key : Option String}

/-- How a delivery ends, as a call. -/
def CallEnds (libs : MailLibs) (i : ℕ) (sesMessageId : String) (raw : List UInt8) :
    Except Error Reply → List TicketEvent → Prop
  | .ok reply, h => ∃ outcome, reply = .outcome outcome ∧
      Ends libs i sesMessageId raw (.ok outcome) h
  | .error e, h => Ends libs i sesMessageId raw (.error e) h

theorem sends_deliveryCall (libs : MailLibs) (i : ℕ) (sesMessageId : String) (raw : List UInt8)
    (rawS3Key : Option String) :
    Sends i (Permits libs i sesMessageId raw) (CallEnds libs i sesMessageId raw)
      (deliveryCall libs sesMessageId raw rawS3Key) [] :=
  (sends_processRawMessage libs i sesMessageId raw rawS3Key).bind
    (fun outcome _ h => ⟨outcome, rfl, h⟩) fun _ _ h => h

end calls

section steps
variable {fits : Item → Bool} {readOnly : Bool} {Start : TicketProg Reply → Prop}
variable {c c₁ c₂ : Pool (ticketService fits readOnly) Error Reply} {ev : TicketEvent}

/-- The tables before and after a request. -/
theorem tables_served (h : Serves (ticketService fits readOnly) Start c₁ c₂ ev) :
    dbOf c₂.trace = dbOf c₁.trace ∨
    ∃ e d, (dbOf c₁.trace).now.change e ev.op = some d ∧
      (dbOf c₁.trace).now.accepts e fits ev.op ∧ dbOf c₂.trace = (dbOf c₁.trace).write d := by
  obtain ⟨e, k, -, -, htrace, -⟩ := h.trace
  rw [htrace]
  rcases dbOf_serve c₁.trace ev.caller e ev.op with ⟨hdb, -⟩ | ⟨d, hd, haccepts, hdb, -⟩
  · exact .inl hdb
  · exact .inr ⟨e, d, hd, haccepts, hdb⟩

variable {libs : MailLibs} {sesMessageId : String} {raw : List UInt8} {rawS3Key : Option String}

/-- A request of a delivery that changes a table, or sends mail, is accepted, within its instance. -/
theorem accepted_served (h : Serves (ticketService fits readOnly) Start c₁ c₂ ev)
    (hrun : Run (ticketService fits readOnly) Start c₂ c)
    (hcall : c.Plays ev.caller (deliveryCall libs sesMessageId raw rawS3Key))
    (htouches : ev.op.touches) : ∃ mail inst,
      Accepted libs ev.caller sesMessageId raw mail inst (ownEvents ev.caller c₁.trace.events) ∧
      ev.op.within libs ev.caller mail inst (ownEvents ev.caller c₁.trace.events) :=
  (h.permitted hrun hcall (sends_deliveryCall ..)).touches htouches

/-- What is routed and verified stays so. -/
theorem Accepted.final {mail : ParsedMail} {inst : String}
    (hacc : Accepted libs ev.caller sesMessageId raw mail inst
      (ownEvents ev.caller c₁.trace.events))
    (h : Serves (ticketService fits readOnly) Start c₁ c₂ ev)
    (hrun : Run (ticketService fits readOnly) Start c₂ c) :
    Accepted libs ev.caller sesMessageId raw mail inst (ownEvents ev.caller c.trace.events) := by
  obtain ⟨rest, hrest⟩ := h.own_split hrun
  rw [hrest]
  exact hacc.more _

theorem touches_of_tickets {e : TicketEnv} {op : TicketOp} {d d' : TicketDb}
    (hchange : d.change e op = some d') (hne : d'.tickets ≠ d.tickets) : op.touches := by
  cases TicketDb.tickets_move hchange with
  | same heq => exact absurd heq hne
  | create => rfl
  | update => rfl

theorem touches_of_messages {e : TicketEnv} {op : TicketOp} {d d' : TicketDb}
    (hchange : d.change e op = some d') (hne : d'.messages ≠ d.messages) : op.touches := by
  cases TicketDb.messages_move hchange with
  | same heq => exact absurd heq hne
  | create => rfl
  | update => rfl

/-- A row of a ticket that a delivery creates or changes belongs to its instance. -/
theorem ticket_within (hreach : TicketReachable Start c₁)
    (h : Serves (ticketService fits readOnly) Start c₁ c₂ ev)
    (hrun : Run (ticketService fits readOnly) Start c₂ c)
    (hcall : c.Plays ev.caller (deliveryCall libs sesMessageId raw rawS3Key)) {id : String}
    (hne : (dbOf c₂.trace).now.tickets.lookup id ≠ (dbOf c₁.trace).now.tickets.lookup id) :
    ∃ mail inst row,
      Accepted libs ev.caller sesMessageId raw mail inst (ownEvents ev.caller c.trace.events) ∧
      (dbOf c₂.trace).now.tickets.lookup id = some row ∧ row.record.instanceId = inst := by
  rcases tables_served h with hdb | ⟨e, d, hchange, -, hdb⟩
  · rw [hdb] at hne
    exact absurd rfl hne
  rw [hdb, Replica.write_now] at hne ⊢
  have htouches := touches_of_tickets hchange fun heq => hne (by rw [heq])
  obtain ⟨mail, inst, hacc, hwithin⟩ := accepted_served h hrun hcall htouches
  refine ⟨mail, inst, ?_⟩
  have hfinal := hacc.final h hrun
  revert hwithin hchange
  generalize ev.op = op
  intro hchange hwithin
  cases TicketDb.tickets_move hchange with
  | same heq =>
      rw [heq] at hne
      exact absurd rfl hne
  | @create instanceId number subject requesterEmails ccEmails hnew heq =>
      rw [heq, Table.lookup_insert_if] at hne ⊢
      split at hne
      · rename_i hid
        exact ⟨newTicket e instanceId number subject requesterEmails ccEmails, hfinal,
          by rw [if_pos hid], hwithin⟩
      · exact absurd rfl hne
  | @update id' change row hrow heq =>
      rw [heq, Table.lookup_insert_if] at hne ⊢
      split at hne
      · rename_i hid
        refine ⟨_, hfinal, by rw [if_pos hid], ?_⟩
        obtain ⟨row', hrow', hinst⟩ := hwithin.1.row hreach.invariant
          fun ev hev => (mem_ownEvents.mp hev).1
        obtain rfl := Option.some.inj (hrow.symm.trans hrow')
        exact (row.same_update change).instanceId.trans hinst
      · exact absurd rfl hne

/-- A row of a message that a delivery creates or changes is one of a ticket of its instance. -/
theorem message_within (hreach : TicketReachable Start c₁)
    (h : Serves (ticketService fits readOnly) Start c₁ c₂ ev)
    (hrun : Run (ticketService fits readOnly) Start c₂ c)
    (hcall : c.Plays ev.caller (deliveryCall libs sesMessageId raw rawS3Key)) {id : String}
    (hne : (dbOf c₂.trace).now.messages.lookup id ≠ (dbOf c₁.trace).now.messages.lookup id) :
    ∃ mail inst m row,
      Accepted libs ev.caller sesMessageId raw mail inst (ownEvents ev.caller c.trace.events) ∧
      (dbOf c₂.trace).now.messages.lookup id = some m ∧
      (dbOf c₂.trace).now.tickets.lookup m.content.ticketId = some row ∧
      row.record.instanceId = inst := by
  have hlater := hreach.later (.single h.1)
  have hsub : ∀ ev' ∈ ownEvents ev.caller c₁.trace.events, ev' ∈ c₁.trace.events :=
    fun ev hev => (mem_ownEvents.mp hev).1
  rcases tables_served h with hdb | ⟨e, d, hchange, -, hdb⟩
  · rw [hdb] at hne
    exact absurd rfl hne
  rw [hdb, Replica.write_now] at hne hlater ⊢
  have htouches := touches_of_messages hchange fun heq => hne (by rw [heq])
  obtain ⟨mail, inst, hacc, hwithin⟩ := accepted_served h hrun hcall htouches
  have hfinal := hacc.final h hrun
  -- the ticket that is named is still there after the write
  have hticket : ∀ {id}, TicketOf libs ev.caller mail inst (ownEvents ev.caller c₁.trace.events) id →
      ∃ row, d.tickets.lookup id = some row ∧ row.record.instanceId = inst := by
    intro id hid
    obtain ⟨row, hrow, hinst⟩ := hid.row hreach.invariant hsub
    obtain ⟨row', hrow', hsame⟩ := hlater.ticket hrow
    exact ⟨row', hrow', hsame.instanceId.trans hinst⟩
  revert hwithin hchange
  generalize ev.op = op
  intro hchange hwithin
  cases TicketDb.messages_move hchange with
  | same heq =>
      rw [heq] at hne
      exact absurd rfl hne
  | @create content hnew heq =>
      rw [heq, Table.lookup_insert_if] at hne ⊢
      split at hne
      · rename_i hid
        obtain ⟨row, hrow, hinst⟩ := hticket hwithin.1
        exact ⟨mail, inst, _, row, hfinal, by rw [if_pos hid], hrow, hinst⟩
      · exact absurd rfl hne
  | @update id' change m hm heq =>
      rw [heq, Table.lookup_insert_if] at hne ⊢
      split at hne
      · rename_i hid
        obtain ⟨content, m', hof, hev, rfl⟩ := hwithin
        obtain ⟨row, hrow, hinst⟩ := hticket hof
        refine ⟨mail, inst, _, row, hfinal, by rw [if_pos hid], ?_, hinst⟩
        -- the message is the one this delivery created
        obtain ⟨m'', hm'', hcontent⟩ := hreach.invariant.message_now (hsub _ hev)
        obtain rfl := Option.some.inj (hm.symm.trans hm'')
        rw [(m.same_update change).content, hcontent]
        exact hrow
      · exact absurd rfl hne

/-- Inbound tenant isolation. -/
theorem tenant_isolation (hreach : TicketReachable Start c₁)
    (h : Serves (ticketService fits readOnly) Start c₁ c₂ ev)
    (hrun : Run (ticketService fits readOnly) Start c₂ c)
    (hcall : c.Plays ev.caller (deliveryCall libs sesMessageId raw rawS3Key)) :
    -- what is created or changed belongs to the instance of the recipients
    (∀ id, (dbOf c₂.trace).now.tickets.lookup id ≠ (dbOf c₁.trace).now.tickets.lookup id →
      ∃ mail inst row, libs.parse raw = some mail ∧
        routedTo libs.lower mail (ownEvents ev.caller c.trace.events) = some inst ∧
        (dbOf c₂.trace).now.tickets.lookup id = some row ∧ row.record.instanceId = inst) ∧
    (∀ id, (dbOf c₂.trace).now.messages.lookup id ≠ (dbOf c₁.trace).now.messages.lookup id →
      ∃ mail inst m row, libs.parse raw = some mail ∧
        routedTo libs.lower mail (ownEvents ev.caller c.trace.events) = some inst ∧
        (dbOf c₂.trace).now.messages.lookup id = some m ∧
        (dbOf c₂.trace).now.tickets.lookup m.content.ticketId = some row ∧
        row.record.instanceId = inst) ∧
    -- a verified ticket of another instance ends the delivery
    ∀ mail inst ticket, libs.parse raw = some mail →
      routedTo libs.lower mail (ownEvents ev.caller c.trace.events) = some inst →
      firstVerified (mail.plan libs.lower).candidates
        (lookups (ownEvents ev.caller c.trace.events)) = some ticket →
      ticket.instanceId ≠ inst →
      (dbOf c₂.trace).now.tickets = (dbOf c₁.trace).now.tickets ∧
      (dbOf c₂.trace).now.messages = (dbOf c₁.trace).now.messages ∧
      ∀ mail recipients ccs, ev.op ≠ .sendRaw mail recipients ccs := by
  refine ⟨fun id hne => ?_, fun id hne => ?_, fun mail inst ticket hparse hroute hfirst hother => ?_⟩
  · obtain ⟨mail, inst, row, hacc, hrow, hinst⟩ := ticket_within hreach h hrun hcall hne
    exact ⟨mail, inst, row, hacc.parsed, hacc.routed, hrow, hinst⟩
  · obtain ⟨mail, inst, m, row, hacc, hm, hrow, hinst⟩ := message_within hreach h hrun hcall hne
    exact ⟨mail, inst, m, row, hacc.parsed, hacc.routed, hm, hrow, hinst⟩
  · have hquiet : ev.op.touches = false := by
      by_contra htouches
      rw [Bool.not_eq_false] at htouches
      obtain ⟨mail', inst', hacc, -⟩ := accepted_served h hrun hcall htouches
      have hfinal := hacc.final h hrun
      obtain rfl := Option.some.inj (hparse.symm.trans hfinal.parsed)
      obtain rfl := Option.some.inj (hroute.symm.trans hfinal.routed)
      refine hother (hfinal.verified [] ticket ?_)
      rw [List.append_nil]
      exact hfirst
    have hnot : ¬ ev.op.touches := by simp [hquiet]
    refine ⟨?_, ?_, fun mail recipients ccs hop => ?_⟩
    · rcases tables_served h with hdb | ⟨e, d, hchange, -, hdb⟩
      · rw [hdb]
      · rw [hdb, Replica.write_now]
        by_contra hne
        exact hnot (touches_of_tickets hchange hne)
    · rcases tables_served h with hdb | ⟨e, d, hchange, -, hdb⟩
      · rw [hdb]
      · rw [hdb, Replica.write_now]
        by_contra hne
        exact hnot (touches_of_messages hchange hne)
    · rw [hop] at hquiet
      cases hquiet

end steps

/-- A delivery that is about to open a ticket. -/
def mailReceived : List TicketMove := [] ++ [mailCall "s1" 0] ++ ticketServes 0 0 8

/-- The ticket is opened. -/
def mailPlaced : List TicketMove := mailReceived ++ [.serve 0 (sampleTicketEnv 8)]

theorem mailReceived_plays : (ticketPool mailReceived).Plays 0
    (deliveryCall sampleMailLibs "s1" [0] none) :=
  ticketPool_plays (.processRawMessage "s1" [0] none) (by decide +kernel) (by decide +kernel)

theorem tenant_isolation_sample : (dbOf (ticketPool mailPlaced).trace).now.tickets.keys = ["r8"] ∧
    ∀ id, (dbOf (ticketPool mailPlaced).trace).now.tickets.lookup id ≠
        (dbOf (ticketPool mailReceived).trace).now.tickets.lookup id →
      ∃ mail inst row, sampleMailLibs.parse [0] = some mail ∧
        routedTo sampleMailLibs.lower mail
          (ownEvents 0 (ticketPool mailPlaced).trace.events) = some inst ∧
        (dbOf (ticketPool mailPlaced).trace).now.tickets.lookup id = some row ∧
        row.record.instanceId = inst := by
  have hop : (ticketPool mailReceived).next 0 =
      some (.createTicket "i1" 1 "Printer" ["kim@x.org"] []) := by decide +kernel
  have hserves := ticketPool_serves (n := 8) hop (by decide +kernel)
  have hplays := mailReceived_plays.run (.single hserves.1)
  exact ⟨by decide +kernel, (tenant_isolation (ticketPool_reachable _) hserves .refl hplays).1⟩

end Microticket

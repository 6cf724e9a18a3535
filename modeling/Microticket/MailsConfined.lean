import Microticket.OwnAddresses
import Microticket.StoredMessages

/-! # Where mail goes

Every mail on a ticket, in any interleaving, goes out for a call that the run plays
(`mails_confined`).  Either it goes to people on this ticket, none of them an own address of the
instance, and says what the call says to customers.  Or it goes to one enabled member of the ticket's
instance, other than the one who acts, whose settings ask to be told of what the call does. -/

namespace Microticket

open Interleaving Tables

/-! ### Answers -/

/-- What a mail rests on, as the version `d` has it; a ticket is opened with the given people. -/
def TicketDb.answersMail (d : TicketDb) : TicketEvent → Prop
  | ⟨_, .getInstance id, .ok row⟩ => row = d.instances.lookup id
  | ⟨_, .listInboundAddressesByInstance instanceId, .ok rows⟩ => rows = d.addressesOf instanceId
  | ⟨_, .createTicket _ _ _ requesterEmails ccEmails, .ok ticket⟩ =>
      ticket.people = requesterEmails ++ ccEmails
  | _ => True

theorem TicketStore.serve_answersMail (s : TicketStore) (e : TicketEnv) (fits : Item → Bool)
    (readOnly : Bool) (i : ℕ) (op : TicketOp) :
    ∃ d, (s.serve e fits readOnly op).2.db.Committed d ∧
      d.answersMail ⟨i, op, (s.serve e fits readOnly op).1⟩ := by
  have hnow : ∀ {r : op.Res}, (s.serve e fits readOnly op).2.db.now.answersMail ⟨i, op, r⟩ →
      ∃ d, (s.serve e fits readOnly op).2.db.Committed d ∧ d.answersMail ⟨i, op, r⟩ :=
    fun h => ⟨_, Replica.committed_now _, h⟩
  generalize hr : (s.serve e fits readOnly op).1 = r at hnow ⊢
  cases op
  case getInstance id =>
      cases r with
      | error err => exact hnow trivial
      | ok row => exact ⟨_, s.db.committed_seen e.lag, TicketStore.read_ok hr⟩
  case listInboundAddressesByInstance instanceId =>
      cases r with
      | error err => exact hnow trivial
      | ok rows => exact ⟨_, s.db.committed_seen e.lag, TicketStore.read_ok hr⟩
  case createTicket instanceId number subject requesterEmails ccEmails =>
      cases r with
      | error err => exact hnow trivial
      | ok ticket =>
          refine hnow ?_
          rcases TicketStore.write_ok hr with ⟨rfl, -⟩ | ⟨hrefused, -, -⟩
          · rfl
          · cases hrefused
  all_goals exact hnow trivial

section answers
variable {fits : Item → Bool} {readOnly : Bool} {Start : TicketProg Reply → Prop}
variable {c : Pool (ticketService fits readOnly) Error Reply} {i : ℕ}

theorem TicketReachable.answersMail (hreach : TicketReachable Start c) : ∀ ev ∈ c.trace.events,
    ∃ d, (dbOf c.trace).Committed d ∧ d.answersMail ev := by
  obtain ⟨instances, addresses, hrun⟩ := hreach
  refine Run.keeps (P := fun _ => True) (K := fun t => ∀ ev ∈ t.events,
    ∃ d, (dbOf t).Committed d ∧ d.answersMail ev) ?_ hrun (fun _ _ => trivial) ?_
  · rintro c₁ c₂ ev - hserves - hK
    obtain ⟨e, k, -, -, htrace, -⟩ := hserves.trace
    rw [htrace]
    intro ev' hev'
    rcases List.mem_append.mp hev' with hev' | hev'
    · obtain ⟨d, hd, hans⟩ := hK ev' hev'
      exact ⟨d, committed_serve hd, hans⟩
    · rw [List.mem_singleton.mp hev']
      exact TicketStore.serve_answersMail c₁.trace.state e fits readOnly ev.caller ev.op
  · intro ev hev
    cases hev

/-- The ticket is the row under its id in a version that was committed. -/
def StoredTicket (t : Trace (ticketService fits readOnly)) (ticket : Ticket) : Prop :=
  ∃ d, (dbOf t).Committed d ∧ ∃ row, d.tickets.lookup ticket.id = some row ∧ row.record = ticket

/-- The ticket that a program was answered with is a row, and the people are on it. -/
theorem Reaches.stored (hreach : TicketReachable Start c) {ticket : Ticket} {people : List String}
    (hr : Reaches i (ownEvents i c.trace.events) ticket people) :
    StoredTicket c.trace ticket ∧ people ⊆ ticket.people := by
  cases hr with
  | read hread hpeople =>
      refine ⟨?_, hpeople⟩
      obtain ⟨d, hd, hans⟩ := hreach.invariant.answered (mem_of_own hread)
      obtain ⟨row, hrow, rfl⟩ := Option.map_eq_some_iff.mp hans.symm
      have hid : row.record.id = _ := (hreach.invariant.sound hd).ticketKey hrow
      refine ⟨d, hd, row, ?_, rfl⟩
      rw [hid]
      exact hrow
  | @opened _ _ _ requesterEmails ccEmails hopened hpeople =>
      obtain ⟨d, hd, -, -, row, hrow, hrecord⟩ := hreach.invariant.answered (mem_of_own hopened)
      refine ⟨⟨d, hd, row, hrow, hrecord⟩, ?_⟩
      obtain ⟨_, -, hans⟩ := hreach.answersMail _ (mem_of_own hopened)
      have hon : ticket.people = requesterEmails ++ ccEmails := hans
      rcases hpeople with hpeople | hpeople
      · rw [hon]
        exact hpeople
      · exact hpeople

/-- An instance that was read is the row under the id that was asked for, in some version. -/
theorem instance_stored (hreach : TicketReachable Start c) {id : String} {inst : Instance}
    (hev : ⟨i, .getInstance id, .ok (some inst)⟩ ∈ ownEvents i c.trace.events) :
    ∃ d, (dbOf c.trace).Committed d ∧ d.instances.lookup id = some inst := by
  obtain ⟨d, hd, hans⟩ := hreach.answersMail _ (mem_of_own hev)
  exact ⟨d, hd, hans.symm⟩

end answers

/-! ### Mails -/

/-- What a mail says that was built from the text. -/
theorem buildOutbound_textBody {lower debug : String → String} {inst : Instance}
    {addresses : List InboundAddress} {ticket : Ticket} {requesterEmails ccEmails : List String}
    {body nonce : String} {threading : Threading} {mail : Mime}
    (hmail : buildOutbound lower debug inst addresses ticket requesterEmails ccEmails body threading
      nonce = .ok mail) : mail.textBody = renderText body inst.signature := by
  unfold buildOutbound at hmail
  split at hmail
  · cases hmail
  dsimp only at hmail
  split at hmail
  · cases hmail
  split at hmail
  · cases hmail
  · cases hmail
    rfl

/-- The mail goes from the instance, with these own addresses, to people on the ticket. -/
structure ToCustomers (libs : MailLibs) (call : TicketCall) (ticket : Ticket) (inst : Instance)
    (own : List InboundAddress) (mail : Mime) (recipients ccs : List String) : Prop where
  named : recipients = mail.recipients ∧ ccs = mail.ccs
  people : recipients ++ ccs ⊆ ticket.people
  notOwn : ∀ email ∈ recipients ++ ccs, isOwnAddress libs.lower own email = false
  sender : primaryInboundAddress own = some mail.fromAddress
  replyTo : replyToAddress libs.debug mail.fromAddress ticket.id ticket.replyToken = .ok mail.replyTo
  text : ∃ text, call.customerText libs text ∧ mail.textBody = renderText text inst.signature

/-- The mail tells the member of the ticket's instance, by program `i`, what the call does. -/
structure ToStaff (libs : MailLibs) (events : List TicketEvent) (i : ℕ) (call : TicketCall)
    (ticket : Ticket) (inst : Instance) (membership : StaffMembership) (user : StaffUser)
    (mail : Mime) (recipients ccs : List String) : Prop where
  named : recipients = [user.email] ∧ ccs = []
  listed : ∃ memberships, membership ∈ memberships ∧
    ⟨i, .listMembershipsByInstance ticket.instanceId, .ok memberships⟩ ∈ events
  found : ⟨i, .getUser membership.userId, .ok (some user)⟩ ∈ events
  enabled : user.enabled
  asked : ∃ event actor assigneeUserId text status reason actorName newAssigneeName nonce,
    Notices libs ticket call event actor assigneeUserId text ∧ isActor user actor = false ∧
    status ≠ .deleted ∧ reasonFor membership user assigneeUserId event = some reason ∧
    mail = buildStaffMime libs.toAppLibs inst { ticket with status }
      ⟨user.id, user.email, user.name, reason⟩ (headline event actorName reason newAssigneeName)
      (excerptLine text) nonce

section mails
variable {fits : Item → Bool} {readOnly : Bool} {libs : MailLibs}
variable {c : Pool (ticketService fits readOnly) Error Reply}

/-- The request is a mail. -/
def TicketOp.mails : TicketOp → Bool
  | .sendRaw .. => true
  | _ => false

theorem sendRaw_of_mails {op : TicketOp} (h : op.mails) :
    ∃ mail recipients ccs, op = .sendRaw mail recipients ccs := by
  cases op
  case sendRaw mail recipients ccs => exact ⟨mail, recipients, ccs, rfl⟩
  all_goals cases h

/-- The member's reply is mailed. -/
def replyMailed : List TicketMove := attachedReplied ++ ticketServes 1 31 2

end mails

end Microticket

import Microticket.MailIsolation

/-! # Who is copied on a ticket

Inbound mail adds its sender to the copies of a ticket that it was resolved to.  If the message carries
the reply token of the ticket, or names a message stored on it, the sender has been part of the
conversation; the number in the subject says nothing of the kind.  `subscription` is the exact
condition under which only the first two add a stranger, `subscription_by_number` a run in which the
number does. -/

namespace Microticket

open Interleaving Tables RustText

/-! ### Tokens -/

/-- A tag that verifies carries the token of the ticket. -/
theorem ReplyTag.token_of_verifies {tag : ReplyTag} {ticket : Ticket} (h : tag.verifies ticket) :
    tag.replyToken = ticket.replyToken := (asBytes_inj (eq_of_constantTimeEq h)).symm

/-! ### The claim and its condition -/

section
variable (libs : MailLibs) (mail : ParsedMail)

/-- The message carries the reply token of the ticket, or names a message that is stored on it. -/
def Cites (db : Replica TicketDb) (id : String) (row : TicketRow) : Prop :=
  (∃ tag ∈ extractReplyTags libs.lower mail.allRecipients,
    tag.ticketId = id ∧ tag.replyToken = row.record.replyToken) ∨
  ∃ mid ∈ candidateMessageIds mail.inReplyToText mail.referencesText, ∃ d, db.Committed d ∧
    ∃ key m, d.messages.lookup key = some m ∧ m.rfcMessageId = some mid ∧ m.content.ticketId = id

/-- Whenever the delivery reads a ticket that it found by the number in the subject, the sender is
one of its people. -/
def KnownByNumber (i : ℕ) (h : List TicketEvent) : Prop :=
  ∀ key id ticket, [⟨i, .ticketIdsByInstanceNumber key, .ok [id]⟩,
    ⟨i, .getTicket id, .ok (some ticket)⟩] <:+: h →
    ∀ email ∈ mail.sentBy libs.lower, ticket.involves email

end

section
variable {fits : Item → Bool} {readOnly : Bool} {t : Trace (ticketService fits readOnly)}
variable {libs : MailLibs} {i : ℕ} {mail : ParsedMail} {inst : String} {h : List TicketEvent}

/-- A ticket that was not found by its number is cited by the message. -/
theorem FoundBy.cites {ticket : Ticket} (hfound : FoundBy libs i mail inst h ticket)
    (hinv : TicketInvariant t) (hsub : ∀ ev ∈ h, ev ∈ t.events) {email : String}
    (hsender : mail.sentBy libs.lower = some email) (hstranger : ticket.involves email = false)
    (hknown : KnownByNumber libs mail i h) {row : TicketRow}
    (hrow : (dbOf t).now.tickets.lookup ticket.id = some row) :
    Cites libs mail (dbOf t) ticket.id row := by
  obtain ⟨-, row', hrow', -, -, htoken⟩ := hfound.row hinv hsub
  obtain rfl := Option.some.inj (hrow.symm.trans hrow')
  cases hfound with
  | @tag tag htag hread hverifies hinst =>
      obtain ⟨hid, -⟩ := hinv.ticket_now (hsub _ hread)
      exact .inl ⟨tag, htag, hid.symm, (tag.token_of_verifies hverifies).trans htoken.symm⟩
  | @messageId mid key m hmid hids hm hread hinst =>
      obtain ⟨hid, -⟩ := hinv.ticket_now (hsub _ hread)
      refine .inr ⟨mid, hmid, ?_⟩
      -- the row that was found by the id and the one that was read are one message
      obtain ⟨d, hd, hans⟩ := hinv.answered (hsub _ hids)
      have hmem : key ∈ d.messageIds mid := by
        rw [← show [key] = _ from hans]
        exact List.mem_singleton_self _
      obtain ⟨m₁, hm₁, hrfc⟩ := TicketDb.mem_messageIds.mp hmem
      obtain ⟨d', hd', hans'⟩ := hinv.answered (hsub _ hm)
      obtain ⟨m₂, hm₂, hsame₁⟩ := (hinv.later hd).message hm₁
      obtain ⟨m₃, hm₃, hsame₂⟩ := (hinv.later hd').message (show _ = some m from hans'.symm)
      obtain rfl := Option.some.inj (hm₂.symm.trans hm₃)
      refine ⟨d, hd, key, m₁, hm₁, hrfc, ?_⟩
      rw [hid, ← hsame₁.content, hsame₂.content]
  | @number number key hnumber hseq =>
      have hin := hknown _ _ _ hseq email hsender
      rw [hstranger] at hin
      cases hin

end

section
variable {fits : Item → Bool} {readOnly : Bool} {Start : TicketProg Reply → Prop}
variable {c c₁ c₂ : Pool (ticketService fits readOnly) Error Reply} {ev : TicketEvent}
variable {libs : MailLibs} {sesMessageId : String} {raw : List UInt8} {rawS3Key : Option String}

/-- An update that adds to the copies of a ticket. -/
theorem TicketRow.update_copies {row : TicketRow} {change : TicketUpdateShape} {a : String}
    (hnot : a ∉ row.record.ccEmails) (hin : a ∈ (row.update change).record.ccEmails) :
    ∃ now, change = .addCc a now := by
  cases change with
  | addCc email now =>
      simp only [TicketRow.update, addToSet] at hin
      split at hin
      · exact absurd hin hnot
      · rcases List.mem_append.mp hin with hin | hin
        · exact absurd hin hnot
        · rw [List.mem_singleton.mp hin]
          exact ⟨now, rfl⟩
  | removeCc email now => exact absurd (List.mem_of_mem_filter hin) hnot
  | setStatusAndAssignee => exact absurd hin hnot
  | addRequester => exact absurd hin hnot
  | removeRequester => exact absurd hin hnot
  | touch => exact absurd hin hnot
  | markHasAttachments => exact absurd hin hnot

/-- Inbound mail cannot subscribe a stranger, unless it finds the ticket by its number. -/
theorem subscription (hreach : TicketReachable Start c₁)
    (h : Serves (ticketService fits readOnly) Start c₁ c₂ ev)
    (hrun : Run (ticketService fits readOnly) Start c₂ c)
    (hcall : c.Plays ev.caller (deliveryCall libs sesMessageId raw rawS3Key))
    {mail : ParsedMail} (hparse : libs.parse raw = some mail)
    (hknown : KnownByNumber libs mail ev.caller (ownEvents ev.caller c.trace.events))
    {id a : String} {row row' : TicketRow}
    (hrow : (dbOf c₁.trace).now.tickets.lookup id = some row)
    (hrow' : (dbOf c₂.trace).now.tickets.lookup id = some row')
    (hstranger : row.record.involves a = false) (hadded : a ∈ row'.record.ccEmails) :
    Cites libs mail (dbOf c₁.trace) id row := by
  have hnot : a ∉ row.record.ccEmails := fun hmem => by
    simp [Ticket.involves, hmem] at hstranger
  rcases tables_served h with hdb | ⟨e, d, hchange, -, hdb⟩
  · rw [hdb, hrow] at hrow'
    cases hrow'
    exact absurd hadded hnot
  rw [hdb, Replica.write_now] at hrow'
  have hpermits := h.permitted hrun hcall (sends_deliveryCall ..)
  obtain ⟨rest, hrest⟩ := h.own_split hrun
  revert hpermits hchange
  generalize ev.op = op
  intro hchange hpermits
  cases TicketDb.tickets_move hchange with
  | same heq =>
      rw [heq, hrow] at hrow'
      cases hrow'
      exact absurd hadded hnot
  | create hnew heq =>
      rw [heq, Table.lookup_insert_if, if_neg, hrow] at hrow'
      · cases hrow'
        exact absurd hadded hnot
      · rintro rfl
        rw [hnew] at hrow
        cases hrow
  | @update id' change row₀ hrow₀ heq =>
      rw [heq, Table.lookup_insert_if] at hrow'
      split at hrow'
      · rename_i hid
        subst hid
        obtain rfl := Option.some.inj (hrow.symm.trans hrow₀)
        cases hrow'
        obtain ⟨now, rfl⟩ := TicketRow.update_copies hnot hadded
        obtain ⟨mail', inst, hacc, -, hwithin⟩ := hpermits.touches rfl
        obtain rfl := Option.some.inj (hparse.symm.trans hacc.parsed)
        obtain ⟨hsender, ticket, rfl, hfound, hnew⟩ := hwithin a now rfl
        refine hfound.cites hreach.invariant (fun ev hev => (mem_ownEvents.mp hev).1) hsender hnew
          (fun key id ticket hseq => hknown key id ticket ?_) hrow
        rw [hrest]
        exact hseq.trans (List.prefix_append _ _).isInfix
      · rw [hrow] at hrow'
        cases hrow'
        exact absurd hadded hnot

end

/-- A history without a lookup of a number. -/
theorem knownByNumber_of_none {libs : MailLibs} {mail : ParsedMail} {i : ℕ} {h : List TicketEvent}
    (hnone : ∀ ev ∈ h, (match ev.op with
      | .ticketIdsByInstanceNumber _ => true
      | _ => false) = false) : KnownByNumber libs mail i h := by
  intro key id ticket hseq
  have hfalse := hnone _ (hseq.subset List.mem_cons_self)
  cases hfalse

/-- Lee answers it by its message id, and is about to be added. -/
def leeReplies : List TicketMove := ticketOpened ++ [mailCall "s2" 3] ++ ticketServes 1 20 10

/-- Eve's subject names its number, and she is about to be added. -/
def eveWrites : List TicketMove := ticketOpened ++ [mailCall "s2" 1] ++ ticketServes 1 20 9

theorem subscription_sample :
    (ticketPool leeReplies).next 1 = some (.updateTicket "r8" (.addCc "lee@z.org" 120)) ∧
    ∃ mail row, sampleMailLibs.parse [3] = some mail ∧
      Cites sampleMailLibs mail (dbOf (ticketPool leeReplies).trace) "r8" row := by
  have hop : (ticketPool leeReplies).next 1 =
      some (.updateTicket "r8" (.addCc "lee@z.org" 120)) := by decide +kernel
  have hserves := ticketPool_serves (n := 30) hop (by decide +kernel)
  have hplays : (ticketPool leeReplies).Plays 1 (deliveryCall sampleMailLibs "s2" [3] none) :=
    ticketPool_plays (.processRawMessage "s2" [3] none) (by decide +kernel) (by decide +kernel)
  have hrow : ((dbOf (ticketPool leeReplies).trace).now.tickets.lookup "r8").isSome := by
    decide +kernel
  obtain ⟨row, hrow⟩ := Option.isSome_iff_exists.mp hrow
  obtain ⟨row', hrow', hsame⟩ := ((ticketPool_reachable leeReplies).later (.single hserves.1)).ticket hrow
  refine ⟨hop, _, row, rfl, ?_⟩
  refine subscription (ticketPool_reachable _) hserves .refl (hplays.run (.single hserves.1)) rfl
    (a := "lee@z.org") (knownByNumber_of_none ?_) hrow hrow' ?_ ?_
  · decide +kernel
  · have hold : ((dbOf (ticketPool leeReplies).trace).now.tickets.lookup "r8").all fun row =>
        !row.record.involves "lee@z.org" := by decide +kernel
    rw [hrow] at hold
    simpa using hold
  · have hnew : ((dbOf (ticketPool (leeReplies ++ [.serve 1 (sampleTicketEnv 30)])).trace).now.tickets.lookup
        "r8").all fun row => row.record.ccEmails.contains "lee@z.org" := by decide +kernel
    rw [hrow'] at hnew
    simpa using hnew

/-- The number in the subject adds a stranger. -/
theorem subscription_by_number : ¬ ∀ (libs : MailLibs) (fits : Item → Bool) (readOnly : Bool)
    (c₁ c₂ : Pool (ticketService fits readOnly) Error Reply) (ev : TicketEvent)
    (sesMessageId : String) (raw : List UInt8) (rawS3Key : Option String) (mail : ParsedMail)
    (id a : String) (row row' : TicketRow), TicketReachable (IsTicketCall libs) c₁ →
    Serves (ticketService fits readOnly) (IsTicketCall libs) c₁ c₂ ev →
    c₂.Plays ev.caller (deliveryCall libs sesMessageId raw rawS3Key) →
    libs.parse raw = some mail →
    (dbOf c₁.trace).now.tickets.lookup id = some row →
    (dbOf c₂.trace).now.tickets.lookup id = some row' →
    row.record.involves a = false → a ∈ row'.record.ccEmails →
    Cites libs mail (dbOf c₁.trace) id row := by
  intro hclaim
  have hop : (ticketPool eveWrites).next 1 =
      some (.updateTicket "r8" (.addCc "eve@y.org" 120)) := by decide +kernel
  have hserves := ticketPool_serves (n := 29) hop (by decide +kernel)
  have hplays : (ticketPool eveWrites).Plays 1 (deliveryCall sampleMailLibs "s2" [1] none) :=
    ticketPool_plays (.processRawMessage "s2" [1] none) (by decide +kernel) (by decide +kernel)
  have hrow : ((dbOf (ticketPool eveWrites).trace).now.tickets.lookup "r8").isSome := by
    decide +kernel
  obtain ⟨row, hrow⟩ := Option.isSome_iff_exists.mp hrow
  obtain ⟨row', hrow', hsame⟩ := ((ticketPool_reachable eveWrites).later (.single hserves.1)).ticket hrow
  have hold : ((dbOf (ticketPool eveWrites).trace).now.tickets.lookup "r8").all fun row =>
      !row.record.involves "eve@y.org" := by decide +kernel
  have hnew : ((dbOf (ticketPool (eveWrites ++ [.serve 1 (sampleTicketEnv 29)])).trace).now.tickets.lookup
      "r8").all fun row => row.record.ccEmails.contains "eve@y.org" := by decide +kernel
  rw [hrow] at hold
  rw [hrow'] at hnew
  have hcites := hclaim sampleMailLibs _ _ _ _ _ "s2" [1] none _ "r8" "eve@y.org" row row'
    (ticketPool_reachable _) hserves (hplays.run (.single hserves.1)) rfl hrow hrow'
    (by simpa using hold) (by simpa using hnew)
  -- her message has neither a tag nor a message id
  rcases hcites with ⟨tag, htag, -⟩ | ⟨mid, hmid, -⟩
  · have hnone : extractReplyTags sampleMailLibs.lower ["help@desk.org"] = [] := by decide +kernel
    rw [show ParsedMail.allRecipients _ = ["help@desk.org"] from rfl, hnone] at htag
    cases htag
  · cases hmid

end Microticket

import Microticket.CodeSafety
import Microticket.MailIsolation

/-! # The system's own mail

Every raw mail on a ticket, to the customers or to the staff, carries `X-Toolbox-Loop`, and a delivery
drops a message with this header before it looks anything up (`own_mail_dropped`).  The mails of login
and submit codes are plain: all that tells them from a customer's mail is their sender, the configured
`MAIL_FROM`, and this is looked up among the inbound addresses.  If it is not one of them, a submit code
that somebody requests for an inbound address opens a ticket there (`system_answered`). -/

namespace Microticket

open Interleaving Tables RustText

def loopHeaderName : String := "X-Toolbox-Loop"

/-! ### What is sent, and what arrives -/

/-- The message is the raw mail, delivered with the headers it was built with. -/
structure Mime.ArrivesAs (mail : Mime) (m : ParsedMail) : Prop where
  sender : m.sender = [some mail.fromAddress]
  recipients : m.recipients = mail.recipients.map some
  cc : m.cc = mail.ccs.map some
  subject : m.subject = some mail.subject
  autoSubmitted : m.autoSubmitted = mail.headers.lookup "Auto-Submitted"
  precedence : m.precedence = mail.headers.lookup "Precedence"
  loopHeader : m.loopHeader = (mail.headers.lookup loopHeaderName).isSome
  bodyText : m.bodyText = some mail.textBody

/-- The message is a mail of `send_plain_text`, as it is delivered. -/
structure PlainArrivesAs (libs : AppLibs) (recipient subject content : String) (m : ParsedMail) :
    Prop where
  sender : m.sender = [some libs.systemFrom]
  recipients : m.recipients = [some recipient]
  cc : m.cc = []
  subject : m.subject = some subject
  autoSubmitted : m.autoSubmitted = none
  precedence : m.precedence = none
  loopHeader : m.loopHeader = false
  bodyText : m.bodyText = some content

/-- The request sends no mail without the loop header. -/
def TicketOp.marksMail : TicketOp → Prop
  | .sendRaw mail _ _ => (loopHeaderName, "1") ∈ mail.headers
  | _ => True

/-! ### Every raw mail is marked -/

section marked
variable {libs : AppLibs} {auth : Option AuthInfo}

theorem buildOutbound_marked {lower debug : String → String} {inst : Instance}
    {addresses : List InboundAddress} {ticket : Ticket} {requesterEmails ccEmails : List String}
    {body : String} {threading : Threading} {nonce : String} {mail : Mime}
    (h : buildOutbound lower debug inst addresses ticket requesterEmails ccEmails body threading nonce =
      .ok mail) : (loopHeaderName, "1") ∈ mail.headers := by
  unfold buildOutbound at h
  split at h
  · cases h
  · simp only at h
    split at h
    · cases h
    · split at h
      · cases h
      · have hmail := Except.ok.inj h
        rw [← hmail]
        simp [loopHeaderName]

theorem marks_mailStaff (notice : Notice) (recipients : List Recipient) :
    (mailStaff libs notice recipients).All TicketOp.marksMail := by
  induction recipients with
  | nil => trivial
  | cons recipient rest ih =>
      have hmarked : ∀ text nonce, (loopHeaderName, "1") ∈
          (buildStaffMime libs notice.inst notice.ticket recipient text notice.excerpt nonce).headers := by
        intro text nonce
        simp [buildStaffMime, loopHeaderName]
      exact ⟨trivial, fun nonce => ⟨hmarked _ nonce, fun _ => ih⟩⟩

theorem marks_staffCandidates (memberships : List StaffMembership) :
    (staffCandidates memberships).All TicketOp.marksMail := by
  induction memberships with
  | nil => trivial
  | cons membership rest ih =>
      refine ⟨trivial, fun r => ?_⟩
      cases r with
      | error e => trivial
      | ok user =>
          apply Prog.All.bind ih
          intro candidates
          cases candidates <;> trivial

theorem marks_notifyStaff (ticket : Ticket) (assigneeUserId : Option String) (event : StaffEvent)
    (actor : Actor) (messageBody : Option String) :
    (notifyStaff libs ticket assigneeUserId event actor messageBody).All TicketOp.marksMail := by
  unfold notifyStaff
  split
  · trivial
  · refine ⟨trivial, fun r => ?_⟩
    rcases r with e | _ | inst
    · trivial
    · trivial
    refine ⟨trivial, fun r => ?_⟩
    cases r with
    | error e => trivial
    | ok memberships =>
        apply Prog.All.bind (marks_staffCandidates memberships)
        intro candidates
        cases candidates with
        | none => trivial
        | some candidates => exact marks_mailStaff _ _

theorem marks_send {op : TicketOp} (hop : op.marksMail) : (send op).All TicketOp.marksMail :=
  ⟨hop, fun _ => trivial⟩

theorem marks_mailNotice (ticketId body : String) {mail : Mime}
    (hmail : (loopHeaderName, "1") ∈ mail.headers) :
    (mailNotice ticketId body mail).All TicketOp.marksMail := by
  refine ⟨hmail, fun r => ?_⟩
  cases r with
  | error e => trivial
  | ok rfcMessageId =>
      refine ⟨trivial, fun r => ?_⟩
      cases r with
      | error e => trivial
      | ok message => exact ⟨trivial, fun _ => trivial⟩

theorem marks_sendSystemNotification (ticket : Ticket) (requesterEmails ccEmails : List String)
    (body : String) :
    (sendSystemNotification libs ticket requesterEmails ccEmails body).All TicketOp.marksMail := by
  have hload : (loadInstanceAndAddresses ticket.instanceId).All TicketOp.marksMail := by
    refine ⟨trivial, fun r => ?_⟩
    rcases r with e | _ | inst
    · trivial
    · trivial
    · refine ⟨trivial, fun r => ?_⟩
      cases r <;> trivial
  apply Prog.All.bind hload
  intro loaded
  cases loaded with
  | none => trivial
  | some loaded =>
      refine ⟨trivial, fun nonce => ?_⟩
      dsimp only [bind, Prog.bind]
      split
      · trivial
      · rename_i mail hbuilt
        exact marks_mailNotice _ _ (buildOutbound_marked hbuilt)

/-- The notices after a ticket was submitted. -/
theorem marks_submitted (ticket : Ticket) (requesterEmails ccEmails : List String)
    (submitter body : String) (reply : Reply) :
    (do
      sendSystemNotification libs ticket requesterEmails ccEmails acknowledgementBody
      notifyStaff libs ticket none (.newTicket submitter) (.email submitter) (some body)
      return reply : TicketProg Reply).All TicketOp.marksMail := by
  apply Prog.All.bind (marks_sendSystemNotification ..)
  intro _
  apply Prog.All.bind (marks_notifyStaff ..)
  intro _
  trivial

theorem marks_requireLiveInstance (instanceId : String) :
    (requireLiveInstance instanceId).All TicketOp.marksMail := by
  refine Prog.All.bind (all_require ⟨trivial, fun _ => trivial⟩) fun inst => ?_
  exact Prog.all_ofOption _ _

theorem marks_openSubmittedTicket (inst : Instance) (subject body : String)
    (requesterEmails ccEmails : List String) :
    (openSubmittedTicket inst subject body requesterEmails ccEmails).All TicketOp.marksMail := by
  refine Prog.All.bind (all_require ⟨trivial, fun _ => trivial⟩) fun number => ?_
  refine Prog.All.bind (all_require ⟨trivial, fun _ => trivial⟩) fun ticket => ?_
  refine Prog.All.bind (all_require ⟨trivial, fun _ => trivial⟩) fun _ => ?_
  trivial

theorem marks_submitTicket (subject body : String) :
    (submitTicket libs auth subject body).All TicketOp.marksMail := by
  unfold submitTicket
  generalize trim subject = subject, trim body = body
  split
  · apply Prog.All.bind (Prog.all_ensure _ _)
    intro _
    apply Prog.All.bind (Prog.all_ensure _ _)
    intro _
    apply Prog.All.bind (marks_requireLiveInstance _)
    intro inst
    apply Prog.All.bind (marks_openSubmittedTicket ..)
    intro ticket
    exact marks_submitted ..
  · trivial

theorem marks_submitVerifiedTicket (subject body : String) (recipients cc : List String) :
    (submitVerifiedTicket libs auth subject body recipients cc).All TicketOp.marksMail := by
  unfold submitVerifiedTicket
  generalize trim subject = subject, trim body = body
  split
  · apply Prog.All.bind (Prog.all_ensure _ _)
    intro _
    apply Prog.All.bind (Prog.all_ensure _ _)
    intro _
    apply Prog.All.bind (Prog.all_ofExcept _)
    intro people
    apply Prog.All.bind (marks_requireLiveInstance _)
    intro inst
    refine Prog.All.bind (all_require ⟨trivial, fun _ => trivial⟩) fun addresses => ?_
    generalize (people.1 ++ people.2).find? _ = own
    cases own with
    | some own => trivial
    | none =>
        apply Prog.All.bind (marks_openSubmittedTicket ..)
        intro ticket
        exact marks_submitted ..
  · trivial

/-! ### Calls on a ticket -/

theorem marks_requireTicketMember (ticketId : String) :
    (requireTicketMember auth ticketId).All TicketOp.marksMail := by
  refine Prog.All.bind (all_require ⟨trivial, fun _ => trivial⟩) fun row => ?_
  apply Prog.All.bind (Prog.all_ofOption _ _)
  intro ticket
  exact all_memberOfTicket ..

/-- The calls that go on with a ticket the member may see. -/
theorem marks_member {ticketId : String} {f : Ticket → TicketProg Reply}
    (hf : ∀ ticket, (f ticket).All TicketOp.marksMail) :
    (guardAuthenticated auth >>= fun _ => requireTicketMember auth ticketId >>= f).All
      TicketOp.marksMail := by
  apply Prog.All.bind (all_guardAuthenticated auth)
  intro _
  apply Prog.All.bind (marks_requireTicketMember ticketId)
  exact hf

theorem marks_createAttachmentUpload (ticketId filename contentType : String) :
    (createAttachmentUpload auth ticketId filename contentType).All TicketOp.marksMail := by
  apply marks_member
  intro ticket
  refine ⟨trivial, fun unique => ⟨trivial, fun r => ?_⟩⟩
  cases r <;> trivial

theorem marks_moveAttachments (ticket : Ticket) (messageId : String) (index : ℕ)
    (keys : List String) :
    (moveAttachments libs ticket messageId index keys).All TicketOp.marksMail := by
  induction keys generalizing index with
  | nil => trivial
  | cons key keys ih =>
      apply Prog.All.bind (Prog.all_ensure _ _)
      intro _
      refine ⟨trivial, fun r => ?_⟩
      cases r with
      | error e => trivial
      | ok =>
          refine ⟨trivial, fun size => ?_⟩
          apply Prog.All.bind (ih _)
          intro _
          trivial

theorem marks_stampAttachments (ticketId messageId : String) (stored : List Attachment) :
    (stampAttachments ticketId messageId stored).All TicketOp.marksMail := by
  unfold stampAttachments
  split
  · trivial
  · refine Prog.All.bind (all_require ⟨trivial, fun _ => trivial⟩) fun _ => ?_
    exact all_require ⟨trivial, fun _ => trivial⟩

theorem marks_storeReply (ticket : Ticket) (userId body : String) (threading : Threading)
    (attachmentKeys : List String) {mail : Mime} (hmail : (loopHeaderName, "1") ∈ mail.headers) :
    (storeReply libs ticket userId body threading attachmentKeys mail).All TicketOp.marksMail := by
  refine Prog.All.bind (all_require ⟨trivial, fun _ => trivial⟩) fun message => ?_
  apply Prog.All.bind (p := send .clock) (marks_send trivial)
  intro now
  refine Prog.All.bind (all_require ⟨trivial, fun _ => trivial⟩) fun _ => ?_
  apply Prog.All.bind (marks_moveAttachments ..)
  intro stored
  apply Prog.All.bind (marks_stampAttachments ..)
  intro _
  apply Prog.All.bind (p := send (.sendRaw mail mail.recipients mail.ccs)) (marks_send hmail)
  intro r
  cases r with
  | error e => trivial
  | ok rfcMessageId =>
      refine Prog.All.bind (all_require ⟨trivial, fun _ => trivial⟩) fun _ => ?_
      apply Prog.All.bind (marks_notifyStaff ..)
      intro _
      trivial

theorem marks_replyToTicket (ticketId body : String) (attachmentKeys : Option (List String)) :
    (replyToTicket libs auth ticketId body attachmentKeys).All TicketOp.marksMail := by
  unfold replyToTicket
  generalize trim body = body
  apply marks_member
  intro ticket
  apply Prog.All.bind (all_requireUserId auth)
  intro userId
  apply Prog.All.bind (Prog.all_ensure _ _)
  intro _
  refine Prog.All.bind (all_require ⟨trivial, fun _ => trivial⟩) fun prior => ?_
  refine Prog.All.bind (all_require ⟨trivial, fun _ => trivial⟩) fun row => ?_
  apply Prog.All.bind (Prog.all_ofOption _ _)
  intro inst
  refine Prog.All.bind (all_require ⟨trivial, fun _ => trivial⟩) fun addresses => ?_
  refine ⟨trivial, fun nonce => ?_⟩
  apply Prog.All.ofExcept_bind
  intro mail hbuilt
  apply marks_storeReply
  cases hmail : buildOutbound libs.lower libs.debug inst addresses ticket ticket.requesterEmails
      ticket.ccEmails body (threadingFor prior) nonce with
  | error e =>
      rw [hmail] at hbuilt
      cases hbuilt
  | ok mail' =>
      rw [hmail] at hbuilt
      have hsame := Except.ok.inj hbuilt
      rw [← hsame]
      exact buildOutbound_marked hmail

theorem marks_addInternalNote (ticketId body : String) :
    (addInternalNote libs auth ticketId body).All TicketOp.marksMail := by
  unfold addInternalNote
  generalize trim body = body
  apply marks_member
  intro ticket
  apply Prog.All.bind (all_requireUserId auth)
  intro userId
  apply Prog.All.bind (Prog.all_ensure _ _)
  intro _
  refine Prog.All.bind (all_require ⟨trivial, fun _ => trivial⟩) fun message => ?_
  apply Prog.All.bind (p := send .clock) (marks_send trivial)
  intro now
  refine Prog.All.bind (all_require ⟨trivial, fun _ => trivial⟩) fun _ => ?_
  apply Prog.All.bind (marks_notifyStaff ..)
  intro _
  trivial

theorem marks_setTicketStatus (ticketId : String) (status : TicketStatus) :
    (setTicketStatus libs auth ticketId status).All TicketOp.marksMail := by
  apply marks_member
  intro ticket
  apply Prog.All.bind (all_requireUserId auth)
  intro userId
  have hnotice : (noticeOfStatus libs ticket status).All TicketOp.marksMail := by
    unfold noticeOfStatus
    split
    · exact marks_sendSystemNotification ..
    · trivial
  have hstaff : (staffNoticeOfStatus libs ticket userId status).All TicketOp.marksMail := by
    unfold staffNoticeOfStatus
    split
    · trivial
    · exact marks_notifyStaff ..
  show Prog.All _ (if status = ticket.status then _ else _)
  split
  · trivial
  · apply Prog.All.bind (p := send .clock) (marks_send trivial)
    intro now
    refine Prog.All.bind (all_require ⟨trivial, fun _ => trivial⟩) fun _ => ?_
    apply Prog.All.bind hnotice
    intro _
    apply Prog.All.bind hstaff
    intro _
    trivial

theorem marks_assignTicket (ticketId : String) (userId : Option String) :
    (assignTicket libs auth ticketId userId).All TicketOp.marksMail := by
  apply marks_member
  intro ticket
  apply Prog.All.bind (all_requireUserId auth)
  intro actorId
  have hassignee : (requireAssignee ticket userId).All TicketOp.marksMail := by
    cases userId with
    | none => trivial
    | some userId =>
        refine Prog.All.bind (all_require ⟨trivial, fun _ => trivial⟩) fun memberships => ?_
        exact Prog.all_ensure _ _
  have hstaff : (staffNoticeOfAssignee libs ticket actorId userId).All TicketOp.marksMail := by
    unfold staffNoticeOfAssignee
    split
    · trivial
    · exact marks_notifyStaff ..
  apply Prog.All.bind hassignee
  intro _
  apply Prog.All.bind (p := send .clock) (marks_send trivial)
  intro now
  refine Prog.All.bind (all_require ⟨trivial, fun _ => trivial⟩) fun _ => ?_
  apply Prog.All.bind hstaff
  intro _
  trivial

theorem marks_editPeople {ticketId email : String} {check : Ticket → String → TicketProg Unit}
    {change : String → ℕ → TicketUpdateShape} {result : Ticket → String → Ticket}
    (hcheck : ∀ ticket email, (check ticket email).All TicketOp.marksMail) :
    (editPeople libs auth ticketId email check change result).All TicketOp.marksMail := by
  apply marks_member
  intro ticket
  apply Prog.All.bind (Prog.all_ofExcept _)
  intro email
  apply Prog.All.bind (hcheck ticket email)
  intro _
  apply Prog.All.bind (p := send .clock) (marks_send trivial)
  intro now
  refine Prog.All.bind (all_require ⟨trivial, fun _ => trivial⟩) fun _ => ?_
  trivial

/-! ### Addresses and deliveries -/

theorem marks_addInboundAddress (instanceId address : String) :
    (addInboundAddress libs auth instanceId address).All TicketOp.marksMail := by
  apply Prog.All.bind (all_guardInstanceOwnerOrSuperuser instanceId)
  intro _
  apply Prog.All.bind (marks_requireLiveInstance instanceId)
  intro _
  apply Prog.All.bind (Prog.all_ofExcept _)
  intro stored
  refine Prog.All.bind (all_require ⟨trivial, fun _ => trivial⟩) fun row => ?_
  cases row with
  | some existing => trivial
  | none =>
      refine Prog.All.bind (all_require ⟨trivial, fun _ => trivial⟩) fun _ => ?_
      trivial

theorem marks_removeInboundAddress (instanceId address : String) :
    (removeInboundAddress libs auth instanceId address).All TicketOp.marksMail := by
  apply Prog.All.bind (all_guardInstanceOwnerOrSuperuser instanceId)
  intro _
  refine Prog.All.bind (all_require ⟨trivial, fun _ => trivial⟩) fun row => ?_
  apply Prog.All.bind (Prog.all_ofOption _ _)
  intro existing
  refine Prog.All.bind (all_require ⟨trivial, fun _ => trivial⟩) fun _ => ?_
  trivial

theorem marks_relayMail (ticketId body : String) (threading : Threading) {mail : Mime}
    (hmail : (loopHeaderName, "1") ∈ mail.headers) :
    (relayMail ticketId body threading mail).All TicketOp.marksMail := by
  refine ⟨hmail, fun r => ?_⟩
  cases r with
  | error e => trivial
  | ok rfcMessageId =>
      refine ⟨trivial, fun r => ?_⟩
      cases r with
      | error e => trivial
      | ok message => exact ⟨trivial, fun _ => trivial⟩

theorem marks_relayMessage (d : Delivery) (ticket : Ticket) :
    (relayMessage libs d ticket).All TicketOp.marksMail := by
  show Prog.All _ (if _ then _ else _)
  split
  · trivial
  · apply Prog.All.void
    refine ⟨trivial, fun r => ?_⟩
    rcases r with e | _ | inst
    · trivial
    · trivial
    refine ⟨trivial, fun r => ?_⟩
    cases r with
    | error e => trivial
    | ok addresses =>
        refine ⟨trivial, fun r => ?_⟩
        cases r with
        | error e => trivial
        | ok prior =>
            refine ⟨trivial, fun nonce => ?_⟩
            dsimp only [bind, Prog.bind]
            split
            · trivial
            · rename_i mail hbuilt
              exact marks_relayMail _ _ _ (buildOutbound_marked hbuilt)

theorem marks_appendToTicket (d : Delivery) (ticket : Ticket) :
    (appendToTicket d ticket).All TicketOp.marksMail := by
  -- reopen or touch the ticket
  have hrest : ∀ addedAsCc, (if ticket.status = .closed then do
        require (send (.updateTicket ticket.id
          (.setStatusAndAssignee d.instanceId .open ticket.assigneeUserId d.now)))
        return ⟨ticket, false, addedAsCc, true⟩
      else do
        require (send (.updateTicket ticket.id (.touch d.now)))
        return ⟨ticket, false, addedAsCc, false⟩ : TicketProg Placement).All TicketOp.marksMail := by
    intro addedAsCc
    split
    all_goals
      refine Prog.All.bind (all_require ⟨trivial, fun _ => trivial⟩) fun _ => ?_
      trivial
  unfold appendToTicket
  simp only
  split
  · refine Prog.All.bind (all_require ⟨trivial, fun _ => trivial⟩) fun _ => ?_
    exact hrest _
  · exact hrest _

theorem marks_placeMessage {lower : String → String} (d : Delivery) (resolved : Option Ticket) :
    (placeMessage lower d resolved).All TicketOp.marksMail := by
  refine Prog.All.bind (all_require ⟨trivial, fun _ => trivial⟩) fun addresses => ?_
  cases resolved with
  | some ticket =>
      apply Prog.All.bind (marks_appendToTicket d ticket)
      intro placement
      refine Prog.All.bind (all_require ⟨trivial, fun _ => trivial⟩) fun _ => ?_
      trivial
  | none =>
      refine Prog.All.bind (all_require ⟨trivial, fun _ => trivial⟩) fun number => ?_
      refine Prog.All.bind (all_require ⟨trivial, fun _ => trivial⟩) fun ticket => ?_
      trivial

theorem marks_deliverTo {libs : MailLibs} (d : Delivery) (resolved : Option Ticket) :
    (deliverTo libs d resolved).All TicketOp.marksMail := by
  apply Prog.All.bind (marks_placeMessage d resolved)
  intro placement
  apply Prog.All.bind (all_storeMessage (fun _ => trivial) (fun _ _ => trivial) (fun _ _ _ => trivial)
    (fun _ => trivial) d placement.ticket.id)
  intro stored
  apply Prog.All.bind (marks_relayMessage d placement.ticket)
  intro _
  apply Prog.All.bind (marks_notifyStaff ..)
  intro _
  trivial

theorem marks_processRawMessage {libs : MailLibs} (sesMessageId : String) (raw : List UInt8)
    (rawS3Key : Option String) :
    (processRawMessage libs sesMessageId raw rawS3Key).All TicketOp.marksMail := by
  have hkeys : ∀ keys, (resolveKeys keys).All TicketOp.marksMail := all_resolveKeys fun _ => trivial
  apply Prog.All.bind (p := send .clock) (marks_send trivial)
  intro now
  refine Prog.All.bind (all_require ⟨trivial, fun _ => trivial⟩) fun claimed => ?_
  split
  · trivial
  cases libs.parse raw with
  | none => trivial
  | some mail =>
      show Prog.All _ (processMail libs mail rawS3Key now)
      unfold processMail
      split
      · trivial
      apply Prog.All.bind (hkeys _)
      intro found
      cases found with
      | none => trivial
      | some instanceId =>
          refine Prog.All.bind (all_require ⟨trivial, fun _ => trivial⟩) fun inst => ?_
          split
          · trivial
          cases mail.fromAddress with
          | none => trivial
          | some fromRaw =>
              apply Prog.All.bind (hkeys _)
              intro found
              cases found with
              | some own => trivial
              | none =>
                  apply Prog.All.bind (all_resolveTicket (fun _ => trivial) (fun _ => trivial)
                    (fun _ => trivial) (fun _ => trivial) _ _)
                  intro lookup
                  cases lookup with
                  | crossTenant => trivial
                  | notFound => exact marks_deliverTo _ none
                  | found ticket => exact marks_deliverTo _ (some ticket)

/-- No call sends a raw mail without the header. -/
theorem marks_call {libs : MailLibs} (call : TicketCall) :
    (call.program libs).All TicketOp.marksMail := by
  cases call with
  | submitTicket auth subject body => exact marks_submitTicket subject body
  | submitVerifiedTicket auth subject body recipients cc =>
      exact marks_submitVerifiedTicket subject body recipients cc
  | createAttachmentUpload auth ticketId filename contentType =>
      exact marks_createAttachmentUpload ..
  | replyToTicket auth ticketId body attachmentKeys => exact marks_replyToTicket ..
  | addInternalNote auth ticketId body => exact marks_addInternalNote ..
  | setTicketStatus auth ticketId status => exact marks_setTicketStatus ticketId status
  | assignTicket auth ticketId userId => exact marks_assignTicket ticketId userId
  | addTicketRequester auth ticketId email => exact marks_editPeople fun _ _ => trivial
  | removeTicketRequester auth ticketId email =>
      exact marks_editPeople fun _ _ => Prog.all_ensure _ _
  | addTicketCc auth ticketId email => exact marks_editPeople fun _ _ => trivial
  | removeTicketCc auth ticketId email => exact marks_editPeople fun _ _ => trivial
  | addInboundAddress auth instanceId address => exact marks_addInboundAddress ..
  | removeInboundAddress auth instanceId address => exact marks_removeInboundAddress ..
  | putInstance inst =>
      refine Prog.All.bind (all_require ⟨trivial, fun _ => trivial⟩) fun _ => ?_
      trivial
  | processRawMessage sesMessageId raw rawS3Key =>
      apply Prog.All.bind (marks_processRawMessage sesMessageId raw rawS3Key)
      intro _
      trivial

end marked

/-! ### The guards of a delivery -/

section guards
variable {libs : MailLibs} {i : ℕ} {raw : List UInt8} {h : List TicketEvent}

/-- The message has passed all guards: no header of a loop, and a sender whose addresses were all
looked up and are none of the system's. -/
def Passed (libs : MailLibs) (i : ℕ) (raw : List UInt8) (h : List TicketEvent) : Prop :=
  ∃ mail fromRaw, libs.parse raw = some mail ∧
    checkStructural libs.lower mail.loopCheckHeaders = none ∧ mail.fromAddress = some fromRaw ∧
    ∀ key ∈ lookupKeys libs.lower fromRaw, ⟨i, .getInboundAddress key, .ok none⟩ ∈ h

theorem Passed.more (hpassed : Passed libs i raw h) (more : List TicketEvent) :
    Passed libs i raw (h ++ more) := by
  obtain ⟨mail, fromRaw, hparse, hcheck, hfrom, hkeys⟩ := hpassed
  exact ⟨mail, fromRaw, hparse, hcheck, hfrom, fun key hkey => List.mem_append_left _ (hkeys key hkey)⟩

/-- A delivery touches nothing before its message has passed. -/
abbrev Guards (libs : MailLibs) (i : ℕ) (raw : List UInt8) {α : Type}
    (Q : Except Error α → List TicketEvent → Prop) (p : TicketProg α) (h : List TicketEvent) : Prop :=
  Sends i (fun h op => op.touches → Passed libs i raw h) Q p h

/-- It drops the message, or the message has passed. -/
def Judged (libs : MailLibs) (i : ℕ) (raw : List UInt8) :
    Except Error Outcome → List TicketEvent → Prop
  | .ok outcome, h => outcome.droppedReason.isSome ∨ Passed libs i raw h
  | .error _, _ => True

/-- Every key of a recipient that is not found was looked up. -/
theorem guards_resolveKeys (keys : List String) :
    Guards libs i raw (fun r h' => r = .ok none → ∀ key ∈ keys,
        (⟨i, .getInboundAddress key, .ok none⟩ : TicketEvent) ∈ h') (resolveKeys keys) h := by
  have hgrows : ∀ keys h ev, ev ∈ h → Guards libs i raw (fun _ h' => ev ∈ h') (resolveKeys keys) h := by
    intro keys h ev hev
    refine Sends.keeps (P := fun op => op.touches = false) (all_resolveKeys (fun _ => rfl) keys)
      (fun hop _ ht => ?_) (fun _ hmem => List.mem_append_left _ hmem) hev
    rw [hop] at ht
    cases ht
  induction keys generalizing h with
  | nil =>
      intro _ key hkey
      cases hkey
  | cons key keys ih =>
      refine ⟨nofun, fun r => ?_⟩
      rcases r with e | _ | row
      · exact nofun
      · refine ((hgrows keys _ _ (List.mem_append_right _ (List.mem_singleton_self _))).and ih).mono
          (fun _ _ hG => hG.1) ?_
        rintro r h' ⟨hfirst, hrest⟩ hr key' hkey'
        rcases List.mem_cons.mp hkey' with rfl | hkey'
        · exact hfirst
        · exact hrest hr key' hkey'
      · exact nofun

theorem guards_of_untouched {α : Type} {p : TicketProg α} (hp : p.All fun op => op.touches = false) :
    Guards libs i raw (fun _ _ => True) p h := by
  refine Sends.of_all hp fun hop ht => ?_
  rw [hop] at ht
  cases ht

theorem guards_routeMail {mail : ParsedMail} {rawS3Key : Option String} {now : ℕ}
    {instanceId : String} (hparse : libs.parse raw = some mail)
    (hcheck : checkStructural libs.lower mail.loopCheckHeaders = none) :
    Guards libs i raw (Judged libs i raw) (routeMail libs mail rawS3Key now instanceId) h := by
  have hread : (require (send (.getInstance instanceId))).All fun op => op.touches = false :=
    all_require ⟨rfl, fun _ => trivial⟩
  refine (guards_of_untouched hread).bind (fun inst h _ => ?_) fun _ _ _ => trivial
  split
  · exact .inl rfl
  cases hfrom : mail.fromAddress with
  | none => exact .inl rfl
  | some fromRaw =>
      refine (guards_resolveKeys _).bind (fun found h hkeys => ?_) fun _ _ _ => trivial
      cases found with
      | some own => exact .inl rfl
      | none =>
          have hpassed : Passed libs i raw h := by
            refine ⟨mail, fromRaw, hparse, hcheck, hfrom, fun key hkey => hkeys rfl key ?_⟩
            rw [List.flatMap_singleton]
            exact hkey
          -- whatever it does now, the message has passed
          show Guards libs i raw _ (deliver libs _) h
          refine Sends.post (Sends.keeps (K := Passed libs i raw) (Prog.all_true _)
            (fun _ hK _ => hK) (fun _ hK => hK.more _) hpassed) fun r h hK => ?_
          cases r with
          | error e => trivial
          | ok outcome => exact .inr hK

theorem guards_processRawMessage (sesMessageId : String) (rawS3Key : Option String) :
    Guards libs i raw (Judged libs i raw) (processRawMessage libs sesMessageId raw rawS3Key) [] := by
  refine ⟨nofun, fun now => ?_⟩
  have hclaim : (require (send (.claimProcessedMessage sesMessageId now
      (now + processedMessageRetentionSecs)))).All fun op => op.touches = false :=
    all_require ⟨rfl, fun _ => trivial⟩
  refine (guards_of_untouched hclaim).bind (fun claimed h _ => ?_) fun _ _ _ => trivial
  split
  · exact .inl rfl
  cases hparse : libs.parse raw with
  | none => exact .inl rfl
  | some mail =>
      show Guards libs i raw _ (processMail libs mail rawS3Key now) h
      unfold processMail
      split
      · exact .inl rfl
      · rename_i hcheck
        refine (guards_of_untouched (all_resolveKeys (fun _ => rfl) _)).bind (fun found h _ => ?_)
          fun _ _ _ => trivial
        cases found with
        | none => exact .inl rfl
        | some instanceId => exact guards_routeMail hparse hcheck

/-- How a delivery ends, as a call. -/
def CallJudged (libs : MailLibs) (i : ℕ) (raw : List UInt8) :
    Except Error Reply → List TicketEvent → Prop
  | .ok reply, h => ∃ outcome, reply = .outcome outcome ∧ Judged libs i raw (.ok outcome) h
  | .error _, _ => True

theorem guards_deliveryCall (sesMessageId : String) (rawS3Key : Option String) :
    Guards libs i raw (CallJudged libs i raw) (deliveryCall libs sesMessageId raw rawS3Key) [] :=
  (guards_processRawMessage sesMessageId rawS3Key).bind (fun outcome _ h => ⟨outcome, rfl, h⟩)
    fun _ _ _ => trivial

/-- A message with the loop header does not pass. -/
theorem checkStructural_loop {lower : String → String} {headers : LoopCheckHeaders}
    (hloop : headers.loopHeaderPresent = true) : checkStructural lower headers ≠ none := by
  unfold checkStructural
  rw [if_pos hloop]
  simp only
  generalize headers.autoSubmitted.bind _ = auto, headers.precedence.bind _ = precedence
  cases auto <;> cases precedence <;> simp

end guards

/-! ### The system's own mail is dropped -/

section runs
variable {libs : MailLibs} {fits : Item → Bool} {readOnly : Bool} {i : ℕ}
variable {c : Pool (ticketService fits readOnly) Error Reply}
variable {sesMessageId : String} {raw : List UInt8} {rawS3Key : Option String} {m : ParsedMail}

/-- The message is a mail that the system sent: a raw one of the calls on tickets, or a plain one of the
mutations of codes. -/
inductive OwnMail (libs : MailLibs) (tickets : List TicketEvent) (codes : List CodeEvent)
    (m : ParsedMail) : Prop
  | raw {j : ℕ} {mail : Mime} {recipients ccs : List String} {r : Except String String}
      (hsent : ⟨j, .sendRaw mail recipients ccs, r⟩ ∈ tickets) (harrives : mail.ArrivesAs m)
  | plain {j : ℕ} {recipient subject content : String} {r : Except String Unit}
      (hsent : ⟨j, .sendPlainText recipient subject content, r⟩ ∈ codes)
      (harrives : PlainArrivesAs libs.toAppLibs recipient subject content m)

/-- An inbound address has covered the sender of the plain mails all along. -/
def CoversSender (libs : AppLibs) (t : Trace (ticketService fits readOnly)) : Prop :=
  ∃ key ∈ lookupKeys libs.lower libs.systemFrom,
    ∀ d, (dbOf t).Committed d → (d.addresses.lookup key).isSome

/-- Program `i` has created and changed no ticket and no message and has sent no mail, and if it is
done it has dropped its message. -/
structure MailDropped (c : Pool (ticketService fits readOnly) Error Reply) (i : ℕ) : Prop where
  untouched : ∀ ev ∈ ownEvents i c.trace.events, ev.op.touches = false
  dropped : ∀ {reply}, c.threads[i]? = some (.done reply) →
    ∃ outcome, reply = .outcome outcome ∧ outcome.droppedReason.isSome

/-- Every raw mail of a run is marked. -/
theorem raw_marked (hreach : TicketReachable (IsTicketCall libs) c) :
    ∀ ev ∈ c.trace.events, ev.op.marksMail := by
  obtain ⟨instances, addresses, hrun⟩ := hreach
  have hstarts : ∀ p, IsTicketCall libs p → ∀ i,
      Sends i (fun _ op => op.marksMail) (fun _ _ => True) p [] := by
    rintro p ⟨call, rfl⟩ i
    exact Sends.of_all (marks_call call) fun hop => hop
  refine Run.contract (K := fun t => ∀ ev ∈ t.events, ev.op.marksMail) hstarts ?_ hrun ?_
  · intro t i e op hK _ hop ev hev
    rw [Trace.serve_events] at hev
    rcases List.mem_append.mp hev with hev | hev
    · exact hK ev hev
    · rw [List.mem_singleton.mp hev]
      exact hop
  · intro ev hev
    cases hev

/-- A message that does not pass is dropped. -/
theorem quiet_of_not_passed (hplays : c.Plays i (deliveryCall libs sesMessageId raw rawS3Key))
    (hnot : ¬ Passed libs i raw (ownEvents i c.trace.events)) : MailDropped c i := by
  constructor
  · intro ev hev
    obtain ⟨p, -, hpath⟩ := hplays
    obtain ⟨pre, post, hsplit⟩ := List.append_of_mem hev
    rw [hsplit] at hpath hnot
    have hguards := Sends.request (guards_deliveryCall sesMessageId rawS3Key) hpath
    by_contra htouches
    rw [Bool.not_eq_false] at htouches
    exact hnot ((hguards htouches).more _)
  · intro reply hdone
    obtain ⟨outcome, hreply, hjudged⟩ :=
      hplays.done hdone (guards_deliveryCall sesMessageId rawS3Key)
    rcases hjudged with hdropped | hpassed
    · exact ⟨outcome, hreply, hdropped⟩
    · exact absurd hpassed hnot

/-- A raw mail of the run arrives with the header. -/
theorem loopHeader_of_raw (hreach : TicketReachable (IsTicketCall libs) c) {j : ℕ} {mail : Mime}
    {recipients ccs : List String} {r : Except String String}
    (hsent : ⟨j, .sendRaw mail recipients ccs, r⟩ ∈ c.trace.events) (harrives : mail.ArrivesAs m) :
    m.loopHeader = true := by
  have hmarked : (loopHeaderName, "1") ∈ mail.headers := raw_marked hreach _ hsent
  rw [harrives.loopHeader, List.lookup_isSome_iff]
  exact ⟨_, hmarked, beq_self_eq_true _⟩

/-- A mail of the system that is delivered to it is dropped, whatever else runs: one with the loop
header always, as every raw mail is, and a plain one if an inbound address has covered its sender all
along. -/
theorem own_mail_dropped {codes : List CodeEvent} (hreach : TicketReachable (IsTicketCall libs) c)
    (hplays : c.Plays i (deliveryCall libs sesMessageId raw rawS3Key))
    (hparse : libs.parse raw = some m) (hown : OwnMail libs c.trace.events codes m)
    (hcovered : m.loopHeader = false → CoversSender libs.toAppLibs c.trace) :
    (∀ {j mail recipients ccs r}, ⟨j, .sendRaw mail recipients ccs, r⟩ ∈ c.trace.events →
      mail.ArrivesAs m → m.loopHeader = true) ∧ MailDropped c i := by
  refine ⟨fun hsent harrives => loopHeader_of_raw hreach hsent harrives, ?_⟩
  apply quiet_of_not_passed hplays
  rintro ⟨mail, fromRaw, hparsed, hcheck, hfrom, hkeys⟩
  obtain rfl := Option.some.inj (hparse.symm.trans hparsed)
  have hnoloop : m.loopHeader ≠ true := fun hloop => checkStructural_loop hloop hcheck
  have hsystem : m.fromAddress = some libs.systemFrom := by
    cases hown with
    | raw hsent harrives => exact absurd (loopHeader_of_raw hreach hsent harrives) hnoloop
    | plain hsent harrives =>
        rw [ParsedMail.fromAddress, harrives.sender]
        rfl
  obtain rfl := Option.some.inj (hfrom.symm.trans hsystem)
  obtain ⟨key, hkey, hrow⟩ := hcovered (Bool.not_eq_true _ |>.mp hnoloop)
  -- the lookup that found no address has read one of the versions
  obtain ⟨d, hd, hnone⟩ := hreach.invariant.answered (mem_ownEvents.mp (hkeys key hkey)).1
  have hlookup : none = d.addresses.lookup key := hnone
  have hsome := hrow d hd
  rw [← hlookup] at hsome
  cases hsome

end runs

/-! ### Sample runs

Somebody asks for a submit code for the address `help@desk.org`, and the mail arrives there. -/

def submitMailContent : String := codeMail "verification" "000042"

/-- The code is sent. -/
def deskCodes : List CodeMove :=
  codeCall (.requestSubmitCode "help" "help@desk.org" none none) ::
    codeServes 0 "" [1, 2, 3, 4, 5, 6, 7, 8]

/-- The mail as it arrives. -/
def deskCodeMail : ParsedMail :=
  { plainMail "system@desk.org" "Your Help verification code" "s1@desk.org" ["help@desk.org"] with
    bodyText := some submitMailContent }

def deskLibs : MailLibs := { sampleMailLibs with parse := fun _ => some deskCodeMail }

abbrev CodeMailMove : Type := Move sampleTickets (IsTicketCall deskLibs)

def deskDelivery : TicketCall := .processRawMessage "s1" [0] none

/-- The delivery of the mail. -/
def codeMailMoves : List CodeMailMove :=
  (List.range 13).map fun k => .serve 0 (sampleTicketEnv k)

/-- No mail has arrived, and these are the inbound addresses. -/
def noMailYet (addresses : Table String InboundAddress) : TicketPool :=
  Pool.init (S := sampleTickets) (emptyTickets sampleInstances addresses)

def deskStart (addresses : Table String InboundAddress) : TicketPool :=
  (noMailYet addresses).move (.start (deskDelivery.program deskLibs) ⟨deskDelivery, rfl⟩ : CodeMailMove)

def codeMailPool (addresses : Table String InboundAddress) : TicketPool :=
  (deskStart addresses).play codeMailMoves

/-- The addresses with that of the sender. -/
def coveredAddresses : Table String InboundAddress :=
  sampleAddresses.insert "system@desk.org" ⟨"system@desk.org", "i1", .exact, 1⟩

theorem codeMailPool_reachable (addresses : Table String InboundAddress) :
    TicketReachable (IsTicketCall deskLibs) (codeMailPool addresses) :=
  ⟨sampleInstances, addresses, (Pool.move_run (noMailYet addresses) _).trans
    (Pool.play_run (deskStart addresses) codeMailMoves)⟩

theorem codeMailPool_plays (addresses : Table String InboundAddress) :
    (codeMailPool addresses).Plays 0 (deliveryCall deskLibs "s1" [0] none) :=
  Pool.start_plays (S := sampleTickets) (c := noMailYet addresses) rfl (fun ev hev => by cases hev)
    (Pool.play_run (deskStart addresses) codeMailMoves)

theorem deskCodeMail_arrives :
    PlainArrivesAs deskLibs.toAppLibs "help@desk.org" "Your Help verification code" submitMailContent
      deskCodeMail :=
  ⟨rfl, rfl, rfl, rfl, rfl, rfl, rfl, rfl⟩

/-- The request is a mail with these contents. -/
def isPlainMail (recipient subject content : String) : CodeEvent → Bool
  | ⟨_, .sendPlainText recipient' subject' content', _⟩ =>
      recipient' == recipient && subject' == subject && content' == content
  | _ => false

theorem deskCodeMail_own (tickets : List TicketEvent) :
    OwnMail deskLibs tickets (codePool deskCodes).trace.events deskCodeMail := by
  have hsent : (codePool deskCodes).trace.events.any
      (isPlainMail "help@desk.org" "Your Help verification code" submitMailContent) := by
    decide +kernel
  obtain ⟨ev, hev, hmail⟩ := List.any_eq_true.mp hsent
  unfold isPlainMail at hmail
  split at hmail
  · rename_i j recipient subject content r
    obtain ⟨hmail, hcontent⟩ := Bool.and_eq_true_iff.mp hmail
    obtain ⟨hrecipient, hsubject⟩ := Bool.and_eq_true_iff.mp hmail
    have harrives := deskCodeMail_arrives
    rw [← of_decide_eq_true hrecipient, ← of_decide_eq_true hsubject,
      ← of_decide_eq_true hcontent] at harrives
    exact .plain hev harrives
  · cases hmail

attribute [irreducible] codeMailPool

theorem own_mail_dropped_sample : MailDropped (codeMailPool coveredAddresses) 0 ∧
    ((codeMailPool coveredAddresses).value 0).isSome := by
  have hcovered : CoversSender deskLibs.toAppLibs (codeMailPool coveredAddresses).trace := by
    have hrows : (∀ d ∈ (dbOf (codeMailPool coveredAddresses).trace).now ::
        (dbOf (codeMailPool coveredAddresses).trace).past,
        (d.addresses.lookup "system@desk.org").isSome = true) := by
      unfold codeMailPool
      decide +kernel
    exact ⟨"system@desk.org", by decide +kernel, hrows⟩
  constructor
  · exact (own_mail_dropped (codeMailPool_reachable _) (codeMailPool_plays _) rfl (deskCodeMail_own _)
      fun _ => hcovered).2
  · unfold codeMailPool
    decide +kernel

/-- A submit code that is sent to an inbound address opens a ticket. -/
theorem system_answered : ¬ ∀ (libs : MailLibs) (codeLibs : CodeLibs) (fits : Item → Bool)
    (readOnly reliable : Bool) (codes : Pool (codeService readOnly reliable) Empty Unit)
    (c : Pool (ticketService fits readOnly) Error Reply) (i : ℕ) (sesMessageId : String)
    (raw : List UInt8) (rawS3Key : Option String) (m : ParsedMail),
    CodeReachable codeLibs readOnly reliable codes → TicketReachable (IsTicketCall libs) c →
    c.Plays i (deliveryCall libs sesMessageId raw rawS3Key) → libs.parse raw = some m →
    OwnMail libs c.trace.events codes.trace.events m →
    (∃ recipient, m.recipients = [some recipient] ∧
      ((dbOf c.trace).now.addresses.lookup recipient).isSome) → MailDropped c i := by
  intro hclaim
  have haddress : ((dbOf (codeMailPool sampleAddresses).trace).now.addresses.lookup "help@desk.org").isSome ∧
      ∃ ev ∈ ownEvents 0 (codeMailPool sampleAddresses).trace.events, ev.op.touches = true := by
    unfold codeMailPool
    decide +kernel
  obtain ⟨haddress, ev, hev, htouches⟩ := haddress
  have hquiet := hclaim deskLibs sampleCodeLibs _ _ _ _ _ 0 "s1" [0] none deskCodeMail
    (codePool_reachable deskCodes) (codeMailPool_reachable sampleAddresses) (codeMailPool_plays _) rfl
    (deskCodeMail_own _) ⟨"help@desk.org", rfl, haddress⟩
  rw [hquiet.untouched ev hev] at htouches
  cases htouches

end Microticket

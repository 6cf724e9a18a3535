import Microticket.Pipeline

/-! # The ticket mutations

The resolvers of `graphql/mutations.rs` that create, read or change tickets and their messages, and
the owners' mutations of inbound addresses, as programs over the requests of `TicketStore`.
`auth : Option AuthInfo` is the principal of the request.  A resolver returns the row it built, which
is `Reply` for all of them. -/

namespace Microticket

open Interleaving RustText

/-- What a call returns. -/
inductive Reply where
  | ticket (ticket : Ticket)
  | message (message : TicketMessage)
  | submitted (id : String) (number : ℕ) (subjectTag : String)
  | upload (key uploadUrl : String)
  | address (row : InboundAddress)
  | outcome (outcome : Outcome)
  | done
  deriving DecidableEq

/-! ### Authorization -/

/-- `AuthRequirement::Authenticated`. -/
def guardAuthenticated : Option AuthInfo → TicketProg Unit
  | some (.user ..) => .done ()
  | some (.requester ..) => .done ()
  | _ => .fail (.api .unauthenticated "Must be authenticated")

/-- `AuthRequirement::InstanceOwnerOrSuperuser`. -/
def guardInstanceOwnerOrSuperuser (instanceId : String) : Option AuthInfo → TicketProg Unit
  | some (.user _ memberships isSuperuser) =>
      .ensure (isSuperuser || isOwner memberships instanceId)
        (.api .unauthenticated "Must be an owner of this instance, or a superuser")
  | _ => .fail (.api .unauthenticated "Must be an owner of this instance, or a superuser")

/-- `require_user_id`. -/
def requireUserId : Option AuthInfo → TicketProg String
  | some (.user id _ _) => .done id
  | _ => .fail (.forbidden "Must be authenticated as a user")

/-- The check of `require_ticket_member` after the ticket is read. -/
def memberOfTicket (ticketId : String) (ticket : Ticket) : Option AuthInfo → TicketProg Ticket
  | some (.user _ memberships _) => do
      .ensure (isMember memberships ticket.instanceId) (.notFound "Ticket" ticketId)
      return ticket
  | _ => .fail (.forbidden "Must be authenticated as a user")

/-- `require_ticket_member`. -/
def requireTicketMember (auth : Option AuthInfo) (ticketId : String) : TicketProg Ticket := do
  let row ← require (send (.getTicket ticketId))
  let ticket ← .ofOption row (.notFound "Ticket" ticketId)
  memberOfTicket ticketId ticket auth

/-! ### Notices to customers -/

/-- `load_instance_and_addresses`. -/
def loadInstanceAndAddresses (instanceId : String) :
    TicketProg (Option (Instance × List InboundAddress)) := do
  match ← send (.getInstance instanceId) with
  | .ok (some inst) =>
      match ← send (.listInboundAddressesByInstance inst.id) with
      | .ok addresses => return some (inst, addresses)
      | .error _ => return none
  | _ => return none

/-- The row of a notice that was sent. -/
def noticeContent (ticketId body : String) (mail : Mime) : MessageContent where
  ticketId := ticketId
  kind := .system
  authorUserId := none
  fromEmail := none
  toEmails := mail.recipients
  ccEmails := mail.ccs
  bodyText := some body
  bodyHtml := none
  inReplyTo := none
  references := none

/-- `send_system_notification` once the mail is built. -/
def mailNotice (ticketId body : String) (mail : Mime) : TicketProg Unit := do
  match ← send (.sendRaw mail mail.recipients mail.ccs) with
  | .error _ => return ()
  | .ok rfcMessageId =>
      match ← send (.createTicketMessage (noticeContent ticketId body mail)) with
      | .error _ => return ()
      | .ok message =>
          let _ ← send (.updateTicketMessage message.id (.setRfcMessageId rfcMessageId))
          return ()

/-- `send_system_notification`; every failure ends it. -/
def sendSystemNotification (libs : AppLibs) (ticket : Ticket)
    (requesterEmails ccEmails : List String) (body : String) : TicketProg Unit := do
  match ← loadInstanceAndAddresses ticket.instanceId with
  | none => return ()
  | some (inst, addresses) =>
      let nonce ← send (.generateNonce 16)
      match buildOutbound libs.lower libs.debug inst addresses ticket requesterEmails ccEmails body
        ⟨none, none⟩ nonce with
      | .error _ => return ()
      | .ok mail => mailNotice ticket.id body mail

def acknowledgementBody : String :=
  "Thanks for reaching out. We've received your message and will follow up here."

/-- `status_notice_body`. -/
def statusNoticeBody (oldStatus : TicketStatus) : TicketStatus → Option String
  | .closed =>
      some "This ticket has been marked closed. Reply to this email if you need to reopen it."
  | .open =>
      if oldStatus ≠ .open then some "This ticket has been reopened — we're back on it." else none
  | .deleted => none

/-! ### Validation -/

/-- `normalize_ticket_email`. -/
def normalizeTicketEmail (libs : AppLibs) (raw : String) : Except Error String :=
  let lower := libs.lower (trim raw)
  match splitOnce '@' lower with
  | none => .error (.other s!"{libs.debug raw} is not a valid email address (missing '@')")
  | some (localPart, domain) =>
      if localPart.isEmpty || domain.isEmpty || domain.toList.contains '@' then
        .error (.other s!"{libs.debug raw} is not a valid email address")
      else .ok lower

def maxVerifiedTicketRecipients : ℕ := 20

/-- One loop of `normalize_verified_recipients`: the addresses that are not in `seen`. -/
def normalizeNew (libs : AppLibs) (seen : List String) :
    List String → Except Error (List String)
  | [] => .ok []
  | raw :: rest =>
      match normalizeTicketEmail libs raw with
      | .error e => .error e
      | .ok email =>
          if seen.contains email then normalizeNew libs seen rest
          else (normalizeNew libs (email :: seen) rest).map (email :: ·)

/-- `normalize_verified_recipients`. -/
def normalizeVerifiedRecipients (libs : AppLibs) (recipients cc : List String) :
    Except Error (List String × List String) :=
  match normalizeNew libs [] recipients with
  | .error e => .error e
  | .ok recipients =>
      if recipients.isEmpty then .error (.other "to must contain at least one address")
      else match normalizeNew libs recipients cc with
        | .error e => .error e
        | .ok cc =>
            if maxVerifiedTicketRecipients < recipients.length + cc.length then
              .error (.other (s!"too many recipients: {recipients.length + cc.length} exceeds " ++
                s!"the limit of {maxVerifiedTicketRecipients}"))
            else .ok (recipients, cc)

/-! ### Opening a ticket -/

/-- The first message of a submitted ticket. -/
def submittedContent (ticketId body : String) (requesterEmails : List String) :
    MessageContent where
  ticketId := ticketId
  kind := .inbound
  authorUserId := none
  fromEmail := requesterEmails.head?
  toEmails := []
  ccEmails := []
  bodyText := some body
  bodyHtml := none
  inReplyTo := none
  references := none

/-- `open_submitted_ticket`; the callers pass at least one requester. -/
def openSubmittedTicket (inst : Instance) (subject body : String)
    (requesterEmails ccEmails : List String) : TicketProg Ticket := do
  let number ← require (send (.incrementTicketCounter inst.id))
  let ticket ← require (send (.createTicket inst.id number subject requesterEmails ccEmails))
  let _ ← require (send (.createTicketMessage (submittedContent ticket.id body requesterEmails)))
  return ticket

/-- The instance of a submission, if it takes tickets. -/
def requireLiveInstance (instanceId : String) : TicketProg Instance := do
  let inst ← require (send (.getInstance instanceId))
  .ofOption (inst.filter fun i => !i.deleted && i.kind == .support) (.notFound "Instance" instanceId)

/-- `submit_ticket`. -/
def submitTicket (libs : AppLibs) (auth : Option AuthInfo) (subject body : String) :
    TicketProg Reply :=
  match auth with
  | some (.requester email instanceId) => do
      let subject := trim subject
      .ensure (!subject.isEmpty) (.other "subject cannot be empty")
      let body := trim body
      .ensure (!body.isEmpty) (.other "body cannot be empty")
      let inst ← requireLiveInstance instanceId
      let ticket ← openSubmittedTicket inst subject body [email] []
      sendSystemNotification libs ticket [email] [] acknowledgementBody
      notifyStaff libs ticket none (.newTicket email) (.email email) (some body)
      return .ticket ticket
  | _ => .fail (.api .unauthenticated "Must provide a requester submit token")

/-- `submit_verified_ticket`. -/
def submitVerifiedTicket (libs : AppLibs) (auth : Option AuthInfo) (subject body : String)
    (recipients cc : List String) : TicketProg Reply :=
  match auth with
  | some (.apiToken _ instanceId) => do
      let subject := trim subject
      .ensure (!subject.isEmpty) (.other "subject cannot be empty")
      let body := trim body
      .ensure (!body.isEmpty) (.other "body cannot be empty")
      let (recipients, cc) ← .ofExcept (normalizeVerifiedRecipients libs recipients cc)
      let inst ← requireLiveInstance instanceId
      let addresses ← require (send (.listInboundAddressesByInstance inst.id))
      match (recipients ++ cc).find? fun a => isOwnAddress libs.lower addresses a with
      | some own => throw (.other (s!"{libs.debug own} is one of this instance's own inbound " ++
          "addresses and cannot be a requester or CC"))
      | none =>
          let ticket ← openSubmittedTicket inst subject body recipients cc
          sendSystemNotification libs ticket recipients cc acknowledgementBody
          let submitter := recipients.headD ""
          notifyStaff libs ticket none (.newTicket submitter) (.email submitter) (some body)
          return .submitted ticket.id ticket.number (ticketSubjectTag inst.slug ticket.number)
  | _ => .fail (.api .unauthenticated "Must provide a valid API token")

/-! ### Replies and notes -/

/-- `pending_key`. -/
def pendingKey (instanceId unique filename : String) : String :=
  s!"pending/{instanceId}/{unique}/{filename}"

/-- `create_attachment_upload`. -/
def createAttachmentUpload (auth : Option AuthInfo) (ticketId filename contentType : String) :
    TicketProg Reply := do
  guardAuthenticated auth
  let ticket ← requireTicketMember auth ticketId
  let unique ← send .newId
  let key := pendingKey ticket.instanceId unique (sanitizeFilename (some filename) 0)
  match ← send (.presignPut key contentType) with
  | .error _ => throw (.other s!"presigning {key}")
  | .ok uploadUrl => return .upload key uploadUrl

/-- `is_pending_key_for_instance`. -/
def isPendingKeyForInstance (key instanceId : String) : Bool :=
  !containsText ".." key && (dropStart s!"pending/{instanceId}/" key).isSome

/-- `guess_content_type`. -/
def guessContentType (filename : String) : String :=
  match ((rsplitOnce '.' filename).map fun parts => asciiLower parts.2).getD "" with
  | "pdf" => "application/pdf"
  | "png" => "image/png"
  | "jpg" | "jpeg" => "image/jpeg"
  | "gif" => "image/gif"
  | "webp" => "image/webp"
  | "svg" => "image/svg+xml"
  | "txt" => "text/plain"
  | "csv" => "text/csv"
  | "html" | "htm" => "text/html"
  | "json" => "application/json"
  | "zip" => "application/zip"
  | "doc" => "application/msword"
  | "docx" => "application/vnd.openxmlformats-officedocument.wordprocessingml.document"
  | "xls" => "application/vnd.ms-excel"
  | "xlsx" => "application/vnd.openxmlformats-officedocument.spreadsheetml.sheet"
  | "mp4" => "video/mp4"
  | "mp3" => "audio/mpeg"
  | _ => "application/octet-stream"

/-- `move_attachments`, from the key `index` on. -/
def moveAttachments (libs : AppLibs) (ticket : Ticket) (messageId : String) :
    ℕ → List String → TicketProg (List Attachment)
  | _, [] => .done []
  | index, key :: keys => do
      .ensure (isPendingKeyForInstance key ticket.instanceId)
        (.forbidden (s!"attachment key {libs.debug key} is not a pending upload for this " ++
          "ticket's instance"))
      let filename := ((rsplitOnce '/' key).map Prod.snd).getD key
      let finalKey := attachmentKey ticket.id messageId index filename
      match ← send (.moveObject key finalKey) with
      | .error _ => throw (.other s!"moving {key}")
      | .ok () =>
          let size ← send (.objectSize finalKey)
          let rest ← moveAttachments libs ticket messageId (index + 1) keys
          return ⟨finalKey, filename, guessContentType filename, size.toOption.getD 0⟩ :: rest

/-- The row of an agent's reply. -/
def replyContent (ticketId userId body : String) (threading : Threading) (mail : Mime) :
    MessageContent where
  ticketId := ticketId
  kind := .reply
  authorUserId := some userId
  fromEmail := none
  toEmails := mail.recipients
  ccEmails := mail.ccs
  bodyText := some body
  bodyHtml := none
  inReplyTo := threading.inReplyTo
  references := threading.references

/-- Stamp the attachments of a reply onto its row and the ticket. -/
def stampAttachments (ticketId messageId : String) (stored : List Attachment) : TicketProg Unit :=
  if stored.isEmpty then .done ()
  else do
    require (send (.updateTicketMessage messageId (.setAttachments stored)))
    require (send (.updateTicket ticketId .markHasAttachments))

/-- `reply_to_ticket` once the mail is built. -/
def storeReply (libs : AppLibs) (ticket : Ticket) (userId body : String) (threading : Threading)
    (attachmentKeys : List String) (mail : Mime) : TicketProg Reply := do
  let message ← require (send (.createTicketMessage
    (replyContent ticket.id userId body threading mail)))
  let now ← send .clock
  require (send (.updateTicket ticket.id (.touch now)))
  let stored ← moveAttachments libs ticket message.id 0 attachmentKeys
  stampAttachments ticket.id message.id stored
  match ← send (.sendRaw mail mail.recipients mail.ccs) with
  | .error _ => throw (.other s!"sending reply for ticket {ticket.id}")
  | .ok rfcMessageId =>
      require (send (.updateTicketMessage message.id (.setRfcMessageId rfcMessageId)))
      notifyStaff libs ticket ticket.assigneeUserId .agentReply (.user userId) (some body)
      return .message { message with rfcMessageId := some rfcMessageId, attachments := stored }

/-- `reply_to_ticket`. -/
def replyToTicket (libs : AppLibs) (auth : Option AuthInfo) (ticketId body : String)
    (attachmentKeys : Option (List String)) : TicketProg Reply := do
  guardAuthenticated auth
  let ticket ← requireTicketMember auth ticketId
  let userId ← requireUserId auth
  let body := trim body
  .ensure (!body.isEmpty) (.other "body cannot be empty")
  let prior ← require (send (.listTicketMessages ticket.id))
  let inst ← .ofOption (← require (send (.getInstance ticket.instanceId)))
    (.notFound "Instance" ticket.instanceId)
  let addresses ← require (send (.listInboundAddressesByInstance inst.id))
  let nonce ← send (.generateNonce 16)
  let mail ← .ofExcept ((buildOutbound libs.lower libs.debug inst addresses ticket
    ticket.requesterEmails ticket.ccEmails body (threadingFor prior) nonce).mapError .other)
  storeReply libs ticket userId body (threadingFor prior) (attachmentKeys.getD []) mail

/-- The row of an internal note. -/
def noteContent (ticketId userId body : String) : MessageContent where
  ticketId := ticketId
  kind := .note
  authorUserId := some userId
  fromEmail := none
  toEmails := []
  ccEmails := []
  bodyText := some body
  bodyHtml := none
  inReplyTo := none
  references := none

/-- `add_internal_note`. -/
def addInternalNote (libs : AppLibs) (auth : Option AuthInfo) (ticketId body : String) :
    TicketProg Reply := do
  guardAuthenticated auth
  let ticket ← requireTicketMember auth ticketId
  let userId ← requireUserId auth
  let body := trim body
  .ensure (!body.isEmpty) (.other "body cannot be empty")
  let message ← require (send (.createTicketMessage (noteContent ticket.id userId body)))
  let now ← send .clock
  require (send (.updateTicket ticket.id (.touch now)))
  notifyStaff libs ticket ticket.assigneeUserId .internalNote (.user userId) (some body)
  return .message message

/-! ### Status and assignee -/

/-- The notice of `set_ticket_status` to the customer. -/
def noticeOfStatus (libs : AppLibs) (ticket : Ticket) (status : TicketStatus) : TicketProg Unit :=
  match statusNoticeBody ticket.status status with
  | some notice =>
      sendSystemNotification libs ticket ticket.requesterEmails ticket.ccEmails notice
  | none => .done ()

/-- The notice of `set_ticket_status` to the staff. -/
def staffNoticeOfStatus (libs : AppLibs) (ticket : Ticket) (userId : String)
    (status : TicketStatus) : TicketProg Unit :=
  if status = .deleted then .done ()
  else notifyStaff libs { ticket with status } ticket.assigneeUserId
    (.statusChanged ticket.status status) (.user userId) none

/-- `set_ticket_status`. -/
def setTicketStatus (libs : AppLibs) (auth : Option AuthInfo) (ticketId : String)
    (status : TicketStatus) : TicketProg Reply := do
  guardAuthenticated auth
  let ticket ← requireTicketMember auth ticketId
  let userId ← requireUserId auth
  if status = ticket.status then return .ticket ticket
  else
    let now ← send .clock
    require (send (.updateTicket ticket.id
      (.setStatusAndAssignee ticket.instanceId status ticket.assigneeUserId now)))
    noticeOfStatus libs ticket status
    staffNoticeOfStatus libs ticket userId status
    return .ticket { ticket with status, updatedAt := now, lastActivityAt := now }

/-- The check of `assign_ticket` on the new assignee. -/
def requireAssignee (ticket : Ticket) : Option String → TicketProg Unit
  | none => .done ()
  | some userId => do
      let memberships ← require (send (.listMembershipsByUser userId))
      .ensure (isMember memberships ticket.instanceId)
        (.forbidden "Assignee must be a member of this instance")

/-- The notice of `assign_ticket` to the staff. -/
def staffNoticeOfAssignee (libs : AppLibs) (ticket : Ticket) (actorId : String)
    (userId : Option String) : TicketProg Unit :=
  if ticket.assigneeUserId = userId then .done ()
  else notifyStaff libs ticket userId (.assigned ticket.assigneeUserId userId) (.user actorId) none

/-- `assign_ticket`. -/
def assignTicket (libs : AppLibs) (auth : Option AuthInfo) (ticketId : String)
    (userId : Option String) : TicketProg Reply := do
  guardAuthenticated auth
  let ticket ← requireTicketMember auth ticketId
  let actorId ← requireUserId auth
  requireAssignee ticket userId
  let now ← send .clock
  require (send (.updateTicket ticket.id
    (.setStatusAndAssignee ticket.instanceId ticket.status userId now)))
  staffNoticeOfAssignee libs ticket actorId userId
  return .ticket { ticket with
    assigneeUserId := userId, updatedAt := now, lastActivityAt := now }

/-! ### Requesters and copies -/

/-- The four edits of the people on a ticket: authorize, check, write, and return the row with the
new lists. -/
def editPeople (libs : AppLibs) (auth : Option AuthInfo) (ticketId email : String)
    (check : Ticket → String → TicketProg Unit) (change : String → ℕ → TicketUpdateShape)
    (result : Ticket → String → Ticket) : TicketProg Reply := do
  guardAuthenticated auth
  let ticket ← requireTicketMember auth ticketId
  let email ← .ofExcept (normalizeTicketEmail libs email)
  check ticket email
  let now ← send .clock
  require (send (.updateTicket ticket.id (change email now)))
  return .ticket { result ticket email with updatedAt := now, lastActivityAt := now }

/-- `add_ticket_requester`. -/
def addTicketRequester (libs : AppLibs) (auth : Option AuthInfo) (ticketId email : String) :
    TicketProg Reply :=
  editPeople libs auth ticketId email (fun _ _ => .done ()) .addRequester fun ticket email =>
    { ticket with requesterEmails := addToSet email ticket.requesterEmails }

/-- `remove_ticket_requester`. -/
def removeTicketRequester (libs : AppLibs) (auth : Option AuthInfo) (ticketId email : String) :
    TicketProg Reply :=
  editPeople libs auth ticketId email
    (fun ticket email =>
      .ensure (¬ (ticket.requesterEmails.length ≤ 1 ∧ ticket.requesterEmails.contains email))
        (.conflict "A ticket must keep at least one requester"))
    .removeRequester fun ticket email =>
    { ticket with requesterEmails := ticket.requesterEmails.filter (· ≠ email) }

/-- `add_ticket_cc`. -/
def addTicketCc (libs : AppLibs) (auth : Option AuthInfo) (ticketId email : String) :
    TicketProg Reply :=
  editPeople libs auth ticketId email (fun _ _ => .done ()) .addCc fun ticket email =>
    { ticket with ccEmails := addToSet email ticket.ccEmails }

/-- `remove_ticket_cc`. -/
def removeTicketCc (libs : AppLibs) (auth : Option AuthInfo) (ticketId email : String) :
    TicketProg Reply :=
  editPeople libs auth ticketId email (fun _ _ => .done ()) .removeCc fun ticket email =>
    { ticket with ccEmails := ticket.ccEmails.filter (· ≠ email) }

/-! ### Inbound addresses -/

/-- `add_inbound_address`. -/
def addInboundAddress (libs : AppLibs) (auth : Option AuthInfo) (instanceId address : String) :
    TicketProg Reply := do
  guardInstanceOwnerOrSuperuser instanceId auth
  let _ ← requireLiveInstance instanceId
  let (normalized, kind) ← .ofExcept
    ((classifyForStorage libs.lower libs.debug address).mapError Error.forbidden)
  match ← require (send (.getInboundAddress normalized)) with
  | some existing =>
      throw (.conflict s!"{normalized} is already mapped to instance {existing.instanceId}")
  | none =>
      let created ← require (send (.createInboundAddress normalized instanceId kind))
      return .address created

/-- `remove_inbound_address`. -/
def removeInboundAddress (libs : AppLibs) (auth : Option AuthInfo) (instanceId address : String) :
    TicketProg Reply := do
  guardInstanceOwnerOrSuperuser instanceId auth
  let normalized := libs.lower (trim address)
  let row ← require (send (.getInboundAddress normalized))
  let existing ← .ofOption (row.filter fun a => a.instanceId == instanceId)
    (.notFound "InboundAddress" normalized)
  require (send (.deleteInboundAddress existing.address))
  return .done

/-! ### All calls -/

/-- The calls of the system on these tables: the mutations, an inbound mail, and an administrator's
write of an instance. -/
inductive TicketCall where
  | submitTicket (auth : Option AuthInfo) (subject body : String)
  | submitVerifiedTicket (auth : Option AuthInfo) (subject body : String)
      (recipients cc : List String)
  | createAttachmentUpload (auth : Option AuthInfo) (ticketId filename contentType : String)
  | replyToTicket (auth : Option AuthInfo) (ticketId body : String)
      (attachmentKeys : Option (List String))
  | addInternalNote (auth : Option AuthInfo) (ticketId body : String)
  | setTicketStatus (auth : Option AuthInfo) (ticketId : String) (status : TicketStatus)
  | assignTicket (auth : Option AuthInfo) (ticketId : String) (userId : Option String)
  | addTicketRequester (auth : Option AuthInfo) (ticketId email : String)
  | removeTicketRequester (auth : Option AuthInfo) (ticketId email : String)
  | addTicketCc (auth : Option AuthInfo) (ticketId email : String)
  | removeTicketCc (auth : Option AuthInfo) (ticketId email : String)
  | addInboundAddress (auth : Option AuthInfo) (instanceId address : String)
  | removeInboundAddress (auth : Option AuthInfo) (instanceId address : String)
  | putInstance (inst : Instance)
  | processRawMessage (sesMessageId : String) (raw : List UInt8) (rawS3Key : Option String)

/-- A delivery as a call. -/
def deliveryCall (libs : MailLibs) (sesMessageId : String) (raw : List UInt8)
    (rawS3Key : Option String) : TicketProg Reply :=
  processRawMessage libs sesMessageId raw rawS3Key >>= fun outcome => .done (.outcome outcome)

/-- The program of a call. -/
def TicketCall.program (libs : MailLibs) : TicketCall → TicketProg Reply
  | .submitTicket auth subject body => Microticket.submitTicket libs.toAppLibs auth subject body
  | .submitVerifiedTicket auth subject body recipients cc =>
      Microticket.submitVerifiedTicket libs.toAppLibs auth subject body recipients cc
  | .createAttachmentUpload auth ticketId filename contentType =>
      Microticket.createAttachmentUpload auth ticketId filename contentType
  | .replyToTicket auth ticketId body attachmentKeys =>
      Microticket.replyToTicket libs.toAppLibs auth ticketId body attachmentKeys
  | .addInternalNote auth ticketId body =>
      Microticket.addInternalNote libs.toAppLibs auth ticketId body
  | .setTicketStatus auth ticketId status =>
      Microticket.setTicketStatus libs.toAppLibs auth ticketId status
  | .assignTicket auth ticketId userId =>
      Microticket.assignTicket libs.toAppLibs auth ticketId userId
  | .addTicketRequester auth ticketId email =>
      Microticket.addTicketRequester libs.toAppLibs auth ticketId email
  | .removeTicketRequester auth ticketId email =>
      Microticket.removeTicketRequester libs.toAppLibs auth ticketId email
  | .addTicketCc auth ticketId email => Microticket.addTicketCc libs.toAppLibs auth ticketId email
  | .removeTicketCc auth ticketId email =>
      Microticket.removeTicketCc libs.toAppLibs auth ticketId email
  | .addInboundAddress auth instanceId address =>
      Microticket.addInboundAddress libs.toAppLibs auth instanceId address
  | .removeInboundAddress auth instanceId address =>
      Microticket.removeInboundAddress libs.toAppLibs auth instanceId address
  | .putInstance inst => require (send (.putInstance inst)) >>= fun _ => .done .done
  | .processRawMessage sesMessageId raw rawS3Key => deliveryCall libs sesMessageId raw rawS3Key

end Microticket

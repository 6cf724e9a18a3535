import Microticket.Resolution
import Microticket.StaffNotify

/-! # Inbound mail

`process_raw_message` of `inbound/pipeline.rs` with the functions it calls, as a program over the
requests of `TicketStore`.  `ParsedMail` is what the program reads of a message that `mail_parser`
has parsed; `MailLibs.parse` is that parser. -/

namespace Microticket

open Interleaving RustText

/-- What `mail_parser` makes of an id header. -/
inductive HeaderValue where
  | text (id : String)
  | textList (ids : List String)
  | other
  deriving DecidableEq, Repr

/-- An attachment of a parsed message; the content type is a type and a subtype. -/
structure MailPart where
  contents : List UInt8
  attachmentName : Option String
  contentType : Option (String × Option String)
  deriving DecidableEq, Repr

/-- What the program reads of a parsed message.  An address list holds the address of every entry, if
it has one. -/
structure ParsedMail where
  sender : List (Option String)
  recipients : List (Option String)
  cc : List (Option String)
  subject : Option String
  messageId : Option String
  inReplyTo : HeaderValue
  references : HeaderValue
  autoSubmitted : Option String
  precedence : Option String
  loopHeader : Bool
  bodyText : Option String
  bodyHtml : Option String
  attachments : List MailPart
  deriving DecidableEq, Repr

/-- What the pipeline uses of other code. -/
structure MailLibs extends AppLibs where
  parse : List UInt8 → Option ParsedMail

/-- `Outcome`. -/
structure Outcome where
  droppedReason : Option String
  ticketId : Option String
  messageId : Option String
  createdNewTicket : Bool
  reopened : Bool
  addedSenderAsCc : Bool
  attachmentCount : ℕ
  deriving DecidableEq, Repr

/-- `Outcome::dropped`. -/
def Outcome.dropped (reason : String) : Outcome :=
  ⟨some reason, none, none, false, false, false, 0⟩

def processedMessageRetentionSecs : ℕ := 60 * 60 * 24 * 14
def noSubjectPlaceholder : String := "(no subject)"
def maxAttachmentBytes : ℕ := 15 * 1024 * 1024
def maxFilenameLen : ℕ := 120

/-- `header_value_string`. -/
def headerValueString : HeaderValue → Option String
  | .text id => some s!"<{id}>"
  | .textList ids =>
      if ids.isEmpty then none else some (" ".intercalate (ids.map fun id => s!"<{id}>"))
  | .other => none

namespace ParsedMail

variable (mail : ParsedMail)

/-- `first_address` of `From`. -/
def fromAddress : Option String := mail.sender.head?.join

/-- `all_addresses` of `To`. -/
def toAddresses : List String := mail.recipients.filterMap id

/-- `all_addresses` of `Cc`. -/
def ccAddresses : List String := mail.cc.filterMap id

/-- The recipients, `To` then `Cc`. -/
def allRecipients : List String := mail.toAddresses ++ mail.ccAddresses

def subjectText : String := mail.subject.getD ""

def arrivingMessageId : Option String := mail.messageId.map fun id => s!"<{id}>"

def inReplyToText : Option String := headerValueString mail.inReplyTo

def referencesText : Option String := headerValueString mail.references

def loopCheckHeaders : LoopCheckHeaders :=
  ⟨mail.autoSubmitted.map trim, mail.precedence.map trim, mail.loopHeader⟩

/-- The plan for this message. -/
def plan (lower : String → String) : ResolutionPlan :=
  buildResolutionPlan lower mail.allRecipients mail.inReplyToText mail.referencesText
    mail.subjectText

end ParsedMail

/-! ### Lookups -/

/-- `at_most_one`. -/
def atMostOne {α : Type} (describe : String) : List α → TicketProg (Option α)
  | [] => .done none
  | [a] => .done (some a)
  | _ => .fail (.db (.integrity describe))

/-- `resolve_instance_id` for the keys of one recipient. -/
def resolveKeys : List String → TicketProg (Option String)
  | [] => .done none
  | key :: keys => do
      match ← require (send (.getInboundAddress key)) with
      | some row => return some row.instanceId
      | none => resolveKeys keys

/-- `resolve_instance_id`. -/
def resolveInstanceId (lower : String → String) (recipients : List String) :
    TicketProg (Option String) := resolveKeys (recipients.flatMap (lookupKeys lower))

/-- `get_ticket_id_by_rfc_message_id`. -/
def getTicketIdByRfcMessageId (rfcMessageId : String) : TicketProg (Option String) := do
  let ids ← require (send (.messageIdsByRfcMessageId rfcMessageId))
  match ← atMostOne s!"Multiple ticket_messages share rfc_message_id {rfcMessageId}" ids with
  | none => return none
  | some id =>
      let message ← require (send (.getTicketMessage id))
      return message.map fun m => m.content.ticketId

/-- The value of the `instance_number` attribute. -/
def instanceNumberKey (instanceId : String) (number : ℕ) : String := s!"{instanceId}#{number}"

/-- `get_ticket_id_by_instance_number`. -/
def getTicketIdByInstanceNumber (instanceId : String) (number : ℕ) :
    TicketProg (Option String) := do
  let key := instanceNumberKey instanceId number
  let ids ← require (send (.ticketIdsByInstanceNumber key))
  atMostOne s!"Multiple tickets share instance_number {key}" ids

/-! ### Resolving the ticket -/

/-- `TicketLookup`. -/
inductive TicketLookup where
  | found (ticket : Ticket)
  | notFound
  | crossTenant
  deriving DecidableEq

/-- A ticket that a candidate has verified. -/
def verified (instanceId : String) (ticket : Ticket) : TicketLookup :=
  if ticket.instanceId = instanceId then .found ticket else .crossTenant

/-- The token of the tag is the ticket's. -/
def ReplyTag.verifies (tag : ReplyTag) (ticket : Ticket) : Bool :=
  constantTimeEq (asBytes ticket.replyToken) (asBytes tag.replyToken)

/-- The first loop of `resolve_ticket`. -/
def resolveReplyTags (instanceId : String) : List ReplyTag → TicketProg TicketLookup
  | [] => .done .notFound
  | tag :: tags => do
      match ← require (send (.getTicket tag.ticketId)) with
      | none => resolveReplyTags instanceId tags
      | some ticket =>
          if tag.verifies ticket then return verified instanceId ticket
          else resolveReplyTags instanceId tags

/-- The second loop of `resolve_ticket`. -/
def resolveMessageIds (instanceId : String) : List String → TicketProg TicketLookup
  | [] => .done .notFound
  | mid :: mids => do
      match ← getTicketIdByRfcMessageId mid with
      | none => resolveMessageIds instanceId mids
      | some ticketId =>
          match ← require (send (.getTicket ticketId)) with
          | none => resolveMessageIds instanceId mids
          | some ticket => return verified instanceId ticket

/-- The last part of `resolve_ticket`. -/
def resolveSubjectNumber (instanceId : String) : Option ℕ → TicketProg TicketLookup
  | none => .done .notFound
  | some number => do
      match ← getTicketIdByInstanceNumber instanceId number with
      | none => return .notFound
      | some ticketId =>
          match ← require (send (.getTicket ticketId)) with
          | none => return .notFound
          | some ticket => return .found ticket

/-- `resolve_ticket`. -/
def resolveTicket (plan : ResolutionPlan) (instanceId : String) : TicketProg TicketLookup := do
  match ← resolveReplyTags instanceId plan.replyTags with
  | .notFound =>
      match ← resolveMessageIds instanceId plan.messageIds with
      | .notFound => resolveSubjectNumber instanceId plan.subjectNumber
      | lookup => return lookup
  | lookup => return lookup

/-! ### Storing the message -/

/-- What the steps after the resolution know of the call. -/
structure Delivery where
  mail : ParsedMail
  rawS3Key : Option String
  instanceId : String
  fromNormalized : String
  now : ℕ

/-- The ticket a message is stored on, and what was done to it. -/
structure Placement where
  ticket : Ticket
  createdNewTicket : Bool
  addedSenderAsCc : Bool
  reopened : Bool

/-- Append to an existing ticket: add the sender, and reopen or touch the ticket. -/
def appendToTicket (d : Delivery) (ticket : Ticket) : TicketProg Placement := do
  let addedAsCc := !ticket.requesterEmails.contains d.fromNormalized &&
    !ticket.ccEmails.contains d.fromNormalized
  if addedAsCc then require (send (.updateTicket ticket.id (.addCc d.fromNormalized d.now)))
  if ticket.status = .closed then
    require (send (.updateTicket ticket.id
      (.setStatusAndAssignee d.instanceId .open ticket.assigneeUserId d.now)))
    return ⟨ticket, false, addedAsCc, true⟩
  else
    require (send (.updateTicket ticket.id (.touch d.now)))
    return ⟨ticket, false, addedAsCc, false⟩

/-- Open a new ticket. -/
def openTicket (lower : String → String) (addresses : List InboundAddress) (d : Delivery) :
    TicketProg Placement := do
  let subject := d.mail.subjectText
  let subjectForTicket := if (trim subject).isEmpty then noSubjectPlaceholder else subject
  let ccs := stripOwnAddresses lower addresses d.fromNormalized d.mail.allRecipients []
  let number ← require (send (.incrementTicketCounter d.instanceId))
  let ticket ← require (send
    (.createTicket d.instanceId number subjectForTicket [d.fromNormalized] ccs))
  return ⟨ticket, true, false, false⟩

/-- The ticket of the message, as it is after the writes. -/
def placeMessage (lower : String → String) (d : Delivery) (resolved : Option Ticket) :
    TicketProg Placement := do
  let addresses ← require (send (.listInboundAddressesByInstance d.instanceId))
  match resolved with
  | some ticket =>
      let placement ← appendToTicket d ticket
      let ticket ← require (send (.getTicket placement.ticket.id))
      return { placement with ticket := ticket.getD placement.ticket }
  | none => openTicket lower addresses d

/-- The last path segment of a file name. -/
def lastSegment (cs : List Char) : List Char :=
  (cs.reverse.takeWhile fun c => c != '/' && c != '\\').reverse

/-- What `sanitize_filename` keeps of a name. -/
def cleanFilename (raw : String) : String :=
  let out := (lastSegment raw.toList).map fun c =>
    if c.isAlphanum || c == '.' || c == '-' || c == '_' || c == ' ' then c else '_'
  let trimDots := fun s => trim (trimMatches (· == '.') (trim s))
  trimDots (String.ofList ((trimDots (String.ofList out)).toList.take maxFilenameLen))

/-- `sanitize_filename`. -/
def sanitizeFilename (raw : Option String) (index : ℕ) : String :=
  match raw with
  | none => s!"attachment-{index}"
  | some raw => if (cleanFilename raw).isEmpty then s!"attachment-{index}" else cleanFilename raw

/-- `attachment_key`. -/
def attachmentKey (ticketId messageId : String) (index : ℕ) (filename : String) : String :=
  s!"attachments/{ticketId}/{messageId}/{index}/{filename}"

/-- The content type of a part. -/
def MailPart.contentTypeText (part : MailPart) : String :=
  match part.contentType with
  | some (type, some subtype) => s!"{type}/{subtype}"
  | some (type, none) => type
  | none => "application/octet-stream"

/-- `store_attachments`, from the part `index` on. -/
def storeAttachments (ticketId messageId : String) :
    ℕ → List MailPart → TicketProg (List Attachment)
  | _, [] => .done []
  | index, part :: parts => do
      if maxAttachmentBytes < part.contents.length then
        storeAttachments ticketId messageId (index + 1) parts
      else
        let filename := sanitizeFilename part.attachmentName index
        let key := attachmentKey ticketId messageId index filename
        match ← send (.putBytes key part.contents part.contentTypeText) with
        | .error _ => throw (.other s!"storing attachment {key}")
        | .ok () =>
            let rest ← storeAttachments ticketId messageId (index + 1) parts
            return ⟨key, filename, part.contentTypeText, part.contents.length⟩ :: rest

/-- An update of the new message that is only made if there is something to store. -/
def stampMessage (messageId : String) (change : Option TicketMessageUpdateShape) :
    TicketProg Unit :=
  match change with
  | some change => require (send (.updateTicketMessage messageId change))
  | none => .done ()

/-- The row of an inbound message. -/
def Delivery.content (d : Delivery) (ticketId : String) : MessageContent where
  ticketId := ticketId
  kind := .inbound
  authorUserId := none
  fromEmail := some d.fromNormalized
  toEmails := d.mail.toAddresses
  ccEmails := d.mail.ccAddresses
  bodyText := d.mail.bodyText
  bodyHtml := d.mail.bodyHtml
  inReplyTo := d.mail.inReplyToText
  references := d.mail.referencesText

/-- Store the message on its ticket, with its ids and its attachments. -/
def storeMessage (d : Delivery) (ticketId : String) :
    TicketProg (TicketMessage × List Attachment) := do
  let message ← require (send (.createTicketMessage (d.content ticketId)))
  stampMessage message.id (d.mail.arrivingMessageId.map .setRfcMessageId)
  stampMessage message.id (d.rawS3Key.map .setRawS3Key)
  let stored ← storeAttachments ticketId message.id 0 d.mail.attachments
  if stored.isEmpty then return (message, stored)
  else
    require (send (.updateTicketMessage message.id (.setAttachments stored)))
    require (send (.updateTicket ticketId .markHasAttachments))
    return (message, stored)

/-! ### Relaying -/

/-- The row of a relayed message. -/
def relayContent (ticketId body : String) (threading : Threading) (mail : Mime) :
    MessageContent where
  ticketId := ticketId
  kind := .system
  authorUserId := none
  fromEmail := none
  toEmails := mail.recipients
  ccEmails := mail.ccs
  bodyText := some body
  bodyHtml := none
  inReplyTo := threading.inReplyTo
  references := threading.references

/-- `notify_others` once the mail is built: send it and store it. -/
def relayMail (ticketId body : String) (threading : Threading) (mail : Mime) :
    TicketProg (Option String) := do
  match ← send (.sendRaw mail mail.recipients mail.ccs) with
  | .error _ => return none
  | .ok rfcMessageId =>
      match ← send (.createTicketMessage (relayContent ticketId body threading mail)) with
      | .error _ => return none
      | .ok message =>
          let _ ← send (.updateTicketMessage message.id (.setRfcMessageId rfcMessageId))
          return some rfcMessageId

/-- `notify_others`; every failure ends it. -/
def notifyOthers (libs : AppLibs) (ticket : Ticket) (recipients : List String) (body : String) :
    TicketProg (Option String) := do
  match ← send (.getInstance ticket.instanceId) with
  | .ok (some inst) =>
      match ← send (.listInboundAddressesByInstance inst.id) with
      | .error _ => return none
      | .ok addresses =>
          match ← send (.listTicketMessages ticket.id) with
          | .error _ => return none
          | .ok prior =>
              let nonce ← send (.generateNonce 16)
              match buildOutbound libs.lower libs.debug inst addresses ticket recipients [] body
                (threadingFor prior) nonce with
              | .error _ => return none
              | .ok mail => relayMail ticket.id body (threadingFor prior) mail
  | _ => return none

/-- The participants who did not send the message. -/
def Ticket.othersThan (ticket : Ticket) (address : String) : List String :=
  (ticket.requesterEmails ++ ticket.ccEmails).filter (· ≠ address)

/-- Relay the message to the other participants. -/
def relayMessage (libs : AppLibs) (d : Delivery) (ticket : Ticket) : TicketProg Unit :=
  let body := (d.mail.bodyText.filter fun b => !(trim b).isEmpty).getD "(no message body)"
  let recipients := ticket.othersThan d.fromNormalized
  if recipients.isEmpty then .done ()
  else (notifyOthers libs ticket recipients body).void

/-! ### The pipeline -/

/-- The staff event of a message. -/
def Placement.event (p : Placement) (fromNormalized : String) : StaffEvent :=
  if p.createdNewTicket then .newTicket fromNormalized
  else .customerMessage fromNormalized p.reopened

/-- `process_raw_message` once the ticket is resolved. -/
def deliverTo (libs : MailLibs) (d : Delivery) (resolved : Option Ticket) :
    TicketProg Outcome := do
  let placement ← placeMessage libs.lower d resolved
  let (message, stored) ← storeMessage d placement.ticket.id
  relayMessage libs.toAppLibs d placement.ticket
  notifyStaff libs.toAppLibs placement.ticket placement.ticket.assigneeUserId
    (placement.event d.fromNormalized) (.email d.fromNormalized) (some (d.mail.bodyText.getD ""))
  return ⟨none, some placement.ticket.id, some message.id, placement.createdNewTicket,
    placement.reopened, placement.addedSenderAsCc, stored.length⟩

/-- `process_raw_message` once the instance is known to accept mail. -/
def deliver (libs : MailLibs) (d : Delivery) : TicketProg Outcome := do
  match ← resolveTicket (d.mail.plan libs.lower) d.instanceId with
  | .crossTenant =>
      return .dropped "resolved ticket belongs to a different instance (cross-tenant reject)"
  | .found ticket => deliverTo libs d (some ticket)
  | .notFound => deliverTo libs d none

/-- The instance takes mail. -/
def acceptsMail (inst : Option Instance) : Bool :=
  match inst with
  | some i => !i.deleted && i.kind == .support
  | none => false

/-- `process_raw_message` once the instance is resolved. -/
def routeMail (libs : MailLibs) (mail : ParsedMail) (rawS3Key : Option String) (now : ℕ)
    (instanceId : String) : TicketProg Outcome := do
  let inst ← require (send (.getInstance instanceId))
  if !acceptsMail inst then
    return .dropped "resolved instance is deleted or not a support instance"
  else match mail.fromAddress with
    | none => return .dropped "no From address"
    | some fromRaw =>
        match ← resolveInstanceId libs.lower [fromRaw] with
        | some _ => return .dropped (DropReason.fromOwnAddress fromRaw).text
        | none =>
            deliver libs
              ⟨mail, rawS3Key, instanceId, (normalizeRecipient libs.lower fromRaw).address, now⟩

/-- `process_raw_message` once the message is parsed. -/
def processMail (libs : MailLibs) (mail : ParsedMail) (rawS3Key : Option String) (now : ℕ) :
    TicketProg Outcome :=
  match checkStructural libs.lower mail.loopCheckHeaders with
  | some reason => .done (.dropped reason.text)
  | none => do
      match ← resolveInstanceId libs.lower mail.allRecipients with
      | none => return .dropped "no recipient matched a known inbound address"
      | some instanceId => routeMail libs mail rawS3Key now instanceId

/-- `process_raw_message`. -/
def processRawMessage (libs : MailLibs) (sesMessageId : String) (raw : List UInt8)
    (rawS3Key : Option String) : TicketProg Outcome := do
  let now ← send .clock
  let claimed ← require (send
    (.claimProcessedMessage sesMessageId now (now + processedMessageRetentionSecs)))
  if !claimed then return .dropped "duplicate SES message id"
  else match libs.parse raw with
    | none => return .dropped "failed to parse as RFC 5322"
    | some mail => processMail libs mail rawS3Key now

end Microticket

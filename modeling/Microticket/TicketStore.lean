import Microticket.Dynamo
import Microticket.Rows
import Microticket.Service
import Microticket.Store

/-! # The tables of tickets

The tables `ticket`, `ticket_message`, `counter`, `processed_message`, `inbound_address` and
`instance` as inbound mail uses them.  A `TicketOp` is one request to DynamoDB, to the object storage
or to the mail provider; `TicketDb.change` is what a write does to the tables.  No read of these
tables is a `ConsistentRead`, so it returns the row of `Env.lag` commits ago.  Memberships and users
are only read, and their answers are chosen by `Env`.

A write is refused if it would store an item that DynamoDB rejects (`Item.valid`).  Rows of tickets
and messages are never deleted. -/

namespace Microticket

open Interleaving Tables

/-! ### Rows -/

/-- `db::AddressKind`. -/
inductive AddressKind where
  | exact
  | wildcard
  deriving DecidableEq, Repr

/-- `db::InboundAddress`. -/
structure InboundAddress where
  address : String
  instanceId : String
  kind : AddressKind
  createdAt : ℕ
  deriving DecidableEq, Repr

/-- `db::TicketStatus`. -/
inductive TicketStatus where
  | open
  | closed
  | deleted
  deriving DecidableEq, Repr

/-- `TicketStatus::as_str`. -/
def TicketStatus.asStr : TicketStatus → String
  | .open => "open"
  | .closed => "closed"
  | .deleted => "deleted"

/-- `db::Ticket`. -/
structure Ticket where
  id : String
  instanceId : String
  number : ℕ
  subject : String
  status : TicketStatus
  requesterEmails : List String
  ccEmails : List String
  assigneeUserId : Option String
  replyToken : String
  createdAt : ℕ
  updatedAt : ℕ
  lastActivityAt : ℕ
  hasAttachments : Bool
  deriving DecidableEq, Repr

/-- `db::TicketMarkers`. -/
structure TicketMarkers where
  instanceStatus : String
  instanceVisible : Option String
  instanceAssignee : Option String
  deriving DecidableEq, Repr

/-- `compute_ticket_markers`. -/
def computeTicketMarkers (instanceId : String) (status : TicketStatus)
    (assigneeUserId : Option String) : TicketMarkers :=
  let instanceStatus := s!"{instanceId}#{status.asStr}"
  if status = .deleted then ⟨instanceStatus, none, none⟩
  else ⟨instanceStatus, some instanceId, assigneeUserId.map fun uid => s!"{instanceId}#{uid}"⟩

/-- A row of `ticket`: the record and the attributes that are only keys of indexes. -/
structure TicketRow where
  record : Ticket
  markers : TicketMarkers
  instanceNumber : String
  deriving DecidableEq, Repr

/-- `db::TicketMessageKind`. -/
inductive TicketMessageKind where
  | inbound
  | reply
  | note
  | system
  deriving DecidableEq, Repr

/-- `TicketMessageKind::as_str`. -/
def TicketMessageKind.asStr : TicketMessageKind → String
  | .inbound => "inbound"
  | .reply => "reply"
  | .note => "note"
  | .system => "system"

/-- `db::Attachment`. -/
structure Attachment where
  s3Key : String
  filename : String
  contentType : String
  size : ℕ
  deriving DecidableEq, Repr

/-- The arguments of `create_ticket_message`. -/
structure MessageContent where
  ticketId : String
  kind : TicketMessageKind
  authorUserId : Option String
  fromEmail : Option String
  toEmails : List String
  ccEmails : List String
  bodyText : Option String
  bodyHtml : Option String
  inReplyTo : Option String
  references : Option String
  deriving DecidableEq, Repr

/-- `db::TicketMessage`. -/
structure TicketMessage where
  id : String
  content : MessageContent
  rfcMessageId : Option String
  attachments : List Attachment
  rawS3Key : Option String
  createdAt : ℕ
  deriving DecidableEq, Repr

/-- `db::NotificationSettings`. -/
structure NotificationSettings where
  newTicket : Bool
  assignedToMe : Bool
  assignedToMeUpdated : Bool
  unassignedUpdated : Bool
  assignedToOthersUpdated : Bool
  deriving DecidableEq, Repr

/-- What staff notices read of `db::Membership`. -/
structure StaffMembership where
  userId : String
  notificationSettings : NotificationSettings
  deriving DecidableEq, Repr

/-- What staff notices read of `db::User`. -/
structure StaffUser where
  id : String
  email : String
  name : String
  enabled : Bool
  deriving DecidableEq, Repr

/-- `db::TicketUpdateShape`. -/
inductive TicketUpdateShape where
  | setStatusAndAssignee (instanceId : String) (status : TicketStatus)
      (assigneeUserId : Option String) (now : ℕ)
  | addRequester (email : String) (now : ℕ)
  | removeRequester (email : String) (now : ℕ)
  | addCc (email : String) (now : ℕ)
  | removeCc (email : String) (now : ℕ)
  | touch (now : ℕ)
  | markHasAttachments
  deriving DecidableEq, Repr

/-- `db::TicketMessageUpdateShape`. -/
inductive TicketMessageUpdateShape where
  | setRfcMessageId (rfcMessageId : String)
  | setRawS3Key (rawS3Key : String)
  | setAttachments (attachments : List Attachment)
  deriving DecidableEq, Repr

/-- A mail as it is handed to `mail_builder`. -/
structure Mime where
  fromName : String
  fromAddress : String
  replyTo : String
  recipients : List String
  ccs : List String
  subject : String
  messageId : String
  headers : List (String × String)
  textBody : String
  htmlBody : String
  deriving DecidableEq, Repr

/-- The tables. -/
structure TicketDb where
  instances : Table String Instance
  addresses : Table String InboundAddress
  counters : Table String ℕ
  tickets : Table String TicketRow
  messages : Table String TicketMessage
  processed : Table String (ℕ × ℕ)

/-! ### Requests -/

/-- The requests.  The last three are those of the owners' mutations. -/
inductive TicketOp where
  | clock
  | newId
  | generateNonce (bytes : ℕ)
  | sendRaw (mail : Mime) (recipients ccs : List String)
  | putBytes (key : String) (bytes : List UInt8) (contentType : String)
  | presignPut (key contentType : String)
  | moveObject (source target : String)
  | objectSize (key : String)
  | claimProcessedMessage (sesMessageId : String) (now expiresAt : ℕ)
  | getInboundAddress (address : String)
  | listInboundAddressesByInstance (instanceId : String)
  | getInstance (id : String)
  | getTicket (id : String)
  | ticketIdsByInstanceNumber (key : String)
  | incrementTicketCounter (instanceId : String)
  | createTicket (instanceId : String) (number : ℕ) (subject : String)
      (requesterEmails ccEmails : List String)
  | updateTicket (id : String) (change : TicketUpdateShape)
  | messageIdsByRfcMessageId (rfcMessageId : String)
  | getTicketMessage (id : String)
  | listTicketMessages (ticketId : String)
  | createTicketMessage (content : MessageContent)
  | updateTicketMessage (id : String) (change : TicketMessageUpdateShape)
  | listMembershipsByInstance (instanceId : String)
  | listMembershipsByUser (userId : String)
  | getUser (id : String)
  | putInstance (inst : Instance)
  | createInboundAddress (address instanceId : String) (kind : AddressKind)
  | deleteInboundAddress (address : String)
  deriving DecidableEq

/-- The answer to a request. -/
@[reducible] def TicketOp.Res : TicketOp → Type
  | .clock => ℕ
  | .newId | .generateNonce _ => String
  | .sendRaw .. | .presignPut .. => Except String String
  | .putBytes .. | .moveObject .. => Except String Unit
  | .objectSize _ => Except String ℕ
  | .claimProcessedMessage .. => Except DbError Bool
  | .getInboundAddress _ => Except DbError (Option InboundAddress)
  | .listInboundAddressesByInstance _ => Except DbError (List InboundAddress)
  | .getInstance _ => Except DbError (Option Instance)
  | .getTicket _ => Except DbError (Option Ticket)
  | .ticketIdsByInstanceNumber _ | .messageIdsByRfcMessageId _ => Except DbError (List String)
  | .incrementTicketCounter _ => Except DbError ℕ
  | .createTicket .. => Except DbError Ticket
  | .getTicketMessage _ => Except DbError (Option TicketMessage)
  | .listTicketMessages _ => Except DbError (List TicketMessage)
  | .createTicketMessage _ => Except DbError TicketMessage
  | .createInboundAddress .. => Except DbError InboundAddress
  | .listMembershipsByInstance _ => Except DbError (List StaffMembership)
  | .listMembershipsByUser _ => Except DbError (List Membership)
  | .getUser _ => Except DbError (Option StaffUser)
  | .updateTicket .. | .updateTicketMessage .. | .putInstance _ | .deleteInboundAddress _ =>
      Except DbError Unit

/-- A request with its answer. -/
abbrev TicketEvent : Type := Event TicketOp TicketOp.Res

/-- What the tables do not decide themselves. -/
structure TicketEnv where
  now : ℕ
  newId : String
  replyToken : String
  nonce : String
  lag : ℕ
  fault : Fault
  storage : Except String Unit
  upload : Except String String
  size : Except String ℕ
  mail : Except String String
  memberships : Except DbError (List StaffMembership)
  memberOf : Except DbError (List Membership)
  user : Except DbError (Option StaffUser)

/-- The state: the committed versions of the tables, and the ids given to rows. -/
structure TicketStore where
  db : Replica TicketDb
  minted : List String

/-! ### Writes -/

/-- The row that `create_ticket` stores. -/
def newTicket (e : TicketEnv) (instanceId : String) (number : ℕ) (subject : String)
    (requesterEmails ccEmails : List String) : TicketRow where
  record :=
    { id := e.newId, instanceId, number, subject, status := .open, requesterEmails, ccEmails,
      assigneeUserId := none, replyToken := e.replyToken, createdAt := e.now, updatedAt := e.now,
      lastActivityAt := e.now, hasAttachments := false }
  markers := computeTicketMarkers instanceId .open none
  instanceNumber := s!"{instanceId}#{number}"

/-- The row that `create_ticket_message` stores. -/
def newMessage (e : TicketEnv) (content : MessageContent) : TicketMessage :=
  { id := e.newId, content, rfcMessageId := none, attachments := [], rawS3Key := none,
    createdAt := e.now }

/-- `ADD` of one member to a string set. -/
def addToSet (member : String) (members : List String) : List String :=
  if members.contains member then members else members ++ [member]

/-- `update_ticket`. -/
def TicketRow.update (row : TicketRow) : TicketUpdateShape → TicketRow
  | .setStatusAndAssignee instanceId status assigneeUserId now =>
      { row with
        record := { row.record with
          status, assigneeUserId, updatedAt := now, lastActivityAt := now }
        markers := computeTicketMarkers instanceId status assigneeUserId }
  | .addRequester email now =>
      { row with record := { row.record with
          requesterEmails := addToSet email row.record.requesterEmails, updatedAt := now,
          lastActivityAt := now } }
  | .removeRequester email now =>
      { row with record := { row.record with
          requesterEmails := row.record.requesterEmails.filter (· ≠ email), updatedAt := now,
          lastActivityAt := now } }
  | .addCc email now =>
      { row with record := { row.record with
          ccEmails := addToSet email row.record.ccEmails, updatedAt := now,
          lastActivityAt := now } }
  | .removeCc email now =>
      { row with record := { row.record with
          ccEmails := row.record.ccEmails.filter (· ≠ email), updatedAt := now,
          lastActivityAt := now } }
  | .touch now =>
      { row with record := { row.record with updatedAt := now, lastActivityAt := now } }
  | .markHasAttachments => { row with record := { row.record with hasAttachments := true } }

/-- `update_ticket_message`. -/
def TicketMessage.update (message : TicketMessage) : TicketMessageUpdateShape → TicketMessage
  | .setRfcMessageId rfcMessageId => { message with rfcMessageId := some rfcMessageId }
  | .setRawS3Key rawS3Key => { message with rawS3Key := some rawS3Key }
  | .setAttachments attachments => { message with attachments }

/-- The attributes of a ticket. -/
def TicketRow.item (row : TicketRow) : Item :=
  [("id", .s row.record.id), ("instance_id", .s row.record.instanceId),
    ("number", .n row.record.number), ("subject", .s row.record.subject),
    ("status", .s row.record.status.asStr), ("instance_status", .s row.markers.instanceStatus),
    ("instance_number", .s row.instanceNumber), ("reply_token", .s row.record.replyToken),
    ("created_at", .n row.record.createdAt), ("updated_at", .n row.record.updatedAt),
    ("last_activity_at", .n row.record.lastActivityAt)] ++
  Item.optional "instance_visible" .s row.markers.instanceVisible ++
  Item.optional "instance_assignee" .s row.markers.instanceAssignee ++
  Item.optional "assignee_user_id" .s row.record.assigneeUserId ++
  Item.stringSet "requester_emails" row.record.requesterEmails ++
  Item.stringSet "cc_emails" row.record.ccEmails ++
  if row.record.hasAttachments then [("has_attachments", .bool true)] else []

/-- The attributes of an attachment. -/
def Attachment.value (a : Attachment) : AttributeValue :=
  .m [("s3_key", .s a.s3Key), ("filename", .s a.filename), ("content_type", .s a.contentType),
    ("size", .n a.size)]

/-- The attributes of a message. -/
def TicketMessage.item (message : TicketMessage) : Item :=
  [("id", .s message.id), ("ticket_id", .s message.content.ticketId),
    ("kind", .s message.content.kind.asStr), ("created_at", .n message.createdAt)] ++
  Item.optional "author_user_id" .s message.content.authorUserId ++
  Item.optional "from_email" .s message.content.fromEmail ++
  Item.stringSet "to_emails" message.content.toEmails ++
  Item.stringSet "cc_emails" message.content.ccEmails ++
  Item.optional "body_text" .s message.content.bodyText ++
  Item.optional "body_html" .s message.content.bodyHtml ++
  Item.optional "in_reply_to" .s message.content.inReplyTo ++
  Item.optional "references" .s message.content.references ++
  Item.optional "rfc_message_id" .s message.rfcMessageId ++
  Item.optional "raw_s3_key" .s message.rawS3Key ++
  if message.attachments.isEmpty then []
  else [("attachments", .l (message.attachments.map Attachment.value))]

/-- The hash keys of `ticket` and its indexes. -/
def ticketKeys : List String :=
  ["id", "instance_status", "instance_visible", "instance_assignee", "instance_number"]

/-- The hash keys of `ticket_message` and its indexes. -/
def messageKeys : List String := ["id", "ticket_id", "rfc_message_id"]

namespace TicketDb

variable (d : TicketDb) (e : TicketEnv)

/-- The counter of an instance. -/
def counter (instanceId : String) : ℕ := (d.counters.lookup instanceId).getD 0

/-- The ids of the tickets with this `instance_number`. -/
def ticketIds (key : String) : List String :=
  (d.tickets.entries.filter fun row => row.snd.instanceNumber = key).map Sigma.fst

/-- The ids of the messages with this `rfc_message_id`. -/
def messageIds (rfcMessageId : String) : List String :=
  (d.messages.entries.filter fun row => row.snd.rfcMessageId = some rfcMessageId).map Sigma.fst

/-- The addresses of an instance. -/
def addressesOf (instanceId : String) : List InboundAddress :=
  (d.addresses.entries.map Sigma.snd).filter fun row => row.instanceId = instanceId

/-- The order of `list_ticket_messages`. -/
def olderMessage (a b : TicketMessage) : Bool :=
  a.createdAt < b.createdAt || a.createdAt == b.createdAt && a.id ≤ b.id

/-- The messages of a ticket, oldest first. -/
def messagesOf (ticketId : String) : List TicketMessage :=
  ((d.messages.entries.map Sigma.snd).filter fun row =>
    row.content.ticketId = ticketId).mergeSort olderMessage

/-- What a write does to the tables; `none` if its condition fails or if it writes nothing. -/
def change : TicketOp → Option TicketDb
  | .claimProcessedMessage sesMessageId now expiresAt =>
      if (d.processed.lookup sesMessageId).isNone then
        some { d with processed := d.processed.insert sesMessageId (now, expiresAt) }
      else none
  | .incrementTicketCounter instanceId =>
      some { d with counters := d.counters.insert instanceId (d.counter instanceId + 1) }
  | .createTicket instanceId number subject requesterEmails ccEmails =>
      if (d.tickets.lookup e.newId).isNone then
        some { d with tickets := d.tickets.insert e.newId
                        (newTicket e instanceId number subject requesterEmails ccEmails) }
      else none
  | .updateTicket id change =>
      (d.tickets.lookup id).map fun row =>
        { d with tickets := d.tickets.insert id (row.update change) }
  | .createTicketMessage content =>
      if (d.messages.lookup e.newId).isNone then
        some { d with messages := d.messages.insert e.newId (newMessage e content) }
      else none
  | .updateTicketMessage id change =>
      (d.messages.lookup id).map fun message =>
        { d with messages := d.messages.insert id (message.update change) }
  | .putInstance inst => some { d with instances := d.instances.insert inst.id inst }
  | .createInboundAddress address instanceId kind =>
      some { d with addresses := d.addresses.insert address ⟨address, instanceId, kind, e.now⟩ }
  | .deleteInboundAddress address => some { d with addresses := d.addresses.erase address }
  | _ => none

/-- The item that a write of a ticket or a message stores is one that DynamoDB accepts. -/
def accepts (fits : Item → Bool) : TicketOp → Bool
  | .createTicket instanceId number subject requesterEmails ccEmails =>
      (newTicket e instanceId number subject requesterEmails ccEmails).item.valid fits ticketKeys
  | .updateTicket id change =>
      (d.tickets.lookup id).all fun row => (row.update change).item.valid fits ticketKeys
  | .createTicketMessage content => (newMessage e content).item.valid fits messageKeys
  | .updateTicketMessage id change =>
      (d.messages.lookup id).all fun message =>
        (message.update change).item.valid fits messageKeys
  | _ => true

end TicketDb

/-! ### The service -/

namespace TicketStore

variable (s : TicketStore) (e : TicketEnv)

/-- A read. -/
def read {α : Type} (answer : α) : Except DbError α × TicketStore :=
  (if e.fault = .none then .ok answer else .error connectionLost, s)

/-- A write that answers `committed`, or `refused` if its condition fails. -/
def write {α : Type} (fits : Item → Bool) (readOnly : Bool) (op : TicketOp) (committed : α)
    (refused : Except DbError α) : Except DbError α × TicketStore :=
  if readOnly then (.error .mutationDisabled, s)
  else if e.fault = .lost ∨ e.fault = .cancelled then (.error connectionLost, s)
  else if !s.db.now.accepts e fits op then (.error (.infrastructure "ValidationException"), s)
  else match s.db.now.change e op with
    | none => (refused, s)
    | some d =>
        (if e.fault = .none then .ok committed else .error connectionLost,
          { db := s.db.write d, minted := e.newId :: s.minted })

/-- Serve one request. -/
def serve (fits : Item → Bool) (readOnly : Bool) : (op : TicketOp) → op.Res × TicketStore
  | .clock => (e.now, s)
  | .newId => (e.newId, s)
  | .generateNonce _ => (e.nonce, s)
  | .sendRaw .. => (e.mail, s)
  | .putBytes .. => (e.storage, s)
  | .presignPut .. => (e.upload, s)
  | .moveObject .. => (e.storage, s)
  | .objectSize _ => (e.size, s)
  | .listMembershipsByInstance _ => (e.memberships, s)
  | .listMembershipsByUser _ => (e.memberOf, s)
  | .getUser _ => (e.user, s)
  | .getInboundAddress address => s.read e ((s.db.seen e.lag).addresses.lookup address)
  | .listInboundAddressesByInstance instanceId =>
      s.read e ((s.db.seen e.lag).addressesOf instanceId)
  | .getInstance id => s.read e ((s.db.seen e.lag).instances.lookup id)
  | .getTicket id => s.read e (((s.db.seen e.lag).tickets.lookup id).map TicketRow.record)
  | .ticketIdsByInstanceNumber key => s.read e ((s.db.seen e.lag).ticketIds key)
  | .messageIdsByRfcMessageId rfcMessageId =>
      s.read e ((s.db.seen e.lag).messageIds rfcMessageId)
  | .getTicketMessage id => s.read e ((s.db.seen e.lag).messages.lookup id)
  | .listTicketMessages ticketId => s.read e ((s.db.seen e.lag).messagesOf ticketId)
  | .claimProcessedMessage sesMessageId now expiresAt =>
      s.write e fits readOnly (.claimProcessedMessage sesMessageId now expiresAt) true (.ok false)
  | .incrementTicketCounter instanceId =>
      s.write e fits readOnly (.incrementTicketCounter instanceId)
        (s.db.now.counter instanceId + 1) (.error connectionLost)
  | .createTicket instanceId number subject requesterEmails ccEmails =>
      s.write e fits readOnly (.createTicket instanceId number subject requesterEmails ccEmails)
        (newTicket e instanceId number subject requesterEmails ccEmails).record
        (.error (.infrastructure "ConditionalCheckFailedException"))
  | .updateTicket id change =>
      s.write e fits readOnly (.updateTicket id change) () (.error (.notFound s!"Ticket {id}"))
  | .createTicketMessage content =>
      s.write e fits readOnly (.createTicketMessage content) (newMessage e content)
        (.error (.infrastructure "ConditionalCheckFailedException"))
  | .updateTicketMessage id change =>
      s.write e fits readOnly (.updateTicketMessage id change) ()
        (.error (.notFound s!"TicketMessage {id}"))
  | .putInstance inst => s.write e fits readOnly (.putInstance inst) () (.error connectionLost)
  | .createInboundAddress address instanceId kind =>
      s.write e fits readOnly (.createInboundAddress address instanceId kind)
        ⟨address, instanceId, kind, e.now⟩ (.error connectionLost)
  | .deleteInboundAddress address =>
      s.write e fits readOnly (.deleteInboundAddress address) () (.error connectionLost)

end TicketStore

/-- The tables of tickets as a service. -/
@[reducible] def ticketService (fits : Item → Bool) (readOnly : Bool) :
    Service TicketOp TicketOp.Res where
  State := TicketStore
  Env := TicketEnv
  Allowed s e := e.newId ∉ s.minted
  serve s e op := s.serve e fits readOnly op

instance (fits : Item → Bool) (readOnly : Bool) (s : (ticketService fits readOnly).State)
    (e : (ticketService fits readOnly).Env) :
    Decidable ((ticketService fits readOnly).Allowed s e) :=
  inferInstanceAs (Decidable (e.newId ∉ TicketStore.minted s))

end Microticket

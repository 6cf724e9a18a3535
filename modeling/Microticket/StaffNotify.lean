import Microticket.Outbound
import Microticket.Prog

/-! # Mail to staff

`staff_notify.rs`: who of the members of an instance is mailed about an event on a ticket, and with
what.  `notifyStaff` is best effort: it swallows every failure.

`TicketProg` are the programs over the tables of tickets, and `AppLibs` what they use of the standard
library's Unicode tables and of the environment. -/

namespace Microticket

open Interleaving RustText

/-- What the programs use of other code, and the configuration. -/
structure AppLibs where
  lower : String → String
  debug : String → String
  appBaseUrl : String
  systemFrom : String
  systemReplyTo : String

/-- A program over the tables of tickets. -/
abbrev TicketProg (α : Type) : Type := Prog TicketOp TicketOp.Res Error α

/-- Send a request. -/
def send (op : TicketOp) : TicketProg op.Res := .call op .done

/-- A `db::Error` of a request propagates. -/
def require {α : Type} (p : TicketProg (Except DbError α)) : TicketProg α :=
  p >>= fun r => .ofExcept (r.mapError .db)

/-- `Actor`. -/
inductive Actor where
  | user (id : String)
  | email (address : String)
  deriving DecidableEq, Repr

/-- `Reason`. -/
inductive Reason where
  | newTicket
  | assignedToMe
  | assignedToMeUpdated
  | unassignedUpdated
  | assignedToOthersUpdated
  deriving DecidableEq, Repr

/-- `Reason::footer_text`. -/
def Reason.footerText : Reason → String
  | newTicket => "a new ticket was opened and you have notifications enabled for new tickets"
  | assignedToMe => "this ticket was assigned to you"
  | assignedToMeUpdated =>
      "this ticket is (or was) assigned to you and you have notifications enabled for updates to " ++
        "your tickets"
  | unassignedUpdated =>
      "this ticket has no assignee and you have notifications enabled for updates to unassigned " ++
        "tickets"
  | assignedToOthersUpdated =>
      "you have notifications enabled for updates to tickets assigned to others"

/-- `Recipient`. -/
structure Recipient where
  userId : String
  email : String
  name : String
  reason : Reason
  deriving DecidableEq, Repr

/-- `StaffEvent`. -/
inductive StaffEvent where
  | newTicket (requesterEmail : String)
  | customerMessage (fromEmail : String) (reopened : Bool)
  | agentReply
  | internalNote
  | statusChanged (old new : TicketStatus)
  | assigned (old new : Option String)
  deriving DecidableEq, Repr

/-- `is_actor`. -/
def isActor (user : StaffUser) : Actor → Bool
  | .user id => user.id == id
  | .email address => user.email == address

/-- `reason_for`. -/
def reasonFor (membership : StaffMembership) (user : StaffUser) (assigneeUserId : Option String) :
    StaffEvent → Option Reason
  | .newTicket _ => if membership.notificationSettings.newTicket then some .newTicket else none
  | .assigned old new =>
      if new = some user.id then
        if membership.notificationSettings.assignedToMe then some .assignedToMe else none
      else if old = some user.id then
        if membership.notificationSettings.assignedToMeUpdated then some .assignedToMeUpdated
        else none
      else none
  | .customerMessage .. | .agentReply | .internalNote | .statusChanged .. =>
      match assigneeUserId with
      | some assignee =>
          if assignee = user.id then
            if membership.notificationSettings.assignedToMeUpdated then some .assignedToMeUpdated
            else none
          else if membership.notificationSettings.assignedToOthersUpdated then
            some .assignedToOthersUpdated
          else none
      | none =>
          if membership.notificationSettings.unassignedUpdated then some .unassignedUpdated else none

/-- `select_recipients`. -/
def selectRecipients (candidates : List (StaffMembership × StaffUser)) (status : TicketStatus)
    (assigneeUserId : Option String) (actor : Actor) (event : StaffEvent) : List Recipient :=
  if status = .deleted then []
  else candidates.filterMap fun (membership, user) =>
    if user.enabled && !isActor user actor then
      (reasonFor membership user assigneeUserId event).map fun reason =>
        ⟨user.id, user.email, user.name, reason⟩
    else none

def maxExcerptChars : ℕ := 4000

/-- `truncate_excerpt`. -/
def truncateExcerpt (s : String) : String :=
  if s.length ≤ maxExcerptChars then s else String.ofList (s.toList.take maxExcerptChars) ++ "…"

/-- `excerpt_line`. -/
def excerptLine (messageBody : Option String) : Option String :=
  messageBody.map fun body =>
    if (trim body).isEmpty then "(no message body)" else truncateExcerpt (trim body)

/-- `headline`. -/
def headline (event : StaffEvent) (actorName : String) (reason : Reason)
    (newAssigneeName : Option String) : String :=
  match event with
  | .newTicket requesterEmail => s!"New ticket from {requesterEmail}"
  | .customerMessage fromEmail false => s!"{fromEmail} replied"
  | .customerMessage fromEmail true => s!"{fromEmail} replied and reopened the ticket"
  | .agentReply => s!"{actorName} replied to the customer"
  | .internalNote => s!"{actorName} added an internal note"
  | .statusChanged old new => match new with
    | .closed => s!"{actorName} closed this ticket"
    | .open =>
        if old = .deleted then s!"{actorName} restored this ticket"
        else s!"{actorName} reopened this ticket"
    | .deleted => s!"{actorName} deleted this ticket"
  | .assigned .. => match reason with
    | .assignedToMe => s!"{actorName} assigned this ticket to you"
    | _ => match newAssigneeName with
      | some name => s!"{actorName} reassigned this ticket to {name}"
      | none => s!"{actorName} unassigned this ticket from you"

/-- `staff_notify::render_html`. -/
def renderStaffHtml (body : String) : String :=
  "<!DOCTYPE html>\n<html><body style=\"font-family:Arial,Helvetica,sans-serif;color:#222\">\n" ++
    "<div>" ++ replaceChar '\n' "<br>\n" (escapeHtml body) ++ "</div>\n</body></html>"

/-- `build_staff_mime`, with the nonce of the `Message-ID`. -/
def buildStaffMime (libs : AppLibs) (inst : Instance) (ticket : Ticket) (recipient : Recipient)
    (headline : String) (excerpt : Option String) (nonce : String) : Mime :=
  let fromDomain := senderDomain libs.systemFrom
  let body := headline ++ "\n" ++
    (match excerpt with
      | some excerpt => "\n" ++ excerpt ++ "\n"
      | none => "") ++
    s!"\nView ticket: {libs.appBaseUrl}/app/tickets/{ticket.id}\n\n" ++
    s!"You're receiving this because {recipient.reason.footerText}. " ++
    s!"Change your notification settings: {libs.appBaseUrl}/app/settings\n" ++
    "Replies to this email are not delivered to the customer."
  { fromName := inst.name, fromAddress := libs.systemFrom, replyTo := libs.systemReplyTo,
    recipients := [recipient.email], ccs := [],
    subject := s!"[{inst.name} #{ticket.number}] {ticket.subject}",
    messageId := nonce ++ "@" ++ fromDomain,
    headers := [("Auto-Submitted", "auto-generated"), ("X-Toolbox-Loop", "1"),
      ("References", s!"<ticket-{ticket.id}@{fromDomain}>")],
    textBody := body, htmlBody := renderStaffHtml body }

/-- `display_name`. -/
def displayName (user : StaffUser) : String :=
  if (trim user.name).isEmpty then user.email else user.name

/-- The display name of a user among the candidates. -/
def candidateName (candidates : List (StaffMembership × StaffUser)) (id : String) :
    Option String :=
  (candidates.find? fun c => c.2.id == id).map fun c => displayName c.2

/-- `actor_display_name`. -/
def actorDisplayName (candidates : List (StaffMembership × StaffUser)) : Actor → String
  | .email address => address
  | .user id => (candidateName candidates id).getD id

/-- What a notice on an event says, the same for all its recipients. -/
structure Notice where
  inst : Instance
  ticket : Ticket
  event : StaffEvent
  actorName : String
  newAssigneeName : Option String
  excerpt : Option String

/-- Mail a notice to the recipients, one after the other. -/
def mailStaff (libs : AppLibs) (notice : Notice) : List Recipient → TicketProg Unit
  | [] => .done ()
  | recipient :: rest => do
      let nonce ← send (.generateNonce 16)
      let text := headline notice.event notice.actorName recipient.reason notice.newAssigneeName
      let mail := buildStaffMime libs notice.inst notice.ticket recipient text notice.excerpt nonce
      let _ ← send (.sendRaw mail [recipient.email] [])
      mailStaff libs notice rest

/-- `get_users`, key by key; `none` if one of them fails. -/
def staffCandidates : List StaffMembership →
    TicketProg (Option (List (StaffMembership × StaffUser)))
  | [] => .done (some [])
  | membership :: rest => do
      match ← send (.getUser membership.userId) with
      | .error _ => return none
      | .ok user =>
          match ← staffCandidates rest with
          | none => return none
          | some candidates =>
              return some (match user with
                | some user => (membership, user) :: candidates
                | none => candidates)

/-- `notify_staff` once the members are loaded. -/
def notifyCandidates (libs : AppLibs) (inst : Instance) (ticket : Ticket)
    (assigneeUserId : Option String) (event : StaffEvent) (actor : Actor)
    (messageBody : Option String) (candidates : List (StaffMembership × StaffUser)) :
    TicketProg Unit :=
  let newAssigneeName := match event with
    | .assigned _ (some id) => candidateName candidates id
    | _ => none
  mailStaff libs
    ⟨inst, ticket, event, actorDisplayName candidates actor, newAssigneeName,
      excerptLine messageBody⟩
    (selectRecipients candidates ticket.status assigneeUserId actor event)

/-- `notify_staff`. -/
def notifyStaff (libs : AppLibs) (ticket : Ticket) (assigneeUserId : Option String)
    (event : StaffEvent) (actor : Actor) (messageBody : Option String) : TicketProg Unit :=
  if ticket.status = .deleted then .done ()
  else do
    match ← send (.getInstance ticket.instanceId) with
    | .ok (some inst) =>
        match ← send (.listMembershipsByInstance ticket.instanceId) with
        | .ok memberships =>
            match ← staffCandidates memberships with
            | some candidates =>
                notifyCandidates libs inst ticket assigneeUserId event actor messageBody candidates
            | none => return ()
        | .error _ => return ()
    | _ => return ()

end Microticket

import Microticket.Routing

/-! # Mail to customers

`outbound.rs`: which address an instance sends from, the reply address that carries a ticket's tag,
the tag in the subject, and the parts of a mail on a ticket.  `Mime` holds what is handed to
`mail_builder`, whose serialization does not fail. -/

namespace Microticket

open RustText

/-- `ticket_subject_tag`. -/
def ticketSubjectTag (slug : String) (number : ℕ) : String := s!"[#{slug}-{number}]"

/-- The slug and the number of a tag, from what follows its `[#`. -/
def tagAt (inner : List Char) : Option (String × ℕ) := do
  let (tag, _) ← splitOnce ']' (String.ofList inner)
  let (slug, number) ← rsplitOnce '-' tag
  if slug.isEmpty then none else
  let number ← parseU64 number
  return (slug, number)

/-- The loop of `parse_subject_tag`: try the tag at every `[#`. -/
def subjectTag : List Char → Option (String × ℕ)
  | [] => none
  | '[' :: '#' :: inner => match tagAt inner with
    | some found => some found
    | none => subjectTag inner
  | _ :: rest => subjectTag rest

/-- `parse_subject_tag`. -/
def parseSubjectTag (subject : String) : Option (String × ℕ) := subjectTag subject.toList

/-- `tag_subject`. -/
def tagSubject (slug : String) (number : ℕ) (subject : String) : String :=
  if (parseSubjectTag subject).isSome then subject
  else ticketSubjectTag slug number ++ " " ++ subject

/-- `Threading`. -/
structure Threading where
  inReplyTo : Option String
  references : Option String
  deriving DecidableEq, Repr

/-- `threading_for`. -/
def threadingFor (messages : List TicketMessage) : Threading :=
  match messages.reverse.findSome? fun m => m.rfcMessageId.map (m, ·) with
  | none => ⟨none, none⟩
  | some (last, rid) =>
      let references := match last.content.references with
        | some existing => if (trim existing).isEmpty then rid else existing ++ " " ++ rid
        | none => rid
      ⟨some rid, some references⟩

/-- `a` comes before `b` in the choice of `primary_inbound_address`. -/
def earlierAddress (a b : InboundAddress) : Bool :=
  a.createdAt < b.createdAt || a.createdAt == b.createdAt && a.address ≤ b.address

/-- The earliest address of a kind; the first of equals. -/
def earliestAddress (kind : AddressKind) (addresses : List InboundAddress) :
    Option InboundAddress :=
  (addresses.filter (·.kind = kind)).foldl (fun best a => match best with
    | none => some a
    | some b => if earlierAddress b a then some b else some a) none

/-- `primary_inbound_address`. -/
def primaryInboundAddress (addresses : List InboundAddress) : Option String :=
  match earliestAddress .exact addresses with
  | some a => some a.address
  | none => do
      let wildcard ← earliestAddress .wildcard addresses
      let domain ← dropStart "*@" wildcard.address
      return "support@" ++ domain

/-- `reply_to_address`. -/
def replyToAddress (debug : String → String) (fromAddress ticketId replyToken : String) :
    Except String String :=
  match splitOnce '@' fromAddress with
  | none => .error s!"{debug fromAddress} is not a valid address (missing '@')"
  | some (localPart, domain) => .ok s!"{localPart}+t{ticketId}.{replyToken}@{domain}"

/-- `escape_html`. -/
def escapeHtml (s : String) : String :=
  replaceChar '"' "&quot;" (replaceChar '>' "&gt;" (replaceChar '<' "&lt;"
    (replaceChar '&' "&amp;" s)))

/-- `render_html`. -/
def renderHtml (body signature : String) : String :=
  "<!DOCTYPE html>\n<html><body style=\"font-family:Arial,Helvetica,sans-serif;color:#222\">\n" ++
    "<div>" ++ replaceChar '\n' "<br>\n" (escapeHtml body) ++ "</div>\n" ++
    (if (trim signature).isEmpty then "" else
      "<div style=\"margin-top:1em;padding-top:0.5em;border-top:1px solid #e5e7eb;color:#555\">" ++
        replaceChar '\n' "<br>\n" (escapeHtml signature) ++ "</div>\n") ++
    "</body></html>"

/-- `render_text`. -/
def renderText (body signature : String) : String :=
  if (trim signature).isEmpty then body else body ++ "\n\n" ++ signature

/-- The domain of a sender. -/
def senderDomain (address : String) : String :=
  ((rsplitOnce '@' address).map Prod.snd).getD "toolbox.invalid"

/-- `build_outbound`, with the nonce of the `Message-ID`. -/
def buildOutbound (lower debug : String → String) (inst : Instance)
    (addresses : List InboundAddress) (ticket : Ticket) (requesterEmails ccEmails : List String)
    (body : String) (threading : Threading) (nonce : String) : Except String Mime :=
  match primaryInboundAddress addresses with
  | none => .error
      s!"instance {debug inst.id} has no inbound address configured to send outbound mail from"
  | some fromAddress =>
      let recipients := requesterEmails.filter fun e => !isOwnAddress lower addresses e
      let ccs := ccEmails.filter fun e => !isOwnAddress lower addresses e
      match replyToAddress debug fromAddress ticket.id ticket.replyToken with
      | .error e => .error e
      | .ok replyTo =>
          if recipients.isEmpty && ccs.isEmpty then
            .error (s!"ticket {debug ticket.id} has no recipients left once this instance's own " ++
              "inbound addresses are excluded")
          else .ok
            { fromName := inst.fromName, fromAddress, replyTo, recipients, ccs,
              subject := tagSubject inst.slug ticket.number ticket.subject,
              messageId := nonce ++ "@" ++ senderDomain fromAddress,
              headers := [("X-Toolbox-Loop", "1")] ++
                (threading.inReplyTo.map fun id => ("In-Reply-To", id)).toList ++
                (threading.references.map fun ids => ("References", ids)).toList,
              textBody := renderText body inst.signature,
              htmlBody := renderHtml body inst.signature }

end Microticket

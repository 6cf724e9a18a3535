import Microticket.Participants
import Microticket.UploadKeys

/-! # What a call stores, says and mails

The contract of every call on tickets (`TicketOp.conducted`), by its own answers:

* a message that it stores is of the kind, the author and the text that the call stands for
  (`Authors`), and it changes only messages that it has stored itself;
* an object is written under the key of such a message, once, and an upload is moved away only from
  the prefix of the ticket's instance;
* a mail goes to people on the ticket and says what the call says to customers, or it goes to an enabled
  member of the ticket's instance whose settings ask for it (`Mailed`). -/

namespace Microticket

open Interleaving RustText

/-! ### Keys of objects -/

theorem attachmentKey_toList (ticketId messageId : String) (index : ℕ) (filename : String) :
    (attachmentKey ticketId messageId index filename).toList = "attachments/".toList ++
      (ticketId.toList ++ '/' :: (messageId.toList ++ '/' ::
        ((toString index).toList ++ '/' :: filename.toList))) := by
  unfold attachmentKey
  simp [toString, String.toList_append]

/-- A list is cut at its first `x` in one way. -/
theorem cons_append_inj {x : Char} {a b m n : List Char} (ha : x ∉ a) (hb : x ∉ b)
    (h : a ++ x :: m = b ++ x :: n) : a = b ∧ m = n := by
  have hspan := congrArg (List.span (· != x)) h
  rw [span_ne_append ha, span_ne_append hb] at hspan
  exact ⟨(Prod.mk.inj hspan).1, (List.cons.inj (Prod.mk.inj hspan).2).2⟩

theorem slash_not_mem (n : ℕ) : '/' ∉ (toString n).toList := not_mem_toString rfl n

/-- The keys of one message differ in their index. -/
theorem attachmentKey_index {ticketId messageId f g : String} {j k : ℕ}
    (h : attachmentKey ticketId messageId j f = attachmentKey ticketId messageId k g) : j = k := by
  have hlists := congrArg String.toList h
  rw [attachmentKey_toList, attachmentKey_toList] at hlists
  have hrest := List.append_cancel_left (List.append_cancel_left hlists)
  have hindex := List.append_cancel_left (List.cons.inj hrest).2
  have hdigits := (cons_append_inj (slash_not_mem j) (slash_not_mem k) (List.cons.inj hindex).2).1
  exact toString_inj (String.toList_injective hdigits)

/-- A key says which ticket and which message it was made for. -/
theorem attachmentKey_inj {t t' m m' f g : String} {j k : ℕ} (ht : '/' ∉ t.toList)
    (ht' : '/' ∉ t'.toList) (hm : '/' ∉ m.toList) (hm' : '/' ∉ m'.toList)
    (h : attachmentKey t m j f = attachmentKey t' m' k g) : t = t' ∧ m = m' := by
  have hlists := congrArg String.toList h
  rw [attachmentKey_toList, attachmentKey_toList] at hlists
  obtain ⟨htickets, hrest⟩ := cons_append_inj ht ht' (List.append_cancel_left hlists)
  obtain ⟨hmessages, -⟩ := cons_append_inj hm hm' hrest
  exact ⟨String.toList_injective htickets, String.toList_injective hmessages⟩

/-- An upload is not under the key of a message. -/
theorem pending_ne_attachmentKey {key instanceId : String}
    (hpending : isPendingKeyForInstance key instanceId) (ticketId messageId : String) (index : ℕ)
    (filename : String) : key ≠ attachmentKey ticketId messageId index filename := by
  rintro rfl
  obtain ⟨rest, hrest⟩ := (isPendingKey_iff.mp hpending).2
  rw [attachmentKey_toList] at hrest
  cases (List.cons.inj hrest).1

theorem pendingKey_ne_attachmentKey (instanceId unique name ticketId messageId : String) (index : ℕ)
    (filename : String) :
    pendingKey instanceId unique name ≠ attachmentKey ticketId messageId index filename := by
  intro h
  have hlists := congrArg String.toList h
  rw [pendingKey_toList, attachmentKey_toList] at hlists
  cases (List.cons.inj hlists).1

/-! ### Objects -/

/-- The request concerns the object: it writes it, moves it, or lets a client write it. -/
def TicketOp.names (key : String) : TicketOp → Bool
  | .putBytes key' _ _ => key' = key
  | .moveObject source target => source = key || target = key
  | .presignPut key' _ => key' = key
  | _ => false

/-- The requests to the object storage, reads apart. -/
def TicketOp.onObjects : TicketOp → Bool
  | .putBytes .. | .moveObject .. | .presignPut .. => true
  | _ => false

theorem names_of_off {op : TicketOp} {key : String} (hop : op.onObjects = false) :
    op.names key = false := by
  cases op
  case putBytes => cases hop
  case moveObject => cases hop
  case presignPut => cases hop
  all_goals rfl

/-- The object of an attachment was stored. -/
def Attachment.Stores (a : Attachment) : TicketEvent → Prop
  | ⟨_, .putBytes key bytes contentType, .ok ()⟩ =>
      key = a.s3Key ∧ bytes.length = a.size ∧ contentType = a.contentType
  | ⟨_, .moveObject _ target, .ok ()⟩ => target = a.s3Key
  | _ => False

/-- The key is one of a message that the program has stored, and was not used before. -/
def FreshKey (i : ℕ) (h : List TicketEvent) (key : String) : Prop :=
  (∃ content m index filename, ⟨i, .createTicketMessage content, .ok m⟩ ∈ h ∧
    key = attachmentKey content.ticketId m.id index filename) ∧ ∀ ev ∈ h, ev.op.names key = false

/-- The attachments are stored, under keys of the message from `n` on. -/
structure Attached (ticketId messageId : String) (n : ℕ) (h : List TicketEvent)
    (stored : List Attachment) : Prop where
  nodup : (stored.map Attachment.s3Key).Nodup
  key : ∀ a ∈ stored, ∃ k, n ≤ k ∧ a.s3Key = attachmentKey ticketId messageId k a.filename
  stores : ∀ a ∈ stored, ∃ ev ∈ h, a.Stores ev

/-! ### Texts -/

/-- What the relay of a mail says. -/
def ParsedMail.relayText (mail : ParsedMail) : String :=
  (mail.bodyText.filter fun b => !(trim b).isEmpty).getD "(no message body)"

/-- What the call says to customers by mail. -/
def TicketCall.customerText (libs : MailLibs) (call : TicketCall) (text : String) : Prop :=
  match call with
  | .submitTicket .. | .submitVerifiedTicket .. => text = acknowledgementBody
  | .replyToTicket _ _ body _ => text = trim body
  | .setTicketStatus _ _ status => ∃ old, statusNoticeBody old status = some text
  | .processRawMessage _ raw _ => ∃ mail, libs.parse raw = some mail ∧ text = mail.relayText
  | _ => False

/-- What the call tells the staff about the ticket: the event, who has caused it, whom the ticket is
assigned to, and the text that is quoted. -/
inductive Notices (libs : MailLibs) (ticket : Ticket) :
    TicketCall → StaffEvent → Actor → Option String → Option String → Prop
  | submitted {email instanceId subject body : String} :
      Notices libs ticket (.submitTicket (some (.requester email instanceId)) subject body)
        (.newTicket email) (.email email) none (some (trim body))
  | verified {tokenId instanceId subject body : String} {recipients cc : List String}
      {people : List String × List String}
      (hpeople : normalizeVerifiedRecipients libs.toAppLibs recipients cc = .ok people) :
      Notices libs ticket
        (.submitVerifiedTicket (some (.apiToken tokenId instanceId)) subject body recipients cc)
        (.newTicket (people.1.headD "")) (.email (people.1.headD "")) none (some (trim body))
  | replied {userId ticketId body : String} {memberships : List Membership} {isSuperuser : Bool}
      {keys : Option (List String)} :
      Notices libs ticket
        (.replyToTicket (some (.user userId memberships isSuperuser)) ticketId body keys)
        .agentReply (.user userId) ticket.assigneeUserId (some (trim body))
  | noted {userId ticketId body : String} {memberships : List Membership} {isSuperuser : Bool} :
      Notices libs ticket
        (.addInternalNote (some (.user userId memberships isSuperuser)) ticketId body)
        .internalNote (.user userId) ticket.assigneeUserId (some (trim body))
  | statusSet {userId ticketId : String} {memberships : List Membership} {isSuperuser : Bool}
      {status : TicketStatus} :
      Notices libs ticket
        (.setTicketStatus (some (.user userId memberships isSuperuser)) ticketId status)
        (.statusChanged ticket.status status) (.user userId) ticket.assigneeUserId none
  | assigned {userId ticketId : String} {memberships : List Membership} {isSuperuser : Bool}
      {assignee : Option String} :
      Notices libs ticket
        (.assignTicket (some (.user userId memberships isSuperuser)) ticketId assignee)
        (.assigned ticket.assigneeUserId assignee) (.user userId) assignee none
  | received {ses sender : String} {raw : List UInt8} {key : Option String} {mail : ParsedMail}
      {event : StaffEvent} (hparse : libs.parse raw = some mail)
      (hfrom : mail.sentBy libs.lower = some sender)
      (hevent : event = .newTicket sender ∨ ∃ reopened, event = .customerMessage sender reopened) :
      Notices libs ticket (.processRawMessage ses raw key) event (.email sender)
        ticket.assigneeUserId (some (mail.bodyText.getD ""))

/-- The calls that store the notice they have mailed. -/
def TicketCall.notifies : TicketCall → Bool
  | .submitTicket .. | .submitVerifiedTicket .. | .setTicketStatus .. => true
  | _ => false

section contract
variable (libs : MailLibs) (i : ℕ) (h : List TicketEvent)

/-- What the call may store as a message. -/
inductive Authors : TicketCall → MessageContent → Prop
  | submitted {email instanceId subject body id : String} :
      Authors (.submitTicket (some (.requester email instanceId)) subject body)
        (submittedContent id (trim body) [email])
  | verified {tokenId instanceId subject body id : String} {recipients cc : List String}
      {people : List String × List String}
      (hpeople : normalizeVerifiedRecipients libs.toAppLibs recipients cc = .ok people) :
      Authors (.submitVerifiedTicket (some (.apiToken tokenId instanceId)) subject body recipients cc)
        (submittedContent id (trim body) people.1)
  | replied {userId ticketId body : String} {memberships : List Membership} {isSuperuser : Bool}
      {keys : Option (List String)} {ticket : Ticket} {threading : Threading} {mail : Mime}
      (hread : ⟨i, .getTicket ticketId, .ok (some ticket)⟩ ∈ h)
      (hmember : isMember memberships ticket.instanceId) :
      Authors (.replyToTicket (some (.user userId memberships isSuperuser)) ticketId body keys)
        (replyContent ticket.id userId (trim body) threading mail)
  | noted {userId ticketId body : String} {memberships : List Membership} {isSuperuser : Bool}
      {ticket : Ticket} (hread : ⟨i, .getTicket ticketId, .ok (some ticket)⟩ ∈ h)
      (hmember : isMember memberships ticket.instanceId) :
      Authors (.addInternalNote (some (.user userId memberships isSuperuser)) ticketId body)
        (noteContent ticket.id userId (trim body))
  | notified {call : TicketCall} {id text : String} {mail : Mime} (hcall : call.notifies)
      (htext : call.customerText libs text) : Authors call (noticeContent id text mail)
  | received {ses id : String} {raw : List UInt8} {key : Option String} {d : Delivery}
      (hparse : libs.parse raw = some d.mail)
      (hfrom : d.mail.sentBy libs.lower = some d.fromNormalized) :
      Authors (.processRawMessage ses raw key) (d.content id)
  | relayed {ses id : String} {raw : List UInt8} {key : Option String} {received : ParsedMail}
      {threading : Threading} {mail : Mime} (hparse : libs.parse raw = some received) :
      Authors (.processRawMessage ses raw key) (relayContent id received.relayText threading mail)

/-- The program was answered with the ticket, and the people are on it. -/
inductive Reaches (ticket : Ticket) (people : List String) : Prop
  | read {key : String} (hread : ⟨i, .getTicket key, .ok (some ticket)⟩ ∈ h)
      (hpeople : people ⊆ ticket.people)
  | opened {instanceId subject : String} {number : ℕ} {requesterEmails ccEmails : List String}
      (hopened : ⟨i, .createTicket instanceId number subject requesterEmails ccEmails,
        .ok ticket⟩ ∈ h)
      (hpeople : people ⊆ requesterEmails ++ ccEmails ∨ people ⊆ ticket.people)

/-- The program was answered with the ticket. -/
def OnTicket (ticketId : String) : Prop := ∃ ticket : Ticket, ticket.id = ticketId ∧ Reaches i h ticket []

/-- What the call may mail. -/
inductive Mailed (call : TicketCall) : Mime → List String → List String → Prop
  | customers {ticket : Ticket} {inst : Instance} {addresses : List InboundAddress}
      {requesterEmails ccEmails : List String} {text nonce : String} {threading : Threading}
      {mail : Mime} (hticket : Reaches i h ticket (requesterEmails ++ ccEmails))
      (hinst : ⟨i, .getInstance ticket.instanceId, .ok (some inst)⟩ ∈ h)
      (haddresses : ⟨i, .listInboundAddressesByInstance inst.id, .ok addresses⟩ ∈ h)
      (htext : call.customerText libs text)
      (hmail : buildOutbound libs.lower libs.debug inst addresses ticket requesterEmails ccEmails text
        threading nonce = .ok mail) : Mailed call mail mail.recipients mail.ccs
  | staff {ticket : Ticket} {status : TicketStatus} {inst : Instance}
      {memberships : List StaffMembership} {membership : StaffMembership} {user : StaffUser}
      {assigneeUserId newAssigneeName text : Option String} {event : StaffEvent} {actor : Actor}
      {actorName nonce : String} {reason : Reason} (hticket : Reaches i h ticket [])
      (hinst : ⟨i, .getInstance ticket.instanceId, .ok (some inst)⟩ ∈ h)
      (hmembers : ⟨i, .listMembershipsByInstance ticket.instanceId, .ok memberships⟩ ∈ h)
      (hmembership : membership ∈ memberships)
      (huser : ⟨i, .getUser membership.userId, .ok (some user)⟩ ∈ h) (henabled : user.enabled)
      (hactor : isActor user actor = false)
      (hreason : reasonFor membership user assigneeUserId event = some reason)
      (hstatus : status ≠ .deleted)
      (hnotices : Notices libs ticket call event actor assigneeUserId text) :
      Mailed call (buildStaffMime libs.toAppLibs inst { ticket with status }
        ⟨user.id, user.email, user.name, reason⟩ (headline event actorName reason newAssigneeName)
        (excerptLine text) nonce) [user.email] []

/-- What the call has been answered before the request. -/
def TicketOp.conducted (call : TicketCall) : TicketOp → Prop
  | .createTicketMessage content => Authors libs i h call content ∧ OnTicket i h content.ticketId
  | .updateTicketMessage id change => ∃ content m, ⟨i, .createTicketMessage content, .ok m⟩ ∈ h ∧
      m.id = id ∧ ∀ stored, change = .setAttachments stored →
        Attached content.ticketId m.id 0 h stored
  | .putBytes key _ _ => FreshKey i h key
  | .moveObject source target => FreshKey i h target ∧ ∃ key ticket,
      ⟨i, .getTicket key, .ok (some ticket)⟩ ∈ h ∧ isPendingKeyForInstance source ticket.instanceId
  | .presignPut key _ => ∃ instanceId unique filename, key = pendingKey instanceId unique filename
  | .sendRaw mail recipients ccs => Mailed libs i h call mail recipients ccs
  | _ => True

end contract

/-- The requests that the contract does not restrict. -/
def TicketOp.neutral : TicketOp → Bool
  | .createTicketMessage _ | .updateTicketMessage .. | .putBytes .. | .moveObject ..
  | .presignPut .. | .sendRaw .. => false
  | _ => true

/-- The program has sent nothing to the object storage. -/
def OffObjects (h : List TicketEvent) : Prop := ∀ ev ∈ h, ev.op.onObjects = false

/-- The requests of a program for `call` keep the contract. -/
abbrev Conducted {α : Type} (libs : MailLibs) (call : TicketCall) (i : ℕ) (p : TicketProg α)
    (h : List TicketEvent) : Prop :=
  Sends i (fun h op => op.conducted libs i h call) (fun _ _ => True) p h

section basics
variable {libs : MailLibs} {call : TicketCall} {i : ℕ} {h h' : List TicketEvent} {α β : Type}

theorem TicketOp.conducted_of_neutral {op : TicketOp} (hop : op.neutral) :
    op.conducted libs i h call := by
  cases op <;> trivial

theorem TicketOp.off_of_neutral {op : TicketOp} (hop : op.neutral) : op.onObjects = false := by
  cases op <;> first | rfl | cases hop

theorem OffObjects.concat {ev : TicketEvent} (hoff : OffObjects h) (hev : ev.op.onObjects = false) :
    OffObjects (h ++ [ev]) := by
  intro ev' hmem
  rcases List.mem_append.mp hmem with hmem | hmem
  · exact hoff ev' hmem
  · rw [List.mem_singleton.mp hmem]
    exact hev

theorem conducted_of_neutral {p : TicketProg α} (hp : p.All fun op => op.neutral) :
    Conducted libs call i p h :=
  Sends.of_all hp TicketOp.conducted_of_neutral

/-- A part that neither stores nor mails. -/
theorem conducted_next {p : TicketProg α} {f : α → TicketProg β} (hp : p.All fun op => op.neutral)
    (hoff : OffObjects h) (hf : ∀ a h', h ⊆ h' → OffObjects h' → Conducted libs call i (f a) h') :
    Conducted libs call i (p >>= f) h := by
  have hkeeps : Sends i (fun h op => op.conducted libs i h call) (fun _ h' => OffObjects h') p h :=
    Sends.keeps hp (fun hop _ => TicketOp.conducted_of_neutral hop)
      (fun hop hoff => hoff.concat (TicketOp.off_of_neutral hop)) hoff
  exact hkeeps.grown.bind (fun a h' hr => hf a h' hr.2 hr.1) fun _ _ _ => trivial

theorem subset_concat_two (a b : TicketEvent) : h ⊆ h ++ [a] ++ [b] :=
  List.Subset.trans (List.subset_append_left _ _) (List.subset_append_left _ _)

theorem Reaches.mono {ticket : Ticket} {people : List String} (hsub : h ⊆ h')
    (hr : Reaches i h ticket people) : Reaches i h' ticket people := by
  cases hr with
  | read hread hpeople => exact .read (hsub hread) hpeople
  | opened hopened hpeople => exact .opened (hsub hopened) hpeople

theorem OnTicket.mono {ticketId : String} (hsub : h ⊆ h') (hon : OnTicket i h ticketId) :
    OnTicket i h' ticketId := by
  obtain ⟨ticket, hid, hr⟩ := hon
  exact ⟨ticket, hid, hr.mono hsub⟩

theorem Reaches.fewer {ticket : Ticket} {people people' : List String} (hsub : people' ⊆ people)
    (hr : Reaches i h ticket people) : Reaches i h ticket people' := by
  cases hr with
  | read hread hpeople => exact .read hread (List.Subset.trans hsub hpeople)
  | opened hopened hpeople =>
      exact .opened hopened (hpeople.imp (List.Subset.trans hsub) (List.Subset.trans hsub))

theorem Reaches.less {ticket : Ticket} {people : List String} (hr : Reaches i h ticket people) :
    Reaches i h ticket [] :=
  hr.fewer (List.nil_subset _)

theorem Reaches.on {ticket : Ticket} {people : List String} (hr : Reaches i h ticket people) :
    OnTicket i h ticket.id := ⟨ticket, rfl, hr.less⟩

theorem Reaches.of_read {key : String} {ticket : Ticket}
    (hread : ⟨i, .getTicket key, .ok (some ticket)⟩ ∈ h) : Reaches i h ticket ticket.people :=
  .read hread (List.Subset.refl _)

end basics

/-! ### Notices -/

section notices
variable {libs : MailLibs} {call : TicketCall} {i : ℕ} {h : List TicketEvent}

/-- The candidates are members with their users, as they were read. -/
theorem sends_staffCandidates {G : List TicketEvent → TicketOp → Prop}
    (hG : ∀ {h id}, G h (.getUser id)) (memberships : List StaffMembership) (h : List TicketEvent) :
    Sends i G (fun r h' => ∀ candidates, r = .ok (some candidates) → ∀ c ∈ candidates,
        c.1 ∈ memberships ∧ ⟨i, .getUser c.1.userId, .ok (some c.2)⟩ ∈ h')
      (staffCandidates memberships) h := by
  induction memberships generalizing h with
  | nil =>
      rintro _ ⟨⟩ c hc
      cases hc
  | cons membership rest ih =>
      refine ⟨hG, fun r => ?_⟩
      rcases r with e | user
      · rintro _ ⟨⟩
      · refine ((ih _).grown).bind (fun found h' hfound => ?_) fun _ _ _ => by rintro _ ⟨⟩
        obtain ⟨hfound, hsub⟩ := hfound
        cases found with
        | none => rintro _ ⟨⟩
        | some candidates =>
            have hrest : ∀ c ∈ candidates, c.1 ∈ membership :: rest ∧
                ⟨i, .getUser c.1.userId, .ok (some c.2)⟩ ∈ h' := fun c hc =>
              ⟨List.mem_cons_of_mem _ (hfound candidates rfl c hc).1, (hfound candidates rfl c hc).2⟩
            cases user with
            | none =>
                rintro _ ⟨⟩
                exact hrest
            | some user =>
                rintro _ ⟨⟩ c hc
                rcases List.mem_cons.mp hc with rfl | hc
                · exact ⟨List.mem_cons_self, hsub List.mem_concat_self⟩
                · exact hrest c hc

/-- A recipient is an enabled candidate, other than the actor, whose settings ask for the notice. -/
theorem mem_selectRecipients {candidates : List (StaffMembership × StaffUser)} {status : TicketStatus}
    {assigneeUserId : Option String} {actor : Actor} {event : StaffEvent} {recipient : Recipient}
    (hmem : recipient ∈ selectRecipients candidates status assigneeUserId actor event) :
    ∃ c ∈ candidates, c.2.enabled ∧ isActor c.2 actor = false ∧
      ∃ reason, reasonFor c.1 c.2 assigneeUserId event = some reason ∧
        recipient = ⟨c.2.id, c.2.email, c.2.name, reason⟩ := by
  unfold selectRecipients at hmem
  split at hmem
  · cases hmem
  obtain ⟨c, hc, hsome⟩ := List.mem_filterMap.mp hmem
  obtain ⟨membership, user⟩ := c
  refine ⟨(membership, user), hc, ?_⟩
  dsimp only at hsome
  split at hsome
  · rename_i htest
    rw [Bool.and_eq_true, Bool.not_eq_true'] at htest
    obtain ⟨reason, hreason, heq⟩ := Option.map_eq_some_iff.mp hsome
    exact ⟨htest.1, htest.2, reason, hreason, heq.symm⟩
  · cases hsome

theorem conducted_mailStaff {notice : Notice} {recipients : List Recipient}
    (hmailed : ∀ recipient ∈ recipients, ∀ nonce h', h ⊆ h' →
      Mailed libs i h' call (buildStaffMime libs.toAppLibs notice.inst notice.ticket recipient
        (headline notice.event notice.actorName recipient.reason notice.newAssigneeName)
        notice.excerpt nonce) [recipient.email] []) :
    Conducted libs call i (mailStaff libs.toAppLibs notice recipients) h := by
  induction recipients generalizing h with
  | nil => trivial
  | cons recipient rest ih =>
      refine ⟨trivial, fun nonce => ⟨?_, fun _ => ih fun recipient' hmem nonce' h' hsub => ?_⟩⟩
      · exact hmailed recipient List.mem_cons_self nonce _ (List.subset_append_left _ _)
      · refine hmailed recipient' (List.mem_cons_of_mem _ hmem) nonce' h' ?_
        exact List.Subset.trans (subset_concat_two _ _) hsub

theorem conducted_notifyStaff {ticket : Ticket} (status : TicketStatus)
    {assigneeUserId text : Option String} {event : StaffEvent} {actor : Actor}
    (hticket : Reaches i h ticket [])
    (hnotices : Notices libs ticket call event actor assigneeUserId text) :
    Conducted libs call i
      (notifyStaff libs.toAppLibs { ticket with status } assigneeUserId event actor text) h := by
  unfold notifyStaff
  split
  · trivial
  rename_i hstatus
  refine ⟨trivial, fun r => ?_⟩
  rcases r with e | _ | inst
  · trivial
  · trivial
  refine ⟨trivial, fun r => ?_⟩
  rcases r with e | memberships
  · trivial
  refine (sends_staffCandidates trivial memberships _).grown.bind (fun found h' hfound => ?_)
    fun _ _ _ => trivial
  obtain ⟨hfound, hsub⟩ := hfound
  cases found with
  | none => trivial
  | some candidates =>
      refine conducted_mailStaff fun recipient hmem nonce h'' hsub' => ?_
      obtain ⟨c, hc, henabled, hactor, reason, hreason, rfl⟩ := mem_selectRecipients hmem
      obtain ⟨hmembership, huser⟩ := hfound candidates rfl c hc
      have hall := List.Subset.trans hsub hsub'
      refine .staff (hticket.mono ?_) (hall ?_) (hall ?_) hmembership (hsub' huser) henabled hactor
        hreason hstatus hnotices
      · exact List.Subset.trans (subset_concat_two _ _) hall
      · exact List.mem_append_left _ List.mem_concat_self
      · exact List.mem_concat_self

theorem conducted_mailNotice {ticketId text : String} {mail : Mime} (hcall : call.notifies)
    (htext : call.customerText libs text) (hon : OnTicket i h ticketId)
    (hmailed : Mailed libs i h call mail mail.recipients mail.ccs) :
    Conducted libs call i (mailNotice ticketId text mail) h := by
  refine ⟨hmailed, fun r => ?_⟩
  rcases r with e | rfcMessageId
  · trivial
  refine ⟨⟨.notified hcall htext, OnTicket.mono (List.subset_append_left _ _) hon⟩, fun r => ?_⟩
  rcases r with e | message
  · trivial
  exact ⟨⟨_, message, List.mem_concat_self, rfl, fun stored heq => by cases heq⟩, fun _ => trivial⟩

theorem conducted_sendSystemNotification {ticket : Ticket} {requesterEmails ccEmails : List String}
    {text : String} (hticket : Reaches i h ticket (requesterEmails ++ ccEmails))
    (hcall : call.notifies) (htext : call.customerText libs text) :
    Conducted libs call i
      (sendSystemNotification libs.toAppLibs ticket requesterEmails ccEmails text) h := by
  refine ⟨trivial, fun r => ?_⟩
  rcases r with e | _ | inst
  · trivial
  · trivial
  refine ⟨trivial, fun r => ?_⟩
  rcases r with e | addresses
  · trivial
  refine ⟨trivial, fun nonce => ?_⟩
  dsimp only [bind, Prog.bind]
  split
  · trivial
  · rename_i mail hmail
    have hticket' := hticket.mono fun ev hev =>
      List.mem_append_left [⟨i, .generateNonce 16, nonce⟩] (List.mem_append_left
        [⟨i, .listInboundAddressesByInstance inst.id, .ok addresses⟩] (List.mem_append_left
          [⟨i, .getInstance ticket.instanceId, .ok (some inst)⟩] hev))
    refine conducted_mailNotice hcall htext hticket'.on (.customers hticket' ?_ ?_ htext hmail)
    · exact List.mem_append_left _ (List.mem_append_left _ List.mem_concat_self)
    · exact List.mem_append_left _ List.mem_concat_self

end notices

/-! ### Mutations -/

section mutations
variable {libs : MailLibs} {call : TicketCall} {i : ℕ} {h : List TicketEvent}
variable {auth : Option AuthInfo} {α β : Type}

theorem offObjects_nil : OffObjects [] := fun ev hev => by cases hev

/-- A part that neither stores nor mails, where it does not matter what was stored before. -/
theorem conducted_then {p : TicketProg α} {f : α → TicketProg β} (hp : p.All fun op => op.neutral)
    (hf : ∀ a h', h ⊆ h' → Conducted libs call i (f a) h') : Conducted libs call i (p >>= f) h :=
  (conducted_of_neutral hp).next hf

theorem neutral_requireLiveInstance (instanceId : String) :
    (requireLiveInstance instanceId).All fun op => op.neutral := by
  refine Prog.All.bind (all_require ⟨rfl, fun _ => trivial⟩) fun inst => ?_
  exact Prog.all_ofOption _ _

/-- The notices after a ticket was opened. -/
theorem conducted_submitted {ticket : Ticket} {requesterEmails ccEmails : List String}
    {submitter body : String} {reply : Reply}
    (hticket : Reaches i h ticket (requesterEmails ++ ccEmails)) (hcall : call.notifies)
    (htext : call.customerText libs acknowledgementBody)
    (hnotices : Notices libs ticket call (.newTicket submitter) (.email submitter) none (some body)) :
    Conducted libs call i (do
      sendSystemNotification libs.toAppLibs ticket requesterEmails ccEmails acknowledgementBody
      notifyStaff libs.toAppLibs ticket none (.newTicket submitter) (.email submitter) (some body)
      return reply : TicketProg Reply) h := by
  refine (conducted_sendSystemNotification hticket hcall htext).next fun _ h₁ hsub => ?_
  refine Sends.next ?_ fun _ _ _ => trivial
  exact conducted_notifyStaff ticket.status (hticket.mono hsub).less hnotices

/-- Opening a ticket, and what follows. -/
theorem conducted_openSubmittedTicket {inst : Instance} {subject body : String}
    {requesterEmails ccEmails : List String} {f : Ticket → TicketProg Reply}
    (hauthors : ∀ h id, Authors libs i h call (submittedContent id body requesterEmails))
    (hf : ∀ ticket h, Reaches i h ticket (requesterEmails ++ ccEmails) →
      Conducted libs call i (f ticket) h) :
    Conducted libs call i
      (openSubmittedTicket inst subject body requesterEmails ccEmails >>= f) h := by
  refine ⟨trivial, fun r => ?_⟩
  rcases r with e | number
  · trivial
  refine ⟨trivial, fun r => ?_⟩
  rcases r with e | ticket
  · trivial
  refine ⟨⟨hauthors _ _, ticket, rfl, .opened List.mem_concat_self (.inl (List.nil_subset _))⟩,
    fun r => ?_⟩
  rcases r with e | message
  · trivial
  refine hf ticket _ (.opened (List.mem_append_left _ List.mem_concat_self) (.inl ?_))
  exact List.Subset.refl _

theorem conducted_submitTicket (subject body : String) :
    Conducted libs (.submitTicket auth subject body) i
      (submitTicket libs.toAppLibs auth subject body) [] := by
  have hauthors : ∀ email instanceId h id, Authors libs i h
      (.submitTicket (some (.requester email instanceId)) subject body)
      (submittedContent id (trim body) [email]) := fun _ _ _ _ => .submitted
  have hnotices : ∀ email instanceId ticket, Notices libs ticket
      (.submitTicket (some (.requester email instanceId)) subject body) (.newTicket email)
      (.email email) none (some (trim body)) := fun _ _ _ => .submitted
  unfold submitTicket
  generalize trim body = text at hauthors hnotices ⊢
  generalize trim subject = title
  split
  · rename_i email instanceId
    refine Sends.ensure (fun _ => ?_) fun _ => trivial
    refine Sends.ensure (fun _ => ?_) fun _ => trivial
    refine conducted_then (neutral_requireLiveInstance _) fun inst h _ => ?_
    refine conducted_openSubmittedTicket (hauthors email instanceId) fun ticket h hticket => ?_
    exact conducted_submitted hticket rfl rfl (hnotices email instanceId ticket)
  · trivial

theorem conducted_submitVerifiedTicket (subject body : String) (recipients cc : List String) :
    Conducted libs (.submitVerifiedTicket auth subject body recipients cc) i
      (submitVerifiedTicket libs.toAppLibs auth subject body recipients cc) [] := by
  have hauthors : ∀ tokenId instanceId people,
      normalizeVerifiedRecipients libs.toAppLibs recipients cc = .ok people → ∀ h id,
      Authors libs i h
        (.submitVerifiedTicket (some (.apiToken tokenId instanceId)) subject body recipients cc)
        (submittedContent id (trim body) people.1) := fun _ _ _ hpeople _ _ => .verified hpeople
  have hnotices : ∀ tokenId instanceId people,
      normalizeVerifiedRecipients libs.toAppLibs recipients cc = .ok people → ∀ ticket,
      Notices libs ticket
        (.submitVerifiedTicket (some (.apiToken tokenId instanceId)) subject body recipients cc)
        (.newTicket (people.1.headD "")) (.email (people.1.headD "")) none (some (trim body)) :=
    fun _ _ _ hpeople _ => .verified hpeople
  unfold submitVerifiedTicket
  generalize trim body = text at hauthors hnotices ⊢
  generalize trim subject = title
  split
  · rename_i tokenId instanceId
    refine Sends.ensure (fun _ => ?_) fun _ => trivial
    refine Sends.ensure (fun _ => ?_) fun _ => trivial
    refine Sends.ofExcept (fun people hpeople => ?_) fun _ _ => trivial
    refine conducted_then (neutral_requireLiveInstance _) fun inst h _ => ?_
    refine conducted_then (all_require ⟨rfl, fun _ => trivial⟩) fun addresses h _ => ?_
    generalize (people.1 ++ people.2).find? _ = own
    cases own with
    | some own => trivial
    | none =>
        refine conducted_openSubmittedTicket (hauthors tokenId instanceId people hpeople)
          fun ticket h hticket => ?_
        exact conducted_submitted hticket rfl rfl (hnotices tokenId instanceId people hpeople ticket)
  · trivial

/-- A mutation of a ticket by a member of its instance begins with the read of the ticket. -/
theorem conducted_member {ticketId : String} {f : Ticket → TicketProg Reply}
    (hf : ∀ userId memberships isSuperuser ticket,
      auth = some (.user userId memberships isSuperuser) → isMember memberships ticket.instanceId →
      Conducted libs call i (f ticket) [⟨i, .getTicket ticketId, .ok (some ticket)⟩]) :
    Conducted libs call i
      (guardAuthenticated auth >>= fun _ => requireTicketMember auth ticketId >>= f) [] := by
  have hmember : ∀ ticket h, Sends i (fun h op => op.conducted libs i h call)
      (fun r h' => ∀ ticket', r = .ok ticket' → ticket' = ticket ∧ h' = h ∧
        ∃ userId memberships isSuperuser, auth = some (.user userId memberships isSuperuser) ∧
          isMember memberships ticket.instanceId) (memberOfTicket ticketId ticket auth) h := by
    intro ticket h
    unfold memberOfTicket
    split
    · rename_i userId memberships isSuperuser
      refine Sends.ensure (fun hmember => ?_) fun _ => by rintro _ ⟨⟩
      rintro _ ⟨⟩
      exact ⟨rfl, rfl, userId, memberships, isSuperuser, rfl, hmember⟩
    · rintro _ ⟨⟩
  have hread : Conducted libs call i (requireTicketMember auth ticketId >>= f) [] := by
    refine ⟨trivial, fun r => ?_⟩
    rcases r with e | _ | ticket
    · trivial
    · trivial
    · refine (hmember ticket _).bind (fun ticket' h hres => ?_) fun _ _ _ => trivial
      obtain ⟨rfl, rfl, userId, memberships, isSuperuser, hauth, hm⟩ := hres ticket' rfl
      exact hf userId memberships isSuperuser ticket' hauth hm
  unfold guardAuthenticated
  split
  · exact hread
  · exact hread
  · trivial

theorem conducted_createAttachmentUpload (ticketId filename contentType : String) :
    Conducted libs call i (createAttachmentUpload auth ticketId filename contentType) [] := by
  refine conducted_member fun userId memberships isSuperuser ticket _ _ => ?_
  refine Sends.next (p := send .newId) ⟨trivial, fun _ => trivial⟩ fun unique h _ => ?_
  refine ⟨⟨_, _, _, rfl⟩, fun r => ?_⟩
  cases r <;> trivial

theorem conducted_userId {userId : String} {memberships : List Membership} {isSuperuser : Bool}
    {f : String → TicketProg Reply} (hf : Conducted libs call i (f userId) h) :
    Conducted libs call i (requireUserId (some (.user userId memberships isSuperuser)) >>= f) h := hf

theorem conducted_addInternalNote (ticketId body : String) :
    Conducted libs (.addInternalNote auth ticketId body) i
      (addInternalNote libs.toAppLibs auth ticketId body) [] := by
  have hauthors : ∀ userId memberships isSuperuser ticket h,
      ⟨i, .getTicket ticketId, .ok (some ticket)⟩ ∈ h → isMember memberships ticket.instanceId →
      Authors libs i h (.addInternalNote (some (.user userId memberships isSuperuser)) ticketId body)
        (noteContent ticket.id userId (trim body)) :=
    fun _ _ _ _ _ hread hmember => .noted hread hmember
  have hnotices : ∀ userId memberships isSuperuser ticket, Notices libs ticket
      (.addInternalNote (some (.user userId memberships isSuperuser)) ticketId body)
      .internalNote (.user userId) ticket.assigneeUserId (some (trim body)) := fun _ _ _ _ => .noted
  unfold addInternalNote
  generalize trim body = text at hauthors hnotices ⊢
  refine conducted_member fun userId memberships isSuperuser ticket hauth hmember => ?_
  subst hauth
  refine conducted_userId (Sends.ensure (fun _ => ?_) fun _ => trivial)
  have hread := List.mem_singleton_self (⟨i, .getTicket ticketId, .ok (some ticket)⟩ : TicketEvent)
  refine ⟨⟨hauthors _ _ _ _ _ hread hmember, (Reaches.of_read hread).on⟩, fun r => ?_⟩
  rcases r with e | message
  · trivial
  refine conducted_then (p := send .clock) ⟨rfl, fun _ => trivial⟩ fun now h₁ hsub₁ => ?_
  refine conducted_then (all_require ⟨rfl, fun _ => trivial⟩) fun _ h₂ hsub₂ => ?_
  refine Sends.next ?_ fun _ _ _ => trivial
  have hticket := Reaches.of_read (hsub₂ (hsub₁ (List.mem_append_left _ hread)))
  exact conducted_notifyStaff ticket.status hticket.less (hnotices _ _ _ ticket)

theorem conducted_setTicketStatus (ticketId : String) (status : TicketStatus) :
    Conducted libs (.setTicketStatus auth ticketId status) i
      (setTicketStatus libs.toAppLibs auth ticketId status) [] := by
  refine conducted_member fun userId memberships isSuperuser ticket hauth hmember => ?_
  subst hauth
  refine conducted_userId ?_
  split
  · trivial
  refine conducted_then (p := send .clock) ⟨rfl, fun _ => trivial⟩ fun now h₁ hsub₁ => ?_
  refine conducted_then (all_require ⟨rfl, fun _ => trivial⟩) fun _ h₂ hsub₂ => ?_
  have hticket : Reaches i h₂ ticket (ticket.requesterEmails ++ ticket.ccEmails) :=
    .read (hsub₂ (hsub₁ List.mem_cons_self)) (List.Subset.refl _)
  refine Sends.next ?_ fun _ h₃ hsub₃ => ?_
  · unfold noticeOfStatus
    split
    · rename_i text htext
      exact conducted_sendSystemNotification hticket rfl ⟨_, htext⟩
    · trivial
  · refine Sends.next ?_ fun _ _ _ => trivial
    unfold staffNoticeOfStatus
    split
    · trivial
    · exact conducted_notifyStaff status (hticket.mono hsub₃).less .statusSet

theorem conducted_assignTicket (ticketId : String) (userId : Option String) :
    Conducted libs (.assignTicket auth ticketId userId) i
      (assignTicket libs.toAppLibs auth ticketId userId) [] := by
  refine conducted_member fun actorId memberships isSuperuser ticket hauth hmember => ?_
  subst hauth
  refine conducted_userId ?_
  have hneutral : (requireAssignee ticket userId).All fun op => op.neutral := by
    cases userId with
    | none => trivial
    | some userId =>
        exact Prog.All.bind (all_require ⟨rfl, fun _ => trivial⟩) fun _ => Prog.all_ensure _ _
  refine conducted_then hneutral fun _ h₁ hsub₁ => ?_
  refine conducted_then (p := send .clock) ⟨rfl, fun _ => trivial⟩ fun now h₂ hsub₂ => ?_
  refine conducted_then (all_require ⟨rfl, fun _ => trivial⟩) fun _ h₃ hsub₃ => ?_
  refine Sends.next ?_ fun _ _ _ => trivial
  unfold staffNoticeOfAssignee
  split
  · trivial
  · have hticket := Reaches.of_read (hsub₃ (hsub₂ (hsub₁ (List.mem_singleton_self _))))
    exact conducted_notifyStaff ticket.status hticket.less .assigned

theorem conducted_editPeople {ticketId email : String} {check : Ticket → String → TicketProg Unit}
    {change : String → ℕ → TicketUpdateShape} {result : Ticket → String → Ticket}
    (hcheck : ∀ ticket email, (check ticket email).All fun op => op.neutral) :
    Conducted libs call i (editPeople libs.toAppLibs auth ticketId email check change result) [] := by
  refine conducted_member fun userId memberships isSuperuser ticket _ _ => conducted_of_neutral ?_
  refine (Prog.all_ofExcept _).bind fun email => (hcheck ticket email).bind fun _ => ?_
  refine Prog.All.bind (p := send .clock) ⟨rfl, fun _ => trivial⟩ fun now => ?_
  exact Prog.All.bind (all_require ⟨rfl, fun _ => trivial⟩) fun _ => trivial

theorem conducted_addInboundAddress (instanceId address : String) :
    Conducted libs call i (addInboundAddress libs.toAppLibs auth instanceId address) [] := by
  refine conducted_of_neutral ((all_guardInstanceOwnerOrSuperuser instanceId).bind fun _ => ?_)
  refine (neutral_requireLiveInstance _).bind fun _ => (Prog.all_ofExcept _).bind fun key => ?_
  refine Prog.All.bind (all_require ⟨rfl, fun _ => trivial⟩) fun row => ?_
  cases row with
  | some existing => trivial
  | none => exact Prog.All.bind (all_require ⟨rfl, fun _ => trivial⟩) fun _ => trivial

theorem conducted_removeInboundAddress (instanceId address : String) :
    Conducted libs call i (removeInboundAddress libs.toAppLibs auth instanceId address) [] := by
  refine conducted_of_neutral ((all_guardInstanceOwnerOrSuperuser instanceId).bind fun _ => ?_)
  refine Prog.All.bind (all_require ⟨rfl, fun _ => trivial⟩) fun row => ?_
  refine (Prog.all_ofOption _ _).bind fun existing => ?_
  exact Prog.All.bind (all_require ⟨rfl, fun _ => trivial⟩) fun _ => trivial

end mutations

/-! ### Objects of a message -/

section objects
variable {libs : MailLibs} {call : TicketCall} {i : ℕ} {h h' : List TicketEvent} {ev : TicketEvent}
variable {ticketId messageId : String} {n : ℕ} {stored : List Attachment}

/-- The message is one that the program has stored on the ticket. -/
def OwnMessage (i : ℕ) (h : List TicketEvent) (ticketId messageId : String) : Prop :=
  ∃ content m, ⟨i, .createTicketMessage content, .ok m⟩ ∈ h ∧ content.ticketId = ticketId ∧
    m.id = messageId

theorem OwnMessage.mono (hown : OwnMessage i h ticketId messageId) (hsub : h ⊆ h') :
    OwnMessage i h' ticketId messageId := by
  obtain ⟨content, m, hev, hticket, hid⟩ := hown
  exact ⟨content, m, hsub hev, hticket, hid⟩

/-- The keys of the message from `n` on were not used. -/
def UnusedFrom (ticketId messageId : String) (n : ℕ) (h : List TicketEvent) : Prop :=
  ∀ k filename, n ≤ k → ∀ ev ∈ h, ev.op.names (attachmentKey ticketId messageId k filename) = false

theorem OffObjects.unused (hoff : OffObjects h) : UnusedFrom ticketId messageId n h :=
  fun _ _ _ ev hev => names_of_off (hoff ev hev)

theorem UnusedFrom.next (hunused : UnusedFrom ticketId messageId n h) :
    UnusedFrom ticketId messageId (n + 1) h :=
  fun k filename hk => hunused k filename (Nat.le_of_succ_le hk)

theorem UnusedFrom.concat (hunused : UnusedFrom ticketId messageId n h)
    (hev : ∀ k filename, n ≤ k → ev.op.names (attachmentKey ticketId messageId k filename) = false) :
    UnusedFrom ticketId messageId n (h ++ [ev]) := by
  intro k filename hk ev' hmem
  rcases List.mem_append.mp hmem with hmem | hmem
  · exact hunused k filename hk ev' hmem
  · rw [List.mem_singleton.mp hmem]
    exact hev k filename hk

theorem OwnMessage.fresh (hown : OwnMessage i h ticketId messageId)
    (hunused : UnusedFrom ticketId messageId n h) (filename : String) :
    FreshKey i h (attachmentKey ticketId messageId n filename) := by
  obtain ⟨content, m, hev, rfl, rfl⟩ := hown
  exact ⟨⟨content, m, n, filename, hev, rfl⟩, hunused n filename (Nat.le_refl n)⟩

namespace Attached

theorem nil : Attached ticketId messageId n h [] where
  nodup := List.nodup_nil
  key _ ha := by cases ha
  stores _ ha := by cases ha

theorem next (hs : Attached ticketId messageId (n + 1) h stored) :
    Attached ticketId messageId n h stored where
  nodup := hs.nodup
  key a ha := by
    obtain ⟨k, hk, hkey⟩ := hs.key a ha
    exact ⟨k, Nat.le_of_succ_le hk, hkey⟩
  stores := hs.stores

theorem mono (hs : Attached ticketId messageId n h stored) (hsub : h ⊆ h') :
    Attached ticketId messageId n h' stored where
  nodup := hs.nodup
  key := hs.key
  stores a ha := by
    obtain ⟨ev, hev, hstores⟩ := hs.stores a ha
    exact ⟨ev, hsub hev, hstores⟩

theorem cons {a : Attachment} (hs : Attached ticketId messageId (n + 1) h stored)
    (hkey : a.s3Key = attachmentKey ticketId messageId n a.filename) (hev : ev ∈ h)
    (hstores : a.Stores ev) : Attached ticketId messageId n h (a :: stored) where
  nodup := by
    refine List.nodup_cons.mpr ⟨fun hmem => ?_, hs.nodup⟩
    obtain ⟨b, hb, heq⟩ := List.mem_map.mp hmem
    obtain ⟨k, hk, hbkey⟩ := hs.key b hb
    rw [hbkey, hkey] at heq
    have := attachmentKey_index heq
    omega
  key b hb := by
    rcases List.mem_cons.mp hb with rfl | hb
    · exact ⟨n, Nat.le_refl n, hkey⟩
    · exact hs.next.key b hb
  stores b hb := by
    rcases List.mem_cons.mp hb with rfl | hb
    · exact ⟨ev, hev, hstores⟩
    · exact hs.stores b hb

end Attached

/-- Stamping the attachments onto the message. -/
theorem OwnMessage.stamp (hown : OwnMessage i h ticketId messageId)
    (hs : Attached ticketId messageId 0 h stored) :
    (TicketOp.updateTicketMessage messageId (.setAttachments stored)).conducted libs i h call := by
  obtain ⟨content, m, hev, rfl, rfl⟩ := hown
  refine ⟨content, m, hev, rfl, ?_⟩
  rintro _ ⟨⟩
  exact hs

/-- Another change of the message. -/
theorem OwnMessage.change (hown : OwnMessage i h ticketId messageId)
    {change : TicketMessageUpdateShape} (hchange : ∀ stored, change ≠ .setAttachments stored) :
    (TicketOp.updateTicketMessage messageId change).conducted libs i h call := by
  obtain ⟨content, m, hev, rfl, rfl⟩ := hown
  exact ⟨content, m, hev, rfl, fun stored heq => absurd heq (hchange stored)⟩

theorem Mailed.mono {mail : Mime} {recipients ccs : List String} (hsub : h ⊆ h')
    (hm : Mailed libs i h call mail recipients ccs) : Mailed libs i h' call mail recipients ccs := by
  cases hm with
  | customers hticket hinst haddresses htext hmail =>
      exact .customers (hticket.mono hsub) (hsub hinst) (hsub haddresses) htext hmail
  | staff hticket hinst hmembers hmembership huser henabled hactor hreason hstatus hnotices =>
      exact .staff (hticket.mono hsub) (hsub hinst) (hsub hmembers) hmembership (hsub huser) henabled
        hactor hreason hstatus hnotices

end objects

/-! ### Replies -/

section replies
variable {libs : MailLibs} {call : TicketCall} {i : ℕ} {h : List TicketEvent}
variable {auth : Option AuthInfo}

/-- A pending upload is moved under the next key of the message. -/
theorem attached_moveAttachments {ticket : Ticket} {messageId readKey : String} {n : ℕ}
    (keys : List String) (hown : OwnMessage i h ticket.id messageId)
    (hread : ⟨i, .getTicket readKey, .ok (some ticket)⟩ ∈ h)
    (hunused : UnusedFrom ticket.id messageId n h) :
    Sends i (fun h op => op.conducted libs i h call)
      (fun r h' => ∀ stored, r = .ok stored → Attached ticket.id messageId n h' stored)
      (moveAttachments libs.toAppLibs ticket messageId n keys) h := by
  induction keys generalizing n h with
  | nil =>
      rintro _ ⟨⟩
      exact .nil
  | cons key keys ih =>
      refine Sends.ensure (fun hpending => ?_) fun _ => by rintro _ ⟨⟩
      generalize ((rsplitOnce '/' key).map Prod.snd).getD key = filename
      refine ⟨⟨hown.fresh hunused filename, readKey, ticket, hread, hpending⟩, fun r => ?_⟩
      rcases r with e | ⟨⟩
      · rintro _ ⟨⟩
      refine ⟨trivial, fun size => ?_⟩
      have hsub := subset_concat_two (h := h)
        ⟨i, .moveObject key (attachmentKey ticket.id messageId n filename), .ok ()⟩
        ⟨i, .objectSize (attachmentKey ticket.id messageId n filename), size⟩
      have hlater : UnusedFrom ticket.id messageId (n + 1)
          (h ++ [⟨i, .moveObject key (attachmentKey ticket.id messageId n filename), .ok ()⟩] ++
            [⟨i, .objectSize (attachmentKey ticket.id messageId n filename), size⟩]) := by
        refine (hunused.next.concat fun k name hk => ?_).concat fun _ _ _ => rfl
        refine Bool.or_eq_false_iff.mpr ⟨decide_eq_false ?_, decide_eq_false fun heq => ?_⟩
        · exact pending_ne_attachmentKey hpending _ _ _ _
        · have := attachmentKey_index heq
          omega
      refine (ih (hown.mono hsub) (hsub hread) hlater).grown.bind (fun rest h' hrest => ?_)
        fun _ _ _ => by rintro _ ⟨⟩
      rintro _ ⟨⟩
      refine (hrest.1 rest rfl).cons rfl
        (hrest.2 (List.mem_append_left _ List.mem_concat_self)) ?_
      rfl

theorem conducted_stampAttachments {ticketId messageId : String} {stored : List Attachment}
    (hown : OwnMessage i h ticketId messageId) (hs : Attached ticketId messageId 0 h stored) :
    Conducted libs call i (stampAttachments ticketId messageId stored) h := by
  unfold stampAttachments
  split
  · trivial
  refine ⟨hown.stamp hs, fun r => ?_⟩
  rcases r with e | ⟨⟩
  · trivial
  · exact conducted_of_neutral (all_require ⟨rfl, fun _ => trivial⟩)

theorem conducted_storeReply {ticket : Ticket} {userId text readKey : String} {threading : Threading}
    {keys : List String} {mail : Mime} (hread : ⟨i, .getTicket readKey, .ok (some ticket)⟩ ∈ h)
    (hoff : OffObjects h)
    (hauthors : Authors libs i h call (replyContent ticket.id userId text threading mail))
    (hmailed : Mailed libs i h call mail mail.recipients mail.ccs)
    (hnotices : Notices libs ticket call .agentReply (.user userId) ticket.assigneeUserId
      (some text)) :
    Conducted libs call i (storeReply libs.toAppLibs ticket userId text threading keys mail) h := by
  refine ⟨⟨hauthors, (Reaches.of_read hread).on⟩, fun r => ?_⟩
  rcases r with e | message
  · trivial
  have hown : OwnMessage i (h ++ [⟨i, .createTicketMessage
      (replyContent ticket.id userId text threading mail), .ok message⟩]) ticket.id message.id :=
    ⟨_, message, List.mem_concat_self, rfl, rfl⟩
  have hoff' : OffObjects (h ++ [⟨i, .createTicketMessage
      (replyContent ticket.id userId text threading mail), .ok message⟩]) := hoff.concat rfl
  refine conducted_next (p := send .clock) ⟨rfl, fun _ => trivial⟩ hoff' fun now h₁ hsub₁ hoff₁ => ?_
  refine conducted_next (all_require ⟨rfl, fun _ => trivial⟩) hoff₁ fun _ h₂ hsub₂ hoff₂ => ?_
  have hall₂ : h ⊆ h₂ := List.Subset.trans (List.subset_append_left _ _)
    (List.Subset.trans hsub₁ hsub₂)
  have hown₂ := (hown.mono hsub₁).mono hsub₂
  refine (attached_moveAttachments keys hown₂ (hall₂ hread) hoff₂.unused).grown.bind
    (fun stored h₃ hstored => ?_) fun _ _ _ => trivial
  have hown₃ := hown₂.mono hstored.2
  refine (conducted_stampAttachments hown₃ (hstored.1 stored rfl)).next fun _ h₄ hsub₄ => ?_
  have hall₄ : h ⊆ h₄ := List.Subset.trans hall₂ (List.Subset.trans hstored.2 hsub₄)
  refine ⟨hmailed.mono hall₄, fun r => ?_⟩
  rcases r with e | rfcMessageId
  · trivial
  refine Sends.next (p := require (send (.updateTicketMessage message.id (.setRfcMessageId rfcMessageId))))
    ⟨(hown₃.mono ?_).change fun _ => by rintro ⟨⟩, fun r => ?_⟩ fun _ h₅ hsub₅ => ?_
  · exact List.Subset.trans hsub₄ (List.subset_append_left _ _)
  · cases r <;> trivial
  refine Sends.next ?_ fun _ _ _ => trivial
  have hticket := Reaches.of_read (hsub₅ (List.mem_append_left _ (hall₄ hread)))
  exact conducted_notifyStaff ticket.status hticket.less hnotices

theorem conducted_replyToTicket (ticketId body : String) (keys : Option (List String)) :
    Conducted libs (.replyToTicket auth ticketId body keys) i
      (replyToTicket libs.toAppLibs auth ticketId body keys) [] := by
  have hauthors : ∀ userId memberships isSuperuser ticket threading mail h,
      ⟨i, .getTicket ticketId, .ok (some ticket)⟩ ∈ h → isMember memberships ticket.instanceId →
      Authors libs i h (.replyToTicket (some (.user userId memberships isSuperuser)) ticketId body keys)
        (replyContent ticket.id userId (trim body) threading mail) :=
    fun _ _ _ _ _ _ _ hread hmember => .replied hread hmember
  have hcustomers : TicketCall.customerText libs (.replyToTicket auth ticketId body keys) (trim body) :=
    rfl
  have hnotices : ∀ userId memberships isSuperuser ticket, Notices libs ticket
      (.replyToTicket (some (.user userId memberships isSuperuser)) ticketId body keys)
      .agentReply (.user userId) ticket.assigneeUserId (some (trim body)) := fun _ _ _ _ => .replied
  unfold replyToTicket
  generalize trim body = text at hauthors hcustomers hnotices ⊢
  refine conducted_member fun userId memberships isSuperuser ticket hauth hmember => ?_
  subst hauth
  refine conducted_userId (Sends.ensure (fun _ => ?_) fun _ => trivial)
  have hoff : OffObjects [⟨i, .getTicket ticketId, .ok (some ticket)⟩] := offObjects_nil.concat rfl
  refine conducted_next (all_require ⟨rfl, fun _ => trivial⟩) hoff fun prior h₁ hsub₁ hoff₁ => ?_
  refine ⟨trivial, fun r => ?_⟩
  rcases r with e | _ | inst
  · trivial
  · trivial
  refine ⟨trivial, fun r => ?_⟩
  rcases r with e | addresses
  · trivial
  refine ⟨trivial, fun nonce => ?_⟩
  refine Sends.ofExcept (fun mail hmail => ?_) fun _ _ => trivial
  have hread : ⟨i, .getTicket ticketId, .ok (some ticket)⟩ ∈
      h₁ ++ [⟨i, .getInstance ticket.instanceId, .ok (some inst)⟩] ++
        [⟨i, .listInboundAddressesByInstance inst.id, .ok addresses⟩] ++
        [⟨i, .generateNonce 16, nonce⟩] :=
    List.mem_append_left _ (List.mem_append_left _ (List.mem_append_left _ (hsub₁ List.mem_cons_self)))
  refine conducted_storeReply hread (((hoff₁.concat rfl).concat rfl).concat rfl)
    (hauthors _ _ _ _ _ _ _ hread hmember) ?_ (hnotices _ _ _ ticket)
  refine .customers (.read hread (List.Subset.refl _)) ?_ ?_ hcustomers (of_mapError_ok hmail)
  · exact List.mem_append_left _ (List.mem_append_left _ List.mem_concat_self)
  · exact List.mem_append_left _ List.mem_concat_self

end replies

end Microticket

import Microticket.AdminGrounds
import Microticket.TicketRules

/-! # What a mutation of tickets has checked before it writes

A mutation writes a ticket, or a message of it, only after it has read the ticket as one of an
instance of the caller (`Handles`), or after it has opened it in the instance of its submit token or
API token (`Submits`); it changes only messages that it has stored itself.  Inbound addresses are for
the owners of the instance and for superusers (`TicketOp.authorised`).  A delivery has no principal
and keeps another contract. -/

namespace Microticket

open Interleaving RustText

/-! ### The contract -/

/-- The principal is a token that opens tickets in the instance. -/
def submitterOf (auth : Option AuthInfo) (instanceId : String) : Bool :=
  match auth with
  | some (.requester _ own) => own == instanceId
  | some (.apiToken _ own) => own == instanceId
  | _ => false

/-- The call has read the instance under the id that its token names. -/
def Submits (auth : Option AuthInfo) (i : ℕ) (h : List TicketEvent) (instanceId : String) : Prop :=
  ∃ key inst, ⟨i, .getInstance key, .ok (some inst)⟩ ∈ h ∧ inst.id = instanceId ∧
    submitterOf auth key

/-- The call has read the ticket as one of an instance of the caller, or has opened it itself. -/
inductive Handles (auth : Option AuthInfo) (i : ℕ) (h : List TicketEvent) : String → Prop
  | read {key : String} {ticket : Ticket}
      (hread : ⟨i, .getTicket key, .ok (some ticket)⟩ ∈ h)
      (hauth : memberOf auth ticket.instanceId) : Handles auth i h ticket.id
  | opened {instanceId subject : String} {number : ℕ} {requesterEmails ccEmails : List String}
      {ticket : Ticket}
      (hopened : ⟨i, .createTicket instanceId number subject requesterEmails ccEmails,
        .ok ticket⟩ ∈ h)
      (hauth : Submits auth i h instanceId) : Handles auth i h ticket.id

/-- What the call has checked before the request. -/
def TicketOp.authorised (auth : Option AuthInfo) (i : ℕ) (h : List TicketEvent) : TicketOp → Prop
  | .incrementTicketCounter instanceId | .createTicket instanceId .. => Submits auth i h instanceId
  | .updateTicket id _ => Handles auth i h id
  | .createTicketMessage content => Handles auth i h content.ticketId
  | .updateTicketMessage id _ =>
      ∃ content message, ⟨i, .createTicketMessage content, .ok message⟩ ∈ h ∧ message.id = id ∧
        Handles auth i h content.ticketId
  | .createInboundAddress _ instanceId _ => instanceOwnerOrSuperuser auth instanceId
  | .deleteInboundAddress address =>
      ∃ key row, ⟨i, .getInboundAddress key, .ok (some row)⟩ ∈ h ∧ row.address = address ∧
        instanceOwnerOrSuperuser auth row.instanceId
  | .claimProcessedMessage .. | .putInstance _ => False
  | _ => True

/-- The requests that write no table. -/
def TicketOp.silent : TicketOp → Bool
  | .incrementTicketCounter _ | .createTicket .. | .updateTicket .. | .createTicketMessage _
  | .updateTicketMessage .. | .createInboundAddress .. | .deleteInboundAddress _
  | .claimProcessedMessage .. | .putInstance _ => false
  | _ => true

theorem TicketOp.silent_of_isNotice {op : TicketOp} (hop : op.isNotice) : op.silent := by
  cases op <;> first | rfl | cases hop

section authority
variable {libs : AppLibs} {auth : Option AuthInfo} {i : ℕ} {h h' : List TicketEvent} {α β : Type}

theorem Submits.mono {instanceId : String} (hsub : h ⊆ h') (hs : Submits auth i h instanceId) :
    Submits auth i h' instanceId := by
  obtain ⟨key, inst, hread, hid, hauth⟩ := hs
  exact ⟨key, inst, hsub hread, hid, hauth⟩

theorem Handles.mono {id : String} (hsub : h ⊆ h') (hh : Handles auth i h id) :
    Handles auth i h' id := by
  cases hh with
  | read hread hauth => exact .read (hsub hread) hauth
  | opened hopened hauth => exact .opened (hsub hopened) (hauth.mono hsub)

theorem Submits.append {instanceId : String} {ev : TicketEvent}
    (hs : Submits auth i h instanceId) : Submits auth i (h ++ [ev]) instanceId :=
  hs.mono (List.subset_append_left h [ev])

theorem Handles.append {id : String} {ev : TicketEvent} (hh : Handles auth i h id) :
    Handles auth i (h ++ [ev]) id := hh.mono (List.subset_append_left h [ev])

theorem TicketOp.authorised_of_silent {op : TicketOp} (hop : op.silent) :
    op.authorised auth i h := by
  cases op with
  | incrementTicketCounter | createTicket | updateTicket | createTicketMessage
  | updateTicketMessage | createInboundAddress | deleteInboundAddress | claimProcessedMessage
  | putInstance => cases hop
  | _ => trivial

/-- The requests of a mutation for `auth` are authorised. -/
abbrev Authorised (auth : Option AuthInfo) (i : ℕ) (p : TicketProg α) (h : List TicketEvent) :
    Prop :=
  Sends i (fun h op => op.authorised auth i h) (fun _ _ => True) p h

theorem authorised_of_silent {p : TicketProg α} (hp : p.All fun op => op.silent) :
    Authorised auth i p h :=
  Sends.of_all hp TicketOp.authorised_of_silent

theorem silent_notifyStaff (ticket : Ticket) (assigneeUserId : Option String) (event : StaffEvent)
    (actor : Actor) (messageBody : Option String) :
    (notifyStaff libs ticket assigneeUserId event actor messageBody).All fun op => op.silent :=
  (total_notifyStaff ..).all.mono fun _ => TicketOp.silent_of_isNotice

/-! ### Mails -/

theorem authorised_sendSystemNotification {ticket : Ticket} (hh : Handles auth i h ticket.id)
    (requesterEmails ccEmails : List String) (body : String) :
    Authorised auth i (sendSystemNotification libs ticket requesterEmails ccEmails body) h := by
  have hload : (loadInstanceAndAddresses ticket.instanceId).All fun op => op.silent := by
    refine ⟨rfl, fun r => ?_⟩
    rcases r with e | inst
    · trivial
    cases inst with
    | none => trivial
    | some inst =>
        refine ⟨rfl, fun r => ?_⟩
        cases r <;> trivial
  refine (authorised_of_silent hload).next fun loaded h hsub => ?_
  have hh := hh.mono hsub
  cases loaded with
  | none => trivial
  | some loaded =>
      refine ⟨trivial, fun nonce => ?_⟩
      dsimp only [bind, Prog.bind]
      split
      · trivial
      · refine ⟨trivial, fun r => ?_⟩
        rcases r with e | rfcMessageId
        · trivial
        refine ⟨hh.append.append, fun r => ?_⟩
        rcases r with e | message
        · trivial
        · exact ⟨⟨_, message, List.mem_concat_self, rfl, hh.append.append.append⟩, fun _ => trivial⟩

/-! ### Submissions -/

theorem authorised_requireLiveInstance {instanceId : String} {f : Instance → TicketProg α}
    (hauth : submitterOf auth instanceId)
    (hf : ∀ inst h, Submits auth i h inst.id → Authorised auth i (f inst) h) :
    Authorised auth i (requireLiveInstance instanceId >>= f) h := by
  refine ⟨trivial, fun r => ?_⟩
  rcases r with e | row
  · trivial
  refine Sends.ofOption (fun inst hinst => ?_) fun _ => trivial
  obtain ⟨rfl, -⟩ := Option.filter_eq_some_iff.mp hinst
  exact hf inst _ ⟨instanceId, inst, List.mem_concat_self, rfl, hauth⟩

theorem authorised_openSubmittedTicket {inst : Instance} {subject body : String}
    {requesterEmails ccEmails : List String} {f : Ticket → TicketProg α}
    (hs : Submits auth i h inst.id)
    (hf : ∀ ticket h, Handles auth i h ticket.id → Authorised auth i (f ticket) h) :
    Authorised auth i (openSubmittedTicket inst subject body requesterEmails ccEmails >>= f) h := by
  refine ⟨hs, fun r => ?_⟩
  rcases r with e | number
  · trivial
  refine ⟨hs.append, fun r => ?_⟩
  rcases r with e | ticket
  · trivial
  have hh : Handles auth i (h ++ [⟨i, .incrementTicketCounter inst.id, .ok number⟩] ++
      [⟨i, .createTicket inst.id number subject requesterEmails ccEmails, .ok ticket⟩]) ticket.id :=
    .opened List.mem_concat_self hs.append.append
  refine ⟨hh, fun r => ?_⟩
  rcases r with e | message
  · trivial
  · exact hf ticket _ hh.append

/-- The notices after a ticket was submitted. -/
theorem authorised_submitted {ticket : Ticket} (hh : Handles auth i h ticket.id)
    (requesterEmails ccEmails : List String) (submitter body : String) (reply : Reply) :
    Authorised auth i (do
      sendSystemNotification libs ticket requesterEmails ccEmails acknowledgementBody
      notifyStaff libs ticket none (.newTicket submitter) (.email submitter) (some body)
      return reply : TicketProg Reply) h := by
  refine (authorised_sendSystemNotification hh ..).next fun _ h _ => ?_
  exact authorised_of_silent ((silent_notifyStaff ..).bind fun _ => trivial)

theorem authorised_submitTicket (subject body : String) :
    Authorised auth i (submitTicket libs auth subject body) h := by
  unfold submitTicket
  generalize trim subject = subject, trim body = body
  split
  · refine Sends.ensure (fun _ => ?_) fun _ => trivial
    refine Sends.ensure (fun _ => ?_) fun _ => trivial
    refine authorised_requireLiveInstance (beq_self_eq_true _) fun inst h hs => ?_
    exact authorised_openSubmittedTicket hs fun ticket h hh => authorised_submitted hh ..
  · trivial

theorem authorised_submitVerifiedTicket (subject body : String) (recipients cc : List String) :
    Authorised auth i (submitVerifiedTicket libs auth subject body recipients cc) h := by
  unfold submitVerifiedTicket
  generalize trim subject = subject, trim body = body
  split
  · refine Sends.ensure (fun _ => ?_) fun _ => trivial
    refine Sends.ensure (fun _ => ?_) fun _ => trivial
    refine Sends.ofExcept (fun people _ => ?_) fun _ _ => trivial
    refine authorised_requireLiveInstance (beq_self_eq_true _) fun inst h hs => ?_
    refine Sends.next (Sends.of_all (P := fun op => op.silent) (all_require ⟨rfl, fun _ => trivial⟩)
      TicketOp.authorised_of_silent) fun addresses h' hsub => ?_
    generalize (people.1 ++ people.2).find? _ = own
    cases own with
    | some own => trivial
    | none =>
        exact authorised_openSubmittedTicket (hs.mono hsub) fun ticket h hh => authorised_submitted hh ..
  · trivial

/-! ### Tickets of the caller's instances -/

/-- The ticket that is let through is handled. -/
theorem authorised_requireTicketMember (ticketId : String) :
    Sends i (fun h op => op.authorised auth i h) (fun r h => ∀ ticket, r = .ok ticket →
        Handles auth i h ticket.id)
      (requireTicketMember auth ticketId) h := by
  refine ⟨trivial, fun r => ?_⟩
  rcases r with e | row
  · rintro _ ⟨⟩
  cases row with
  | none => rintro _ ⟨⟩
  | some ticket =>
      show Sends _ _ _ (memberOfTicket ticketId ticket auth) _
      unfold memberOfTicket
      split
      · refine Sends.ensure (fun hauth => ?_) fun _ => ?_
        · rintro _ ⟨⟩
          exact .read List.mem_concat_self hauth
        · rintro _ ⟨⟩
      · rintro _ ⟨⟩

/-- A mutation of a ticket of the caller's instances. -/
theorem authorised_ofMember {ticketId : String} {f : Ticket → TicketProg α}
    (hf : ∀ ticket h, Handles auth i h ticket.id → Authorised auth i (f ticket) h) :
    Authorised auth i
      (guardAuthenticated auth >>= fun _ => requireTicketMember auth ticketId >>= f) h := by
  refine (authorised_of_silent (all_guardAuthenticated auth)).next fun _ h _ => ?_
  exact (authorised_requireTicketMember ticketId).bind (fun ticket h hr => hf ticket h (hr ticket rfl))
    fun _ _ _ => trivial

theorem authorised_createAttachmentUpload (ticketId filename contentType : String) :
    Authorised auth i (createAttachmentUpload auth ticketId filename contentType) h := by
  unfold createAttachmentUpload
  refine authorised_ofMember fun ticket h _ => ?_
  refine ⟨trivial, fun unique => ⟨trivial, fun r => ?_⟩⟩
  cases r <;> trivial

theorem silent_moveAttachments (ticket : Ticket) (messageId : String) (index : ℕ)
    (keys : List String) :
    (moveAttachments libs ticket messageId index keys).All fun op => op.silent := by
  induction keys generalizing index with
  | nil => trivial
  | cons key keys ih =>
      refine Prog.All.bind (Prog.all_ensure _ _) fun _ => ⟨rfl, fun r => ?_⟩
      rcases r with e | ⟨⟩
      · trivial
      · exact ⟨rfl, fun size => (ih (index + 1)).bind fun _ => trivial⟩

theorem authorised_stampAttachments {ticketId messageId : String} {stored : List Attachment}
    {content : MessageContent} {message : TicketMessage}
    (hstored : ⟨i, .createTicketMessage content, .ok message⟩ ∈ h) (hid : message.id = messageId)
    (hcontent : content.ticketId = ticketId) (hh : Handles auth i h ticketId) :
    Authorised auth i (stampAttachments ticketId messageId stored) h := by
  unfold stampAttachments
  split
  · trivial
  · refine ⟨⟨content, message, hstored, hid, hcontent ▸ hh⟩, fun r => ?_⟩
    rcases r with e | ⟨⟩
    · trivial
    refine ⟨hh.append, fun r => ?_⟩
    rcases r with e | ⟨⟩ <;> trivial

theorem authorised_storeReply {ticket : Ticket} (hh : Handles auth i h ticket.id)
    (userId body : String) (threading : Threading) (attachmentKeys : List String) (mail : Mime) :
    Authorised auth i (storeReply libs ticket userId body threading attachmentKeys mail) h := by
  refine ⟨hh, fun r => ?_⟩
  rcases r with e | message
  · trivial
  have hstored : (⟨i, .createTicketMessage (replyContent ticket.id userId body threading mail),
      .ok message⟩ : TicketEvent) ∈ h ++ [⟨i, .createTicketMessage (replyContent ticket.id userId
        body threading mail), .ok message⟩] := List.mem_concat_self
  replace hh : Handles auth i (h ++ [⟨i, .createTicketMessage (replyContent ticket.id userId body
    threading mail), .ok message⟩]) ticket.id := hh.append
  generalize h ++ [_] = h at hstored hh
  refine ⟨trivial, fun now => ⟨hh.append, fun r => ?_⟩⟩
  rcases r with e | ⟨⟩
  · trivial
  refine (authorised_of_silent (silent_moveAttachments ..)).next fun stored h₁ hsub => ?_
  replace hsub : h ⊆ h₁ := fun ev hev =>
    hsub (List.mem_append_left _ (List.mem_append_left _ hev))
  refine (authorised_stampAttachments (hsub hstored) rfl rfl (hh.mono hsub)).next
    fun _ h₂ hsub₂ => ?_
  replace hsub := List.Subset.trans hsub hsub₂
  refine ⟨trivial, fun r => ?_⟩
  rcases r with e | rfcMessageId
  · trivial
  refine ⟨⟨_, message, List.mem_append_left _ (hsub hstored), rfl,
    (hh.mono hsub).append⟩, fun r => ?_⟩
  rcases r with e | ⟨⟩
  · trivial
  · exact authorised_of_silent ((silent_notifyStaff ..).bind fun _ => trivial)

theorem authorised_replyToTicket (ticketId body : String) (attachmentKeys : Option (List String)) :
    Authorised auth i (replyToTicket libs auth ticketId body attachmentKeys) h := by
  unfold replyToTicket
  generalize trim body = body
  refine authorised_ofMember fun ticket h hh => ?_
  refine (authorised_of_silent (all_requireUserId auth)).next fun userId h₁ hsub => ?_
  replace hh := hh.mono hsub
  refine Sends.ensure (fun _ => ?_) fun _ => trivial
  refine ⟨trivial, fun r => ?_⟩
  rcases r with e | prior
  · trivial
  refine ⟨trivial, fun r => ?_⟩
  rcases r with e | row
  · trivial
  refine Sends.ofOption (fun inst _ => ?_) fun _ => trivial
  refine ⟨trivial, fun r => ?_⟩
  rcases r with e | addresses
  · trivial
  refine ⟨trivial, fun nonce => ?_⟩
  refine Sends.ofExcept (fun mail _ => ?_) fun _ _ => trivial
  exact authorised_storeReply hh.append.append.append.append ..

theorem authorised_addInternalNote (ticketId body : String) :
    Authorised auth i (addInternalNote libs auth ticketId body) h := by
  unfold addInternalNote
  generalize trim body = body
  refine authorised_ofMember fun ticket h hh => ?_
  refine (authorised_of_silent (all_requireUserId auth)).next fun userId h₁ hsub => ?_
  replace hh := hh.mono hsub
  refine Sends.ensure (fun _ => ?_) fun _ => trivial
  refine ⟨hh, fun r => ?_⟩
  rcases r with e | message
  · trivial
  refine ⟨trivial, fun now => ⟨hh.append.append, fun r => ?_⟩⟩
  rcases r with e | ⟨⟩
  · trivial
  · exact authorised_of_silent ((silent_notifyStaff ..).bind fun _ => trivial)

/-! ### Status and assignee -/

theorem authorised_noticeOfStatus {ticket : Ticket} (hh : Handles auth i h ticket.id)
    (status : TicketStatus) : Authorised auth i (noticeOfStatus libs ticket status) h := by
  unfold noticeOfStatus
  split
  · exact authorised_sendSystemNotification hh ..
  · trivial

theorem silent_staffNoticeOfStatus (ticket : Ticket) (userId : String) (status : TicketStatus) :
    (staffNoticeOfStatus libs ticket userId status).All fun op => op.silent := by
  unfold staffNoticeOfStatus
  split
  · trivial
  · exact silent_notifyStaff ..

theorem authorised_setTicketStatus (ticketId : String) (status : TicketStatus) :
    Authorised auth i (setTicketStatus libs auth ticketId status) h := by
  unfold setTicketStatus
  refine authorised_ofMember fun ticket h hh => ?_
  refine (authorised_of_silent (all_requireUserId auth)).next fun userId h₁ hsub => ?_
  replace hh := hh.mono hsub
  show Sends _ _ _ (if _ then _ else _) _
  split
  · trivial
  · refine ⟨trivial, fun now => ⟨hh.append, fun r => ?_⟩⟩
    rcases r with e | ⟨⟩
    · trivial
    refine (authorised_noticeOfStatus hh.append.append status).next fun _ h₂ _ => ?_
    exact authorised_of_silent ((silent_staffNoticeOfStatus ..).bind fun _ => trivial)

theorem silent_requireAssignee (ticket : Ticket) (userId : Option String) :
    (requireAssignee ticket userId).All fun op => op.silent := by
  cases userId with
  | none => trivial
  | some userId =>
      exact Prog.All.bind (all_require ⟨rfl, fun _ => trivial⟩) fun _ => Prog.all_ensure _ _

theorem silent_staffNoticeOfAssignee (ticket : Ticket) (actorId : String)
    (userId : Option String) :
    (staffNoticeOfAssignee libs ticket actorId userId).All fun op => op.silent := by
  unfold staffNoticeOfAssignee
  split
  · trivial
  · exact silent_notifyStaff ..

theorem authorised_assignTicket (ticketId : String) (userId : Option String) :
    Authorised auth i (assignTicket libs auth ticketId userId) h := by
  unfold assignTicket
  refine authorised_ofMember fun ticket h hh => ?_
  refine (authorised_of_silent (all_requireUserId auth)).next fun actorId h₁ hsub₁ => ?_
  refine (authorised_of_silent (silent_requireAssignee ..)).next fun _ h₂ hsub₂ => ?_
  replace hh := hh.mono (List.Subset.trans hsub₁ hsub₂)
  refine ⟨trivial, fun now => ⟨hh.append, fun r => ?_⟩⟩
  rcases r with e | ⟨⟩
  · trivial
  · exact authorised_of_silent ((silent_staffNoticeOfAssignee ..).bind fun _ => trivial)

/-! ### People -/

theorem authorised_editPeople {ticketId email : String} {check : Ticket → String → TicketProg Unit}
    {change : String → ℕ → TicketUpdateShape} {result : Ticket → String → Ticket}
    (hcheck : ∀ ticket email, (check ticket email).All fun op => op.silent) :
    Authorised auth i (editPeople libs auth ticketId email check change result) h := by
  unfold editPeople
  generalize normalizeTicketEmail libs email = checkedEmail
  refine authorised_ofMember fun ticket h hh => ?_
  refine Sends.ofExcept (fun email _ => ?_) fun _ _ => trivial
  refine (authorised_of_silent (hcheck ticket email)).next fun _ h₁ hsub => ?_
  refine ⟨trivial, fun now => ⟨(hh.mono hsub).append, fun r => ?_⟩⟩
  rcases r with e | ⟨⟩ <;> trivial

/-! ### Addresses -/

theorem authorised_guardInstanceOwnerOrSuperuser {instanceId : String} {f : Unit → TicketProg α}
    (hf : instanceOwnerOrSuperuser auth instanceId → Authorised auth i (f ()) h) :
    Authorised auth i (guardInstanceOwnerOrSuperuser instanceId auth >>= f) h := by
  unfold guardInstanceOwnerOrSuperuser
  split
  · exact Sends.ensure hf fun _ => trivial
  · trivial

theorem authorised_addInboundAddress (instanceId address : String) :
    Authorised auth i (addInboundAddress libs auth instanceId address) h := by
  unfold addInboundAddress
  generalize classifyForStorage libs.lower libs.debug address = checkedAddress
  refine authorised_guardInstanceOwnerOrSuperuser fun hauth => ?_
  refine ⟨trivial, fun r => ?_⟩
  rcases r with e | row
  · trivial
  refine Sends.ofOption (fun inst _ => ?_) fun _ => trivial
  refine Sends.ofExcept (fun stored _ => ?_) fun _ _ => trivial
  refine ⟨trivial, fun r => ?_⟩
  rcases r with e | _ | existing
  · trivial
  · refine ⟨hauth, fun r => ?_⟩
    rcases r with e | created <;> trivial
  · trivial

theorem authorised_removeInboundAddress (instanceId address : String) :
    Authorised auth i (removeInboundAddress libs auth instanceId address) h := by
  unfold removeInboundAddress
  refine authorised_guardInstanceOwnerOrSuperuser fun hauth => ?_
  refine ⟨trivial, fun r => ?_⟩
  rcases r with e | row
  · trivial
  refine Sends.ofOption (fun existing hexisting => ?_) fun _ => trivial
  obtain ⟨rfl, htest⟩ := Option.filter_eq_some_iff.mp hexisting
  rw [← eq_of_beq htest] at hauth
  refine ⟨⟨_, existing, List.mem_concat_self, rfl, hauth⟩, fun r => ?_⟩
  rcases r with e | ⟨⟩ <;> trivial

end authority

/-! ### All mutations -/

/-- The principal of a mutation. -/
def TicketCall.auth : TicketCall → Option AuthInfo
  | .submitTicket auth .. | .submitVerifiedTicket auth .. | .createAttachmentUpload auth ..
  | .replyToTicket auth .. | .addInternalNote auth .. | .setTicketStatus auth ..
  | .assignTicket auth .. | .addTicketRequester auth .. | .removeTicketRequester auth ..
  | .addTicketCc auth .. | .removeTicketCc auth .. | .addInboundAddress auth ..
  | .removeInboundAddress auth .. => auth
  | .putInstance _ | .processRawMessage .. => none

/-- A call of a mutation of tickets, not a delivery or a write that stands for another mutation. -/
def TicketCall.isMutation : TicketCall → Bool
  | .putInstance _ | .processRawMessage .. => false
  | _ => true

/-- The requests of every mutation are authorised. -/
theorem authorised_mutation {libs : MailLibs} {call : TicketCall} (hcall : call.isMutation)
    (i : ℕ) : Authorised call.auth i (call.program libs) [] := by
  cases call with
  | submitTicket => exact authorised_submitTicket ..
  | submitVerifiedTicket => exact authorised_submitVerifiedTicket ..
  | createAttachmentUpload => exact authorised_createAttachmentUpload ..
  | replyToTicket => exact authorised_replyToTicket ..
  | addInternalNote => exact authorised_addInternalNote ..
  | setTicketStatus => exact authorised_setTicketStatus ..
  | assignTicket => exact authorised_assignTicket ..
  | addTicketRequester => exact authorised_editPeople fun _ _ => trivial
  | removeTicketRequester => exact authorised_editPeople fun _ _ => Prog.all_ensure _ _
  | addTicketCc => exact authorised_editPeople fun _ _ => trivial
  | removeTicketCc => exact authorised_editPeople fun _ _ => trivial
  | addInboundAddress => exact authorised_addInboundAddress ..
  | removeInboundAddress => exact authorised_removeInboundAddress ..
  | putInstance => cases hcall
  | processRawMessage => cases hcall

end Microticket

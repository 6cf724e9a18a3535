import Microticket.TicketRules

/-! # What a call has seen before it creates or deletes

A ticket is created with a requester, and for an instance that the call has read as one of kind
`support`; so is an inbound address, after the call has found no row of the address.  An address is
deleted only by a call that has found it to be of its own instance (`TicketOp.grounded`).  All of this
is known from earlier answers: nothing makes the writes conditional on it (`grounded_call`). -/

namespace Microticket

open Interleaving RustText

/-! ### The contract -/

/-- The instance that a call adds an address to. -/
def TicketCall.addsTo : TicketCall → Option String
  | .addInboundAddress _ instanceId _ => some instanceId
  | _ => none

/-- The instance that a call removes an address from. -/
def TicketCall.removesFrom : TicketCall → Option String
  | .removeInboundAddress _ instanceId _ => some instanceId
  | _ => none

/-- The call has read the instance, and it is one of kind `support`. -/
def ReadSupport (i : ℕ) (h : List TicketEvent) (instanceId : String) : Prop :=
  ∃ key inst, ⟨i, .getInstance key, .ok (some inst)⟩ ∈ h ∧ inst.kind = .support ∧
    (instanceId = key ∨ instanceId = inst.id)

/-- What the call has seen before the request. -/
def TicketOp.grounded (call : TicketCall) (i : ℕ) (h : List TicketEvent) : TicketOp → Prop
  | .createTicket instanceId _ _ requesterEmails _ =>
      requesterEmails ≠ [] ∧ ReadSupport i h instanceId
  | .createInboundAddress address instanceId _ =>
      call.addsTo = some instanceId ∧ ReadSupport i h instanceId ∧
        ⟨i, .getInboundAddress address, .ok none⟩ ∈ h
  | .deleteInboundAddress address =>
      ∃ key row, ⟨i, .getInboundAddress key, .ok (some row)⟩ ∈ h ∧ row.address = address ∧
        call.removesFrom = some row.instanceId
  | _ => True

/-- The requests that create and delete no ticket and no address. -/
def TicketOp.quiet : TicketOp → Bool
  | .createTicket .. | .createInboundAddress .. | .deleteInboundAddress _ => false
  | _ => true

theorem TicketOp.quiet_of_basic {op : TicketOp} (hop : op.basic) : op.quiet := by
  cases op with
  | createTicket => cases hop
  | createInboundAddress => cases hop
  | deleteInboundAddress => cases hop
  | _ => rfl

section grounds
variable {call : TicketCall} {i : ℕ} {h : List TicketEvent} {α β : Type}

theorem TicketOp.grounded_of_quiet {op : TicketOp} (hop : op.quiet) : op.grounded call i h := by
  cases op with
  | createTicket => cases hop
  | createInboundAddress => cases hop
  | deleteInboundAddress => cases hop
  | _ => trivial

/-- The requests of a program for `call` have their grounds, and it ends in `Q`. -/
abbrev Grounded (call : TicketCall) (i : ℕ) (Q : Except Error α → List TicketEvent → Prop)
    (p : TicketProg α) (h : List TicketEvent) : Prop :=
  Sends i (fun h op => op.grounded call i h) Q p h

theorem grounded_of_quiet {p : TicketProg α} (hp : p.All fun op => op.quiet) :
    Grounded call i (fun _ _ => True) p h :=
  Sends.of_all hp TicketOp.grounded_of_quiet

theorem grounded_of_basic {p : TicketProg α} (hp : p.All fun op => op.basic) :
    Grounded call i (fun _ _ => True) p h :=
  grounded_of_quiet (hp.mono fun _ => TicketOp.quiet_of_basic)

/-- A part that creates nothing: what was read before it stays read. -/
theorem grounded_after {p : TicketProg α} {f : α → TicketProg β} {ev : TicketEvent}
    (hp : p.All fun op => op.quiet) (hev : ev ∈ h)
    (hf : ∀ a h, ev ∈ h → Grounded call i (fun _ _ => True) (f a) h) :
    Grounded call i (fun _ _ => True) (p >>= f) h :=
  (Sends.keeps (K := fun h => ev ∈ h) hp (fun hop _ => TicketOp.grounded_of_quiet hop)
    (fun _ hmem => List.mem_append_left _ hmem) hev).bind hf fun _ _ _ => trivial

/-- A part that creates nothing, before anything was read. -/
theorem grounded_then {p : TicketProg α} {f : α → TicketProg β}
    (hp : p.All fun op => op.quiet) (hf : ∀ a h, Grounded call i (fun _ _ => True) (f a) h) :
    Grounded call i (fun _ _ => True) (p >>= f) h :=
  (grounded_of_quiet hp).bind (fun a h _ => hf a h) fun _ _ _ => trivial

end grounds

/-! ### Submissions -/

section submissions
variable {call : TicketCall} {i : ℕ} {h : List TicketEvent} {libs : AppLibs} {auth : Option AuthInfo}

/-- A program that goes on with an instance that takes tickets. -/
theorem grounded_requireLiveInstance {α : Type} {instanceId : String} {f : Instance → TicketProg α}
    (hf : ∀ inst h, ⟨i, .getInstance instanceId, .ok (some inst)⟩ ∈ h → inst.kind = .support →
      Grounded call i (fun _ _ => True) (f inst) h) :
    Grounded call i (fun _ _ => True) (requireLiveInstance instanceId >>= f) h := by
  refine ⟨trivial, fun r => ?_⟩
  rcases r with e | row
  · trivial
  refine Sends.ofOption (fun inst hinst => ?_) fun _ => trivial
  obtain ⟨rfl, htest⟩ := Option.filter_eq_some_iff.mp hinst
  have hkind : inst.kind = .support := by
    rw [Bool.and_eq_true] at htest
    exact eq_of_beq htest.2
  exact hf inst _ (List.mem_append_right _ (List.mem_singleton_self _)) hkind

theorem grounded_openSubmittedTicket {α : Type} {key subject body : String} {inst : Instance}
    {requesterEmails ccEmails : List String} {f : Ticket → TicketProg α}
    (hev : ⟨i, .getInstance key, .ok (some inst)⟩ ∈ h) (hkind : inst.kind = .support)
    (hrequesters : requesterEmails ≠ []) (hf : ∀ ticket, (f ticket).All fun op => op.basic) :
    Grounded call i (fun _ _ => True)
      (openSubmittedTicket inst subject body requesterEmails ccEmails >>= f) h := by
  refine ⟨trivial, fun r => ?_⟩
  rcases r with e | number
  · trivial
  refine ⟨⟨hrequesters, key, inst, List.mem_append_left _ hev, hkind, .inr rfl⟩, fun r => ?_⟩
  rcases r with e | ticket
  · trivial
  refine ⟨trivial, fun r => ?_⟩
  rcases r with e | message
  · trivial
  · exact grounded_of_basic (hf ticket)

theorem grounded_submitTicket (subject body : String) :
    Grounded call i (fun _ _ => True) (submitTicket libs auth subject body) h := by
  unfold submitTicket
  generalize trim subject = subject, trim body = body
  split
  · refine Sends.ensure (fun _ => ?_) fun _ => trivial
    refine Sends.ensure (fun _ => ?_) fun _ => trivial
    refine grounded_requireLiveInstance fun inst h hev hkind => ?_
    exact grounded_openSubmittedTicket hev hkind (List.cons_ne_nil _ _)
      fun ticket => basic_submitted ..
  · trivial

/-- A verified submission has a recipient. -/
theorem normalizeVerifiedRecipients_ne_nil {recipients cc : List String}
    {people : List String × List String}
    (hok : normalizeVerifiedRecipients libs recipients cc = .ok people) : people.1 ≠ [] := by
  unfold normalizeVerifiedRecipients at hok
  split at hok
  · cases hok
  · split at hok
    · cases hok
    · rename_i hne
      split at hok
      · cases hok
      · split at hok
        · cases hok
        · cases hok
          simpa using hne

theorem grounded_submitVerifiedTicket (subject body : String) (recipients cc : List String) :
    Grounded call i (fun _ _ => True) (submitVerifiedTicket libs auth subject body recipients cc)
      h := by
  unfold submitVerifiedTicket
  generalize trim subject = subject, trim body = body
  split
  · refine Sends.ensure (fun _ => ?_) fun _ => trivial
    refine Sends.ensure (fun _ => ?_) fun _ => trivial
    refine Sends.ofExcept (fun people hpeople => ?_) fun _ _ => trivial
    refine grounded_requireLiveInstance fun inst h hev hkind => ?_
    refine grounded_after (all_require ⟨rfl, fun _ => trivial⟩) hev (fun addresses h hev => ?_)
    generalize (people.1 ++ people.2).find? _ = own
    cases own with
    | some own => trivial
    | none =>
        exact grounded_openSubmittedTicket hev hkind (normalizeVerifiedRecipients_ne_nil hpeople)
          fun ticket => basic_submitted ..
  · trivial

end submissions

/-! ### Status and assignee -/

section status
variable {call : TicketCall} {i : ℕ} {h : List TicketEvent} {libs : AppLibs}
variable {auth : Option AuthInfo}

theorem all_quiet {α : Type} {p : TicketProg α} (hp : p.All fun op => op.basic) :
    p.All fun op => op.quiet := hp.mono fun _ => TicketOp.quiet_of_basic

theorem quiet_setTicketStatus (ticketId : String) (status : TicketStatus) :
    (setTicketStatus libs auth ticketId status).All fun op => op.quiet := by
  refine (all_guardAuthenticated auth).bind fun _ => ?_
  refine (all_quiet (basic_requireTicketMember auth ticketId)).bind fun ticket => ?_
  refine (all_requireUserId auth).bind fun userId => ?_
  show Prog.All _ (if _ then _ else _)
  split
  · trivial
  · refine ⟨rfl, fun now => ⟨rfl, fun r => ?_⟩⟩
    rcases r with e | ⟨⟩
    · trivial
    · refine (all_quiet (basic_noticeOfStatus ..)).bind fun _ => ?_
      exact (all_quiet (basic_staffNoticeOfStatus ..)).bind fun _ => trivial

theorem quiet_assignTicket (ticketId : String) (userId : Option String) :
    (assignTicket libs auth ticketId userId).All fun op => op.quiet := by
  refine (all_guardAuthenticated auth).bind fun _ => ?_
  refine (all_quiet (basic_requireTicketMember auth ticketId)).bind fun ticket => ?_
  refine (all_requireUserId auth).bind fun actorId => ?_
  refine Prog.All.bind ?_ fun _ => ⟨rfl, fun now => ⟨rfl, fun r => ?_⟩⟩
  · cases userId with
    | none => trivial
    | some userId =>
        exact Prog.All.bind (all_require ⟨rfl, fun _ => trivial⟩) fun _ => Prog.all_ensure _ _
  · rcases r with e | ⟨⟩
    · trivial
    · exact (all_quiet (basic_staffNoticeOfAssignee ..)).bind fun _ => trivial

end status

/-! ### Addresses -/

section addresses
variable {i : ℕ} {h : List TicketEvent} {libs : AppLibs} {auth : Option AuthInfo}

theorem grounded_addInboundAddress (instanceId address : String) :
    Grounded (.addInboundAddress auth instanceId address) i (fun _ _ => True)
      (addInboundAddress libs auth instanceId address) h := by
  refine grounded_then (all_guardInstanceOwnerOrSuperuser instanceId) fun _ h => ?_
  refine grounded_requireLiveInstance fun inst h hev hkind => ?_
  refine Sends.ofExcept (fun stored _ => ?_) fun _ _ => trivial
  refine ⟨trivial, fun r => ?_⟩
  rcases r with e | _ | existing
  · trivial
  · have hread : ReadSupport i (h ++ [⟨i, .getInboundAddress stored.1, .ok none⟩]) instanceId :=
      ⟨instanceId, inst, List.mem_append_left _ hev, hkind, .inl rfl⟩
    refine ⟨⟨rfl, hread, List.mem_append_right _ (List.mem_singleton_self _)⟩, fun r => ?_⟩
    rcases r with e | created <;> trivial
  · trivial

theorem grounded_removeInboundAddress (instanceId address : String) :
    Grounded (.removeInboundAddress auth instanceId address) i (fun _ _ => True)
      (removeInboundAddress libs auth instanceId address) h := by
  refine grounded_then (all_guardInstanceOwnerOrSuperuser instanceId) fun _ h => ?_
  refine ⟨trivial, fun r => ?_⟩
  rcases r with e | row
  · trivial
  refine Sends.ofOption (fun existing hexisting => ?_) fun _ => trivial
  obtain ⟨rfl, htest⟩ := Option.filter_eq_some_iff.mp hexisting
  refine ⟨⟨_, existing, List.mem_append_right _ (List.mem_singleton_self _), rfl, ?_⟩, fun r => ?_⟩
  · exact congrArg some (eq_of_beq htest).symm
  · rcases r with e | ⟨⟩ <;> trivial

end addresses

/-! ### Deliveries -/

section deliveries
variable {call : TicketCall} {i : ℕ} {h : List TicketEvent} {libs : MailLibs}

theorem minor_resolveTicket (plan : ResolutionPlan) (inst : String) :
    (resolveTicket plan inst).All fun op => op.minor := by
  have htags : ∀ tags, (resolveReplyTags inst tags).All fun op => op.minor := by
    intro tags
    induction tags with
    | nil => trivial
    | cons tag tags ih =>
        refine ⟨rfl, fun r => ?_⟩
        rcases r with e | _ | ticket
        · trivial
        · exact ih
        · show Prog.All _ (if _ then _ else _)
          split
          · trivial
          · exact ih
  have hids : ∀ mids, (resolveMessageIds inst mids).All fun op => op.minor := by
    intro mids
    induction mids with
    | nil => trivial
    | cons mid mids ih =>
        refine (minor_getTicketIdByRfcMessageId mid).bind fun found => ?_
        cases found with
        | none => exact ih
        | some ticketId =>
            refine ⟨rfl, fun r => ?_⟩
            rcases r with e | _ | ticket
            · trivial
            · exact ih
            · trivial
  have hnumber : ∀ number, (resolveSubjectNumber inst number).All fun op => op.minor := by
    intro number
    cases number with
    | none => trivial
    | some number =>
        refine Prog.All.bind ?_ fun found => ?_
        · exact Prog.All.bind (all_require ⟨rfl, fun _ => trivial⟩) fun ids => all_atMostOne _ _
        · cases found with
          | none => trivial
          | some ticketId =>
              refine Prog.All.bind (all_require ⟨rfl, fun _ => trivial⟩) fun row => ?_
              cases row <;> trivial
  refine (htags _).bind fun lookup => ?_
  cases lookup with
  | found ticket => trivial
  | crossTenant => trivial
  | notFound =>
      refine (hids _).bind fun lookup => ?_
      cases lookup with
      | found ticket => trivial
      | crossTenant => trivial
      | notFound => exact hnumber _

theorem quiet_appendToTicket (d : Delivery) (ticket : Ticket) :
    (appendToTicket d ticket).All fun op => op.quiet := by
  -- reopen or touch the ticket
  have hrest : ∀ addedAsCc, Prog.All (fun op => op.quiet) (if ticket.status = .closed then do
        require (send (.updateTicket ticket.id
          (.setStatusAndAssignee d.instanceId .open ticket.assigneeUserId d.now)))
        return ⟨ticket, false, addedAsCc, true⟩
      else do
        require (send (.updateTicket ticket.id (.touch d.now)))
        return ⟨ticket, false, addedAsCc, false⟩ : TicketProg Placement) := by
    intro addedAsCc
    split
    · exact Prog.All.bind (all_require ⟨rfl, fun _ => trivial⟩) fun _ => trivial
    · exact Prog.All.bind (all_require ⟨rfl, fun _ => trivial⟩) fun _ => trivial
  unfold appendToTicket
  by_cases hadded : (!ticket.requesterEmails.contains d.fromNormalized &&
    !ticket.ccEmails.contains d.fromNormalized) = true
  · simp only [hadded, if_true]
    exact Prog.All.bind (all_require ⟨rfl, fun _ => trivial⟩) fun _ => hrest _
  · rw [Bool.not_eq_true] at hadded
    simp only [hadded]
    exact hrest false

theorem grounded_placeMessage {d : Delivery} {lower : String → String} {resolved : Option Ticket}
    {inst : Instance} (hev : ⟨i, .getInstance d.instanceId, .ok (some inst)⟩ ∈ h)
    (hkind : inst.kind = .support) :
    Grounded call i (fun _ _ => True) (placeMessage lower d resolved) h := by
  refine grounded_after (all_require ⟨rfl, fun _ => trivial⟩) hev fun addresses h hev => ?_
  cases resolved with
  | some ticket =>
      refine grounded_then (quiet_appendToTicket d ticket) fun placement h => ?_
      exact grounded_of_basic (Prog.All.bind (all_require ⟨rfl, fun _ => trivial⟩) fun _ => trivial)
  | none =>
      refine ⟨trivial, fun r => ?_⟩
      rcases r with e | number
      · trivial
      refine ⟨⟨List.cons_ne_nil _ _, d.instanceId, inst, List.mem_append_left _ hev, hkind,
        .inl rfl⟩, fun r => ?_⟩
      rcases r with e | ticket <;> trivial

theorem grounded_deliver {d : Delivery} {inst : Instance}
    (hev : ⟨i, .getInstance d.instanceId, .ok (some inst)⟩ ∈ h) (hkind : inst.kind = .support) :
    Grounded call i (fun _ _ => True) (deliver libs d) h := by
  have hdeliver : ∀ resolved h, ⟨i, .getInstance d.instanceId, .ok (some inst)⟩ ∈ h →
      Grounded call i (fun _ _ => True) (deliverTo libs d resolved) h := by
    intro resolved h hev
    refine (grounded_placeMessage hev hkind).bind (fun placement h _ => ?_) fun _ _ _ => trivial
    refine grounded_of_basic ((basic_storeMessage ..).bind fun stored => ?_)
    exact (all_basic (minor_relayMessage ..)).bind fun _ =>
      (all_basic (minor_notifyStaff ..)).bind fun _ => trivial
  refine grounded_after (all_quiet (all_basic (minor_resolveTicket ..))) hev fun lookup h hev => ?_
  cases lookup with
  | crossTenant => trivial
  | notFound => exact hdeliver none h hev
  | found ticket => exact hdeliver (some ticket) h hev

theorem grounded_routeMail {mail : ParsedMail} {rawS3Key : Option String} {now : ℕ}
    {instanceId : String} :
    Grounded call i (fun _ _ => True) (routeMail libs mail rawS3Key now instanceId) h := by
  refine ⟨trivial, fun r => ?_⟩
  rcases r with e | inst
  · trivial
  show Grounded call i _ (if !acceptsMail inst then _ else _) _
  split
  · trivial
  · rename_i haccepts
    cases inst with
    | none => exact absurd rfl haccepts
    | some inst =>
        have hkind : inst.kind = .support := by
          simp only [acceptsMail, Bool.not_eq_true', Bool.not_eq_false, Bool.and_eq_true] at haccepts
          exact eq_of_beq haccepts.2
        have hev : ⟨i, .getInstance instanceId, .ok (some inst)⟩ ∈
            h ++ [(⟨i, .getInstance instanceId, .ok (some inst)⟩ : TicketEvent)] :=
          List.mem_append_right _ (List.mem_singleton_self _)
        cases mail.fromAddress with
        | none => trivial
        | some fromRaw =>
            refine grounded_after (all_quiet (all_basic (minor_resolveKeys _))) hev fun found h hev => ?_
            cases found with
            | some own => trivial
            | none => exact grounded_deliver hev hkind

theorem grounded_processRawMessage (sesMessageId : String) (raw : List UInt8)
    (rawS3Key : Option String) :
    Grounded call i (fun _ _ => True) (processRawMessage libs sesMessageId raw rawS3Key) h := by
  refine ⟨trivial, fun now => ⟨trivial, fun r => ?_⟩⟩
  rcases r with e | claimed
  · trivial
  show Grounded call i _ (if !claimed then _ else _) _
  split
  · trivial
  cases libs.parse raw with
  | none => trivial
  | some mail =>
      show Grounded call i _ (processMail libs mail rawS3Key now) _
      unfold processMail
      split
      · trivial
      · refine grounded_then (all_quiet (all_basic (minor_resolveKeys _))) fun found h => ?_
        cases found with
        | none => trivial
        | some instanceId => exact grounded_routeMail

end deliveries

/-! ### All calls -/

/-- Every call has its grounds. -/
theorem grounded_call {libs : MailLibs} (call : TicketCall) (i : ℕ) :
    Grounded call i (fun _ _ => True) (call.program libs) [] := by
  cases call with
  | submitTicket auth subject body => exact grounded_submitTicket subject body
  | submitVerifiedTicket auth subject body recipients cc =>
      exact grounded_submitVerifiedTicket subject body recipients cc
  | createAttachmentUpload auth ticketId filename contentType =>
      exact grounded_of_basic (basic_createAttachmentUpload ..)
  | replyToTicket auth ticketId body attachmentKeys =>
      exact grounded_of_basic (basic_replyToTicket ..)
  | addInternalNote auth ticketId body => exact grounded_of_basic (basic_addInternalNote ..)
  | setTicketStatus auth ticketId status => exact grounded_of_quiet (quiet_setTicketStatus ..)
  | assignTicket auth ticketId userId => exact grounded_of_quiet (quiet_assignTicket ..)
  | addTicketRequester auth ticketId email =>
      exact grounded_of_basic (basic_editPeople (fun _ _ => trivial) fun _ _ _ => rfl)
  | removeTicketRequester auth ticketId email =>
      exact grounded_of_basic (basic_editPeople (fun _ _ => Prog.all_ensure _ _) fun _ _ _ => rfl)
  | addTicketCc auth ticketId email =>
      exact grounded_of_basic (basic_editPeople (fun _ _ => trivial) fun _ _ _ => rfl)
  | removeTicketCc auth ticketId email =>
      exact grounded_of_basic (basic_editPeople (fun _ _ => trivial) fun _ _ _ => rfl)
  | addInboundAddress auth instanceId address => exact grounded_addInboundAddress ..
  | removeInboundAddress auth instanceId address => exact grounded_removeInboundAddress ..
  | putInstance inst =>
      exact grounded_of_quiet (Prog.All.bind (all_require ⟨rfl, fun _ => trivial⟩) fun _ => trivial)
  | processRawMessage sesMessageId raw rawS3Key =>
      exact Sends.bind (grounded_processRawMessage sesMessageId raw rawS3Key)
        (fun _ _ _ => trivial) fun _ _ _ => trivial

end Microticket

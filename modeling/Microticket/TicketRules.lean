import Microticket.Contract
import Microticket.TicketMutations

/-! # The rules of all calls

What every call on the tables of tickets respects, whatever the answers are (`TicketOp.ordered`): a
ticket is created at most once by a call, with a number that the call was given for the same
instance, and the status of a ticket is only written under the instance that the call knows it to be
of.  `sends_mutation` proves it of the mutations; a delivery keeps a stronger contract. -/

namespace Microticket

open Interleaving RustText

/-! ### The rules -/

/-- The call knows that the ticket `id` is one of `instanceId`: it has read it, or found it by a
number of the instance. -/
inductive Owned (i : ℕ) (h : List TicketEvent) : String → String → Prop
  | read {id : String} {ticket : Ticket} (hrow : ⟨i, .getTicket id, .ok (some ticket)⟩ ∈ h) :
      Owned i h ticket.id ticket.instanceId
  | numbered {id instanceId : String} {number : ℕ} {ids : List String} {ticket : Ticket}
      (hids : ⟨i, .ticketIdsByInstanceNumber (instanceNumberKey instanceId number), .ok ids⟩ ∈ h)
      (hid : id ∈ ids) (hrow : ⟨i, .getTicket id, .ok (some ticket)⟩ ∈ h) :
      Owned i h ticket.id instanceId

/-- The request creates a ticket. -/
def TicketOp.createsTicket : TicketOp → Bool
  | .createTicket .. => true
  | _ => false

/-- The rules. -/
def TicketOp.ordered (i : ℕ) (h : List TicketEvent) : TicketOp → Prop
  | .createTicket instanceId number _ _ _ =>
      ⟨i, .incrementTicketCounter instanceId, .ok number⟩ ∈ h ∧
        ∀ ev ∈ h, ev.op.createsTicket = false
  | .updateTicket id (.setStatusAndAssignee instanceId _ _ _) => Owned i h id instanceId
  | _ => True

/-- The requests that the rules do not restrict. -/
def TicketOp.plain : TicketOp → Bool
  | .createTicket .. => false
  | .updateTicket _ (.setStatusAndAssignee ..) => false
  | _ => true

/-- Those of them that create and delete no address either, and write no instance. -/
def TicketOp.basic : TicketOp → Bool
  | .createTicket .. | .createInboundAddress .. | .deleteInboundAddress _ | .putInstance _ => false
  | .updateTicket _ (.setStatusAndAssignee ..) => false
  | _ => true

/-- Those of them that store no inbound message. -/
def TicketOp.minor : TicketOp → Bool
  | .createTicketMessage content => content.kind ≠ .inbound
  | op => op.basic

theorem TicketOp.basic_of_minor {op : TicketOp} (hop : op.minor) : op.basic := by
  cases op with
  | createTicketMessage => rfl
  | _ => exact hop

theorem TicketOp.plain_of_basic {op : TicketOp} (hop : op.basic) : op.plain := by
  cases op with
  | updateTicket id change =>
      cases change with
      | setStatusAndAssignee => cases hop
      | _ => rfl
  | createTicket => cases hop
  | _ => rfl

theorem TicketOp.ordered_of_plain {i : ℕ} {h : List TicketEvent} {op : TicketOp}
    (hop : op.plain) : op.ordered i h := by
  cases op with
  | createTicket => cases hop
  | updateTicket id change =>
      cases change with
      | setStatusAndAssignee => cases hop
      | _ => trivial
  | _ => trivial

/-- The status that a call asks for. -/
def TicketCall.status : TicketCall → Option TicketStatus
  | .setTicketStatus _ _ status => some status
  | .processRawMessage .. => some .open
  | _ => none

/-- The assignee that a call asks for. -/
def TicketCall.assignee : TicketCall → Option (Option String)
  | .assignTicket _ _ userId => some userId
  | _ => none

/-- The ticket that a request was answered with. -/
def readTicket : TicketEvent → Option Ticket
  | ⟨_, .getTicket _, .ok row⟩ => row
  | _ => none

/-- The ticket that was read last. -/
def lastTicket (h : List TicketEvent) : Option Ticket := (h.filterMap readTicket).getLast?

/-- Of status and assignee a call writes the one that it asks for, and the other one as it has read
it last. -/
def TicketCall.writes (call : TicketCall) (ticket : Ticket) (status : TicketStatus)
    (assigneeUserId : Option String) : Prop :=
  call.status = some status ∧ call.assignee = none ∧ assigneeUserId = ticket.assigneeUserId ∨
    call.status = none ∧ call.assignee = some assigneeUserId ∧ status = ticket.status

/-- The call asks for what the request writes. -/
def TicketOp.asked (call : TicketCall) (h : List TicketEvent) : TicketOp → Prop
  | .updateTicket id (.setStatusAndAssignee _ status assigneeUserId _) =>
      ∃ ticket, lastTicket h = some ticket ∧ id = ticket.id ∧
        call.writes ticket status assigneeUserId
  | _ => True

theorem TicketOp.asked_of_plain {call : TicketCall} {h : List TicketEvent} {op : TicketOp}
    (hop : op.plain) : op.asked call h := by
  cases op with
  | updateTicket id change =>
      cases change with
      | setStatusAndAssignee => cases hop
      | _ => trivial
  | _ => trivial

theorem lastTicket_read {i : ℕ} {h : List TicketEvent} {id : String} {ticket : Ticket} :
    lastTicket (h ++ [⟨i, .getTicket id, .ok (some ticket)⟩]) = some ticket := by
  rw [lastTicket, List.filterMap_append]
  exact List.getLast?_concat

theorem lastTicket_concat {h : List TicketEvent} {ev : TicketEvent} (hev : readTicket ev = none) :
    lastTicket (h ++ [ev]) = lastTicket h := by
  rw [lastTicket, List.filterMap_append, List.filterMap_cons, hev]
  simp [lastTicket]

theorem readTicket_some {ev : TicketEvent} {ticket : Ticket} (hread : readTicket ev = some ticket) :
    ∃ key, ev = ⟨ev.caller, .getTicket key, .ok (some ticket)⟩ := by
  obtain ⟨j, op, r⟩ := ev
  cases op with
  | getTicket key =>
      cases r with
      | error err => cases hread
      | ok row =>
          have hrow : row = some ticket := hread
          exact ⟨key, by rw [hrow]⟩
  | _ => cases hread

/-- The ticket that was read last was read. -/
theorem lastTicket_mem {h : List TicketEvent} {ticket : Ticket} (hlast : lastTicket h = some ticket) :
    ∃ j key, (⟨j, .getTicket key, .ok (some ticket)⟩ : TicketEvent) ∈ h := by
  obtain ⟨ev, hev, hread⟩ := List.mem_filterMap.mp (List.mem_of_getLast? hlast)
  obtain ⟨key, heq⟩ := readTicket_some hread
  exact ⟨ev.caller, key, heq ▸ hev⟩

/-! ### Notices -/

/-- The requests of a staff notice. -/
def TicketOp.isNotice : TicketOp → Bool
  | .sendRaw .. | .generateNonce _ | .getInstance _ | .listMembershipsByInstance _ | .getUser _ =>
      true
  | _ => false

theorem total_mailStaff (libs : AppLibs) (notice : Notice) (recipients : List Recipient) :
    (mailStaff libs notice recipients).Total fun op => op.isNotice := by
  induction recipients with
  | nil => trivial
  | cons recipient rest ih => exact ⟨rfl, fun _ => ⟨rfl, fun _ => ih⟩⟩

theorem total_staffCandidates (memberships : List StaffMembership) :
    (staffCandidates memberships).Total fun op => op.isNotice := by
  induction memberships with
  | nil => trivial
  | cons membership rest ih =>
      refine ⟨rfl, fun r => ?_⟩
      rcases r with e | user
      · trivial
      · refine ih.bind fun candidates => ?_
        cases candidates <;> trivial

theorem total_notifyStaff (libs : AppLibs) (ticket : Ticket) (assigneeUserId : Option String)
    (event : StaffEvent) (actor : Actor) (messageBody : Option String) :
    (notifyStaff libs ticket assigneeUserId event actor messageBody).Total fun op => op.isNotice := by
  unfold notifyStaff
  split
  · trivial
  · refine ⟨rfl, fun r => ?_⟩
    rcases r with e | inst
    · trivial
    cases inst with
    | none => trivial
    | some inst =>
        refine ⟨rfl, fun r => ?_⟩
        rcases r with e | memberships
        · trivial
        refine (total_staffCandidates memberships).bind fun candidates => ?_
        cases candidates with
        | none => trivial
        | some candidates => exact total_mailStaff _ _ _

theorem minor_of_isNotice {op : TicketOp} (hop : op.isNotice) : op.minor := by
  cases op <;> first | rfl | cases hop

theorem all_basic {α : Type} {p : TicketProg α} (hp : p.All fun op => op.minor) :
    p.All fun op => op.basic := hp.mono fun _ => TicketOp.basic_of_minor

theorem minor_notifyStaff (libs : AppLibs) (ticket : Ticket) (assigneeUserId : Option String)
    (event : StaffEvent) (actor : Actor) (messageBody : Option String) :
    (notifyStaff libs ticket assigneeUserId event actor messageBody).All fun op => op.minor :=
  (total_notifyStaff ..).all.mono fun _ => minor_of_isNotice

/-- A request that propagates its failure. -/
theorem all_require {α : Type} {P : TicketOp → Prop} {p : TicketProg (Except DbError α)}
    (hp : p.All P) : (require p).All P := hp.bind fun _ => Prog.all_ofExcept _

theorem basic_sendSystemNotification (libs : AppLibs) (ticket : Ticket)
    (requesterEmails ccEmails : List String) (body : String) :
    (sendSystemNotification libs ticket requesterEmails ccEmails body).All fun op => op.basic := by
  refine Prog.All.bind ?_ fun loaded => ?_
  · refine ⟨rfl, fun r => ?_⟩
    rcases r with e | inst
    · trivial
    cases inst with
    | none => trivial
    | some inst =>
        refine ⟨rfl, fun r => ?_⟩
        cases r <;> trivial
  · cases loaded with
    | none => trivial
    | some loaded =>
        refine ⟨rfl, fun nonce => ?_⟩
        dsimp only [bind, Prog.bind]
        split
        · trivial
        · refine ⟨rfl, fun r => ?_⟩
          rcases r with e | rfcMessageId
          · trivial
          refine ⟨rfl, fun r => ?_⟩
          rcases r with e | message
          · trivial
          · exact ⟨rfl, fun _ => trivial⟩

/-! ### Authorization -/

section
variable {i : ℕ} {h : List TicketEvent} {auth : Option AuthInfo}

theorem all_guardAuthenticated {P : TicketOp → Prop} (auth : Option AuthInfo) :
    (guardAuthenticated auth).All P := by
  unfold guardAuthenticated
  split <;> trivial

theorem all_requireUserId {P : TicketOp → Prop} (auth : Option AuthInfo) :
    (requireUserId auth).All P := by
  unfold requireUserId
  split <;> trivial

theorem all_memberOfTicket {P : TicketOp → Prop} (ticketId : String) (ticket : Ticket)
    (auth : Option AuthInfo) : (memberOfTicket ticketId ticket auth).All P := by
  unfold memberOfTicket
  split
  · exact (Prog.all_ensure _ _).bind fun _ => trivial
  · trivial

theorem basic_requireTicketMember (auth : Option AuthInfo) (ticketId : String) :
    (requireTicketMember auth ticketId).All fun op => op.basic := by
  refine ⟨rfl, fun r => ?_⟩
  rcases r with e | row
  · trivial
  · exact (Prog.all_ofOption _ _).bind fun ticket => all_memberOfTicket ..

/-- The ticket that a member is let to was read. -/
theorem sends_requireTicketMember {G : List TicketEvent → TicketOp → Prop} (ticketId : String)
    (hG : G h (.getTicket ticketId)) :
    Sends i G (fun r h' => ∀ ticket, r = .ok ticket →
        h' = h ++ [⟨i, .getTicket ticketId, .ok (some ticket)⟩])
      (requireTicketMember auth ticketId) h := by
  refine ⟨hG, fun r => ?_⟩
  rcases r with e | row
  · exact nofun
  cases row with
  | none => exact nofun
  | some ticket =>
      show Sends _ _ _ (memberOfTicket ticketId ticket auth) _
      unfold memberOfTicket
      split
      · refine Sends.ensure (fun _ => ?_) fun _ => nofun
        rintro _ ⟨⟩
        rfl
      · exact nofun

end

/-! ### Programs that keep the rules -/

section orderly
variable {call : TicketCall} {i : ℕ} {h : List TicketEvent} {α : Type}

/-- The requests of a program for `call` respect the rules, and it ends in `Q`. -/
abbrev Orderly (call : TicketCall) (i : ℕ) (Q : Except Error α → List TicketEvent → Prop)
    (p : TicketProg α) (h : List TicketEvent) : Prop :=
  Sends i (fun h op => op.ordered i h ∧ op.asked call h) Q p h

theorem allowed_of_plain {op : TicketOp} (hop : op.plain) : op.ordered i h ∧ op.asked call h :=
  ⟨TicketOp.ordered_of_plain hop, TicketOp.asked_of_plain hop⟩

theorem allowed_of_basic {op : TicketOp} (hop : op.basic) : op.ordered i h ∧ op.asked call h :=
  allowed_of_plain (TicketOp.plain_of_basic hop)

theorem orderly_of_plain {p : TicketProg α} (hp : p.All fun op => op.plain) :
    Orderly call i (fun _ _ => True) p h :=
  Sends.of_all hp allowed_of_plain

theorem orderly_of_basic {p : TicketProg α} (hp : p.All fun op => op.basic) :
    Orderly call i (fun _ _ => True) p h :=
  Sends.of_all hp allowed_of_basic

/-- A part that the rules do not restrict, after which `K` still holds. -/
theorem orderly_keeps {β : Type} {p : TicketProg α} {f : α → TicketProg β}
    {Q : Except Error β → List TicketEvent → Prop} {K : List TicketEvent → Prop}
    (hp : p.All fun op => op.basic) (hK : ∀ {h op r}, op.basic → K h → K (h ++ [⟨i, op, r⟩]))
    (h₀ : K h) (hf : ∀ a h, K h → Orderly call i Q (f a) h) (herr : ∀ e h, Q (.error e) h) :
    Orderly call i Q (p >>= f) h :=
  (Sends.keeps hp (fun hop _ => allowed_of_basic hop) hK h₀).bind hf fun e h _ => herr e h

/-- The call has not created a ticket. -/
def NoTicket (h : List TicketEvent) : Prop := ∀ ev ∈ h, ev.op.createsTicket = false

theorem NoTicket.more {op : TicketOp} {r : op.Res} (hop : op.createsTicket = false)
    (hno : NoTicket h) : NoTicket (h ++ [⟨i, op, r⟩]) := by
  intro ev hev
  rcases List.mem_append.mp hev with hev | hev
  · exact hno ev hev
  · rw [List.mem_singleton.mp hev]
    exact hop

theorem not_creates_of_basic {op : TicketOp} (hop : op.basic) : op.createsTicket = false := by
  cases op <;> first | rfl | cases hop

/-- A part before the ticket is created. -/
theorem orderly_before {β : Type} {p : TicketProg α} {f : α → TicketProg β}
    {Q : Except Error β → List TicketEvent → Prop} (hp : p.All fun op => op.basic)
    (hno : NoTicket h) (hf : ∀ a h, NoTicket h → Orderly call i Q (f a) h)
    (herr : ∀ e h, Q (.error e) h) : Orderly call i Q (p >>= f) h :=
  orderly_keeps (K := NoTicket) hp (fun hop hno => hno.more (not_creates_of_basic hop)) hno hf herr

end orderly

/-! ### Submissions -/

section submissions
variable {call : TicketCall} {i : ℕ} {h : List TicketEvent} {libs : AppLibs} {auth : Option AuthInfo}

theorem orderly_openSubmittedTicket {inst : Instance} {subject body : String}
    {requesterEmails ccEmails : List String} (hno : NoTicket h) :
    Orderly call i (fun _ _ => True)
      (openSubmittedTicket inst subject body requesterEmails ccEmails) h := by
  refine ⟨⟨trivial, trivial⟩, fun r => ?_⟩
  rcases r with e | number
  · exact trivial
  have hno' : NoTicket (h ++ [⟨i, .incrementTicketCounter inst.id, .ok number⟩]) := hno.more rfl
  refine ⟨⟨⟨List.mem_append_right _ (List.mem_singleton_self _), hno'⟩, trivial⟩, fun r => ?_⟩
  rcases r with e | ticket
  · exact trivial
  refine ⟨⟨trivial, trivial⟩, fun r => ?_⟩
  rcases r with e | message
  · exact trivial
  · exact trivial

theorem basic_requireLiveInstance (instanceId : String) :
    (requireLiveInstance instanceId).All fun op => op.basic := by
  refine ⟨rfl, fun r => ?_⟩
  rcases r with e | inst
  · trivial
  · exact Prog.all_ofOption _ _

/-- The notices after a ticket was submitted. -/
theorem basic_submitted (ticket : Ticket) (requesterEmails ccEmails : List String)
    (submitter body : String) (reply : Reply) :
    (do
      sendSystemNotification libs ticket requesterEmails ccEmails acknowledgementBody
      notifyStaff libs ticket none (.newTicket submitter) (.email submitter) (some body)
      return reply : TicketProg Reply).All fun op => op.basic :=
  (basic_sendSystemNotification ..).bind fun _ => (all_basic (minor_notifyStaff ..)).bind fun _ => trivial

theorem orderly_submitTicket (subject body : String) :
    Orderly call i (fun _ _ => True) (submitTicket libs auth subject body) [] := by
  have hno : NoTicket [] := fun ev hev => by cases hev
  unfold submitTicket
  generalize trim subject = subject, trim body = body
  split
  · refine Sends.ensure (fun _ => ?_) fun _ => trivial
    refine Sends.ensure (fun _ => ?_) fun _ => trivial
    refine orderly_before (basic_requireLiveInstance _) hno (fun inst h hno => ?_) fun _ _ => trivial
    refine (orderly_openSubmittedTicket hno).bind (fun ticket h _ => ?_) fun _ _ _ => trivial
    exact orderly_of_basic (basic_submitted ..)
  · trivial

theorem orderly_submitVerifiedTicket (subject body : String) (recipients cc : List String) :
    Orderly call i (fun _ _ => True) (submitVerifiedTicket libs auth subject body recipients cc)
      [] := by
  have hno : NoTicket [] := fun ev hev => by cases hev
  unfold submitVerifiedTicket
  generalize trim subject = subject, trim body = body
  split
  · refine Sends.ensure (fun _ => ?_) fun _ => trivial
    refine Sends.ensure (fun _ => ?_) fun _ => trivial
    refine Sends.ofExcept (fun people _ => ?_) fun _ _ => trivial
    refine orderly_before (basic_requireLiveInstance _) hno (fun inst h hno => ?_) fun _ _ => trivial
    refine orderly_before (all_require ⟨rfl, fun _ => trivial⟩) hno (fun addresses h hno => ?_)
      fun _ _ => trivial
    generalize (people.1 ++ people.2).find? _ = own
    cases own with
    | some own => trivial
    | none =>
        refine (orderly_openSubmittedTicket hno).bind (fun ticket h _ => ?_) fun _ _ _ => trivial
        exact orderly_of_basic (basic_submitted ..)
  · trivial

end submissions

/-! ### Status and assignee -/

section status
variable {i : ℕ} {h : List TicketEvent} {libs : AppLibs} {auth : Option AuthInfo}

/-- A program that goes on with a ticket the member may see begins with the read of the ticket. -/
theorem sends_member {G : List TicketEvent → TicketOp → Prop} {ticketId : String}
    {f : Ticket → TicketProg Reply} {Q : Except Error Reply → List TicketEvent → Prop}
    (hG : G [] (.getTicket ticketId)) (herr : ∀ e h, Q (.error e) h)
    (hf : ∀ ticket, Sends i G Q (f ticket) [⟨i, .getTicket ticketId, .ok (some ticket)⟩]) :
    Sends i G Q (guardAuthenticated auth >>= fun _ => requireTicketMember auth ticketId >>= f) [] := by
  have hmember : Sends i G Q (requireTicketMember auth ticketId >>= f) [] :=
    (sends_requireTicketMember ticketId hG).bind (fun ticket h hh => hh ticket rfl ▸ hf ticket)
      fun e h _ => herr e h
  unfold guardAuthenticated
  split
  · exact hmember
  · exact hmember
  · exact herr _ _

theorem sends_userId {G : List TicketEvent → TicketOp → Prop} {f : String → TicketProg Reply}
    {Q : Except Error Reply → List TicketEvent → Prop} (herr : ∀ e h, Q (.error e) h)
    (hf : ∀ userId, Sends i G Q (f userId) h) : Sends i G Q (requireUserId auth >>= f) h := by
  unfold requireUserId
  split
  · exact hf _
  · exact herr _ _

theorem orderly_member {call : TicketCall} {ticketId : String} {f : Ticket → TicketProg Reply}
    (hf : ∀ ticket, Orderly call i (fun _ _ => True) (f ticket)
      [⟨i, .getTicket ticketId, .ok (some ticket)⟩]) :
    Orderly call i (fun _ _ => True) (guardAuthenticated auth >>= fun _ =>
      requireTicketMember auth ticketId >>= f) [] :=
  sends_member ⟨trivial, trivial⟩ (fun _ _ => trivial) hf

theorem orderly_userId {call : TicketCall} {f : String → TicketProg Reply}
    (hf : ∀ userId, Orderly call i (fun _ _ => True) (f userId) h) :
    Orderly call i (fun _ _ => True) (requireUserId auth >>= f) h :=
  sends_userId (fun _ _ => trivial) hf

theorem basic_noticeOfStatus (ticket : Ticket) (status : TicketStatus) :
    (noticeOfStatus libs ticket status).All fun op => op.basic := by
  unfold noticeOfStatus
  split
  · exact basic_sendSystemNotification ..
  · trivial

theorem basic_staffNoticeOfStatus (ticket : Ticket) (userId : String) (status : TicketStatus) :
    (staffNoticeOfStatus libs ticket userId status).All fun op => op.basic := by
  unfold staffNoticeOfStatus
  split
  · trivial
  · exact all_basic (minor_notifyStaff ..)

theorem basic_staffNoticeOfAssignee (ticket : Ticket) (actorId : String) (userId : Option String) :
    (staffNoticeOfAssignee libs ticket actorId userId).All fun op => op.basic := by
  unfold staffNoticeOfAssignee
  split
  · trivial
  · exact all_basic (minor_notifyStaff ..)

theorem orderly_setTicketStatus (ticketId : String) (status : TicketStatus) :
    Orderly (.setTicketStatus auth ticketId status) i (fun _ _ => True)
      (setTicketStatus libs auth ticketId status) [] := by
  refine orderly_member fun ticket => orderly_userId fun userId => ?_
  show Orderly _ i _ (if status = ticket.status then _ else _) _
  split
  · trivial
  · refine ⟨⟨trivial, trivial⟩, fun now => ⟨⟨.read List.mem_cons_self,
      ticket, rfl, rfl, .inl ⟨rfl, rfl, rfl⟩⟩, fun r => ?_⟩⟩
    rcases r with e | ⟨⟩
    · trivial
    · exact orderly_of_basic ((basic_noticeOfStatus ..).bind fun _ =>
        (basic_staffNoticeOfStatus ..).bind fun _ => trivial)

theorem orderly_assignTicket (ticketId : String) (userId : Option String) :
    Orderly (.assignTicket auth ticketId userId) i (fun _ _ => True)
      (assignTicket libs auth ticketId userId) [] := by
  refine orderly_member fun ticket => orderly_userId fun actorId => ?_
  -- the check of the assignee reads no ticket
  have hrest : ∀ h, ⟨i, .getTicket ticketId, .ok (some ticket)⟩ ∈ h → lastTicket h = some ticket →
      Orderly (.assignTicket auth ticketId userId) i (fun (_ : Except Error Reply) _ => True) (do
        let now ← send .clock
        require (send (.updateTicket ticket.id
          (.setStatusAndAssignee ticket.instanceId ticket.status userId now)))
        staffNoticeOfAssignee libs ticket actorId userId
        return .ticket { ticket with
          assigneeUserId := userId, updatedAt := now, lastActivityAt := now }) h := by
    intro h hmem hlast
    refine ⟨⟨trivial, trivial⟩, fun now => ⟨⟨.read (List.mem_append_left _ hmem), ticket,
      (lastTicket_concat rfl).trans hlast, rfl, .inr ⟨rfl, rfl, rfl⟩⟩, fun r => ?_⟩⟩
    rcases r with e | ⟨⟩
    · trivial
    · exact orderly_of_basic ((basic_staffNoticeOfAssignee ..).bind fun _ => trivial)
  cases userId with
  | none => exact hrest _ (List.mem_singleton_self _) rfl
  | some userId =>
      refine ⟨⟨trivial, trivial⟩, fun r => ?_⟩
      rcases r with e | memberships
      · trivial
      refine Sends.ensure (fun _ => ?_) fun _ => trivial
      exact hrest _ (List.mem_append_left _ (List.mem_singleton_self _)) rfl

end status

/-! ### Replies, notes and people -/

section others
variable {libs : AppLibs} {auth : Option AuthInfo}

theorem basic_createAttachmentUpload (ticketId filename contentType : String) :
    (createAttachmentUpload auth ticketId filename contentType).All fun op => op.basic := by
  refine (all_guardAuthenticated auth).bind fun _ => ?_
  refine (basic_requireTicketMember auth ticketId).bind fun ticket => ?_
  refine ⟨rfl, fun unique => ⟨rfl, fun r => ?_⟩⟩
  cases r <;> trivial

theorem basic_moveAttachments (ticket : Ticket) (messageId : String) (index : ℕ)
    (keys : List String) : (moveAttachments libs ticket messageId index keys).All fun op => op.basic := by
  induction keys generalizing index with
  | nil => trivial
  | cons key keys ih =>
      refine (Prog.all_ensure _ _).bind fun _ => ⟨rfl, fun r => ?_⟩
      cases r with
      | error e => trivial
      | ok => exact ⟨rfl, fun size => (ih _).bind fun _ => trivial⟩

theorem basic_stampAttachments (ticketId messageId : String) (stored : List Attachment) :
    (stampAttachments ticketId messageId stored).All fun op => op.basic := by
  unfold stampAttachments
  split
  · trivial
  · exact Prog.All.bind (all_require ⟨rfl, fun _ => trivial⟩) fun _ => all_require ⟨rfl, fun _ => trivial⟩

theorem basic_storeReply (ticket : Ticket) (userId body : String) (threading : Threading)
    (attachmentKeys : List String) (mail : Mime) :
    (storeReply libs ticket userId body threading attachmentKeys mail).All fun op => op.basic := by
  refine Prog.All.bind (all_require ⟨rfl, fun _ => trivial⟩) fun message => ?_
  refine Prog.All.bind (p := send .clock) ⟨rfl, fun _ => trivial⟩ fun now => ?_
  refine Prog.All.bind (all_require ⟨rfl, fun _ => trivial⟩) fun _ => ?_
  refine (basic_moveAttachments ..).bind fun stored => ?_
  refine (basic_stampAttachments ..).bind fun _ => ?_
  refine Prog.All.bind (p := send (.sendRaw mail mail.recipients mail.ccs))
    ⟨rfl, fun _ => trivial⟩ fun r => ?_
  rcases r with e | rfcMessageId
  · trivial
  · refine Prog.All.bind (all_require ⟨rfl, fun _ => trivial⟩) fun _ => ?_
    exact (all_basic (minor_notifyStaff ..)).bind fun _ => trivial

theorem basic_replyToTicket (ticketId body : String) (attachmentKeys : Option (List String)) :
    (replyToTicket libs auth ticketId body attachmentKeys).All fun op => op.basic := by
  unfold replyToTicket
  generalize trim body = body
  refine (all_guardAuthenticated auth).bind fun _ => ?_
  refine (basic_requireTicketMember auth ticketId).bind fun ticket => ?_
  refine (all_requireUserId auth).bind fun userId => ?_
  refine (Prog.all_ensure _ _).bind fun _ => ?_
  refine Prog.All.bind (all_require ⟨rfl, fun _ => trivial⟩) fun prior => ?_
  refine Prog.All.bind (all_require ⟨rfl, fun _ => trivial⟩) fun row => ?_
  refine (Prog.all_ofOption _ _).bind fun inst => ?_
  refine Prog.All.bind (all_require ⟨rfl, fun _ => trivial⟩) fun addresses => ⟨rfl, fun nonce => ?_⟩
  exact (Prog.all_ofExcept _).bind fun mail => basic_storeReply ..

theorem basic_addInternalNote (ticketId body : String) :
    (addInternalNote libs auth ticketId body).All fun op => op.basic := by
  unfold addInternalNote
  generalize trim body = body
  refine (all_guardAuthenticated auth).bind fun _ => ?_
  refine (basic_requireTicketMember auth ticketId).bind fun ticket => ?_
  refine (all_requireUserId auth).bind fun userId => ?_
  refine (Prog.all_ensure _ _).bind fun _ => ?_
  refine Prog.All.bind (all_require ⟨rfl, fun _ => trivial⟩) fun message => ?_
  refine Prog.All.bind (p := send .clock) ⟨rfl, fun _ => trivial⟩ fun now => ?_
  refine Prog.All.bind (all_require ⟨rfl, fun _ => trivial⟩) fun _ => ?_
  exact (all_basic (minor_notifyStaff ..)).bind fun _ => trivial

/-- An edit of the people does not write the status. -/
theorem basic_editPeople {ticketId email : String} {check : Ticket → String → TicketProg Unit}
    {change : String → ℕ → TicketUpdateShape} {result : Ticket → String → Ticket}
    (hcheck : ∀ ticket email, (check ticket email).All fun op => op.basic)
    (hchange : ∀ id email now, (TicketOp.updateTicket id (change email now)).basic) :
    (editPeople libs auth ticketId email check change result).All fun op => op.basic := by
  refine (all_guardAuthenticated auth).bind fun _ => ?_
  refine (basic_requireTicketMember auth ticketId).bind fun ticket => ?_
  refine (Prog.all_ofExcept _).bind fun email => ?_
  refine (hcheck ticket email).bind fun _ => ?_
  refine Prog.All.bind (p := send .clock) ⟨rfl, fun _ => trivial⟩ fun now => ?_
  exact Prog.All.bind (all_require ⟨hchange _ _ _, fun _ => trivial⟩) fun _ => trivial

theorem all_guardInstanceOwnerOrSuperuser {P : TicketOp → Prop} (instanceId : String) :
    (guardInstanceOwnerOrSuperuser instanceId auth).All P := by
  unfold guardInstanceOwnerOrSuperuser
  split
  · exact Prog.all_ensure _ _
  · trivial

theorem plain_addInboundAddress (instanceId address : String) :
    (addInboundAddress libs auth instanceId address).All fun op => op.plain := by
  refine (all_guardInstanceOwnerOrSuperuser instanceId).bind fun _ => ?_
  refine Prog.All.bind ((basic_requireLiveInstance instanceId).mono
    fun _ => TicketOp.plain_of_basic) fun _ => ?_
  refine (Prog.all_ofExcept _).bind fun stored => ?_
  refine Prog.All.bind (all_require ⟨rfl, fun _ => trivial⟩) fun row => ?_
  cases row with
  | some existing => trivial
  | none => exact Prog.All.bind (all_require ⟨rfl, fun _ => trivial⟩) fun _ => trivial

theorem plain_removeInboundAddress (instanceId address : String) :
    (removeInboundAddress libs auth instanceId address).All fun op => op.plain := by
  refine (all_guardInstanceOwnerOrSuperuser instanceId).bind fun _ => ?_
  refine Prog.All.bind (all_require ⟨rfl, fun _ => trivial⟩) fun row => ?_
  refine (Prog.all_ofOption _ _).bind fun existing => ?_
  exact Prog.All.bind (all_require ⟨rfl, fun _ => trivial⟩) fun _ => trivial

end others

/-! ### Deliveries -/

section deliveries
variable {i : ℕ} {h : List TicketEvent} {libs : MailLibs} {call : TicketCall}

theorem Owned.more {id instanceId : String} (hown : Owned i h id instanceId)
    (more : List TicketEvent) : Owned i (h ++ more) id instanceId := by
  cases hown with
  | read hrow => exact .read (List.mem_append_left _ hrow)
  | numbered hids hid hrow =>
      exact .numbered (List.mem_append_left _ hids) hid (List.mem_append_left _ hrow)

/-- The call has read the ticket last, and knows that it is one of `instanceId`. -/
def Known (i : ℕ) (h : List TicketEvent) (ticket : Ticket) (instanceId : String) : Prop :=
  Owned i h ticket.id instanceId ∧ lastTicket h = some ticket

theorem Known.more {ticket : Ticket} {instanceId : String} {ev : TicketEvent}
    (hknown : Known i h ticket instanceId) (hev : readTicket ev = none) :
    Known i (h ++ [ev]) ticket instanceId :=
  ⟨hknown.1.more _, (lastTicket_concat hev).trans hknown.2⟩

/-- What the resolution of a ticket leaves: no ticket is created, and one that it found is of the
instance. -/
def Resolution (i : ℕ) (inst : String) :
    Except Error TicketLookup → List TicketEvent → Prop
  | .ok (.found ticket), h => NoTicket h ∧ Known i h ticket inst
  | .ok _, h => NoTicket h
  | .error _, _ => True

theorem resolution_verified {inst id : String} {ticket : Ticket} (hno : NoTicket h) :
    Resolution i inst (.ok (verified inst ticket))
      (h ++ [⟨i, .getTicket id, .ok (some ticket)⟩]) := by
  have hno' : NoTicket (h ++ [⟨i, .getTicket id, .ok (some ticket)⟩]) := hno.more rfl
  unfold verified
  split
  · rename_i hinst
    exact ⟨hno', hinst ▸ .read (List.mem_append_right _ (List.mem_singleton_self _)),
      lastTicket_read⟩
  · exact hno'

theorem orderly_resolveReplyTags (inst : String) (tags : List ReplyTag) (hno : NoTicket h) :
    Orderly call i (Resolution i inst) (resolveReplyTags inst tags) h := by
  induction tags generalizing h with
  | nil => exact hno
  | cons tag tags ih =>
      refine ⟨⟨trivial, trivial⟩, fun r => ?_⟩
      rcases r with e | _ | ticket
      · trivial
      · exact ih (hno.more rfl)
      · show Orderly call i _ (if tag.verifies ticket then _ else _) _
        split
        · exact resolution_verified hno
        · exact ih (hno.more rfl)

theorem all_atMostOne {β : Type} {P : TicketOp → Prop} (describe : String) (found : List β) :
    (atMostOne describe found).All P := by
  unfold atMostOne
  split <;> trivial

theorem all_getTicketIdByRfcMessageId {P : TicketOp → Prop}
    (hids : ∀ mid, P (.messageIdsByRfcMessageId mid)) (hm : ∀ id, P (.getTicketMessage id))
    (mid : String) : (getTicketIdByRfcMessageId mid).All P := by
  refine Prog.All.bind (all_require ⟨hids mid, fun _ => trivial⟩) fun ids => ?_
  refine (all_atMostOne _ _).bind fun found => ?_
  cases found with
  | none => trivial
  | some id => exact Prog.All.bind (all_require ⟨hm id, fun _ => trivial⟩) fun _ => trivial

theorem minor_getTicketIdByRfcMessageId (mid : String) :
    (getTicketIdByRfcMessageId mid).All fun op => op.minor :=
  all_getTicketIdByRfcMessageId (fun _ => rfl) (fun _ => rfl) mid

theorem orderly_resolveMessageIds (inst : String) (mids : List String) (hno : NoTicket h) :
    Orderly call i (Resolution i inst) (resolveMessageIds inst mids) h := by
  induction mids generalizing h with
  | nil => exact hno
  | cons mid mids ih =>
      refine orderly_before (all_basic (minor_getTicketIdByRfcMessageId mid)) hno (fun found h hno => ?_)
        fun _ _ => trivial
      cases found with
      | none => exact ih hno
      | some ticketId =>
          refine ⟨⟨trivial, trivial⟩, fun r => ?_⟩
          rcases r with e | _ | ticket
          · trivial
          · exact ih (hno.more rfl)
          · exact resolution_verified hno

theorem orderly_resolveSubjectNumber (inst : String) (number : Option ℕ) (hno : NoTicket h) :
    Orderly call i (Resolution i inst) (resolveSubjectNumber inst number) h := by
  cases number with
  | none => exact hno
  | some number =>
      refine ⟨⟨trivial, trivial⟩, fun r => ?_⟩
      rcases r with e | ids
      · trivial
      have hno₁ : NoTicket (h ++ [⟨i, .ticketIdsByInstanceNumber (instanceNumberKey inst number),
        .ok ids⟩]) := hno.more rfl
      match ids, hno₁ with
      | [], hno₁ => exact hno₁
      | [id], hno₁ =>
          refine ⟨⟨trivial, trivial⟩, fun r => ?_⟩
          rcases r with e | _ | ticket
          · trivial
          · exact hno₁.more rfl
          · have hids : ⟨i, .ticketIdsByInstanceNumber (instanceNumberKey inst number), .ok [id]⟩ ∈
                h ++ [⟨i, .ticketIdsByInstanceNumber (instanceNumberKey inst number), .ok [id]⟩] ++
                  [(⟨i, .getTicket id, .ok (some ticket)⟩ : TicketEvent)] :=
              List.mem_append_left _ (List.mem_append_right _ (List.mem_singleton_self _))
            exact ⟨hno₁.more rfl, .numbered hids (List.mem_singleton_self _)
              (List.mem_append_right _ (List.mem_singleton_self _)), lastTicket_read⟩
      | id :: id' :: rest, _ => trivial

theorem orderly_resolveTicket (inst : String) (plan : ResolutionPlan) (hno : NoTicket h) :
    Orderly call i (Resolution i inst) (resolveTicket plan inst) h := by
  refine (orderly_resolveReplyTags inst plan.replyTags hno).bind (fun lookup h hres => ?_)
    fun _ _ _ => trivial
  cases lookup with
  | found ticket => exact hres
  | crossTenant => exact hres
  | notFound =>
      refine (orderly_resolveMessageIds inst plan.messageIds hres).bind (fun lookup h hres => ?_)
        fun _ _ _ => trivial
      cases lookup with
      | found ticket => exact hres
      | crossTenant => exact hres
      | notFound => exact orderly_resolveSubjectNumber inst plan.subjectNumber hres

theorem all_resolveReplyTags {P : TicketOp → Prop} (hticket : ∀ id, P (.getTicket id)) (inst : String)
    (tags : List ReplyTag) : (resolveReplyTags inst tags).All P := by
  induction tags with
  | nil => trivial
  | cons tag tags ih =>
      refine Prog.All.bind (all_require ⟨hticket _, fun _ => trivial⟩) fun row => ?_
      cases row with
      | none => exact ih
      | some ticket =>
          show Prog.All P (if tag.verifies ticket then _ else _)
          split
          · trivial
          · exact ih

theorem all_resolveMessageIds {P : TicketOp → Prop} (hticket : ∀ id, P (.getTicket id))
    (hids : ∀ mid, P (.messageIdsByRfcMessageId mid)) (hm : ∀ id, P (.getTicketMessage id))
    (inst : String) (mids : List String) : (resolveMessageIds inst mids).All P := by
  induction mids with
  | nil => trivial
  | cons mid mids ih =>
      refine (all_getTicketIdByRfcMessageId hids hm mid).bind fun found => ?_
      cases found with
      | none => exact ih
      | some ticketId =>
          refine Prog.All.bind (all_require ⟨hticket _, fun _ => trivial⟩) fun row => ?_
          cases row with
          | none => exact ih
          | some ticket => trivial

theorem all_resolveSubjectNumber {P : TicketOp → Prop} (hticket : ∀ id, P (.getTicket id))
    (hids : ∀ key, P (.ticketIdsByInstanceNumber key)) (inst : String) (number : Option ℕ) :
    (resolveSubjectNumber inst number).All P := by
  cases number with
  | none => trivial
  | some number =>
      have hnumber : (getTicketIdByInstanceNumber inst number).All P :=
        Prog.All.bind (all_require ⟨hids _, fun _ => trivial⟩) fun _ => all_atMostOne _ _
      refine hnumber.bind fun found => ?_
      cases found with
      | none => trivial
      | some ticketId =>
          refine Prog.All.bind (all_require ⟨hticket _, fun _ => trivial⟩) fun row => ?_
          cases row <;> trivial

/-- The resolution of a ticket only reads. -/
theorem all_resolveTicket {P : TicketOp → Prop} (hticket : ∀ id, P (.getTicket id))
    (hids : ∀ mid, P (.messageIdsByRfcMessageId mid)) (hm : ∀ id, P (.getTicketMessage id))
    (hnumbers : ∀ key, P (.ticketIdsByInstanceNumber key)) (plan : ResolutionPlan) (inst : String) :
    (resolveTicket plan inst).All P := by
  refine (all_resolveReplyTags hticket inst plan.replyTags).bind fun lookup => ?_
  cases lookup with
  | found ticket => trivial
  | crossTenant => trivial
  | notFound =>
      refine (all_resolveMessageIds hticket hids hm inst plan.messageIds).bind fun lookup => ?_
      cases lookup with
      | found ticket => trivial
      | crossTenant => trivial
      | notFound => exact all_resolveSubjectNumber hticket hnumbers inst plan.subjectNumber

theorem orderly_appendToTicket {d : Delivery} {ticket : Ticket}
    (hcall : call.status = some .open ∧ call.assignee = none)
    (hknown : Known i h ticket d.instanceId) :
    Orderly call i (fun _ _ => True) (appendToTicket d ticket) h := by
  -- reopen or touch the ticket
  have hrest : ∀ h, Known i h ticket d.instanceId → ∀ addedAsCc,
      Orderly call i (fun (_ : Except Error Placement) _ => True)
        (if ticket.status = .closed then do
          require (send (.updateTicket ticket.id
            (.setStatusAndAssignee d.instanceId .open ticket.assigneeUserId d.now)))
          return ⟨ticket, false, addedAsCc, true⟩
        else do
          require (send (.updateTicket ticket.id (.touch d.now)))
          return ⟨ticket, false, addedAsCc, false⟩) h := by
    intro h hknown addedAsCc
    split
    · refine ⟨⟨hknown.1, ticket, hknown.2, rfl, .inl ⟨hcall.1, hcall.2, rfl⟩⟩, fun r => ?_⟩
      rcases r with e | ⟨⟩ <;> trivial
    · exact orderly_of_basic (Prog.All.bind (all_require ⟨rfl, fun _ => trivial⟩) fun _ => trivial)
  unfold appendToTicket
  by_cases hadded : (!ticket.requesterEmails.contains d.fromNormalized &&
    !ticket.ccEmails.contains d.fromNormalized) = true
  · simp only [hadded, if_true]
    refine ⟨⟨trivial, trivial⟩, fun r => ?_⟩
    rcases r with e | ⟨⟩
    · trivial
    · exact hrest _ (hknown.more rfl) _
  · rw [Bool.not_eq_true] at hadded
    simp only [hadded]
    exact hrest h hknown false

/-- An existing ticket stays the ticket of the message. -/
theorem sends_appended {G : List TicketEvent → TicketOp → Prop} {K : List TicketEvent → Prop}
    (hG : ∀ {h id change}, K h → G h (.updateTicket id change))
    (hK : ∀ {h id change r}, K h → K (h ++ [⟨i, .updateTicket id change, r⟩])) (d : Delivery) (ticket : Ticket) (h₀ : K h) :
    Sends i G (fun r h => K h ∧ ∀ placement, r = .ok placement →
      placement.ticket = ticket ∧ placement.createdNewTicket = false) (appendToTicket d ticket) h := by
  have hrest : ∀ h, K h → ∀ addedAsCc,
      Sends i G (fun (r : Except Error Placement) h => K h ∧ ∀ placement, r = .ok placement →
          placement.ticket = ticket ∧ placement.createdNewTicket = false)
        (if ticket.status = .closed then do
          require (send (.updateTicket ticket.id
            (.setStatusAndAssignee d.instanceId .open ticket.assigneeUserId d.now)))
          return ⟨ticket, false, addedAsCc, true⟩
        else do
          require (send (.updateTicket ticket.id (.touch d.now)))
          return ⟨ticket, false, addedAsCc, false⟩) h := by
    intro h h₀ addedAsCc
    split
    all_goals
      refine ⟨hG h₀, fun r => ?_⟩
      cases r with
      | error e => exact ⟨hK h₀, nofun⟩
      | ok u =>
          refine ⟨hK h₀, fun placement heq => ?_⟩
          cases heq
          exact ⟨rfl, rfl⟩
  unfold appendToTicket
  by_cases hadded : (!ticket.requesterEmails.contains d.fromNormalized &&
    !ticket.ccEmails.contains d.fromNormalized) = true
  · simp only [hadded, if_true]
    refine ⟨hG h₀, fun r => ?_⟩
    cases r with
    | error e => exact ⟨hK h₀, nofun⟩
    | ok u => exact hrest _ (hK h₀) _
  · rw [Bool.not_eq_true] at hadded
    simp only [hadded]
    exact hrest h h₀ false

theorem orderly_openTicket {d : Delivery} {lower : String → String}
    {addresses : List InboundAddress} (hno : NoTicket h) :
    Orderly call i (fun _ _ => True) (openTicket lower addresses d) h := by
  refine ⟨⟨trivial, trivial⟩, fun r => ?_⟩
  rcases r with e | number
  · trivial
  have hno' : NoTicket (h ++ [⟨i, .incrementTicketCounter d.instanceId, .ok number⟩]) :=
    hno.more rfl
  refine ⟨⟨⟨List.mem_append_right _ (List.mem_singleton_self _), hno'⟩, trivial⟩, fun r => ?_⟩
  rcases r with e | ticket <;> trivial

theorem orderly_placeMessage {d : Delivery} {lower : String → String} {resolved : Option Ticket}
    (hcall : call.status = some .open ∧ call.assignee = none) (hno : NoTicket h)
    (hknown : ∀ ticket ∈ resolved, Known i h ticket d.instanceId) :
    Orderly call i (fun _ _ => True) (placeMessage lower d resolved) h := by
  refine ⟨⟨trivial, trivial⟩, fun r => ?_⟩
  rcases r with e | addresses
  · trivial
  cases resolved with
  | none => exact orderly_openTicket (hno.more rfl)
  | some ticket =>
      refine (orderly_appendToTicket hcall ((hknown ticket rfl).more rfl)).bind
        (fun placement h _ => ?_) fun _ _ _ => trivial
      exact orderly_of_basic (Prog.All.bind (all_require ⟨rfl, fun _ => trivial⟩) fun _ => trivial)

theorem all_storeAttachments {P : TicketOp → Prop}
    (hP : ∀ key bytes contentType, P (.putBytes key bytes contentType)) (ticketId messageId : String)
    (index : ℕ) (parts : List MailPart) : (storeAttachments ticketId messageId index parts).All P := by
  induction parts generalizing index with
  | nil => trivial
  | cons part parts ih =>
      show Prog.All _ (if _ then _ else _)
      split
      · exact ih _
      · refine ⟨hP _ _ _, fun r => ?_⟩
        cases r with
        | error e => trivial
        | ok => exact (ih _).bind fun _ => trivial

theorem minor_storeAttachments (ticketId messageId : String) (index : ℕ) (parts : List MailPart) :
    (storeAttachments ticketId messageId index parts).All fun op => op.minor :=
  all_storeAttachments (fun _ _ _ => rfl) ticketId messageId index parts

theorem all_stampMessage {P : TicketOp → Prop} (hP : ∀ id change, P (.updateTicketMessage id change))
    (messageId : String) (change : Option TicketMessageUpdateShape) :
    (stampMessage messageId change).All P := by
  cases change with
  | none => trivial
  | some change => exact all_require ⟨hP _ _, fun _ => trivial⟩

theorem minor_stampMessage (messageId : String) (change : Option TicketMessageUpdateShape) :
    (stampMessage messageId change).All fun op => op.minor :=
  all_stampMessage (fun _ _ => rfl) messageId change

theorem all_storeMessage {P : TicketOp → Prop} (hcreate : ∀ content, P (.createTicketMessage content))
    (hupdate : ∀ id change, P (.updateTicketMessage id change))
    (hput : ∀ key bytes contentType, P (.putBytes key bytes contentType))
    (hmark : ∀ id, P (.updateTicket id .markHasAttachments)) (d : Delivery) (ticketId : String) :
    (storeMessage d ticketId).All P := by
  refine Prog.All.bind (all_require ⟨hcreate _, fun _ => trivial⟩) fun message => ?_
  refine (all_stampMessage hupdate _ _).bind fun _ => (all_stampMessage hupdate _ _).bind fun _ => ?_
  refine (all_storeAttachments hput _ _ _ _).bind fun stored => ?_
  split
  · trivial
  · refine Prog.All.bind (all_require ⟨hupdate _ _, fun _ => trivial⟩) fun _ => ?_
    exact Prog.All.bind (all_require ⟨hmark _, fun _ => trivial⟩) fun _ => trivial

theorem basic_storeMessage (d : Delivery) (ticketId : String) :
    (storeMessage d ticketId).All fun op => op.basic :=
  all_storeMessage (fun _ => rfl) (fun _ _ => rfl) (fun _ _ _ => rfl) (fun _ => rfl) d ticketId

theorem minor_notifyOthers {libs : AppLibs} (ticket : Ticket) (recipients : List String)
    (body : String) : (notifyOthers libs ticket recipients body).All fun op => op.minor := by
  refine ⟨rfl, fun r => ?_⟩
  rcases r with e | _ | inst
  · trivial
  · trivial
  refine ⟨rfl, fun r => ?_⟩
  rcases r with e | addresses
  · trivial
  refine ⟨rfl, fun r => ?_⟩
  rcases r with e | prior
  · trivial
  refine ⟨rfl, fun nonce => ?_⟩
  dsimp only [bind, Prog.bind]
  split
  · trivial
  · refine ⟨rfl, fun r => ?_⟩
    rcases r with e | rfcMessageId
    · trivial
    refine ⟨rfl, fun r => ?_⟩
    rcases r with e | message
    · trivial
    · exact ⟨rfl, fun _ => trivial⟩

theorem minor_relayMessage {libs : AppLibs} (d : Delivery) (ticket : Ticket) :
    (relayMessage libs d ticket).All fun op => op.minor := by
  show Prog.All _ (if _ then _ else _)
  split
  · trivial
  · exact (minor_notifyOthers ..).void

theorem orderly_deliverTo {d : Delivery} {resolved : Option Ticket}
    (hcall : call.status = some .open ∧ call.assignee = none) (hno : NoTicket h)
    (hknown : ∀ ticket ∈ resolved, Known i h ticket d.instanceId) :
    Orderly call i (fun _ _ => True) (deliverTo libs d resolved) h := by
  refine (orderly_placeMessage hcall hno hknown).bind (fun placement h _ => ?_) fun _ _ _ => trivial
  refine orderly_of_basic ((basic_storeMessage ..).bind fun stored => ?_)
  exact (all_basic (minor_relayMessage ..)).bind fun _ => (all_basic (minor_notifyStaff ..)).bind fun _ => trivial

theorem orderly_deliver {d : Delivery}
    (hcall : call.status = some .open ∧ call.assignee = none) (hno : NoTicket h) :
    Orderly call i (fun _ _ => True) (deliver libs d) h := by
  refine (orderly_resolveTicket d.instanceId (d.mail.plan libs.lower) hno).bind
    (fun lookup h hres => ?_) fun _ _ _ => trivial
  cases lookup with
  | crossTenant => trivial
  | notFound => exact orderly_deliverTo hcall hres fun ticket ht => by cases ht
  | found ticket =>
      refine orderly_deliverTo hcall hres.1 fun ticket' ht => ?_
      obtain rfl := Option.mem_some_iff.mp ht
      exact hres.2

theorem all_resolveKeys {P : TicketOp → Prop} (hP : ∀ key, P (.getInboundAddress key))
    (keys : List String) : (resolveKeys keys).All P := by
  induction keys with
  | nil => trivial
  | cons key keys ih =>
      refine Prog.All.bind (all_require ⟨hP key, fun _ => trivial⟩) fun row => ?_
      cases row with
      | none => exact ih
      | some row => trivial

theorem minor_resolveKeys (keys : List String) : (resolveKeys keys).All fun op => op.minor :=
  all_resolveKeys (fun _ => rfl) keys

theorem orderly_routeMail {mail : ParsedMail} {rawS3Key : Option String} {now : ℕ}
    {instanceId : String} (hcall : call.status = some .open ∧ call.assignee = none)
    (hno : NoTicket h) :
    Orderly call i (fun _ _ => True) (routeMail libs mail rawS3Key now instanceId) h := by
  refine orderly_before (all_require ⟨rfl, fun _ => trivial⟩) hno (fun inst h hno => ?_)
    fun _ _ => trivial
  split
  · trivial
  · cases mail.fromAddress with
    | none => trivial
    | some fromRaw =>
        refine orderly_before (all_basic (minor_resolveKeys _)) hno (fun found h hno => ?_) fun _ _ => trivial
        cases found with
        | some own => trivial
        | none => exact orderly_deliver hcall hno

theorem orderly_processRawMessage (sesMessageId : String) (raw : List UInt8)
    (rawS3Key : Option String) (hcall : call.status = some .open ∧ call.assignee = none) :
    Orderly call i (fun _ _ => True) (processRawMessage libs sesMessageId raw rawS3Key) [] := by
  refine orderly_before (p := send .clock) ⟨rfl, fun _ => trivial⟩ (fun ev hev => by cases hev)
    (fun now h hno => ?_) fun _ _ => trivial
  refine orderly_before (all_require ⟨rfl, fun _ => trivial⟩) hno (fun claimed h hno => ?_)
    fun _ _ => trivial
  split
  · trivial
  cases libs.parse raw with
  | none => trivial
  | some mail =>
      show Orderly call i _ (processMail libs mail rawS3Key now) h
      unfold processMail
      split
      · trivial
      · refine orderly_before (all_basic (minor_resolveKeys _)) hno (fun found h hno => ?_) fun _ _ => trivial
        cases found with
        | none => trivial
        | some instanceId => exact orderly_routeMail hcall hno

end deliveries

/-! ### All calls -/

/-- Every call keeps the rules. -/
theorem orderly_call {libs : MailLibs} (call : TicketCall) (i : ℕ) :
    Orderly call i (fun _ _ => True) (call.program libs) [] := by
  cases call with
  | submitTicket auth subject body => exact orderly_submitTicket subject body
  | submitVerifiedTicket auth subject body recipients cc =>
      exact orderly_submitVerifiedTicket subject body recipients cc
  | createAttachmentUpload auth ticketId filename contentType =>
      exact orderly_of_basic (basic_createAttachmentUpload ..)
  | replyToTicket auth ticketId body attachmentKeys => exact orderly_of_basic (basic_replyToTicket ..)
  | addInternalNote auth ticketId body => exact orderly_of_basic (basic_addInternalNote ..)
  | setTicketStatus auth ticketId status => exact orderly_setTicketStatus ticketId status
  | assignTicket auth ticketId userId => exact orderly_assignTicket ticketId userId
  | addTicketRequester auth ticketId email =>
      exact orderly_of_basic (basic_editPeople (fun _ _ => trivial) fun _ _ _ => rfl)
  | removeTicketRequester auth ticketId email =>
      exact orderly_of_basic (basic_editPeople (fun _ _ => Prog.all_ensure _ _) fun _ _ _ => rfl)
  | addTicketCc auth ticketId email =>
      exact orderly_of_basic (basic_editPeople (fun _ _ => trivial) fun _ _ _ => rfl)
  | removeTicketCc auth ticketId email =>
      exact orderly_of_basic (basic_editPeople (fun _ _ => trivial) fun _ _ _ => rfl)
  | addInboundAddress auth instanceId address => exact orderly_of_plain (plain_addInboundAddress ..)
  | removeInboundAddress auth instanceId address =>
      exact orderly_of_plain (plain_removeInboundAddress ..)
  | putInstance inst =>
      exact orderly_of_plain (Prog.All.bind (all_require ⟨rfl, fun _ => trivial⟩) fun _ => trivial)
  | processRawMessage sesMessageId raw rawS3Key =>
      exact Sends.bind (orderly_processRawMessage sesMessageId raw rawS3Key ⟨rfl, rfl⟩)
        (fun _ _ _ => trivial) fun _ _ _ => trivial

end Microticket

import Microticket.TicketRules

/-! # What a delivery sends

The contract of `process_raw_message`: what it sends, and how it ends, given its own requests with
their answers so far (its history `h`, oldest first).

* `firstVerified` is the first candidate of the resolution plan that verifies, by the answers.
* A delivery writes a ticket or a message, or sends mail, only once its history is `Accepted`: it has
  claimed the message, the recipients are routed to an instance, and the first candidate that
  verifies, if any, is a ticket of that instance.
* `FoundBy` is how the ticket was found, `TicketOf` why a ticket is one of the instance.
* `Refused` are the answers that let a delivery fail, and `Delivered` says how it ends otherwise. -/

namespace Microticket

open Interleaving RustText

/-! ### Candidates -/

/-- A candidate of a plan: a reply tag or a message id. -/
inductive Candidate where
  | tag (tag : ReplyTag)
  | messageId (mid : String)

/-- The candidates, in the order they are tried. -/
def ResolutionPlan.candidates (plan : ResolutionPlan) : List Candidate :=
  plan.replyTags.map .tag ++ plan.messageIds.map .messageId

/-- A read of a ticket or a message. -/
def TicketOp.isLookup : TicketOp → Bool
  | .getTicket _ | .messageIdsByRfcMessageId _ | .getTicketMessage _ => true
  | _ => false

/-- The reads of tickets and messages, in order. -/
def lookups (h : List TicketEvent) : List TicketEvent := h.filter fun ev => ev.op.isLookup

/-- What the answers `evs` say of a candidate: the ticket it verifies, if any, and the answers that
are left for the next one; `none` if its lookups are not all answered. -/
def Candidate.read : Candidate → List TicketEvent → Option (Option Ticket × List TicketEvent)
  | .tag t, ⟨_, .getTicket _, .ok row⟩ :: evs => some (row.filter t.verifies, evs)
  | .messageId _, ⟨_, .messageIdsByRfcMessageId _, .ok []⟩ :: evs => some (none, evs)
  | .messageId _, ⟨_, .messageIdsByRfcMessageId _, .ok [_]⟩ ::
      ⟨_, .getTicketMessage _, .ok none⟩ :: evs => some (none, evs)
  | .messageId _, ⟨_, .messageIdsByRfcMessageId _, .ok [_]⟩ ::
      ⟨_, .getTicketMessage _, .ok (some _)⟩ :: ⟨_, .getTicket _, .ok row⟩ :: evs => some (row, evs)
  | _, _ => none

/-- The ticket of the first candidate that verifies, by the answers `evs`. -/
def firstVerified : List Candidate → List TicketEvent → Option Ticket
  | [], _ => none
  | candidate :: rest, evs => match candidate.read evs with
    | some (some ticket, _) => some ticket
    | some (none, evs) => firstVerified rest evs
    | none => none

/-! ### Requests -/

/-- The requests that write a ticket or a message, or send mail. -/
def TicketOp.touches : TicketOp → Bool
  | .incrementTicketCounter _ | .createTicket .. | .updateTicket .. | .createTicketMessage _
  | .updateTicketMessage .. | .sendRaw .. => true
  | _ => false

/-- The requests that store an inbound message. -/
def TicketOp.storesInbound : TicketOp → Bool
  | .createTicketMessage content => content.kind = .inbound
  | _ => false

/-- The instance of the first address that was found. -/
def firstInstance (h : List TicketEvent) : Option String :=
  h.findSome? fun
    | ⟨_, .getInboundAddress _, .ok (some row)⟩ => some row.instanceId
    | _ => none

/-- The request looks one of `keys` up among the inbound addresses. -/
def TicketOp.asksFor (keys : List String) : TicketOp → Bool
  | .getInboundAddress address => keys.contains address
  | _ => false

/-- The keys of the recipients of a message, `To` then `Cc`. -/
def ParsedMail.recipientKeys (lower : String → String) (mail : ParsedMail) : List String :=
  mail.allRecipients.flatMap (lookupKeys lower)

/-- The instance that the recipients of a message are routed to, by the answers. -/
def routedTo (lower : String → String) (mail : ParsedMail) (h : List TicketEvent) :
    Option String :=
  firstInstance (h.filter fun ev => ev.op.asksFor (mail.recipientKeys lower))

section contract
variable (libs : MailLibs) (i : ℕ) (sesMessageId : String) (raw : List UInt8)

/-- The ticket has the address among its people. -/
def Ticket.involves (ticket : Ticket) (address : String) : Bool :=
  ticket.requesterEmails.contains address || ticket.ccEmails.contains address

/-- How the ticket of the instance `inst` was found for a message. -/
inductive FoundBy (mail : ParsedMail) (inst : String) (h : List TicketEvent) (ticket : Ticket) : Prop
  | tag {tag : ReplyTag} (htag : tag ∈ (mail.plan libs.lower).replyTags)
      (hrow : ⟨i, .getTicket tag.ticketId, .ok (some ticket)⟩ ∈ h) (hverifies : tag.verifies ticket)
      (hinst : ticket.instanceId = inst)
  | messageId {mid id : String} {m : TicketMessage}
      (hmid : mid ∈ (mail.plan libs.lower).messageIds)
      (hids : ⟨i, .messageIdsByRfcMessageId mid, .ok [id]⟩ ∈ h)
      (hm : ⟨i, .getTicketMessage id, .ok (some m)⟩ ∈ h)
      (hrow : ⟨i, .getTicket m.content.ticketId, .ok (some ticket)⟩ ∈ h)
      (hinst : ticket.instanceId = inst)
  | number {number : ℕ} {id : String} (hnumber : (mail.plan libs.lower).subjectNumber = some number)
      (hrow : [⟨i, .ticketIdsByInstanceNumber (instanceNumberKey inst number), .ok [id]⟩,
        ⟨i, .getTicket id, .ok (some ticket)⟩] <:+: h)

/-- The ticket `id` is one of the instance `inst`. -/
inductive TicketOf (mail : ParsedMail) (inst : String) (h : List TicketEvent) : String → Prop
  | found {ticket : Ticket} (hfound : FoundBy libs i mail inst h ticket) : TicketOf mail inst h ticket.id
  | created {number : ℕ} {subject : String} {requesterEmails ccEmails : List String}
      {ticket : Ticket}
      (hev : ⟨i, .createTicket inst number subject requesterEmails ccEmails, .ok ticket⟩ ∈ h) :
      TicketOf mail inst h ticket.id
  | reread {id : String} {ticket : Ticket} (hid : TicketOf mail inst h id)
      (hev : ⟨i, .getTicket id, .ok (some ticket)⟩ ∈ h) : TicketOf mail inst h ticket.id

/-- The history lets the delivery store the message `mail` on a ticket of the instance `inst`. -/
structure Accepted (mail : ParsedMail) (inst : String) (h : List TicketEvent) : Prop where
  claimed : ∃ now expiresAt, ⟨i, .claimProcessedMessage sesMessageId now expiresAt, .ok true⟩ ∈ h
  parsed : libs.parse raw = some mail
  routed : routedTo libs.lower mail h = some inst
  verified : ∀ more, ∀ ticket ∈
    firstVerified (mail.plan libs.lower).candidates (lookups h ++ more), ticket.instanceId = inst

/-- The normalized sender of a message. -/
def ParsedMail.sentBy (lower : String → String) (mail : ParsedMail) : Option String :=
  mail.fromAddress.map fun fromRaw => (normalizeRecipient lower fromRaw).address

/-- What a request of an accepted delivery may name. -/
def TicketOp.within (mail : ParsedMail) (inst : String) (h : List TicketEvent) : TicketOp → Prop
  | .incrementTicketCounter instanceId | .createTicket instanceId .. => instanceId = inst
  | .updateTicket id change => TicketOf libs i mail inst h id ∧ ∀ email now, change = .addCc email now →
      mail.sentBy libs.lower = some email ∧
      ∃ ticket, ticket.id = id ∧ FoundBy libs i mail inst h ticket ∧ ticket.involves email = false
  | .createTicketMessage content => TicketOf libs i mail inst h content.ticketId ∧
      (content.kind = .inbound → ∀ ev ∈ h, ev.op.storesInbound = false)
  | .updateTicketMessage id _ => ∃ content m, TicketOf libs i mail inst h content.ticketId ∧
      ⟨i, .createTicketMessage content, .ok m⟩ ∈ h ∧ m.id = id
  | _ => True

/-- What a delivery may send. -/
structure Permits (h : List TicketEvent) (op : TicketOp) : Prop where
  claims : ∀ {ses now expiresAt}, op = .claimProcessedMessage ses now expiresAt → ses = sesMessageId
  touches : op.touches → ∃ mail inst, Accepted libs i sesMessageId raw mail inst h ∧
    op.within libs i mail inst h

/-- An answer that lets a delivery fail. -/
def Refused (h : List TicketEvent) : TicketEvent → Prop
  | ⟨_, .claimProcessedMessage .., .error _⟩ => True
  | ⟨_, .getInboundAddress _, .error _⟩ => True
  | ⟨_, .getInstance _, .error _⟩ => True
  | ⟨_, .listInboundAddressesByInstance _, .error _⟩ => True
  | ⟨_, .getTicket _, .error _⟩ => True
  | ⟨_, .getTicketMessage _, .error _⟩ => True
  | ⟨_, .ticketIdsByInstanceNumber _, .error _⟩ => True
  | ⟨_, .ticketIdsByInstanceNumber _, .ok ids⟩ => 1 < ids.length
  | ⟨_, .messageIdsByRfcMessageId _, .error _⟩ => True
  | ⟨_, .messageIdsByRfcMessageId _, .ok ids⟩ => 1 < ids.length
  | ⟨_, .incrementTicketCounter _, .error _⟩ => True
  | ⟨_, .createTicket .., .error _⟩ => True
  | ⟨_, .updateTicket .., .error _⟩ => True
  | ⟨_, .putBytes .., .error _⟩ => True
  | ⟨_, .createTicketMessage content, .error _⟩ => content.kind = .inbound
  | ⟨_, .updateTicketMessage id _, .error _⟩ =>
      ∃ content m, content.kind = .inbound ∧ ⟨i, .createTicketMessage content, .ok m⟩ ∈ h ∧ m.id = id
  | _ => False

/-- How a delivery ends: it drops the message and has touched nothing, or it has stored the message
once, on one ticket, or an answer refused it. -/
def Ends : Except Error Outcome → List TicketEvent → Prop
  | .ok outcome, h =>
      (outcome.droppedReason.isSome ∧ ∀ ev ∈ h, ev.op.touches = false) ∨
      ∃ mail inst content m, Accepted libs i sesMessageId raw mail inst h ∧
        TicketOf libs i mail inst h content.ticketId ∧ content.kind = .inbound ∧
        h.filter (fun ev => ev.op.storesInbound) = [⟨i, .createTicketMessage content, .ok m⟩] ∧
        outcome.droppedReason = none ∧ outcome.ticketId = some content.ticketId ∧
        outcome.messageId = some m.id
  | .error _, h => ∃ ev ∈ h, Refused i h ev

end contract

/-! ### Histories grow -/

section grow
variable {libs : MailLibs} {i : ℕ} {sesMessageId : String} {raw : List UInt8} {mail : ParsedMail}
variable {inst : String} {h : List TicketEvent} {op : TicketOp}

theorem lookups_append (h more : List TicketEvent) :
    lookups (h ++ more) = lookups h ++ lookups more := List.filter_append ..

theorem routedTo_append (lower : String → String) (mail : ParsedMail) (h more : List TicketEvent) :
    routedTo lower mail (h ++ more) = (routedTo lower mail h).or (routedTo lower mail more) := by
  unfold routedTo firstInstance
  rw [List.filter_append, List.findSome?_append]

/-- The lookups of the recipients decide the route. -/
theorem routedTo_recipients {lower : String → String} {mail : ParsedMail} {evs : List TicketEvent}
    (hevs : ∀ ev ∈ evs, ∃ address ∈ mail.recipientKeys lower, ev.op = .getInboundAddress address) :
    routedTo lower mail evs = firstInstance evs := by
  unfold routedTo
  rw [List.filter_eq_self.mpr]
  intro ev hev
  obtain ⟨address, hmem, hop⟩ := hevs ev hev
  rw [hop]
  exact List.contains_iff_mem.mpr hmem

theorem FoundBy.more {ticket : Ticket} (hfound : FoundBy libs i mail inst h ticket)
    (more : List TicketEvent) : FoundBy libs i mail inst (h ++ more) ticket := by
  cases hfound with
  | tag htag hrow hverifies hinst =>
      exact .tag htag (List.mem_append_left _ hrow) hverifies hinst
  | messageId hmid hids hm hrow hinst =>
      exact .messageId hmid (List.mem_append_left _ hids) (List.mem_append_left _ hm)
        (List.mem_append_left _ hrow) hinst
  | number hnumber hrow => exact .number hnumber (hrow.trans (List.prefix_append h more).isInfix)

theorem TicketOf.more {id : String} (hid : TicketOf libs i mail inst h id)
    (more : List TicketEvent) : TicketOf libs i mail inst (h ++ more) id := by
  induction hid with
  | found hfound => exact .found (hfound.more more)
  | created hev => exact .created (List.mem_append_left _ hev)
  | reread _ hev ih => exact .reread ih (List.mem_append_left _ hev)

theorem Accepted.more (hacc : Accepted libs i sesMessageId raw mail inst h)
    (more : List TicketEvent) : Accepted libs i sesMessageId raw mail inst (h ++ more) where
  claimed := by
    obtain ⟨now, expiresAt, hev⟩ := hacc.claimed
    exact ⟨now, expiresAt, List.mem_append_left _ hev⟩
  parsed := hacc.parsed
  routed := by rw [routedTo_append, hacc.routed, Option.some_or]
  verified rest ticket hticket := by
    rw [lookups_append, List.append_assoc] at hticket
    exact hacc.verified _ ticket hticket

/-- A request that touches nothing is permitted, unless it claims another message. -/
theorem Permits.of_read (htouches : op.touches = false)
    (hclaim : ∀ {ses now expiresAt}, op ≠ .claimProcessedMessage ses now expiresAt) :
    Permits libs i sesMessageId raw h op where
  claims heq := absurd heq hclaim
  touches ht := by
    rw [htouches] at ht
    cases ht

/-- A request of an accepted delivery within its instance is permitted. -/
theorem Permits.of_accepted (hacc : Accepted libs i sesMessageId raw mail inst h)
    (hwithin : op.within libs i mail inst h)
    (hclaim : ∀ {ses now expiresAt}, op ≠ .claimProcessedMessage ses now expiresAt) :
    Permits libs i sesMessageId raw h op where
  claims heq := absurd heq hclaim
  touches _ := ⟨mail, inst, hacc, hwithin⟩

/-- The history of a delivery that has been routed and has touched nothing. -/
structure Routed (libs : MailLibs) (i : ℕ) (sesMessageId : String) (raw : List UInt8)
    (mail : ParsedMail) (inst : String) (h : List TicketEvent) : Prop where
  claimed : ∃ now expiresAt, ⟨i, .claimProcessedMessage sesMessageId now expiresAt, .ok true⟩ ∈ h
  parsed : libs.parse raw = some mail
  routed : routedTo libs.lower mail h = some inst
  untouched : ∀ ev ∈ h, ev.op.touches = false

theorem Routed.read (hr : Routed libs i sesMessageId raw mail inst h) (op : TicketOp)
    (hop : op.touches = false) (r : op.Res) : Routed libs i sesMessageId raw mail inst (h ++ [⟨i, op, r⟩]) where
  claimed := by
    obtain ⟨now, expiresAt, hev⟩ := hr.claimed
    exact ⟨now, expiresAt, List.mem_append_left _ hev⟩
  parsed := hr.parsed
  routed := by rw [routedTo_append, hr.routed, Option.some_or]
  untouched ev hev := by
    rcases List.mem_append.mp hev with hev | hev
    · exact hr.untouched ev hev
    · rw [List.mem_singleton.mp hev]
      exact hop

theorem Routed.accepted (hr : Routed libs i sesMessageId raw mail inst h)
    (hverified : ∀ more, ∀ ticket ∈
      firstVerified (mail.plan libs.lower).candidates (lookups h ++ more),
      ticket.instanceId = inst) : Accepted libs i sesMessageId raw mail inst h :=
  ⟨hr.claimed, hr.parsed, hr.routed, hverified⟩

end grow

/-! ### Resolving the ticket -/

section resolve
variable (libs : MailLibs) (i : ℕ) (sesMessageId : String) (raw : List UInt8)

/-- How the lookup of the addresses of `keys` ends. -/
theorem sends_resolveKeys (keys : List String) (h : List TicketEvent) :
    Sends i (Permits libs i sesMessageId raw)
      (fun r h' => match r with
        | .ok found => ∃ evs, h' = h ++ evs ∧ firstInstance evs = found ∧
            ∀ ev ∈ evs, ∃ address ∈ keys, ev.op = .getInboundAddress address
        | .error _ => ∃ ev ∈ h', Refused i h' ev)
      (resolveKeys keys) h := by
  induction keys generalizing h with
  | nil => exact ⟨[], (List.append_nil h).symm, rfl, by simp⟩
  | cons key keys ih =>
      refine ⟨.of_read rfl nofun, fun r => ?_⟩
      rcases r with e | row
      · exact ⟨_, List.mem_append_right _ (List.mem_singleton_self _), trivial⟩
      · cases row with
        | some row => exact ⟨_, rfl, rfl, by simp⟩
        | none =>
            refine (ih _).post fun r h' hr => ?_
            cases r with
            | error e => exact hr
            | ok found =>
                obtain ⟨evs, rfl, hfound, hevs⟩ := hr
                refine ⟨⟨i, .getInboundAddress key, .ok none⟩ :: evs, by simp, hfound, ?_⟩
                intro ev hev
                rcases List.mem_cons.mp hev with rfl | hev
                · exact ⟨key, List.mem_cons_self, rfl⟩
                · obtain ⟨address, hmem, hop⟩ := hevs ev hev
                  exact ⟨address, List.mem_cons_of_mem _ hmem, hop⟩

variable {libs i sesMessageId raw} {mail : ParsedMail} {inst : String} {h : List TicketEvent}

/-- The candidates that are left to try. -/
def Scanning (libs : MailLibs) (mail : ParsedMail) (h : List TicketEvent)
    (rest : List Candidate) : Prop :=
  ∀ more, firstVerified (mail.plan libs.lower).candidates (lookups h ++ more) =
    firstVerified rest more

/-- How a part of the resolution ends, when the candidates `rest` are left after it. -/
def Resolves (libs : MailLibs) (i : ℕ) (sesMessageId : String) (raw : List UInt8)
    (mail : ParsedMail) (inst : String) (rest : List Candidate) :
    Except Error TicketLookup → List TicketEvent → Prop
  | .ok .notFound, h => Routed libs i sesMessageId raw mail inst h ∧ Scanning libs mail h rest
  | .ok .crossTenant, h => Routed libs i sesMessageId raw mail inst h
  | .ok (.found ticket), h => Routed libs i sesMessageId raw mail inst h ∧
      FoundBy libs i mail inst h ticket ∧ Accepted libs i sesMessageId raw mail inst h
  | .error _, h => ∃ ev ∈ h, Refused i h ev

/-- A candidate that did not verify is passed over. -/
theorem Scanning.next {candidate : Candidate} {rest : List Candidate} {evs : List TicketEvent}
    (hs : Scanning libs mail h (candidate :: rest)) (hevs : lookups evs = evs)
    (hread : ∀ more, candidate.read (evs ++ more) = some (none, more)) :
    Scanning libs mail (h ++ evs) rest := by
  intro more
  rw [lookups_append, hevs, List.append_assoc, hs, firstVerified, hread]

/-- A candidate that verified is the first one. -/
theorem Scanning.verified {candidate : Candidate} {rest : List Candidate}
    {evs : List TicketEvent} {ticket : Ticket}
    (hs : Scanning libs mail h (candidate :: rest)) (hevs : lookups evs = evs)
    (hread : ∀ more, candidate.read (evs ++ more) = some (some ticket, more)) :
    ∀ more, ∀ t ∈ firstVerified (mail.plan libs.lower).candidates (lookups (h ++ evs) ++ more),
      t = ticket := by
  intro more t ht
  rw [lookups_append, hevs, List.append_assoc, hs, firstVerified, hread] at ht
  exact (Option.some.inj ht).symm

/-- A candidate that verified ends the resolution. -/
theorem resolves_verified {rest : List Candidate} {ticket : Ticket}
    (hr : Routed libs i sesMessageId raw mail inst h)
    (hfirst : ∀ more, ∀ t ∈ firstVerified (mail.plan libs.lower).candidates (lookups h ++ more),
      t = ticket)
    (hfound : ticket.instanceId = inst → FoundBy libs i mail inst h ticket) :
    Resolves libs i sesMessageId raw mail inst rest (.ok (verified inst ticket)) h := by
  unfold verified
  by_cases hinst : ticket.instanceId = inst
  · rw [if_pos hinst]
    refine ⟨hr, hfound hinst, hr.accepted fun more t ht => ?_⟩
    rw [hfirst more t ht, hinst]
  · rw [if_neg hinst]
    exact hr

theorem sends_resolveReplyTags {rest : List Candidate} (tags : List ReplyTag)
    (htags : ∀ tag ∈ tags, tag ∈ (mail.plan libs.lower).replyTags)
    (hr : Routed libs i sesMessageId raw mail inst h)
    (hs : Scanning libs mail h (tags.map .tag ++ rest)) :
    Sends i (Permits libs i sesMessageId raw) (Resolves libs i sesMessageId raw mail inst rest)
      (resolveReplyTags inst tags) h := by
  induction tags generalizing h with
  | nil => exact ⟨hr, hs⟩
  | cons tag tags ih =>
      obtain ⟨htag, htags⟩ := List.forall_mem_cons.mp htags
      refine ⟨.of_read rfl nofun, fun r => ?_⟩
      rcases r with e | row
      · exact ⟨_, List.mem_append_right _ (List.mem_singleton_self _), trivial⟩
      · have hr' := hr.read (.getTicket tag.ticketId) rfl (.ok row)
        cases row with
        | none => exact ih htags hr' (hs.next rfl fun _ => rfl)
        | some ticket =>
            show Sends _ _ _ (if tag.verifies ticket then _ else _) _
            by_cases hverifies : tag.verifies ticket
            · rw [if_pos hverifies]
              refine resolves_verified hr' (hs.verified rfl fun more => ?_) fun hinst => ?_
              · show some ((some ticket).filter tag.verifies, more) = _
                rw [Option.filter_some, if_pos hverifies]
              · exact .tag htag (List.mem_append_right _ (List.mem_singleton_self _)) hverifies hinst
            · rw [if_neg hverifies]
              refine ih htags hr' (hs.next rfl fun more => ?_)
              show some ((some ticket).filter tag.verifies, more) = _
              rw [Option.filter_some, if_neg hverifies]

theorem sends_atMostOne {α β : Type} {describe : String} {found : List α}
    {f : Option α → TicketProg β} {Q : Except Error β → List TicketEvent → Prop}
    (hmany : 1 < found.length → ∀ e, Q (.error e) h)
    (hok : ∀ a, found = a.toList → Sends i (Permits libs i sesMessageId raw) Q (f a) h) :
    Sends i (Permits libs i sesMessageId raw) Q (atMostOne describe found >>= f) h := by
  match found, hmany, hok with
  | [], _, hok => exact hok none rfl
  | [a], _, hok => exact hok (some a) rfl
  | a :: b :: rest, hmany, _ => exact hmany (by simp) _

theorem sends_resolveMessageIds {rest : List Candidate} (mids : List String)
    (hmids : ∀ mid ∈ mids, mid ∈ (mail.plan libs.lower).messageIds)
    (hr : Routed libs i sesMessageId raw mail inst h)
    (hs : Scanning libs mail h (mids.map .messageId ++ rest)) :
    Sends i (Permits libs i sesMessageId raw) (Resolves libs i sesMessageId raw mail inst rest)
      (resolveMessageIds inst mids) h := by
  induction mids generalizing h with
  | nil => exact ⟨hr, hs⟩
  | cons mid mids ih =>
      obtain ⟨hmid, hmids⟩ := List.forall_mem_cons.mp hmids
      unfold resolveMessageIds getTicketIdByRfcMessageId
      rw [Prog.bind_assoc]
      refine ⟨.of_read rfl nofun, fun r => ?_⟩
      rcases r with e | ids
      · exact ⟨_, List.mem_append_right _ (List.mem_singleton_self _), trivial⟩
      · have hr₁ := hr.read (.messageIdsByRfcMessageId mid) rfl (.ok ids)
        show Sends _ _ _ ((atMostOne _ ids >>= _) >>= _) _
        rw [Prog.bind_assoc]
        refine sends_atMostOne (fun hmany _ => ?_) fun a hids => ?_
        · exact ⟨_, List.mem_append_right _ (List.mem_singleton_self _), hmany⟩
        cases a with
        | none =>
            subst hids
            exact ih hmids hr₁ (hs.next rfl fun _ => rfl)
        | some id =>
            subst hids
            refine ⟨.of_read rfl nofun, fun r => ?_⟩
            rcases r with e | m
            · exact ⟨_, List.mem_append_right _ (List.mem_singleton_self _), trivial⟩
            have hr₂ := hr₁.read (.getTicketMessage id) rfl (.ok m)
            cases m with
            | none =>
                rw [List.append_assoc] at hr₂ ⊢
                exact ih hmids hr₂ (hs.next rfl fun _ => rfl)
            | some m =>
                refine ⟨.of_read rfl nofun, fun r => ?_⟩
                rcases r with e | row
                · exact ⟨_, List.mem_append_right _ (List.mem_singleton_self _), trivial⟩
                have hr₃ := hr₂.read (.getTicket m.content.ticketId) rfl (.ok row)
                rw [List.append_assoc, List.append_assoc] at hr₃ ⊢
                cases row with
                | none => exact ih hmids hr₃ (hs.next rfl fun _ => rfl)
                | some ticket =>
                    refine resolves_verified hr₃ (hs.verified rfl fun _ => rfl) fun hinst => ?_
                    have hids : ∀ evs, (⟨i, .messageIdsByRfcMessageId mid, .ok [id]⟩ : TicketEvent) ∈
                        h ++ ⟨i, .messageIdsByRfcMessageId mid, .ok [id]⟩ :: evs :=
                      fun evs => List.mem_append_right _ List.mem_cons_self
                    refine .messageId (m := m) hmid (hids _) ?_ ?_ hinst
                    · exact List.mem_append_right _ (List.mem_cons_of_mem _ List.mem_cons_self)
                    · exact List.mem_append_right _
                        (List.mem_cons_of_mem _ (List.mem_cons_of_mem _ List.mem_cons_self))

/-- How the whole resolution ends. -/
def Resolved (libs : MailLibs) (i : ℕ) (sesMessageId : String) (raw : List UInt8)
    (mail : ParsedMail) (inst : String) : Except Error TicketLookup → List TicketEvent → Prop
  | .ok .notFound, h => Routed libs i sesMessageId raw mail inst h ∧
      Accepted libs i sesMessageId raw mail inst h
  | .ok .crossTenant, h => Routed libs i sesMessageId raw mail inst h
  | .ok (.found ticket), h => Routed libs i sesMessageId raw mail inst h ∧
      FoundBy libs i mail inst h ticket ∧ Accepted libs i sesMessageId raw mail inst h
  | .error _, h => ∃ ev ∈ h, Refused i h ev

theorem sends_resolveSubjectNumber (hr : Routed libs i sesMessageId raw mail inst h)
    (hacc : Accepted libs i sesMessageId raw mail inst h) :
    Sends i (Permits libs i sesMessageId raw) (Resolved libs i sesMessageId raw mail inst)
      (resolveSubjectNumber inst (mail.plan libs.lower).subjectNumber) h := by
  rcases hnumber : (mail.plan libs.lower).subjectNumber with _ | number
  · exact ⟨hr, hacc⟩
  · show Sends _ _ _ (getTicketIdByInstanceNumber inst number >>= _) _
    unfold getTicketIdByInstanceNumber
    rw [Prog.bind_assoc]
    refine ⟨.of_read rfl nofun, fun r => ?_⟩
    rcases r with e | ids
    · exact ⟨_, List.mem_append_right _ (List.mem_singleton_self _), trivial⟩
    have hr₁ := hr.read (.ticketIdsByInstanceNumber (instanceNumberKey inst number)) rfl
      (.ok ids)
    have hacc₁ := hacc.more [⟨i, .ticketIdsByInstanceNumber (instanceNumberKey inst number), .ok ids⟩]
    refine sends_atMostOne (fun hmany _ => ?_) fun a hids => ?_
    · exact ⟨_, List.mem_append_right _ (List.mem_singleton_self _), hmany⟩
    cases a with
    | none => exact ⟨hr₁, hacc₁⟩
    | some id =>
        subst hids
        refine ⟨.of_read rfl nofun, fun r => ?_⟩
        rcases r with e | row
        · exact ⟨_, List.mem_append_right _ (List.mem_singleton_self _), trivial⟩
        have hr₂ := hr₁.read (.getTicket id) rfl (.ok row)
        have hacc₂ := hacc₁.more [⟨i, .getTicket id, .ok row⟩]
        cases row with
        | none => exact ⟨hr₂, hacc₂⟩
        | some ticket =>
            have hrow := (List.suffix_append h [⟨i,
              .ticketIdsByInstanceNumber (instanceNumberKey inst number), .ok [id]⟩,
              ⟨i, .getTicket id, .ok (some ticket)⟩]).isInfix
            rw [List.append_assoc] at hr₂ hacc₂ ⊢
            exact ⟨hr₂, .number hnumber hrow, hacc₂⟩

theorem sends_resolveTicket (hr : Routed libs i sesMessageId raw mail inst h)
    (hnone : lookups h = []) :
    Sends i (Permits libs i sesMessageId raw) (Resolved libs i sesMessageId raw mail inst)
      (resolveTicket (mail.plan libs.lower) inst) h := by
  have hscan : Scanning libs mail h (((mail.plan libs.lower).replyTags.map .tag) ++
      ((mail.plan libs.lower).messageIds.map .messageId ++ [])) := by
    intro more
    rw [hnone, List.append_nil]
    rfl
  unfold resolveTicket
  refine (sends_resolveReplyTags _ (fun _ h => h) hr hscan).bind ?_ ?_
  · intro found h₁ h₁'
    cases found with
    | crossTenant => exact h₁'
    | found ticket => exact h₁'
    | notFound =>
        obtain ⟨hr₁, hscan₁⟩ := h₁'
        refine (sends_resolveMessageIds _ (fun _ h => h) hr₁ hscan₁).bind ?_ ?_
        · intro found h₂ h₂'
          cases found with
          | crossTenant => exact h₂'
          | found ticket => exact h₂'
          | notFound =>
              obtain ⟨hr₂, hscan₂⟩ := h₂'
              refine sends_resolveSubjectNumber hr₂ (hr₂.accepted fun more t ht => ?_)
              rw [hscan₂] at ht
              cases ht
        · exact fun _ _ h => h
  · exact fun _ _ h => h

end resolve

/-! ### Storing the message -/

section store
variable {libs : MailLibs} {i : ℕ} {sesMessageId : String} {raw : List UInt8} {d : Delivery}
variable {h : List TicketEvent} {op : TicketOp} {id : String}

/-- The history of an accepted delivery that has not stored the message yet. -/
structure Ready (libs : MailLibs) (i : ℕ) (sesMessageId : String) (raw : List UInt8) (d : Delivery)
    (h : List TicketEvent) : Prop where
  accepted : Accepted libs i sesMessageId raw d.mail d.instanceId h
  sender : d.mail.sentBy libs.lower = some d.fromNormalized
  fresh : ∀ ev ∈ h, ev.op.storesInbound = false

theorem Ready.more (hr : Ready libs i sesMessageId raw d h) (op : TicketOp)
    (hop : op.storesInbound = false) (r : op.Res) : Ready libs i sesMessageId raw d (h ++ [⟨i, op, r⟩]) where
  accepted := hr.accepted.more _
  sender := hr.sender
  fresh ev hev := by
    rcases List.mem_append.mp hev with hev | hev
    · exact hr.fresh ev hev
    · rw [List.mem_singleton.mp hev]
      exact hop

theorem Routed.ready {mail : ParsedMail} {inst : String}
    (hr : Routed libs i sesMessageId raw mail inst h)
    (hacc : Accepted libs i sesMessageId raw mail inst h) (hmail : d.mail = mail)
    (hinst : d.instanceId = inst) (hsender : mail.sentBy libs.lower = some d.fromNormalized) :
    Ready libs i sesMessageId raw d h where
  accepted := by
    rw [hmail, hinst]
    exact hacc
  sender := by
    rw [hmail]
    exact hsender
  fresh ev hev := by
    have := hr.untouched ev hev
    revert this
    cases ev.op <;> simp [TicketOp.touches, TicketOp.storesInbound]

/-- How the placing of the message ends. -/
def Places (libs : MailLibs) (i : ℕ) (sesMessageId : String) (raw : List UInt8) (d : Delivery) :
    Except Error Placement → List TicketEvent → Prop
  | .ok placement, h => Ready libs i sesMessageId raw d h ∧
      TicketOf libs i d.mail d.instanceId h placement.ticket.id
  | .error _, h => ∃ ev ∈ h, Refused i h ev

theorem sends_appendToTicket {ticket : Ticket} (hr : Ready libs i sesMessageId raw d h)
    (hfound : FoundBy libs i d.mail d.instanceId h ticket) :
    Sends i (Permits libs i sesMessageId raw) (Places libs i sesMessageId raw d)
      (appendToTicket d ticket) h := by
  -- reopen or touch the ticket
  have hrest : ∀ h, Ready libs i sesMessageId raw d h →
      TicketOf libs i d.mail d.instanceId h ticket.id →
      ∀ addedAsCc, Sends i (Permits libs i sesMessageId raw) (Places libs i sesMessageId raw d)
        (if ticket.status = .closed then do
          require (send (.updateTicket ticket.id
            (.setStatusAndAssignee d.instanceId .open ticket.assigneeUserId d.now)))
          return ⟨ticket, false, addedAsCc, true⟩
        else do
          require (send (.updateTicket ticket.id (.touch d.now)))
          return ⟨ticket, false, addedAsCc, false⟩) h := by
    intro h hr hid addedAsCc
    split
    · refine ⟨.of_accepted hr.accepted ⟨hid, nofun⟩ nofun, fun r => ?_⟩
      rcases r with e | ⟨⟩
      · exact ⟨_, List.mem_append_right _ (List.mem_singleton_self _), trivial⟩
      · exact ⟨hr.more _ rfl _, hid.more _⟩
    · refine ⟨.of_accepted hr.accepted ⟨hid, nofun⟩ nofun, fun r => ?_⟩
      rcases r with e | ⟨⟩
      · exact ⟨_, List.mem_append_right _ (List.mem_singleton_self _), trivial⟩
      · exact ⟨hr.more _ rfl _, hid.more _⟩
  unfold appendToTicket
  by_cases hadded : (!ticket.requesterEmails.contains d.fromNormalized &&
    !ticket.ccEmails.contains d.fromNormalized) = true
  · simp only [hadded, if_true]
    refine ⟨.of_accepted hr.accepted ⟨.found hfound, ?_⟩ nofun, fun r => ?_⟩
    · rintro email now heq
      cases heq
      refine ⟨hr.sender, ticket, rfl, hfound, ?_⟩
      simpa [Ticket.involves] using hadded
    · rcases r with e | ⟨⟩
      · exact ⟨_, List.mem_append_right _ (List.mem_singleton_self _), trivial⟩
      · exact hrest _ (hr.more _ rfl _) (.found (hfound.more _)) _
  · rw [Bool.not_eq_true] at hadded
    simp only [hadded]
    exact hrest h hr (.found hfound) false

theorem sends_openTicket (addresses : List InboundAddress)
    (hr : Ready libs i sesMessageId raw d h) :
    Sends i (Permits libs i sesMessageId raw) (Places libs i sesMessageId raw d)
      (openTicket libs.lower addresses d) h := by
  refine ⟨.of_accepted hr.accepted rfl nofun, fun r => ?_⟩
  rcases r with e | number
  · exact ⟨_, List.mem_append_right _ (List.mem_singleton_self _), trivial⟩
  have hr₁ := hr.more (.incrementTicketCounter d.instanceId) rfl (.ok number)
  refine ⟨.of_accepted hr₁.accepted rfl nofun, fun r => ?_⟩
  rcases r with e | ticket
  · exact ⟨_, List.mem_append_right _ (List.mem_singleton_self _), trivial⟩
  · exact ⟨hr₁.more _ rfl _, .created (List.mem_append_right _ (List.mem_singleton_self _))⟩

theorem sends_placeMessage {resolved : Option Ticket} (hr : Ready libs i sesMessageId raw d h)
    (hfound : ∀ ticket ∈ resolved, FoundBy libs i d.mail d.instanceId h ticket) :
    Sends i (Permits libs i sesMessageId raw) (Places libs i sesMessageId raw d)
      (placeMessage libs.lower d resolved) h := by
  refine ⟨.of_read rfl nofun, fun r => ?_⟩
  rcases r with e | addresses
  · exact ⟨_, List.mem_append_right _ (List.mem_singleton_self _), trivial⟩
  have hr₁ := hr.more (.listInboundAddressesByInstance d.instanceId) rfl (.ok addresses)
  cases resolved with
  | none => exact sends_openTicket addresses hr₁
  | some ticket =>
      refine (sends_appendToTicket hr₁ ((hfound ticket rfl).more _)).bind ?_ ?_
      · rintro placement h₂ ⟨hr₂, hid⟩
        refine ⟨.of_read rfl nofun, fun r => ?_⟩
        rcases r with e | row
        · exact ⟨_, List.mem_append_right _ (List.mem_singleton_self _), trivial⟩
        refine ⟨hr₂.more _ rfl _, ?_⟩
        cases row with
        | none => exact hid.more _
        | some row =>
            exact .reread (hid.more _) (List.mem_append_right _ (List.mem_singleton_self _))
      · exact fun _ _ h => h

/-- The history of a delivery that has stored the message once, as `m`. -/
structure Stored (libs : MailLibs) (i : ℕ) (sesMessageId : String) (raw : List UInt8) (d : Delivery)
    (content : MessageContent) (m : TicketMessage) (h : List TicketEvent) : Prop where
  accepted : Accepted libs i sesMessageId raw d.mail d.instanceId h
  ticket : TicketOf libs i d.mail d.instanceId h content.ticketId
  inbound : content.kind = .inbound
  once : h.filter (fun ev => ev.op.storesInbound) = [⟨i, .createTicketMessage content, .ok m⟩]

section stored
variable {content : MessageContent} {m : TicketMessage}

theorem Stored.more (hs : Stored libs i sesMessageId raw d content m h) (op : TicketOp)
    (hop : op.storesInbound = false) (r : op.Res) :
    Stored libs i sesMessageId raw d content m (h ++ [⟨i, op, r⟩]) where
  accepted := hs.accepted.more _
  ticket := hs.ticket.more _
  inbound := hs.inbound
  once := by
    rw [List.filter_append, hs.once, List.filter_cons_of_neg (by simp [hop]), List.filter_nil,
      List.append_nil]

theorem Stored.mem (hs : Stored libs i sesMessageId raw d content m h) :
    ⟨i, .createTicketMessage content, .ok m⟩ ∈ h := by
  have hmem : ⟨i, .createTicketMessage content, .ok m⟩ ∈
      h.filter (fun ev => ev.op.storesInbound) := by
    rw [hs.once]
    exact List.mem_singleton_self _
  exact (List.mem_filter.mp hmem).1

/-- How a step after the message is stored ends. -/
def Keeps (libs : MailLibs) (i : ℕ) (sesMessageId : String) (raw : List UInt8) (d : Delivery)
    (content : MessageContent) (m : TicketMessage) {α : Type} :
    Except Error α → List TicketEvent → Prop
  | .ok _, h => Stored libs i sesMessageId raw d content m h
  | .error _, h => ∃ ev ∈ h, Refused i h ev

theorem sends_stampMessage (hs : Stored libs i sesMessageId raw d content m h)
    (change : Option TicketMessageUpdateShape) :
    Sends i (Permits libs i sesMessageId raw) (Keeps libs i sesMessageId raw d content m)
      (stampMessage m.id change) h := by
  cases change with
  | none => exact hs
  | some change =>
      refine ⟨.of_accepted hs.accepted ⟨content, m, hs.ticket, hs.mem, rfl⟩ nofun, fun r => ?_⟩
      rcases r with e | ⟨⟩
      · refine ⟨_, List.mem_append_right _ (List.mem_singleton_self _), content, m, hs.inbound, ?_, rfl⟩
        exact List.mem_append_left _ hs.mem
      · exact hs.more _ rfl _

theorem sends_storeAttachments (parts : List MailPart) (ticketId messageId : String) (index : ℕ)
    (hs : Stored libs i sesMessageId raw d content m h) :
    Sends i (Permits libs i sesMessageId raw) (Keeps libs i sesMessageId raw d content m)
      (storeAttachments ticketId messageId index parts) h := by
  induction parts generalizing h index with
  | nil => exact hs
  | cons part parts ih =>
      unfold storeAttachments
      split
      · exact ih _ hs
      · refine ⟨.of_read rfl nofun, fun r => ?_⟩
        rcases r with e | ⟨⟩
        · exact ⟨_, List.mem_append_right _ (List.mem_singleton_self _), trivial⟩
        · exact (ih (index + 1) (hs.more _ rfl _)).bind (fun _ _ h => h) fun _ _ h => h

end stored

/-- How the storing of the message ends. -/
def Stores (libs : MailLibs) (i : ℕ) (sesMessageId : String) (raw : List UInt8) (d : Delivery)
    (ticketId : String) :
    Except Error (TicketMessage × List Attachment) → List TicketEvent → Prop
  | .ok (m, _), h => Stored libs i sesMessageId raw d (d.content ticketId) m h
  | .error _, h => ∃ ev ∈ h, Refused i h ev

theorem sends_storeMessage (hr : Ready libs i sesMessageId raw d h)
    (hid : TicketOf libs i d.mail d.instanceId h id) :
    Sends i (Permits libs i sesMessageId raw) (Stores libs i sesMessageId raw d id)
      (storeMessage d id) h := by
  refine ⟨.of_accepted hr.accepted ⟨hid, fun _ => hr.fresh⟩ nofun, fun r => ?_⟩
  rcases r with e | m
  · exact ⟨_, List.mem_append_right _ (List.mem_singleton_self _), rfl⟩
  have hnone : h.filter (fun ev => ev.op.storesInbound) = [] :=
    List.filter_eq_nil_iff.mpr fun ev hev => by simp [hr.fresh ev hev]
  have hs : Stored libs i sesMessageId raw d (d.content id) m
      (h ++ [⟨i, .createTicketMessage (d.content id), .ok m⟩]) :=
    ⟨hr.accepted.more _, hid.more _, rfl, by rw [List.filter_append, hnone]; rfl⟩
  refine (sends_stampMessage hs _).bind (fun _ h₁ hs₁ => ?_) fun _ _ h => h
  refine (sends_stampMessage hs₁ _).bind (fun _ h₂ hs₂ => ?_) fun _ _ h => h
  refine (sends_storeAttachments _ _ _ _ hs₂).bind (fun stored h₃ hs₃ => ?_) fun _ _ h => h
  show Sends _ _ _ (if stored.isEmpty then _ else _) _
  split
  · exact hs₃
  · refine ⟨.of_accepted hs₃.accepted ⟨_, m, hs₃.ticket, hs₃.mem, rfl⟩ nofun, fun r => ?_⟩
    rcases r with e | ⟨⟩
    · refine ⟨_, List.mem_append_right _ (List.mem_singleton_self _), d.content id, m, rfl, ?_, rfl⟩
      exact List.mem_append_left _ hs₃.mem
    have hs₄ := hs₃.more (.updateTicketMessage m.id (.setAttachments stored)) rfl (.ok ())
    refine ⟨.of_accepted hs₄.accepted ⟨hs₄.ticket, nofun⟩ nofun, fun r => ?_⟩
    rcases r with e | ⟨⟩
    · exact ⟨_, List.mem_append_right _ (List.mem_singleton_self _), trivial⟩
    · exact hs₄.more _ rfl _

/-! ### Notices -/

section
variable {content : MessageContent} {m : TicketMessage}

/-- How a notice ends: it does not fail. -/
def Notifies (libs : MailLibs) (i : ℕ) (sesMessageId : String) (raw : List UInt8) (d : Delivery)
    (content : MessageContent) (m : TicketMessage) {α : Type} (r : Except Error α)
    (h : List TicketEvent) : Prop :=
  Stored libs i sesMessageId raw d content m h ∧ ∃ a, r = .ok a

theorem sends_notices {p : TicketProg Unit} (hp : p.Total fun op => op.isNotice)
    (hs : Stored libs i sesMessageId raw d content m h) :
    Sends i (Permits libs i sesMessageId raw) (Notifies libs i sesMessageId raw d content m) p h := by
  refine Sends.keeps_total hp (fun {h op} hop hs => ?_) (fun {h op r} hop hs => hs.more op ?_ r) hs
  · refine .of_accepted hs.accepted ?_ ?_
    · cases op <;> trivial
    · rintro _ _ _ rfl
      cases hop
  · cases op <;> first | rfl | cases hop

theorem sends_relayMail {ticketId : String} (hticket : ticketId = content.ticketId) (body : String)
    (threading : Threading) (mail : Mime) (hs : Stored libs i sesMessageId raw d content m h) :
    Sends i (Permits libs i sesMessageId raw) (Notifies libs i sesMessageId raw d content m)
      (relayMail ticketId body threading mail) h := by
  subst hticket
  refine ⟨.of_accepted hs.accepted trivial nofun, fun r => ?_⟩
  rcases r with e | rfcMessageId
  · exact ⟨hs.more _ rfl _, _, rfl⟩
  have hs₁ := hs.more (.sendRaw mail mail.recipients mail.ccs) rfl (.ok rfcMessageId)
  refine ⟨.of_accepted hs₁.accepted ⟨hs₁.ticket, nofun⟩ nofun, fun r => ?_⟩
  rcases r with e | relayed
  · exact ⟨hs₁.more _ rfl _, _, rfl⟩
  have hs₂ := hs₁.more (.createTicketMessage
    (relayContent content.ticketId body threading mail)) rfl (.ok relayed)
  refine ⟨.of_accepted hs₂.accepted ⟨relayContent content.ticketId body threading mail, relayed,
    hs₂.ticket, ?_, rfl⟩ nofun, fun r => ⟨hs₂.more _ rfl r, _, rfl⟩⟩
  exact List.mem_append_right _ (List.mem_singleton_self _)

theorem sends_notifyOthers {ticket : Ticket} (hticket : ticket.id = content.ticketId)
    (recipients : List String) (body : String)
    (hs : Stored libs i sesMessageId raw d content m h) :
    Sends i (Permits libs i sesMessageId raw) (Notifies libs i sesMessageId raw d content m)
      (notifyOthers libs.toAppLibs ticket recipients body) h := by
  refine ⟨.of_read rfl nofun, fun r => ?_⟩
  have hs₁ := hs.more (.getInstance ticket.instanceId) rfl r
  rcases r with e | inst
  · exact ⟨hs₁, _, rfl⟩
  cases inst with
  | none => exact ⟨hs₁, _, rfl⟩
  | some inst =>
      refine ⟨.of_read rfl nofun, fun r => ?_⟩
      have hs₂ := hs₁.more (.listInboundAddressesByInstance inst.id) rfl r
      rcases r with e | addresses
      · exact ⟨hs₂, _, rfl⟩
      refine ⟨.of_read rfl nofun, fun r => ?_⟩
      have hs₃ := hs₂.more (.listTicketMessages ticket.id) rfl r
      rcases r with e | prior
      · exact ⟨hs₃, _, rfl⟩
      refine ⟨.of_read rfl nofun, fun nonce => ?_⟩
      have hs₄ := hs₃.more (.generateNonce 16) rfl nonce
      dsimp only [bind, Prog.bind]
      split
      · exact ⟨hs₄, _, rfl⟩
      · exact sends_relayMail hticket _ _ _ hs₄

theorem sends_relayMessage {ticket : Ticket} (hticket : ticket.id = content.ticketId)
    (hs : Stored libs i sesMessageId raw d content m h) :
    Sends i (Permits libs i sesMessageId raw) (Notifies libs i sesMessageId raw d content m)
      (relayMessage libs.toAppLibs d ticket) h := by
  by_cases hempty : (ticket.othersThan d.fromNormalized).isEmpty
  · simp only [relayMessage, hempty, if_true]
    exact ⟨hs, _, rfl⟩
  · simp only [relayMessage, hempty]
    refine (sends_notifyOthers hticket _ _ hs).bind (fun _ h hs => ⟨hs.1, _, rfl⟩) ?_
    rintro _ h ⟨-, _, hr⟩
    cases hr

theorem sends_deliverTo {resolved : Option Ticket} (hr : Ready libs i sesMessageId raw d h)
    (hfound : ∀ ticket ∈ resolved, FoundBy libs i d.mail d.instanceId h ticket) :
    Sends i (Permits libs i sesMessageId raw) (Ends libs i sesMessageId raw)
      (deliverTo libs d resolved) h := by
  refine (sends_placeMessage hr hfound).bind ?_ fun _ _ h => h
  rintro placement h₁ ⟨hr₁, hid⟩
  refine (sends_storeMessage hr₁ hid).bind ?_ fun _ _ h => h
  rintro ⟨m, stored⟩ h₂ hs₂
  refine (sends_relayMessage rfl hs₂).bind ?_ ?_
  · rintro _ h₃ ⟨hs₃, -⟩
    refine (sends_notices (total_notifyStaff ..) hs₃).bind ?_ ?_
    · rintro _ h₄ ⟨hs₄, -⟩
      exact .inr ⟨d.mail, d.instanceId, _, m, hs₄.accepted, hs₄.ticket, rfl, hs₄.once, rfl, rfl, rfl⟩
    · rintro _ h₄ ⟨-, _, hr⟩
      cases hr
  · rintro _ h₃ ⟨-, _, hr⟩
    cases hr

end

end store

/-! ### The pipeline -/

section pipeline
variable {libs : MailLibs} {i : ℕ} {sesMessageId : String} {raw : List UInt8} {mail : ParsedMail}
variable {inst : String} {h : List TicketEvent}

theorem sends_deliver {d : Delivery}
    (hr : Routed libs i sesMessageId raw d.mail d.instanceId h) (hnone : lookups h = [])
    (hsender : d.mail.sentBy libs.lower = some d.fromNormalized) :
    Sends i (Permits libs i sesMessageId raw) (Ends libs i sesMessageId raw) (deliver libs d) h := by
  refine (sends_resolveTicket hr hnone).bind (fun found h₁ hres => ?_) fun _ _ h => h
  cases found with
  | crossTenant => exact .inl ⟨rfl, hres.untouched⟩
  | notFound => exact sends_deliverTo (hres.1.ready hres.2 rfl rfl hsender) nofun
  | found ticket =>
      refine sends_deliverTo (hres.1.ready hres.2.2 rfl rfl hsender) ?_
      rintro _ ⟨⟩
      exact hres.2.1

/-- The requests of a look for an address leave a delivery where it is. -/
theorem Routed.append (hr : Routed libs i sesMessageId raw mail inst h) {keys : List String}
    {evs : List TicketEvent}
    (hevs : ∀ ev ∈ evs, ∃ address ∈ keys, ev.op = .getInboundAddress address) :
    Routed libs i sesMessageId raw mail inst (h ++ evs) where
  claimed := by
    obtain ⟨now, expiresAt, hev⟩ := hr.claimed
    exact ⟨now, expiresAt, List.mem_append_left _ hev⟩
  parsed := hr.parsed
  routed := by rw [routedTo_append, hr.routed, Option.some_or]
  untouched ev hev := by
    rcases List.mem_append.mp hev with hev | hev
    · exact hr.untouched ev hev
    · obtain ⟨address, -, hop⟩ := hevs ev hev
      rw [hop]
      rfl

theorem lookups_addresses {keys : List String} {evs : List TicketEvent}
    (hevs : ∀ ev ∈ evs, ∃ address ∈ keys, ev.op = .getInboundAddress address) :
    lookups evs = [] := by
  refine List.filter_eq_nil_iff.mpr fun ev hev => ?_
  obtain ⟨address, -, hop⟩ := hevs ev hev
  rw [hop]
  exact Bool.false_ne_true

theorem sends_routeMail (rawS3Key : Option String) (now : ℕ)
    (hr : Routed libs i sesMessageId raw mail inst h) (hnone : lookups h = []) :
    Sends i (Permits libs i sesMessageId raw) (Ends libs i sesMessageId raw)
      (routeMail libs mail rawS3Key now inst) h := by
  refine ⟨.of_read rfl nofun, fun r => ?_⟩
  rcases r with e | row
  · exact ⟨_, List.mem_append_right _ (List.mem_singleton_self _), trivial⟩
  have hr₁ := hr.read (.getInstance inst) rfl (.ok row)
  have hnone₁ : lookups (h ++ [⟨i, .getInstance inst, .ok row⟩]) = [] := by
    rw [lookups_append, hnone]
    rfl
  show Sends _ _ _ (if !acceptsMail row then _ else _) _
  split
  · exact .inl ⟨rfl, hr₁.untouched⟩
  cases hfrom : mail.fromAddress with
  | none => exact .inl ⟨rfl, hr₁.untouched⟩
  | some fromRaw =>
      refine (sends_resolveKeys libs i sesMessageId raw _ _).bind ?_ fun _ _ h => h
      rintro found h₂ ⟨evs, rfl, -, hevs⟩
      have hr₂ := hr₁.append hevs
      cases found with
      | some own => exact .inl ⟨rfl, hr₂.untouched⟩
      | none =>
          refine sends_deliver hr₂ ?_ ?_
          · rw [lookups_append, hnone₁, lookups_addresses hevs]
            rfl
          · show mail.sentBy libs.lower = _
            rw [ParsedMail.sentBy, hfrom]
            rfl

theorem sends_processMail (rawS3Key : Option String) (now : ℕ) (hparse : libs.parse raw = some mail)
    (hclaimed : ∃ now expiresAt,
      ⟨i, .claimProcessedMessage sesMessageId now expiresAt, .ok true⟩ ∈ h)
    (huntouched : ∀ ev ∈ h, ev.op.touches = false) (hroute : routedTo libs.lower mail h = none)
    (hnone : lookups h = []) :
    Sends i (Permits libs i sesMessageId raw) (Ends libs i sesMessageId raw)
      (processMail libs mail rawS3Key now) h := by
  unfold processMail
  split
  · exact .inl ⟨rfl, huntouched⟩
  · refine (sends_resolveKeys libs i sesMessageId raw _ _).bind ?_ fun _ _ h => h
    rintro found h₁ ⟨evs, rfl, hfound, hevs⟩
    have huntouched₁ : ∀ ev ∈ h ++ evs, ev.op.touches = false := by
      intro ev hev
      rcases List.mem_append.mp hev with hev | hev
      · exact huntouched ev hev
      · obtain ⟨address, -, hop⟩ := hevs ev hev
        rw [hop]
        rfl
    cases found with
    | none => exact .inl ⟨rfl, huntouched₁⟩
    | some inst =>
        obtain ⟨t, expiresAt, hev⟩ := hclaimed
        refine sends_routeMail rawS3Key now
          ⟨⟨t, expiresAt, List.mem_append_left _ hev⟩, hparse, ?_, huntouched₁⟩ ?_
        · rw [routedTo_append, hroute, Option.none_or, routedTo_recipients hevs, hfound]
        · rw [lookups_append, hnone, lookups_addresses hevs]
          rfl

/-- The contract of a delivery. -/
theorem sends_processRawMessage (libs : MailLibs) (i : ℕ) (sesMessageId : String)
    (raw : List UInt8) (rawS3Key : Option String) :
    Sends i (Permits libs i sesMessageId raw) (Ends libs i sesMessageId raw)
      (processRawMessage libs sesMessageId raw rawS3Key) [] := by
  refine ⟨.of_read rfl nofun, fun now => ⟨⟨?_, nofun⟩, fun r => ?_⟩⟩
  · rintro _ _ _ ⟨⟩
    rfl
  rcases r with e | claimed
  · exact ⟨_, List.mem_append_right _ (List.mem_singleton_self _), trivial⟩
  have huntouched : ∀ ev ∈ [(⟨i, .clock, now⟩ : TicketEvent), ⟨i, .claimProcessedMessage sesMessageId
      now (now + processedMessageRetentionSecs), .ok claimed⟩], ev.op.touches = false := by
    simp [TicketOp.touches]
  cases claimed with
  | false => exact .inl ⟨rfl, huntouched⟩
  | true =>
      dsimp only [bind, Prog.bind]
      split
      · exact .inl ⟨rfl, huntouched⟩
      · rename_i mail hparse
        refine sends_processMail rawS3Key now hparse
          ⟨now, now + processedMessageRetentionSecs, ?_⟩ huntouched rfl rfl
        exact List.mem_cons_of_mem _ (List.mem_singleton_self _)

end pipeline

end Microticket

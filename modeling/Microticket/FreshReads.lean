import Microticket.TicketUpdates

/-! # Fresh reads of tickets

`get_tickets` asks for no consistent read, so a call may be answered with an earlier version of a
ticket, or with its absence.  A delivery then misses the ticket that its reply tag names, and a call
that sets the status or the assignee acts on, and writes back, what is no longer there
(`stale_read`).

If every ticket is read as it is at that time, and the calls that use a ticket do so one after the
other, a mail with the reply tag of a ticket goes to this ticket and opens none, and the ticket has the
status and the assignee of the calls made one by one (`fresh_reads`). -/

namespace Microticket

open Interleaving Tables RustText

/-! ### What a delivery does with its reply tags -/

section tags
variable (i : ℕ) (tags : List ReplyTag) (h : List TicketEvent)

/-- The tag was looked up, and does not verify. -/
def TagTried (tag : ReplyTag) : Prop :=
  ∃ row, ⟨i, .getTicket tag.ticketId, .ok row⟩ ∈ h ∧ ∀ ticket ∈ row, tag.verifies ticket = false

/-- The first tag that verifies is one of the ticket. -/
def TagVerified (ticket : Ticket) : Prop :=
  ∃ pre tag post, tags = pre ++ tag :: post ∧ (∀ earlier ∈ pre, TagTried i h earlier) ∧
    ⟨i, .getTicket tag.ticketId, .ok (some ticket)⟩ ∈ h ∧ tag.verifies ticket

/-- The tags lead to the ticket `id`, which may have been read again. -/
def LeadsTo (id : String) : Prop :=
  ∃ ticket, TagVerified i tags h ticket ∧
    (id = ticket.id ∨ ∃ again, ⟨i, .getTicket ticket.id, .ok (some again)⟩ ∈ h ∧ id = again.id)

/-- No tag verifies, or they lead to the ticket `id`, which is not a new one. -/
def TagsDecide (id : String) (created : Bool) : Prop :=
  (∀ tag ∈ tags, TagTried i h tag) ∨ LeadsTo i tags h id ∧ created = false

/-- A ticket is only opened if no tag verifies, and otherwise the message is stored on the ticket that
the tags lead to. -/
def TicketOp.heeds : TicketOp → Prop
  | .createTicket .. => ∀ tag ∈ tags, TagTried i h tag
  | .createTicketMessage content =>
      content.kind = .inbound → TagsDecide i tags h content.ticketId false
  | _ => True

/-- How a delivery ends. -/
def TagEnds : Except Error Outcome → List TicketEvent → Prop
  | .ok outcome, h => outcome.droppedReason.isSome ∨
      ∃ id, outcome.ticketId = some id ∧ TagsDecide i tags h id outcome.createdNewTicket
  | .error _, _ => True

end tags

/-- The requests that do not depend on the tags. -/
def TicketOp.tagless : TicketOp → Bool
  | .createTicket .. => false
  | .createTicketMessage content => content.kind ≠ .inbound
  | _ => true

section deliveries
variable {i : ℕ} {tags : List ReplyTag} {h : List TicketEvent} {libs : MailLibs}

theorem TicketOp.tagless_of_minor {op : TicketOp} (hop : op.minor) : op.tagless := by
  cases op with
  | createTicket => cases hop
  | createTicketMessage => exact hop
  | _ => rfl

theorem heeds_of_tagless {op : TicketOp} (hop : op.tagless) : op.heeds i tags h := by
  cases op with
  | createTicket => cases hop
  | createTicketMessage content => exact fun hkind => absurd hkind (of_decide_eq_true hop)
  | _ => trivial

theorem TagTried.more {tag : ReplyTag} (ht : TagTried i h tag) (more : List TicketEvent) :
    TagTried i (h ++ more) tag := by
  obtain ⟨row, hrow, hfails⟩ := ht
  exact ⟨row, List.mem_append_left _ hrow, hfails⟩

theorem TagVerified.more {ticket : Ticket} (hv : TagVerified i tags h ticket)
    (more : List TicketEvent) : TagVerified i tags (h ++ more) ticket := by
  obtain ⟨pre, tag, post, htags, hpre, hread, hverifies⟩ := hv
  exact ⟨pre, tag, post, htags, fun t ht => (hpre t ht).more more, List.mem_append_left _ hread,
    hverifies⟩

theorem TagsDecide.more {id : String} {created : Bool} (hd : TagsDecide i tags h id created)
    (more : List TicketEvent) : TagsDecide i tags (h ++ more) id created := by
  apply hd.imp
  · exact fun htried tag htag => (htried tag htag).more more
  · rintro ⟨⟨ticket, hverified, hid⟩, hcreated⟩
    refine ⟨⟨ticket, hverified.more more, ?_⟩, hcreated⟩
    exact hid.imp_right fun ⟨again, hread, heq⟩ => ⟨again, List.mem_append_left _ hread, heq⟩

/-- The requests of a program heed the tags, and it ends in `Q`. -/
abbrev Heeds {α : Type} (i : ℕ) (tags : List ReplyTag)
    (Q : Except Error α → List TicketEvent → Prop) (p : TicketProg α) (h : List TicketEvent) : Prop :=
  Sends i (fun h op => op.heeds i tags h) Q p h

/-- A part that does not depend on the tags, after which `K` still holds. -/
theorem heeds_keeps {α β : Type} {p : TicketProg α} {f : α → TicketProg β}
    {Q : Except Error β → List TicketEvent → Prop} {K : List TicketEvent → Prop}
    (hp : p.All fun op => op.tagless) (hK : ∀ {h} more, K h → K (h ++ more)) (h₀ : K h)
    (hf : ∀ a h, K h → Heeds i tags Q (f a) h) (herr : ∀ e h, Q (.error e) h) :
    Heeds i tags Q (p >>= f) h :=
  (Sends.keeps hp (fun hop _ => heeds_of_tagless hop) (fun _ hK₀ => hK _ hK₀) h₀).bind hf
    fun e h _ => herr e h

theorem all_tagless {α : Type} {p : TicketProg α} (hp : p.All fun op => op.minor) :
    p.All fun op => op.tagless := hp.mono fun _ => TicketOp.tagless_of_minor

/-- What the resolution of a ticket leaves. -/
def TagResolution (i : ℕ) (tags : List ReplyTag) :
    Except Error TicketLookup → List TicketEvent → Prop
  | .ok (.found ticket), h => (∀ tag ∈ tags, TagTried i h tag) ∨ TagVerified i tags h ticket
  | .ok .notFound, h => ∀ tag ∈ tags, TagTried i h tag
  | _, _ => True

theorem heeds_resolveReplyTags (inst : String) (rest : List ReplyTag) {pre : List ReplyTag}
    (htags : tags = pre ++ rest) (hpre : ∀ tag ∈ pre, TagTried i h tag) :
    Heeds i tags (TagResolution i tags) (resolveReplyTags inst rest) h := by
  induction rest generalizing pre h with
  | nil =>
      rw [List.append_nil] at htags
      exact htags ▸ hpre
  | cons tag rest ih =>
      refine ⟨trivial, fun r => ?_⟩
      have hnext : ∀ row, (∀ ticket ∈ row, tag.verifies ticket = false) →
          ∀ t ∈ pre ++ [tag], TagTried i (h ++ [⟨i, .getTicket tag.ticketId, .ok row⟩]) t := by
        intro row hfails t ht
        rcases List.mem_append.mp ht with ht | ht
        · exact (hpre t ht).more _
        · rw [List.mem_singleton.mp ht]
          exact ⟨row, List.mem_append_right _ (List.mem_singleton_self _), hfails⟩
      rcases r with e | _ | ticket
      · trivial
      · exact ih (htags.trans (List.append_cons ..)) (hnext none nofun)
      · show Heeds i tags _ (if tag.verifies ticket then _ else _) _
        split
        · rename_i hverifies
          have hverified : TagVerified i tags
              (h ++ [⟨i, .getTicket tag.ticketId, .ok (some ticket)⟩]) ticket :=
            ⟨pre, tag, rest, htags, fun t ht => (hpre t ht).more _,
              List.mem_append_right _ (List.mem_singleton_self _), hverifies⟩
          show TagResolution i tags (.ok (verified inst ticket)) _
          unfold verified
          split
          · exact .inr hverified
          · trivial
        · rename_i hfails
          refine ih (htags.trans (List.append_cons ..)) (hnext (some ticket) ?_)
          intro ticket' hticket
          rw [← Option.mem_some_iff.mp hticket]
          exact Bool.eq_false_iff.mpr hfails

/-- A part of the resolution after the tags. -/
theorem heeds_after {α β : Type} {p : TicketProg α} {f : α → TicketProg β}
    {Q : Except Error β → List TicketEvent → Prop} (hp : p.All fun op => op.tagless)
    (h₀ : ∀ tag ∈ tags, TagTried i h tag)
    (hf : ∀ a h, (∀ tag ∈ tags, TagTried i h tag) → Heeds i tags Q (f a) h)
    (herr : ∀ e h, Q (.error e) h) : Heeds i tags Q (p >>= f) h :=
  heeds_keeps (K := fun h => ∀ tag ∈ tags, TagTried i h tag) hp
    (fun more htried tag htag => (htried tag htag).more more) h₀ hf herr

theorem heeds_resolveMessageIds (inst : String) (mids : List String)
    (h₀ : ∀ tag ∈ tags, TagTried i h tag) :
    Heeds i tags (TagResolution i tags) (resolveMessageIds inst mids) h := by
  induction mids generalizing h with
  | nil => exact h₀
  | cons mid mids ih =>
      refine heeds_after (all_tagless (minor_getTicketIdByRfcMessageId mid)) h₀
        (fun found h h₀ => ?_) fun _ _ => trivial
      cases found with
      | none => exact ih h₀
      | some ticketId =>
          refine heeds_after (all_require ⟨rfl, fun _ => trivial⟩) h₀ (fun row h h₀ => ?_)
            fun _ _ => trivial
          cases row with
          | none => exact ih h₀
          | some ticket =>
              show TagResolution i tags (.ok (verified inst ticket)) h
              unfold verified
              split
              · exact .inl h₀
              · trivial

theorem heeds_resolveSubjectNumber (inst : String) (number : Option ℕ)
    (h₀ : ∀ tag ∈ tags, TagTried i h tag) :
    Heeds i tags (TagResolution i tags) (resolveSubjectNumber inst number) h := by
  cases number with
  | none => exact h₀
  | some number =>
      have hnumber : (getTicketIdByInstanceNumber inst number).All fun op => op.tagless :=
        Prog.All.bind (all_require ⟨rfl, fun _ => trivial⟩) fun _ => all_atMostOne _ _
      refine heeds_after hnumber h₀ (fun found h h₀ => ?_) fun _ _ => trivial
      cases found with
      | none => exact h₀
      | some ticketId =>
          refine heeds_after (all_require ⟨rfl, fun _ => trivial⟩) h₀ (fun row h h₀ => ?_)
            fun _ _ => trivial
          cases row with
          | none => exact h₀
          | some ticket => exact .inl h₀

theorem heeds_resolveTicket (inst : String) (plan : ResolutionPlan)
    (hplan : plan.replyTags = tags) :
    Heeds i tags (TagResolution i tags) (resolveTicket plan inst) h := by
  have hfirst : Heeds i tags (TagResolution i tags) (resolveReplyTags inst plan.replyTags) h :=
    heeds_resolveReplyTags inst plan.replyTags (show tags = [] ++ plan.replyTags from hplan.symm) nofun
  refine hfirst.bind (fun lookup h hres => ?_) fun _ _ _ => trivial
  cases lookup with
  | found ticket => exact hres
  | crossTenant => exact hres
  | notFound =>
      refine (heeds_resolveMessageIds inst plan.messageIds hres).bind (fun lookup h hres => ?_)
        fun _ _ _ => trivial
      cases lookup with
      | found ticket => exact hres
      | crossTenant => exact hres
      | notFound => exact heeds_resolveSubjectNumber inst plan.subjectNumber hres

/-- The tags decide the ticket of the message. -/
def TagPlacement (i : ℕ) (tags : List ReplyTag) :
    Except Error Placement → List TicketEvent → Prop
  | .ok placement, h => TagsDecide i tags h placement.ticket.id placement.createdNewTicket
  | .error _, _ => True

theorem heeds_placeMessage {lower : String → String} {d : Delivery} {resolved : Option Ticket}
    (hnone : resolved = none → ∀ tag ∈ tags, TagTried i h tag)
    (hsome : ∀ ticket ∈ resolved, TagResolution i tags (.ok (.found ticket)) h) :
    Heeds i tags (TagPlacement i tags) (placeMessage lower d resolved) h := by
  refine ⟨trivial, fun r => ?_⟩
  cases r with
  | error e => trivial
  | ok addresses =>
  cases resolved with
  | none =>
      have htried : ∀ tag ∈ tags, TagTried i
          (h ++ [⟨i, .listInboundAddressesByInstance d.instanceId, .ok addresses⟩]) tag :=
        fun tag htag => (hnone rfl tag htag).more _
      refine ⟨trivial, fun r => ?_⟩
      cases r with
      | error e => trivial
      | ok number =>
      refine ⟨fun tag htag => (htried tag htag).more _, fun r => ?_⟩
      cases r with
      | error e => trivial
      | ok ticket => exact .inl fun tag htag => ((htried tag htag).more _).more _
  | some ticket =>
      have hfound := hsome ticket rfl
      have hK : ∀ {h : List TicketEvent} (more : List TicketEvent),
          TagResolution i tags (.ok (.found ticket)) h →
          TagResolution i tags (.ok (.found ticket)) (h ++ more) := fun more hres =>
        hres.imp (fun htried tag htag => (htried tag htag).more more) fun hv => hv.more more
      refine (sends_appended (fun _ => trivial) (fun hK₀ => hK _ hK₀) d ticket (hK _ hfound)).bind
        (fun placement h hplaced => ?_) fun _ _ _ => trivial
      obtain ⟨hres, hplacement⟩ := hplaced
      obtain ⟨rfl, hcreated⟩ := hplacement placement rfl
      refine ⟨trivial, fun r => ?_⟩
      cases r with
      | error e => trivial
      | ok row =>
          refine (hK _ hres).imp_right fun hverified => ⟨⟨placement.ticket, hverified, ?_⟩, hcreated⟩
          cases row with
          | none => exact .inl rfl
          | some again =>
              exact .inr ⟨again, List.mem_append_right _ (List.mem_singleton_self _), rfl⟩

/-- The message is stored on the ticket that the tags lead to. -/
theorem heeds_storeMessage {id : String} {created : Bool} (d : Delivery)
    (hdecide : TagsDecide i tags h id created) :
    Heeds i tags (fun _ h => TagsDecide i tags h id created) (storeMessage d id) h := by
  refine ⟨fun _ => hdecide.imp_right fun hleads => ⟨hleads.1, rfl⟩, fun r => ?_⟩
  cases r with
  | error e => exact hdecide.more _
  | ok message =>
  refine Sends.keeps (P := fun op => op.tagless) ?_ (fun hop _ => heeds_of_tagless hop)
    (fun _ hK => TagsDecide.more hK _) (hdecide.more _)
  refine (all_tagless (minor_stampMessage ..)).bind fun _ => ?_
  refine (all_tagless (minor_stampMessage ..)).bind fun _ => ?_
  refine (all_tagless (minor_storeAttachments ..)).bind fun stored => ?_
  split
  · trivial
  · refine Prog.All.bind (all_require ⟨rfl, fun _ => trivial⟩) fun _ => ?_
    exact Prog.All.bind (all_require ⟨rfl, fun _ => trivial⟩) fun _ => trivial

theorem heeds_deliverTo {d : Delivery} {resolved : Option Ticket}
    (hnone : resolved = none → ∀ tag ∈ tags, TagTried i h tag)
    (hsome : ∀ ticket ∈ resolved, TagResolution i tags (.ok (.found ticket)) h) :
    Heeds i tags (TagEnds i tags) (deliverTo libs d resolved) h := by
  refine (heeds_placeMessage hnone hsome).bind (fun placement h hplaced => ?_) fun _ _ _ => trivial
  refine (heeds_storeMessage d hplaced).bind (fun stored h hdecide => ?_) fun _ _ _ => trivial
  have hK : ∀ {h : List TicketEvent} (more : List TicketEvent),
      TagPlacement i tags (.ok placement) h → TagPlacement i tags (.ok placement) (h ++ more) :=
    fun more hplaced => TagsDecide.more hplaced more
  refine heeds_keeps (K := TagPlacement i tags (.ok placement))
    (all_tagless (minor_relayMessage ..)) hK hdecide (fun _ h hdecide => ?_) fun _ _ => trivial
  refine heeds_keeps (K := TagPlacement i tags (.ok placement))
    (all_tagless (minor_notifyStaff ..)) hK hdecide (fun _ h hdecide => ?_) fun _ _ => trivial
  exact .inr ⟨placement.ticket.id, rfl, hdecide⟩

theorem heeds_deliver {d : Delivery} (hplan : (d.mail.plan libs.lower).replyTags = tags) :
    Heeds i tags (TagEnds i tags) (deliver libs d) h := by
  refine (heeds_resolveTicket d.instanceId _ hplan).bind (fun lookup h hres => ?_) fun _ _ _ => trivial
  cases lookup with
  | crossTenant => exact .inl rfl
  | notFound => exact heeds_deliverTo (fun _ => hres) nofun
  | found ticket =>
      refine heeds_deliverTo nofun fun ticket' hticket => ?_
      obtain rfl := Option.mem_some_iff.mp hticket
      exact hres

/-- A part that does not depend on the tags. -/
theorem heeds_before {α β : Type} {p : TicketProg α} {f : α → TicketProg β}
    {Q : Except Error β → List TicketEvent → Prop} (hp : p.All fun op => op.minor)
    (hf : ∀ a h, Heeds i tags Q (f a) h) (herr : ∀ e h, Q (.error e) h) :
    Heeds i tags Q (p >>= f) h :=
  heeds_keeps (K := fun _ => True) (all_tagless hp) (fun _ _ => trivial) trivial
    (fun a h _ => hf a h) herr

/-- Every delivery heeds the reply tags of its message. -/
theorem heeds_processRawMessage {mail : ParsedMail} (sesMessageId : String) {raw : List UInt8}
    (rawS3Key : Option String) (hparse : libs.parse raw = some mail)
    (htags : (mail.plan libs.lower).replyTags = tags) :
    Heeds i tags (TagEnds i tags) (processRawMessage libs sesMessageId raw rawS3Key) [] := by
  refine heeds_before (p := send .clock) ⟨rfl, fun _ => trivial⟩ (fun now h => ?_) fun _ _ => trivial
  refine heeds_before (all_require ⟨rfl, fun _ => trivial⟩) (fun claimed h => ?_) fun _ _ => trivial
  split
  · exact .inl rfl
  rw [hparse]
  show Heeds i tags _ (processMail libs mail rawS3Key now) h
  unfold processMail
  split
  · exact .inl rfl
  refine heeds_before (minor_resolveKeys _) (fun found h => ?_) fun _ _ => trivial
  cases found with
  | none => exact .inl rfl
  | some instanceId =>
  refine heeds_before (all_require ⟨rfl, fun _ => trivial⟩) (fun inst h => ?_) fun _ _ => trivial
  split
  · exact .inl rfl
  cases mail.fromAddress with
  | none => exact .inl rfl
  | some fromRaw =>
  refine heeds_before (minor_resolveKeys _) (fun own h => ?_) fun _ _ => trivial
  cases own with
  | some own => exact .inl rfl
  | none => exact heeds_deliver htags

end deliveries

/-! ### Reply tags -/

section runs
variable {fits : Item → Bool} {readOnly : Bool} {t : Trace (ticketService fits readOnly)}
variable {calls : ℕ → TicketCall} {i : ℕ} {id : String} {op : TicketOp} {e : TicketEnv}
variable {libs : MailLibs} {c₁ c : Pool (ticketService fits readOnly) Error Reply}

/-- A ticket is read as it is at that time. -/
def FreshRead (t : Trace (ticketService fits readOnly)) : TicketEvent → Prop
  | ⟨_, .getTicket id, .ok row⟩ => row = ((dbOf t).now.tickets.lookup id).map TicketRow.record
  | _ => True

/-- The tag names a ticket and has its token. -/
def TicketDb.Validates (d : TicketDb) (tag : ReplyTag) : Prop :=
  ∃ row, d.tickets.lookup tag.ticketId = some row ∧ row.record.replyToken = tag.replyToken

theorem constantTimeEq_refl (bytes : List UInt8) : constantTimeEq bytes bytes := by
  have hfold : ∀ bytes : List UInt8,
      (bytes.zip bytes).foldl (fun diff xy => diff ||| (xy.1 ^^^ xy.2)) 0 = 0 := by
    intro bytes
    induction bytes with
    | nil => rfl
    | cons b bytes ih =>
        rw [List.zip_cons_cons, List.foldl_cons, UInt8.xor_self, UInt8.or_self]
        exact ih
  simp [constantTimeEq, hfold bytes]

theorem ReplyTag.verifies_iff (tag : ReplyTag) (ticket : Ticket) :
    tag.verifies ticket ↔ ticket.replyToken = tag.replyToken := by
  constructor
  · exact fun h => asBytes_inj (eq_of_constantTimeEq h)
  · intro h
    unfold ReplyTag.verifies
    rw [h]
    exact constantTimeEq_refl _

/-- The delivery `i` opens no ticket, stores its message on the ticket `id`, and says so unless it
drops the message. -/
structure GoesTo (i : ℕ) (id : String) (c : Pool (ticketService fits readOnly) Error Reply) :
    Prop where
  opensNone : ∀ ev ∈ ownEvents i c.trace.events, ev.op.createsTicket = false
  stores : ∀ content r, (⟨i, .createTicketMessage content, r⟩ : TicketEvent) ∈ c.trace.events →
    content.kind = .inbound → content.ticketId = id
  ends : ∀ outcome, c.threads[i]? = some (.done (.outcome outcome)) →
    outcome.droppedReason.isSome ∨ outcome.ticketId = some id ∧ outcome.createdNewTicket = false

/-- The tag is valid, and call `i` finds it so. -/
structure Finds (i : ℕ) (tag : ReplyTag) (t : Trace (ticketService fits readOnly)) : Prop where
  valid : (dbOf t).now.Validates tag
  reads : ∀ row, (⟨i, .getTicket tag.ticketId, .ok row⟩ : TicketEvent) ∈ t.events →
    ∃ ticket, row = some ticket ∧ tag.verifies ticket

/-- A valid tag stays valid, and is found so by a fresh read. -/
theorem Finds.serve {tag : ReplyTag} {j : ℕ} (h : Finds i tag t) (hinv : TicketInvariant t)
    (hfresh : FreshRead t ⟨j, op, ((ticketService fits readOnly).serve t.state e op).1⟩) :
    Finds i tag (t.serve j e op) := by
  obtain ⟨row, hrow, htoken⟩ := h.valid
  constructor
  · have hserved : TicketInvariant (t.serve j e op) := hinv.serve
    obtain ⟨row', hrow', hsame⟩ :=
      (hserved.later (committed_serve (Replica.committed_now _))).ticket hrow
    exact ⟨row', hrow', hsame.replyToken.trans htoken⟩
  · intro found hev
    rw [Trace.serve_events] at hev
    rcases List.mem_append.mp hev with hev | hev
    · exact h.reads found hev
    · rw [← List.mem_singleton.mp hev] at hfresh
      have hfound : found = ((dbOf t).now.tickets.lookup tag.ticketId).map TicketRow.record := hfresh
      rw [hrow] at hfound
      exact ⟨row.record, hfound, (tag.verifies_iff _).mpr htoken⟩

/-- Where the tags lead if the tag after `pre` is found to be valid and those in `pre` are not. -/
theorem decided_ticket {pre post : List ReplyTag} {tag : ReplyTag} {h : List TicketEvent}
    {created : Bool} (hinv : TicketInvariant t) (hfinds : Finds i tag t)
    (hpre : ∀ earlier ∈ pre, ¬ (dbOf t).now.Validates earlier) (hsub : h ⊆ t.events)
    (hdecide : TagsDecide i (pre ++ tag :: post) h id created) :
    id = tag.ticketId ∧ created = false := by
  have hnot : ¬ TagTried i h tag := by
    rintro ⟨row, hread, hfails⟩
    obtain ⟨ticket, rfl, hverifies⟩ := hfinds.reads row (hsub hread)
    have hfail := hfails ticket rfl
    rw [hverifies] at hfail
    cases hfail
  rcases hdecide with htried | ⟨⟨ticket, ⟨pre', tag', post', htags, htried, hread, hverifies⟩, hid⟩,
    hcreated⟩
  · exact absurd (htried tag (List.mem_append_right _ List.mem_cons_self)) hnot
  refine ⟨?_, hcreated⟩
  obtain ⟨hkey, hnames⟩ := hinv.ticket_now (hsub hread)
  have hfirst : ticket.id = tag.ticketId := by
    rw [List.append_eq_append_iff] at htags
    rcases htags with ⟨mid, rfl, hmid⟩ | ⟨mid, rfl, hmid⟩
    · cases mid with
      | nil =>
          rw [List.nil_append, List.cons_eq_cons] at hmid
          rw [hkey, hmid.1]
      | cons first mid =>
          rw [List.cons_append, List.cons_eq_cons] at hmid
          rw [← hmid.1] at htried
          exact absurd (htried tag (List.mem_append_right _ List.mem_cons_self)) hnot
    · cases mid with
      | nil =>
          rw [List.nil_append, List.cons_eq_cons] at hmid
          rw [hkey, hmid.1]
      | cons first mid =>
          rw [List.cons_append, List.cons_eq_cons] at hmid
          obtain ⟨row, hrow, -, -, htoken⟩ := hnames
          have hmem : tag' ∈ pre' ++ first :: mid := by
            rw [hmid.1]
            exact List.mem_append_right _ List.mem_cons_self
          have hvalid : (dbOf t).now.Validates tag' :=
            ⟨row, hkey ▸ hrow, htoken.trans ((tag'.verifies_iff ticket).mp hverifies)⟩
          exact absurd hvalid (hpre tag' hmem)
  rcases hid with rfl | ⟨again, hagain, rfl⟩
  · exact hfirst
  · exact (hinv.ticket_now (hsub hagain)).1.trans hfirst

/-- A mail with the reply tag of a ticket goes to this ticket if the reads are fresh.  The tag is the
first valid one of the mail, and the ticket was there before the delivery began. -/
theorem goes_to_ticket {instances : Table String Instance} {addresses : Table String InboundAddress}
    (hbefore : Run (ticketService fits readOnly) (IsTicketCall libs)
      (Pool.init (emptyTickets instances addresses)) c₁)
    (hrun : GuardedRun (ticketService fits readOnly) (IsTicketCall libs)
      (fun c ev => FreshRead c.trace ev) c₁ c)
    {sesMessageId : String} {raw : List UInt8} {rawS3Key : Option String} {mail : ParsedMail}
    {pre post : List ReplyTag} {tag : ReplyTag}
    (hplays : c.Plays i
      ((TicketCall.processRawMessage sesMessageId raw rawS3Key).program libs))
    (hparse : libs.parse raw = some mail)
    (htags : (mail.plan libs.lower).replyTags = pre ++ tag :: post)
    (hbegins : c₁.threads.length ≤ i) (hvalid : (dbOf c₁.trace).now.Validates tag)
    (hpre : ∀ earlier ∈ pre, ¬ (dbOf c.trace).now.Validates earlier) :
    GoesTo i tag.ticketId c := by
  have hreach : TicketReachable (IsTicketCall libs) c := ⟨_, _, hbefore.trans hrun.run⟩
  have hinv : TicketInvariant c.trace := hreach.invariant
  have hstarted : c₁.Started (IsTicketCall libs) := Run.started hbefore (.init _)
  have hfinds : Finds i tag c.trace := by
    refine GuardedRun.keeps (K := Finds i tag) (fun {c₂ c₃ ev} hr hserves _ hfresh hK => ?_) hrun ?_
    · have hinv₂ : TicketInvariant c₂.trace := TicketReachable.invariant ⟨_, _, hbefore.trans hr⟩
      obtain ⟨e, k, -, -, htrace, hres⟩ := hserves.trace
      rw [htrace]
      refine hK.serve hinv₂ ?_
      rw [← hres]
      exact hfresh
    · refine ⟨hvalid, fun row hev => ?_⟩
      have hcaller := hstarted.callers _ hev
      simp only at hcaller
      omega
  have hsub : ownEvents i c.trace.events ⊆ c.trace.events := fun ev hev => (mem_ownEvents.mp hev).1
  have hheeds : Heeds i (pre ++ tag :: post) (TagEnds i (pre ++ tag :: post))
      (processRawMessage libs sesMessageId raw rawS3Key) [] :=
    heeds_processRawMessage sesMessageId rawS3Key hparse htags
  have hcall : Heeds i (pre ++ tag :: post)
      (fun (r : Except Error Reply) h => ∀ outcome, r = .ok (.outcome outcome) →
        TagEnds i (pre ++ tag :: post) (.ok outcome) h)
      ((TicketCall.processRawMessage sesMessageId raw rawS3Key).program libs) [] := by
    refine hheeds.bind (fun outcome h hends => ?_) fun _ _ _ => nofun
    rintro outcome' heq
    cases heq
    exact hends
  -- every request heeds the tags
  obtain ⟨p, hp, hpath⟩ := hplays
  have hrequest : ∀ ev ∈ ownEvents i c.trace.events, ∃ h : List TicketEvent,
      h ⊆ c.trace.events ∧ ev.op.heeds i (pre ++ tag :: post) h := by
    intro ev hev
    obtain ⟨before, after, hsplit⟩ := List.append_of_mem hev
    rw [hsplit] at hpath hsub
    exact ⟨before, fun x hx => hsub (List.mem_append_left _ hx), hcall.request hpath⟩
  refine ⟨fun ev hev => ?_, fun content r hev hkind => ?_, fun outcome hdone => ?_⟩
  · obtain ⟨h, hh, hheed⟩ := hrequest ev hev
    obtain ⟨j, op, r⟩ := ev
    cases op with
    | createTicket =>
        have hdecide : TagsDecide i (pre ++ tag :: post) h tag.ticketId true := .inl hheed
        have hfalse := (decided_ticket hinv hfinds hpre hh hdecide).2
        cases hfalse
    | _ => rfl
  · obtain ⟨h, hh, hheed⟩ := hrequest _ (mem_ownEvents.mpr ⟨hev, rfl⟩)
    exact (decided_ticket hinv hfinds hpre hh (hheed hkind)).1
  · rw [hp, Option.some.injEq] at hdone
    rw [hdone] at hpath
    rcases hcall.done hpath outcome rfl with hdropped | ⟨id, hid, hdecide⟩
    · exact .inl hdropped
    · obtain ⟨rfl, hcreated⟩ := decided_ticket hinv hfinds hpre hsub hdecide
      exact .inr ⟨hid, hcreated⟩

/-! ### One call after the other -/

/-- Who has used the ticket `id`, in order. -/
def users (id : String) (h : List TicketEvent) : List ℕ :=
  (h.filter fun ev => ev.op.uses id).map Event.caller

/-- The calls use the ticket one after the other: none comes back to it after another one. -/
def Apart (id : String) (h : List TicketEvent) : Prop :=
  ∀ i j, [i, j, i].Sublist (users id h) → i = j

theorem users_append (h more : List TicketEvent) :
    users id (h ++ more) = users id h ++ users id more := by
  rw [users, List.filter_append, List.map_append]
  rfl

theorem mem_users {h : List TicketEvent} {ev : TicketEvent} (hev : ev ∈ h) (huses : ev.op.uses id) :
    ev.caller ∈ users id h :=
  List.mem_map.mpr ⟨ev, List.mem_filter.mpr ⟨hev, huses⟩, rfl⟩

theorem Apart.of_prefix {h h' : List TicketEvent} (hapart : Apart id h') (hpre : h <+: h') :
    Apart id h := by
  obtain ⟨more, rfl⟩ := hpre
  intro i j hsub
  refine hapart i j (hsub.trans ?_)
  rw [users_append]
  exact List.sublist_append_left _ _

/-- A call that comes back to the ticket was the last one to use it. -/
theorem Apart.last_user {h : List TicketEvent} {ev : TicketEvent} (hapart : Apart id (h ++ [ev]))
    (huses : ev.op.uses id) (hmem : ev.caller ∈ users id h) :
    (users id h).getLast? = some ev.caller := by
  have hone : users id [ev] = [ev.caller] := by simp [users, huses]
  obtain ⟨first, last, hsplit⟩ := List.eq_nil_or_concat' (users id h) |>.resolve_left
    (List.ne_nil_of_mem hmem)
  rw [hsplit, List.getLast?_concat]
  rw [hsplit] at hmem
  rcases List.mem_append.mp hmem with hfirst | hlast
  · have hsub : [ev.caller, last, ev.caller].Sublist (users id (h ++ [ev])) := by
      rw [users_append, hsplit, hone]
      exact ((List.singleton_sublist.mpr hfirst).append (.refl [last])).append (.refl [ev.caller])
    rw [hapart _ _ hsub]
  · rw [List.mem_singleton.mp hlast]

/-- The ticket that a call has read last, after one more request of any call. -/
theorem lastTicket_more {h : List TicketEvent} {ev : TicketEvent} {ticket : Ticket}
    (hlast : lastTicket (ownEvents i (h ++ [ev])) = some ticket) :
    lastTicket (ownEvents i h) = some ticket ∨
      ∃ key, ev = ⟨i, .getTicket key, .ok (some ticket)⟩ := by
  rw [ownEvents_concat] at hlast
  split at hlast
  · rename_i hcaller
    cases hread : readTicket ev with
    | none =>
        rw [lastTicket_concat hread] at hlast
        exact .inl hlast
    | some found =>
        obtain ⟨key, heq⟩ := readTicket_some hread
        rw [heq, lastTicket_read] at hlast
        rw [heq, hcaller, Option.some.inj hlast]
        exact .inr ⟨key, rfl⟩
  · rw [List.append_nil] at hlast
    exact .inl hlast

/-- A call has used the ticket that it has read last. -/
theorem user_of_last (hinv : TicketInvariant t) {ticket : Ticket}
    (hlast : lastTicket (ownEvents i t.events) = some ticket) :
    i ∈ users ticket.id t.events ∧ ∃ row, (dbOf t).now.tickets.lookup ticket.id = some row := by
  obtain ⟨j, key, hev⟩ := lastTicket_mem hlast
  obtain ⟨hmem, rfl⟩ := mem_ownEvents.mp hev
  obtain ⟨rfl, row, hrow, -⟩ := hinv.ticket_now hmem
  exact ⟨mem_users hmem (decide_eq_true rfl), row, hrow⟩

/-- What the last user of the ticket has read, and does not ask for, is still so. -/
def HeldCurrent (calls : ℕ → TicketCall) (id : String) (t : Trace (ticketService fits readOnly)) : Prop :=
  ∀ i ticket row, (users id t.events).getLast? = some i →
    lastTicket (ownEvents i t.events) = some ticket → ticket.id = id →
    (dbOf t).now.tickets.lookup id = some row → (calls i).agrees ticket row.record

theorem TicketCall.agrees_congr {call : TicketCall} {ticket record record' : Ticket}
    (h : call.agrees ticket record) (hstatus : record'.status = record.status)
    (hassignee : record'.assigneeUserId = record.assigneeUserId) : call.agrees ticket record' := by
  unfold TicketCall.agrees at h ⊢
  rw [hstatus, hassignee]
  exact h

theorem TicketCall.agrees_refl (call : TicketCall) (ticket : Ticket) : call.agrees ticket ticket := by
  unfold TicketCall.agrees
  split <;> rfl

/-- What a call writes agrees with what it has read. -/
theorem TicketCall.writes_agrees {call : TicketCall} {ticket record : Ticket}
    (h : call.writes ticket record.status record.assigneeUserId) : call.agrees ticket record := by
  unfold TicketCall.agrees
  rcases h with ⟨hstatus, -, hsame⟩ | ⟨hstatus, -, hsame⟩
  · rw [hstatus]
    exact hsame.symm
  · rw [hstatus]
    exact hsame.symm

theorem HeldCurrent.serve (h : HeldCurrent calls id t) (hinv : TicketInvariant t)
    (hasked : op.asked (calls i) (ownEvents i t.events))
    (hfresh : FreshRead t ⟨i, op, ((ticketService fits readOnly).serve t.state e op).1⟩)
    (hapart : Apart id (t.serve i e op).events) : HeldCurrent calls id (t.serve i e op) := by
  intro j ticket row' huser hlast hid hrow'
  have hinv' : TicketInvariant (t.serve i e op) := hinv.serve
  rw [Trace.serve_events] at huser hlast hapart
  have hread := lastTicket_more hlast
  -- the row as it was before
  have hkept : ∀ row, (dbOf t).now.tickets.lookup id = some row →
      (calls j).agrees ticket row.record →
      (op.Assigns id row'.record.status row'.record.assigneeUserId → (calls j).agrees ticket row'.record) →
      (calls j).agrees ticket row'.record := by
    intro row hrow hagrees hassigns
    obtain ⟨row'', hrow'', hsame | hwrites⟩ := row_served i e op hrow
    · obtain rfl := Option.some.inj (hrow'.symm.trans hrow'')
      exact TicketCall.agrees_congr hagrees hsame.1 hsame.2
    · obtain rfl := Option.some.inj (hrow'.symm.trans hrow'')
      exact hassigns hwrites
  by_cases huses : op.uses id
  · have hone : users id [⟨i, op, ((ticketService fits readOnly).serve t.state e op).1⟩] = [i] := by
      simp [users, huses]
    rw [users_append, hone, List.getLast?_concat, Option.some.injEq] at huser
    subst huser
    rcases hread with hbefore | ⟨key, hev⟩
    · obtain ⟨hmem, row, hrow⟩ := user_of_last hinv hbefore
      rw [hid] at hmem hrow
      refine hkept row hrow (h i ticket row (hapart.last_user huses hmem) hbefore hid hrow) ?_
      rintro ⟨instanceId, now, rfl⟩
      obtain ⟨found, hfound, -, hwrites⟩ := hasked
      obtain rfl := Option.some.inj (hbefore.symm.trans hfound)
      exact TicketCall.writes_agrees hwrites
    · obtain ⟨-, rfl, hres⟩ := Event.mk.inj hev
      rw [eq_of_heq hres] at hfresh
      obtain rfl : key = id := of_decide_eq_true huses
      have hstate : dbOf (t.serve i e (.getTicket key)) = dbOf t := rfl
      have hsame : some ticket = ((dbOf t).now.tickets.lookup key).map TicketRow.record := hfresh
      rw [hstate] at hrow'
      rw [hrow', Option.map_some, Option.some.injEq] at hsame
      rw [hsame]
      exact TicketCall.agrees_refl _ _
  · have hnone : users id [⟨i, op, ((ticketService fits readOnly).serve t.state e op).1⟩] = [] := by
      simp [users, huses]
    rw [users_append, hnone, List.append_nil] at huser
    rcases hread with hbefore | ⟨key, hev⟩
    · obtain ⟨-, row, hrow⟩ := user_of_last hinv hbefore
      rw [hid] at hrow
      refine hkept row hrow (h j ticket row huser hbefore hid hrow) fun hassigns => ?_
      exact absurd hassigns.uses huses
    · obtain ⟨-, rfl, hres⟩ := Event.mk.inj hev
      have hmem : (⟨j, .getTicket key, .ok (some ticket)⟩ : TicketEvent) ∈
          (t.serve i e (.getTicket key)).events := by
        rw [Trace.serve_events, hev]
        exact List.mem_append_right _ (List.mem_singleton_self _)
      have hkey := (hinv'.ticket_now hmem).1
      rw [hid] at hkey
      exact absurd (decide_eq_true hkey.symm) huses

/-- What a call has read is up to date when it acts on it. -/
theorem upToDate_of_fresh (h : HeldCurrent calls id t) (hinv : TicketInvariant t)
    (hasked : op.asked (calls i) (ownEvents i t.events))
    (hfresh : FreshRead t ⟨i, op, ((ticketService fits readOnly).serve t.state e op).1⟩)
    (hapart : Apart id (t.serve i e op).events) (huses : op.uses id) :
    UpToDate calls t ⟨i, op, ((ticketService fits readOnly).serve t.state e op).1⟩ := by
  cases op with
  | updateTicket id' change =>
      cases change with
      | setStatusAndAssignee instanceId status assigneeUserId now =>
          intro ticket row hlast hrow
          obtain ⟨found, hfound, hid, -⟩ := hasked
          obtain rfl := Option.some.inj (hlast.symm.trans hfound)
          obtain rfl : id' = id := of_decide_eq_true huses
          obtain ⟨hmem, -⟩ := user_of_last hinv hlast
          rw [← hid] at hmem
          exact h i ticket row (hapart.last_user huses hmem) hlast hid.symm hrow
      | _ => trivial
  | getTicket id' =>
      generalize ((ticketService fits readOnly).serve t.state e (.getTicket id')).1 = r at hfresh ⊢
      rcases r with err | _ | ticket
      · trivial
      · trivial
      · intro row _ hrow
        have hsame : some ticket = ((dbOf t).now.tickets.lookup id').map TicketRow.record := hfresh
        rw [hrow, Option.map_some, Option.some.injEq] at hsame
        rw [hsame]
  | _ => trivial

/-! ### The calls one by one -/

/-- The request has opened the ticket `id`. -/
def opens (id : String) : TicketEvent → Bool
  | ⟨_, .createTicket .., .ok ticket⟩ => ticket.id = id
  | _ => false

section serial
variable (calls : ℕ → TicketCall) (id : String)

/-- The status of the ticket if the calls are made one by one: a new ticket is open, and then it has
the status that was asked for last. -/
def serialStatus (h : List TicketEvent) : Option TicketStatus :=
  h.foldl (fun asked ev => if opens id ev then some .open else askStatus calls id asked ev) none

/-- The assignee of the ticket if the calls are made one by one: a new ticket has none. -/
def serialAssignee (h : List TicketEvent) : Option (Option String) :=
  h.foldl (fun asked ev => if opens id ev then some none else askAssignee calls id asked ev) none

end serial

/-- A ticket that was opened is open and has no assignee. -/
theorem row_opened (hopens : opens id ⟨i, op, ((ticketService fits readOnly).serve t.state e op).1⟩) :
    Says id (some .open) (some none) (t.serve i e op) := by
  have hnew : ∃ row, (dbOf (t.serve i e op)).now.tickets.lookup id = some row ∧
      row.record.status = .open ∧ row.record.assigneeUserId = none := by
    cases op with
    | createTicket instanceId number subject requesterEmails ccEmails =>
        cases hr : ((ticketService fits readOnly).serve t.state e
            (.createTicket instanceId number subject requesterEmails ccEmails)).1 with
        | error err =>
            rw [hr] at hopens
            cases hopens
        | ok ticket =>
            rw [hr] at hopens
            obtain rfl : ticket.id = id := of_decide_eq_true hopens
            rcases TicketStore.write_ok hr with ⟨rfl, d, hchange, hs⟩ | ⟨h, -, -⟩
            · refine ⟨newTicket e instanceId number subject requesterEmails ccEmails, ?_, rfl, rfl⟩
              show AList.lookup _ (TicketStore.write t.state e fits readOnly _ _ _).2.db.now.tickets = _
              rw [hs]
              simp only [TicketDb.change] at hchange
              split at hchange
              · cases hchange
                exact AList.lookup_insert _
              · cases hchange
            · cases h
    | _ => cases hopens
  obtain ⟨row, hrow, hstatus, hassignee⟩ := hnew
  refine ⟨fun status heq => ⟨row, hrow, ?_⟩, fun assigneeUserId heq => ⟨row, hrow, ?_⟩⟩
  · rw [← Option.some.inj heq]
    exact hstatus
  · rw [← Option.some.inj heq]
    exact hassignee

theorem serialStatus_concat (h : List TicketEvent) (ev : TicketEvent) :
    serialStatus calls id (h ++ [ev]) =
      if opens id ev then some .open else askStatus calls id (serialStatus calls id h) ev :=
  List.foldl_concat ..

theorem serialAssignee_concat (h : List TicketEvent) (ev : TicketEvent) :
    serialAssignee calls id (h ++ [ev]) =
      if opens id ev then some none else askAssignee calls id (serialAssignee calls id h) ev :=
  List.foldl_concat ..

/-- The row says what the calls made one by one give, and the last user has read what is there. -/
structure OneByOne (calls : ℕ → TicketCall) (id : String) (t : Trace (ticketService fits readOnly)) :
    Prop where
  current : HeldCurrent calls id t
  row : Says id (serialStatus calls id t.events) (serialAssignee calls id t.events) t

theorem OneByOne.serve (h : OneByOne calls id t) (hinv : TicketInvariant t)
    (hasked : op.asked (calls i) (ownEvents i t.events))
    (hfresh : FreshRead t ⟨i, op, ((ticketService fits readOnly).serve t.state e op).1⟩)
    (hapart : Apart id (t.serve i e op).events) : OneByOne calls id (t.serve i e op) := by
  refine ⟨h.current.serve hinv hasked hfresh hapart, ?_⟩
  rw [Trace.serve_events, serialStatus_concat, serialAssignee_concat]
  by_cases hopens : opens id ⟨i, op, ((ticketService fits readOnly).serve t.state e op).1⟩
  · rw [if_pos hopens, if_pos hopens]
    exact row_opened hopens
  · rw [if_neg hopens, if_neg hopens]
    exact h.row.serve hinv hasked fun huses =>
      upToDate_of_fresh h.current hinv hasked hfresh hapart huses

/-! ### What a successful call asks for -/

/-- Every ticket that was read has the id that was asked for. -/
def KeyedReads (h : List TicketEvent) : Prop :=
  ∀ i key ticket, (⟨i, .getTicket key, .ok (some ticket)⟩ : TicketEvent) ∈ h → ticket.id = key

theorem TicketCall.finds_status {call : TicketCall} {ticket : Ticket} (h : call.finds ticket) :
    call.status = some ticket.status := by
  cases call with
  | setTicketStatus auth id status => exact congrArg some (of_decide_eq_true h)
  | _ => cases h

/-- A request that does not set the status leaves what its call asks for as it is. -/
theorem askStatus_plain {status : TicketStatus} {r : op.Res}
    (hcall : (calls i).status = some status) (hop : op.plain) :
    askStatus calls id (some status) ⟨i, op, r⟩ = some status := by
  have hset : ∀ status assigneeUserId, ¬ op.Assigns id status assigneeUserId := by
    rintro _ _ ⟨instanceId, now, rfl⟩
    cases hop
  by_cases hget : op = .getTicket id
  · subst hget
    have hask : askStatus calls id (some status) ⟨i, .getTicket id, r⟩ = some status ∨ _ :=
      askStatus_get (some status) r
    rcases hask with hsame | ⟨ticket, -, hfinds, hask⟩
    · exact hsame
    · rw [hask, ← TicketCall.finds_status hfinds, hcall]
  · exact askStatus_other hset hget

theorem KeyedReads.of_append {h more : List TicketEvent} (hkeyed : KeyedReads (h ++ more)) :
    KeyedReads h := fun i key ticket hev => hkeyed i key ticket (List.mem_append_left _ hev)

/-- A call that succeeds has asked for the status, according to its own requests. -/
def AsksStatus (calls : ℕ → TicketCall) (id : String) (status : TicketStatus)
    (r : Except Error Reply) (h : List TicketEvent) : Prop :=
  r.isOk → KeyedReads h → lastStatus calls id h = some status

/-- A program that sets nothing leaves what its call has asked for as it is. -/
theorem sends_asked {α : Type} {p : TicketProg α} {status : TicketStatus} {h : List TicketEvent}
    (hcall : (calls i).status = some status) (hp : p.All fun op => op.basic)
    (h₀ : KeyedReads h → lastStatus calls id h = some status) :
    Sends i (fun _ _ => True) (fun _ h => KeyedReads h → lastStatus calls id h = some status) p h := by
  refine Sends.keeps (P := fun op => op.basic)
    (K := fun h => KeyedReads h → lastStatus calls id h = some status) hp (fun _ _ => trivial)
    (fun hop hK hkeyed => ?_) h₀
  rw [lastStatus_concat, hK hkeyed.of_append]
  exact askStatus_plain hcall (TicketOp.plain_of_basic hop)

theorem askAssignee_plain {asked : Option (Option String)} {r : op.Res} (hop : op.plain) :
    askAssignee calls id asked ⟨i, op, r⟩ = asked := by
  apply askAssignee_other
  rintro _ _ ⟨instanceId, now, rfl⟩
  cases hop

/-- A successful call of `setTicketStatus` has asked for its status. -/
theorem asks_setTicketStatus {libs : AppLibs} {auth : Option AuthInfo} {status : TicketStatus}
    (hcall : calls i = .setTicketStatus auth id status) :
    Sends i (fun _ _ => True) (AsksStatus calls id status) (setTicketStatus libs auth id status)
      [] := by
  have hstatus : (calls i).status = some status := by
    rw [hcall]
    rfl
  have herror : ∀ e h, AsksStatus calls id status (.error e) h := fun e h hok => nomatch hok
  refine sends_member trivial herror fun ticket => ?_
  refine sends_userId herror fun userId => ?_
  show Sends i _ _ (if status = ticket.status then _ else _) _
  split
  · rename_i hsame
    intro _ _
    have hfinds : (calls i).finds ticket := by
      rw [hcall]
      exact decide_eq_true hsame
    simp only [lastStatus, List.foldl_cons, List.foldl_nil, askStatus, hfinds, true_and, if_true]
    rw [hsame]
  · refine ⟨trivial, fun now => ⟨trivial, fun r => ?_⟩⟩
    cases r with
    | error e => exact herror _ _
    | ok u =>
        refine (sends_asked hstatus ?_ fun hkeyed => ?_).post fun r h hK _ => hK
        · exact ((basic_noticeOfStatus ..).bind fun _ =>
            (basic_staffNoticeOfStatus ..).bind fun _ => trivial)
        · have hid : ticket.id = id := hkeyed i id ticket (List.mem_cons_self)
          rw [lastStatus_concat, hid, askStatus_set, hstatus]
          rfl

/-- A call that succeeds has asked for the assignee, according to its own requests. -/
def AsksAssignee (calls : ℕ → TicketCall) (id : String) (assigneeUserId : Option String)
    (r : Except Error Reply) (h : List TicketEvent) : Prop :=
  r.isOk → KeyedReads h → lastAssignee calls id h = some assigneeUserId

/-- A successful call of `assignTicket` has asked for its assignee. -/
theorem asks_assignTicket {libs : AppLibs} {auth : Option AuthInfo} {assigneeUserId : Option String}
    (hcall : calls i = .assignTicket auth id assigneeUserId) :
    Sends i (fun _ _ => True) (AsksAssignee calls id assigneeUserId)
      (assignTicket libs auth id assigneeUserId) [] := by
  have hassignee : (calls i).assignee = some assigneeUserId := by
    rw [hcall]
    rfl
  have herror : ∀ e h, AsksAssignee calls id assigneeUserId (.error e) h :=
    fun e h hok => nomatch hok
  refine sends_member trivial herror fun ticket => ?_
  refine sends_userId herror fun userId => ?_
  -- the check of the assignee reads no ticket
  have hcheck : (requireAssignee ticket assigneeUserId).All fun op => op.plain := by
    cases assigneeUserId with
    | none => trivial
    | some userId =>
        exact Prog.All.bind (all_require ⟨rfl, fun _ => trivial⟩) fun _ => Prog.all_ensure _ _
  have hread : Sends i (fun _ _ => True)
      (fun _ h => (⟨i, .getTicket id, .ok (some ticket)⟩ : TicketEvent) ∈ h)
      (requireAssignee ticket assigneeUserId) [⟨i, .getTicket id, .ok (some ticket)⟩] :=
    Sends.keeps hcheck (fun _ _ => trivial) (fun _ hmem => List.mem_append_left _ hmem)
      (List.mem_singleton_self _)
  refine hread.bind (fun _ h hmem => ?_) fun e h _ => herror e h
  refine ⟨trivial, fun now => ⟨trivial, fun r => ?_⟩⟩
  cases r with
  | error e => exact herror _ _
  | ok u =>
      refine Sends.post (Sends.keeps (P := fun op => op.basic)
        (K := fun h => KeyedReads h → lastAssignee calls id h = some assigneeUserId) ?_
        (fun _ _ => trivial) (fun hop hK hkeyed => ?_) fun hkeyed => ?_) fun r h hK _ => hK
      · exact (basic_staffNoticeOfAssignee ..).bind fun _ => trivial
      · rw [lastAssignee_concat, hK hkeyed.of_append]
        exact askAssignee_plain (TicketOp.plain_of_basic hop)
      · have hid : ticket.id = id :=
          hkeyed i id ticket (List.mem_append_left _ (List.mem_append_left _ hmem))
        rw [lastAssignee_concat, hid, askAssignee_set, hassignee]
        rfl

/-! ### Runs -/

theorem OneByOne.init (instances : Table String Instance) (addresses : Table String InboundAddress) :
    OneByOne calls id (⟨[], emptyTickets instances addresses⟩ : Trace (ticketService fits readOnly)) where
  current := fun i ticket row huser => by cases huser
  row := ⟨nofun, nofun⟩

/-- A ticket that the calls use one after the other is as if they were made one by one. -/
theorem one_by_one {instances : Table String Instance} {addresses : Table String InboundAddress}
    (hrun : GuardedRun (ticketService fits readOnly) (IsTicketCall libs)
      (fun c ev => FreshRead c.trace ev) (Pool.init (emptyTickets instances addresses)) c)
    (hplays : ∀ i, i < c.threads.length → c.Plays i ((calls i).program libs))
    (hapart : Apart id c.trace.events) : OneByOne calls id c.trace := by
  refine GuardedRun.plays (K := fun t => OneByOne calls id t)
    (G := fun i h op => op.asked (calls i) h) (fun i => ?_) ?_ hrun (.init _) hplays
    (OneByOne.init instances addresses)
  · exact (orderly_call (calls i) i).mono (fun _ _ hop => hop.2) fun _ _ h => h
  · intro c₂ i e op hr hgrows hK hasked hfresh
    have hinv₂ : TicketInvariant c₂.trace := TicketReachable.invariant ⟨_, _, hr⟩
    exact hK.serve hinv₂ hasked hfresh (hapart.of_prefix hgrows)

/-- If every read of a ticket is fresh: a mail with the reply tag of a ticket goes to this ticket; and
a ticket that the calls use one after the other has the status and the assignee of the calls made one
by one, among them what each successful call of `setTicketStatus` and `assignTicket` has asked for. -/
theorem fresh_reads {instances : Table String Instance} {addresses : Table String InboundAddress}
    (hbefore : GuardedRun (ticketService fits readOnly) (IsTicketCall libs)
      (fun c ev => FreshRead c.trace ev) (Pool.init (emptyTickets instances addresses)) c₁)
    (hrun : GuardedRun (ticketService fits readOnly) (IsTicketCall libs)
      (fun c ev => FreshRead c.trace ev) c₁ c)
    (hplays : ∀ i, i < c.threads.length → c.Plays i ((calls i).program libs)) :
    (∀ i sesMessageId raw rawS3Key mail pre tag post,
      calls i = .processRawMessage sesMessageId raw rawS3Key → libs.parse raw = some mail →
      (mail.plan libs.lower).replyTags = pre ++ tag :: post →
      c₁.threads.length ≤ i → i < c.threads.length → (dbOf c₁.trace).now.Validates tag →
      (∀ earlier ∈ pre, ¬ (dbOf c.trace).now.Validates earlier) → GoesTo i tag.ticketId c) ∧
    ∀ id, Apart id c.trace.events →
      Says id (serialStatus calls id c.trace.events) (serialAssignee calls id c.trace.events)
        c.trace ∧
      (∀ i auth status reply, calls i = .setTicketStatus auth id status →
        c.threads[i]? = some (.done reply) →
        lastStatus calls id (ownEvents i c.trace.events) = some status) ∧
      ∀ i auth assigneeUserId reply, calls i = .assignTicket auth id assigneeUserId →
        c.threads[i]? = some (.done reply) →
        lastAssignee calls id (ownEvents i c.trace.events) = some assigneeUserId := by
  have hinv : TicketInvariant c.trace :=
    TicketReachable.invariant ⟨_, _, hbefore.run.trans hrun.run⟩
  have hkeyed : ∀ i, KeyedReads (ownEvents i c.trace.events) := fun i j key ticket hev =>
    (hinv.ticket_now (mem_ownEvents.mp hev).1).1
  constructor
  · intro i sesMessageId raw rawS3Key mail pre tag post hcall hparse htags hbegins hi hvalid hpre
    have hplay := hplays i hi
    rw [hcall] at hplay
    exact goes_to_ticket hbefore.run hrun hplay hparse htags hbegins hvalid hpre
  intro id hapart
  refine ⟨?_, fun i auth status reply hcall hdone => ?_, fun i auth user reply hcall hdone => ?_⟩
  · exact (one_by_one (hbefore.trans hrun) hplays hapart).row
  · have hplay := hplays i (List.getElem?_eq_some_iff.mp hdone).1
    rw [hcall] at hplay
    exact hplay.done hdone (asks_setTicketStatus hcall) rfl (hkeyed i)
  · have hplay := hplays i (List.getElem?_eq_some_iff.mp hdone).1
    rw [hcall] at hplay
    exact hplay.done hdone (asks_assignTicket hcall) rfl (hkeyed i)

/-- `FreshRead` as a test. -/
def freshReadTest (c : Pool (ticketService fits readOnly) Error Reply) : TicketEvent → Bool
  | ⟨_, .getTicket id, .ok row⟩ => row = ((dbOf c.trace).now.tickets.lookup id).map TicketRow.record
  | _ => true

theorem freshRead_of_test {c : Pool (ticketService fits readOnly) Error Reply} {ev : TicketEvent}
    (h : freshReadTest c ev) : FreshRead c.trace ev := by
  unfold freshReadTest at h
  unfold FreshRead
  split at h
  · exact of_decide_eq_true h
  · trivial

/-- Calls that are made one after the other. -/
theorem apart_of_sorted {h : List TicketEvent} (hsorted : (h.map Event.caller).Pairwise (· ≤ ·))
    (id : String) : Apart id h := by
  intro i j hsub
  have husers : (users id h).Sublist (h.map Event.caller) := List.filter_sublist.map _
  have hpair := hsorted.sublist (hsub.trans husers)
  simp only [List.pairwise_cons, List.mem_cons, List.not_mem_nil, or_false, forall_eq_or_imp,
    forall_eq] at hpair
  omega

end runs

/-! ### Sample runs

Kim's mail opens the ticket `r8`; a member closes it, another one assigns it, and Kim answers to the
reply address of the ticket, all one after the other. -/

/-- Kim's answer. -/
def taggedMail : ParsedMail :=
  plainMail "kim@x.org" "Re: Printer" "k3@x.org" ["help+tr8.token8@desk.org"]

def taggedLibs : MailLibs :=
  { sampleMailLibs with
    parse := fun raw => raw.head?.bind fun n => (sampleMails ++ [taggedMail])[n.toNat]? }

abbrev TaggedMove : Type := Move sampleTickets (IsTicketCall taggedLibs)

def taggedCalls : ℕ → TicketCall
  | 0 => .processRawMessage "s1" [0] none
  | 1 => .setTicketStatus sampleMember "r8" .closed
  | 2 => .assignTicket sampleMember "r8" (some "u2")
  | _ => .processRawMessage "s2" [4] none

/-- Call `i` is made. -/
def taggedCall (i : ℕ) : TaggedMove := .start ((taggedCalls i).program taggedLibs) ⟨taggedCalls i, rfl⟩

/-- The next requests of call `i` are served, each read as it was so many commits ago. -/
def taggedServes (i n : ℕ) (lags : List ℕ) : List TaggedMove :=
  lags.zipIdx.map fun (lag, k) => .serve i { sampleTicketEnv (n + k) with lag := lag }

def noTickets : TicketPool :=
  Pool.init (S := sampleTickets) (emptyTickets sampleInstances sampleAddresses)

/-- Three calls are made. -/
def threeCalls : TicketPool := noTickets.play ((List.range 3).map taggedCall)

/-- Their requests, with the lag of the assignment's read. -/
def threeServed (lag : ℕ) : List TaggedMove :=
  taggedServes 0 0 (List.replicate 13 0) ++ taggedServes 1 20 (List.replicate 11 0) ++
    taggedServes 2 40 (lag :: List.replicate 5 0)

/-- The answer, with the lag of its read of the ticket. -/
def answerMoves (lag : ℕ) : List TaggedMove :=
  taggedCall 3 :: taggedServes 3 60 (List.replicate 6 0 ++ lag :: List.replicate 7 0)

/-- The run with these lags, before the answer and in the end. -/
def taggedPool (lag : ℕ) : TicketPool := threeCalls.play (threeServed lag)

def answeredPool (lag answerLag : ℕ) : TicketPool := (taggedPool lag).play (answerMoves answerLag)

theorem taggedPool_run (lag answerLag : ℕ) :
    Run sampleTickets (IsTicketCall taggedLibs) noTickets (taggedPool lag) ∧
      Run sampleTickets (IsTicketCall taggedLibs) (taggedPool lag) (answeredPool lag answerLag) :=
  ⟨(Pool.play_run noTickets ((List.range 3).map taggedCall)).trans
    (Pool.play_run threeCalls (threeServed lag)), Pool.play_run _ (answerMoves answerLag)⟩

/-- The four calls of the sample runs. -/
theorem taggedCalls_play {lag answerLag : ℕ}
    (h : (taggedPool lag).threads.length = 3 ∧ (answeredPool lag answerLag).threads.length = 4 ∧
      (taggedPool lag).trace.events.all fun ev => ev.caller ≠ 3) (i : ℕ)
    (hi : i < (answeredPool lag answerLag).threads.length) :
    (answeredPool lag answerLag).Plays i ((taggedCalls i).program taggedLibs) := by
  obtain ⟨hlen, hlen', hnew⟩ := h
  rw [hlen'] at hi
  by_cases hfirst : i < 3
  · have hthreads : threeCalls.threads =
        (List.range 3).map fun j => (taggedCalls j).program taggedLibs := rfl
    have hevents : threeCalls.trace.events = [] := rfl
    have hrun := Pool.play_run threeCalls (threeServed lag)
    refine Run.plays (hrun.trans (taggedPool_run lag answerLag).2) ?_ ?_
    · rw [hthreads, List.getElem?_map, List.getElem?_range hfirst]
      rfl
    · rw [hevents]
      intro ev hev
      cases hev
  · obtain rfl : i = 3 := by omega
    have hno : ∀ ev ∈ (taggedPool lag).trace.events, ev.caller ≠ 3 := fun ev hev =>
      of_decide_eq_true (List.all_eq_true.mp hnew ev hev)
    rw [answeredPool, answerMoves, Pool.play_cons (S := sampleTickets)]
    generalize taggedPool lag = c at hlen hno
    have hrun := Pool.play_run (c.move (taggedCall 3))
      (taggedServes 3 60 (List.replicate 6 0 ++ answerLag :: List.replicate 7 0))
    exact Pool.start_plays hlen hno hrun

/-- The run with fresh reads. -/
theorem taggedPool_fresh :
    GuardedRun sampleTickets (IsTicketCall taggedLibs) (fun c ev => FreshRead c.trace ev) noTickets
        (taggedPool 0) ∧
      GuardedRun sampleTickets (IsTicketCall taggedLibs) (fun c ev => FreshRead c.trace ev)
        (taggedPool 0) (answeredPool 0 0) := by
  have hbegun : GuardedRun sampleTickets (IsTicketCall taggedLibs)
      (fun c ev => FreshRead c.trace ev) noTickets threeCalls :=
    Pool.play_guarded (fun _ _ => freshRead_of_test)
      (show noTickets.guarded freshReadTest ((List.range 3).map taggedCall) by decide +kernel)
  refine ⟨hbegun.trans (Pool.play_guarded (fun _ _ => freshRead_of_test)
    (show threeCalls.guarded freshReadTest (threeServed 0) by decide +kernel)), ?_⟩
  exact Pool.play_guarded (fun _ _ => freshRead_of_test)
    (show (taggedPool 0).guarded freshReadTest (answerMoves 0) by decide +kernel)

attribute [irreducible] taggedPool answeredPool

theorem fresh_reads_sample : GoesTo 3 "r8" (answeredPool 0 0) ∧
    serialStatus taggedCalls "r8" (answeredPool 0 0).trace.events = some .open ∧
    serialAssignee taggedCalls "r8" (answeredPool 0 0).trace.events = some (some "u2") ∧
    Says "r8" (some .open) (some (some "u2")) (answeredPool 0 0).trace := by
  have hended : (taggedPool 0).threads.length = 3 ∧ (answeredPool 0 0).threads.length = 4 ∧
      ((taggedPool 0).trace.events.all fun ev => ev.caller ≠ 3) := by decide +kernel
  have hserial : serialStatus taggedCalls "r8" (answeredPool 0 0).trace.events = some .open ∧
      serialAssignee taggedCalls "r8" (answeredPool 0 0).trace.events = some (some "u2") ∧
      ((answeredPool 0 0).trace.events.map Event.caller).Pairwise (· ≤ ·) ∧
      ((dbOf (taggedPool 0).trace).now.tickets.lookup "r8").any
        (fun row => row.record.replyToken = "token8") := by decide +kernel
  obtain ⟨hstatus, hassignee, hsorted, htoken⟩ := hserial
  obtain ⟨row, hrow, htoken⟩ := Option.any_eq_true _ _ |>.mp htoken
  have hfresh := fresh_reads taggedPool_fresh.1 taggedPool_fresh.2 (taggedCalls_play hended)
  refine ⟨hfresh.1 3 "s2" [4] none taggedMail [] ⟨"r8", "token8"⟩ [] rfl rfl (by decide +kernel)
    (le_of_eq hended.1) (by rw [hended.2.1]; decide) ⟨row, hrow, of_decide_eq_true htoken⟩ nofun,
    hstatus, hassignee, ?_⟩
  have hheld := (hfresh.2 "r8" (apart_of_sorted hsorted "r8")).1
  rw [hstatus, hassignee] at hheld
  exact hheld

/-- Reads of earlier versions: the answer opens a new ticket, and the assignment opens the closed
ticket again, although all calls are made one after the other. -/
theorem stale_read :
    (¬ ∀ (libs : MailLibs) (fits : Item → Bool) (readOnly : Bool)
      (instances : Table String Instance) (addresses : Table String InboundAddress)
      (c₁ c : Pool (ticketService fits readOnly) Error Reply) (calls : ℕ → TicketCall) (i : ℕ)
      (sesMessageId : String) (raw : List UInt8) (rawS3Key : Option String) (mail : ParsedMail)
      (tag : ReplyTag),
      Run (ticketService fits readOnly) (IsTicketCall libs)
        (Pool.init (emptyTickets instances addresses)) c₁ →
      Run (ticketService fits readOnly) (IsTicketCall libs) c₁ c →
      (∀ i, i < c.threads.length → c.Plays i ((calls i).program libs)) →
      (∀ id, Apart id c.trace.events) →
      calls i = .processRawMessage sesMessageId raw rawS3Key → libs.parse raw = some mail →
      (mail.plan libs.lower).replyTags = [tag] → c₁.threads.length ≤ i → i < c.threads.length →
      (dbOf c₁.trace).now.Validates tag → GoesTo i tag.ticketId c) ∧
    ¬ ∀ (libs : MailLibs) (fits : Item → Bool) (readOnly : Bool)
      (instances : Table String Instance) (addresses : Table String InboundAddress)
      (c : Pool (ticketService fits readOnly) Error Reply) (calls : ℕ → TicketCall) (id : String),
      Run (ticketService fits readOnly) (IsTicketCall libs)
        (Pool.init (emptyTickets instances addresses)) c →
      (∀ i, i < c.threads.length →
        c.Plays i ((calls i).program libs) ∧ (c.value i).isSome) →
      (∀ id, Apart id c.trace.events) →
      Says id (serialStatus calls id c.trace.events) (serialAssignee calls id c.trace.events)
        c.trace := by
  have hended : (taggedPool 3).threads.length = 3 ∧ (answeredPool 3 10).threads.length = 4 ∧
      ((taggedPool 3).trace.events.all fun ev => ev.caller ≠ 3) := by decide +kernel
  have hfacts : ((answeredPool 3 10).trace.events.map Event.caller).Pairwise (· ≤ ·) ∧
      (∀ i < 4, ((answeredPool 3 10).value i).isSome) ∧
      ((dbOf (taggedPool 3).trace).now.tickets.lookup "r8").any
        (fun row => row.record.replyToken = "token8") ∧
      (∃ ev ∈ ownEvents 3 (answeredPool 3 10).trace.events, ev.op.createsTicket = true) ∧
      serialStatus taggedCalls "r8" (answeredPool 3 10).trace.events = some .closed ∧
      ((dbOf (answeredPool 3 10).trace).now.tickets.lookup "r8").all
        (fun row => row.record.status = .open) := by decide +kernel
  obtain ⟨hsorted, hvalues, htoken, ⟨ev, hev, hcreates⟩, hserial, hopen⟩ := hfacts
  obtain ⟨hbefore, hrun⟩ := taggedPool_run 3 10
  constructor
  · intro hclaim
    obtain ⟨row, hrow, htoken⟩ := Option.any_eq_true _ _ |>.mp htoken
    have hgoes := hclaim taggedLibs _ _ sampleInstances sampleAddresses _ _ taggedCalls 3 "s2" [4]
      none taggedMail ⟨"r8", "token8"⟩ hbefore hrun (taggedCalls_play hended)
      (apart_of_sorted hsorted) rfl rfl (by decide +kernel) (le_of_eq hended.1)
      (by rw [hended.2.1]; decide) ⟨row, hrow, of_decide_eq_true htoken⟩
    have hnone := hgoes.opensNone ev hev
    rw [hcreates] at hnone
    cases hnone
  · intro hclaim
    have hheld := hclaim taggedLibs _ _ sampleInstances sampleAddresses _ taggedCalls "r8"
      (hbefore.trans hrun)
      (fun i hi => ⟨taggedCalls_play hended i hi, hvalues i (hended.2.1 ▸ hi)⟩)
      (apart_of_sorted hsorted)
    obtain ⟨row, hrow, hclosed⟩ := hheld.status .closed hserial
    rw [hrow, Option.all_some, decide_eq_true_eq, hclosed] at hopen
    cases hopen

end Microticket

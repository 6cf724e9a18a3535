import Microticket.MailIsolation
import Microticket.TicketInvariant

/-! # The sender among the participants

A delivery compares the sender of a message, as `normalize_recipient` writes it, byte by byte with the
people of the ticket.  `normalize_recipient` takes a tag `+tag` out of the address and keeps blanks,
while `normalize_ticket_email` keeps the tag and drops the blanks.  So the answer of a participant with
a tag adds a CC, and comes back to the sender (`sender_unrecognised`).

If whoever of a ticket is the sender, but for case and blanks, is stored as the delivery writes the
sender, nothing is added and the message is relayed to the others only (`sender_recognised`). -/

namespace Microticket

open Interleaving Tables RustText

/-! ### Addresses -/

/-- Two addresses are equal but for case and surrounding blanks: `normalize_ticket_email` stores them
alike. -/
def SameAddress (lower : String → String) (a b : String) : Prop := lower (trim a) = lower (trim b)

instance (lower : String → String) (a b : String) : Decidable (SameAddress lower a b) :=
  inferInstanceAs (Decidable (_ = _))

/-- The people of a ticket. -/
def Ticket.people (ticket : Ticket) : List String := ticket.requesterEmails ++ ticket.ccEmails

/-- Whoever of the ticket is the sender is stored as the delivery writes the sender. -/
def StoredAsSent (lower : String → String) (fromRaw : String) (ticket : Ticket) : Prop :=
  ∀ email ∈ ticket.people, SameAddress lower email fromRaw →
    email = (normalizeRecipient lower fromRaw).address

instance (lower : String → String) (fromRaw : String) (ticket : Ticket) :
    Decidable (StoredAsSent lower fromRaw ticket) :=
  inferInstanceAs (Decidable (∀ email ∈ ticket.people, _ → _))

section people
variable {lower : String → String} {fromRaw : String} {ticket : Ticket}

theorem mem_othersThan {email address : String} :
    email ∈ ticket.othersThan address ↔ email ∈ ticket.people ∧ email ≠ address := by
  rw [Ticket.othersThan, List.mem_filter, decide_eq_true_eq]
  rfl

theorem involves_iff {address : String} : ticket.involves address ↔ address ∈ ticket.people := by
  rw [Ticket.involves, Bool.or_eq_true, List.contains_iff_mem, List.contains_iff_mem, Ticket.people,
    List.mem_append]

/-- It is so exactly if the sender, once among the people, is found there and not among the others. -/
theorem storedAsSent_iff (hsender : ∃ email ∈ ticket.people, SameAddress lower email fromRaw) :
    StoredAsSent lower fromRaw ticket ↔
      ticket.involves (normalizeRecipient lower fromRaw).address ∧
      ∀ email ∈ ticket.othersThan (normalizeRecipient lower fromRaw).address,
        ¬ SameAddress lower email fromRaw := by
  obtain ⟨sender, hmem, hsame⟩ := hsender
  constructor
  · intro hstored
    constructor
    · rw [involves_iff, ← hstored sender hmem hsame]
      exact hmem
    · intro email hemail hsame'
      obtain ⟨hpeople, hne⟩ := mem_othersThan.mp hemail
      exact hne (hstored email hpeople hsame')
  · rintro ⟨-, hothers⟩ email hemail hsame'
    by_contra hne
    exact hothers email (mem_othersThan.mpr ⟨hemail, hne⟩) hsame'

/-- A sender without a tag and without blanks, on a ticket whose addresses are trimmed and in lower
case. -/
theorem StoredAsSent.of_lower (hfrom : (normalizeRecipient lower fromRaw).address = lower (trim fromRaw))
    (hpeople : ∀ email ∈ ticket.people, lower (trim email) = email) :
    StoredAsSent lower fromRaw ticket := by
  intro email hemail hsame
  rw [← hpeople email hemail, hfrom]
  exact hsame

end people

/-! ### What a delivery relays -/

/-- The request lists the members of an instance: with it a notice to the staff begins. -/
def TicketOp.listsStaff : TicketOp → Bool
  | .listMembershipsByInstance _ => true
  | _ => false

/-- A mail that is sent before the staff is notified, on a ticket that was there, goes to people of the
ticket that was read last who are not `address`. -/
def TicketOp.relays (address : String) (h : List TicketEvent) : TicketOp → Prop
  | .sendRaw _ recipients ccs =>
      (∀ ev ∈ h, ev.op.listsStaff = false) → NoTicket h → ∃ ticket, lastTicket h = some ticket ∧
        ∀ email ∈ recipients ++ ccs, email ∈ ticket.othersThan address
  | _ => True

/-- The requests that send no mail. -/
def TicketOp.mailless : TicketOp → Bool
  | .sendRaw .. => false
  | _ => true

/-- Those of them that neither create nor read a ticket. -/
def TicketOp.mute : TicketOp → Bool
  | .createTicket .. | .getTicket _ => false
  | op => op.mailless

section deliveries
variable {i : ℕ} {address : String} {h : List TicketEvent} {libs : MailLibs}

theorem relays_of_mailless {op : TicketOp} (hop : op.mailless) : op.relays address h := by
  cases op with
  | sendRaw => cases hop
  | _ => trivial

theorem TicketOp.mailless_of_mute {op : TicketOp} (hop : op.mute) : op.mailless := by
  cases op with
  | createTicket => cases hop
  | getTicket => cases hop
  | _ => exact hop

theorem not_creates_of_mute {op : TicketOp} (hop : op.mute) : op.createsTicket = false := by
  cases op with
  | createTicket => cases hop
  | _ => rfl

theorem not_reads_of_mute {op : TicketOp} {r : op.Res} (hop : op.mute) :
    readTicket ⟨i, op, r⟩ = none := by
  cases op with
  | getTicket => cases hop
  | _ => rfl

/-- The requests of a program are relayed to others than `address`, and it ends in `Q`. -/
abbrev Relays {α : Type} (i : ℕ) (address : String)
    (Q : Except Error α → List TicketEvent → Prop) (p : TicketProg α) (h : List TicketEvent) : Prop :=
  Sends i (fun h op => op.relays address h) Q p h

/-- A mute part, after which `K` still holds. -/
theorem relays_keeps {α β : Type} {p : TicketProg α} {f : α → TicketProg β}
    {Q : Except Error β → List TicketEvent → Prop} {K : List TicketEvent → Prop}
    (hp : p.All fun op => op.mute) (hK : ∀ {h op r}, op.mute → K h → K (h ++ [⟨i, op, r⟩]))
    (h₀ : K h) (hf : ∀ a h, K h → Relays i address Q (f a) h) (herr : ∀ e h, Q (.error e) h) :
    Relays i address Q (p >>= f) h :=
  (Sends.keeps hp (fun hop _ => relays_of_mailless (TicketOp.mailless_of_mute hop)) hK h₀).bind hf
    fun e h _ => herr e h

/-- A mute part before the ticket is resolved. -/
theorem relays_before {α β : Type} {p : TicketProg α} {f : α → TicketProg β}
    {Q : Except Error β → List TicketEvent → Prop} (hp : p.All fun op => op.mute)
    (hno : NoTicket h) (hf : ∀ a h, NoTicket h → Relays i address Q (f a) h)
    (herr : ∀ e h, Q (.error e) h) : Relays i address Q (p >>= f) h :=
  relays_keeps (K := NoTicket) hp (fun hop hno => hno.more (not_creates_of_mute hop)) hno hf herr

/-- The ticket, unless it is new, was read last. -/
def Holds (ticket : Ticket) (h : List TicketEvent) : Prop := NoTicket h → lastTicket h = some ticket

theorem Holds.more {ticket : Ticket} {op : TicketOp} {r : op.Res} (hholds : Holds ticket h)
    (hread : readTicket ⟨i, op, r⟩ = none) : Holds ticket (h ++ [⟨i, op, r⟩]) := by
  intro hno
  rw [lastTicket_concat hread]
  exact hholds fun ev hev => hno ev (List.mem_append_left _ hev)

theorem relays_openTicket {d : Delivery} {lower : String → String}
    {addresses : List InboundAddress} :
    Relays i address (fun r h => ∀ placement, r = .ok placement → Holds placement.ticket h)
      (openTicket lower addresses d) h := by
  refine ⟨trivial, fun r => ?_⟩
  cases r with
  | error e => exact nofun
  | ok number =>
  refine ⟨trivial, fun r => ?_⟩
  cases r with
  | error e => exact nofun
  | ok ticket =>
      intro placement _ hno
      have hcreates := hno _ (List.mem_append_right _ (List.mem_singleton_self _))
      cases hcreates

theorem relays_placeMessage {d : Delivery} {lower : String → String} {resolved : Option Ticket}
    (hresolved : ∀ ticket ∈ resolved, Holds ticket h) :
    Relays i address (fun r h => ∀ placement, r = .ok placement → Holds placement.ticket h)
      (placeMessage lower d resolved) h := by
  refine ⟨trivial, fun r => ?_⟩
  cases r with
  | error e => exact nofun
  | ok addresses =>
  cases resolved with
  | none => exact relays_openTicket
  | some ticket =>
      refine (sends_appended (K := Holds ticket) (fun _ => trivial) (fun hholds => hholds.more rfl) d
        ticket ((hresolved ticket rfl).more rfl)).bind (fun placement h hplaced => ?_) fun _ _ _ => nofun
      obtain ⟨hholds, hplacement⟩ := hplaced
      obtain ⟨rfl, -⟩ := hplacement placement rfl
      -- the ticket is read again; if it is gone, it is the one that was read before
      refine ⟨trivial, fun r => ?_⟩
      cases r with
      | error e => exact nofun
      | ok row =>
          intro placement' heq
          cases heq
          cases row with
          | none => exact hholds.more rfl
          | some again => exact fun _ => lastTicket_read

theorem mute_storeMessage (d : Delivery) (ticketId : String) :
    (storeMessage d ticketId).All fun op => op.mute :=
  all_storeMessage (fun _ => rfl) (fun _ _ => rfl) (fun _ _ _ => rfl) (fun _ => rfl) d ticketId

/-- The recipients of a mail are among the given ones. -/
theorem buildOutbound_recipients {lower debug : String → String} {inst : Instance}
    {addresses : List InboundAddress} {ticket : Ticket} {requesterEmails ccEmails : List String}
    {body nonce : String} {threading : Threading} {mail : Mime}
    (hmail : buildOutbound lower debug inst addresses ticket requesterEmails ccEmails body threading
      nonce = .ok mail) : mail.recipients ⊆ requesterEmails ∧ mail.ccs ⊆ ccEmails := by
  unfold buildOutbound at hmail
  split at hmail
  · cases hmail
  dsimp only at hmail
  split at hmail
  · cases hmail
  split at hmail
  · cases hmail
  · cases hmail
    exact ⟨List.filter_subset_self _, List.filter_subset_self _⟩

theorem relays_notifyOthers {libs : AppLibs} {ticket : Ticket} {body : String}
    (hholds : Holds ticket h) :
    Relays i address (fun _ _ => True) (notifyOthers libs ticket (ticket.othersThan address) body)
      h := by
  refine ⟨trivial, fun r => ?_⟩
  rcases r with e | _ | inst
  · trivial
  · trivial
  refine ⟨trivial, fun r => ?_⟩
  cases r with
  | error e => trivial
  | ok addresses =>
  refine ⟨trivial, fun r => ?_⟩
  cases r with
  | error e => trivial
  | ok prior =>
  refine ⟨trivial, fun nonce => ?_⟩
  have hholds' : Holds ticket (h ++ [⟨i, .getInstance ticket.instanceId, .ok (some inst)⟩] ++
      [⟨i, .listInboundAddressesByInstance inst.id, .ok addresses⟩] ++
      [⟨i, .listTicketMessages ticket.id, .ok prior⟩] ++ [⟨i, .generateNonce 16, nonce⟩]) :=
    (((hholds.more rfl).more rfl).more rfl).more rfl
  dsimp only [bind, Prog.bind]
  split
  · trivial
  · rename_i mail hmail
    obtain ⟨hrecipients, hccs⟩ := buildOutbound_recipients hmail
    refine ⟨fun _ hno => ⟨ticket, hholds' hno, fun email hemail => ?_⟩, fun r => ?_⟩
    · rcases List.mem_append.mp hemail with hemail | hemail
      · exact hrecipients hemail
      · exact absurd (hccs hemail) List.not_mem_nil
    cases r with
    | error e => trivial
    | ok rfcMessageId =>
    refine ⟨trivial, fun r => ?_⟩
    cases r with
    | error e => trivial
    | ok message => exact ⟨trivial, fun _ => trivial⟩

theorem relays_relayMessage {libs : AppLibs} {d : Delivery} {ticket : Ticket}
    (hholds : Holds ticket h) :
    Relays i d.fromNormalized (fun _ _ => True) (relayMessage libs d ticket) h := by
  show Relays i d.fromNormalized _ (if _ then _ else _) _
  split
  · trivial
  · exact (relays_notifyOthers hholds).bind (fun _ _ _ => trivial) fun _ _ _ => trivial

/-- A notice sends mail after it has listed the staff. -/
theorem relays_notifyStaff {libs : AppLibs} {ticket : Ticket} {assigneeUserId : Option String}
    {event : StaffEvent} {actor : Actor} {messageBody : Option String} :
    Relays i address (fun _ _ => True)
      (notifyStaff libs ticket assigneeUserId event actor messageBody) h := by
  unfold notifyStaff
  split
  · trivial
  refine ⟨trivial, fun r => ?_⟩
  rcases r with e | _ | inst
  · trivial
  · trivial
  refine ⟨trivial, fun r => ?_⟩
  cases r with
  | error e => trivial
  | ok memberships =>
      let K := fun h : List TicketEvent => ∃ ev ∈ h, ev.op.listsStaff = true
      have hfound : Prog.All (fun _ => True) (staffCandidates memberships) :=
        (total_staffCandidates memberships).all.mono fun _ _ => trivial
      refine (Sends.keeps (K := K) (hfound.bind fun found => ?_) ?_ ?_ ?_).post fun _ _ _ => trivial
      · cases found with
        | none => trivial
        | some candidates => exact (total_mailStaff ..).all.mono fun _ _ => trivial
      · rintro h op - ⟨ev, hev, hstaff⟩
        cases op with
        | sendRaw =>
            intro hnone
            rw [hnone ev hev] at hstaff
            cases hstaff
        | _ => trivial
      · rintro h op r - ⟨ev, hev, hstaff⟩
        exact ⟨ev, List.mem_append_left _ hev, hstaff⟩
      · exact ⟨_, List.mem_append_right _ (List.mem_singleton_self _), rfl⟩

theorem relays_deliverTo {d : Delivery} {resolved : Option Ticket}
    (hresolved : ∀ ticket ∈ resolved, Holds ticket h) :
    Relays i d.fromNormalized (fun _ _ => True) (deliverTo libs d resolved) h := by
  refine (relays_placeMessage hresolved).bind (fun placement h hplaced => ?_) fun _ _ _ => trivial
  refine relays_keeps (K := Holds placement.ticket) (mute_storeMessage ..)
    (fun hop hholds => hholds.more (not_reads_of_mute hop)) (hplaced placement rfl)
    (fun stored h hholds => ?_) fun _ _ => trivial
  refine (relays_relayMessage hholds).bind (fun _ h _ => ?_) fun _ _ _ => trivial
  exact relays_notifyStaff.bind (fun _ _ _ => trivial) fun _ _ _ => trivial

theorem relays_deliver {d : Delivery} (hno : NoTicket h) :
    Relays i d.fromNormalized (fun _ _ => True) (deliver libs d) h := by
  -- the resolution sends nothing, and leaves the ticket that it found as the last one read
  have hresolve : Relays i d.fromNormalized (Resolution i d.instanceId)
      (resolveTicket (d.mail.plan libs.lower) d.instanceId) h := by
    have hsilent := all_resolveTicket (P := fun op => op.mailless) (fun _ => rfl) (fun _ => rfl)
      (fun _ => rfl) (fun _ => rfl) (d.mail.plan libs.lower) d.instanceId
    have hknown : Orderly (.processRawMessage "" [] none) i (Resolution i d.instanceId)
        (resolveTicket (d.mail.plan libs.lower) d.instanceId) h :=
      orderly_resolveTicket d.instanceId (d.mail.plan libs.lower) hno
    exact (hknown.and (Sends.of_all (G := fun h op => op.relays d.fromNormalized h) hsilent
      relays_of_mailless)).mono (fun _ _ hG => hG.2) fun _ _ hQ => hQ.1
  refine hresolve.bind (fun lookup h hres => ?_) fun _ _ _ => trivial
  cases lookup with
  | crossTenant => trivial
  | notFound => exact relays_deliverTo nofun
  | found ticket =>
      refine relays_deliverTo fun ticket' hticket => ?_
      obtain rfl := Option.mem_some_iff.mp hticket
      exact fun _ => hres.2.2

/-- Every delivery relays to the others only. -/
theorem relays_processRawMessage {mail : ParsedMail} {fromRaw : String} (sesMessageId : String)
    {raw : List UInt8} (rawS3Key : Option String) (hparse : libs.parse raw = some mail)
    (hfrom : mail.fromAddress = some fromRaw) :
    Relays i (normalizeRecipient libs.lower fromRaw).address (fun _ _ => True)
      (processRawMessage libs sesMessageId raw rawS3Key) [] := by
  refine relays_before (p := send .clock) ⟨rfl, fun _ => trivial⟩ (fun ev hev => by cases hev)
    (fun now h hno => ?_) fun _ _ => trivial
  refine relays_before (all_require ⟨rfl, fun _ => trivial⟩) hno (fun claimed h hno => ?_)
    fun _ _ => trivial
  split
  · trivial
  rw [hparse]
  show Relays i _ _ (processMail libs mail rawS3Key now) h
  unfold processMail
  split
  · trivial
  refine relays_before (all_resolveKeys (fun _ => rfl) _) hno (fun found h hno => ?_) fun _ _ => trivial
  cases found with
  | none => trivial
  | some instanceId =>
  refine relays_before (all_require ⟨rfl, fun _ => trivial⟩) hno (fun inst h hno => ?_)
    fun _ _ => trivial
  split
  · trivial
  rw [hfrom]
  refine relays_before (all_resolveKeys (fun _ => rfl) _) hno (fun own h hno => ?_) fun _ _ => trivial
  cases own with
  | some own => trivial
  | none =>
      exact relays_deliver (d := ⟨mail, rawS3Key, instanceId,
        (normalizeRecipient libs.lower fromRaw).address, now⟩) hno

theorem relays_deliveryCall {mail : ParsedMail} {fromRaw : String} (sesMessageId : String)
    {raw : List UInt8} (rawS3Key : Option String) (hparse : libs.parse raw = some mail)
    (hfrom : mail.fromAddress = some fromRaw) :
    Relays i (normalizeRecipient libs.lower fromRaw).address (fun _ _ => True)
      (deliveryCall libs sesMessageId raw rawS3Key) [] :=
  (relays_processRawMessage sesMessageId rawS3Key hparse hfrom).bind (fun _ _ _ => trivial)
    fun _ _ _ => trivial

end deliveries

/-! ### Runs -/

/-- By the requests `h` of a delivery of `mail`, a CC is only added to a ticket that it was found to be
for and that does not have the sender among its people, and the message, if it is for a ticket that was
there, is not relayed to the sender. -/
structure RecognisesSender (libs : MailLibs) (i : ℕ) (mail : ParsedMail) (fromRaw : String)
    (h : List TicketEvent) : Prop where
  addsNone : ∀ id email now r, ⟨i, .updateTicket id (.addCc email now), r⟩ ∈ h →
    ∃ inst ticket, ticket.id = id ∧ FoundBy libs i mail inst h ticket ∧
      ∀ other ∈ ticket.people, ¬ SameAddress libs.lower other fromRaw
  relaysToOthers : ∀ pre mime recipients ccs r post,
    h = pre ++ ⟨i, .sendRaw mime recipients ccs, r⟩ :: post →
      (∀ ev ∈ pre, ev.op.listsStaff = false) → NoTicket pre →
      ∀ email ∈ recipients ++ ccs, ¬ SameAddress libs.lower email fromRaw

/-- A ticket that a message was found to be for was read. -/
theorem FoundBy.read {libs : MailLibs} {i : ℕ} {mail : ParsedMail} {inst : String}
    {h : List TicketEvent} {ticket : Ticket} (hfound : FoundBy libs i mail inst h ticket) :
    ∃ key, ⟨i, .getTicket key, .ok (some ticket)⟩ ∈ h := by
  cases hfound with
  | tag _ hrow => exact ⟨_, hrow⟩
  | messageId _ _ _ hrow => exact ⟨_, hrow⟩
  | number _ hrow => exact ⟨_, hrow.subset (List.mem_cons_of_mem _ (List.mem_singleton_self _))⟩

section runs
variable {fits : Item → Bool} {readOnly : Bool} {libs : MailLibs}
variable {c : Pool (ticketService fits readOnly) Error Reply}

/-- A delivery recognises its sender on tickets that store the sender as the delivery writes it. -/
theorem sender_recognised {i : ℕ} {sesMessageId : String} {raw : List UInt8}
    {rawS3Key : Option String} {mail : ParsedMail} {fromRaw : String}
    (hplays : c.Plays i
      ((TicketCall.processRawMessage sesMessageId raw rawS3Key).program libs))
    (hparse : libs.parse raw = some mail) (hfrom : mail.fromAddress = some fromRaw)
    (hstored : ∀ key ticket, ⟨i, .getTicket key, .ok (some ticket)⟩ ∈ c.trace.events →
      StoredAsSent libs.lower fromRaw ticket) :
    RecognisesSender libs i mail fromRaw (ownEvents i c.trace.events) := by
  obtain ⟨p, -, hpath⟩ := hplays
  have hown : ∀ {ev : TicketEvent} {pre post}, ownEvents i c.trace.events = pre ++ ev :: post →
      ∀ {x : TicketEvent}, x ∈ pre → x ∈ c.trace.events := by
    intro ev pre post hsplit x hx
    have hmem : x ∈ ownEvents i c.trace.events := by
      rw [hsplit]
      exact List.mem_append_left _ hx
    exact (mem_ownEvents.mp hmem).1
  constructor
  · intro id email now r hev
    obtain ⟨pre, post, hsplit⟩ := List.append_of_mem hev
    rw [hsplit] at hpath
    have hpermits : Permits libs i sesMessageId raw ([] ++ pre) (.updateTicket id (.addCc email now)) :=
      (sends_deliveryCall libs i sesMessageId raw rawS3Key).request hpath
    obtain ⟨mail', inst, haccepted, hwithin⟩ := hpermits.touches rfl
    have hmail : mail' = mail := Option.some.inj (haccepted.parsed.symm.trans hparse)
    subst hmail
    obtain ⟨hsent, ticket, hid, hfound, hinvolves⟩ := hwithin.2 email now rfl
    rw [List.nil_append] at hfound
    refine ⟨inst, ticket, hid, ?_, fun other hother hsame => ?_⟩
    · rw [hsplit]
      exact hfound.more _
    · obtain ⟨key, hread⟩ := hfound.read
      have hfinds := (storedAsSent_iff ⟨other, hother, hsame⟩).mp (hstored key ticket (hown hsplit hread))
      rw [ParsedMail.sentBy, hfrom, Option.map_some, Option.some.injEq] at hsent
      rw [hsent, hinvolves] at hfinds
      cases hfinds.1
  · intro pre mime recipients ccs r post hsplit hstaff hno email hemail hsame
    rw [hsplit] at hpath
    have hrelays : TicketOp.relays (normalizeRecipient libs.lower fromRaw).address ([] ++ pre)
        (.sendRaw mime recipients ccs) :=
      (relays_deliveryCall sesMessageId rawS3Key hparse hfrom).request hpath
    obtain ⟨ticket, hlast, hothers⟩ := hrelays hstaff hno
    obtain ⟨j, key, hread⟩ := lastTicket_mem hlast
    have hmem : (⟨j, .getTicket key, .ok (some ticket)⟩ : TicketEvent) ∈ ownEvents i c.trace.events := by
      rw [hsplit]
      exact List.mem_append_left _ hread
    obtain ⟨hevent, hcaller⟩ := mem_ownEvents.mp hmem
    have hj : j = i := hcaller
    subst hj
    have hother := hothers email hemail
    have hfinds := (storedAsSent_iff ⟨email, (mem_othersThan.mp hother).1, hsame⟩).mp
      (hstored key ticket hevent)
    exact hfinds.2 email hother hsame

end runs

/-! ### Sample runs

Kim's mail opens the ticket `r8`, a member adds Lee as a CC, and Lee answers to the reply address of
the ticket, all while Kim's message is not stored yet. -/

/-- Lee's answers, from an address with a tag and from one without. -/
def leesMails : List ParsedMail :=
  [plainMail "Lee+work@z.org" "Re: Printer" "l2@z.org" ["help+tr8.token8@desk.org"],
    plainMail "Lee@z.org" "Re: Printer" "l3@z.org" ["help+tr8.token8@desk.org"]]

def leesLibs : MailLibs :=
  { sampleMailLibs with parse := fun raw => raw.head?.bind fun n => (sampleMails ++ leesMails)[n.toNat]? }

def leeCall (call : TicketCall) : Move sampleTickets (IsTicketCall leesLibs) :=
  .start (call.program leesLibs) ⟨call, rfl⟩

def leeServes (i n count : ℕ) : List (Move sampleTickets (IsTicketCall leesLibs)) :=
  (List.range count).map fun k => .serve i (sampleTicketEnv (n + k))

/-- Lee is added to Kim's ticket as `email`. -/
def leeAdded (email : String) : TicketPool :=
  (Pool.init (S := sampleTickets) (emptyTickets sampleInstances sampleAddresses)).play
    ([leeCall (.processRawMessage "s1" [0] none)] ++ leeServes 0 0 9 ++
      [leeCall (.addTicketCc sampleMember "r8" email)] ++ leeServes 1 20 3)

/-- Lee answers with the message `n`. -/
def leeAnswers (email : String) (n : UInt8) : TicketPool :=
  (leeAdded email).play (leeCall (.processRawMessage "s2" [n] none) :: leeServes 2 30 20)

theorem leeAnswers_plays {email : String} {n : UInt8}
    (h : (leeAdded email).threads.length = 2 ∧
      (leeAdded email).trace.events.all fun ev => ev.caller ≠ 2) :
    TicketReachable (IsTicketCall leesLibs) (leeAnswers email n) ∧
      (leeAnswers email n).Plays 2 ((TicketCall.processRawMessage "s2" [n] none).program leesLibs) := by
  have hno : ∀ ev ∈ (leeAdded email).trace.events, ev.caller ≠ 2 := fun ev hev =>
    of_decide_eq_true (List.all_eq_true.mp h.2 ev hev)
  have hadded : Run sampleTickets (IsTicketCall leesLibs)
      (Pool.init (emptyTickets sampleInstances sampleAddresses)) (leeAdded email) := Pool.play_run _ _
  constructor
  · exact ⟨sampleInstances, sampleAddresses, hadded.trans (Pool.play_run _ _)⟩
  · rw [leeAnswers, Pool.play_cons (S := sampleTickets)]
    generalize leeAdded email = c at h hno
    have hrun := Pool.play_run (c.move (leeCall (.processRawMessage "s2" [n] none))) (leeServes 2 30 20)
    exact Pool.start_plays h.1 hno hrun

attribute [irreducible] leeAdded leeAnswers

/-- The tickets that a call has read. -/
def readBy (i : ℕ) (h : List TicketEvent) : List Ticket := (ownEvents i h).filterMap readTicket

theorem mem_readBy {i : ℕ} {h : List TicketEvent} {key : String} {ticket : Ticket}
    (hev : ⟨i, .getTicket key, .ok (some ticket)⟩ ∈ h) : ticket ∈ readBy i h := by
  have hown : ⟨i, .getTicket key, .ok (some ticket)⟩ ∈ ownEvents i h := mem_ownEvents.mpr ⟨hev, rfl⟩
  exact List.mem_filterMap.mpr ⟨_, hown, rfl⟩

theorem sender_recognised_sample :
    (∃ ticket ∈ readBy 2 (leeAnswers "lee@z.org" 5).trace.events,
      ∃ email ∈ ticket.people, SameAddress leesLibs.lower email "Lee@z.org") ∧
    ∃ mail, RecognisesSender leesLibs 2 mail "Lee@z.org"
      (ownEvents 2 (leeAnswers "lee@z.org" 5).trace.events) := by
  have hadded : (leeAdded "lee@z.org").threads.length = 2 ∧
      (leeAdded "lee@z.org").trace.events.all fun ev => ev.caller ≠ 2 := by decide +kernel
  have hreads : (∃ ticket ∈ readBy 2 (leeAnswers "lee@z.org" 5).trace.events,
      ∃ email ∈ ticket.people, SameAddress leesLibs.lower email "Lee@z.org") ∧
      ∀ ticket ∈ readBy 2 (leeAnswers "lee@z.org" 5).trace.events,
        ∀ email ∈ ticket.people, leesLibs.lower (trim email) = email := by decide +kernel
  refine ⟨hreads.1, _, sender_recognised (leeAnswers_plays hadded).2 rfl rfl fun key ticket hev => ?_⟩
  exact .of_lower (by decide +kernel) (hreads.2 ticket (mem_readBy hev))

/-- Lee is a CC of the ticket under an address with a tag: his own answer adds him once more. -/
theorem sender_unrecognised : ¬ ∀ (libs : MailLibs) (fits : Item → Bool) (readOnly : Bool)
    (c : Pool (ticketService fits readOnly) Error Reply) (i : ℕ) (sesMessageId : String)
    (raw : List UInt8) (rawS3Key : Option String) (mail : ParsedMail) (fromRaw : String),
    TicketReachable (IsTicketCall libs) c →
    c.Plays i ((TicketCall.processRawMessage sesMessageId raw rawS3Key).program libs) →
    libs.parse raw = some mail → mail.fromAddress = some fromRaw →
    RecognisesSender libs i mail fromRaw (ownEvents i c.trace.events) := by
  intro hclaim
  have hadded : (leeAdded "lee+work@z.org").threads.length = 2 ∧
      (leeAdded "lee+work@z.org").trace.events.all fun ev => ev.caller ≠ 2 := by decide +kernel
  obtain ⟨hreachable, hplays⟩ := leeAnswers_plays (n := 4) hadded
  have hfacts : (∃ ev ∈ ownEvents 2 (leeAnswers "lee+work@z.org" 4).trace.events,
      ev.op = .updateTicket "r8" (.addCc "lee@z.org" 130)) ∧
      ∀ ticket ∈ readBy 2 (leeAnswers "lee+work@z.org" 4).trace.events,
        ∃ email ∈ ticket.people, SameAddress leesLibs.lower email "Lee+work@z.org" := by
    decide +kernel
  obtain ⟨⟨⟨j, op, r⟩, hev, hop⟩, hparticipant⟩ := hfacts
  have hrecognises := hclaim leesLibs _ _ _ 2 "s2" [4] none _ "Lee+work@z.org" hreachable hplays
    rfl rfl
  obtain ⟨-, hj⟩ := mem_ownEvents.mp hev
  have hj : j = 2 := hj
  subst hj hop
  obtain ⟨inst, ticket, -, hfound, hnone⟩ := hrecognises.addsNone "r8" "lee@z.org" 130 r hev
  obtain ⟨key, hread⟩ := hfound.read
  obtain ⟨email, hemail, hsame⟩ := hparticipant ticket (mem_readBy (mem_ownEvents.mp hread).1)
  exact hnone email hemail hsame

end Microticket

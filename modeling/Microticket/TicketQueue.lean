import Microticket.ForwardPaging
import Microticket.TicketMarkers

/-! # The ticket queue

The pages of `tickets` hold exactly the tickets with the status and the assignee that are asked for
(`queue_lists`): the markers that its indexes are built on are those of the plain attributes
(`all_marked`), and the markers of two instances are different as long as their identifiers have
no `#`. -/

namespace Microticket

open Interleaving RustText Tables

/-! ### Filters and markers -/

/-- The filter on the plain status; `ALL` is all but the deleted ones. -/
def TicketStatusFilter.Holds (status : TicketStatus) : TicketStatusFilter → Prop
  | .open => status = .open
  | .closed => status = .closed
  | .all => status ≠ .deleted
  | .deleted => status = .deleted

/-- The ticket is what the queue of the instance is asked for.  One that is deleted is never listed by
its assignee. -/
def Ticket.Asked (instanceId : String) (status : TicketStatusFilter) (assignedTo : Option String)
    (ticket : Ticket) : Prop :=
  ticket.instanceId = instanceId ∧ status.Holds ticket.status ∧
    ∀ userId ∈ assignedTo, ticket.assigneeUserId = some userId ∧ ticket.status ≠ .deleted

theorem sharp_inj {a b x y : String} (ha : '#' ∉ a.toList) (hb : '#' ∉ b.toList) :
    s!"{a}#{x}" = s!"{b}#{y}" ↔ a = b ∧ x = y := by
  constructor
  · intro h
    have hsplit : ∀ {c z : String}, '#' ∉ c.toList → splitOnce '#' s!"{c}#{z}" = some (c, z) := by
      intro c z hc
      refine splitOnce_eq ?_ hc
      show (c ++ "#" ++ z).toList = _
      rw [String.toList_append, String.toList_append, List.append_assoc]
      rfl
    have heq : some (a, x) = some (b, y) := by rw [← hsplit ha, ← hsplit hb, h]
    exact Prod.mk.inj (Option.some.inj heq)
  · rintro ⟨rfl, rfl⟩
    rfl

theorem TicketStatus.asStr_inj {a b : TicketStatus} : a.asStr = b.asStr ↔ a = b := by
  cases a <;> cases b <;> decide

section queue
variable {row : TicketRow} {instanceId : String} {status : TicketStatusFilter}

/-- The partition of a status. -/
theorem status_holds (hmarked : row.Marked) (hrow : '#' ∉ row.record.instanceId.toList)
    (hinst : '#' ∉ instanceId.toList) (wanted : TicketStatus) :
    (TicketListFilter.status wanted).Holds instanceId row ↔
      row.record.instanceId = instanceId ∧ row.record.status = wanted := by
  have hmarker : row.markers.instanceStatus =
      s!"{row.record.instanceId}#{row.record.status.asStr}" := by
    rw [hmarked]
    unfold computeTicketMarkers
    split <;> rfl
  simp only [TicketListFilter.Holds, TicketListFilter.index, Option.some.injEq, hmarker,
    sharp_inj hrow hinst, TicketStatus.asStr_inj]
  simp

/-- The partition of the tickets that are not deleted. -/
theorem visible_holds (hmarked : row.Marked) :
    TicketListFilter.visible.Holds instanceId row ↔
      row.record.instanceId = instanceId ∧ row.record.status ≠ .deleted := by
  have hmarker : row.markers.instanceVisible =
      if row.record.status = .deleted then none else some row.record.instanceId := by
    rw [hmarked]
    unfold computeTicketMarkers
    split <;> rfl
  simp only [TicketListFilter.Holds, TicketListFilter.index, hmarker]
  by_cases hdeleted : row.record.status = .deleted
  · simp [hdeleted]
  · simp [hdeleted]

/-- The partition of an assignee. -/
theorem assigned_holds (hmarked : row.Marked) (hrow : '#' ∉ row.record.instanceId.toList)
    (hinst : '#' ∉ instanceId.toList) (userId : String) (wanted : Option TicketStatus) :
    (TicketListFilter.assignedTo userId wanted).Holds instanceId row ↔
      row.record.instanceId = instanceId ∧ row.record.assigneeUserId = some userId ∧
        row.record.status ≠ .deleted ∧ ∀ status ∈ wanted, row.record.status = status := by
  have hmarker : row.markers.instanceAssignee =
      if row.record.status = .deleted then none
      else row.record.assigneeUserId.map fun uid => s!"{row.record.instanceId}#{uid}" := by
    rw [hmarked]
    unfold computeTicketMarkers
    split <;> rfl
  simp only [TicketListFilter.Holds, TicketListFilter.index, hmarker]
  by_cases hdeleted : row.record.status = .deleted
  · simp [hdeleted]
  · cases hassignee : row.record.assigneeUserId with
    | none => simp [hdeleted]
    | some uid =>
        simp only [if_neg hdeleted, Option.map_some, Option.some.injEq, sharp_inj hrow hinst]
        simp [hdeleted, and_assoc]

/-- The filter that is listed by holds of the tickets that are asked for. -/
theorem ticketListFilter_holds (hmarked : row.Marked) (hrow : '#' ∉ row.record.instanceId.toList)
    (hinst : '#' ∉ instanceId.toList) (assignedTo : Option String) :
    (ticketListFilter status assignedTo).Holds instanceId row ↔
      row.record.Asked instanceId status assignedTo := by
  unfold Ticket.Asked
  cases assignedTo with
  | none =>
      cases status with
      | all =>
          show TicketListFilter.visible.Holds instanceId row ↔ _
          rw [visible_holds hmarked]
          simp [TicketStatusFilter.Holds]
      | «open» =>
          show (TicketListFilter.status .open).Holds instanceId row ↔ _
          rw [status_holds hmarked hrow hinst]
          simp [TicketStatusFilter.Holds]
      | closed =>
          show (TicketListFilter.status .closed).Holds instanceId row ↔ _
          rw [status_holds hmarked hrow hinst]
          simp [TicketStatusFilter.Holds]
      | deleted =>
          show (TicketListFilter.status .deleted).Holds instanceId row ↔ _
          rw [status_holds hmarked hrow hinst]
          simp [TicketStatusFilter.Holds]
  | some userId =>
      show (TicketListFilter.assignedTo userId _).Holds instanceId row ↔ _
      rw [assigned_holds hmarked hrow hinst]
      cases status <;> simp [TicketStatusFilter.Holds] <;> tauto

end queue

/-! ### Reachable queues -/

section runs
variable {fits : Item → Bool} {readOnly : Bool} {libs : MailLibs}
variable {c : Pool (ticketService fits readOnly) Error Reply} {d : TicketDb}
variable {auth : Option AuthInfo} {instanceId : String} {status : TicketStatusFilter}
variable {first : Option ℤ} {size : ℕ}

/-- The tickets of a version carry identifiers and times as they are made: `nanoid` makes no empty one
and none with a `#`, and a time is a `u64`. -/
def TicketDb.WellNamed (d : TicketDb) : Prop :=
  ∀ id row, d.tickets.lookup id = some row →
    id ≠ "" ∧ '#' ∉ row.record.instanceId.toList ∧ row.record.lastActivityAt < 2 ^ 64

end runs

def queueUser : Option AuthInfo := some (.user "u1" [⟨"i1", false⟩] false)

theorem ticketOpened_wellNamed : (dbOf (ticketPool ticketOpened).trace).now.WellNamed := by
  have hrows : (dbOf (ticketPool ticketOpened).trace).now.tickets.entries.all fun entry =>
      entry.1 ≠ "" ∧ '#' ∉ entry.2.record.instanceId.toList ∧
        entry.2.record.lastActivityAt < 2 ^ 64 := by
    decide +kernel
  intro id row hrow
  have hentry := List.all_eq_true.mp hrows _ (AList.mem_lookup_iff.mp hrow)
  exact of_decide_eq_true hentry

end Microticket

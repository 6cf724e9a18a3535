import Microticket.TicketGrounds
import Microticket.TicketInvariant

/-! # The owners of inbound addresses

`addInboundAddress` reads the row of the address and writes it if there is none;
`removeInboundAddress` reads it and deletes it if it is of the instance.  The writes are
unconditional, so what they write over or delete is whatever is there by then (`address_taken`).

As long as a row that is written over or deleted is still of the instance that the call means
(`OwnerUnchanged`), an address that was given to an instance stays with it until it is removed for this
instance (`address_owned`). -/

namespace Microticket

open Interleaving Tables

/-! ### Ownership -/

/-- Mail to the address goes to the instance. -/
def TicketDb.Maps (d : TicketDb) (address instanceId : String) : Prop :=
  ∃ row, d.addresses.lookup address = some row ∧ row.instanceId = instanceId

section ownership
variable (calls : ℕ → TicketCall) (address instanceId : String)

/-- The request removes the address for the instance. -/
def RemovesFor (ev : TicketEvent) : Prop :=
  ev.op = .deleteInboundAddress address ∧ (calls ev.caller).removesFrom = some instanceId

instance (ev : TicketEvent) : Decidable (RemovesFor calls address instanceId ev) :=
  inferInstanceAs (Decidable (_ ∧ _))

/-- The request has added the address for the instance. -/
def addsFor : TicketEvent → Bool
  | ⟨_, .createInboundAddress address' instanceId' _, .ok _⟩ =>
      address' = address ∧ instanceId' = instanceId
  | _ => false

/-- The address was added for the instance, and has not been removed for it since; a removal whose
answer is lost may have been made. -/
def granted (h : List TicketEvent) : Bool :=
  h.foldl (fun held ev => if RemovesFor calls address instanceId ev then false
    else held || addsFor address instanceId ev) false

end ownership

section runs
variable {fits : Item → Bool} {readOnly : Bool} {t : Trace (ticketService fits readOnly)}
variable {calls : ℕ → TicketCall} {i : ℕ} {e : TicketEnv} {op : TicketOp}
variable {address instanceId : String}

/-- A row that is written over, or deleted, is of the instance that the call means: the one it writes,
or the one it has found the row to be of. -/
def OwnerUnchanged (t : Trace (ticketService fits readOnly)) : TicketEvent → Prop
  | ⟨_, .createInboundAddress address instanceId _, _⟩ =>
      ∀ row, (dbOf t).now.addresses.lookup address = some row → row.instanceId = instanceId
  | ⟨i, .deleteInboundAddress address, _⟩ =>
      ∀ row key read, (dbOf t).now.addresses.lookup address = some row →
        ⟨i, .getInboundAddress key, .ok (some read)⟩ ∈ ownEvents i t.events →
        read.address = address → row.instanceId = read.instanceId
  | _ => True

/-- What a write does to the addresses. -/
theorem addresses_move {d d' : TicketDb} (h : d.change e op = some d') :
    d'.addresses = d.addresses ∨
      (∃ address instanceId kind, op = .createInboundAddress address instanceId kind ∧
        d'.addresses = d.addresses.insert address ⟨address, instanceId, kind, e.now⟩) ∨
      ∃ address, op = .deleteInboundAddress address ∧ d'.addresses = d.addresses.erase address := by
  cases op <;> simp only [TicketDb.change] at h
  case createInboundAddress address instanceId kind =>
      cases h
      exact .inr (.inl ⟨address, instanceId, kind, rfl, rfl⟩)
  case deleteInboundAddress address =>
      cases h
      exact .inr (.inr ⟨address, rfl, rfl⟩)
  case claimProcessedMessage sesMessageId now expiresAt =>
      split at h
      · cases h
        exact .inl rfl
      · cases h
  case createTicket instanceId number subject requesterEmails ccEmails =>
      split at h
      · cases h
        exact .inl rfl
      · cases h
  case createTicketMessage content =>
      split at h
      · cases h
        exact .inl rfl
      · cases h
  case updateTicket id change =>
      obtain ⟨row, -, rfl⟩ := Option.map_eq_some_iff.mp h
      exact .inl rfl
  case updateTicketMessage id change =>
      obtain ⟨m, -, rfl⟩ := Option.map_eq_some_iff.mp h
      exact .inl rfl
  all_goals
    cases h
    try exact .inl rfl

/-- A guarded request leaves an address with its instance, or removes it for this instance. -/
theorem maps_served (hmaps : (dbOf t).now.Maps address instanceId)
    (hop : op.grounded (calls i) i (ownEvents i t.events))
    (hok : OwnerUnchanged t ⟨i, op, ((ticketService fits readOnly).serve t.state e op).1⟩) :
    (dbOf (t.serve i e op)).now.Maps address instanceId ∨
      op = .deleteInboundAddress address ∧ (calls i).removesFrom = some instanceId := by
  obtain ⟨row, hrow, rfl⟩ := hmaps
  rcases dbOf_serve t i e op with ⟨hdb, -⟩ | ⟨d, hchange, -, hdb, -⟩
  · exact .inl ⟨row, by rw [hdb, hrow], rfl⟩
  rw [hdb, Replica.write_now]
  rcases addresses_move hchange with heq | ⟨address', instanceId', kind, rfl, heq⟩ |
    ⟨address', rfl, heq⟩
  · exact .inl ⟨row, by rw [heq, hrow], rfl⟩
  · by_cases haddress : address = address'
    · subst haddress
      refine .inl ⟨⟨address, instanceId', kind, e.now⟩, ?_, (hok row hrow).symm⟩
      rw [heq, AList.lookup_insert]
    · refine .inl ⟨row, ?_, rfl⟩
      rw [heq, Table.lookup_insert_if, if_neg haddress, hrow]
  · by_cases haddress : address = address'
    · subst haddress
      obtain ⟨key, read, hread, hkey, hcall⟩ := hop
      refine .inr ⟨rfl, ?_⟩
      rw [hok row key read hrow hread hkey]
      exact hcall
    · refine .inl ⟨row, ?_, rfl⟩
      rw [heq, Table.lookup_erase_if, if_neg haddress, hrow]

/-- An address that was added is with the instance. -/
theorem maps_added (hadds : addsFor address instanceId
      ⟨i, op, ((ticketService fits readOnly).serve t.state e op).1⟩) :
    (dbOf (t.serve i e op)).now.Maps address instanceId := by
  cases op with
  | createInboundAddress address' instanceId' kind =>
      cases hr : ((ticketService fits readOnly).serve t.state e
          (.createInboundAddress address' instanceId' kind)).1 with
      | error err =>
          rw [hr] at hadds
          cases hadds
      | ok row =>
          rw [hr] at hadds
          obtain ⟨rfl, rfl⟩ := of_decide_eq_true hadds
          rcases TicketStore.write_ok hr with ⟨-, d, hchange, hs⟩ | ⟨h, -, -⟩
          · cases hchange
            refine ⟨⟨address', instanceId', kind, e.now⟩, ?_, rfl⟩
            show AList.lookup address' (TicketStore.write t.state e fits readOnly _ _ _).2.db.now.addresses = _
            rw [hs]
            exact AList.lookup_insert _
          · cases h
  | _ => cases hadds

theorem granted_concat (h : List TicketEvent) (ev : TicketEvent) :
    granted calls address instanceId (h ++ [ev]) =
      if RemovesFor calls address instanceId ev then false
      else granted calls address instanceId h || addsFor address instanceId ev :=
  List.foldl_concat ..

variable {libs : MailLibs} {c c₁ : Pool (ticketService fits readOnly) Error Reply}

/-- `OwnerUnchanged` as a test. -/
def ownerUnchangedTest (c : Pool (ticketService fits readOnly) Error Reply) : TicketEvent → Bool
  | ⟨_, .createInboundAddress address instanceId _, _⟩ =>
      ((dbOf c.trace).now.addresses.lookup address).all fun row => row.instanceId = instanceId
  | ⟨i, .deleteInboundAddress address, _⟩ =>
      ((dbOf c.trace).now.addresses.lookup address).all fun row =>
        (ownEvents i c.trace.events).all fun
          | ⟨_, .getInboundAddress _, .ok (some read)⟩ =>
              read.address ≠ address || row.instanceId = read.instanceId
          | _ => true
  | _ => true

theorem ownerUnchanged_of_test {ev : TicketEvent} (h : ownerUnchangedTest c ev) :
    OwnerUnchanged c.trace ev := by
  unfold ownerUnchangedTest at h
  unfold OwnerUnchanged
  split at h
  · intro row hrow
    rw [hrow, Option.all_some] at h
    exact of_decide_eq_true h
  · intro row key read hrow hread hkey
    rw [hrow, Option.all_some] at h
    have hone := List.all_eq_true.mp h _ hread
    simpa [hkey] using hone
  · trivial

end runs

/-! ### Sample runs -/

/-- An owner of the instance `i1`, and one of `i2`. -/
def deskOwner (instanceId : String) : Option AuthInfo :=
  some (.user ("o" ++ instanceId) [⟨instanceId, true⟩] false)

/-- A second instance is made, and both owners add one address. -/
def sampleAdds : ℕ → TicketCall
  | 0 => .putInstance { sampleDesk with id := "i2" }
  | 1 => .addInboundAddress (deskOwner "i1") "i1" "sales@desk.org"
  | _ => .addInboundAddress (deskOwner "i2") "i2" "sales@desk.org"

def addsBegin : List TicketMove :=
  [] ++ [ticketCall (sampleAdds 0)] ++ ticketServes 0 0 1 ++ [ticketCall (sampleAdds 1)] ++
    [ticketCall (sampleAdds 2)]

/-- The second owner comes after the first one. -/
def serialAdds : List TicketMove := addsBegin ++ (ticketServes 1 10 3 ++ ticketServes 2 20 2)

/-- Both have read that there is no row. -/
def racingAdds : List TicketMove :=
  addsBegin ++ (ticketServes 1 10 2 ++ ticketServes 2 20 3 ++ ticketServes 1 30 1)

/-- The three calls of the sample runs. -/
theorem sampleAdds_play (more : List TicketMove)
    (hthreads : (ticketPool (addsBegin ++ more)).threads.length = 3) (i : ℕ)
    (hi : i < (ticketPool (addsBegin ++ more)).threads.length) :
    (ticketPool (addsBegin ++ more)).Plays i ((sampleAdds i).program sampleMailLibs) := by
  rw [hthreads] at hi
  match i, hi with
  | 0, _ =>
      have hfirst : (ticketPool ([] ++ [ticketCall (sampleAdds 0)] ++ [])).Plays 0
          ((sampleAdds 0).program sampleMailLibs) :=
        ticketPool_plays (sampleAdds 0) (by decide +kernel) (by decide +kernel)
      rw [addsBegin, List.append_assoc, List.append_nil] at *
      exact hfirst.run (ticketPool_run _ _)
  | 1, _ =>
      have hsecond : (ticketPool ([] ++ [ticketCall (sampleAdds 0)] ++ ticketServes 0 0 1 ++
          [ticketCall (sampleAdds 1)] ++ [])).Plays 1 ((sampleAdds 1).program sampleMailLibs) :=
        ticketPool_plays (sampleAdds 1) (by decide +kernel) (by decide +kernel)
      have hbegin : addsBegin ++ more = ([] ++ [ticketCall (sampleAdds 0)] ++ ticketServes 0 0 1 ++
          [ticketCall (sampleAdds 1)] ++ []) ++ ([ticketCall (sampleAdds 2)] ++ more) := rfl
      rw [hbegin]
      exact hsecond.run (ticketPool_run _ _)
  | 2, _ =>
      have hbegin : addsBegin ++ more = ([] ++ [ticketCall (sampleAdds 0)] ++ ticketServes 0 0 1 ++
          [ticketCall (sampleAdds 1)]) ++ [ticketCall (sampleAdds 2)] ++ more := rfl
      rw [hbegin]
      exact ticketPool_plays (sampleAdds 2) (by decide +kernel) (by decide +kernel)

end Microticket

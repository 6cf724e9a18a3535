import Microticket.InvoiceGrounds
import Microticket.MailIsolation
import Microticket.SystemStore
import Microticket.TicketAuthority
import Microticket.TicketGrounds

/-! # What a call has checked before it writes

The contracts of the three parts, for the programs over all tables (`SystemOp.grounded`): the history
of a call consists of requests of its own part.  A message, of a mutation or of a delivery, is stored
on a ticket that the call has read or opened (`Met`). -/

namespace Microticket

open Interleaving

/-! ### Events of one part -/

/-- A request of an administrative mutation. -/
def adminEvent (ev : AdminEvent) : SystemEvent := ⟨ev.caller, .admin ev.op, ev.res⟩

/-- A request of invoicing. -/
def invoiceEvent (ev : InvoiceEvent) : SystemEvent := ⟨ev.caller, .invoice ev.op, ev.res⟩

/-- A request of a program on tickets. -/
def ticketEvent (ev : TicketEvent) : SystemEvent := ⟨ev.caller, .ticket ev.op, ev.res⟩

/-! ### Tickets that were read or opened -/

/-- The call was answered with the ticket. -/
inductive Met (i : ℕ) (h : List TicketEvent) : String → Prop
  | read {key : String} {ticket : Ticket} (hread : ⟨i, .getTicket key, .ok (some ticket)⟩ ∈ h) :
      Met i h ticket.id
  | opened {instanceId subject : String} {number : ℕ} {requesterEmails ccEmails : List String}
      {ticket : Ticket}
      (hopened : ⟨i, .createTicket instanceId number subject requesterEmails ccEmails,
        .ok ticket⟩ ∈ h) : Met i h ticket.id

/-- A message is stored on such a ticket. -/
def TicketOp.onMet (i : ℕ) (h : List TicketEvent) : TicketOp → Prop
  | .createTicketMessage content => Met i h content.ticketId
  | _ => True

section met
variable {i : ℕ} {h : List TicketEvent} {op : TicketOp}

theorem Handles.met {auth : Option AuthInfo} {id : String} (hid : Handles auth i h id) :
    Met i h id := by
  cases hid with
  | read hread _ => exact .read hread
  | opened hopened _ => exact .opened hopened

theorem TicketOp.onMet_of_authorised {auth : Option AuthInfo} (hop : op.authorised auth i h) :
    op.onMet i h := by
  cases op with
  | createTicketMessage content => exact Handles.met hop
  | _ => trivial

theorem TicketOf.met {libs : MailLibs} {mail : ParsedMail} {inst id : String}
    (hid : TicketOf libs i mail inst h id) : Met i h id := by
  cases hid with
  | found hfound =>
      cases hfound with
      | tag _ hrow _ _ => exact .read hrow
      | messageId _ _ _ hrow _ => exact .read hrow
      | number _ hseq =>
          exact .read (hseq.subset (List.mem_cons_of_mem _ (List.mem_singleton_self _)))
  | created hev => exact .opened hev
  | reread _ hev => exact .read hev

theorem TicketOp.onMet_of_permits {libs : MailLibs} {sesMessageId : String} {raw : List UInt8}
    (hop : Permits libs i sesMessageId raw h op) : op.onMet i h := by
  cases op with
  | createTicketMessage content =>
      obtain ⟨mail, inst, -, hticket, -⟩ := hop.touches rfl
      exact hticket.met
  | _ => trivial

theorem onMet_call {call : TicketCall} {libs : MailLibs} (i : ℕ) :
    Sends i (fun h op => op.onMet i h) (fun _ _ => True) (call.program libs) [] := by
  by_cases hcall : call.isMutation
  · exact (authorised_mutation hcall i).mono (fun _ _ => TicketOp.onMet_of_authorised)
      fun _ _ _ => trivial
  · cases call with
    | putInstance inst => exact ⟨trivial, fun r => by cases r <;> trivial⟩
    | processRawMessage sesMessageId raw rawS3Key =>
        exact (sends_deliveryCall libs i sesMessageId raw rawS3Key).mono
          (fun _ _ => TicketOp.onMet_of_permits) fun _ _ _ => trivial
    | _ => exact absurd rfl hcall

end met

/-! ### The contract -/

/-- What the call has checked before the request. -/
def SystemOp.grounded (call : SystemCall) (i : ℕ) (h : List SystemEvent) : SystemOp → Prop
  | .admin op => ∃ own h₀, call = .admin own ∧ h = h₀.map adminEvent ∧ op.grounded own.auth i h₀
  | .invoice op =>
      ∃ own h₀, call = .invoice own ∧ h = h₀.map invoiceEvent ∧ op.grounded own.auth i h₀
  | .ticket op => ∃ own h₀, call = .ticket own ∧ h = h₀.map ticketEvent ∧ op.grounded own i h₀ ∧
      op.onMet i h₀ ∧ (own.isMutation → op.authorised own.auth i h₀)

/-- The requests of a program for `call` are grounded. -/
abbrev SystemGrounded {α : Type} (call : SystemCall) (i : ℕ) (p : SystemProg α)
    (h : List SystemEvent) : Prop :=
  Sends i (fun h op => op.grounded call i h) (fun _ _ => True) p h

section
variable {libs : SystemLibs} {α : Type}

theorem systemGrounded_admin {own : AdminCall} {i : ℕ} {p : AdminProg α}
    (hp : AdminGrounded own.auth i p []) :
    SystemGrounded (.admin own) i (p.translate AdminOp.system) [] := by
  have hsub : Sends i (fun h op => SystemOp.grounded (.admin own) i (h.map adminEvent) (.admin op))
      (fun _ _ => True) p [] :=
    hp.mono (fun h op hop => ⟨own, h, rfl, rfl, hop⟩) fun _ _ h => h
  refine (Sends.lift (φ := adminEvent) ?_ hsub).post fun _ _ _ => trivial
  exact fun hop => ⟨hop, fun r => ⟨r, rfl, rfl⟩⟩

theorem systemGrounded_invoice {own : InvoiceMutation} {i : ℕ} {p : InvoiceProg α}
    (hp : InvoiceGrounded own.auth i p []) :
    SystemGrounded (.invoice own) i (p.translate InvoiceOp.system) [] := by
  have hsub : Sends i (fun h op =>
      SystemOp.grounded (.invoice own) i (h.map invoiceEvent) (.invoice op)) (fun _ _ => True) p [] :=
    hp.mono (fun h op hop => ⟨own, h, rfl, rfl, hop⟩) fun _ _ h => h
  refine (Sends.lift (φ := invoiceEvent) ?_ hsub).post fun _ _ _ => trivial
  exact fun hop => ⟨hop, fun r => ⟨r, rfl, rfl⟩⟩

theorem systemGrounded_ticket {mail : MailLibs} (own : TicketCall) (i : ℕ) :
    SystemGrounded (.ticket own) i ((own.program mail).translate TicketOp.system) [] := by
  have hauth : Sends i (fun h op => own.isMutation → op.authorised own.auth i h)
      (fun _ _ => True) (own.program mail) [] := by
    cases hown : own.isMutation with
    | true => exact (authorised_mutation hown i).mono (fun _ _ hop _ => hop) fun _ _ _ => trivial
    | false => exact Sends.of_all (Prog.all_true _) fun _ hfalse => by cases hfalse
  have hall := ((grounded_call own i).and (onMet_call i)).and hauth
  have hsub : Sends i (fun h op => SystemOp.grounded (.ticket own) i (h.map ticketEvent) (.ticket op))
      (fun _ _ => True) (own.program mail) [] :=
    hall.mono (fun h op hop => ⟨own, h, rfl, rfl, hop.1.1, hop.1.2, hop.2⟩) fun _ _ _ => trivial
  refine (Sends.lift (φ := ticketEvent) ?_ hsub).post fun _ _ _ => trivial
  exact fun hop => ⟨hop, fun r => ⟨r, rfl, rfl⟩⟩

/-- The requests of every call are grounded. -/
theorem grounded_systemCall {call : SystemCall} (hcall : call.standsIn = false) (i : ℕ) :
    SystemGrounded call i (call.program libs) [] := by
  cases call with
  | admin own =>
      exact (systemGrounded_admin (grounded_adminCall own i)).next fun _ _ _ => trivial
  | invoice own =>
      have hown : own.standsIn = false := by
        cases own <;> first | rfl | exact hcall
      exact (systemGrounded_invoice (grounded_invoiceMutation hown i)).next fun _ _ _ => trivial
  | ticket own => exact (systemGrounded_ticket own i).next fun _ _ _ => trivial

end

end Microticket

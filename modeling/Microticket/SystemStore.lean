import Microticket.AdminMutations
import Microticket.InvoiceMutations
import Microticket.TicketInvariant
import Microticket.ProgTranslate

/-! # All tables with an instance

The services of the administrative mutations, of invoicing and of tickets as one: a `SystemOp` is a
request of one of them, and a `SystemCall` a mutation or an inbound mail.  Projects and instances are
those of the administrative mutations, for the other programs too, so their reads of them are
answered from there; the tables of the same names in the other two stores stay empty and are read by
nothing. -/

namespace Microticket

open Interleaving Tables

/-! ### Requests -/

/-- The requests. -/
inductive SystemOp where
  | admin (op : AdminOp)
  | invoice (op : InvoiceOp)
  | ticket (op : TicketOp)
  deriving DecidableEq

/-- The answer to a request. -/
@[reducible] def SystemOp.Res : SystemOp → Type
  | .admin op => op.Res
  | .invoice op => op.Res
  | .ticket op => op.Res

/-- A request with its answer. -/
abbrev SystemEvent : Type := Event SystemOp SystemOp.Res

/-- What the tables do not decide themselves. -/
structure SystemEnv where
  admin : AdminEnv
  invoices : InvoiceEnv
  tickets : TicketEnv

/-- The state. -/
structure SystemStore where
  admin : AdminStore
  invoices : InvoiceStore
  tickets : TicketStore

/-! ### The service -/

namespace SystemStore

variable (s : SystemStore) (e : SystemEnv)

/-- The instances and projects that a read sees. -/
def adminSeen : AdminDb := s.admin.db.seen e.admin.lag

/-- A request of invoicing. -/
def serveInvoice (readOnly : Bool) : (op : InvoiceOp) → op.Res × SystemStore
  | .getProject id => ((s.invoices.read e.invoices
      (((s.adminSeen e).projects.lookup id).map ProjectRow.toProject)).1, s)
  | .getInstance id => ((s.invoices.read e.invoices ((s.adminSeen e).instances.lookup id)).1, s)
  | op => ((s.invoices.serve e.invoices readOnly op).1,
      { s with invoices := (s.invoices.serve e.invoices readOnly op).2 })

/-- A request of a program on tickets. -/
def serveTicket (fits : Item → Bool) (readOnly : Bool) : (op : TicketOp) → op.Res × SystemStore
  | .getInstance id => ((s.tickets.read e.tickets ((s.adminSeen e).instances.lookup id)).1, s)
  | op => ((s.tickets.serve e.tickets fits readOnly op).1,
      { s with tickets := (s.tickets.serve e.tickets fits readOnly op).2 })

/-- Serve one request. -/
def serve (fits : Item → Bool) (readOnly : Bool) : (op : SystemOp) → op.Res × SystemStore
  | .admin op => ((s.admin.serve e.admin readOnly op).1,
      { s with admin := (s.admin.serve e.admin readOnly op).2 })
  | .invoice op => s.serveInvoice e readOnly op
  | .ticket op => s.serveTicket e fits readOnly op

end SystemStore

/-- The tables as a service. -/
@[reducible] def systemService (fits : Item → Bool) (readOnly : Bool) :
    Service SystemOp SystemOp.Res where
  State := SystemStore
  Env := SystemEnv
  Allowed s e := (adminService readOnly).Allowed s.admin e.admin ∧
    (invoiceService readOnly).Allowed s.invoices e.invoices ∧
    (ticketService fits readOnly).Allowed s.tickets e.tickets
  serve s e op := s.serve e fits readOnly op

instance (fits : Item → Bool) (readOnly : Bool) (s : (systemService fits readOnly).State)
    (e : (systemService fits readOnly).Env) :
    Decidable ((systemService fits readOnly).Allowed s e) :=
  inferInstanceAs (Decidable ((adminService readOnly).Allowed (SystemStore.admin s)
    (SystemEnv.admin e) ∧ (invoiceService readOnly).Allowed (SystemStore.invoices s)
    (SystemEnv.invoices e) ∧ (ticketService fits readOnly).Allowed (SystemStore.tickets s)
    (SystemEnv.tickets e)))

/-- The store before the first request. -/
def emptySystemStore : SystemStore :=
  ⟨⟨⟨⟨∅, ∅, ∅, ∅, ∅⟩, []⟩⟩, ⟨⟨⟨∅, ∅, ∅, ∅, ∅⟩, []⟩, []⟩, ⟨⟨⟨∅, ∅, ∅, ∅, ∅, ∅⟩, []⟩, []⟩⟩

/-! ### What a request does -/

section served
variable {fits : Item → Bool} {readOnly : Bool}

/-- A request changes the tables of one part, as this part does alone. -/
inductive SystemStore.Move (s : SystemStore) (e : SystemEnv) : SystemOp → SystemStore → Prop
  | same {op} : Move s e op s
  | admin {op d} (hreads : op.reads = false) (hchange : s.admin.db.now.change e.admin op = .ok d) :
      Move s e (.admin op) { s with admin := ⟨s.admin.db.write d⟩ }
  | invoice {op d} (hchange : s.invoices.db.now.change e.invoices op = some d) :
      Move s e (.invoice op) { s with
        invoices := ⟨s.invoices.db.write d, e.invoices.newId :: s.invoices.minted⟩ }
  | ticket {op d} (hchange : s.tickets.db.now.change e.tickets op = some d) :
      Move s e (.ticket op) { s with
        tickets := ⟨s.tickets.db.write d, e.tickets.newId :: s.tickets.minted⟩ }

theorem SystemStore.serve_move (s : SystemStore) (e : SystemEnv) (fits : Item → Bool)
    (readOnly : Bool) (op : SystemOp) : s.Move e op (s.serve e fits readOnly op).2 := by
  rcases op with op | op | op
  · show s.Move e _ { s with admin := (s.admin.serve e.admin readOnly op).2 }
    rcases s.admin.serve_state e.admin readOnly op with heq | ⟨hreads, d, hd, heq⟩
    · rw [heq]
      exact .same
    · rw [heq]
      exact .admin hreads hd
  · have hserve : ∀ op : InvoiceOp, s.Move e (.invoice op)
        { s with invoices := (s.invoices.serve e.invoices readOnly op).2 } := by
      intro op
      rcases InvoiceStore.serve_state readOnly s.invoices e.invoices op with heq | ⟨-, d, hd, heq⟩
      · rw [heq]
        exact .same
      · rw [heq]
        exact .invoice hd
    cases op with
    | getProject | getInstance => exact .same
    | _ => exact hserve _
  · have hserve : ∀ op : TicketOp, s.Move e (.ticket op)
        { s with tickets := (s.tickets.serve e.tickets fits readOnly op).2 } := by
      intro op
      rcases s.tickets.serve_moved e.tickets fits readOnly op with heq | ⟨d, hd, -, heq⟩
      · rw [heq]
        exact .same
      · rw [heq]
        exact .ticket hd
    cases op with
    | getInstance => exact .same
    | _ => exact hserve _

end served

/-! ### The system -/

/-- A program over these tables. -/
abbrev SystemProg (α : Type) : Type := Prog SystemOp SystemOp.Res Error α

def AdminOp.system (op : AdminOp) : SystemProg op.Res := .call (.admin op) .done
def InvoiceOp.system (op : InvoiceOp) : SystemProg op.Res := .call (.invoice op) .done
def TicketOp.system (op : TicketOp) : SystemProg op.Res := .call (.ticket op) .done

/-- What the calls use of other crates. -/
structure SystemLibs where
  admin : CodeLibs
  invoices : InvoiceLibs
  mail : MailLibs

/-- The calls: the mutations and inbound mail. -/
inductive SystemCall where
  | admin (call : AdminCall)
  | invoice (m : InvoiceMutation)
  | ticket (call : TicketCall)

/-- Not a call here: a write of an instance or a project that stands for an administrative mutation
where invoicing or tickets are looked at alone. -/
def SystemCall.standsIn : SystemCall → Bool
  | .invoice (.putProject _) | .invoice (.putInstance _) | .ticket (.putInstance _) => true
  | _ => false

/-- What a call returns. -/
inductive SystemReply where
  | admin (reply : AdminReply)
  | invoiceDone
  | ticket (reply : Reply)
  deriving DecidableEq

/-- The program of a call. -/
def SystemCall.program (libs : SystemLibs) : SystemCall → SystemProg SystemReply
  | .admin call => (call.prog libs.admin).translate AdminOp.system >>= fun reply =>
      .done (.admin reply)
  | .invoice m => (m.prog libs.invoices).translate InvoiceOp.system >>= fun _ => .done .invoiceDone
  | .ticket call => (call.program libs.mail).translate TicketOp.system >>= fun reply =>
      .done (.ticket reply)

/-- The programs that take part in a run. -/
def IsSystemCall (libs : SystemLibs) (p : SystemProg SystemReply) : Prop :=
  ∃ call : SystemCall, call.standsIn = false ∧ call.program libs = p

/-- A pool reached by any interleaving of the calls, from empty tables. -/
def SystemReachable (libs : SystemLibs) (fits : Item → Bool) (readOnly : Bool)
    (c : Pool (systemService fits readOnly) Error SystemReply) : Prop :=
  Run (systemService fits readOnly) (IsSystemCall libs) (Pool.init emptySystemStore) c

end Microticket
